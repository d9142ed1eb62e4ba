import Forecast.Lib.Runs

/-!
# Threads that interleave over a shared state

A program says how a call starts a thread, what a thread's next step does to the
shared state, and what the surroundings may do. An outline assigns assertions to
the shared state, to each thread and to each pair of threads; it holds throughout
a run when every action keeps it.
-/

namespace ThreadPool

structure Program (S T C F E : Type*) where
  /-- The thread a call starts; none when the call cannot be made now. -/
  start : S → List T → C → Option T
  /-- One step of a thread; `F` says how the step may fail. -/
  advance : S → T → F → S × T
  env : S → E → S

structure Config (S T : Type*) where
  shared : S
  threads : List T

inductive Action (C F E : Type*) where
  | spawn (call : C)
  | step (i : ℕ) (fault : F)
  | env (event : E)

variable {S T C F E : Type*}

namespace Program

variable (P : Program S T C F E)

/-- A step of a thread that does not exist and a call that cannot be made do nothing. -/
def next (cfg : Config S T) : Action C F E → Config S T
  | .spawn call =>
    match P.start cfg.shared cfg.threads call with
    | some t => { cfg with threads := cfg.threads ++ [t] }
    | none => cfg
  | .step i fault =>
    match cfg.threads[i]? with
    | some t =>
      { shared := (P.advance cfg.shared t fault).1
        threads := cfg.threads.set i (P.advance cfg.shared t fault).2 }
    | none => cfg
  | .env event => { cfg with shared := P.env cfg.shared event }

theorem next_spawn {cfg : Config S T} {call : C} {t : T}
    (h : P.start cfg.shared cfg.threads call = some t) :
    P.next cfg (.spawn call : Action C F E) = { cfg with threads := cfg.threads ++ [t] } := by
  rw [next, h]

theorem next_step {cfg : Config S T} {i : ℕ} {fault : F} {t : T} (h : cfg.threads[i]? = some t) :
    P.next cfg (.step i fault) =
      { shared := (P.advance cfg.shared t fault).1
        threads := cfg.threads.set i (P.advance cfg.shared t fault).2 } := by
  rw [next, h]

/-- What every permitted step does to the shared state, in one place: an invariant of it needs
no assertions about the threads. -/
theorem shared_next {I : S → Prop} {G : Config S T → Action C F E → Prop}
    (hstep : ∀ cfg i fault t, I cfg.shared → G cfg (.step i fault) →
      cfg.threads[i]? = some t → I (P.advance cfg.shared t fault).1)
    (henv : ∀ cfg event, I cfg.shared → G cfg (.env event) → I (P.env cfg.shared event))
    {cfg : Config S T} {action : Action C F E} (h : I cfg.shared) (hgood : G cfg action) :
    I (P.next cfg action).shared := by
  cases action with
  | spawn call =>
    cases hcall : P.start cfg.shared cfg.threads call with
    | none => simpa only [next, hcall] using h
    | some t => simpa only [next, hcall] using h
  | step i fault =>
    cases ht : cfg.threads[i]? with
    | none => simpa only [next, ht] using h
    | some t =>
      rw [P.next_step ht]
      exact hstep cfg i fault t h hgood ht
  | env event => exact henv cfg event h hgood

end Program

/-- Assertions on the shared state, on a thread, and on two different threads. -/
structure Outline (S T : Type*) where
  inv : S → Prop
  asserts : S → T → Prop
  pair : T → T → Prop
  symm : ∀ t u, pair t u → pair u t

namespace Outline

variable (O : Outline S T)

structure Holds (cfg : Config S T) : Prop where
  inv : O.inv cfg.shared
  asserts : ∀ (i : ℕ) (t : T), cfg.threads[i]? = some t → O.asserts cfg.shared t
  pair : ∀ (i j : ℕ) (t u : T), i ≠ j → cfg.threads[i]? = some t → cfg.threads[j]? = some u → O.pair t u

/-- What a new thread owes the outline. -/
def StartOk (P : Program S T C F E) (G : Config S T → Action C F E → Prop) : Prop :=
  ∀ cfg call t, O.Holds cfg → G cfg (.spawn call) →
    P.start cfg.shared cfg.threads call = some t →
    O.asserts cfg.shared t ∧ ∀ (i : ℕ) (u : T), cfg.threads[i]? = some u → O.pair t u

/-- What a step owes the outline: its own thread's next assertion, and that it disturbs no
other thread's. -/
def StepOk (P : Program S T C F E) (G : Config S T → Action C F E → Prop) : Prop :=
  ∀ cfg i fault t, O.Holds cfg → G cfg (.step i fault) → cfg.threads[i]? = some t →
    O.inv (P.advance cfg.shared t fault).1 ∧
      O.asserts (P.advance cfg.shared t fault).1 (P.advance cfg.shared t fault).2 ∧
      ∀ (j : ℕ) (u : T), j ≠ i → cfg.threads[j]? = some u →
        O.asserts (P.advance cfg.shared t fault).1 u ∧ O.pair (P.advance cfg.shared t fault).2 u

/-- What the surroundings owe the outline. -/
def EnvOk (P : Program S T C F E) (G : Config S T → Action C F E → Prop) : Prop :=
  ∀ cfg event, O.Holds cfg → G cfg (.env event) →
    O.inv (P.env cfg.shared event) ∧
      ∀ (i : ℕ) (t : T), cfg.threads[i]? = some t → O.asserts (P.env cfg.shared event) t

variable {O} {P : Program S T C F E} {G : Config S T → Action C F E → Prop}

theorem Holds.next_spawn (hstart : O.StartOk P G) {cfg : Config S T} {call : C}
    (h : O.Holds cfg) (hgood : G cfg (.spawn call)) : O.Holds (P.next cfg (.spawn call)) := by
  cases hcall : P.start cfg.shared cfg.threads call with
  | none => simpa only [Program.next, hcall] using h
  | some t =>
    obtain ⟨hat, hpair⟩ := hstart cfg call t h hgood hcall
    rw [P.next_spawn hcall]
    have hold : ∀ i u, (cfg.threads ++ [t])[i]? = some u →
        cfg.threads[i]? = some u ∨ i = cfg.threads.length ∧ u = t := by
      intro i u hu
      rcases Nat.lt_trichotomy i cfg.threads.length with hi | hi | hi
      · rw [List.getElem?_append_left hi] at hu
        exact Or.inl hu
      · subst hi
        exact Or.inr ⟨rfl, by simpa using hu.symm⟩
      · rw [List.getElem?_eq_none (by simp; omega)] at hu
        cases hu
    refine ⟨h.inv, fun i u hu => ?_, fun i j u v hij hu hv => ?_⟩
    · rcases hold i u hu with hu | ⟨-, rfl⟩
      · exact h.asserts i u hu
      · exact hat
    · rcases hold i u hu with hu' | ⟨hi, rfl⟩ <;> rcases hold j v hv with hv' | ⟨hj, rfl⟩
      · exact h.pair i j u v hij hu' hv'
      · exact O.symm _ _ (hpair i u hu')
      · exact hpair j v hv'
      · exact absurd (hi.trans hj.symm) hij

theorem Holds.next_step (hstep : O.StepOk P G) {cfg : Config S T} {i : ℕ} {fault : F}
    (h : O.Holds cfg) (hgood : G cfg (.step i fault)) :
    O.Holds (P.next cfg (.step i fault)) := by
  cases ht : cfg.threads[i]? with
  | none => simpa only [Program.next, ht] using h
  | some t =>
    obtain ⟨hinv, hat, hothers⟩ := hstep cfg i fault t h hgood ht
    rw [P.next_step ht]
    have hlt : i < cfg.threads.length := (List.getElem?_eq_some_iff.1 ht).1
    refine ⟨hinv, fun j u hu => ?_, fun j k u v hjk hu hv => ?_⟩
    · by_cases hij : i = j
      · subst hij
        rw [List.getElem?_set_self hlt] at hu
        obtain rfl := Option.some.inj hu
        exact hat
      · rw [List.getElem?_set_ne hij] at hu
        exact (hothers j u (Ne.symm hij) hu).1
    · by_cases hij : i = j
      · subst hij
        rw [List.getElem?_set_self hlt] at hu
        rw [List.getElem?_set_ne hjk] at hv
        obtain rfl := Option.some.inj hu
        exact (hothers k v (Ne.symm hjk) hv).2
      · rw [List.getElem?_set_ne hij] at hu
        by_cases hik : i = k
        · subst hik
          rw [List.getElem?_set_self hlt] at hv
          obtain rfl := Option.some.inj hv
          exact O.symm _ _ (hothers j u (Ne.symm hij) hu).2
        · rw [List.getElem?_set_ne hik] at hv
          exact h.pair j k u v hjk hu hv

/-- An outline whose obligations are met holds throughout every permitted run. -/
theorem Holds.next (hstart : O.StartOk P G) (hstep : O.StepOk P G) (henv : O.EnvOk P G)
    {cfg : Config S T} {action : Action C F E} (h : O.Holds cfg) (hgood : G cfg action) :
    O.Holds (P.next cfg action) := by
  cases action with
  | spawn call => exact h.next_spawn hstart hgood
  | step i fault => exact h.next_step hstep hgood
  | env event =>
    obtain ⟨hinv, hat⟩ := henv cfg event h hgood
    exact ⟨hinv, hat, h.pair⟩

theorem holds_initial {s : S} (h : O.inv s) : O.Holds ⟨s, []⟩ :=
  ⟨h, fun _ _ ht => by simp at ht, fun _ _ _ _ _ ht => by simp at ht⟩

end Outline

end ThreadPool
