import Mathlib.Algebra.BigOperators.Group.List.Basic
import Mathlib.Data.List.Forall2

/-!
# Bodies of transactions

A body returns the new state or throws; what throws is rolled back. A loop in a
body runs its step for each item and throws with the first step that does.
-/

namespace Transactions

variable {ε σ α : Type}

/-- The state after the transaction. -/
def transaction (s : σ) (body : Except ε σ) : σ :=
  match body with
  | .ok s' => s'
  | .error _ => s

@[simp] theorem transaction_ok (s s' : σ) : transaction s (.ok s' : Except ε σ) = s' := rfl

@[simp] theorem transaction_error (s : σ) (e : ε) : transaction s (.error e) = s := rfl

def throwWhen (c : Prop) [Decidable c] (e : ε) : Except ε Unit := if c then .error e else .ok ()

def found (o : Option α) (e : ε) : Except ε α :=
  match o with
  | some a => .ok a
  | none => .error e

theorem throwWhen_eq_ok {c : Prop} [Decidable c] {e : ε} {u : Unit} :
    throwWhen c e = .ok u ↔ ¬c := by
  unfold throwWhen
  by_cases h : c <;> simp [h]

theorem found_eq_ok {o : Option α} {e : ε} {a : α} : found o e = .ok a ↔ o = some a := by
  unfold found
  cases o <;> simp

theorem eq_ok_of_toOption {x : Except ε α} {a : α} (h : x.toOption = some a) : x = .ok a := by
  cases x with
  | error e => cases h
  | ok b =>
    cases h
    rfl

theorem exists_of_toOption {β : Type} {f : α → β} {x : Except ε α} {b : β}
    (h : x.toOption.map f = some b) : ∃ a, x = .ok a ∧ f a = b := by
  cases x with
  | error e => cases h
  | ok a => exact ⟨a, rfl, Option.some.inj h⟩

theorem exists_of_isOk {x : Except ε α} (h : x.isOk = true) : ∃ a, x = .ok a := by
  cases x with
  | error e => cases h
  | ok a => exact ⟨a, rfl⟩

/-! ### Loops -/

def forEach (f : σ → α → Except ε σ) (s : σ) : List α → Except ε σ
  | [] => .ok s
  | x :: xs =>
    match f s x with
    | .ok s' => forEach f s' xs
    | .error e => .error e

variable {f : σ → α → Except ε σ}

theorem forEach_cons_eq_ok {s s' : σ} {x : α} {xs : List α} :
    forEach f s (x :: xs) = .ok s' ↔ ∃ m, f s x = .ok m ∧ forEach f m xs = .ok s' := by
  rw [forEach]
  cases f s x <;> simp

/-- What every step keeps, the loop keeps. -/
theorem forEach_invariant {I : σ → Prop} {xs : List α}
    (hstep : ∀ s s' x, x ∈ xs → I s → f s x = .ok s' → I s') {s s' : σ}
    (h : forEach f s xs = .ok s') (hs : I s) : I s' := by
  induction xs generalizing s with
  | nil =>
    cases h
    exact hs
  | cons x xs ih =>
    obtain ⟨m, hm, h⟩ := forEach_cons_eq_ok.1 h
    exact ih (fun s s' y hy => hstep s s' y (List.mem_cons_of_mem x hy)) h
      (hstep s m x List.mem_cons_self hs hm)

/-- What a list of bodies returns, each of them returned in its place. -/
theorem forall₂_of_mapM_eq_ok {β : Type} {g : α → Except ε β} {xs : List α} {ys : List β}
    (h : xs.mapM g = .ok ys) : List.Forall₂ (fun x y => g x = .ok y) xs ys := by
  induction xs generalizing ys with
  | nil =>
    rw [List.mapM_nil] at h
    cases h
    exact .nil
  | cons x xs ih =>
    rw [List.mapM_cons] at h
    cases hx : g x with
    | error e =>
      rw [hx] at h
      cases h
    | ok z =>
      rw [hx] at h
      cases hxs : xs.mapM g with
      | error e =>
        rw [hxs] at h
        cases h
      | ok zs =>
        rw [hxs] at h
        cases h
        exact .cons hx (ih hxs)

/-- What a list of bodies returns, one of them returned. -/
theorem exists_of_mapM_eq_ok {β : Type} {g : α → Except ε β} {xs : List α} {ys : List β}
    (h : xs.mapM g = .ok ys) {y : β} (hy : y ∈ ys) : ∃ x ∈ xs, g x = .ok y := by
  have hall := forall₂_of_mapM_eq_ok h
  clear h
  induction hall with
  | nil => cases hy
  | cons hx _ ih =>
    rcases List.mem_cons.1 hy with rfl | hy
    · exact ⟨_, List.mem_cons_self, hx⟩
    · obtain ⟨x', hx', hy'⟩ := ih hy
      exact ⟨x', List.mem_cons_of_mem _ hx', hy'⟩

/-- One of a list of bodies, when all returned. -/
theorem exists_mem_of_mapM_eq_ok {β : Type} {g : α → Except ε β} {xs : List α} {ys : List β}
    (h : xs.mapM g = .ok ys) {x : α} (hx : x ∈ xs) : ∃ y ∈ ys, g x = .ok y := by
  have hall := forall₂_of_mapM_eq_ok h
  clear h
  induction hall with
  | nil => cases hx
  | cons hhead _ ih =>
    rcases List.mem_cons.1 hx with rfl | hx
    · exact ⟨_, List.mem_cons_self, hhead⟩
    · obtain ⟨y, hy, hxy⟩ := ih hx
      exact ⟨y, List.mem_cons_of_mem _ hy, hxy⟩

end Transactions
