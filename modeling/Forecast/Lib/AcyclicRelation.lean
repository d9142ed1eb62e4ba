import Mathlib.Data.Finset.Card
import Mathlib.Logic.Relation

/-!
# Relations without cycles

Edges that leave one vertex close no cycle when their ends do not lead back to it. A
relation without cycles whose edges leave finitely many vertices is well founded.
-/

namespace AcyclicRelation

open Relation

variable {α : Type*} {R R' : α → α → Prop}

def Acyclic (R : α → α → Prop) : Prop := ∀ a, ¬TransGen R a a

theorem acyclic_of_forall_not (h : ∀ a b, ¬R a b) : Acyclic R := by
  intro a hcycle
  obtain ⟨b, hstep, -⟩ := TransGen.head'_iff.1 hcycle
  exact h a b hstep

/-- Edges along which a rank goes down close no cycle. -/
theorem acyclic_of_rank (rank : α → ℕ) (h : ∀ a b, R a b → rank b < rank a) : Acyclic R := by
  have hpath : ∀ {a b}, TransGen R a b → rank b < rank a := by
    intro a b hab
    induction hab with
    | single hstep => exact h _ _ hstep
    | tail _ hstep ih => exact (h _ _ hstep).trans ih
  intro a hcycle
  exact lt_irrefl _ (hpath hcycle)

theorem Acyclic.mono (hR : Acyclic R) (h : ∀ a b, R' a b → R a b) : Acyclic R' :=
  fun a hcycle => hR a (TransGen.mono h a a hcycle)

/-- Without a cycle, and with edges that leave finitely many vertices only, every path ends. -/
theorem Acyclic.wellFounded (hR : Acyclic R) (sources : Finset α)
    (hsources : ∀ a b, R a b → a ∈ sources) : WellFounded (flip R) := by
  classical
  let rank := fun a => (sources.filter fun c => ReflTransGen R a c).card
  have hrank : ∀ b a, R a b → rank b < rank a := by
    intro b a hstep
    apply Finset.card_lt_card
    rw [Finset.ssubset_iff_of_subset]
    · refine ⟨a, Finset.mem_filter.2 ⟨hsources a b hstep, .refl⟩, fun hmem => ?_⟩
      exact hR a (TransGen.head' hstep (Finset.mem_filter.1 hmem).2)
    · intro c hc
      obtain ⟨hsource, hpath⟩ := Finset.mem_filter.1 hc
      exact Finset.mem_filter.2 ⟨hsource, hpath.head hstep⟩
  exact Subrelation.wf (fun {b a} h => hrank b a h) (measure rank).wf

theorem not_reflTransGen_of_forall_not {a b : α} (h : ∀ c, ¬R a c) (hne : a ≠ b) :
    ¬ReflTransGen R a b := by
  intro hpath
  rcases ReflTransGen.cases_head hpath with rfl | ⟨c, hstep, -⟩
  · exact hne rfl
  · exact h c hstep

/-- A path through new edges out of `p` leads to `p` by old edges, and ends by old edges
after the last new one. -/
theorem transGen_of_edges {p : α} {S : α → Prop}
    (hedges : ∀ a b, R' a b → R a b ∨ (a = p ∧ S b)) {a b : α} (h : TransGen R' a b) :
    TransGen R a b ∨ (ReflTransGen R a p ∧ ∃ c, S c ∧ ReflTransGen R c b) := by
  induction h with
  | single hstep =>
    rcases hedges _ _ hstep with hold | ⟨rfl, hnew⟩
    · exact Or.inl (.single hold)
    · exact Or.inr ⟨.refl, _, hnew, .refl⟩
  | tail hpath hstep ih =>
    rcases hedges _ _ hstep with hold | ⟨rfl, hnew⟩
    · rcases ih with hpath | ⟨hto, c, hc, hfrom⟩
      · exact Or.inl (hpath.tail hold)
      · exact Or.inr ⟨hto, c, hc, hfrom.tail hold⟩
    · rcases ih with hpath | ⟨hto, -⟩
      · exact Or.inr ⟨hpath.to_reflTransGen, _, hnew, .refl⟩
      · exact Or.inr ⟨hto, _, hnew, .refl⟩

theorem Acyclic.of_edges (hR : Acyclic R) {p : α} {S : α → Prop}
    (hedges : ∀ a b, R' a b → R a b ∨ (a = p ∧ S b)) (hS : ∀ c, S c → ¬ReflTransGen R c p) :
    Acyclic R' := by
  intro a hcycle
  rcases transGen_of_edges hedges hcycle with hold | ⟨hto, c, hc, hfrom⟩
  · exact hR a hold
  · exact hS c hc (hfrom.trans hto)

end AcyclicRelation
