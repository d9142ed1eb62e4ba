import Mathlib.Logic.Function.Basic

/-!
# Read-through caches

A cache takes up the value of a key at the first read and is never cleared: later
reads return that value, whatever the store then holds.
-/

namespace ReadThrough

variable {K V : Type*}

abbrev Cache (K V : Type*) := K → Option V

/-- What a read returns. -/
def read (cache : Cache K V) (load : K → V) (key : K) : V := (cache key).getD (load key)

/-- Every value in the cache is one that a read of its key may have found. -/
def Holds (P : K → V → Prop) (cache : Cache K V) : Prop := ∀ key, ∀ v ∈ cache key, P key v

theorem holds_empty (P : K → V → Prop) : Holds P fun _ => none := fun _ _ h => absurd h (by simp)

theorem Holds.mono {P Q : K → V → Prop} {cache : Cache K V} (h : Holds P cache)
    (hPQ : ∀ key v, P key v → Q key v) : Holds Q cache := fun key v hv => hPQ key v (h key v hv)

variable {P : K → V → Prop} {cache : Cache K V} {load : K → V}

theorem Holds.read (h : Holds P cache) {key : K} (hload : P key (load key)) :
    P key (read cache load key) := by
  unfold ReadThrough.read
  cases hkey : cache key with
  | none => exact hload
  | some v => exact h key v hkey

variable [DecidableEq K]

def fill (cache : Cache K V) (load : K → V) (key : K) : Cache K V :=
  Function.update cache key (some (read cache load key))

theorem Holds.fill (h : Holds P cache) {key : K} (hload : P key (load key)) :
    Holds P (fill cache load key) := by
  intro k v hv
  unfold ReadThrough.fill at hv
  by_cases hk : k = key
  · subst hk
    rw [Function.update_self, Option.mem_some_iff] at hv
    exact hv ▸ h.read hload
  · rw [Function.update_of_ne hk] at hv
    exact h k v hv

end ReadThrough
