import Mathlib.Algebra.BigOperators.Group.List.Basic
import Mathlib.Data.List.Basic
import Mathlib.Data.List.Nodup
import Mathlib.Data.List.Perm.Basic
import Mathlib.Tactic.Abel
import Mathlib.Tactic.Common

/-!
# Tables with a unique key

`upsert` replaces the row that has the key of a new row, or appends it;
`upsertAll` does so row by row. `insertNew` keeps the row that is there.
-/

namespace KeyedTable

variable {α κ : Type*} [DecidableEq κ] (key : α → κ)

def upsert : List α → α → List α
  | [], x => [x]
  | y :: t, x => if key y = key x then x :: t else y :: upsert t x

def upsertAll (t xs : List α) : List α := xs.foldl (upsert key) t

def insertNew (t : List α) (x : α) : List α :=
  if key x ∈ t.map key then t else t ++ [x]

def firstOfEach (xs : List α) : List α := xs.foldl (insertNew key) []

/-- The last row of each key, at the place of the first. -/
def lastOfEach (xs : List α) : List α := upsertAll key [] xs

variable {key}

theorem mem_keys_upsert {t : List α} {x : α} {k : κ} :
    k ∈ (upsert key t x).map key ↔ k ∈ t.map key ∨ k = key x := by
  induction t with
  | nil => simp [upsert]
  | cons y t ih =>
    by_cases hy : key y = key x
    · rw [upsert, if_pos hy, List.map_cons, List.map_cons, List.mem_cons, List.mem_cons, hy]
      tauto
    · rw [upsert, if_neg hy, List.map_cons, List.map_cons, List.mem_cons, List.mem_cons, ih]
      tauto

theorem mem_keys_upsertAll {t xs : List α} {k : κ} :
    k ∈ (upsertAll key t xs).map key ↔ k ∈ t.map key ∨ k ∈ xs.map key := by
  induction xs generalizing t with
  | nil => simp [upsertAll]
  | cons x xs ih =>
    change k ∈ (upsertAll key (upsert key t x) xs).map key ↔ _
    rw [ih, mem_keys_upsert, List.map_cons, List.mem_cons]
    tauto

theorem mem_keys_lastOfEach {xs : List α} {k : κ} :
    k ∈ (lastOfEach key xs).map key ↔ k ∈ xs.map key := by
  rw [lastOfEach, mem_keys_upsertAll]
  simp

theorem mem_keys_firstOfEach {xs : List α} {k : κ} :
    k ∈ (firstOfEach key xs).map key ↔ k ∈ xs.map key := by
  have hall : ∀ t, k ∈ (xs.foldl (insertNew key) t).map key ↔ k ∈ t.map key ∨ k ∈ xs.map key := by
    induction xs with
    | nil => simp
    | cons x xs ih =>
      intro t
      rw [List.foldl_cons, ih, insertNew]
      split_ifs with hx
      · rw [List.map_cons, List.mem_cons]
        constructor
        · tauto
        · rintro (h | rfl | h)
          · exact Or.inl h
          · exact Or.inl hx
          · exact Or.inr h
      · simp only [List.map_append, List.mem_append, List.map_cons, List.map_nil, List.mem_cons,
          List.not_mem_nil, or_false]
        tauto
  rw [firstOfEach, hall]
  simp

theorem upsert_subset {t : List α} {x y : α} (h : y ∈ upsert key t x) : y = x ∨ y ∈ t := by
  induction t with
  | nil => exact Or.inl (by simpa [upsert] using h)
  | cons z t ih =>
    by_cases hz : key z = key x
    · rw [upsert, if_pos hz] at h
      rcases List.mem_cons.1 h with rfl | h
      · exact Or.inl rfl
      · exact Or.inr (List.mem_cons_of_mem _ h)
    · rw [upsert, if_neg hz] at h
      rcases List.mem_cons.1 h with rfl | h
      · exact Or.inr List.mem_cons_self
      · exact (ih h).imp_right (List.mem_cons_of_mem _)

theorem upsertAll_subset {t xs : List α} {y : α} (h : y ∈ upsertAll key t xs) :
    y ∈ xs ∨ y ∈ t := by
  induction xs generalizing t with
  | nil => exact Or.inr h
  | cons x xs ih =>
    rcases ih (t := upsert key t x) h with h | h
    · exact Or.inl (List.mem_cons_of_mem _ h)
    · rcases upsert_subset h with rfl | h
      · exact Or.inl List.mem_cons_self
      · exact Or.inr h

theorem lastOfEach_subset {xs : List α} {y : α} (h : y ∈ lastOfEach key xs) : y ∈ xs :=
  (upsertAll_subset h).resolve_right (by simp)

theorem insertAllNew_subset {t xs : List α} {y : α} (h : y ∈ xs.foldl (insertNew key) t) :
    y ∈ t ∨ y ∈ xs := by
  induction xs generalizing t with
  | nil => exact Or.inl h
  | cons x xs ih =>
    rcases ih h with h | h
    · rw [insertNew] at h
      split_ifs at h
      · exact Or.inl h
      · rcases List.mem_append.1 h with h | h
        · exact Or.inl h
        · exact Or.inr (List.mem_singleton.1 h ▸ List.mem_cons_self)
    · exact Or.inr (List.mem_cons_of_mem _ h)

theorem firstOfEach_subset {xs : List α} {y : α} (h : y ∈ firstOfEach key xs) : y ∈ xs :=
  (insertAllNew_subset h).resolve_left (by simp)

theorem mem_upsert_of_key_ne {t : List α} {x y : α} (hy : y ∈ t) (hne : key y ≠ key x) :
    y ∈ upsert key t x := by
  induction t with
  | nil => cases hy
  | cons z t ih =>
    by_cases hz : key z = key x
    · rw [upsert, if_pos hz]
      rcases List.mem_cons.1 hy with rfl | hy
      · exact absurd hz hne
      · exact List.mem_cons_of_mem _ hy
    · rw [upsert, if_neg hz]
      rcases List.mem_cons.1 hy with rfl | hy
      · exact List.mem_cons_self
      · exact List.mem_cons_of_mem _ (ih hy)

theorem not_mem_upsert {t : List α} {x y : α} (hunique : (t.map key).Nodup) (hy : y ∈ t)
    (hkey : key y = key x) (hne : y ≠ x) : y ∉ upsert key t x := by
  induction t with
  | nil => cases hy
  | cons z t ih =>
    rw [List.map_cons, List.nodup_cons] at hunique
    by_cases hz : key z = key x
    · rw [upsert, if_pos hz]
      intro h
      rcases List.mem_cons.1 h with h | h
      · exact hne h
      · exact hunique.1 (List.mem_map.2 ⟨y, h, hkey.trans hz.symm⟩)
    · rw [upsert, if_neg hz]
      intro h
      rcases List.mem_cons.1 h with rfl | h
      · exact hz hkey
      · rcases List.mem_cons.1 hy with rfl | hy
        · exact hz hkey
        · exact ih hunique.2 hy h

theorem nodup_keys_upsert {t : List α} {x : α} (hunique : (t.map key).Nodup) :
    ((upsert key t x).map key).Nodup := by
  induction t with
  | nil => simp [upsert]
  | cons z t ih =>
    rw [List.map_cons, List.nodup_cons] at hunique
    by_cases hz : key z = key x
    · rw [upsert, if_pos hz, List.map_cons, List.nodup_cons, ← hz]
      exact hunique
    · rw [upsert, if_neg hz, List.map_cons, List.nodup_cons, mem_keys_upsert]
      exact ⟨not_or.2 ⟨hunique.1, hz⟩, ih hunique.2⟩

/-- A row stays when and only when no row with its key is written. -/
theorem mem_upsertAll_iff {t xs : List α} {y : α} (hunique : (t.map key).Nodup) (hy : y ∈ t)
    (hnew : y ∉ xs) : y ∈ upsertAll key t xs ↔ key y ∉ xs.map key := by
  induction xs generalizing t with
  | nil => simp [upsertAll, hy]
  | cons x xs ih =>
    change y ∈ upsertAll key (upsert key t x) xs ↔ _
    rw [List.mem_cons, not_or] at hnew
    rw [List.map_cons, List.mem_cons, not_or]
    by_cases hkey : key y = key x
    · have hgone : y ∉ upsertAll key (upsert key t x) xs := fun h =>
        (upsertAll_subset h).elim hnew.2 (not_mem_upsert hunique hy hkey hnew.1)
      exact iff_of_false hgone fun h => h.1 hkey
    · rw [ih (nodup_keys_upsert hunique) (mem_upsert_of_key_ne hy hkey) hnew.2]
      exact (and_iff_right hkey).symm

theorem mem_upsertAll_of_not_mem_keys {t xs : List α} {y : α} (hy : y ∈ t)
    (hkey : key y ∉ xs.map key) : y ∈ upsertAll key t xs := by
  induction xs generalizing t with
  | nil => exact hy
  | cons x xs ih =>
    rw [List.map_cons, List.mem_cons, not_or] at hkey
    exact ih (mem_upsert_of_key_ne hy hkey.1) hkey.2

/-- After the rows are written, a row with one of their keys is one of them. -/
theorem mem_of_mem_upsertAll {t xs : List α} {y : α} (hunique : (t.map key).Nodup)
    (h : y ∈ upsertAll key t xs) (hkey : key y ∈ xs.map key) : y ∈ xs := by
  rcases upsertAll_subset h with hnew | hold
  · exact hnew
  · by_contra hnew
    exact (mem_upsertAll_iff hunique hold hnew).1 h hkey

theorem nodup_keys_upsertAll {t xs : List α} (hunique : (t.map key).Nodup) :
    ((upsertAll key t xs).map key).Nodup := by
  induction xs generalizing t with
  | nil => exact hunique
  | cons x xs ih => exact ih (nodup_keys_upsert hunique)

theorem upsert_eq_append {t : List α} {x : α} (h : key x ∉ t.map key) :
    upsert key t x = t ++ [x] := by
  induction t with
  | nil => rfl
  | cons y t ih =>
    rw [List.map_cons, List.mem_cons, not_or] at h
    rw [upsert, if_neg (Ne.symm h.1), ih h.2, List.cons_append]

theorem upsertAll_eq_append {t xs : List α} (h : ((t ++ xs).map key).Nodup) :
    upsertAll key t xs = t ++ xs := by
  induction xs generalizing t with
  | nil => rw [List.append_nil]; rfl
  | cons x xs ih =>
    have hx : key x ∉ t.map key := by
      intro hx
      rw [List.map_append, List.nodup_append] at h
      exact h.2.2 _ hx _ (List.mem_map_of_mem List.mem_cons_self) rfl
    have hrest := ih (t := t ++ [x]) (by rwa [List.append_assoc])
    rw [upsertAll, List.foldl_cons, upsert_eq_append hx]
    rwa [List.append_assoc] at hrest

theorem lastOfEach_of_nodup {xs : List α} (h : (xs.map key).Nodup) : lastOfEach key xs = xs :=
  upsertAll_eq_append h

/-! ### Reading a table by its key -/

variable (key) in
def lookup (t : List α) (k : κ) : Option α := t.find? fun x => key x = k

variable (key) in
/-- The last row written with a key. -/
def lastWith (xs : List α) (k : κ) : Option α := lookup key xs.reverse k

theorem lookup_cons (t : List α) (x : α) (k : κ) :
    lookup key (x :: t) k = if key x = k then some x else lookup key t k := by
  unfold lookup
  by_cases h : key x = k <;> simp [h]

theorem lookup_upsert (t : List α) (x : α) (k : κ) :
    lookup key (upsert key t x) k = if key x = k then some x else lookup key t k := by
  induction t with
  | nil => exact lookup_cons [] x k
  | cons y t ih =>
    by_cases hy : key y = key x
    · rw [upsert, if_pos hy, lookup_cons, lookup_cons, hy]
      split_ifs <;> rfl
    · rw [upsert, if_neg hy, lookup_cons, lookup_cons, ih]
      by_cases hk : key x = k
      · have hyk : key y ≠ k := hk ▸ hy
        rw [if_neg hyk, if_pos hk, if_pos hk]
      · simp only [if_neg hk]

theorem lookup_append (t u : List α) (k : κ) :
    lookup key (t ++ u) k = (lookup key t k).or (lookup key u k) := List.find?_append

theorem lookup_upsertAll (t xs : List α) (k : κ) :
    lookup key (upsertAll key t xs) k = (lastWith key xs k).or (lookup key t k) := by
  induction xs generalizing t with
  | nil => rfl
  | cons x xs ih =>
    have hlast : lastWith key (x :: xs) k = (lastWith key xs k).or (lookup key [x] k) := by
      rw [lastWith, List.reverse_cons, lookup_append]
      rfl
    change lookup key (upsertAll key (upsert key t x) xs) k = _
    rw [ih, lookup_upsert, hlast, lookup_cons]
    by_cases hk : key x = k
    · simp [hk]
    · simp [hk, lookup]

theorem lookup_eq_some {t : List α} {x : α} {k : κ} (h : lookup key t k = some x) :
    x ∈ t ∧ key x = k :=
  ⟨List.mem_of_find?_eq_some h, by simpa using List.find?_some h⟩

theorem lookup_eq_none {t : List α} {k : κ} : lookup key t k = none ↔ k ∉ t.map key := by
  rw [lookup, List.find?_eq_none, List.mem_map]
  simp only [decide_eq_true_eq, not_exists, not_and]

/-- With distinct keys the row with a key is the row that is found. -/
theorem lookup_of_mem {t : List α} (hunique : (t.map key).Nodup) {x : α} (hx : x ∈ t) :
    lookup key t (key x) = some x := by
  cases h : lookup key t (key x) with
  | none => exact absurd (List.mem_map_of_mem hx) (lookup_eq_none.1 h)
  | some y =>
    obtain ⟨hy, hkey⟩ := lookup_eq_some h
    rw [List.inj_on_of_nodup_map hunique hy hx hkey]

theorem lookup_map {t : List α} {f : α → α} (hf : ∀ x, key (f x) = key x) (k : κ) :
    lookup key (t.map f) k = (lookup key t k).map f := by
  unfold lookup
  rw [List.find?_map]
  congr 2
  funext x
  rw [Function.comp_apply, hf]

theorem lastWith_eq_some {xs : List α} {x : α} {k : κ} (h : lastWith key xs k = some x) :
    x ∈ xs ∧ key x = k := by
  obtain ⟨hx, hkey⟩ := lookup_eq_some h
  exact ⟨List.mem_reverse.1 hx, hkey⟩

theorem lastWith_eq_none {xs : List α} {k : κ} : lastWith key xs k = none ↔ k ∉ xs.map key := by
  rw [lastWith, lookup_eq_none, List.map_reverse, List.mem_reverse]

theorem lastWith_of_mem {xs : List α} (hunique : (xs.map key).Nodup) {x : α} (hx : x ∈ xs) :
    lastWith key xs (key x) = some x := by
  apply lookup_of_mem
  · rw [List.map_reverse]
    exact List.nodup_reverse.2 hunique
  · exact List.mem_reverse.2 hx

theorem nodup_keys_firstOfEach (xs : List α) : ((firstOfEach key xs).map key).Nodup := by
  have hall : ∀ t : List α, (t.map key).Nodup → ((xs.foldl (insertNew key) t).map key).Nodup := by
    induction xs with
    | nil => exact fun t ht => ht
    | cons x xs ih =>
      intro t ht
      rw [List.foldl_cons]
      apply ih
      rw [insertNew]
      split_ifs with hx
      · exact ht
      · rw [List.map_append, List.map_singleton]
        apply ht.append (List.nodup_singleton _)
        intro k hk hkx
        rw [List.mem_singleton] at hkx
        exact hx (hkx ▸ hk)
  exact hall [] List.nodup_nil

/-! ### Distinct values -/

theorem mem_firstOfEach_id {xs : List κ} {k : κ} : k ∈ firstOfEach id xs ↔ k ∈ xs := by
  have h : k ∈ (firstOfEach id xs).map id ↔ k ∈ xs.map id := mem_keys_firstOfEach
  rwa [List.map_id, List.map_id] at h

theorem nodup_firstOfEach_id (xs : List κ) : (firstOfEach id xs).Nodup := by
  have h : ((firstOfEach id xs).map id).Nodup := nodup_keys_firstOfEach xs
  rwa [List.map_id] at h

theorem map_upsert {β : Type*} {f : α → β} {key' : β → κ} (hf : ∀ x, key' (f x) = key x)
    (t : List α) (x : α) : (upsert key t x).map f = upsert key' (t.map f) (f x) := by
  induction t with
  | nil => rfl
  | cons y t ih =>
    by_cases hy : key y = key x
    · rw [upsert, if_pos hy, List.map_cons, List.map_cons, upsert, if_pos (by rw [hf, hf, hy])]
    · rw [upsert, if_neg hy, List.map_cons, List.map_cons, upsert, if_neg (by rwa [hf, hf]), ih]

theorem keys_upsert_of_mem {t : List α} {x : α} (h : key x ∈ t.map key) :
    (upsert key t x).map key = t.map key := by
  induction t with
  | nil => cases h
  | cons y t ih =>
    by_cases hy : key y = key x
    · rw [upsert, if_pos hy, List.map_cons, List.map_cons, hy]
    · rw [List.map_cons, List.mem_cons] at h
      rw [upsert, if_neg hy, List.map_cons, List.map_cons, ih (h.resolve_left (Ne.symm hy))]

/-- Of two rows written with one key the second stays. -/
theorem upsert_upsert {t : List α} {x y : α} (h : key x = key y) :
    upsert key (upsert key t x) y = upsert key t y := by
  induction t with
  | nil => simp [upsert, h]
  | cons z t ih =>
    by_cases hz : key z = key x
    · rw [upsert, if_pos hz, upsert, if_pos h, upsert, if_pos (hz.trans h)]
    · rw [upsert, if_neg hz, upsert, if_neg (h ▸ hz), upsert, if_neg (h ▸ hz), ih]

/-- Writing a key that the table has replaces its row. -/
theorem upsert_eq_map {t : List α} (hunique : (t.map key).Nodup) {x : α}
    (hx : key x ∈ t.map key) :
    upsert key t x = t.map fun y => if key y = key x then x else y := by
  induction t with
  | nil => cases hx
  | cons y t ih =>
    rw [List.map_cons, List.nodup_cons] at hunique
    by_cases hy : key y = key x
    · have hothers : t.map (fun z => if key z = key x then x else z) = t.map id := by
        apply List.map_congr_left
        intro z hz
        exact if_neg fun hzx => hunique.1 (List.mem_map.2 ⟨z, hz, hzx.trans hy.symm⟩)
      rw [upsert, if_pos hy, List.map_cons, if_pos hy, hothers, List.map_id]
    · rw [List.map_cons, List.mem_cons] at hx
      rw [upsert, if_neg hy, List.map_cons, if_neg hy, ih hunique.2 (hx.resolve_left (Ne.symm hy))]

/-- A total over a table changes by the row that is written less the row it replaces. -/
theorem sum_map_upsert {M : Type*} [AddCommGroup M] (w : α → M) {t : List α} {x y : α}
    (h : lookup key t (key x) = some y) :
    ((upsert key t x).map w).sum = (t.map w).sum + (w x - w y) := by
  induction t with
  | nil => cases h
  | cons z t ih =>
    rw [lookup_cons] at h
    by_cases hz : key z = key x
    · rw [if_pos hz, Option.some_inj] at h
      rw [upsert, if_pos hz, List.map_cons, List.map_cons, List.sum_cons, List.sum_cons, h]
      abel
    · rw [if_neg hz] at h
      rw [upsert, if_neg hz, List.map_cons, List.map_cons, List.sum_cons, List.sum_cons, ih h,
        add_assoc]

/-! ### Tables up to the order of their rows -/

/-- An upsert leaves the written row and the rows with other keys. -/
theorem upsert_perm {t : List α} (hunique : (t.map key).Nodup) (x : α) :
    (upsert key t x).Perm (x :: t.filter fun y => key y ≠ key x) := by
  induction t with
  | nil => exact List.Perm.refl _
  | cons y t ih =>
    rw [List.map_cons, List.nodup_cons] at hunique
    by_cases hy : key y = key x
    · have hothers : (t.filter fun z => key z ≠ key x) = t := by
        rw [List.filter_eq_self]
        intro z hz
        apply decide_eq_true
        intro hzx
        exact hunique.1 (List.mem_map.2 ⟨z, hz, hzx.trans hy.symm⟩)
      rw [upsert, if_pos hy, List.filter_cons_of_neg (by simp [hy]), hothers]
    · rw [upsert, if_neg hy, List.filter_cons_of_pos (by simp [hy])]
      exact ((ih hunique.2).cons y).trans (List.Perm.swap x y _)

/-- An id that no row has. -/
def freshId (ids : List ℕ) : ℕ := ids.foldr max 0 + 1

theorem freshId_not_mem (ids : List ℕ) : freshId ids ∉ ids := by
  intro h
  have hle : ∀ js : List ℕ, ∀ i ∈ js, i ≤ js.foldr max 0 := by
    intro js i hi
    induction js with
    | nil => cases hi
    | cons j js ih =>
      rw [List.foldr_cons]
      rcases List.mem_cons.1 hi with rfl | hi
      · omega
      · have := ih hi
        omega
  have := hle ids _ h
  unfold freshId at this
  omega

end KeyedTable
