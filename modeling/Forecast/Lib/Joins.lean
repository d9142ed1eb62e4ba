import Mathlib.Algebra.BigOperators.Group.List.Basic
import Mathlib.Data.List.Dedup
import Mathlib.Data.List.Nodup
import Mathlib.Data.List.Perm.Basic
import Mathlib.Data.List.Perm.Lattice
import Mathlib.Data.List.ReduceOption
import Mathlib.Tactic.Common

/-!
# Joins, grouping and sums over rows that may be null

A left join gives every row at least one partner, a null where nothing matches. It takes no row
away: where at most one partner can match, joining leaves the rows on the left as they were,
whatever its condition says. When every joined row carries the key of the row it comes from, the
rows of one key are those that this row was joined to.

A full join has the rows of a left join and, next to them, the rows on the right that match
nothing. Two tables with one row for each key, joined by the key, give one row for each key of
either. A result with an order and a limit is the beginning of any arrangement that the order
allows; without an order it is any selection of that size.
-/

namespace LeftJoin

variable {α β κ : Type*}

/-- The partners of a row, or none when nothing matches. -/
def leftJoin (matching : List α) : List (Option α) :=
  if matching.isEmpty then [none] else matching.map some

theorem leftJoin_eq_singleton {matching : List α} {o : Option α} :
    leftJoin matching = [o] ↔ matching.length ≤ 1 ∧ matching.head? = o := by
  cases matching with
  | nil => simp [leftJoin]
  | cons a rest =>
    cases rest with
    | nil => simp [leftJoin]
    | cons b rest => simp [leftJoin]

section Keys

variable [DecidableEq κ] {xs : List α} {rows : α → List β} {key : α → κ} {keyOf : β → κ}

theorem filter_flatMap_of_notMem (hkey : ∀ x ∈ xs, ∀ r ∈ rows x, keyOf r = key x) {k : κ}
    (hk : k ∉ xs.map key) : (xs.flatMap rows).filter (fun r => keyOf r = k) = [] := by
  rw [List.filter_eq_nil_iff]
  intro r hr
  obtain ⟨x, hx, hrow⟩ := List.mem_flatMap.1 hr
  rw [decide_eq_true_eq, hkey x hx r hrow]
  exact fun h => hk (h ▸ List.mem_map_of_mem hx)

theorem filter_flatMap_of_mem (hkey : ∀ x ∈ xs, ∀ r ∈ rows x, keyOf r = key x)
    (hnodup : (xs.map key).Nodup) {x : α} (hx : x ∈ xs) :
    (xs.flatMap rows).filter (fun r => keyOf r = key x) = rows x := by
  induction xs with
  | nil => cases hx
  | cons y ys ih =>
    rw [List.map_cons, List.nodup_cons] at hnodup
    rw [List.flatMap_cons, List.filter_append]
    have hrest : ∀ z ∈ ys, ∀ r ∈ rows z, keyOf r = key z := fun z hz =>
      hkey z (List.mem_cons_of_mem y hz)
    have hhead : ∀ r ∈ rows y, keyOf r = key y := hkey y List.mem_cons_self
    rcases List.mem_cons.1 hx with rfl | hx
    · rw [filter_flatMap_of_notMem hrest hnodup.1, List.append_nil, List.filter_eq_self]
      exact fun r hr => decide_eq_true (hhead r hr)
    · have hnone : (rows y).filter (fun r => keyOf r = key x) = [] := by
        rw [List.filter_eq_nil_iff]
        intro r hr
        rw [decide_eq_true_eq, hhead r hr]
        exact fun h => hnodup.1 (h ▸ List.mem_map_of_mem hx)
      rw [hnone, List.nil_append, ih hrest hnodup.2 hx]

end Keys

end LeftJoin

namespace OuterJoin

variable {α β κ M : Type*}

/-- What a row is joined with: the rows that match it, or a null. -/
def partners (on : α → β → Bool) (ys : List β) (x : α) : List (Option β) :=
  LeftJoin.leftJoin (ys.filter (on x))

def leftJoin (on : α → β → Bool) (xs : List α) (ys : List β) : List (α × Option β) :=
  xs.flatMap fun x => (partners on ys x).map (Prod.mk x)

def groupBy [DecidableEq κ] (key : α → κ) (rows : List α) : List (κ × List α) :=
  (rows.map key).dedup.map fun k => (k, rows.filter fun row => key row = k)

/-- Nulls do not count towards a sum, and a sum of nothing but nulls is null. -/
def sum [Zero M] [Add M] (values : List (Option M)) : Option M :=
  match values.reduceOption with
  | [] => none
  | v :: rest => some (v :: rest).sum

section LeftJoin

variable {on : α → β → Bool} {xs : List α} {ys : List β}

theorem partners_eq_map_some {x : α} (h : ys.filter (on x) ≠ []) :
    partners on ys x = (ys.filter (on x)).map some := by
  rw [partners, LeftJoin.leftJoin, if_neg (by rwa [List.isEmpty_iff])]

theorem partners_eq_null {x : α} (h : ys.filter (on x) = []) : partners on ys x = [none] := by
  rw [partners, h]
  rfl

theorem reduceOption_partners (x : α) : (partners on ys x).reduceOption = ys.filter (on x) := by
  by_cases h : ys.filter (on x) = []
  · rw [partners_eq_null h, h]
    rfl
  · rw [partners_eq_map_some h, List.reduceOption, List.filterMap_map]
    exact List.filterMap_some

theorem partners_ne_nil (x : α) : partners on ys x ≠ [] := by
  by_cases h : ys.filter (on x) = []
  · simp [partners_eq_null h]
  · simpa [partners_eq_map_some h] using h

theorem length_partners {x : α} (h : (ys.filter (on x)).length ≤ 1) :
    (partners on ys x).length = 1 := by
  by_cases hnone : ys.filter (on x) = []
  · rw [partners_eq_null hnone]
    rfl
  · rw [partners_eq_map_some hnone, List.length_map]
    exact Nat.le_antisymm h (List.length_pos_of_ne_nil hnone)

/-- Joining with at most one partner a row changes nothing on the left. -/
theorem map_fst_leftJoin (h : ∀ x ∈ xs, (ys.filter (on x)).length ≤ 1) :
    (leftJoin on xs ys).map Prod.fst = xs := by
  induction xs with
  | nil => rfl
  | cons x xs ih =>
    obtain ⟨partner, hpartner⟩ :=
      List.length_eq_one_iff.1 (length_partners (h x List.mem_cons_self))
    have hrest := ih fun y hy => h y (List.mem_cons_of_mem _ hy)
    rw [leftJoin, List.flatMap_cons, List.map_append, hpartner]
    exact congrArg (x :: ·) hrest

theorem mem_map_fst_leftJoin {x : α} : x ∈ (leftJoin on xs ys).map Prod.fst ↔ x ∈ xs := by
  unfold leftJoin
  simp only [List.mem_map, List.mem_flatMap, Prod.exists, exists_and_right, exists_eq_right]
  constructor
  · rintro ⟨partner, y, hy, hmem⟩
    obtain ⟨other, -, heq⟩ := hmem
    rw [← (Prod.mk.inj heq).1]
    exact hy
  · intro hx
    have hpartners : partners on ys x ≠ [] := partners_ne_nil x
    obtain ⟨partner, hpartner⟩ := List.exists_mem_of_ne_nil _ hpartners
    exact ⟨partner, x, hx, partner, hpartner, rfl⟩

/-- What the partners of the rows that pass `p` bring, row by row. -/
theorem reduceOption_leftJoin (p : α → Bool) (f : β → M) :
    (((leftJoin on xs ys).filter fun row => p row.1).map fun row => row.2.map f).reduceOption =
      (xs.filter p).flatMap fun x => (ys.filter (on x)).map f := by
  induction xs with
  | nil => rfl
  | cons x xs ih =>
    have hown : ((((partners on ys x).map (Prod.mk x)).filter fun row => p row.1).map
        fun row => row.2.map f).reduceOption =
          if p x then (ys.filter (on x)).map f else [] := by
      rw [List.filter_map, List.map_map]
      split_ifs with hx
      · have hall : (partners on ys x).filter ((fun row => p row.1) ∘ Prod.mk x) =
            partners on ys x := List.filter_eq_self.2 fun _ _ => hx
        rw [hall]
        change ((partners on ys x).map (Option.map f)).reduceOption = _
        rw [List.reduceOption_map, reduceOption_partners]
      · have hnone : (partners on ys x).filter ((fun row => p row.1) ∘ Prod.mk x) = [] :=
          List.filter_eq_nil_iff.2 fun _ _ => hx
        rw [hnone]
        rfl
    rw [leftJoin, List.flatMap_cons, List.filter_append, List.map_append, List.reduceOption_append,
      hown]
    change _ ++ (((leftJoin on xs ys).filter fun row => p row.1).map
      fun row => row.2.map f).reduceOption = _
    rw [ih, List.filter_cons]
    split_ifs with hx
    · rw [List.flatMap_cons]
    · rw [List.nil_append]

end LeftJoin

/-- `COALESCE(SUM(v), 0)` -/
theorem getD_sum [AddMonoid M] (values : List (Option M)) :
    (sum values).getD 0 = values.reduceOption.sum := by
  unfold sum
  cases values.reduceOption <;> rfl

section GroupBy

variable [DecidableEq κ] {key : α → κ} {rows : List α}

variable (key rows) in
theorem map_fst_groupBy : (groupBy key rows).map Prod.fst = (rows.map key).dedup := by
  rw [groupBy, List.map_map]
  exact List.map_id _

theorem mem_groupBy {group : κ × List α} (h : group ∈ groupBy key rows) :
    group.1 ∈ rows.map key ∧ group.2 = rows.filter fun row => key row = group.1 := by
  obtain ⟨k, hk, rfl⟩ := List.mem_map.1 h
  exact ⟨List.mem_dedup.1 hk, rfl⟩

end GroupBy

end OuterJoin

namespace OuterJoin

variable {α β γ κ κ' : Type*}

def classes [DecidableEq κ] (key : α → κ) (rows : List α) : List (List α) :=
  (groupBy key rows).map Prod.snd

def fullJoin (on : α → β → Bool) (xs : List α) (ys : List β) : List (Option α × Option β) :=
  ((leftJoin on xs ys).map fun row => (some row.1, row.2)) ++
    (ys.filter fun y => !xs.any fun x => on x y).map fun y => (none, some y)

/-- What may be shown of the rows by an order and a limit. -/
def Shows (le : α → α → Prop) (n : ℕ) (rows shown : List α) : Prop :=
  ∃ sorted : List α, sorted.Perm rows ∧ sorted.Pairwise le ∧ sorted.take n = shown

/-! ### Classes -/

theorem classes_eq [DecidableEq κ] (key : α → κ) (rows : List α) :
    classes key rows =
      (rows.map key).dedup.map fun k => rows.filter fun row => key row = k := by
  rw [classes, groupBy, List.map_map]
  rfl

theorem classes_congr [DecidableEq κ] [DecidableEq κ'] {key : α → κ} {key' : α → κ'}
    {rows : List α} (h : ∀ a ∈ rows, ∀ b ∈ rows, key a = key b ↔ key' a = key' b) :
    classes key rows = classes key' rows := by
  have hpart : ∀ part ⊆ rows,
      ((part.map key).dedup.map fun k => rows.filter fun row => key row = k) =
        (part.map key').dedup.map fun k => rows.filter fun row => key' row = k := by
    intro part hpart
    induction part with
    | nil => rfl
    | cons a part ih =>
      obtain ⟨ha, hrest⟩ := List.cons_subset.1 hpart
      have hmem : key a ∈ part.map key ↔ key' a ∈ part.map key' := by
        rw [List.mem_map, List.mem_map]
        exact exists_congr fun b => and_congr_right fun hb => h b (hrest hb) a ha
      have hclass : (rows.filter fun row => key row = key a) =
          rows.filter fun row => key' row = key' a :=
        List.filter_congr fun b hb => decide_eq_decide.2 (h b hb a ha)
      rw [List.map_cons, List.map_cons]
      by_cases hseen : key a ∈ part.map key
      · rw [List.dedup_cons_of_mem hseen, List.dedup_cons_of_mem (hmem.1 hseen), ih hrest]
      · rw [List.dedup_cons_of_notMem hseen, List.dedup_cons_of_notMem (mt hmem.2 hseen),
          List.map_cons, List.map_cons, ih hrest, hclass]
  rw [classes_eq, classes_eq, hpart rows (List.Subset.refl rows)]

/-! ### Full joins -/

section FullJoin

variable {on : α → β → Bool}

theorem partners_perm {ys ys' : List β} (h : ys.Perm ys') (x : α) :
    (partners on ys x).Perm (partners on ys' x) := by
  have hfilter := h.filter (on x)
  by_cases hnone : ys.filter (on x) = []
  · have hnone' : ys'.filter (on x) = [] := List.Perm.nil_eq (hnone ▸ hfilter) ▸ rfl
    rw [partners, partners, hnone, hnone']
  · have hsome : ys'.filter (on x) ≠ [] := fun h' => hnone (List.Perm.eq_nil (h' ▸ hfilter))
    rw [partners_eq_map_some hnone, partners_eq_map_some hsome]
    exact hfilter.map some

/-- The order of the tables does not matter. -/
theorem fullJoin_perm {xs xs' : List α} {ys ys' : List β} (hxs : xs.Perm xs')
    (hys : ys.Perm ys') : (fullJoin on xs ys).Perm (fullJoin on xs' ys') := by
  apply List.Perm.append
  · apply List.Perm.map
    exact hxs.flatMap fun x _ => (partners_perm hys x).map _
  · apply List.Perm.map
    have hany : (fun y => !xs.any fun x => on x y) = fun y => !xs'.any fun x => on x y := by
      funext y
      rw [Bool.eq_iff_iff]
      simp [hxs.mem_iff]
    rw [hany]
    exact hys.filter _

variable [DecidableEq κ] {ks ls : List κ} {f : κ → α} {g : κ → β}

theorem partners_map (hls : ls.Nodup) {k : κ} (hon : ∀ l ∈ ls, on (f k) (g l) = true ↔ k = l)
    {partner : Option β} (hmem : k ∈ ls → partner = some (g k)) (hnot : k ∉ ls → partner = none) :
    partners on (ls.map g) (f k) = [partner] := by
  have hmatched : (ls.map g).filter (on (f k)) = partner.toList := by
    induction ls with
    | nil => rw [hnot List.not_mem_nil, List.map_nil, List.filter_nil, Option.toList_none]
    | cons l ls ih =>
      obtain ⟨hnew, hls⟩ := List.nodup_cons.1 hls
      rw [List.map_cons, List.filter_cons]
      by_cases hkl : k = l
      · subst hkl
        have hrest : (ls.map g).filter (on (f k)) = [] := by
          apply List.filter_eq_nil_iff.2
          intro y hy hmatch
          obtain ⟨l, hl, rfl⟩ := List.mem_map.1 hy
          exact hnew ((hon l (List.mem_cons_of_mem k hl)).1 hmatch ▸ hl)
        rw [if_pos ((hon k List.mem_cons_self).2 rfl), hrest, hmem List.mem_cons_self,
          Option.toList_some]
      · rw [if_neg fun h => hkl ((hon l List.mem_cons_self).1 h)]
        apply ih hls fun l' hl' => hon l' (List.mem_cons_of_mem l hl')
        · exact fun h => hmem (List.mem_cons_of_mem l h)
        · exact fun h => hnot fun hin => (List.mem_cons.1 hin).elim hkl h
  rw [partners, hmatched]
  cases partner with
  | none => rfl
  | some y => rfl

/-- Tables with one row for each key, joined by the key, have one row for each key of either. -/
theorem fullJoin_map {f? : κ → Option α} {g? : κ → Option β} (hls : ls.Nodup)
    (hon : ∀ k ∈ ks, ∀ l ∈ ls, on (f k) (g l) = true ↔ k = l)
    (hf : ∀ k ∈ ks, f? k = some (f k)) (hf' : ∀ k ∉ ks, f? k = none)
    (hg : ∀ k ∈ ls, g? k = some (g k)) (hg' : ∀ k ∉ ls, g? k = none) :
    fullJoin on (ks.map f) (ls.map g) =
      (ks ++ ls.filter fun l => l ∉ ks).map fun k => (f? k, g? k) := by
  have hleft : (leftJoin on (ks.map f) (ls.map g)).map (fun row => (some row.1, row.2)) =
      ks.map fun k => (f? k, g? k) := by
    rw [leftJoin, List.flatMap_map, List.map_flatMap]
    conv_rhs => rw [List.map_eq_flatMap]
    apply List.flatMap_congr
    intro k hk
    rw [partners_map hls (hon k hk) (hg k) (hg' k), hf k hk]
    rfl
  have hright : ((ls.map g).filter fun y => !(ks.map f).any fun x => on x y).map
      (fun y => (none, some y)) = (ls.filter fun l => l ∉ ks).map fun k => (f? k, g? k) := by
    rw [List.filter_map, List.map_map]
    have hsame : ls.filter ((fun y => !(ks.map f).any fun x => on x y) ∘ g) =
        ls.filter fun l => l ∉ ks := by
      apply List.filter_congr
      intro l hl
      rw [Bool.eq_iff_iff]
      simp only [Function.comp_apply, List.any_map, Bool.not_eq_true', List.any_eq_false,
        decide_eq_true_eq]
      constructor
      · intro h hk
        exact h l hk ((hon l hk l hl).2 rfl)
      · intro h k hk hkl
        exact h ((hon k hk l hl).1 hkl ▸ hk)
    rw [hsame]
    apply List.map_congr_left
    intro l hl
    obtain ⟨hin, hout⟩ := List.mem_filter.1 hl
    rw [hf' l (of_decide_eq_true hout), hg l hin]
    rfl
  rw [fullJoin, hleft, hright, List.map_append]

/-- The keys of either table, each once. -/
theorem keys_perm (hks : ks.Nodup) (hls : ls.Nodup) {all : List κ} (hall : all.Nodup)
    (hmem : ∀ k, k ∈ all ↔ k ∈ ks ∨ k ∈ ls) :
    (ks ++ ls.filter fun l => l ∉ ks).Perm all := by
  apply (List.perm_ext_iff_of_nodup _ hall).2
  · intro k
    rw [hmem, List.mem_append, List.mem_filter, decide_eq_true_eq]
    tauto
  · apply hks.append (hls.filter _)
    intro k hk hk'
    exact of_decide_eq_true (List.mem_filter.1 hk').2 hk

end FullJoin

/-! ### Orders and limits -/

section Shows

variable {le : α → α → Prop} {n : ℕ} {rows rows' shown : List α}

theorem shows_congr (h : rows.Perm rows') : Shows le n rows shown ↔ Shows le n rows' shown :=
  exists_congr fun _ => and_congr_left fun _ => ⟨fun hp => hp.trans h, fun hp => hp.trans h.symm⟩

/-- Without an order and with room for all, what is shown are the rows. -/
theorem shows_all_iff (h : rows.length ≤ n) :
    Shows (fun _ _ => True) n rows shown ↔ shown.Perm rows := by
  constructor
  · rintro ⟨sorted, hperm, -, rfl⟩
    rwa [List.take_of_length_le (hperm.length_eq ▸ h)]
  · intro hperm
    exact ⟨shown, hperm, List.pairwise_of_forall fun _ _ => trivial,
      List.take_of_length_le (hperm.length_eq ▸ h)⟩

theorem Shows.length (h : Shows le n rows shown) : shown.length = min n rows.length := by
  obtain ⟨sorted, hperm, -, rfl⟩ := h
  rw [List.length_take, hperm.length_eq]

end Shows

end OuterJoin
