import Forecast.Lib.Grouping
import Forecast.Lib.KeyedTable
import Mathlib.Data.List.Induction

/-!
# Tables changed by key

A statement changes a table key by key: it writes a row, of which something, such
as its id, may be generated from the table, or removes the row with the key.
`make t d` is what the change `d` makes of its key in the table `t`. What is read
after a list of changes is said in terms of the changes: the last one of each key
counts, and the other rows are those from before.
-/

open KeyedTable

namespace WrittenTable

variable {α κ δ β M : Type*} [DecidableEq κ] {key : α → κ} {dkey : δ → κ}

section Changes

variable {make : List α → δ → Option α}

variable (key dkey make) in
def change (t : List α) (d : δ) : List α :=
  match make t d with
  | some x => upsert key t x
  | none => t.filter fun y => key y ≠ dkey d

variable (key dkey make) in
def changeAll (t : List α) (ds : List δ) : List α := ds.foldl (change key dkey make) t

theorem changeAll_append (t : List α) (ds es : List δ) :
    changeAll key dkey make t (ds ++ es) =
      changeAll key dkey make (changeAll key dkey make t ds) es :=
  List.foldl_append

theorem change_of_some {t : List α} {d : δ} {x : α} (h : make t d = some x) :
    change key dkey make t d = upsert key t x := by
  rw [change, h]

theorem change_of_none {t : List α} {d : δ} (h : make t d = none) :
    change key dkey make t d = t.filter fun y => key y ≠ dkey d := by
  rw [change, h]

theorem nodup_keys_change {t : List α} (ht : (t.map key).Nodup) (d : δ) :
    ((change key dkey make t d).map key).Nodup := by
  cases hmake : make t d with
  | some x =>
    rw [change_of_some hmake]
    exact nodup_keys_upsert ht
  | none =>
    rw [change_of_none hmake]
    exact ht.sublist (List.filter_sublist.map key)

theorem nodup_keys_changeAll {t : List α} (ht : (t.map key).Nodup) (ds : List δ) :
    ((changeAll key dkey make t ds).map key).Nodup := by
  induction ds generalizing t with
  | nil => exact ht
  | cons d ds ih => exact ih (nodup_keys_change ht d)

/-- What a change leaves has another key; the rest it made. -/
theorem mem_change (hkey : ∀ t d x, make t d = some x → key x = dkey d) {t : List α}
    (ht : (t.map key).Nodup) {d : δ} {y : α} (hy : y ∈ change key dkey make t d) :
    y ∈ t ∧ key y ≠ dkey d ∨ make t d = some y := by
  cases hmake : make t d with
  | some x =>
    rw [change_of_some hmake, (upsert_perm ht x).mem_iff, List.mem_cons, List.mem_filter,
      hkey t d x hmake, decide_eq_true_eq] at hy
    rcases hy with rfl | hy
    · exact .inr rfl
    · exact .inl hy
  | none =>
    rw [change_of_none hmake, List.mem_filter, decide_eq_true_eq] at hy
    exact .inl hy

theorem mem_changeAll (hkey : ∀ t d x, make t d = some x → key x = dkey d) {t : List α}
    (ht : (t.map key).Nodup) {ds : List δ} {y : α} (hy : y ∈ changeAll key dkey make t ds) :
    y ∈ t ∧ key y ∉ ds.map dkey ∨ ∃ d ∈ ds, ∃ u, make u d = some y := by
  induction ds generalizing t with
  | nil => exact .inl ⟨hy, List.not_mem_nil⟩
  | cons d ds ih =>
    rcases ih (nodup_keys_change ht d) hy with ⟨hold, hothers⟩ | ⟨e, he, hmade⟩
    · rcases mem_change hkey ht hold with ⟨hmem, hne⟩ | hmade
      · refine .inl ⟨hmem, ?_⟩
        rw [List.map_cons, List.mem_cons]
        exact fun h => h.elim hne hothers
      · exact .inr ⟨d, List.mem_cons_self, t, hmade⟩
    · exact .inr ⟨e, List.mem_cons_of_mem d he, hmade⟩

/-- A row whose key no change is about stays. -/
theorem mem_changeAll_of_not_mem_keys (hkey : ∀ t d x, make t d = some x → key x = dkey d)
    {t : List α} {ds : List δ} {y : α} (hy : y ∈ t) (hothers : key y ∉ ds.map dkey) :
    y ∈ changeAll key dkey make t ds := by
  induction ds generalizing t with
  | nil => exact hy
  | cons d ds ih =>
    rw [List.map_cons, List.mem_cons, not_or] at hothers
    apply ih _ hothers.2
    cases hmake : make t d with
    | some x =>
      rw [change_of_some hmake]
      apply mem_upsert_of_key_ne hy
      rw [hkey t d x hmake]
      exact hothers.1
    | none =>
      rw [change_of_none hmake, List.mem_filter]
      exact ⟨hy, decide_eq_true hothers.1⟩

/-! ### Sums -/

variable [AddCommMonoid M]

/-- An upsert replaces the share of the rows with its key by its own. -/
theorem sum_upsert {t : List α} (ht : (t.map key).Nodup) (x : α) (f : α → M) :
    ((upsert key t x).map f).sum = ((t.filter fun y => key y ≠ key x).map f).sum + f x := by
  rw [((upsert_perm ht x).map f).sum_eq, List.map_cons, List.sum_cons, add_comm]

theorem sum_change (hkey : ∀ t d x, make t d = some x → key x = dkey d) {f : α → M} {g : δ → M}
    {d : δ} (hf : ∀ t, ((make t d).map f).getD 0 = g d) {t : List α} (ht : (t.map key).Nodup) :
    ((change key dkey make t d).map f).sum =
      ((t.filter fun y => key y ≠ dkey d).map f).sum + g d := by
  have hshare := hf t
  cases hmake : make t d with
  | some x =>
    rw [hmake] at hshare
    rw [change_of_some hmake, sum_upsert ht, hkey t d x hmake, ← hshare]
    rfl
  | none =>
    rw [hmake] at hshare
    rw [change_of_none hmake, ← hshare]
    exact (add_zero _).symm

theorem nodup_keys_lastOfEach (xs : List α) : ((lastOfEach key xs).map key).Nodup :=
  nodup_keys_upsertAll List.nodup_nil

theorem sum_changeAll (hkey : ∀ t d x, make t d = some x → key x = dkey d) {t : List α}
    (ht : (t.map key).Nodup) (ds : List δ) {f : α → M} {g : δ → M}
    (hf : ∀ t, ∀ d ∈ ds, ((make t d).map f).getD 0 = g d) (others : α → Bool)
    (hothers : ∀ y, others y ↔ key y ∉ ds.map dkey) :
    ((changeAll key dkey make t ds).map f).sum =
      ((t.filter others).map f).sum + ((lastOfEach dkey ds).map g).sum := by
  induction ds using List.reverseRecOn generalizing f g others with
  | nil =>
    have hall : t.filter others = t := by
      rw [List.filter_eq_self]
      intro y _
      rw [hothers]
      exact List.not_mem_nil
    simp [hall, changeAll, lastOfEach, upsertAll]
  | append_singleton ds d ih =>
    -- the last change takes its key from the table and from the earlier changes
    have hearlier := ih (f := fun y => if key y ≠ dkey d then f y else 0)
      (g := fun e => if dkey e ≠ dkey d then g e else 0) (by
        intro t e he
        have hshare := hf t e (List.mem_append_left [d] he)
        cases hmake : make t e with
        | some x =>
          rw [hmake] at hshare
          rw [Option.map_some, Option.getD_some, hkey t e x hmake, ← hshare]
          rfl
        | none =>
          rw [hmake] at hshare
          rw [← hshare]
          exact (ite_self 0).symm) (fun y => key y ∉ ds.map dkey) (fun y => decide_eq_true_iff)
    have hlast : lastOfEach dkey (ds ++ [d]) = upsert dkey (lastOfEach dkey ds) d := by
      rw [lastOfEach, upsertAll, List.foldl_append]
      rfl
    have hrest : t.filter others =
        (t.filter fun y => key y ∉ ds.map dkey).filter fun y => key y ≠ dkey d := by
      rw [List.filter_filter]
      apply List.filter_congr
      intro y _
      rw [Bool.eq_iff_iff, hothers, List.map_append, List.map_singleton, List.mem_append,
        List.mem_singleton, not_or, Bool.and_eq_true, decide_eq_true_eq, decide_eq_true_eq,
        and_comm]
    rw [changeAll_append, hlast, hrest, sum_upsert (nodup_keys_lastOfEach ds)]
    change ((change key dkey make (changeAll key dkey make t ds) d).map f).sum = _
    have hlastShare : ∀ t, ((make t d).map f).getD 0 = g d :=
      fun t => hf t d (List.mem_append_right ds (List.mem_singleton_self d))
    rw [sum_change hkey hlastShare (nodup_keys_changeAll ht ds), Grouping.sum_map_filter,
      Grouping.sum_map_filter (fun y => key y ≠ dkey d),
      Grouping.sum_map_filter (fun e => dkey e ≠ dkey d)]
    simp only [decide_eq_true_eq]
    rw [hearlier, add_assoc]

end Changes

/-! ### Writes alone -/

section Writes

variable {make : List α → δ → α}

variable (key make) in
def writeAll (t : List α) (ds : List δ) : List α :=
  ds.foldl (fun t d => upsert key t (make t d)) t

theorem writeAll_append (t : List α) (ds es : List δ) :
    writeAll key make t (ds ++ es) = writeAll key make (writeAll key make t ds) es :=
  List.foldl_append

theorem writeAll_eq_changeAll (dkey : δ → κ) (t : List α) (ds : List δ) :
    writeAll key make t ds = changeAll key dkey (fun t d => some (make t d)) t ds :=
  rfl

theorem sum_writeAll [AddCommMonoid M] (hkey : ∀ t d, key (make t d) = dkey d) {t : List α}
    (ht : (t.map key).Nodup) (ds : List δ) {f : α → M} {g : δ → M} (hf : ∀ t d, f (make t d) = g d)
    (others : α → Bool) (hothers : ∀ y, others y ↔ key y ∉ ds.map dkey) :
    ((writeAll key make t ds).map f).sum =
      ((t.filter others).map f).sum + ((lastOfEach dkey ds).map g).sum := by
  rw [writeAll_eq_changeAll dkey]
  apply sum_changeAll _ ht ds _ others hothers
  · intro t d x hx
    rw [Option.some.injEq] at hx
    rw [← hx, hkey]
  · exact fun t d _ => hf t d

theorem lookup_writeAll {column : α → β} {dcolumn : δ → β} (hkey : ∀ t d, key (make t d) = dkey d)
    (hcolumn : ∀ t d, column (make t d) = dcolumn d) (t : List α) (ds : List δ) (k : κ) :
    (lookup key (writeAll key make t ds) k).map column =
      ((lastWith dkey ds k).map dcolumn).or ((lookup key t k).map column) := by
  induction ds generalizing t with
  | nil => rfl
  | cons d ds ih =>
    have hlast : lastWith dkey (d :: ds) k = (lastWith dkey ds k).or (lookup dkey [d] k) := by
      rw [lastWith, List.reverse_cons, lookup_append]
      rfl
    change (lookup key (writeAll key make (upsert key t (make t d)) ds) k).map column = _
    rw [ih, lookup_upsert, hlast, lookup_cons, hkey]
    by_cases hk : dkey d = k
    · cases lastWith dkey ds k <;> simp [hk, hcolumn]
    · cases lastWith dkey ds k <;> simp [hk, lookup]

end Writes

end WrittenTable
