import Forecast.Lib.KeyedTable
import Mathlib.Data.List.Find

/-!
# Removing duplicates by another key

A list is written to a table by `key` after its duplicates were removed by `dkey`. What
is written last for each key stays the same when rows with one `dkey` have one `key`,
or, where the first duplicate is the one that is kept, are one row.
-/

namespace KeyedTable

variable {α β κ δ : Type*} [DecidableEq κ] [DecidableEq δ] {key : α → κ} {dkey : α → δ}
variable {xs ys : List α}

theorem lastWith_map (f : α → β) (key' : β → κ) (xs : List α) (k : κ) :
    lastWith key' (xs.map f) k = (lastWith (fun x => key' (f x)) xs k).map f := by
  unfold lastWith lookup
  rw [← List.map_reverse, List.find?_map]
  rfl

/-- In a list with distinct keys the last row of a key is the first one. -/
theorem lastWith_eq_lookup (hunique : (xs.map key).Nodup) (k : κ) :
    lastWith key xs k = lookup key xs k := by
  cases h : lookup key xs k with
  | none => exact lastWith_eq_none.2 (lookup_eq_none.1 h)
  | some x =>
    obtain ⟨hx, rfl⟩ := lookup_eq_some h
    exact lastWith_of_mem hunique hx

/-- Two keys that agree on a list find the same row. -/
theorem lastWith_congr {x : α} (h : ∀ y ∈ xs, key y = key x ↔ dkey y = dkey x) :
    lastWith key xs (key x) = lastWith dkey xs (dkey x) := by
  unfold lastWith lookup
  refine List.find?_congr fun y hy => ?_
  exact decide_eq_decide.2 (h y (List.mem_reverse.1 hy))

theorem mem_insertAllNew_of_mem {t : List α} {x : α} (hx : x ∈ t) :
    x ∈ xs.foldl (insertNew key) t := by
  induction xs generalizing t with
  | nil => exact hx
  | cons y xs ih =>
    apply ih
    unfold insertNew
    split_ifs
    · exact hx
    · exact List.mem_append_left _ hx

theorem mem_firstOfEach_cons (x : α) (xs : List α) : x ∈ firstOfEach key (x :: xs) := by
  have hfirst : x ∈ insertNew key [] x := by
    rw [insertNew, if_neg (by simp)]
    exact List.mem_singleton_self x
  rw [firstOfEach, List.foldl_cons]
  exact mem_insertAllNew_of_mem hfirst

section Writes

theorem lastWith_lastOfEach (h : ∀ x ∈ xs, ∀ y ∈ xs, key y = key x ↔ dkey y = dkey x) (k : κ) :
    lastWith key (lastOfEach dkey xs) k = lastWith key xs k := by
  by_cases hk : k ∈ xs.map key
  · obtain ⟨x, hx, rfl⟩ := List.mem_map.1 hk
    have hall : ∀ y ∈ lastOfEach dkey xs, key y = key x ↔ dkey y = dkey x := fun y hy =>
      h x hx y (lastOfEach_subset hy)
    have hunique : ((lastOfEach dkey xs).map dkey).Nodup := nodup_keys_upsertAll List.nodup_nil
    rw [lastWith_congr hall, lastWith_congr (h x hx), lastWith_eq_lookup hunique, lastOfEach,
      lookup_upsertAll]
    simp [lookup]
  · have hnone : k ∉ (lastOfEach dkey xs).map key := by
      intro hmem
      obtain ⟨y, hy, rfl⟩ := List.mem_map.1 hmem
      exact hk (List.mem_map_of_mem (lastOfEach_subset hy))
    rw [lastWith_eq_none.2 hk, lastWith_eq_none.2 hnone]

/-- Duplicates are one row: it does not matter which one is kept. -/
theorem lastWith_firstOfEach (hkey : ∀ x ∈ xs, ∀ y ∈ xs, key y = key x → dkey y = dkey x)
    (hsame : ∀ x ∈ xs, ∀ y ∈ xs, dkey y = dkey x → y = x) (k : κ) :
    lastWith key (firstOfEach dkey xs) k = lastWith key xs k := by
  by_cases hk : k ∈ xs.map key
  · obtain ⟨x, hx, rfl⟩ := List.mem_map.1 hk
    have hkept : dkey x ∈ (firstOfEach dkey xs).map dkey :=
      mem_keys_firstOfEach.2 (List.mem_map_of_mem hx)
    obtain ⟨y, hy, hyx⟩ := List.mem_map.1 hkept
    obtain rfl : y = x := hsame x hx y (firstOfEach_subset hy) hyx
    -- a row with the key is this row, wherever it is found
    have hlast : ∀ zs : List α, y ∈ zs → zs ⊆ xs → lastWith key zs (key y) = some y := by
      intro zs hmem hsub
      cases hfound : lastWith key zs (key y) with
      | none => exact absurd (List.mem_map_of_mem hmem) (lastWith_eq_none.1 hfound)
      | some z =>
        obtain ⟨hz, hzkey⟩ := lastWith_eq_some hfound
        rw [hsame y hx z (hsub hz) (hkey y hx z (hsub hz) hzkey)]
    rw [hlast _ hy fun z => firstOfEach_subset, hlast _ hx fun z => id]
  · have hnone : k ∉ (firstOfEach dkey xs).map key := by
      intro hmem
      obtain ⟨y, hy, rfl⟩ := List.mem_map.1 hmem
      exact hk (List.mem_map_of_mem (firstOfEach_subset hy))
    rw [lastWith_eq_none.2 hk, lastWith_eq_none.2 hnone]

omit [DecidableEq κ] [DecidableEq δ] in
/-- When every key is still there, rows with one `dkey` had one key. -/
theorem key_eq_of_keys_kept (hys : ys ⊆ xs) (hunique : (ys.map dkey).Nodup)
    (hkey : ∀ x ∈ xs, ∀ y ∈ xs, key y = key x → dkey y = dkey x)
    (hkept : ∀ x ∈ xs, key x ∈ ys.map key) {x y : α} (hx : x ∈ xs) (hy : y ∈ xs)
    (hxy : dkey x = dkey y) : key x = key y := by
  obtain ⟨x', hx', hxkey⟩ := List.mem_map.1 (hkept x hx)
  obtain ⟨y', hy', hykey⟩ := List.mem_map.1 (hkept y hy)
  have hdx : dkey x' = dkey x := hkey x hx x' (hys hx') hxkey
  have hdy : dkey y' = dkey y := hkey y hy y' (hys hy') hykey
  have hsame : x' = y' :=
    List.inj_on_of_nodup_map hunique hx' hy' (hdx.trans (hxy.trans hdy.symm))
  rw [← hxkey, ← hykey, hsame]

end Writes

end KeyedTable
