import Mathlib.Data.List.Basic
import Mathlib.Tactic.Common

/-!
# Statements sent one by one, and lists cut into pages and batches

`pages size` cuts a list into pages of `size` rows, the last one shorter; a loop
over the pages sees each row once and in order.
`sendAll` sends statements in order until one fails; what was sent before stays.
A buffer that is emptied whenever it holds `n` elements cuts a list into full
batches and a leftover.
-/

namespace Paging

variable {α β : Type*}

/-- The row goes to the last page if that has room, and else begins a new one. -/
def place (size : ℕ) : List (List α) → α → List (List α)
  | [], x => [[x]]
  | [page], x => if page.length < size then [page ++ [x]] else [page, [x]]
  | page :: next :: rest, x => page :: place size (next :: rest) x

def pages (size : ℕ) (xs : List α) : List (List α) := xs.foldl (place size) []

theorem flatten_place (size : ℕ) (ps : List (List α)) (x : α) :
    (place size ps x).flatten = ps.flatten ++ [x] := by
  induction ps with
  | nil => rfl
  | cons page rest ih =>
    cases rest with
    | nil =>
      rw [place]
      split_ifs <;> simp
    | cons next rest =>
      rw [place, List.flatten_cons, ih]
      simp

theorem flatten_pages (size : ℕ) (xs : List α) : (pages size xs).flatten = xs := by
  have hall : ∀ ps : List (List α), (xs.foldl (place size) ps).flatten = ps.flatten ++ xs := by
    induction xs with
    | nil => simp
    | cons x xs ih =>
      intro ps
      rw [List.foldl_cons, ih, flatten_place]
      simp
  exact hall []

/-- What some row of some page has, some row of the list has. -/
theorem exists_mem_map_pages {size : ℕ} {xs : List α} {f : α → β} {y : β} :
    (∃ page ∈ pages size xs, y ∈ page.map f) ↔ y ∈ xs.map f := by
  constructor
  · rintro ⟨page, hpage, hy⟩
    obtain ⟨x, hx, rfl⟩ := List.mem_map.1 hy
    have hmem : x ∈ (pages size xs).flatten := List.mem_flatten.2 ⟨page, hpage, hx⟩
    rw [flatten_pages] at hmem
    exact List.mem_map_of_mem hmem
  · intro hy
    obtain ⟨x, hx, rfl⟩ := List.mem_map.1 hy
    rw [← flatten_pages size xs] at hx
    obtain ⟨page, hpage, hmem⟩ := List.mem_flatten.1 hx
    exact ⟨page, hpage, List.mem_map_of_mem hmem⟩

end Paging

namespace Batches

variable {α σ ε : Type*}

section Sending

variable (send : σ → α → σ × Option ε)

def sendAll : σ → List α → σ × Option ε
  | s, [] => (s, none)
  | s, x :: xs =>
    match (send s x).2 with
    | some e => ((send s x).1, some e)
    | none => sendAll (send s x).1 xs

variable {send}

theorem sendAll_append (s : σ) (xs ys : List α) :
    sendAll send s (xs ++ ys) =
      match (sendAll send s xs).2 with
      | some e => ((sendAll send s xs).1, some e)
      | none => sendAll send (sendAll send s xs).1 ys := by
  induction xs generalizing s with
  | nil => rfl
  | cons x xs ih =>
    cases hx : (send s x).2 with
    | some e => simp [sendAll, hx]
    | none => simp [sendAll, hx, ih]

/-- What every statement preserves, failed or not, holds in the end. -/
theorem sendAll_invariant {I : σ → Prop} (hsend : ∀ s x, I s → I (send s x).1) {s : σ}
    (hs : I s) (xs : List α) : I (sendAll send s xs).1 := by
  induction xs generalizing s with
  | nil => exact hs
  | cons x xs ih =>
    rw [sendAll]
    cases (send s x).2 with
    | some e => exact hsend s x hs
    | none => exact ih (hsend s x hs)

/-- Statements that fail by their number and themselves alone: whether all succeed. -/
theorem sendAll_eq_none_iff {clock : σ → ℕ} {error : ℕ → α → Option ε}
    (herror : ∀ s x, (send s x).2 = error (clock s) x)
    (hclock : ∀ s x, clock (send s x).1 = clock s + 1) (s : σ) (xs : List α) :
    (sendAll send s xs).2 = none ↔ ∀ k x, xs[k]? = some x → error (clock s + k) x = none := by
  induction xs generalizing s with
  | nil => simp [sendAll]
  | cons x xs ih =>
    rw [sendAll]
    cases hx : (send s x).2 with
    | some e =>
      constructor
      · intro h
        cases h
      · intro h
        have hzero := h 0 x rfl
        rw [Nat.add_zero, ← herror, hx] at hzero
        cases hzero
    | none =>
      dsimp only
      rw [ih, hclock]
      constructor
      · intro h k y hk
        cases k with
        | zero =>
          obtain rfl : x = y := by simpa using hk
          rw [Nat.add_zero, ← herror, hx]
        | succ k =>
          have hnext := h k y (by simpa using hk)
          rwa [Nat.add_assoc, Nat.add_comm 1] at hnext
      · intro h k y hk
        have hnext := h (k + 1) y (by simpa using hk)
        rwa [Nat.add_assoc, Nat.add_comm 1]

end Sending

section Cutting

/-- The batches of `n` that fill up while the list is added to the buffer. -/
def fullBatches (n : ℕ) : List α → List α → List (List α)
  | _, [] => []
  | buffer, x :: xs =>
    if n ≤ (buffer ++ [x]).length then (buffer ++ [x]) :: fullBatches n [] xs
    else fullBatches n (buffer ++ [x]) xs

/-- What is in the buffer at the end. -/
def leftover (n : ℕ) : List α → List α → List α
  | buffer, [] => buffer
  | buffer, x :: xs =>
    if n ≤ (buffer ++ [x]).length then leftover n [] xs else leftover n (buffer ++ [x]) xs

example : fullBatches 2 [] [1, 2, 3] = [[1, 2]] ∧ leftover 2 [] [1, 2, 3] = [3] := by
  simp [fullBatches, leftover]

theorem flatten_fullBatches (n : ℕ) (buffer xs : List α) :
    (fullBatches n buffer xs).flatten ++ leftover n buffer xs = buffer ++ xs := by
  induction xs generalizing buffer with
  | nil => simp [fullBatches, leftover]
  | cons x xs ih =>
    rw [fullBatches, leftover]
    split_ifs with hfull
    · rw [List.flatten_cons, List.append_assoc, ih]
      simp
    · rw [ih]
      simp

theorem length_of_mem_fullBatches {n : ℕ} {buffer xs batch : List α} (hbuffer : buffer.length < n)
    (h : batch ∈ fullBatches n buffer xs) : batch.length = n := by
  induction xs generalizing buffer with
  | nil => exact absurd h List.not_mem_nil
  | cons x xs ih =>
    rw [fullBatches] at h
    rw [List.length_append, List.length_singleton] at h
    split_ifs at h with hfull
    · rcases List.mem_cons.1 h with rfl | h
      · rw [List.length_append, List.length_singleton]
        omega
      · have hempty : ([] : List α).length < n := Nat.zero_lt_of_lt hbuffer
        exact ih hempty h
    · apply ih _ h
      rw [List.length_append, List.length_singleton]
      omega

theorem length_leftover_lt {n : ℕ} {buffer xs : List α} (hbuffer : buffer.length < n) :
    (leftover n buffer xs).length < n := by
  induction xs generalizing buffer with
  | nil => exact hbuffer
  | cons x xs ih =>
    rw [leftover, List.length_append, List.length_singleton]
    split_ifs with hfull
    · have hempty : ([] : List α).length < n := Nat.zero_lt_of_lt hbuffer
      exact ih hempty
    · apply ih
      rw [List.length_append, List.length_singleton]
      omega

theorem fullBatches_of_short {n : ℕ} {buffer xs : List α} (h : (buffer ++ xs).length < n) :
    fullBatches n buffer xs = [] ∧ leftover n buffer xs = buffer ++ xs := by
  induction xs generalizing buffer with
  | nil => simp [fullBatches, leftover]
  | cons x xs ih =>
    rw [List.append_cons] at h ⊢
    have hopen : ¬ n ≤ (buffer ++ [x]).length := by
      rw [List.length_append] at h
      omega
    rw [fullBatches, leftover, if_neg hopen, if_neg hopen]
    exact ih h

theorem fullBatches_of_exact {n : ℕ} {buffer xs : List α} (h : (buffer ++ xs).length = n)
    (hxs : xs ≠ []) : fullBatches n buffer xs = [buffer ++ xs] ∧ leftover n buffer xs = [] := by
  induction xs generalizing buffer with
  | nil => exact absurd rfl hxs
  | cons x xs ih =>
    rw [List.append_cons] at h ⊢
    rw [fullBatches, leftover]
    cases xs with
    | nil =>
      rw [List.append_nil] at h ⊢
      rw [if_pos (Nat.le_of_eq h.symm), if_pos (Nat.le_of_eq h.symm)]
      exact ⟨rfl, rfl⟩
    | cons y ys =>
      have hopen : ¬ n ≤ (buffer ++ [x]).length := by
        rw [List.length_append, List.length_cons] at h
        omega
      rw [if_neg hopen, if_neg hopen]
      exact ih h (List.cons_ne_nil y ys)

/-- The list in slices of `n`. -/
def slices (n : ℕ) (xs : List α) : List (List α) :=
  fullBatches n [] xs ++ if (leftover n [] xs).isEmpty then [] else [leftover n [] xs]

theorem slices_of_length_le {n : ℕ} {xs : List α} (hxs : xs ≠ []) (h : xs.length ≤ n) :
    slices n xs = [xs] := by
  unfold slices
  rcases Nat.lt_or_eq_of_le h with hlt | heq
  · obtain ⟨hfull, hleft⟩ : fullBatches n [] xs = [] ∧ leftover n [] xs = [] ++ xs :=
      fullBatches_of_short hlt
    rw [hfull, hleft, List.nil_append, if_neg (by simpa using hxs)]
    rfl
  · obtain ⟨hfull, hleft⟩ : fullBatches n [] xs = [[] ++ xs] ∧ leftover n [] xs = [] :=
      fullBatches_of_exact heq hxs
    rw [hfull, hleft]
    rfl

theorem flatten_slices (n : ℕ) (xs : List α) : (slices n xs).flatten = xs := by
  unfold slices
  have hall := flatten_fullBatches n [] xs
  split_ifs with hempty
  · rw [List.isEmpty_iff.1 hempty] at hall
    simpa using hall
  · simpa using hall

end Cutting

end Batches
