import Forecast.Lib.JsText
import Mathlib.Tactic.IntervalCases
import Mathlib.Tactic.NormNum
import Mathlib.Tactic.Ring

/-!
# Digits in texts

A nonempty string of digits is read as the number that it spells, and no separator is found in
it.
-/

namespace JsText

theorem le_of_isDigit {c : Char} (h : isDigit c = true) : '0' ≤ c ∧ c ≤ '9' := by
  unfold isDigit digit? at h
  dsimp only at h
  by_cases hdigit : '0' ≤ c ∧ c ≤ '9'
  · exact hdigit
  · rw [if_neg hdigit] at h
    split_ifs at h with hlower hless hupper hless hless
    · exact absurd hless (by omega)
    · cases h
    · exact absurd hless (by omega)
    · cases h
    · exact absurd hless (by decide)
    · cases h

theorem toNat_of_isDigit {c : Char} (h : isDigit c = true) : 48 ≤ c.toNat ∧ c.toNat ≤ 57 :=
  le_of_isDigit h

theorem isTrimmed_digit {c : Char} (h : isDigit c = true) : isTrimmed c = false := by
  obtain ⟨hfrom, hto⟩ := toNat_of_isDigit h
  generalize hcode : c.toNat = code at hfrom hto
  rw [isTrimmed, hcode]
  interval_cases code <;> decide

theorem ne_of_isDigit {c d : Char} (hc : isDigit c = true) (hd : isDigit d = false) : c ≠ d := by
  rintro rfl
  rw [hc] at hd
  cases hd

theorem trimChars_digits {cs : List Char} (h : ∀ c ∈ cs, isDigit c = true) : trimChars cs = cs :=
  trimChars_eq_self (fun c hc => isTrimmed_digit (h c (List.mem_of_head? hc)))
    fun hne => isTrimmed_digit (h _ (List.getLast_mem hne))

/-! ### Numbers -/

/-- A digit behind the number that the digits before it spell. -/
def addDigit (base : ℕ) (value? : Option ℕ) (c : Char) : Option ℕ := do
  pure ((← value?) * base + (← digit? base c))

example : addDigit 10 (some 1) '2' = some 12 := by
  rw [addDigit]
  decide +kernel

theorem foldl_addDigit_none (base : ℕ) (cs : List Char) : cs.foldl (addDigit base) none = none := by
  induction cs with
  | nil => rfl
  | cons c cs ih => exact ih

theorem isSome_digit?_of_foldl {base : ℕ} {cs : List Char} {value : Option ℕ} {n : ℕ}
    (h : cs.foldl (addDigit base) value = some n) : ∀ c ∈ cs, (digit? base c).isSome = true := by
  induction cs generalizing value with
  | nil => simp
  | cons c cs ih =>
    rw [List.foldl_cons] at h
    rw [List.forall_mem_cons]
    refine ⟨?_, ih h⟩
    cases hdigit : digit? base c with
    | some d => rfl
    | none =>
      have hnone : addDigit base value c = none := by
        cases value with
        | none => rfl
        | some value => simp [addDigit, hdigit]
      rw [hnone, foldl_addDigit_none] at h
      cases h

theorem isDigit_of_natural? {cs : List Char} {n : ℕ} (h : natural? 10 cs = some n) :
    ∀ c ∈ cs, isDigit c = true := by
  cases cs with
  | nil => cases h
  | cons c cs => exact isSome_digit?_of_foldl h

theorem foldl_addDigit_lt {base : ℕ} {cs : List Char} {value n : ℕ}
    (h : cs.foldl (addDigit base) (some value) = some n) : n < (value + 1) * base ^ cs.length := by
  induction cs generalizing value with
  | nil =>
    obtain rfl : value = n := Option.some.inj h
    simp
  | cons c cs ih =>
    rw [List.foldl_cons] at h
    cases hdigit : digit? base c with
    | none =>
      have hnone : addDigit base (some value) c = none := by simp [addDigit, hdigit]
      rw [hnone, foldl_addDigit_none] at h
      cases h
    | some d =>
      have hsome : addDigit base (some value) c = some (value * base + d) := by
        simp [addDigit, hdigit]
      have hd : d < base := by
        unfold digit? at hdigit
        dsimp only at hdigit
        by_cases hless : (if '0' ≤ c ∧ c ≤ '9' then c.toNat - '0'.toNat
            else if 'a' ≤ c ∧ c ≤ 'z' then c.toNat - 'a'.toNat + 10
            else if 'A' ≤ c ∧ c ≤ 'Z' then c.toNat - 'A'.toNat + 10
            else 36) < base
        · rw [if_pos hless] at hdigit
          exact Option.some.inj hdigit ▸ hless
        · rw [if_neg hless] at hdigit
          cases hdigit
      rw [hsome] at h
      calc n < (value * base + d + 1) * base ^ cs.length := ih h
        _ ≤ ((value + 1) * base) * base ^ cs.length := by
          apply Nat.mul_le_mul_right
          rw [add_mul, one_mul]
          omega
        _ = (value + 1) * base ^ (c :: cs).length := by
          rw [List.length_cons, pow_succ]
          ring

theorem natural?_lt {base : ℕ} {cs : List Char} {n : ℕ} (h : natural? base cs = some n) :
    n < base ^ cs.length := by
  cases cs with
  | nil => cases h
  | cons c cs => simpa using foldl_addDigit_lt h

/-- Digits are a decimal literal of the number that they spell. -/
theorem decimal?_digits {cs : List Char} {n : ℕ} (h : natural? 10 cs = some n) :
    decimal? cs = some (n : ℚ) := by
  have hdigits := isDigit_of_natural? h
  have hunsigned : unsignedDecimal? cs = some (n : ℚ) := by
    have hwhole : cs.takeWhile isDigit = cs := List.takeWhile_eq_self_iff.2 hdigits
    have hrest : cs.dropWhile isDigit = [] := List.dropWhile_eq_nil_iff.2 hdigits
    unfold unsignedDecimal?
    rw [hwhole, hrest]
    simp [h, exponent?]
  unfold decimal?
  rw [trimChars_digits hdigits]
  have hnot : ∀ c ds, isDigit c = false → cs ≠ c :: ds ∧ cs ≠ '0' :: c :: ds := by
    intro c ds hc
    constructor <;> rintro rfl
    · exact ne_of_isDigit (hdigits c List.mem_cons_self) hc rfl
    · exact ne_of_isDigit (hdigits c (List.mem_cons_of_mem _ List.mem_cons_self)) hc rfl
  split
  · cases h
  · exact absurd rfl (hnot 'x' _ (by decide)).2
  · exact absurd rfl (hnot 'X' _ (by decide)).2
  · exact absurd rfl (hnot 'o' _ (by decide)).2
  · exact absurd rfl (hnot 'O' _ (by decide)).2
  · exact absurd rfl (hnot 'b' _ (by decide)).2
  · exact absurd rfl (hnot 'B' _ (by decide)).2
  · exact absurd rfl (hnot '+' _ (by decide)).1
  · exact absurd rfl (hnot '-' _ (by decide)).1
  · exact hunsigned

/-! ### Parts between separators -/

theorem splitChars_of_not_mem {sep : Char} {cs : List Char} (h : sep ∉ cs) :
    splitChars sep cs = [cs] := by
  induction cs with
  | nil => rfl
  | cons c cs ih =>
    rw [List.mem_cons, not_or] at h
    rw [splitChars, if_neg (Ne.symm h.1), ih h.2]

theorem splitChars_append {sep : Char} {part : List Char} (h : sep ∉ part) (cs : List Char) :
    splitChars sep (part ++ sep :: cs) = part :: splitChars sep cs := by
  induction part with
  | nil => rw [List.nil_append, splitChars, if_pos rfl]
  | cons c part ih =>
    rw [List.mem_cons, not_or] at h
    rw [List.cons_append, splitChars, if_neg (Ne.symm h.1), ih h.2]

end JsText
