import Mathlib.Data.Rat.Defs
import Mathlib.Data.Int.Log
import Mathlib.Data.List.DropRight

/-!
# Strings and numbers as JavaScript reads them

Trimming, replacing and splitting of strings, and the conversion of a string to
a number, over lists of characters.
-/

namespace JsText

/-- The characters `trim` strips. -/
def isTrimmed (c : Char) : Bool :=
  (0x09 ≤ c.toNat && c.toNat ≤ 0x0D) || (0x2000 ≤ c.toNat && c.toNat ≤ 0x200A) ||
    [0x20, 0xA0, 0x1680, 0x2028, 0x2029, 0x202F, 0x205F, 0x3000, 0xFEFF].contains c.toNat

/-- `trim` leaves nothing. -/
def isBlank (text : String) : Bool := text.toList.all isTrimmed

def trimChars (cs : List Char) : List Char :=
  ((cs.dropWhile isTrimmed).reverse.dropWhile isTrimmed).reverse

def trim (text : String) : String := String.ofList (trimChars text.toList)

theorem trimChars_eq (cs : List Char) :
    trimChars cs = (cs.dropWhile isTrimmed).rdropWhile isTrimmed := rfl

theorem head?_trimChars {cs : List Char} {c : Char} (h : (trimChars cs).head? = some c) :
    isTrimmed c = false := by
  rw [trimChars_eq] at h
  have hprefix := List.rdropWhile_prefix isTrimmed (cs.dropWhile isTrimmed)
  obtain ⟨rest, hrest⟩ := hprefix
  have hdropped : (cs.dropWhile isTrimmed).head? = some c := by
    rw [← hrest, List.head?_append, h]
    rfl
  have hnot := List.head?_dropWhile_not isTrimmed cs
  rw [hdropped] at hnot
  simpa using hnot

/-- Characters that neither begin nor end with white space are left alone. -/
theorem trimChars_eq_self {cs : List Char} (hhead : ∀ c, cs.head? = some c → isTrimmed c = false)
    (hlast : ∀ h : cs ≠ [], isTrimmed (cs.getLast h) = false) : trimChars cs = cs := by
  have hdrop : cs.dropWhile isTrimmed = cs := by
    cases cs with
    | nil => rfl
    | cons c rest =>
      have hc := hhead c rfl
      simp [hc]
  rw [trimChars_eq, hdrop, List.rdropWhile_eq_self_iff]
  intro h
  simp [hlast h]

theorem trimChars_trimChars (cs : List Char) : trimChars (trimChars cs) = trimChars cs := by
  apply trimChars_eq_self
  · intro c hc
    exact head?_trimChars hc
  · intro h
    exact Bool.eq_false_iff.2 (List.rdropWhile_last_not isTrimmed (cs.dropWhile isTrimmed) h)

theorem trim_trim (text : String) : trim (trim text) = trim text := by
  simp only [trim, String.toList_ofList, trimChars_trimChars]

/-- A text without white space at its ends, such as `trim` returns. -/
structure Trimmed where
  text : String
  trim_text : trim text = text
deriving DecidableEq

namespace Trimmed

def of (text : String) : Trimmed := ⟨trim text, trim_trim text⟩

def chars (t : Trimmed) : List Char := t.text.toList

theorem trimChars_chars (t : Trimmed) : trimChars t.chars = t.chars := by
  have h := congrArg String.toList t.trim_text
  rw [trim, String.toList_ofList] at h
  exact h

theorem head_chars {t : Trimmed} {c : Char} (h : t.chars.head? = some c) : isTrimmed c = false := by
  rw [← t.trimChars_chars] at h
  exact head?_trimChars h

theorem getLast_chars (t : Trimmed) (h : t.chars ≠ []) : isTrimmed (t.chars.getLast h) = false := by
  have hlast := List.rdropWhile_last_not (l := t.chars.dropWhile isTrimmed) isTrimmed
  rw [← trimChars_eq, t.trimChars_chars] at hlast
  simpa only [Bool.not_eq_true] using hlast h

end Trimmed

/-- The parts between the separators; there is always at least one. -/
def splitChars (sep : Char) : List Char → List (List Char)
  | [] => [[]]
  | c :: cs =>
    if c = sep then [] :: splitChars sep cs
    else
      match splitChars sep cs with
      | part :: parts => (c :: part) :: parts
      | [] => [[c]]

def digit? (base : ℕ) (c : Char) : Option ℕ :=
  let value :=
    if '0' ≤ c ∧ c ≤ '9' then c.toNat - '0'.toNat
    else if 'a' ≤ c ∧ c ≤ 'z' then c.toNat - 'a'.toNat + 10
    else if 'A' ≤ c ∧ c ≤ 'Z' then c.toNat - 'A'.toNat + 10
    else 36
  if value < base then some value else none

def isDigit (c : Char) : Bool := (digit? 10 c).isSome

/-- The value of a nonempty string of digits. -/
def natural? (base : ℕ) : List Char → Option ℕ
  | [] => none
  | cs => cs.foldl (fun value? c => do pure ((← value?) * base + (← digit? base c))) (some 0)

/-- The exponent part of a decimal literal, which may be absent. -/
def exponent? : List Char → Option ℤ
  | [] => some 0
  | c :: cs =>
    if c = 'e' ∨ c = 'E' then
      match cs with
      | '+' :: ds => (natural? 10 ds).map Int.ofNat
      | '-' :: ds => (natural? 10 ds).map fun n => -(n : ℤ)
      | ds => (natural? 10 ds).map Int.ofNat
    else none

def unsignedDecimal? (cs : List Char) : Option ℚ := do
  let whole := cs.takeWhile isDigit
  let rest := cs.dropWhile isDigit
  let fraction := match rest with
    | '.' :: ds => ds.takeWhile isDigit
    | _ => []
  let tail := match rest with
    | '.' :: ds => ds.dropWhile isDigit
    | _ => rest
  let mantissa ← natural? 10 (whole ++ fraction)
  let exponent ← exponent? tail
  pure (mantissa * (10 : ℚ) ^ (exponent - fraction.length))

/-- The exact value of what `Number` accepts, without `Infinity`; the empty string is zero. -/
def decimal? (cs : List Char) : Option ℚ :=
  match trimChars cs with
  | [] => some 0
  | '0' :: 'x' :: ds | '0' :: 'X' :: ds => (natural? 16 ds).map fun n => n
  | '0' :: 'o' :: ds | '0' :: 'O' :: ds => (natural? 8 ds).map fun n => n
  | '0' :: 'b' :: ds | '0' :: 'B' :: ds => (natural? 2 ds).map fun n => n
  | '+' :: ds => unsignedDecimal? ds
  | '-' :: ds => (unsignedDecimal? ds).map fun q => -q
  | ds => unsignedDecimal? ds

end JsText
