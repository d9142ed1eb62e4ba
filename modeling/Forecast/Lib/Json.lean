import Forecast.Lib.JsText
import Forecast.Lib.KeyedTable
import Mathlib.Tactic.IntervalCases
import Mathlib.Tactic.NormNum

/-!
# JSON texts

Writing a value as JSON and reading it back. A string is a list of UTF-16 code units and the text
is made of characters, so a surrogate without a partner is written as an escape. The numbers are a
parameter: what is asked of them is that a number is read back from what it prints as.

A value of the language is read back from its text: its objects have each key once, in the order
in which the language lists them.
-/

open JsText KeyedTable

namespace JsonText

abbrev CodeUnits := List UInt16

inductive Json (ν : Type) where
  | null
  | bool (value : Bool)
  | number (value : ν)
  | string (value : CodeUnits)
  | array (items : List (Json ν))
  | object (members : List (CodeUnits × Json ν))

def isBlank (c : Char) : Bool := c ∈ [' ', '\t', '\n', '\r']

def isNumeric (c : Char) : Bool := c ∈ "+-.0123456789eE".toList

/-- How numbers print, and which texts are read as numbers. The last digit of what a binary64
number prints as is left to the implementation; that it is read back is not. The two zeros, which
print alike, are one number. -/
structure Numerals (ν : Type) where
  shown : ν → List Char
  read : List Char → Option ν
  read_nil : read [] = none
  read_shown (x : ν) : read (shown x) = some x
  numeric_shown (x : ν) : ∀ c ∈ shown x, isNumeric c = true

/-! ### Strings -/

/-- The code units of a character: one, or a surrogate pair. -/
def unitsOf (c : Char) : CodeUnits :=
  if c.toNat < 0x10000 then [UInt16.ofNat c.toNat]
  else
    [UInt16.ofNat (0xD800 + (c.toNat - 0x10000) / 0x400),
      UInt16.ofNat (0xDC00 + (c.toNat - 0x10000) % 0x400)]

def ofText (text : String) : CodeUnits := text.toList.flatMap unitsOf

def isLead (u : UInt16) : Bool := 0xD800 ≤ u.toNat ∧ u.toNat < 0xDC00

def isTrail (u : UInt16) : Bool := 0xDC00 ≤ u.toNat ∧ u.toNat < 0xE000

def pairChar (lead trail : UInt16) : Char :=
  Char.ofNat (0x10000 + (lead.toNat - 0xD800) * 0x400 + (trail.toNat - 0xDC00))

def shortEscapes : List (UInt16 × Char) :=
  [(0x08, 'b'), (0x09, 't'), (0x0A, 'n'), (0x0C, 'f'), (0x0D, 'r'), (0x22, '"'), (0x5C, '\\')]

def hex4 (n : ℕ) : List Char :=
  [Nat.digitChar (n / 0x1000), Nat.digitChar (n / 0x100 % 0x10), Nat.digitChar (n / 0x10 % 0x10),
    Nat.digitChar (n % 0x10)]

/-- A code unit that is no half of a pair. -/
def quoteUnit (u : UInt16) : List Char :=
  match shortEscapes.lookup u with
  | some c => ['\\', c]
  | none =>
    if u.toNat < 0x20 ∨ isLead u ∨ isTrail u then '\\' :: 'u' :: hex4 u.toNat
    else [Char.ofNat u.toNat]

def quoteUnits : CodeUnits → List Char
  | [] => []
  | [u] => quoteUnit u
  | u :: w :: us =>
    if isLead u ∧ isTrail w then pairChar u w :: quoteUnits us
    else quoteUnit u ++ quoteUnits (w :: us)

example : quoteUnits [0x41, 0x0A] = ['A', '\\', 'n'] := by
  rw [quoteUnits, quoteUnits]
  decide +kernel

def quote (s : CodeUnits) : List Char := '"' :: quoteUnits s ++ ['"']

def unescaped? (c : Char) : Option UInt16 :=
  if c = '/' then some 0x2F else (shortEscapes.find? fun e => e.2 = c).map Prod.fst

/-- The rest of a string after its opening quote, and the text behind it. -/
def readUnits : List Char → Option (CodeUnits × List Char)
  | [] => none
  | c :: cs =>
    if c = '"' then some ([], cs)
    else if c = '\\' then
      match cs with
      | [] => none
      | e :: ds =>
        if e = 'u' then
          match ds with
          | h₁ :: h₂ :: h₃ :: h₄ :: es =>
            (natural? 16 [h₁, h₂, h₃, h₄]).bind fun n =>
              (readUnits es).map fun r => (UInt16.ofNat n :: r.1, r.2)
          | _ => none
        else (unescaped? e).bind fun u => (readUnits ds).map fun r => (u :: r.1, r.2)
    else if c.toNat < 0x20 then none
    else (readUnits cs).map fun r => (unitsOf c ++ r.1, r.2)

theorem toNat_ofNat {n : ℕ} (h : n.isValidChar) : (Char.ofNat n).toNat = n := by
  rw [Char.ofNat, dif_pos h]
  rfl

theorem digit?_digitChar : ∀ n < 16, digit? 16 (Nat.digitChar n) = some n := by decide

theorem natural?_hex4 {n : ℕ} (hn : n < 0x10000) : natural? 16 (hex4 n) = some n := by
  have hdigits : natural? 16 (hex4 n) =
      some ((((0 * 16 + n / 0x1000) * 16 + n / 0x100 % 0x10) * 16 + n / 0x10 % 0x10) * 16 +
        n % 0x10) := by
    simp only [natural?, hex4, List.foldl_cons, List.foldl_nil, Option.bind_eq_bind,
      Option.bind_some, pure]
    rw [digit?_digitChar _ (by omega), digit?_digitChar _ (by omega),
      digit?_digitChar _ (by omega), digit?_digitChar _ (by omega)]
    rfl
  rw [hdigits]
  congr 1
  omega

theorem unescaped?_of_lookup {u : UInt16} {c : Char} (h : shortEscapes.lookup u = some c) :
    c ≠ 'u' ∧ unescaped? c = some u := by
  have hall : ∀ e ∈ shortEscapes, e.2 ≠ 'u' ∧ unescaped? e.2 = some e.1 := by decide
  obtain ⟨before, after, hsplit, -⟩ := List.lookup_eq_some_iff.1 h
  exact hall (u, c) (by rw [hsplit]; simp)

theorem readUnits_closing (cs : List Char) : readUnits ('"' :: cs) = some ([], cs) := by
  rw [readUnits.eq_def]
  dsimp only
  rw [if_pos rfl]

theorem readUnits_char {c : Char} (hquote : c ≠ '"') (hslash : c ≠ '\\') (hcontrol : 0x20 ≤ c.toNat)
    (cs : List Char) :
    readUnits (c :: cs) = (readUnits cs).map fun r => (unitsOf c ++ r.1, r.2) := by
  rw [readUnits.eq_def]
  dsimp only
  rw [if_neg hquote, if_neg hslash, if_neg (by omega)]

theorem readUnits_quoteUnit (u : UInt16) (cs : List Char) :
    readUnits (quoteUnit u ++ cs) = (readUnits cs).map fun r => (u :: r.1, r.2) := by
  have hsize := u.toNat_lt
  unfold quoteUnit
  cases hescape : shortEscapes.lookup u with
  | some c =>
    obtain ⟨hne, hread⟩ := unescaped?_of_lookup hescape
    simp only [List.cons_append, List.nil_append]
    rw [readUnits.eq_def]
    dsimp only
    rw [if_neg (by decide), if_pos rfl, if_neg hne, hread, Option.bind_some]
  | none =>
    rw [List.lookup_eq_none_iff] at hescape
    dsimp only
    split_ifs with hcoded
    · have hhex := natural?_hex4 hsize
      simp only [hex4] at hhex
      simp only [hex4, List.cons_append, List.nil_append]
      rw [readUnits, if_neg (by decide), if_pos rfl, if_pos rfl, hhex, Option.bind_some,
        UInt16.ofNat_toNat]
    · simp only [isLead, isTrail, decide_eq_true_eq] at hcoded
      push Not at hcoded
      have hvalid : u.toNat.isValidChar := by
        unfold Nat.isValidChar
        omega
      have hnat := toNat_ofNat hvalid
      have hne {v : UInt16} {c : Char} (hv : (v, c) ∈ shortEscapes) (d : Char)
          (hd : d.toNat = v.toNat) : Char.ofNat u.toNat ≠ d := by
        rintro rfl
        rw [hnat, UInt16.toNat_inj] at hd
        have hbne := hescape (v, c) hv
        rw [hd] at hbne
        simp at hbne
      have hunits : unitsOf (Char.ofNat u.toNat) = [u] := by
        rw [unitsOf, hnat, if_pos (by omega), UInt16.ofNat_toNat]
      rw [List.singleton_append, readUnits_char (hne (v := 0x22) (c := '"') (by decide) _ rfl)
        (hne (v := 0x5C) (c := '\\') (by decide) _ rfl) (by omega), hunits]
      rfl

theorem unitsOf_pairChar {u w : UInt16} (hlead : isLead u = true) (htrail : isTrail w = true) :
    unitsOf (pairChar u w) = [u, w] ∧ 0x10000 ≤ (pairChar u w).toNat := by
  simp only [isLead, isTrail, decide_eq_true_eq] at hlead htrail
  have hnat : (pairChar u w).toNat =
      0x10000 + (u.toNat - 0xD800) * 0x400 + (w.toNat - 0xDC00) := by
    apply toNat_ofNat
    unfold Nat.isValidChar
    omega
  refine ⟨?_, by omega⟩
  have hu : 0xD800 + (0x10000 + (u.toNat - 0xD800) * 0x400 + (w.toNat - 0xDC00) - 0x10000) / 0x400 =
      u.toNat := by omega
  have hw : 0xDC00 + (0x10000 + (u.toNat - 0xD800) * 0x400 + (w.toNat - 0xDC00) - 0x10000) % 0x400 =
      w.toNat := by omega
  rw [unitsOf, if_neg (by omega), hnat, hu, hw, UInt16.ofNat_toNat, UInt16.ofNat_toNat]

theorem readUnits_quoteUnits (us : CodeUnits) (rest : List Char) :
    readUnits (quoteUnits us ++ '"' :: rest) = some (us, rest) := by
  induction us using quoteUnits.induct with
  | case1 => exact readUnits_closing rest
  | case2 u =>
    rw [quoteUnits, readUnits_quoteUnit, readUnits_closing]
    rfl
  | case3 u w us hpair ih =>
    obtain ⟨hunits, hlarge⟩ := unitsOf_pairChar hpair.1 hpair.2
    have hne {d : Char} (hd : d.toNat < 0x10000) : pairChar u w ≠ d := by
      rintro rfl
      omega
    rw [quoteUnits, if_pos hpair, List.cons_append,
      readUnits_char (hne (by decide)) (hne (by decide)) (by omega), ih, hunits]
    rfl
  | case4 u w us hpair ih =>
    rw [quoteUnits, if_neg hpair, List.append_assoc, readUnits_quoteUnit, ih]
    rfl

/-! ### Values -/

/-- The number of an array index: digits without a leading zero, below `2 ^ 32 - 1`. -/
def arrayIndex? (key : CodeUnits) : Option ℕ :=
  let index := key.foldl (fun n u => n * 10 + (u.toNat - 48)) 0
  if key ≠ [] ∧ key.all (fun u => 48 ≤ u.toNat ∧ u.toNat ≤ 57) ∧
      (key.head? = some 48 → key = [48]) ∧ index < 2 ^ 32 - 1 then some index
  else none

section Values

variable {ν : Type}

/-- The order in which the language lists the properties of an object: array indices ascending,
then the others as they were added. -/
def propertyOrder (members : List (CodeUnits × Json ν)) : List (CodeUnits × Json ν) :=
  (members.filter fun m => (arrayIndex? m.1).isSome).mergeSort
      (fun m m' => (arrayIndex? m.1).getD 0 ≤ (arrayIndex? m'.1).getD 0) ++
    members.filter fun m => (arrayIndex? m.1).isNone

inductive IsValue : Json ν → Prop
  | null : IsValue .null
  | bool (value : Bool) : IsValue (.bool value)
  | number (value : ν) : IsValue (.number value)
  | string (value : CodeUnits) : IsValue (.string value)
  | array (items : List (Json ν)) (hitems : ∀ v ∈ items, IsValue v) : IsValue (.array items)
  | object (members : List (CodeUnits × Json ν)) (hunique : (members.map Prod.fst).Nodup)
      (horder : propertyOrder members = members) (hmembers : ∀ m ∈ members, IsValue m.2) :
      IsValue (.object members)

variable (N : Numerals ν)

mutual

/-- `JSON.stringify`. -/
def stringify : Json ν → List Char
  | .null => ['n', 'u', 'l', 'l']
  | .bool value => if value then ['t', 'r', 'u', 'e'] else ['f', 'a', 'l', 's', 'e']
  | .number value => N.shown value
  | .string value => quote value
  | .array items => '[' :: [','].intercalate (stringifyItems items) ++ [']']
  | .object members => '{' :: [','].intercalate (stringifyMembers members) ++ ['}']

def stringifyItems : List (Json ν) → List (List Char)
  | [] => []
  | value :: items => stringify value :: stringifyItems items

def stringifyMembers : List (CodeUnits × Json ν) → List (List Char)
  | [] => []
  | (key, value) :: members => (quote key ++ ':' :: stringify value) :: stringifyMembers members

end

def stringifyMember (m : CodeUnits × Json ν) : List Char := quote m.1 ++ ':' :: stringify N m.2

def skipBlank (text : List Char) : List Char := text.dropWhile isBlank

section Readers

variable {α : Type} (item : List Char → Option (α × List Char)) (close : Char)

/-- Items separated by commas, up to the closing bracket. -/
def readSequence : ℕ → List Char → Option (List α × List Char)
  | 0, _ => none
  | fuel + 1, text => do
      let (x, cs) ← item text
      match skipBlank cs with
      | [] => none
      | c :: cs =>
        if c = ',' then do
          let (xs, rest) ← readSequence fuel cs
          pure (x :: xs, rest)
        else if c = close then some ([x], cs)
        else none

def readItems (text : List Char) : Option (List α × List Char) :=
  match skipBlank text with
  | [] => none
  | c :: cs => if c = close then some ([], cs) else readSequence item close text.length text

def readMember (text : List Char) : Option ((CodeUnits × α) × List Char) :=
  match skipBlank text with
  | [] => none
  | c :: cs =>
    if c = '"' then do
      let (key, cs) ← readUnits cs
      match skipBlank cs with
      | [] => none
      | c :: cs =>
        if c = ':' then do
          let (value, rest) ← item cs
          pure ((key, value), rest)
        else none
    else none

end Readers

def words : List (List Char × Json ν) :=
  [(['n', 'u', 'l', 'l'], .null), (['t', 'r', 'u', 'e'], .bool true),
    (['f', 'a', 'l', 's', 'e'], .bool false)]

def readWord (text : List Char) : Option (Json ν × List Char) :=
  match words.find? fun w => w.1.isPrefixOf text with
  | some w => some (w.2, text.drop w.1.length)
  | none =>
    (N.read (text.takeWhile isNumeric)).map fun value =>
      (.number value, text.dropWhile isNumeric)

/-- The fuel bounds the depth of what is read. -/
def readValue : ℕ → List Char → Option (Json ν × List Char)
  | 0, _ => none
  | fuel + 1, text =>
    match skipBlank text with
    | [] => none
    | c :: cs =>
      if c = '"' then (readUnits cs).map fun r => (.string r.1, r.2)
      else if c = '[' then
        (readItems (readValue fuel) ']' cs).map fun r => (.array r.1, r.2)
      else if c = '{' then
        (readItems (readMember (readValue fuel)) '}' cs).map fun r =>
          (.object (propertyOrder (lastOfEach Prod.fst r.1)), r.2)
      else readWord N (c :: cs)

/-- `JSON.parse`. -/
def parse (text : List Char) : Option (Json ν) := do
  let (value, rest) ← readValue N text.length text
  if skipBlank rest = [] then pure value else none

end Values

/-! ### Round trip -/

theorem stringifyItems_eq {ν : Type} (N : Numerals ν) (items : List (Json ν)) :
    stringifyItems N items = items.map (stringify N) := by
  induction items with
  | nil => rfl
  | cons value items ih => rw [stringifyItems, ih, List.map_cons]

theorem stringifyMembers_eq {ν : Type} (N : Numerals ν) (members : List (CodeUnits × Json ν)) :
    stringifyMembers N members = members.map (stringifyMember N) := by
  induction members with
  | nil => rfl
  | cons m members ih => rw [stringifyMembers, ih, List.map_cons, stringifyMember]

/-- A text behind a number ends the number. -/
def Stops (rest : List Char) : Prop := ∀ c ∈ rest.head?, isNumeric c = false

theorem stops_cons {c : Char} (h : isNumeric c = false) (cs : List Char) : Stops (c :: cs) := by
  intro d hd
  rwa [← Option.some.inj hd]

/-- A text that a reader of items takes for an item. -/
def Opens (text : List Char) : Prop :=
  ∃ c cs, text = c :: cs ∧ isBlank c = false ∧ c ≠ ']' ∧ c ≠ '}'

theorem skipBlank_cons {c : Char} (h : isBlank c = false) (cs : List Char) :
    skipBlank (c :: cs) = c :: cs :=
  List.dropWhile_cons_of_neg (by simp [h])

theorem length_le_intercalate {ts : List (List Char)} {t : List Char} (ht : t ∈ ts) :
    t.length ≤ ([','].intercalate ts).length := by
  induction ts with
  | nil => cases ht
  | cons u ts ih =>
    cases ts with
    | nil => simp [List.mem_singleton.1 ht]
    | cons w ts =>
      rw [List.intercalate_cons_cons, List.length_append, List.length_append]
      rcases List.mem_cons.1 ht with rfl | ht
      · omega
      · have := ih ht
        omega

theorem length_le_length_intercalate {ts : List (List Char)} (hts : ∀ t ∈ ts, t ≠ []) :
    ts.length ≤ ([','].intercalate ts).length := by
  induction ts with
  | nil => exact Nat.zero_le _
  | cons u ts ih =>
    obtain ⟨hu, hts⟩ := List.forall_mem_cons.1 hts
    have hlength := List.length_pos_of_ne_nil hu
    cases ts with
    | nil => rwa [List.intercalate_singleton]
    | cons w ts =>
      have := ih hts
      rw [List.intercalate_cons_cons, List.length_append, List.length_append, List.length_cons]
      omega

theorem intercalate_cons (t : List Char) (ts : List (List Char)) :
    [','].intercalate (t :: ts) = t ++ ts.flatMap (',' :: ·) := by
  induction ts generalizing t with
  | nil => rw [List.intercalate_singleton, List.flatMap_nil, List.append_nil]
  | cons u ts ih =>
    rw [List.intercalate_cons_cons, ih u, List.flatMap_cons, List.append_assoc]
    rfl

section Sequences

variable {α : Type} {item : List Char → Option (α × List Char)} {shown : α → List Char}
  {close : Char} {xs : List α}

theorem readSequence_intercalate (hclose : close = ']' ∨ close = '}') (hne : xs ≠ [])
    (hitem : ∀ x ∈ xs, ∀ rest, Stops rest → item (shown x ++ rest) = some (x, rest)) {fuel : ℕ}
    (hfuel : xs.length ≤ fuel) (rest : List Char) :
    readSequence item close fuel ([','].intercalate (xs.map shown) ++ close :: rest) =
      some (xs, rest) := by
  have hblank : isBlank close = false := by rcases hclose with rfl | rfl <;> decide
  have hnumeric : isNumeric close = false := by rcases hclose with rfl | rfl <;> decide
  have hcomma : close ≠ ',' := by rcases hclose with rfl | rfl <;> decide
  induction xs generalizing fuel with
  | nil => exact absurd rfl hne
  | cons x xs ih =>
    obtain ⟨hx, hxs⟩ := List.forall_mem_cons.1 hitem
    obtain ⟨fuel, rfl⟩ : ∃ n, fuel = n + 1 := ⟨fuel - 1, by simp at hfuel; omega⟩
    cases xs with
    | nil =>
      rw [List.map_cons, List.map_nil, List.intercalate_singleton, readSequence,
        hx _ (stops_cons hnumeric _), Option.bind_eq_bind, Option.bind_some]
      dsimp only
      rw [skipBlank_cons hblank]
      dsimp only
      rw [if_neg hcomma, if_pos rfl]
    | cons y xs =>
      rw [List.map_cons, List.map_cons, List.intercalate_cons_cons, List.append_assoc,
        List.append_assoc, List.singleton_append, readSequence,
        hx _ (stops_cons (by decide) _), Option.bind_eq_bind, Option.bind_some]
      dsimp only
      rw [skipBlank_cons (by decide)]
      dsimp only
      rw [if_pos rfl, ← List.map_cons,
        ih (List.cons_ne_nil y xs) hxs (Nat.le_of_succ_le_succ hfuel)]
      rfl

theorem readItems_intercalate (hclose : close = ']' ∨ close = '}')
    (hopens : ∀ x ∈ xs, Opens (shown x))
    (hitem : ∀ x ∈ xs, ∀ rest, Stops rest → item (shown x ++ rest) = some (x, rest))
    (rest : List Char) :
    readItems item close ([','].intercalate (xs.map shown) ++ close :: rest) = some (xs, rest) := by
  have hblank : isBlank close = false := by rcases hclose with rfl | rfl <;> decide
  cases xs with
  | nil =>
    rw [List.map_nil, List.intercalate_nil, List.nil_append, readItems, skipBlank_cons hblank]
    dsimp only
    rw [if_pos rfl]
  | cons x xs =>
    obtain ⟨c, cs, hx, hc, hsquare, hcurly⟩ := hopens x List.mem_cons_self
    have hne : c ≠ close := by rcases hclose with rfl | rfl <;> assumption
    have hlength : (x :: xs).length ≤
        ([','].intercalate ((x :: xs).map shown) ++ close :: rest).length := by
      have hne : ∀ t ∈ (x :: xs).map shown, t ≠ [] := by
        intro t ht
        obtain ⟨y, hy, rfl⟩ := List.mem_map.1 ht
        obtain ⟨d, ds, hd, -⟩ := hopens y hy
        rw [hd]
        exact List.cons_ne_nil d ds
      have hwords := length_le_length_intercalate hne
      rw [List.length_map] at hwords
      rw [List.length_append]
      omega
    have hhead : ∃ ds, [','].intercalate ((x :: xs).map shown) ++ close :: rest = c :: ds := by
      rw [List.map_cons, hx]
      cases xs with
      | nil => exact ⟨cs ++ close :: rest, by simp⟩
      | cons y xs => exact ⟨_, by rw [List.map_cons, List.intercalate_cons_cons]; rfl⟩
    obtain ⟨ds, hds⟩ := hhead
    have hread := readSequence_intercalate hclose (List.cons_ne_nil x xs) hitem hlength rest
    rw [readItems, hds, skipBlank_cons hc]
    dsimp only
    rw [if_neg hne, ← hds, hread]

end Sequences

section RoundTrip

variable {ν : Type} {N : Numerals ν}

theorem shown_ne_nil (x : ν) : N.shown x ≠ [] := by
  intro h
  have hread := N.read_shown x
  rw [h, N.read_nil] at hread
  cases hread

theorem ne_of_isNumeric {c d : Char} (hc : isNumeric c = true) (hd : isNumeric d = false) :
    c ≠ d := by
  rintro rfl
  rw [hc] at hd
  cases hd

theorem exists_shown (x : ν) : ∃ c cs, N.shown x = c :: cs ∧ isNumeric c = true := by
  obtain ⟨c, cs, h⟩ := List.exists_cons_of_ne_nil (shown_ne_nil (N := N) x)
  exact ⟨c, cs, h, N.numeric_shown x c (by rw [h]; exact List.mem_cons_self)⟩

theorem isBlank_of_isNumeric {c : Char} (h : isNumeric c = true) : isBlank c = false := by
  have hall : [' ', '\t', '\n', '\r'].all (fun d => !isNumeric d) = true := by decide
  rw [isBlank, decide_eq_false_iff_not]
  intro hc
  have hnot := List.all_eq_true.1 hall c hc
  rw [h] at hnot
  cases hnot

theorem opens_stringify (v : Json ν) : Opens (stringify N v) := by
  cases v with
  | null => exact ⟨'n', _, rfl, by decide, by decide, by decide⟩
  | bool value =>
    cases value with
    | false => exact ⟨'f', _, rfl, by decide, by decide, by decide⟩
    | true => exact ⟨'t', _, rfl, by decide, by decide, by decide⟩
  | number x =>
    obtain ⟨c, cs, h, hc⟩ := exists_shown (N := N) x
    exact ⟨c, cs, h, isBlank_of_isNumeric hc, ne_of_isNumeric hc (by decide),
      ne_of_isNumeric hc (by decide)⟩
  | string s => exact ⟨'"', _, rfl, by decide, by decide, by decide⟩
  | array items => exact ⟨'[', _, rfl, by decide, by decide, by decide⟩
  | object members => exact ⟨'{', _, rfl, by decide, by decide, by decide⟩

theorem opens_stringifyMember (m : CodeUnits × Json ν) : Opens (stringifyMember N m) :=
  ⟨'"', _, rfl, by decide, by decide, by decide⟩

theorem readWord_shown (x : ν) {rest : List Char} (hrest : Stops rest) :
    readWord N (N.shown x ++ rest) = some (.number x, rest) := by
  obtain ⟨c, cs, hshown, hc⟩ := exists_shown (N := N) x
  have hword : (words (ν := ν)).find? (fun w => w.1.isPrefixOf (N.shown x ++ rest)) =
      none := by
    rw [hshown, List.find?_eq_none]
    simp [words, (ne_of_isNumeric hc (by decide : isNumeric 'n' = false)).symm,
      (ne_of_isNumeric hc (by decide : isNumeric 't' = false)).symm,
      (ne_of_isNumeric hc (by decide : isNumeric 'f' = false)).symm]
  have htake : rest.takeWhile isNumeric = [] := by
    cases rest with
    | nil => rfl
    | cons d ds => exact List.takeWhile_cons_of_neg (by simp [hrest d rfl])
  have hdrop : rest.dropWhile isNumeric = rest := by
    cases rest with
    | nil => rfl
    | cons d ds => exact List.dropWhile_cons_of_neg (by simp [hrest d rfl])
  rw [readWord, hword]
  dsimp only
  rw [List.takeWhile_append_of_pos (N.numeric_shown x),
    List.dropWhile_append_of_pos (N.numeric_shown x), htake, hdrop, List.append_nil, N.read_shown]
  rfl

theorem readMember_stringifyMember {item : List Char → Option (Json ν × List Char)}
    {m : CodeUnits × Json ν} {rest : List Char}
    (hitem : item (stringify N m.2 ++ rest) = some (m.2, rest)) :
    readMember item (stringifyMember N m ++ rest) = some (m, rest) := by
  have htext : stringifyMember N m ++ rest =
      '"' :: (quoteUnits m.1 ++ '"' :: ':' :: (stringify N m.2 ++ rest)) := by
    simp [stringifyMember, quote]
  rw [htext, readMember, skipBlank_cons (by decide)]
  dsimp only
  rw [if_pos rfl, readUnits_quoteUnits, Option.bind_eq_bind, Option.bind_some]
  dsimp only
  rw [skipBlank_cons (by decide)]
  dsimp only
  rw [if_pos rfl, hitem]
  rfl

theorem exists_fuel {v : Json ν} {fuel : ℕ} (h : (stringify N v).length ≤ fuel) :
    ∃ n, fuel = n + 1 := by
  obtain ⟨c, cs, hv, -⟩ := opens_stringify (N := N) v
  rw [hv, List.length_cons] at h
  exact ⟨fuel - 1, by omega⟩

/-- What a value is written as is read as the value, whatever stands behind it. -/
theorem readValue_stringify {v : Json ν} (hv : IsValue v) :
    ∀ {fuel : ℕ}, (stringify N v).length ≤ fuel → ∀ {rest : List Char}, Stops rest →
      readValue N fuel (stringify N v ++ rest) = some (v, rest) := by
  induction hv with
  | null =>
    intro fuel hfuel rest hrest
    obtain ⟨fuel, rfl⟩ := exists_fuel hfuel
    rfl
  | bool value =>
    intro fuel hfuel rest hrest
    obtain ⟨fuel, rfl⟩ := exists_fuel hfuel
    cases value <;> rfl
  | number x =>
    intro fuel hfuel rest hrest
    obtain ⟨fuel, rfl⟩ := exists_fuel hfuel
    obtain ⟨c, cs, hshown, hc⟩ := exists_shown (N := N) x
    have hword := readWord_shown (N := N) x hrest
    rw [hshown, List.cons_append] at hword
    rw [stringify, hshown, List.cons_append, readValue, skipBlank_cons (isBlank_of_isNumeric hc)]
    dsimp only
    rw [if_neg (ne_of_isNumeric hc (by decide)), if_neg (ne_of_isNumeric hc (by decide)),
      if_neg (ne_of_isNumeric hc (by decide)), hword]
  | string s =>
    intro fuel hfuel rest hrest
    obtain ⟨fuel, rfl⟩ := exists_fuel hfuel
    rw [stringify, quote, List.append_assoc, List.cons_append, readValue,
      skipBlank_cons (by decide)]
    dsimp only
    rw [if_pos rfl, List.singleton_append, readUnits_quoteUnits]
    rfl
  | array items hitems ih =>
    intro fuel hfuel rest hrest
    obtain ⟨fuel, rfl⟩ := exists_fuel hfuel
    rw [stringify, stringifyItems_eq] at hfuel ⊢
    have hitem : ∀ v ∈ items, ∀ rest, Stops rest →
        readValue N fuel (stringify N v ++ rest) = some (v, rest) := by
      intro v hv rest hrest
      have hlength := length_le_intercalate (List.mem_map_of_mem (f := stringify N) hv)
      rw [List.length_append, List.length_cons] at hfuel
      exact ih v hv (by omega) hrest
    rw [List.append_assoc, List.cons_append, readValue, skipBlank_cons (by decide)]
    dsimp only
    rw [if_neg (by decide), if_pos rfl, List.singleton_append,
      readItems_intercalate (.inl rfl) (fun v _ => opens_stringify v) hitem]
    rfl
  | object members hunique horder hmembers ih =>
    intro fuel hfuel rest hrest
    obtain ⟨fuel, rfl⟩ := exists_fuel hfuel
    rw [stringify, stringifyMembers_eq] at hfuel ⊢
    have hmember : ∀ m ∈ members, ∀ rest, Stops rest →
        readMember (readValue N fuel) (stringifyMember N m ++ rest) = some (m, rest) := by
      intro m hm rest hrest
      have hlength := length_le_intercalate (List.mem_map_of_mem (f := stringifyMember N) hm)
      have hvalue : (stringify N m.2).length ≤ (stringifyMember N m).length := by
        rw [stringifyMember, List.length_append, List.length_cons]
        omega
      rw [List.length_append, List.length_cons] at hfuel
      exact readMember_stringifyMember (ih m hm (by omega) hrest)
    rw [List.append_assoc, List.cons_append, readValue, skipBlank_cons (by decide)]
    dsimp only
    rw [if_neg (by decide), if_neg (by decide), if_pos rfl, List.singleton_append,
      readItems_intercalate (.inr rfl) (fun m _ => opens_stringifyMember m) hmember]
    dsimp only [Option.map_some]
    rw [lastOfEach_of_nodup hunique, horder]

theorem parse_stringify {v : Json ν} (hv : IsValue v) : parse N (stringify N v) = some v := by
  have hread := readValue_stringify hv le_rfl (N := N) (show Stops [] by simp [Stops])
  rw [List.append_nil] at hread
  rw [parse, hread]
  rfl

end RoundTrip

/-! ### Bytes -/

/-- `Buffer.from(text, 'utf8')`. -/
def utf8 (text : List Char) : List UInt8 := text.flatMap String.utf8EncodeChar

theorem utf8_append (text text' : List Char) : utf8 (text ++ text') = utf8 text ++ utf8 text' :=
  List.flatMap_append

/-- The bytes that may follow a first byte, in order. -/
def followers (first : UInt8) : List (UInt8 × UInt8) :=
  if first < 0xC2 then []
  else if first < 0xE0 then [(0x80, 0xBF)]
  else if first = 0xE0 then [(0xA0, 0xBF), (0x80, 0xBF)]
  else if first = 0xED then [(0x80, 0x9F), (0x80, 0xBF)]
  else if first < 0xF0 then [(0x80, 0xBF), (0x80, 0xBF)]
  else if first = 0xF0 then [(0x90, 0xBF), (0x80, 0xBF), (0x80, 0xBF)]
  else if first < 0xF4 then [(0x80, 0xBF), (0x80, 0xBF), (0x80, 0xBF)]
  else if first = 0xF4 then [(0x80, 0x8F), (0x80, 0xBF), (0x80, 0xBF)]
  else []

/-- How many bytes one replacement character stands for: what begins like a character. -/
def brokenLength : List UInt8 → ℕ
  | [] => 0
  | first :: bytes =>
    1 + (((followers first).zip bytes).takeWhile fun p => p.1.1 ≤ p.2 ∧ p.2 ≤ p.1.2).length

/-- `toString('utf8')`: what is no character becomes replacement characters. -/
def decodeUtf8 : ℕ → List UInt8 → List Char
  | 0, _ => []
  | _, [] => []
  | fuel + 1, bytes =>
    match bytes.toByteArray.utf8DecodeChar? 0 with
    | some c => c :: decodeUtf8 fuel (bytes.drop c.utf8Size)
    | none => '\uFFFD' :: decodeUtf8 fuel (bytes.drop (brokenLength bytes))

def utf8Text (bytes : List UInt8) : List Char := decodeUtf8 bytes.length bytes

theorem length_le_length_utf8 (text : List Char) : text.length ≤ (utf8 text).length := by
  induction text with
  | nil => exact le_rfl
  | cons c text ih =>
    have hc := c.utf8Size_pos
    rw [utf8, List.flatMap_cons, List.length_append, String.length_utf8EncodeChar,
      List.length_cons]
    rw [utf8] at ih
    omega

theorem decodeUtf8_utf8 {text : List Char} {fuel : ℕ} (h : text.length ≤ fuel) :
    decodeUtf8 fuel (utf8 text) = text := by
  induction text generalizing fuel with
  | nil => cases fuel <;> rfl
  | cons c text ih =>
    obtain ⟨fuel, rfl⟩ : ∃ n, fuel = n + 1 := ⟨fuel - 1, by rw [List.length_cons] at h; omega⟩
    have hbytes : utf8 (c :: text) = String.utf8EncodeChar c ++ utf8 text := rfl
    have hne : utf8 (c :: text) ≠ [] := by
      rw [hbytes]
      exact List.append_ne_nil_of_left_ne_nil String.utf8EncodeChar_ne_nil _
    have hfirst : (utf8 (c :: text)).toByteArray.utf8DecodeChar? 0 = some c := by
      rw [hbytes, List.toByteArray_append]
      exact ByteArray.utf8DecodeChar?_utf8EncodeChar_append
    have hdrop : (utf8 (c :: text)).drop c.utf8Size = utf8 text := by
      rw [hbytes, ← String.length_utf8EncodeChar, List.drop_left]
    rw [decodeUtf8]
    · rw [hfirst]
      dsimp only
      rw [hdrop, ih (Nat.le_of_succ_le_succ h)]
    · exact hne

theorem utf8Text_utf8 (text : List Char) : utf8Text (utf8 text) = text :=
  decodeUtf8_utf8 (length_le_length_utf8 text)

end JsonText
