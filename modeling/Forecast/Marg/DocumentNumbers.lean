import Forecast.Marg.AccountPostings
import Forecast.Marg.DocumentFamily

/-!
# The numbers of projected documents

A purchase order, a goods receipt and a ledger account are projected under a number that is made
of the company and a cleaned text, cut to the width of its column. What the cleaning and the cut
take away can be all that two documents differ in, and then the later one is written over the
earlier one.
-/

open JsText KeyedTable

namespace Forecast.MargNumbers

/-! ### Runs of characters -/

/-- `replace(/[p]+/g, c)`; `inRun` says that the character before was one of a run. -/
def replaceRuns (p : Char → Bool) (c : Char) (inRun : Bool) : List Char → List Char
  | [] => []
  | x :: xs =>
    if p x then if inRun then replaceRuns p c true xs else c :: replaceRuns p c true xs
    else x :: replaceRuns p c false xs

/-- The letters and digits in their runs; `word` is the run that is being read. -/
def wordsFrom (word : List Char) : List Char → List (List Char)
  | [] => if word = [] then [] else [word]
  | c :: cs =>
    if isUpperOrDigit c then wordsFrom (word ++ [c]) cs
    else if word = [] then wordsFrom [] cs
    else word :: wordsFrom [] cs

example : wordsFrom [] (replaceRuns (· = '/') '-' false ['A', '/', '/', '1']) = [['A'], ['1']] := by
  simp [replaceRuns, wordsFrom, isUpperOrDigit]

def hyphenated (cs : List Char) : List Char := ['-'].intercalate (wordsFrom [] cs)

/-- One hyphen at the end is taken away. -/
def dropLastHyphen (cs : List Char) : List Char :=
  if cs.getLast? = some '-' then cs.dropLast else cs

/-- One hyphen at either end is taken away. -/
def stripHyphens : List Char → List Char
  | '-' :: cs => dropLastHyphen cs
  | cs => dropLastHyphen cs

def isOther (c : Char) : Bool := !isUpperOrDigit c

theorem isUpperOrDigit_hyphen : isUpperOrDigit '-' = false := by decide

theorem ne_hyphen {c : Char} (h : isUpperOrDigit c = true) : c ≠ '-' := by
  rintro rfl
  rw [isUpperOrDigit_hyphen] at h
  cases h

section Runs

variable {p : Char → Bool} {c x : Char}

theorem replaceRuns_of_false (h : p x = false) (inRun : Bool) (xs : List Char) :
    replaceRuns p c inRun (x :: xs) = x :: replaceRuns p c false xs :=
  if_neg (by rw [h]; exact Bool.false_ne_true)

theorem replaceRuns_start (h : p x = true) (xs : List Char) :
    replaceRuns p c false (x :: xs) = c :: replaceRuns p c true xs := if_pos h

theorem replaceRuns_inRun (h : p x = true) (xs : List Char) :
    replaceRuns p c true (x :: xs) = replaceRuns p c true xs := if_pos h

end Runs

theorem isOther_of_part {c : Char} (h : isUpperOrDigit c = true) : isOther c = false := by
  simp [isOther, h]

theorem isOther_of_not_part {c : Char} (h : isUpperOrDigit c = false) : isOther c = true := by
  simp [isOther, h]

/-- The two replacements together put a hyphen for each run of other characters. -/
theorem replaceRuns_replaceRuns (cs : List Char) {inOther inRun : Bool}
    (h : inOther = true → inRun = true) :
    replaceRuns (· = '-') '-' inRun
        (replaceRuns (fun c => isOther c && c ≠ '-') '-' inOther cs) =
      replaceRuns isOther '-' inRun cs := by
  induction cs generalizing inOther inRun with
  | nil => rfl
  | cons c cs ih =>
    rcases Bool.eq_false_or_eq_true (isUpperOrDigit c) with hc | hc
    · rw [replaceRuns_of_false (by simp [isOther, hc]),
        replaceRuns_of_false (by simp [ne_hyphen hc]), replaceRuns_of_false (isOther_of_part hc),
        ih (by simp)]
    · have hother := isOther_of_not_part hc
      by_cases hyphen : c = '-'
      · -- a hyphen of the text stays in the first replacement
        rw [replaceRuns_of_false (by simp [hyphen])]
        cases inRun with
        | true => rw [replaceRuns_inRun (by simp [hyphen]), replaceRuns_inRun hother, ih (by simp)]
        | false =>
          rw [replaceRuns_start (by simp [hyphen]), replaceRuns_start hother, ih (by simp)]
      · have hreplaced : (isOther c && decide (c ≠ '-')) = true := by simp [hother, hyphen]
        cases inOther with
        | true => rw [replaceRuns_inRun hreplaced, h rfl, replaceRuns_inRun hother, ih fun _ => rfl]
        | false =>
          rw [replaceRuns_start hreplaced]
          cases inRun with
          | true => rw [replaceRuns_inRun (by simp), replaceRuns_inRun hother, ih fun _ => rfl]
          | false => rw [replaceRuns_start (by simp), replaceRuns_start hother, ih fun _ => rfl]

theorem dropLastHyphen_cons {c : Char} {cs : List Char} (h : c ≠ '-' ∨ cs ≠ []) :
    dropLastHyphen (c :: cs) = c :: dropLastHyphen cs := by
  cases cs with
  | nil =>
    have hc : c ≠ '-' := h.resolve_right fun hcs => hcs rfl
    simp [dropLastHyphen, hc]
  | cons d ds =>
    unfold dropLastHyphen
    rw [List.getLast?_cons_cons]
    split_ifs with hlast
    · rfl
    · rfl

theorem wordsFrom_ne_nil {word : List Char} (h : word ≠ []) (cs : List Char) :
    wordsFrom word cs ≠ [] := by
  induction cs generalizing word with
  | nil => simp [wordsFrom, h]
  | cons c cs ih =>
    rw [wordsFrom]
    split_ifs
    · exact ih (by simp)
    · simp

/-- Read inside a word, what is left of the text stands behind it; read between words, it stands
without the hyphen in front. -/
theorem intercalate_wordsFrom (cs : List Char) :
    (∀ word ≠ [], ['-'].intercalate (wordsFrom word cs) =
      word ++ dropLastHyphen (replaceRuns isOther '-' false cs)) ∧
    hyphenated cs = dropLastHyphen (replaceRuns isOther '-' true cs) ∧
    (wordsFrom [] cs = [] ↔ replaceRuns isOther '-' true cs = []) := by
  induction cs with
  | nil =>
    refine ⟨fun word hword => ?_, rfl, by simp [wordsFrom, replaceRuns]⟩
    simp [wordsFrom, hword, replaceRuns, dropLastHyphen]
  | cons c cs ih =>
    obtain ⟨hinside, hbetween, hempty⟩ := ih
    rcases Bool.eq_false_or_eq_true (isUpperOrDigit c) with hc | hc
    · have hruns : ∀ inRun, replaceRuns isOther '-' inRun (c :: cs) =
          c :: replaceRuns isOther '-' false cs := by
        intro inRun
        simp [replaceRuns, isOther, hc]
      have hdrop : dropLastHyphen (c :: replaceRuns isOther '-' false cs) =
          c :: dropLastHyphen (replaceRuns isOther '-' false cs) :=
        dropLastHyphen_cons (Or.inl (ne_hyphen hc))
      have hwords : ∀ word, wordsFrom word (c :: cs) = wordsFrom (word ++ [c]) cs :=
        fun word => if_pos hc
      refine ⟨fun word _ => ?_, ?_, ?_⟩
      · rw [hwords, hruns, hdrop, hinside (word ++ [c]) (by simp), List.append_assoc]
        rfl
      · rw [hyphenated, hwords, hruns, hdrop, hinside ([] ++ [c]) (by simp)]
        rfl
      · rw [hwords, hruns]
        exact iff_of_false (wordsFrom_ne_nil (by simp) cs) (by simp)
    · have hwords : wordsFrom [] (c :: cs) = wordsFrom [] cs := by simp [wordsFrom, hc]
      have hruns : replaceRuns isOther '-' true (c :: cs) = replaceRuns isOther '-' true cs := by
        simp [replaceRuns, isOther, hc]
      refine ⟨fun word hword => ?_, ?_, ?_⟩
      · have hout : wordsFrom word (c :: cs) = word :: wordsFrom [] cs := by
          simp [wordsFrom, hc, hword]
        have hstart : replaceRuns isOther '-' false (c :: cs) =
            '-' :: replaceRuns isOther '-' true cs := by
          simp [replaceRuns, isOther, hc]
        rw [hout, hstart]
        by_cases hnone : wordsFrom [] cs = []
        · rw [hnone, hempty.1 hnone]
          simp [dropLastHyphen]
        · rw [dropLastHyphen_cons (Or.inr fun h => hnone (hempty.2 h)), ← hbetween, hyphenated]
          obtain ⟨next, words, hcons⟩ := List.exists_cons_of_ne_nil hnone
          rw [hcons, List.intercalate_cons_cons]
          simp
      · rw [hyphenated, hwords, hruns]
        exact hbetween
      · rw [hwords, hruns]
        exact hempty

theorem hyphenated_dropWhile (cs : List Char) :
    hyphenated (cs.dropWhile isOther) = hyphenated cs := by
  induction cs with
  | nil => rfl
  | cons c cs ih =>
    by_cases hc : isOther c = true
    · rw [List.dropWhile_cons_of_pos hc, ih, hyphenated, hyphenated]
      have hpart : isUpperOrDigit c = false := by simpa [isOther] using hc
      simp [wordsFrom, hpart]
    · rw [List.dropWhile_cons_of_neg hc]

theorem stripHyphens_replaceRuns (cs : List Char) :
    stripHyphens (replaceRuns isOther '-' false cs) = hyphenated cs := by
  rw [(intercalate_wordsFrom cs).2.1]
  cases cs with
  | nil => rfl
  | cons c cs =>
    rcases Bool.eq_false_or_eq_true (isUpperOrDigit c) with hc | hc
    · simp only [replaceRuns, isOther, hc, Bool.not_true, Bool.false_eq_true, if_false]
      rw [stripHyphens]
      rintro rest hrest
      exact ne_hyphen hc (List.cons.inj hrest).1
    · simp [replaceRuns, isOther, hc, stripHyphens]

/-! ### The cleaned number of a document -/

section Identifiers

variable (platform : Platform)

def normalizeMargCode (value : String) (maxLength : ℕ) : String :=
  leftText maxLength (upperText platform value)

/-- An absent value is the empty text. -/
def sanitizeMargProcurementIdentifier (value : String) (maxLength : ℕ) : String :=
  let code := normalizeMargCode platform value maxLength
  let normalized := (normalizeMargDocumentNumber platform value).getD
    (if code = "" then "UNKNOWN" else code)
  let sanitized := stripHyphens (replaceRuns (· = '-') '-' false
    (replaceRuns (fun c => isOther c && c ≠ '-') '-' false normalized.toList))
  leftText maxLength (if sanitized = [] then "UNKNOWN" else String.ofList sanitized)

def identifierText (value : String) : String :=
  let words := hyphenated (upperText platform value).toList
  if words = [] then "UNKNOWN" else String.ofList words

theorem hyphenated_eq_nil {cs : List Char} (h : cs.dropWhile isOther = []) :
    hyphenated cs = [] := by
  rw [← hyphenated_dropWhile, h]
  rfl

theorem hyphenated_take_eq_nil {cs : List Char} (h : cs.dropWhile isOther = []) (n : ℕ) :
    hyphenated (cs.take n) = [] := by
  apply hyphenated_eq_nil
  rw [List.dropWhile_eq_nil_iff] at h ⊢
  exact fun c hc => h c (List.mem_of_mem_take hc)

/-- Cleaning a text leaves its words, as many characters of them as the number takes. -/
theorem sanitizeMargProcurementIdentifier_eq (value : String) (n : ℕ) :
    sanitizeMargProcurementIdentifier platform value n =
      leftText n (identifierText platform value) := by
  have hsanitized : ∀ cs : List Char, stripHyphens (replaceRuns (· = '-') '-' false
      (replaceRuns (fun c => isOther c && c ≠ '-') '-' false cs)) = hyphenated cs := fun cs => by
    rw [replaceRuns_replaceRuns cs (fun h => h), stripHyphens_replaceRuns]
  simp only [sanitizeMargProcurementIdentifier, identifierText, hsanitized]
  refine congrArg (leftText n) ?_
  by_cases hnone : (upperText platform value).toList.dropWhile isOther = []
  · have hnormalized : normalizeMargDocumentNumber platform value = none := if_pos hnone
    rw [hnormalized, Option.getD_none, hyphenated_eq_nil hnone, if_pos rfl]
    by_cases hcode : normalizeMargCode platform value n = ""
    · rw [if_pos hcode]
      rfl
    · have hwords : hyphenated (normalizeMargCode platform value n).toList = [] := by
        rw [normalizeMargCode, leftText, String.toList_ofList]
        exact hyphenated_take_eq_nil hnone n
      rw [if_neg hcode, hwords, if_pos rfl]
  · have hnormalized : normalizeMargDocumentNumber platform value =
        some (String.ofList ((upperText platform value).toList.dropWhile isOther)) := if_neg hnone
    rw [hnormalized, Option.getD_some, String.toList_ofList, hyphenated_dropWhile]

example : hyphenated "A//1 ".toList = "A-1".toList := by decide +kernel

def resolveMargPurchaseOrderDocumentNumber (orn vcn voucher : String) : String :=
  (((normalizeOptionalText orn 50).or (normalizeOptionalText vcn 50)).or
    (normalizeOptionalText voucher 50)).getD "UNKNOWN"

def buildMargPurchaseOrderNumber (companyId : ℤ) (documentNumber : String) : String :=
  leftText 50 ("MARG-PO-" ++ toString companyId ++ "-" ++
    sanitizeMargProcurementIdentifier platform documentNumber 30)

def buildMargFallbackPurchaseOrderNumber (companyId : ℤ) (linked : Option String)
    (voucher vcn : String) : String :=
  let linkedOrderPart := sanitizeMargProcurementIdentifier platform (linked.getD "") 30
  if linkedOrderPart ≠ "" ∧ linkedOrderPart ≠ "UNKNOWN" then
    leftText 50 ("MARG-PIF-" ++ toString companyId ++ "-" ++ linkedOrderPart)
  else
    let invoicePart :=
      sanitizeMargProcurementIdentifier platform (if vcn = "" then voucher else vcn) 18
    let voucherPart := sanitizeMargProcurementIdentifier platform voucher 16
    leftText 50 ("MARG-PIF-" ++ toString companyId ++ "-" ++ invoicePart ++ "-" ++ voucherPart)

def buildMargGoodsReceiptNumber (companyId : ℤ) (voucher : String) : String :=
  leftText 50 ("MARG-GRN-" ++ toString companyId ++ "-" ++
    sanitizeMargProcurementIdentifier platform voucher 28)

end Identifiers

/-! ### Numbers that differ -/

/-- What staging takes for a company id. -/
def IsCompanyId (companyId : ℤ) : Prop := 0 < companyId ∧ companyId ≤ MargValue.int32Max

theorem hyphen_notMem_companyId {companyId : ℤ} (h : 0 < companyId) :
    '-' ∉ (toString companyId).toList := by
  obtain ⟨n, rfl⟩ := Int.eq_ofNat_of_zero_le h.le
  intro hmem
  have htext : (toString (n : ℤ)).toList = Nat.toDigits 10 n := Nat.toList_repr
  rw [htext] at hmem
  exact absurd (Nat.isDigit_of_mem_toDigits (by decide) (by decide) hmem) (by decide)

theorem length_companyId_le {companyId : ℤ} (h : IsCompanyId companyId) :
    (toString companyId).length ≤ 10 := by
  obtain ⟨n, rfl⟩ := Int.eq_ofNat_of_zero_le h.1.le
  have hbound : n < 10 ^ 10 := by
    have hle := h.2
    unfold MargValue.int32Max at hle
    omega
  have htext : (toString (n : ℤ)).length = (Nat.toDigits 10 n).length := by
    rw [← String.length_toList]
    exact congrArg List.length Nat.toList_repr
  rw [htext]
  exact (Nat.length_toDigits_le_iff (by decide) (by decide)).2 hbound

theorem append_cons_inj {sep : Char} {xs ys s t : List Char} (hxs : sep ∉ xs) (hys : sep ∉ ys) :
    xs ++ sep :: s = ys ++ sep :: t ↔ xs = ys ∧ s = t := by
  induction xs generalizing ys with
  | nil =>
    cases ys with
    | nil => simp
    | cons y ys =>
      have hne : sep ≠ y := fun h => hys (h ▸ List.mem_cons_self)
      simp [hne]
  | cons x xs ih =>
    have hne : x ≠ sep := fun h => hxs (h ▸ List.mem_cons_self)
    cases ys with
    | nil => simp [hne]
    | cons y ys =>
      have hrest := ih (fun h => hxs (List.mem_cons_of_mem _ h))
        fun h : sep ∈ ys => hys (List.mem_cons_of_mem _ h)
      rw [List.cons_append, List.cons_append, List.cons.injEq, hrest, List.cons.injEq, and_assoc]

theorem toString_companyId_inj {a b : ℤ} (ha : 0 < a) (hb : 0 < b)
    (h : (toString a).toList = (toString b).toList) : a = b := by
  obtain ⟨m, rfl⟩ := Int.eq_ofNat_of_zero_le ha.le
  obtain ⟨n, rfl⟩ := Int.eq_ofNat_of_zero_le hb.le
  have hm : (toString (m : ℤ)).toList = Nat.toDigits 10 m := Nat.toList_repr
  have hn : (toString (n : ℤ)).toList = Nat.toDigits 10 n := Nat.toList_repr
  rw [hm, hn] at h
  have hvalue := congrArg (Nat.ofDigitChars 10 · 0) h
  simp only [Nat.ofDigitChars_ten_toDigits] at hvalue
  exact congrArg Int.ofNat hvalue

/-- The company and what stands behind its hyphen are determined by the number. -/
theorem numbered_inj {a b : ℤ} (ha : 0 < a) (hb : 0 < b) (lead : List Char) {s t : List Char} :
    lead ++ ((toString a).toList ++ '-' :: s) = lead ++ ((toString b).toList ++ '-' :: t) ↔
      a = b ∧ s = t := by
  rw [List.append_cancel_left_eq,
    append_cons_inj (hyphen_notMem_companyId ha) (hyphen_notMem_companyId hb)]
  constructor
  · rintro ⟨hcompany, rfl⟩
    exact ⟨toString_companyId_inj ha hb hcompany, rfl⟩
  · rintro ⟨rfl, rfl⟩
    exact ⟨rfl, rfl⟩

theorem toList_identifierText_sanitized (platform : Platform) (value : String) (n : ℕ) :
    (sanitizeMargProcurementIdentifier platform value n).toList =
      (identifierText platform value).toList.take n := by
  rw [sanitizeMargProcurementIdentifier_eq, leftText, String.toList_ofList]

/-- Two texts that a number of `n` characters does not tell apart. -/
def Alike (platform : Platform) (n : ℕ) (a b : String) : Prop :=
  (identifierText platform a).toList.take n = (identifierText platform b).toList.take n

/-- A number that its column holds has lost nothing but what the cleaning took. -/
theorem leftText_numbered_inj {platform : Platform} {a b : ℤ} (ha : IsCompanyId a)
    (hb : IsCompanyId b) {lead s t : String} {n : ℕ} (hlead : lead.length + n ≤ 39) :
    leftText 50 (lead ++ toString a ++ "-" ++ sanitizeMargProcurementIdentifier platform s n) =
        leftText 50 (lead ++ toString b ++ "-" ++
          sanitizeMargProcurementIdentifier platform t n) ↔
      a = b ∧ Alike platform n s t := by
  have hshort : ∀ {c : ℤ} {u : String}, IsCompanyId c → (lead ++ toString c ++ "-" ++
      sanitizeMargProcurementIdentifier platform u n).length ≤ 50 := by
    intro c u hc
    have hcompany := length_companyId_le hc
    have hpart : (sanitizeMargProcurementIdentifier platform u n).length ≤ n := by
      rw [← String.length_toList, toList_identifierText_sanitized]
      exact List.length_take_le _ _
    have hhyphen : ("-" : String).length = 1 := rfl
    simp only [String.length_append]
    omega
  rw [leftText_eq_self (hshort ha), leftText_eq_self (hshort hb), ← String.toList_inj]
  simp only [String.toList_append, List.append_assoc, toList_identifierText_sanitized]
  exact numbered_inj ha.1 hb.1 lead.toList

theorem buildMargGoodsReceiptNumber_inj {platform : Platform} {a b : ℤ} (ha : IsCompanyId a)
    (hb : IsCompanyId b) {s t : String} :
    buildMargGoodsReceiptNumber platform a s = buildMargGoodsReceiptNumber platform b t ↔
      a = b ∧ Alike platform 28 s t :=
  leftText_numbered_inj ha hb (by decide)

theorem buildMargPurchaseOrderNumber_inj {platform : Platform} {a b : ℤ} (ha : IsCompanyId a)
    (hb : IsCompanyId b) {s t : String} :
    buildMargPurchaseOrderNumber platform a s = buildMargPurchaseOrderNumber platform b t ↔
      a = b ∧ Alike platform 30 s t :=
  leftText_numbered_inj ha hb (by decide)

/-- The order that an invoice brings along is never one that was staged as an order. -/
theorem buildMargFallbackPurchaseOrderNumber_ne (platform : Platform) (a b : ℤ) (s : String)
    (linked : Option String) (voucher vcn : String) :
    buildMargFallbackPurchaseOrderNumber platform a linked voucher vcn ≠
      buildMargPurchaseOrderNumber platform b s := by
  have hleads : ∀ t u : String, leftText 50 ("MARG-PIF-" ++ t) ≠ leftText 50 ("MARG-PO-" ++ u) := by
    intro t u h
    have hchars := congrArg (fun text : String => text.toList[6]?) h
    simp [leftText] at hchars
  unfold buildMargFallbackPurchaseOrderNumber buildMargPurchaseOrderNumber
  simp only [String.append_assoc]
  split_ifs <;> exact hleads _ _

/-! ### The projection -/

/-- What the staged codes are resolved to: the masters that a code stands for, or that are made
for it. -/
structure Directory where
  productId : ℤ → String → Option Id
  supplierId : ℤ → String → Option Id
  locationId : ℤ → Option Id
  batchId : Id → Id → String → Option Id

structure PurchaseOrderLine where
  lineNumber : ℕ
  productId : Id
  quantity : ℚ
  unitPrice : ℚ
deriving DecidableEq

/-- A row of `purchase_orders` as it is projected, with its lines. -/
structure PurchaseOrder where
  orderNumber : String
  supplierId : Id
  locationId : Id
  orderDate : Millis
  totalAmount : ℚ
  lines : List PurchaseOrderLine
deriving DecidableEq

structure GoodsReceiptLine where
  lineNumber : ℕ
  productId : Id
  quantity : ℚ
  lotNumber : Option String
  batchId : Option Id
deriving DecidableEq

/-- A row of `goods_receipts` with its lines; the order is named by its number. -/
structure GoodsReceipt where
  receiptNumber : String
  purchaseOrder : String
  locationId : Id
  receiptDate : Millis
  lines : List GoodsReceiptLine
deriving DecidableEq

structure ProcurementDocuments where
  purchaseOrders : List PurchaseOrder
  goodsReceipts : List GoodsReceipt
deriving DecidableEq

/-- The order that invoices without one are gathered in. -/
structure FallbackDraft where
  orderNumber : String
  supplierId : Id
  locationId : Id
  orderDate : Millis
  orderDateKnown : Bool
  totalAmount : ℚ
  linesByProductId : List (Id × ℚ × ℚ)
deriving DecidableEq

def resolveMargProcurementUnitPrice (rate amount : Option ℚ) (quantity : ℚ) : ℚ :=
  match rate.filter (· ≠ 0), amount with
  | some rate, _ => |rate|
  | none, some amount => if 0 < quantity then |amount| / quantity else 0
  | none, none => 0

def resolveMargProcurementDocumentTotal (headerAmount : Option ℚ) (lines : List (ℚ × ℚ)) : ℚ :=
  match headerAmount with
  | some amount => |amount|
  | none => (lines.map fun line => line.1 * line.2).sum

/-- Dates up to the year 1901 stand for none. -/
def normalizeValidMargBusinessDate (value : Option Millis) : Option Millis :=
  (value.filter fun time => -2145916800000 ≤ time).map dateColumn

section Projection

variable (platform : Platform) (directory : Directory)

/-- The rows that `loadMargProcurementVoucherLines` loads for a voucher. -/
def MargVoucher.procurementLines (docs : MargDocuments) (v : MargVoucher) : List MargTransaction :=
  docs.liveLines.filter fun line => v.sharesNumber line && line.type = v.type

def resolvedLine (line : MargTransaction) : Option (MargTransaction × Id × ℚ) :=
  let effectiveQty := |resolveMargEffectiveQuantity line.qty line.free|
  if line.pid.text = "" ∨ effectiveQty ≤ 0 then none
  else (directory.productId line.companyId line.pid.text).map fun id => (line, id, effectiveQty)

def purchaseOrderNumber (v : MargVoucher) : String :=
  buildMargPurchaseOrderNumber platform v.companyId
    (resolveMargPurchaseOrderDocumentNumber v.orn.text v.vcn.text v.voucher.text)

def getSupplierId (v : MargVoucher) : Option Id :=
  if v.cid.text = "" then none else directory.supplierId v.companyId v.cid.text

/-- The order of a staged voucher of type `X`; without its supplier or location it is left out. -/
def purchaseOrderOf (docs : MargDocuments) (v : MargVoucher) : Option PurchaseOrder := do
  let supplierId ← getSupplierId directory v
  let locationId ← directory.locationId v.companyId
  let lines := ((MargVoucher.procurementLines docs v).filterMap (resolvedLine directory)).mapIdx
    fun index r => ({
      lineNumber := index + 1
      productId := r.2.1
      quantity := r.2.2
      unitPrice := resolveMargProcurementUnitPrice r.1.rate r.1.amount r.2.2 } : PurchaseOrderLine)
  pure {
    orderNumber := purchaseOrderNumber platform v
    supplierId, locationId
    orderDate := v.date
    totalAmount := resolveMargProcurementDocumentTotal v.finalAmt
      (lines.map fun line => (line.quantity, line.unitPrice))
    lines }

/-- The order that an invoice names, when there is one. -/
def linkedPurchaseOrder (orders : List PurchaseOrder) (v : MargVoucher) : Option String := do
  let linked ← normalizeOptionalText v.orn.text 50
  let order ← lookup PurchaseOrder.orderNumber orders
    (buildMargPurchaseOrderNumber platform v.companyId linked)
  pure order.orderNumber

def fallbackOrderNumber (v : MargVoucher) : String :=
  buildMargFallbackPurchaseOrderNumber platform v.companyId (normalizeOptionalText v.orn.text 50)
    v.voucher.text v.vcn.text

/-- The draft that an invoice is gathered in, which it opens when there is none yet. -/
def draftFor (drafts : List FallbackDraft) (v : MargVoucher) (supplierId locationId : Id) :
    FallbackDraft :=
  (lookup FallbackDraft.orderNumber drafts (fallbackOrderNumber platform v)).getD
    { orderNumber := fallbackOrderNumber platform v
      supplierId, locationId
      orderDate := (normalizeValidMargBusinessDate v.oDate).getD v.date
      orderDateKnown := (normalizeValidMargBusinessDate v.oDate).isSome
      totalAmount := 0
      linesByProductId := [] }

theorem orderNumber_draftFor (drafts : List FallbackDraft) (v : MargVoucher)
    (supplierId locationId : Id) : (draftFor platform drafts v supplierId locationId).orderNumber =
      fallbackOrderNumber platform v := by
  unfold draftFor
  generalize fallbackOrderNumber platform v = number
  cases hfound : lookup FallbackDraft.orderNumber drafts number with
  | none => rw [Option.getD_none]
  | some draft => exact (lookup_eq_some hfound).2

def addToDraft (docs : MargDocuments) (drafts : List FallbackDraft) (v : MargVoucher)
    (supplierId locationId : Id) : List FallbackDraft :=
  let validOrderDate := normalizeValidMargBusinessDate v.oDate
  let lines := ((MargVoucher.procurementLines docs v).filterMap (resolvedLine directory)).map
    fun r => (r.2.1, r.2.2, resolveMargProcurementUnitPrice r.1.rate r.1.amount r.2.2 * r.2.2)
  let draft := draftFor platform drafts v supplierId locationId
  let orderDate := match validOrderDate with
    | some date => if !draft.orderDateKnown || date < draft.orderDate then date else draft.orderDate
    | none => if !draft.orderDateKnown && v.date < draft.orderDate then v.date else draft.orderDate
  let total := resolveMargProcurementDocumentTotal v.finalAmt (lines.map fun line =>
    (line.2.1, if 0 < line.2.1 then line.2.2 / line.2.1 else 0))
  upsert FallbackDraft.orderNumber drafts { draft with
    orderDate
    orderDateKnown := draft.orderDateKnown || validOrderDate.isSome
    totalAmount := draft.totalAmount + total
    linesByProductId := lines.foldl (fun byProduct line =>
      let existing := (lookup Prod.fst byProduct line.1).getD (line.1, 0, 0)
      upsert Prod.fst byProduct (line.1, existing.2.1 + line.2.1, existing.2.2 + line.2.2))
      draft.linesByProductId }

def FallbackDraft.order (draft : FallbackDraft) : PurchaseOrder where
  orderNumber := draft.orderNumber
  supplierId := draft.supplierId
  locationId := draft.locationId
  orderDate := draft.orderDate
  totalAmount := draft.totalAmount
  lines := (draft.linesByProductId.mergeSort fun a b => a.1 ≤ b.1).mapIdx
    fun index (line : Id × ℚ × ℚ) => {
      lineNumber := index + 1
      productId := line.1
      quantity := line.2.1
      unitPrice := if 0 < line.2.1 then line.2.2 / line.2.1 else 0 }

def goodsReceiptNumber (v : MargVoucher) : String :=
  buildMargGoodsReceiptNumber platform v.companyId v.voucher.text

def goodsReceiptOf (docs : MargDocuments) (orders : List PurchaseOrder) (v : MargVoucher) :
    Option GoodsReceipt := do
  let _ ← getSupplierId directory v
  let locationId ← directory.locationId v.companyId
  let lines := ((MargVoucher.procurementLines docs v).filterMap (resolvedLine directory)).mapIdx
    fun index r =>
      let lotNumber := normalizeOptionalText r.1.batch.text 50
      ({ lineNumber := index + 1
         productId := r.2.1
         quantity := r.2.2
         lotNumber
         batchId := lotNumber.bind (directory.batchId r.2.1 locationId) } : GoodsReceiptLine)
  pure {
    receiptNumber := goodsReceiptNumber platform v
    purchaseOrder := (linkedPurchaseOrder platform orders v).getD (fallbackOrderNumber platform v)
    locationId
    receiptDate := v.date
    lines }

def stagedOfType (docs : MargDocuments) (type : String) (window : Option DateWindow) :
    List MargVoucher :=
  docs.liveVouchers.filter fun v => v.type.text = type && isInDateWhere window v.date

def addInvoice (docs : MargDocuments) (orders : List PurchaseOrder) (drafts : List FallbackDraft)
    (v : MargVoucher) : List FallbackDraft :=
  match getSupplierId directory v, directory.locationId v.companyId with
  | some supplierId, some locationId =>
    if (linkedPurchaseOrder platform orders v).isSome then drafts
    else addToDraft platform directory docs drafts v supplierId locationId
  | _, _ => drafts

def fallbackDrafts (docs : MargDocuments) (orders : List PurchaseOrder) (vs : List MargVoucher) :
    List FallbackDraft :=
  vs.foldl (addInvoice platform directory docs orders) []

def transformMargProcurementDocuments (db : ProcurementDocuments) (docs : MargDocuments)
    (window : Option DateWindow) : ProcurementDocuments :=
  let invoices := stagedOfType docs "P" window
  let orders := upsertAll PurchaseOrder.orderNumber db.purchaseOrders
    ((stagedOfType docs "X" window).filterMap (purchaseOrderOf platform directory docs))
  { purchaseOrders := upsertAll PurchaseOrder.orderNumber orders
      ((fallbackDrafts platform directory docs orders invoices).map FallbackDraft.order)
    goodsReceipts := upsertAll GoodsReceipt.receiptNumber db.goodsReceipts
      (invoices.filterMap (goodsReceiptOf platform directory docs orders)) }

end Projection

/-! ### What is written over -/

section Law

variable {platform : Platform} {directory : Directory} {docs : MargDocuments}

def projected (directory : Directory) (docs : MargDocuments) (type : String)
    (window : Option DateWindow) : List MargVoucher :=
  (stagedOfType docs type window).filter fun v =>
    (getSupplierId directory v).isSome && (directory.locationId v.companyId).isSome

def MargVoucher.identity (v : MargVoucher) : ℤ × Trimmed := (v.companyId, v.voucher)

/-- Documents with identities of their own have numbers of their own, and each one's header and
lines are in the tables in the end. -/
structure KeepsDocuments (platform : Platform) (directory : Directory)
    (db : ProcurementDocuments) (docs : MargDocuments) (window : Option DateWindow) : Prop where
  receiptNumbers : ∀ v ∈ projected directory docs "P" window,
    ∀ w ∈ projected directory docs "P" window, MargVoucher.identity v ≠ MargVoucher.identity w →
      goodsReceiptNumber platform v ≠ goodsReceiptNumber platform w
  orderNumbers : ∀ v ∈ projected directory docs "X" window,
    ∀ w ∈ projected directory docs "X" window, MargVoucher.identity v ≠ MargVoucher.identity w →
      purchaseOrderNumber platform v ≠ purchaseOrderNumber platform w
  receipts : ∀ v ∈ projected directory docs "P" window, ∀ receipt,
    goodsReceiptOf platform directory docs
      (upsertAll PurchaseOrder.orderNumber db.purchaseOrders
        ((stagedOfType docs "X" window).filterMap (purchaseOrderOf platform directory docs))) v =
      some receipt →
    lookup GoodsReceipt.receiptNumber
      (transformMargProcurementDocuments platform directory db docs window).goodsReceipts
      (goodsReceiptNumber platform v) = some receipt
  orders : ∀ v ∈ projected directory docs "X" window, ∀ order,
    purchaseOrderOf platform directory docs v = some order →
    lookup PurchaseOrder.orderNumber
      (transformMargProcurementDocuments platform directory db docs window).purchaseOrders
      (purchaseOrderNumber platform v) = some order

/-- No two receipts of a company, and no two of its orders, have numbers whose words, joined by
hyphens, begin with the same characters. -/
structure NumbersDiffer (platform : Platform) (directory : Directory) (docs : MargDocuments)
    (window : Option DateWindow) : Prop where
  receipts : ∀ v ∈ projected directory docs "P" window,
    ∀ w ∈ projected directory docs "P" window, v.companyId = w.companyId → v.voucher ≠ w.voucher →
      ¬Alike platform 28 v.voucher.text w.voucher.text
  orders : ∀ v ∈ projected directory docs "X" window,
    ∀ w ∈ projected directory docs "X" window, v.companyId = w.companyId → v.voucher ≠ w.voucher →
      ¬Alike platform 30
        (resolveMargPurchaseOrderDocumentNumber v.orn.text v.vcn.text v.voucher.text)
        (resolveMargPurchaseOrderDocumentNumber w.orn.text w.vcn.text w.voucher.text)

theorem mem_projected {type : String} {window : Option DateWindow} {v : MargVoucher} :
    v ∈ projected directory docs type window ↔ v ∈ stagedOfType docs type window ∧
      (getSupplierId directory v).isSome = true ∧
      (directory.locationId v.companyId).isSome = true := by
  rw [projected, List.mem_filter, Bool.and_eq_true]

theorem mem_stagedOfType {type : String} {window : Option DateWindow} {v : MargVoucher}
    (h : v ∈ stagedOfType docs type window) : v ∈ docs.vouchers ∧ v.type.text = type := by
  rw [stagedOfType, List.mem_filter, Bool.and_eq_true, decide_eq_true_eq] at h
  exact ⟨List.mem_of_mem_filter h.1, h.2.1⟩

theorem trimmed_inj {t u : Trimmed} (h : t.text = u.text) : t = u := by
  cases t
  cases u
  cases h
  rfl

/-- The company and the voucher tell the documents of a type apart. -/
theorem eq_of_identity {type : String} {window : Option DateWindow} {v w : MargVoucher}
    (hv : v ∈ stagedOfType docs type window) (hw : w ∈ stagedOfType docs type window)
    (h : MargVoucher.identity v = MargVoucher.identity w) : v = w := by
  obtain ⟨hvmem, hvtype⟩ := mem_stagedOfType hv
  obtain ⟨hwmem, hwtype⟩ := mem_stagedOfType hw
  have htype : v.type = w.type := trimmed_inj (hvtype.trans hwtype.symm)
  refine List.inj_on_of_nodup_map docs.vouchers_nodup hvmem hwmem ?_
  have hcompany : v.companyId = w.companyId := congrArg Prod.fst h
  have hvoucher : v.voucher = w.voucher := congrArg Prod.snd h
  rw [hcompany, hvoucher, htype]

/-- Numbers that differ for what is compared differ for the documents, and the other way round. -/
theorem numbers_ne_iff {vs : List MargVoucher} {number : MargVoucher → String}
    {alike : MargVoucher → MargVoucher → Prop}
    (hnumber : ∀ v ∈ vs, ∀ w ∈ vs, number v = number w ↔ v.companyId = w.companyId ∧ alike v w) :
    (∀ v ∈ vs, ∀ w ∈ vs, MargVoucher.identity v ≠ MargVoucher.identity w → number v ≠ number w) ↔
      ∀ v ∈ vs, ∀ w ∈ vs, v.companyId = w.companyId → v.voucher ≠ w.voucher → ¬alike v w := by
  constructor
  · intro h v hv w hw hcompany hvoucher halike
    have hne : MargVoucher.identity v ≠ MargVoucher.identity w :=
      fun hsame => hvoucher (congrArg Prod.snd hsame)
    exact h v hv w hw hne ((hnumber v hv w hw).2 ⟨hcompany, halike⟩)
  · intro h v hv w hw hne heq
    obtain ⟨hcompany, halike⟩ := (hnumber v hv w hw).1 heq
    exact h v hv w hw hcompany (fun hvoucher => hne (Prod.ext hcompany hvoucher)) halike

/-- A row that is written under a number of its own is found under it. -/
theorem lookup_upsertAll_filterMap {α β κ : Type*} [DecidableEq κ] {key : β → κ}
    {f : α → Option β} {number : α → κ} (hkey : ∀ x y, f x = some y → key y = number x)
    {t : List β} {xs : List α} {x : α} {y : β} (hx : x ∈ xs) (hy : f x = some y)
    (hown : ∀ w ∈ xs, (f w).isSome = true → number w = number x → w = x) :
    lookup key (upsertAll key t (xs.filterMap f)) (number x) = some y := by
  rw [lookup_upsertAll]
  cases hlast : lastWith key (xs.filterMap f) (number x) with
  | none =>
    have hmem : key y ∈ (xs.filterMap f).map key :=
      List.mem_map_of_mem (List.mem_filterMap.2 ⟨x, hx, hy⟩)
    rw [hkey x y hy] at hmem
    exact absurd hmem (lastWith_eq_none.1 hlast)
  | some z =>
    obtain ⟨hz, hnumber⟩ := lastWith_eq_some hlast
    obtain ⟨w, hw, hfw⟩ := List.mem_filterMap.1 hz
    have hsame : w = x := hown w hw (by rw [hfw]; rfl) ((hkey w z hfw).symm.trans hnumber)
    rw [hsame, hy] at hfw
    rw [Option.some_or, hfw]

/-- The drafts have the numbers of invoices. -/
def FallbackNumbered (platform : Platform) (drafts : List FallbackDraft) : Prop :=
  ∀ draft ∈ drafts, ∃ v, draft.orderNumber = fallbackOrderNumber platform v

theorem fallbackNumbered_addInvoice {orders : List PurchaseOrder} {drafts : List FallbackDraft}
    (h : FallbackNumbered platform drafts) (v : MargVoucher) :
    FallbackNumbered platform (addInvoice platform directory docs orders drafts v) := by
  unfold addInvoice
  split
  · split_ifs
    · exact h
    · intro draft hdraft
      rcases upsert_subset hdraft with rfl | hold
      · exact ⟨v, orderNumber_draftFor platform drafts v _ _⟩
      · exact h draft hold
  · exact h

theorem fallbackNumbered_fallbackDrafts {orders : List PurchaseOrder} (vs : List MargVoucher) :
    FallbackNumbered platform (fallbackDrafts platform directory docs orders vs) := by
  unfold fallbackDrafts
  suffices hall : ∀ drafts, FallbackNumbered platform drafts →
      FallbackNumbered platform (vs.foldl (addInvoice platform directory docs orders) drafts) by
    exact hall [] (by simp [FallbackNumbered])
  induction vs with
  | nil => exact fun drafts h => h
  | cons v vs ih => exact fun drafts h => ih _ (fallbackNumbered_addInvoice h v)

theorem purchaseOrderOf_eq_some {v : MargVoucher} {order : PurchaseOrder}
    (h : purchaseOrderOf platform directory docs v = some order) :
    order.orderNumber = purchaseOrderNumber platform v := by
  simp only [purchaseOrderOf, Option.bind_eq_bind, Option.bind_eq_some_iff] at h
  obtain ⟨supplier, -, location, -, h⟩ := h
  rw [← Option.some.inj h]

theorem goodsReceiptOf_eq_some {orders : List PurchaseOrder} {v : MargVoucher}
    {receipt : GoodsReceipt} (h : goodsReceiptOf platform directory docs orders v = some receipt) :
    receipt.receiptNumber = goodsReceiptNumber platform v := by
  simp only [goodsReceiptOf, Option.bind_eq_bind, Option.bind_eq_some_iff] at h
  obtain ⟨supplier, -, location, -, h⟩ := h
  rw [← Option.some.inj h]

theorem isSome_of_mem_projected {type : String} {window : Option DateWindow} {v : MargVoucher}
    (hv : v ∈ stagedOfType docs type window)
    (h : (purchaseOrderOf platform directory docs v).isSome = true ∨
      ∃ orders, (goodsReceiptOf platform directory docs orders v).isSome = true) :
    v ∈ projected directory docs type window := by
  refine mem_projected.2 ⟨hv, ?_⟩
  cases hsupplier : getSupplierId directory v with
  | none => simp [purchaseOrderOf, goodsReceiptOf, hsupplier] at h
  | some supplier =>
    cases hlocation : directory.locationId v.companyId with
    | none => simp [purchaseOrderOf, goodsReceiptOf, hsupplier, hlocation] at h
    | some location => exact ⟨rfl, rfl⟩

/-- Every document keeps its number, its header and its lines exactly when no two of a kind and a
company have the same words in their first characters. -/
theorem keepsDocuments_iff_numbersDiffer (directory : Directory) (db : ProcurementDocuments)
    (hcompanies : ∀ v ∈ docs.vouchers, IsCompanyId v.companyId) (window : Option DateWindow) :
    KeepsDocuments platform directory db docs window ↔
      NumbersDiffer platform directory docs window := by
  have hcompany : ∀ {type : String} {v : MargVoucher},
      v ∈ projected directory docs type window → IsCompanyId v.companyId := fun hv =>
    hcompanies _ (mem_stagedOfType (mem_projected.1 hv).1).1
  have hreceipts := @numbers_ne_iff (projected directory docs "P" window) (goodsReceiptNumber platform)
    (fun v w => Alike platform 28 v.voucher.text w.voucher.text)
    fun v hv w hw => buildMargGoodsReceiptNumber_inj (hcompany hv) (hcompany hw)
  have horders := @numbers_ne_iff (projected directory docs "X" window) (purchaseOrderNumber platform)
    (fun v w => Alike platform 30
      (resolveMargPurchaseOrderDocumentNumber v.orn.text v.vcn.text v.voucher.text)
      (resolveMargPurchaseOrderDocumentNumber w.orn.text w.vcn.text w.voucher.text))
    fun v hv w hw => buildMargPurchaseOrderNumber_inj (hcompany hv) (hcompany hw)
  constructor
  · intro h
    exact ⟨hreceipts.1 h.receiptNumbers, horders.1 h.orderNumbers⟩
  · intro h
    have hreceiptNumbers := hreceipts.2 h.receipts
    have horderNumbers := horders.2 h.orders
    refine ⟨hreceiptNumbers, horderNumbers, ?_, ?_⟩
    · intro v hv receipt hreceipt
      refine lookup_upsertAll_filterMap (fun _ _ => goodsReceiptOf_eq_some) (mem_projected.1 hv).1
        hreceipt fun w hw hsome hsame => ?_
      by_contra hne
      refine hreceiptNumbers w (isSome_of_mem_projected hw (.inr ⟨_, hsome⟩)) v hv ?_ hsame
      exact fun hidentity => hne (eq_of_identity hw (mem_projected.1 hv).1 hidentity)
    · intro v hv order horder
      have hown : lookup PurchaseOrder.orderNumber (upsertAll PurchaseOrder.orderNumber
          db.purchaseOrders ((stagedOfType docs "X" window).filterMap
            (purchaseOrderOf platform directory docs))) (purchaseOrderNumber platform v) =
          some order := by
        refine lookup_upsertAll_filterMap (fun _ _ => purchaseOrderOf_eq_some)
          (mem_projected.1 hv).1 horder fun w hw hsome hsame => ?_
        by_contra hne
        refine horderNumbers w (isSome_of_mem_projected hw (.inl hsome)) v hv ?_ hsame
        exact fun hidentity => hne (eq_of_identity hw (mem_projected.1 hv).1 hidentity)
      -- what the invoices bring along has numbers of another kind
      rw [transformMargProcurementDocuments, lookup_upsertAll, lastWith_eq_none.2, Option.none_or,
        hown]
      intro hmem
      obtain ⟨fallback, hfallback, hnumber⟩ := List.mem_map.1 hmem
      obtain ⟨draft, hdraft, rfl⟩ := List.mem_map.1 hfallback
      obtain ⟨w, hw⟩ := fallbackNumbered_fallbackDrafts _ draft hdraft
      exact buildMargFallbackPurchaseOrderNumber_ne _ _ _ _ _ _ _ (hw.symm.trans hnumber)

end Law

/-- ASCII letters have capitals, and no date is understood. -/
def plainPlatform : Platform where
  toUpperCase text := text.map Char.toUpper
  parseDate _ := none

/-- Every code stands for one master. -/
def oneMaster : Directory where
  productId _ _ := some 1
  supplierId _ _ := some 1
  locationId _ := some 1
  batchId _ _ _ := none

def purchaseInvoice (voucher : String) : MargVoucher where
  companyId := 1
  voucher := .of voucher
  type := .of "P"
  vcn := .of ""
  date := 0
  cid := .of "S1"
  finalAmt := some 100
  orn := .of ""
  addField := .of ""
  oDate := none

theorem nodup_slashAndHyphen : ([purchaseInvoice "A/1", purchaseInvoice "A-1"].map fun v =>
    (v.companyId, v.voucher, v.type)).Nodup := by decide +kernel

theorem nodup_slashAndPlain : ([purchaseInvoice "A/1", purchaseInvoice "A1"].map fun v =>
    (v.companyId, v.voucher, v.type)).Nodup := by decide +kernel

def slashAndHyphen : MargDocuments :=
  ⟨[purchaseInvoice "A/1", purchaseInvoice "A-1"], nodup_slashAndHyphen, [], List.nodup_nil⟩

def slashAndPlain : MargDocuments :=
  ⟨[purchaseInvoice "A/1", purchaseInvoice "A1"], nodup_slashAndPlain, [], List.nodup_nil⟩

theorem keepsDocuments_slashAndPlain :
    (∀ v ∈ slashAndPlain.vouchers, IsCompanyId v.companyId) ∧
    (KeepsDocuments plainPlatform oneMaster ⟨[], []⟩ slashAndPlain none ↔
      NumbersDiffer plainPlatform oneMaster slashAndPlain none) := by
  have hcompanies : ∀ v ∈ slashAndPlain.vouchers, IsCompanyId v.companyId := by
    intro v hv
    simp only [slashAndPlain, List.mem_cons, List.not_mem_nil, or_false] at hv
    rcases hv with rfl | rfl <;> exact ⟨by decide, by decide⟩
  exact ⟨hcompanies, keepsDocuments_iff_numbersDiffer oneMaster ⟨[], []⟩ hcompanies none⟩

/-- The receipts of two invoices whose numbers differ in a sign are one receipt. -/
theorem not_keepsDocuments_slashAndHyphen :
    ¬KeepsDocuments plainPlatform oneMaster ⟨[], []⟩ slashAndHyphen none := by
  intro h
  have hstaged : ∀ v ∈ slashAndHyphen.vouchers,
      v ∈ projected oneMaster slashAndHyphen "P" none := by
    decide +kernel
  have hslash := hstaged (purchaseInvoice "A/1") List.mem_cons_self
  have hhyphen := hstaged (purchaseInvoice "A-1") (List.mem_cons_of_mem _ List.mem_cons_self)
  have hne : MargVoucher.identity (purchaseInvoice "A/1") ≠
      MargVoucher.identity (purchaseInvoice "A-1") := by decide +kernel
  have halike : Alike plainPlatform 28 "A/1" "A-1" := by
    unfold Alike
    decide +kernel
  have hsame : goodsReceiptNumber plainPlatform (purchaseInvoice "A/1") =
      goodsReceiptNumber plainPlatform (purchaseInvoice "A-1") :=
    (buildMargGoodsReceiptNumber_inj ⟨by decide, by decide⟩ ⟨by decide, by decide⟩).2 ⟨rfl, halike⟩
  exact h.receiptNumbers _ hslash _ hhyphen hne hsame

/-! ### Accounts for account groups -/

/-- A hash by its hexadecimal text. -/
structure Sha1 where
  hex : String → List Char
  length_hex : ∀ text, (hex text).length = 40
  mem_hex : ∀ text, ∀ c ∈ hex text, c ∈ "0123456789abcdef".toList

def isGroupChar (c : Char) : Bool :=
  isUpperOrDigit c || ('a' ≤ c && c ≤ 'z') || c = '.' || c = '_' || c = '-'

def sanitizeMargGroupPart (value : String) (maxLength : ℕ) : String :=
  let normalized := replaceRuns (fun c => !isGroupChar c) '_' false (trim value).toList
  leftText maxLength (if normalized = [] then "NA" else String.ofList normalized)

section GlAccounts

variable (sha1 : Sha1)

def buildMargAccountGroupLookupKey (companyId : ℤ) (aid : String) : String :=
  toString companyId ++ ":" ++ aid

def buildAutoMargBootstrapHash (companyId : ℤ) (aid : String) : List Char :=
  ((sha1.hex (buildMargAccountGroupLookupKey companyId aid)).take 4).map Char.toUpper

/-- The cleaned text is ASCII, whose capitals need no tables. -/
def safeAid (aid : String) (maxLength : ℕ) : List Char :=
  (sanitizeMargGroupPart aid maxLength).toList.map Char.toUpper

def buildAutoMargGlAccountNumber (companyId : ℤ) (aid : String) : String :=
  leftText 20 ("M" ++ toString companyId ++ "-" ++ String.ofList (safeAid aid 7) ++ "-" ++
    String.ofList (buildAutoMargBootstrapHash sha1 companyId aid))

def buildAutoMargGlRuleName (companyId : ℤ) (aid : String) : String :=
  leftText 100 ("AUTO_MARG_" ++ toString companyId ++ "_" ++ String.ofList (safeAid aid 48) ++
    "_" ++ String.ofList (buildAutoMargBootstrapHash sha1 companyId aid))

/-- A row of `marg_account_groups`; staging takes positive company ids only. -/
structure MargAccountGroup where
  companyId : ℤ
  aid : String
  name : String
  under : Option String
  isCompanyId : IsCompanyId companyId

def MargAccountGroup.key (g : MargAccountGroup) : ℤ × String := (g.companyId, g.aid)

structure GlAccount where
  id : Id
  accountNumber : String
  name : String
  parentId : Option Id
deriving DecidableEq

structure MargGlMappingRule where
  ruleName : String
  companyId : ℤ
  groupCode : String
  glAccountId : Id
  isActive : Bool
deriving DecidableEq

/-- The accounts and mapping rules of a tenant, and its staged groups by company and aid. -/
structure AccountingTables where
  accounts : List GlAccount
  rules : List MargGlMappingRule
  groups : List MargAccountGroup

def MargAccountGroup.accountNumber (g : MargAccountGroup) : String :=
  buildAutoMargGlAccountNumber sha1 g.companyId g.aid

/-- The upsert under the account number; a new account has no parent yet. -/
def upsertAccount (accounts : List GlAccount) (g : MargAccountGroup) : List GlAccount :=
  let account := (lookup GlAccount.accountNumber accounts (g.accountNumber sha1)).getD
    ⟨freshId (accounts.map GlAccount.id), g.accountNumber sha1, g.name, none⟩
  upsert GlAccount.accountNumber accounts { account with name := g.name }

/-- The account of a group and the parent that it had when it was written. -/
def provisionedAccount (accounts : List GlAccount) (groups : List MargAccountGroup) (companyId : ℤ)
    (aid : String) : Option GlAccount := do
  let g ← lookup MargAccountGroup.key groups (companyId, aid)
  lookup GlAccount.accountNumber accounts (g.accountNumber sha1)

def setParent (provisioned : List GlAccount) (groups : List MargAccountGroup)
    (accounts : List GlAccount) (g : MargAccountGroup) : List GlAccount :=
  match g.under.bind (provisionedAccount sha1 provisioned groups g.companyId),
      provisionedAccount sha1 provisioned groups g.companyId g.aid with
  | some parent, some child =>
    if child.parentId = some parent.id then accounts
    else accounts.map fun account =>
      if account.id = child.id then { account with parentId := some parent.id } else account
  | _, _ => accounts

/-- The rule of a group; a name that is taken breaks the transaction. -/
def createRule (provisioned : List GlAccount) (groups : List MargAccountGroup)
    (rules : List MargGlMappingRule) (g : MargAccountGroup) : Option (List MargGlMappingRule) :=
  match provisionedAccount sha1 provisioned groups g.companyId g.aid with
  | none => some rules
  | some account =>
    let ruleName := buildAutoMargGlRuleName sha1 g.companyId g.aid
    if ruleName ∈ rules.map MargGlMappingRule.ruleName then none
    else some (rules ++ [⟨ruleName, g.companyId, g.aid, account.id, true⟩])

/-- The transaction of `ensureMargAccountingBootstrap`. -/
def provision (db : AccountingTables) : Option AccountingTables := do
  let provisioned := db.groups.foldl (upsertAccount sha1) db.accounts
  let rules ← db.groups.foldlM (createRule sha1 provisioned db.groups) db.rules
  pure { db with
    accounts := db.groups.foldl (setParent sha1 provisioned db.groups) provisioned
    rules }

/-- A transaction that breaks leaves everything as it was. -/
def ensureMargAccountingBootstrap (db : AccountingTables) : AccountingTables :=
  if db.rules.any MargGlMappingRule.isActive then db
  else if db.groups = [] then db
  else (provision sha1 db).getD db

/-! ### Account numbers that differ -/

theorem length_safeAid_le (aid : String) (n : ℕ) : (safeAid aid n).length ≤ n := by
  rw [safeAid, List.length_map, sanitizeMargGroupPart, leftText, String.toList_ofList]
  exact List.length_take_le _ _

theorem toUpper_ne_hyphen : ("0123456789abcdef".toList.all fun c => c.toUpper ≠ '-') = true := by
  decide +kernel

theorem hyphen_notMem_hash (companyId : ℤ) (aid : String) :
    '-' ∉ buildAutoMargBootstrapHash sha1 companyId aid := by
  intro h
  obtain ⟨c, hc, hupper⟩ := List.mem_map.1 h
  have hne := List.all_eq_true.1 toUpper_ne_hyphen c (sha1.mem_hex _ c (List.mem_of_mem_take hc))
  exact of_decide_eq_true hne hupper

/-- The characters of the hash that the number has room for. -/
def hashRoom (companyId : ℤ) (aid : String) : ℕ :=
  17 - (toString companyId).length - (safeAid aid 7).length

/-- The cut falls behind the second hyphen. -/
theorem take_numbered {c a : List Char} (hc : c.length ≤ 10) (ha : a.length ≤ 7) (h : List Char) :
    (['M'] ++ (c ++ '-' :: (a ++ '-' :: h))).take 20 =
      ['M'] ++ (c ++ '-' :: (a ++ '-' :: h.take (17 - c.length - a.length))) := by
  have hfirst : 0 < 19 - c.length := by omega
  have hsecond : 0 < 19 - c.length - 1 - a.length := by omega
  have hroom : 19 - c.length - 1 - a.length - 1 = 17 - c.length - a.length := by omega
  rw [List.take_append, List.take_of_length_le (l := ['M']) (by decide), List.length_singleton,
    List.take_append, List.take_of_length_le (l := c) (by omega), List.take_cons hfirst,
    List.take_append, List.take_of_length_le (l := a) (by omega), List.take_cons hsecond, hroom]

theorem toList_accountNumber {companyId : ℤ} (h : IsCompanyId companyId) (aid : String) :
    (buildAutoMargGlAccountNumber sha1 companyId aid).toList =
      ['M'] ++ ((toString companyId).toList ++ '-' :: (safeAid aid 7 ++ '-' ::
        (buildAutoMargBootstrapHash sha1 companyId aid).take (hashRoom companyId aid))) := by
  have hcompany := length_companyId_le h
  have hM : ("M" : String).toList = ['M'] := rfl
  have hhyphen : ("-" : String).toList = ['-'] := rfl
  rw [← String.length_toList] at hcompany
  rw [hashRoom, ← String.length_toList, ← take_numbered hcompany (length_safeAid_le aid 7)]
  simp only [buildAutoMargGlAccountNumber, leftText, String.toList_append, String.toList_ofList,
    List.append_assoc, List.cons_append, List.nil_append, hM, hhyphen]

theorem accountNumber_eq_iff {a b : ℤ} (ha : IsCompanyId a) (hb : IsCompanyId b) {s t : String} :
    buildAutoMargGlAccountNumber sha1 a s = buildAutoMargGlAccountNumber sha1 b t ↔
      a = b ∧ safeAid s 7 = safeAid t 7 ∧
        (buildAutoMargBootstrapHash sha1 a s).take (hashRoom a s) =
          (buildAutoMargBootstrapHash sha1 b t).take (hashRoom a s) := by
  have hhash : ∀ (c : ℤ) (u : String) (n : ℕ),
      '-' ∉ ((buildAutoMargBootstrapHash sha1 c u).take n).reverse := fun c u n hmem =>
    hyphen_notMem_hash sha1 c u (List.mem_of_mem_take (List.mem_reverse.1 hmem))
  -- the last hyphen is where the hash begins
  have hparts : ∀ (u v : List Char) (m n : ℕ), (u ++ '-' ::
      (buildAutoMargBootstrapHash sha1 a s).take m = v ++ '-' ::
        (buildAutoMargBootstrapHash sha1 b t).take n ↔ u = v ∧
      (buildAutoMargBootstrapHash sha1 a s).take m =
        (buildAutoMargBootstrapHash sha1 b t).take n) := by
    intro u v m n
    rw [← List.reverse_inj, List.reverse_append, List.reverse_append, List.reverse_cons,
      List.reverse_cons, List.append_assoc, List.append_assoc, List.singleton_append,
      List.singleton_append, append_cons_inj (hhash a s m) (hhash b t n), List.reverse_inj,
      List.reverse_inj, and_comm]
  have hroom : a = b → safeAid s 7 = safeAid t 7 → hashRoom b t = hashRoom a s := by
    intro hcompany haid
    rw [hashRoom, hashRoom, hcompany, haid]
  rw [← String.toList_inj, toList_accountNumber sha1 ha, toList_accountNumber sha1 hb,
    numbered_inj ha.1 hb.1, hparts]
  constructor
  · rintro ⟨hcompany, haid, hshown⟩
    exact ⟨hcompany, haid, by rwa [hroom hcompany haid] at hshown⟩
  · rintro ⟨hcompany, haid, hshown⟩
    exact ⟨hcompany, haid, by rwa [hroom hcompany haid]⟩

/-! ### The second run -/

variable {sha1}

theorem any_isActive_createRule {provisioned : List GlAccount} {groups : List MargAccountGroup}
    {rules rules' : List MargGlMappingRule} {g : MargAccountGroup}
    (haccount : (provisionedAccount sha1 provisioned groups g.companyId g.aid).isSome = true)
    (h : createRule sha1 provisioned groups rules g = some rules') :
    rules'.any MargGlMappingRule.isActive = true := by
  obtain ⟨account, haccount⟩ := Option.isSome_iff_exists.1 haccount
  simp only [createRule, haccount] at h
  split_ifs at h
  cases h
  simp

theorem any_isActive_foldlM {provisioned : List GlAccount} {groups gs : List MargAccountGroup}
    {rules rules' : List MargGlMappingRule}
    (haccounts : ∀ g ∈ gs,
      (provisionedAccount sha1 provisioned groups g.companyId g.aid).isSome = true)
    (h : gs.foldlM (createRule sha1 provisioned groups) rules = some rules')
    (hne : gs ≠ [] ∨ rules.any MargGlMappingRule.isActive = true) :
    rules'.any MargGlMappingRule.isActive = true := by
  induction gs generalizing rules with
  | nil =>
    cases h
    exact hne.resolve_left fun hnil => hnil rfl
  | cons g gs ih =>
    rw [List.foldlM_cons, Option.bind_eq_bind, Option.bind_eq_some_iff] at h
    obtain ⟨created, hcreated, h⟩ := h
    exact ih (fun g' hg' => haccounts g' (List.mem_cons_of_mem _ hg')) h
      (.inr (any_isActive_createRule (haccounts g List.mem_cons_self) hcreated))

theorem mem_numbers_upsertAccount {accounts : List GlAccount} {g : MargAccountGroup}
    {number : String} :
    number ∈ (upsertAccount sha1 accounts g).map GlAccount.accountNumber ↔
      number ∈ accounts.map GlAccount.accountNumber ∨ number = g.accountNumber sha1 := by
  rw [upsertAccount, mem_keys_upsert]
  generalize g.accountNumber sha1 = own
  have hnumber : ((lookup GlAccount.accountNumber accounts own).getD
      ⟨freshId (accounts.map GlAccount.id), own, g.name, none⟩).accountNumber = own := by
    cases hfound : lookup GlAccount.accountNumber accounts own with
    | none => rw [Option.getD_none]
    | some account => exact (lookup_eq_some hfound).2
  dsimp only
  rw [hnumber]

theorem mem_numbers_foldl {accounts : List GlAccount} {gs : List MargAccountGroup} {number : String}
    (h : number ∈ accounts.map GlAccount.accountNumber ∨
      ∃ g ∈ gs, number = g.accountNumber sha1) :
    number ∈ (gs.foldl (upsertAccount sha1) accounts).map GlAccount.accountNumber := by
  induction gs generalizing accounts with
  | nil => exact h.resolve_right (by simp)
  | cons g gs ih =>
    apply ih
    rcases h with hold | ⟨g', hg', rfl⟩
    · exact .inl (mem_numbers_upsertAccount.2 (.inl hold))
    · rcases List.mem_cons.1 hg' with rfl | hg'
      · exact .inl (mem_numbers_upsertAccount.2 (.inr rfl))
      · exact .inr ⟨g', hg', rfl⟩

theorem isSome_provisionedAccount {accounts : List GlAccount} {groups : List MargAccountGroup}
    {g : MargAccountGroup} (hg : g ∈ groups) :
    (provisionedAccount sha1 (groups.foldl (upsertAccount sha1) accounts) groups g.companyId
      g.aid).isSome = true := by
  cases hgroup : lookup MargAccountGroup.key groups (g.companyId, g.aid) with
  | none => exact absurd (List.mem_map_of_mem hg) (lookup_eq_none.1 hgroup)
  | some found =>
    obtain ⟨hfound, -⟩ := lookup_eq_some hgroup
    have hmem := @mem_numbers_foldl sha1 accounts groups _ (.inr ⟨found, hfound, rfl⟩)
    simp only [provisionedAccount, hgroup, Option.bind_eq_bind, Option.bind_some]
    cases haccount : lookup GlAccount.accountNumber
        (groups.foldl (upsertAccount sha1) accounts) (found.accountNumber sha1) with
    | none => exact absurd hmem (lookup_eq_none.1 haccount)
    | some account => rfl

/-- A run that made accounts has made rules with them, and these keep the next run away. -/
theorem ensureMargAccountingBootstrap_twice (db : AccountingTables) :
    ensureMargAccountingBootstrap sha1 (ensureMargAccountingBootstrap sha1 db) =
      ensureMargAccountingBootstrap sha1 db := by
  have hstep : ensureMargAccountingBootstrap sha1 db = db ∨
      (ensureMargAccountingBootstrap sha1 db).rules.any MargGlMappingRule.isActive = true := by
    unfold ensureMargAccountingBootstrap
    split_ifs with hactive hgroups
    · exact .inl rfl
    · exact .inl rfl
    · cases hprovision : provision sha1 db with
      | none => exact .inl rfl
      | some after =>
        refine .inr ?_
        simp only [provision, Option.bind_eq_bind, Option.bind_eq_some_iff] at hprovision
        obtain ⟨rules, hrules, hafter⟩ := hprovision
        cases hafter
        exact any_isActive_foldlM (fun g hg => isSome_provisionedAccount hg) hrules (.inl hgroups)
  rcases hstep with hsame | hactive
  · rw [hsame, hsame]
  · exact if_pos hactive

/-- Groups with ids of their own have accounts with numbers of their own, and a second run makes
no account. -/
structure ProvidesAccounts (sha1 : Sha1) (db : AccountingTables) : Prop where
  numbers : ∀ g ∈ db.groups, ∀ g' ∈ db.groups, g.key ≠ g'.key →
    g.accountNumber sha1 ≠ g'.accountNumber sha1
  again : ((ensureMargAccountingBootstrap sha1 (ensureMargAccountingBootstrap sha1 db)).accounts =
    (ensureMargAccountingBootstrap sha1 db).accounts)

/-- Groups of one company whose cleaned ids agree differ in the characters of the hash that the
number has room for. -/
def HashesDiffer (sha1 : Sha1) (db : AccountingTables) : Prop :=
  ∀ g ∈ db.groups, ∀ g' ∈ db.groups, g.companyId = g'.companyId → g.aid ≠ g'.aid →
    safeAid g.aid 7 = safeAid g'.aid 7 →
    (buildAutoMargBootstrapHash sha1 g.companyId g.aid).take (hashRoom g.companyId g.aid) ≠
      (buildAutoMargBootstrapHash sha1 g'.companyId g'.aid).take (hashRoom g.companyId g.aid)

theorem providesAccounts_iff_hashesDiffer (sha1 : Sha1) (db : AccountingTables) :
    ProvidesAccounts sha1 db ↔ HashesDiffer sha1 db := by
  constructor
  · intro h g hg g' hg' hcompany haid hsafe hhash
    refine h.numbers g hg g' hg' (fun hkey => haid (congrArg Prod.snd hkey)) ?_
    exact (accountNumber_eq_iff sha1 g.isCompanyId g'.isCompanyId).2 ⟨hcompany, hsafe, hhash⟩
  · intro h
    refine ⟨fun g hg g' hg' hkey hsame => ?_,
      congrArg AccountingTables.accounts (ensureMargAccountingBootstrap_twice db)⟩
    obtain ⟨hcompany, hsafe, hhash⟩ :=
      (accountNumber_eq_iff sha1 g.isCompanyId g'.isCompanyId).1 hsame
    exact h g hg g' hg' hcompany (fun haid => hkey (Prod.ext hcompany haid)) hsafe hhash

end GlAccounts

/-- What the hash gives for the groups of the next example. -/
def knownHex (text : String) : List Char :=
  if text = "1234567890:ABCDEFG1" then "3514580a24500fc522871a54117525cde425c0c0".toList
  else "dbacfb4f43308b3b64db3350072b09f9ec7eb11d".toList

theorem length_knownHex (text : String) : (knownHex text).length = 40 := by
  unfold knownHex
  split_ifs <;> rfl

theorem mem_knownHex (text : String) : ∀ c ∈ knownHex text, c ∈ "0123456789abcdef".toList := by
  have hall : ((knownHex text).all fun c => c ∈ "0123456789abcdef".toList) = true := by
    unfold knownHex
    split_ifs <;> decide +kernel
  exact fun c hc => of_decide_eq_true (List.all_eq_true.1 hall c hc)

def knownSha1 : Sha1 := ⟨knownHex, length_knownHex, mem_knownHex⟩

theorem isCompanyId_longNumber : IsCompanyId 1234567890 := ⟨by decide, by decide⟩

def longNumberGroup (aid : String) : MargAccountGroup :=
  ⟨1234567890, aid, "Sundry Debtors", none, isCompanyId_longNumber⟩

/-- A company number of ten digits leaves no room for the hash. -/
theorem not_providesAccounts_longNumber : ¬ProvidesAccounts knownSha1
    ⟨[], [], [longNumberGroup "ABCDEFG1", longNumberGroup "ABCDEFG2"]⟩ := by
  intro h
  have hsame : (longNumberGroup "ABCDEFG1").accountNumber knownSha1 =
      (longNumberGroup "ABCDEFG2").accountNumber knownSha1 := by decide +kernel
  exact h.numbers _ List.mem_cons_self _ (List.mem_cons_of_mem _ List.mem_cons_self)
    (by decide +kernel) hsame

end Forecast.MargNumbers
