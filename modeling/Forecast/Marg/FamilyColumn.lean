import Forecast.Marg.DocumentFamily
import Forecast.Marg.StagingDispatch

/-!
# The generated family column

`marg_vouchers.family` is computed by the database from the type, the add field
and the customer id of a header; reports read it, while the projections classify
each line in the service. Both read a document as a type, a tag and a party, and
they agree exactly when they read these alike.
-/

open JsText

namespace Forecast

/-! ### The column -/

/-- `TRIM(text)` of the database, which strips blanks only. -/
def sqlTrim (text : String) : List Char :=
  (text.toList.dropWhile (· = ' ')).rdropWhile (· = ' ')

/-- `LEFT(TRIM(text), 1)` -/
def sqlLead (text : String) : Option Char := (sqlTrim text).head?

/-- The `CASE` over types that branch on the tag. -/
def taggedColumn (tag : Option Char) (invoice challan noAf : MargType2DocumentFamily) :
    MargType2DocumentFamily :=
  if tag = some 'I' then invoice else if tag = some 'C' then challan else noAf

/-- The expression of the generated column; `UPPER` is the database's. -/
def familyColumn (upper : String → String) (v : MargVoucher) : MargType2DocumentFamily :=
  let type := upper v.type.text
  let tag := sqlLead v.addField.text
  if type = "S" then taggedColumn tag .salesInvoice .salesChallan .unknownSNoAf
  else if type = "R" then taggedColumn tag .salesReturn .salesChallanReturn .unknownRNoAf
  else if type = "T" then .salesReturnAdjustment
  else if type = "W" then
    taggedColumn tag .salesBrkExpReceive .salesBrkExpReceiveChallan .unknownWNoAf
  else if type = "P" then taggedColumn tag .purchaseInvoice .purchaseChallan .unknownPNoAf
  else if type = "B" then taggedColumn tag .purchaseReturn .purchaseChallanReturn .unknownBNoAf
  else if type = "Q" then
    taggedColumn tag .purchaseBrkExpReturn .purchaseBrkExpReturnChallan .unknownQNoAf
  else if type = "U" then
    if sqlLead v.cid.text = some 'C' then .unknownUUnexpectedCid else .purchasePriceDiffAdjustment
  else if type = "V" then .salesOrder
  else if type = "X" then .purchaseOrder
  else if type = "D" then .stockReceive
  else if type = "L" then .stockIssue
  else .unknown

/-! ### What a document is read as -/

/-- The types that have a family; `other` is every other text. -/
inductive DocumentType where
  | s | r | t | w | p | b | q | u | v | x | d | l | other
deriving DecidableEq

def DocumentType.ofText (text : String) : DocumentType :=
  if text = "S" then .s else if text = "R" then .r else if text = "T" then .t
  else if text = "W" then .w else if text = "P" then .p else if text = "B" then .b
  else if text = "Q" then .q else if text = "U" then .u else if text = "V" then .v
  else if text = "X" then .x else if text = "D" then .d else if text = "L" then .l
  else .other

/-- The types whose family depends on the add field. -/
def DocumentType.isTagged : DocumentType → Bool
  | .s | .r | .w | .p | .b | .q => true
  | _ => false

inductive DocumentTag where
  | invoice
  | challan
  | noAf
deriving DecidableEq

def DocumentTag.ofChar (lead : Option Char) : DocumentTag :=
  if lead = some 'I' then .invoice else if lead = some 'C' then .challan else .noAf

def DocumentTag.pick {α : Type} (invoice challan noAf : α) : DocumentTag → α
  | .invoice => invoice
  | .challan => challan
  | .noAf => noAf

def familyOf (type : DocumentType) (tag : DocumentTag) (customerCid : Bool) :
    MargType2DocumentFamily :=
  match type with
  | .s => tag.pick .salesInvoice .salesChallan .unknownSNoAf
  | .r => tag.pick .salesReturn .salesChallanReturn .unknownRNoAf
  | .t => .salesReturnAdjustment
  | .w => tag.pick .salesBrkExpReceive .salesBrkExpReceiveChallan .unknownWNoAf
  | .p => tag.pick .purchaseInvoice .purchaseChallan .unknownPNoAf
  | .b => tag.pick .purchaseReturn .purchaseChallanReturn .unknownBNoAf
  | .q => tag.pick .purchaseBrkExpReturn .purchaseBrkExpReturnChallan .unknownQNoAf
  | .u => if customerCid then .unknownUUnexpectedCid else .purchasePriceDiffAdjustment
  | .v => .salesOrder
  | .x => .purchaseOrder
  | .d => .stockReceive
  | .l => .stockIssue
  | .other => .unknown

def MargType2DocumentFamily.documentType : MargType2DocumentFamily → DocumentType
  | .salesInvoice | .salesChallan | .unknownSNoAf => .s
  | .salesReturn | .salesChallanReturn | .unknownRNoAf => .r
  | .salesReturnAdjustment => .t
  | .salesBrkExpReceive | .salesBrkExpReceiveChallan | .unknownWNoAf => .w
  | .purchaseInvoice | .purchaseChallan | .unknownPNoAf => .p
  | .purchaseReturn | .purchaseChallanReturn | .unknownBNoAf => .b
  | .purchaseBrkExpReturn | .purchaseBrkExpReturnChallan | .unknownQNoAf => .q
  | .purchasePriceDiffAdjustment | .unknownUUnexpectedCid => .u
  | .salesOrder => .v
  | .purchaseOrder => .x
  | .stockReceive => .d
  | .stockIssue => .l
  | .replacementIssue | .unknown => .other

theorem documentType_familyOf (type : DocumentType) (tag : DocumentTag) (cid : Bool) :
    (familyOf type tag cid).documentType = type := by
  cases type <;> cases tag <;> cases cid <;> rfl

theorem familyOf_ne_replacementIssue (type : DocumentType) (tag : DocumentTag) (cid : Bool) :
    familyOf type tag cid ≠ .replacementIssue := by
  cases type <;> cases tag <;> cases cid <;> decide

/-- Two readings of a document give one family exactly when they agree on what the type looks at. -/
theorem familyOf_eq_iff (type type' : DocumentType) (tag tag' : DocumentTag) (cid cid' : Bool) :
    familyOf type tag cid = familyOf type' tag' cid' ↔
      type = type' ∧ (type.isTagged → tag = tag') ∧ (type = .u → cid = cid') := by
  constructor
  · intro h
    have htype : type = type' := by
      simpa only [documentType_familyOf] using congrArg MargType2DocumentFamily.documentType h
    subst htype
    refine ⟨rfl, ?_, ?_⟩
    · intro htagged
      cases type <;> cases tag <;> cases tag' <;> first
        | rfl
        | exact absurd htagged (by decide)
        | cases h
    · intro hu
      subst hu
      cases cid <;> cases cid' <;> first
        | rfl
        | cases h
  · rintro ⟨rfl, htag, hcid⟩
    cases type <;> simp_all [familyOf, DocumentType.isTagged]

theorem taggedColumn_eq (lead : Option Char) (invoice challan noAf : MargType2DocumentFamily) :
    taggedColumn lead invoice challan noAf = (DocumentTag.ofChar lead).pick invoice challan noAf := by
  unfold taggedColumn DocumentTag.ofChar
  split_ifs <;> rfl

theorem familyOf_ite (c : Prop) [Decidable c] (yes no : DocumentType) (tag : DocumentTag)
    (cid : Bool) : familyOf (if c then yes else no) tag cid =
      if c then familyOf yes tag cid else familyOf no tag cid := by
  split_ifs <;> rfl

theorem familyColumn_eq_familyOf (upper : String → String) (v : MargVoucher) :
    familyColumn upper v = familyOf (.ofText (upper v.type.text)) (.ofChar (sqlLead v.addField.text))
      (decide (sqlLead v.cid.text = some 'C')) := by
  unfold familyColumn DocumentType.ofText
  simp only [taggedColumn_eq, familyOf_ite]
  simp only [familyOf, decide_eq_true_eq]

theorem classifyTagged_family (lead : Option Char) (invoice challan noAf : MargType2DocumentFamily) :
    (classifyTagged (lead = some 'I') (lead = some 'C') invoice challan noAf).family =
      (DocumentTag.ofChar lead).pick invoice challan noAf := by
  unfold classifyTagged DocumentTag.ofChar
  split_ifs <;> simp_all [DocumentTag.pick]

/-- Apart from replacement lines the classifier reads a document the same way. -/
theorem classifyDocument_family (headerType lineType : String) (lead : Option Char)
    (cidLeadChar : String) (ambiguous : Bool) (hline : ¬(headerType = "S" ∧ lineType = "O")) :
    (classifyDocument headerType lineType (lead = some 'I') (lead = some 'C') cidLeadChar
        ambiguous).family =
      familyOf (.ofText headerType) (.ofChar lead) (decide (cidLeadChar = "C")) := by
  by_cases hempty : headerType = ""
  · subst hempty
    rfl
  · unfold classifyDocument DocumentType.ofText
    rw [if_neg hempty]
    by_cases hs : headerType = "S"
    · have ho : lineType ≠ "O" := fun ho => hline ⟨hs, ho⟩
      simp only [hs, ho, if_true, if_false, classifyTagged_family, familyOf]
    · simp only [if_neg hs, familyOf_ite, apply_ite FamilyClassification.family,
        classifyTagged_family]
      simp only [familyOf, decide_eq_true_eq]

/-! ### Reading staged texts -/

theorem sqlTrim_trimmed (t : Trimmed) : sqlTrim t.text = t.chars := by
  have hblank : isTrimmed ' ' = true := by decide
  have hdrop : t.chars.dropWhile (· = ' ') = t.chars := by
    cases hcs : t.chars with
    | nil => rfl
    | cons c cs =>
      have hc : isTrimmed c = false := t.head_chars (by rw [hcs]; rfl)
      have hne : c ≠ ' ' := by
        rintro rfl
        rw [hblank] at hc
        cases hc
      simp [hne]
  unfold sqlTrim
  change (t.chars.dropWhile (· = ' ')).rdropWhile (· = ' ') = t.chars
  rw [hdrop, List.rdropWhile_eq_self_iff]
  intro h hlast
  have hnot := t.getLast_chars h
  rw [of_decide_eq_true hlast, hblank] at hnot
  cases hnot

theorem sqlLead_trimmed (t : Trimmed) : sqlLead t.text = t.chars.head? := by
  rw [sqlLead, sqlTrim_trimmed]

/-- What `toUpperCase` keeps: no text becomes empty, and a capital in front stays. -/
structure Platform.KeepsCapitals (platform : Platform) : Prop where
  eq_empty_iff : ∀ text, platform.toUpperCase text = "" ↔ text = ""
  capital : ∀ c cs, c = 'I' ∨ c = 'C' → ∃ ds,
    platform.toUpperCase (String.ofList (c :: cs)) = String.ofList (c :: ds) ∧ (cs = [] → ds = [])

section Reading

variable {platform : Platform}

theorem upperText_trimmed (t : Trimmed) : upperText platform t.text = platform.toUpperCase t.text := by
  rw [upperText, t.trim_text]

theorem extractMargAddFieldLeadToken_eq_none (hp : platform.KeepsCapitals) {t : Trimmed}
    (h : ∀ c, t.chars.head? = some c → c = ';') :
    extractMargAddFieldLeadToken platform t.text = none := by
  unfold extractMargAddFieldLeadToken
  simp only [t.trim_text]
  by_cases hempty : t.text = ""
  · rw [if_pos hempty]
  · rw [if_neg hempty]
    have hcs : ∃ cs, t.text.toList = ';' :: cs := by
      cases hchars : t.text.toList with
      | nil => exact absurd (String.toList_eq_nil_iff.1 hchars) hempty
      | cons c cs =>
        have hc : c = ';' := h c (by rw [Trimmed.chars, hchars]; rfl)
        exact ⟨cs, by rw [hc]⟩
    obtain ⟨cs, hcs⟩ := hcs
    have hupper : platform.toUpperCase (trim (String.ofList [])) = "" :=
      (hp.eq_empty_iff _).2 rfl
    simp only [hcs, splitChars, if_true, List.headD_cons, hupper]

/-- Any other add field has a token, made from its first letter and what follows. -/
theorem extractMargAddFieldLeadToken_eq_some (hp : platform.KeepsCapitals) {t : Trimmed} {c : Char}
    (h : t.chars.head? = some c) (hc : c ≠ ';') :
    ∃ ds, extractMargAddFieldLeadToken platform t.text =
      some (platform.toUpperCase (String.ofList (c :: ds))) := by
  obtain ⟨cs, hcs⟩ : ∃ cs, t.text.toList = c :: cs := by
    cases hchars : t.text.toList with
    | nil => rw [Trimmed.chars, hchars] at h; cases h
    | cons d cs =>
      rw [Trimmed.chars, hchars] at h
      cases h
      exact ⟨cs, rfl⟩
  have hne : t.text ≠ "" := by
    intro hempty
    rw [hempty] at hcs
    cases hcs
  obtain ⟨lead, hlead⟩ : ∃ lead, (splitChars ';' (c :: cs)).headD [] = c :: lead := by
    simp only [splitChars, if_neg hc]
    cases splitChars ';' cs with
    | nil => exact ⟨[], rfl⟩
    | cons part parts => exact ⟨part, rfl⟩
  obtain ⟨ds, hds⟩ : ∃ ds, trimChars (c :: lead) = c :: ds := by
    have hdrop : (c :: lead).dropWhile isTrimmed = c :: lead := by
      simp [t.head_chars h]
    rw [trimChars_eq, hdrop]
    obtain ⟨rest, hrest⟩ := List.rdropWhile_prefix isTrimmed (c :: lead)
    cases htrim : (c :: lead).rdropWhile isTrimmed with
    | nil =>
      have hall := (List.rdropWhile_eq_nil_iff.1 htrim) c List.mem_cons_self
      rw [t.head_chars h] at hall
      cases hall
    | cons d ds =>
      rw [htrim] at hrest
      cases hrest
      exact ⟨ds, rfl⟩
  refine ⟨ds, ?_⟩
  unfold extractMargAddFieldLeadToken
  simp only [t.trim_text]
  rw [if_neg hne, hcs, hlead, trim, String.toList_ofList, hds, if_neg]
  intro hupper
  have hempty := (hp.eq_empty_iff _).1 hupper
  have hnil := congrArg String.toList hempty
  rw [String.toList_ofList] at hnil
  cases hnil

variable (platform)

def addFieldTag (addField : Trimmed) : DocumentTag :=
  .ofChar ((extractMargAddFieldLeadToken platform addField.text).bind (·.toList.head?))

variable {platform}

theorem addFieldTag_of_lead (hp : platform.KeepsCapitals) {t : Trimmed} {c : Char}
    (h : t.chars.head? = some c) (hc : c = 'I' ∨ c = 'C') :
    addFieldTag platform t = .ofChar (some c) := by
  have hsep : c ≠ ';' := by
    rcases hc with rfl | rfl <;> decide
  obtain ⟨ds, hds⟩ := extractMargAddFieldLeadToken_eq_some hp h hsep
  obtain ⟨es, hes, -⟩ := hp.capital c ds hc
  rw [addFieldTag, hds, hes]
  simp

end Reading

/-! ### When the two classifications agree -/

section Agreement

variable (platform : Platform) (upper : String → String)

/-- The add field of a header is read alike. -/
structure TagReadAlike (header : MargVoucher) (line : MargTransaction) : Prop where
  /-- It begins with `I` or `C`, or with a token whose upper case begins with neither. -/
  token : ∀ c, header.addField.chars.head? = some c → c ≠ ';' →
    c = 'I' ∨ c = 'C' ∨ addFieldTag platform header.addField = .noAf
  /-- Where it has no token, the line's add field has no tag either. -/
  noToken : (∀ c, header.addField.chars.head? = some c → c = ';') →
    addFieldTag platform line.addField = .noAf

/-- The service and the database read a header and a line of it alike. -/
structure FamilyReadAlike (header : MargVoucher) (line : MargTransaction) : Prop where
  type : DocumentType.ofText (platform.toUpperCase header.type.text) =
    DocumentType.ofText (upper header.type.text)
  tag : (DocumentType.ofText (platform.toUpperCase header.type.text)).isTagged →
    TagReadAlike platform header line
  /-- The customer id of a price difference begins with a capital `C` or with no `C` at all. -/
  cid : DocumentType.ofText (platform.toUpperCase header.type.text) = .u →
    ∀ c, header.cid.chars.head? = some c → platform.toUpperCase (String.ofList [c]) = "C" → c = 'C'
  line : platform.toUpperCase header.type.text = "S" → platform.toUpperCase line.type.text ≠ "O"

variable {platform upper}

theorem tag_eq_iff_noToken (hp : platform.KeepsCapitals) {header : MargVoucher}
    (line : MargTransaction) (h : ∀ c, header.addField.chars.head? = some c → c = ';') :
    DocumentTag.ofChar (((extractMargAddFieldLeadToken platform header.addField.text).or
        (extractMargAddFieldLeadToken platform line.addField.text)).bind (·.toList.head?)) =
      DocumentTag.ofChar header.addField.chars.head? ↔ addFieldTag platform line.addField = .noAf := by
  have hcolumn : DocumentTag.ofChar header.addField.chars.head? = .noAf := by
    cases hlead : header.addField.chars.head? with
    | none => rfl
    | some c => rw [h c hlead]; decide
  rw [hcolumn, extractMargAddFieldLeadToken_eq_none hp h, addFieldTag, Option.none_or]

theorem tag_eq_iff_token (hp : platform.KeepsCapitals) {header : MargVoucher}
    (line : MargTransaction) {c : Char} (h : header.addField.chars.head? = some c) (hc : c ≠ ';') :
    DocumentTag.ofChar (((extractMargAddFieldLeadToken platform header.addField.text).or
        (extractMargAddFieldLeadToken platform line.addField.text)).bind (·.toList.head?)) =
      DocumentTag.ofChar header.addField.chars.head? ↔
        c = 'I' ∨ c = 'C' ∨ addFieldTag platform header.addField = .noAf := by
  obtain ⟨ds, hds⟩ := extractMargAddFieldLeadToken_eq_some hp h hc
  have htag : DocumentTag.ofChar (((extractMargAddFieldLeadToken platform
      header.addField.text).or (extractMargAddFieldLeadToken platform line.addField.text)).bind
        (·.toList.head?)) = addFieldTag platform header.addField := by
    rw [addFieldTag, hds, Option.some_or]
  rw [htag, h]
  by_cases hi : c = 'I' ∨ c = 'C'
  · rw [addFieldTag_of_lead hp h hi]
    exact ⟨fun _ => hi.elim .inl fun h => .inr (.inl h), fun _ => rfl⟩
  · have hno : DocumentTag.ofChar (some c) = .noAf := by
      simp only [DocumentTag.ofChar, Option.some.injEq]
      rw [if_neg (fun h => hi (.inl h)), if_neg (fun h => hi (.inr h))]
    rw [hno]
    constructor
    · intro hnoAf
      exact .inr (.inr hnoAf)
    · rintro (hI | hC | hnoAf)
      · exact absurd (.inl hI) hi
      · exact absurd (.inr hC) hi
      · exact hnoAf

theorem tag_eq_iff (hp : platform.KeepsCapitals) (header : MargVoucher) (line : MargTransaction) :
    DocumentTag.ofChar (((extractMargAddFieldLeadToken platform header.addField.text).or
        (extractMargAddFieldLeadToken platform line.addField.text)).bind (·.toList.head?)) =
      DocumentTag.ofChar (sqlLead header.addField.text) ↔ TagReadAlike platform header line := by
  rw [sqlLead_trimmed]
  by_cases h : ∀ c, header.addField.chars.head? = some c → c = ';'
  · rw [tag_eq_iff_noToken hp line h]
    exact ⟨fun hline => ⟨fun c hc hne => absurd (h c hc) hne, fun _ => hline⟩,
      fun halike => halike.noToken h⟩
  · push Not at h
    obtain ⟨c, hc, hne⟩ := h
    rw [tag_eq_iff_token hp line hc hne]
    constructor
    · intro htoken
      refine ⟨fun d hd _ => ?_, fun hall => absurd (hall c hc) hne⟩
      rw [hc] at hd
      cases hd
      exact htoken
    · intro halike
      exact halike.token c hc hne

theorem cid_eq_iff (hp : platform.KeepsCapitals) (cid : Trimmed) :
    decide (platform.toUpperCase (String.ofList ((trim cid.text).toList.take 1)) = "C") =
        decide (sqlLead cid.text = some 'C') ↔
      ∀ c, cid.chars.head? = some c → platform.toUpperCase (String.ofList [c]) = "C" → c = 'C' := by
  rw [sqlLead_trimmed, cid.trim_text, decide_eq_decide]
  change (platform.toUpperCase (String.ofList (cid.chars.take 1)) = "C" ↔ _) ↔ _
  cases hcs : cid.chars with
  | nil =>
    have hupper : platform.toUpperCase (String.ofList []) = "" := (hp.eq_empty_iff _).2 rfl
    simp [hupper]
  | cons c cs =>
    have hcapital : platform.toUpperCase (String.ofList ['C']) = "C" := by
      obtain ⟨ds, hds, hnil⟩ := hp.capital 'C' [] (.inr rfl)
      rw [hds, hnil rfl]
    simp only [List.take_succ_cons, List.take_zero, List.head?_cons, Option.some.injEq]
    constructor
    · rintro h d rfl hd
      exact h.1 hd
    · intro h
      refine ⟨h c rfl, ?_⟩
      rintro rfl
      exact hcapital

theorem family_lineDecision {vouchers : List MargVoucher} {header : MargVoucher}
    {line : MargTransaction} (amount : Option ℚ)
    (hselected : selectMargVoucherContextForTransaction platform line
      (loadMargVoucherContexts vouchers line) = some header) :
    (lineDecision platform vouchers line amount).family =
      (classifyDocument (platform.toUpperCase header.type.text) (platform.toUpperCase line.type.text)
        (((extractMargAddFieldLeadToken platform header.addField.text).or
          (extractMargAddFieldLeadToken platform line.addField.text)).bind (·.toList.head?) = some 'I')
        (((extractMargAddFieldLeadToken platform header.addField.text).or
          (extractMargAddFieldLeadToken platform line.addField.text)).bind (·.toList.head?) = some 'C')
        (platform.toUpperCase (String.ofList ((trim header.cid.text).toList.take 1))) false).family := by
  simp only [lineDecision, resolveMargType2ProjectionDecision, classifyInput, projectionInput,
    projectionAddFieldTag, hselected, Option.map_some, Option.getD_some, upperText_trimmed,
    Option.isNone_some, Bool.false_and]

/-- The family a projection gives a line is that of its header's column exactly when service and
database read the two alike. -/
theorem family_eq_familyColumn_iff_readAlike (platform : Platform) (upper : String → String)
    (hp : platform.KeepsCapitals) (vouchers : List MargVoucher) (header : MargVoucher)
    (line : MargTransaction) (amount : Option ℚ)
    (hselected : selectMargVoucherContextForTransaction platform line
      (loadMargVoucherContexts vouchers line) = some header) :
    (lineDecision platform vouchers line amount).family = familyColumn upper header ↔
      FamilyReadAlike platform upper header line := by
  rw [family_lineDecision amount hselected, familyColumn_eq_familyOf]
  by_cases hreplacement :
      platform.toUpperCase header.type.text = "S" ∧ platform.toUpperCase line.type.text = "O"
  · constructor
    · intro h
      have hclassified : ∀ i c cid,
          (classifyDocument (platform.toUpperCase header.type.text)
            (platform.toUpperCase line.type.text) i c cid false).family = .replacementIssue := by
        intro i c cid
        rw [hreplacement.1, hreplacement.2]
        rfl
      rw [hclassified] at h
      exact absurd h.symm (familyOf_ne_replacementIssue _ _ _)
    · intro halike
      exact absurd hreplacement.2 (halike.line hreplacement.1)
  · rw [classifyDocument_family _ _ _ _ _ hreplacement, familyOf_eq_iff, tag_eq_iff hp,
      cid_eq_iff hp]
    constructor
    · rintro ⟨htype, htag, hcid⟩
      exact ⟨htype, htag, hcid, fun hs ho => hreplacement ⟨hs, ho⟩⟩
    · intro halike
      exact ⟨halike.type, halike.tag, halike.cid⟩

end Agreement

theorem asciiPlatform_keepsCapitals : asciiPlatform.KeepsCapitals := by
  have hmap : ∀ cs, asciiPlatform.toUpperCase (String.ofList cs) =
      String.ofList (cs.map Char.toUpper) := by
    intro cs
    apply String.toList_inj.1
    simp [asciiPlatform]
  constructor
  · intro text
    rw [← String.ofList_toList (s := text), hmap]
    constructor
    · intro h
      have hnil := congrArg String.toList h
      rw [String.toList_ofList] at hnil
      rw [List.map_eq_nil_iff.1 hnil]
    · intro h
      have hnil := congrArg String.toList h
      rw [String.toList_ofList] at hnil
      rw [hnil]
      rfl
  · intro c cs hc
    have hupper : c.toUpper = c := by
      rcases hc with rfl | rfl <;> decide
    refine ⟨cs.map Char.toUpper, ?_, ?_⟩
    · rw [hmap, List.map_cons, hupper]
    · intro hnil
      rw [hnil]
      rfl

/-- A sale of company 1. -/
def invoiceHeader (addField : String) : MargVoucher where
  companyId := 1
  voucher := .of "V1"
  type := .of "S"
  vcn := .of "INV1"
  date := 0
  cid := .of "C7"
  finalAmt := some 118
  orn := .of ""
  addField := .of addField
  oDate := none

def invoiceLine (addField : String) : MargTransaction where
  companyId := 1
  sourceKey := "marg:1:10"
  margId := 10
  voucher := .of "V1"
  type := .of "S"
  vcn := .of "INV1"
  date := 0
  cid := .of "C7"
  pid := .of "P1"
  batch := .of "B1"
  qty := some 1
  free := none
  rate := some 100
  amount := some 100
  gstAmount := some 18
  addField := .of addField
  isCancelled := false
  createdAt := 0

theorem nodup_invoiceHeader (addField : String) :
    ([invoiceHeader addField].map fun v => (v.companyId, v.voucher, v.type)).Nodup :=
  List.nodup_singleton _

theorem nodup_invoiceLine (addField : String) :
    ([invoiceLine addField].map fun l => (l.companyId, l.sourceKey)).Nodup :=
  List.nodup_singleton _

/-- An invoice, tagged by its header. -/
theorem family_eq_familyColumn_taggedHeader :
    (lineDecision asciiPlatform [invoiceHeader "I;GST"] (invoiceLine "") none).family =
      familyColumn (String.map Char.toUpper) (invoiceHeader "I;GST") ↔
        FamilyReadAlike asciiPlatform (String.map Char.toUpper) (invoiceHeader "I;GST")
          (invoiceLine "") :=
  family_eq_familyColumn_iff_readAlike _ _ asciiPlatform_keepsCapitals _ _ _ _ (by decide +kernel)

/-- A tag on the line alone makes it an invoice for the projections and not for the column. -/
theorem not_family_eq_familyColumn_tagOnLine :
    selectMargVoucherContextForTransaction asciiPlatform (invoiceLine "I;GST")
        (loadMargVoucherContexts [invoiceHeader ""] (invoiceLine "I;GST")) = some (invoiceHeader "") ∧
      (invoiceLine "I;GST").type.text ≠ "O" ∧
      ¬(lineDecision asciiPlatform [invoiceHeader ""] (invoiceLine "I;GST") none).family =
        familyColumn (String.map Char.toUpper) (invoiceHeader "") := by
  refine ⟨?_, ?_, ?_⟩ <;> decide +kernel

end Forecast
