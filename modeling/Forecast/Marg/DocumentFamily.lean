import Forecast.Marg.VoucherRows

/-!
# The document family of a line

The header a line belongs to, the family its header and its add field give it,
and what the family projects: an actual, a stock movement, a ledger entry.
-/

open JsText

namespace Forecast

inductive MargType2DocumentFamily where
  | salesInvoice
  | salesChallan
  | salesOrder
  | purchaseInvoice
  | purchaseChallan
  | purchaseOrder
  | salesReturn
  | salesChallanReturn
  | salesReturnAdjustment
  | salesBrkExpReceive
  | salesBrkExpReceiveChallan
  | purchaseReturn
  | purchaseChallanReturn
  | purchaseBrkExpReturn
  | purchaseBrkExpReturnChallan
  | purchasePriceDiffAdjustment
  | stockReceive
  | stockIssue
  | replacementIssue
  | unknownSNoAf
  | unknownRNoAf
  | unknownPNoAf
  | unknownBNoAf
  | unknownQNoAf
  | unknownWNoAf
  | unknownUUnexpectedCid
  | unknown
deriving DecidableEq

inductive MargType2DocumentConfidence where
  | high
  | medium
  | low
deriving DecidableEq

inductive MargType2DocumentSkipReason where
  | missingMdisHeader
  | ambiguousMdisHeader
  | unknownDocumentFamily
  | lowConfidenceDocumentFamily
  | cancelledDocument
deriving DecidableEq

inductive ActualType where
  | sales
  | purchases
  | inventory
deriving DecidableEq

inductive InventoryTransactionType where
  | receipt
  | issue
  | return
  | adjustmentIn
  | adjustmentOut
  | scrap
deriving DecidableEq

inductive LedgerEntryType where
  | ledgerReceipt
  | ledgerIssue
  | ledgerTransferOut
  | ledgerTransferIn
  | ledgerAdjustment
  | ledgerScrap
  | ledgerReturn
  | ledgerProductionReceipt
  | ledgerProductionIssue
  | ledgerHold
  | ledgerRelease
  | ledgerReservation
  | ledgerUnreservation
deriving DecidableEq

/-! ### Tokens of a document -/

section Tokens

variable (platform : Platform)

/-- `String(value || '').trim().toUpperCase()` -/
def upperText (text : String) : String := platform.toUpperCase (trim text)

def extractMargAddFieldLeadToken (addField : String) : Option String :=
  let normalized := trim addField
  if normalized = "" then none
  else
    let token := platform.toUpperCase (trim (String.ofList ((splitChars ';' normalized.toList).headD [])))
    if token = "" then none else some token

def isUpperOrDigit (c : Char) : Bool := ('A' ≤ c && c ≤ 'Z') || ('0' ≤ c && c ≤ '9')

def normalizeMargDocumentNumber (value : String) : Option String :=
  let normalized := (upperText platform value).toList.dropWhile fun c => !isUpperOrDigit c
  if normalized = [] then none else some (String.ofList normalized)

def resolveMargVcnPrefix (value : String) : Option String :=
  (normalizeMargDocumentNumber platform value).map fun normalized =>
    let letters := normalized.toList.takeWhile fun c => ('A' ≤ c && c ≤ 'Z') || c = '-'
    if letters = [] then normalized else String.ofList letters

def matchesMargVcnPrefix (vcnPrefix : Option String) (candidates : List String) : Bool :=
  match vcnPrefix with
  | none => false
  | some vcnPrefix =>
    candidates.any fun candidate => candidate.toList.isPrefixOf vcnPrefix.toList

end Tokens

/-! ### The header of a line -/

/-- The headers that share company and voucher number with a line. -/
def loadMargVoucherContexts (vouchers : List MargVoucher) (line : MargTransaction) :
    List MargVoucher :=
  vouchers.filter (·.sharesNumber line)

/-- The header types to look for, in this order, when several headers share the number. -/
def preferredTypes (platform : Platform) (line : MargTransaction) : List String :=
  let lineType := upperText platform line.type.text
  let vcnPrefix := resolveMargVcnPrefix platform line.vcn.text
  if lineType ∈ ["G", "S", "O"] then ["S"]
  else if lineType = "W" then ["W", "L", "R"]
  else if lineType = "Q" then ["Q", "P"]
  else if lineType = "X" then
    (if matchesMargVcnPrefix vcnPrefix ["SC"] then ["T"]
      else if matchesMargVcnPrefix vcnPrefix ["AD"] then ["D"]
      else if matchesMargVcnPrefix vcnPrefix ["PO-"] then ["X"]
      else []) ++ ["T", "D", "X", "V", "U"]
  else if lineType ∈ ["P", "R", "B", "V", "D", "L"] then [lineType]
  else []

def selectMargVoucherContextForTransaction (platform : Platform) (line : MargTransaction)
    (contexts : List MargVoucher) : Option MargVoucher :=
  match contexts with
  | [] => none
  | [context] => some context
  | _ =>
    (preferredTypes platform line).findSome? fun preferredType =>
      contexts.find? fun context => upperText platform context.type.text = preferredType

/-! ### The family -/

structure MargType2ProjectionInput where
  transactionType : String
  transactionVcn : String
  transactionAddField : String
  voucherType : String
  voucherVcn : String
  voucherAddField : String
  voucherCid : String
  effectiveQty : ℚ
  amount : Option ℚ
  voucherContextAmbiguous : Bool

/-- What the classifier says of a document. -/
structure FamilyClassification where
  family : MargType2DocumentFamily
  confidence : MargType2DocumentConfidence
  skipReason : Option MargType2DocumentSkipReason
deriving DecidableEq

/-- A document whose family depends on the first letter of the add field. -/
def classifyTagged (isInvoiceAf isChallanAf : Bool)
    (invoice challan noAf : MargType2DocumentFamily) : FamilyClassification :=
  if isInvoiceAf then ⟨invoice, .high, none⟩
  else if isChallanAf then ⟨challan, .high, none⟩
  else ⟨noAf, .low, some .unknownDocumentFamily⟩

/-- The chain of header types of the classifier. -/
def classifyDocument (headerType lineType : String) (isInvoiceAf isChallanAf : Bool)
    (cidLeadChar : String) (voucherContextAmbiguous : Bool) : FamilyClassification :=
  if headerType = "" then
    ⟨.unknown, .low,
      some (if voucherContextAmbiguous then .ambiguousMdisHeader else .missingMdisHeader)⟩
  else if headerType = "S" then
    -- a replacement line keeps its own family whatever the add field says
    if lineType = "O" then ⟨.replacementIssue, .high, none⟩
    else classifyTagged isInvoiceAf isChallanAf .salesInvoice .salesChallan .unknownSNoAf
  else if headerType = "R" then
    classifyTagged isInvoiceAf isChallanAf .salesReturn .salesChallanReturn .unknownRNoAf
  else if headerType = "T" then
    ⟨.salesReturnAdjustment, .low, some .lowConfidenceDocumentFamily⟩
  else if headerType = "W" then
    classifyTagged isInvoiceAf isChallanAf .salesBrkExpReceive .salesBrkExpReceiveChallan
      .unknownWNoAf
  else if headerType = "P" then
    classifyTagged isInvoiceAf isChallanAf .purchaseInvoice .purchaseChallan .unknownPNoAf
  else if headerType = "B" then
    classifyTagged isInvoiceAf isChallanAf .purchaseReturn .purchaseChallanReturn .unknownBNoAf
  else if headerType = "Q" then
    classifyTagged isInvoiceAf isChallanAf .purchaseBrkExpReturn .purchaseBrkExpReturnChallan
      .unknownQNoAf
  else if headerType = "U" then
    if cidLeadChar = "C" then ⟨.unknownUUnexpectedCid, .low, some .unknownDocumentFamily⟩
    else ⟨.purchasePriceDiffAdjustment, .low, some .lowConfidenceDocumentFamily⟩
  else if headerType = "V" then ⟨.salesOrder, .high, none⟩
  else if headerType = "X" then ⟨.purchaseOrder, .high, none⟩
  else if headerType = "D" then ⟨.stockReceive, .high, none⟩
  else if headerType = "L" then ⟨.stockIssue, .high, none⟩
  else ⟨.unknown, .low, some .unknownDocumentFamily⟩

/-! ### What a family projects -/

/-- The part of a decision that the family decides. -/
structure ProjectionEffects where
  shouldProjectActual : Bool := false
  actualType : Option ActualType := none
  actualQuantity : Option ℚ := none
  actualAmount : Option ℚ := none
  shouldProjectInventory : Bool := false
  inventoryTransactionType : Option InventoryTransactionType := none
  inventoryQuantity : ℚ := 0
  ledgerEntryType : Option LedgerEntryType := none
  ledgerQuantity : ℚ := 0
  customerFacing : Bool := false
  supplierFacing : Bool := false
deriving DecidableEq

namespace ProjectionEffects

def facingCustomer : ProjectionEffects := { customerFacing := true }

def facingSupplier : ProjectionEffects := { supplierFacing := true }

def withActual (effects : ProjectionEffects) (type : ActualType) (quantity : ℚ)
    (amount : Option ℚ) : ProjectionEffects :=
  { effects with
    shouldProjectActual := true
    actualType := some type
    actualQuantity := if quantity = 0 then none else some quantity
    actualAmount := amount }

/-- A movement of `|effectiveQty|` pieces, if there are any. -/
def withMovement (effects : ProjectionEffects) (effectiveQty : ℚ)
    (type : InventoryTransactionType) (entry : LedgerEntryType) (ledgerQuantity : ℚ) :
    ProjectionEffects :=
  { effects with
    shouldProjectInventory := 0 < |effectiveQty|
    inventoryTransactionType := if 0 < |effectiveQty| then some type else none
    inventoryQuantity := |effectiveQty|
    ledgerEntryType := if 0 < |effectiveQty| then some entry else none
    ledgerQuantity := ledgerQuantity }

end ProjectionEffects

open ProjectionEffects

/-- The switch over the family of a document that is neither skipped nor cancelled. -/
def familyEffects (family : MargType2DocumentFamily) (effectiveQty : ℚ) (amount : Option ℚ) :
    ProjectionEffects :=
  let absQty := |effectiveQty|
  let returned := amount.map fun a => -|a|
  match family with
  | .salesInvoice =>
    (facingCustomer.withActual .sales effectiveQty amount).withMovement effectiveQty .issue
      .ledgerIssue (-absQty)
  | .salesChallan | .replacementIssue =>
    facingCustomer.withMovement effectiveQty .issue .ledgerIssue (-absQty)
  | .salesOrder | .salesReturnAdjustment => facingCustomer
  | .salesReturn | .salesBrkExpReceive =>
    (facingCustomer.withActual .sales (-absQty) returned).withMovement effectiveQty .return
      .ledgerReturn absQty
  | .salesChallanReturn | .salesBrkExpReceiveChallan =>
    facingCustomer.withMovement effectiveQty .return .ledgerReturn absQty
  | .purchaseInvoice =>
    (facingSupplier.withActual .purchases effectiveQty amount).withMovement effectiveQty .receipt
      .ledgerReceipt absQty
  | .purchaseChallan => facingSupplier.withMovement effectiveQty .receipt .ledgerReceipt absQty
  | .purchaseOrder | .purchasePriceDiffAdjustment => facingSupplier
  | .purchaseReturn | .purchaseBrkExpReturn =>
    (facingSupplier.withActual .purchases (-absQty) returned).withMovement effectiveQty
      .adjustmentOut .ledgerReturn (-absQty)
  | .purchaseChallanReturn | .purchaseBrkExpReturnChallan =>
    facingSupplier.withMovement effectiveQty .adjustmentOut .ledgerReturn (-absQty)
  | .stockReceive =>
    (withActual {} .inventory effectiveQty amount).withMovement effectiveQty
      (if 0 ≤ effectiveQty then .adjustmentIn else .adjustmentOut) .ledgerAdjustment effectiveQty
  | .stockIssue =>
    (withActual {} .inventory effectiveQty amount).withMovement effectiveQty
      (if 0 ≤ effectiveQty then .adjustmentIn else .scrap)
      (if 0 ≤ effectiveQty then .ledgerAdjustment else .ledgerScrap) effectiveQty
  | .unknownSNoAf | .unknownRNoAf | .unknownPNoAf | .unknownBNoAf | .unknownQNoAf | .unknownWNoAf
  | .unknownUUnexpectedCid | .unknown => {}

def skippedEffects (family : MargType2DocumentFamily) : ProjectionEffects :=
  { customerFacing := family ∈ [.salesInvoice, .salesChallan, .salesOrder, .salesReturn,
      .salesChallanReturn, .salesReturnAdjustment, .salesBrkExpReceive, .salesBrkExpReceiveChallan,
      .replacementIssue]
    supplierFacing := family ∈ [.purchaseInvoice, .purchaseChallan, .purchaseOrder, .purchaseReturn,
      .purchaseChallanReturn, .purchaseBrkExpReturn, .purchaseBrkExpReturnChallan,
      .purchasePriceDiffAdjustment] }

structure MargType2ProjectionDecision extends ProjectionEffects where
  family : MargType2DocumentFamily
  headerType : String
  lineType : String
  addFieldTag : Option String
  vcnPrefix : Option String
  isCancelled : Bool
  cancelledOn : Option Millis
  confidence : MargType2DocumentConfidence
  skipReason : Option MargType2DocumentSkipReason
deriving DecidableEq

section Decision

variable (platform : Platform) (input : MargType2ProjectionInput)

/-- The header's tag; a header without one takes the line's. -/
def projectionAddFieldTag : Option String :=
  (extractMargAddFieldLeadToken platform input.voucherAddField).or
    (extractMargAddFieldLeadToken platform input.transactionAddField)

def classifyInput : FamilyClassification :=
  let leadChar := (projectionAddFieldTag platform input).bind (·.toList.head?)
  classifyDocument (upperText platform input.voucherType) (upperText platform input.transactionType)
    (leadChar = some 'I') (leadChar = some 'C')
    (platform.toUpperCase (String.ofList ((trim input.voucherCid).toList.take 1)))
    input.voucherContextAmbiguous

def resolveMargType2ProjectionDecision : MargType2ProjectionDecision :=
  let classified := classifyInput platform input
  let headerCancellation := parseMargCancellation input.voucherAddField
  let lineCancellation := parseMargCancellation input.transactionAddField
  let cancelled := headerCancellation.isCancelled || lineCancellation.isCancelled
  let skipped := classified.skipReason.isSome
  { toProjectionEffects :=
      if skipped then skippedEffects classified.family
      else if cancelled then {}
      else familyEffects classified.family input.effectiveQty input.amount
    family := classified.family
    headerType := upperText platform input.voucherType
    lineType := upperText platform input.transactionType
    addFieldTag := projectionAddFieldTag platform input
    vcnPrefix := (resolveMargVcnPrefix platform input.voucherVcn).or
      (resolveMargVcnPrefix platform input.transactionVcn)
    isCancelled := !skipped && cancelled
    cancelledOn :=
      if !skipped && cancelled then headerCancellation.cancelledOn.or lineCancellation.cancelledOn
      else none
    confidence := classified.confidence
    skipReason :=
      if skipped then classified.skipReason
      else if cancelled then some .cancelledDocument
      else none }

end Decision

/-! ### The decision for a line -/

def resolveMargEffectiveQuantity (qty free : Option ℚ) : ℚ :=
  let safeQty := qty.getD 0
  let safeFree := free.getD 0
  if safeQty = 0 ∧ safeFree = 0 then 0
  else safeQty + (if safeQty < 0 then -1 else 1) * |safeFree|

/-- What a projection passes for a line, the headers that share its number and an amount. -/
def projectionInput (platform : Platform) (contexts : List MargVoucher) (line : MargTransaction)
    (amount : Option ℚ) : MargType2ProjectionInput :=
  let context := selectMargVoucherContextForTransaction platform line contexts
  { transactionType := line.type.text
    transactionVcn := line.vcn.text
    transactionAddField := line.addField.text
    voucherType := (context.map (·.type.text)).getD ""
    voucherVcn := (context.map (·.vcn.text)).getD ""
    voucherAddField := (context.map (·.addField.text)).getD ""
    voucherCid := (context.map (·.cid.text)).getD ""
    effectiveQty := resolveMargEffectiveQuantity line.qty line.free
    amount := amount
    voucherContextAmbiguous := context.isNone && 1 < contexts.length }

def lineDecision (platform : Platform) (vouchers : List MargVoucher) (line : MargTransaction)
    (amount : Option ℚ) : MargType2ProjectionDecision :=
  resolveMargType2ProjectionDecision platform
    (projectionInput platform (loadMargVoucherContexts vouchers line) line amount)

end Forecast
