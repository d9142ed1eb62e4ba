import Forecast.Lib.JsText
import Mathlib.Algebra.Order.Field.Rat

/-!
# Rows of an import file

A data row is read into the target fields of its column mapping and checked by
the rules of its import type. Cells are texts in a CSV file; in a workbook they
are also numbers, dates and objects.
-/

open JsText

namespace Forecast.Imports

/-- Milliseconds since the epoch. -/
abbrev Millis := ℤ

/-- What the language leaves to Unicode tables and to the implementation. -/
structure ImportPlatform where
  toLowerCase : String → String
  /-- `new Date(text).getTime()`, none for an invalid date. -/
  parseDate : String → Option Millis

/-- `data.type` of a job. -/
inductive ImportType where
  | actuals
  | products
  | locations
  | customers
  | accounts
deriving DecidableEq

/-- A cell, or a field of a row; `shown` is how `String` prints it. -/
inductive ImportValue where
  /-- `null` or `undefined`. -/
  | missing
  | text (value : String)
  | number (value : ℚ) (shown : String)
  /-- `Infinity` or `-Infinity`. -/
  | infinite (shown : String)
  | flag (value : Bool)
  /-- A `Date`; none for an invalid one. -/
  | date (time : Option Millis) (shown : String)
  | object (shown : String)
deriving DecidableEq

/-- A record by its column names, or a row by its target fields; the last entry of a name counts. -/
abbrev ImportRecord := List (String × ImportValue)

namespace ImportValue

/-- `!value` is false. -/
def isTruthy : ImportValue → Bool
  | missing => false
  | text value => value != ""
  | number value _ => value != 0
  | flag value => value
  | _ => true

/-- `String(value ?? '')`. -/
def shown : ImportValue → String
  | missing => ""
  | text value => value
  | number _ shown | infinite shown | date _ shown | object shown => shown
  | flag value => if value then "true" else "false"

/-- `value || null`. -/
def orNull (value : ImportValue) : ImportValue := if value.isTruthy then value else missing

end ImportValue

namespace ImportRecord

def get (record : ImportRecord) (name : String) : ImportValue :=
  ((record.reverse.find? fun entry => entry.1 == name).map Prod.snd).getD .missing

def set (record : ImportRecord) (name : String) (value : ImportValue) : ImportRecord :=
  record ++ [(name, value)]

end ImportRecord

/-- `getDefaultMapping`: the column each target field is read from. -/
def getDefaultMapping : ImportType → List (String × String)
  | .actuals =>
    [("periodDate", "period_date"), ("productCode", "product_code"),
      ("locationCode", "location_code"), ("customerCode", "customer_code"),
      ("accountCode", "account_code"), ("amount", "amount"), ("quantity", "quantity")]
  | .products =>
    [("code", "code"), ("name", "name"), ("description", "description"),
      ("category", "category"), ("productCompany", "product_company"), ("salt", "salt"),
      ("productGroup", "product_group"), ("hsnCode", "hsn_code"), ("listPrice", "list_price")]
  | .locations =>
    [("code", "code"), ("name", "name"), ("region", "region"), ("country", "country"),
      ("type", "type")]
  | .customers => [("code", "code"), ("name", "name"), ("segment", "segment"), ("type", "type")]
  | .accounts => [("code", "code"), ("name", "name"), ("type", "type"), ("category", "category")]

/-! ### Conversions -/

/-- 30 December 1899, the day zero of a workbook. -/
def excelEpoch : Millis := -2209161600000

/-- The last time a `Date` can hold. -/
def maxTime : ℤ := 8640000000000000

/-- `new Date(time)`: the fraction is cut off. -/
def dateOfTime (time : ℚ) : Option Millis :=
  let whole := time.num.tdiv time.den
  if |whole| ≤ maxTime then some whole else none

example : dateOfTime (-3 / 2) = some (-1) := by decide +kernel

/-- Null, or a `Date` that may be invalid when the cell already was one or a number. -/
def parseDate (platform : ImportPlatform) : ImportValue → ImportValue
  | .date time shown => .date time shown
  | .number value shown =>
    if value = 0 then .missing
    else .date (dateOfTime (excelEpoch + value * 86400000)) shown
  | .infinite shown => .date none shown
  | .flag true => .date (some 1) "true"
  | .text value =>
    if value = "" then .missing
    else match platform.parseDate value with
      | some time => .date (some time) value
      | none => .missing
  | .object shown =>
    match platform.parseDate shown with
    | some time => .date (some time) shown
    | none => .missing
  | _ => .missing

/-- The largest binary64 numbers; what is rounded beyond them is infinite. -/
def infinityBound : ℚ := 2 ^ 1024 - 2 ^ 970

/-- Null, or what `Number` makes of the text without commas, dollar and percent signs. -/
def parseNumber (value : ImportValue) : ImportValue :=
  if value = .missing ∨ value = .text "" then .missing
  else
    let cs := trimChars (value.shown.toList.filter fun c => c ≠ ',' ∧ c ≠ '$' ∧ c ≠ '%')
    if [['I', 'n', 'f', 'i', 'n', 'i', 't', 'y'], ['+', 'I', 'n', 'f', 'i', 'n', 'i', 't', 'y'],
        ['-', 'I', 'n', 'f', 'i', 'n', 'i', 't', 'y']].contains cs then
      .infinite (String.ofList cs)
    else match decimal? cs with
      | some q => if |q| < infinityBound then .number q (String.ofList cs) else
          .infinite (String.ofList cs)
      | none => .missing

def normalizeCodeValue (value : ImportValue) : ImportValue :=
  let normalized := trim value.shown
  if normalized = "" then .missing else .text normalized

def normalizeLookupKey (platform : ImportPlatform) (value : String) : String :=
  platform.toLowerCase (trim value)

/-- The four kinds of dimension an actual refers to. -/
inductive Dimension where
  | product
  | location
  | customer
  | account
deriving DecidableEq

def Dimension.codeField : Dimension → String
  | .product => "productCode"
  | .location => "locationCode"
  | .customer => "customerCode"
  | .account => "accountCode"

def Dimension.idField : Dimension → String
  | .product => "productId"
  | .location => "locationId"
  | .customer => "customerId"
  | .account => "accountId"

def Dimension.label : Dimension → String
  | .product => "Product"
  | .location => "Location"
  | .customer => "Customer"
  | .account => "Account"

/-- `actualsDimensionFields` -/
def actualsDimensionFields : List Dimension := [.product, .location, .customer, .account]

/-- The ids of the tenant's dimensions by normalized code; of two codes the last counts. -/
abbrev DimensionLookups := Dimension → List (String × String)

def lookupId (lookups : DimensionLookups) (dimension : Dimension) (key : String) :
    Option String :=
  ((lookups dimension).reverse.find? fun entry => entry.1 == key).map Prod.snd

/-! ### A data row -/

/-- `targetField.toLowerCase().includes('date')` -/
def namesDate (platform : ImportPlatform) (targetField : String) : Bool :=
  (platform.toLowerCase targetField).toList.tails.any fun rest =>
    ['d', 'a', 't', 'e'].isPrefixOf rest

def transformField (platform : ImportPlatform) (lookups : Option DimensionLookups)
    (targetField : String) (value : ImportValue) : ImportValue :=
  if targetField = "periodDate" ∨ namesDate platform targetField then parseDate platform value
  else if targetField = "amount" ∨ targetField = "quantity" ∨ targetField = "listPrice" then
    parseNumber value
  else if ['C', 'o', 'd', 'e'].isSuffixOf targetField.toList ∧ lookups.isSome then
    normalizeCodeValue value
  else match value with
    | .text value => .text (trim value)
    | value => value

def resolveDimension (platform : ImportPlatform) (lookups : DimensionLookups)
    (transformed : ImportRecord) (dimension : Dimension) : ImportRecord :=
  let code := transformed.get dimension.codeField
  if code.isTruthy then
    transformed.set dimension.idField
      (match lookupId lookups dimension (normalizeLookupKey platform code.shown) with
        | some id => .text id
        | none => .missing)
  else transformed

def transformRecord (platform : ImportPlatform) (columnMapping : List (String × String))
    (lookups : Option DimensionLookups) (importType : ImportType) (record : ImportRecord) :
    ImportRecord :=
  let normalizedRecord : ImportRecord :=
    record.map fun entry => (trim (platform.toLowerCase entry.1), entry.2)
  let transformed : ImportRecord := columnMapping.map fun entry =>
    (entry.1, transformField platform lookups entry.1
      (normalizedRecord.get (platform.toLowerCase entry.2)))
  match importType, lookups with
  | .actuals, some lookups =>
    actualsDimensionFields.foldl (resolveDimension platform lookups) transformed
  | _, _ => transformed

/-- The text of a required field is missing. -/
def isBlankField (value : ImportValue) : Bool := !value.isTruthy || trim value.shown == ""

def validateRecord (record : ImportRecord) : ImportType → List String
  | .actuals =>
    (if (record.get "periodDate").isTruthy then [] else ["Period date is required"]) ++
      (if record.get "amount" = .missing then ["Amount is required"] else []) ++
      actualsDimensionFields.filterMap fun field =>
        let code := record.get field.codeField
        if code.isTruthy ∧ ¬ (record.get field.idField).isTruthy then
          some s!"{field.label} code \"{code.shown}\" was not found"
        else none
  | _ =>
    (if isBlankField (record.get "code") then ["Code is required"] else []) ++
      (if isBlankField (record.get "name") then ["Name is required"] else [])

/-- Fields cut for the error report. -/
def sanitizeForLog (record : ImportRecord) : List (String × String) :=
  record.map fun entry =>
    let shown := if entry.2.isTruthy then entry.2.shown else ""
    (entry.1, if 50 < shown.length then String.ofList (shown.toList.take 50) ++ "..." else shown)

end Forecast.Imports
