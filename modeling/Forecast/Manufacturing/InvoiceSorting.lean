import Forecast.Lib.JsText
import Forecast.Lib.Runs
import Mathlib.Algebra.Group.Even

/-!
# The sorting of purchase invoices

The list of purchase invoices takes its `orderBy` from a table of the module, and turns the
direction in that very table. What one request turns, the next one finds turned.
-/

open JsText Runs

namespace Forecast.Manufacturing.InvoiceSorting

/-! ### Filters -/

/-- The value of a column filter, as `String` prints it; `null` or `undefined` when missing. -/
inductive FilterValue where
  | missing (text : String)
  | one (text : String)
  | many (texts : List String)
deriving DecidableEq

/-- `String(value)` -/
def FilterValue.text : FilterValue → String
  | missing text => text
  | one text => text
  | many texts => ",".intercalate texts

/-- `String(filter.value ?? '')` -/
def FilterValue.given : FilterValue → String
  | missing _ => ""
  | value => value.text

/-- `String(value)` of the two ends of a range. -/
def FilterValue.range : FilterValue → String × String
  | missing text => (text, text)
  | one text => (text, text)
  | many texts => (texts.getD 0 "undefined", texts.getD 1 "undefined")

structure ColumnFilter where
  field : String
  operator : String
  value : FilterValue
deriving DecidableEq

inductive ListError where
  | malformedFilters
  | invalidDate (text : String)
  | notPermitted (field : String)
deriving DecidableEq

def ListError.message : ListError → String
  | malformedFilters => "filters must be a valid JSON array"
  | invalidDate text => "Invalid date: " ++ text
  | notPermitted field => "Filtering on field '" ++ field ++ "' is not permitted"

/-- What the request asks for; the parameters that only select rows are one. -/
structure ListRequest where
  sortBy : Option String := none
  sortDir : Option String := none
  filters : Option String := none
  selection : String := ""
deriving DecidableEq

/-! ### The table of columns -/

inductive SortOrder where
  | asc
  | desc
deriving DecidableEq

/-- The value of an `orderBy`; `supplierName` is `{ supplier: { name: 'asc' } }`. -/
inductive OrderByValue where
  | order (order : SortOrder)
  | supplierName
deriving DecidableEq

inductive SortColumn where
  | invoiceNumber
  | documentDate
  | status
  | supplierName
deriving DecidableEq

def SortColumn.key : SortColumn → String
  | invoiceNumber => "receiptNumber"
  | documentDate => "receiptDate"
  | status => "status"
  | supplierName => "purchaseOrder"

/-- `SORTABLE_COLUMNS` as the module declares it. -/
def SortColumn.declared : SortColumn → OrderByValue
  | supplierName => .supplierName
  | _ => .order .asc

/-- What the process keeps: the values of the columns, and the property `undefined` that
`Object.prototype` may have been given. -/
structure SortMemory where
  value : SortColumn → OrderByValue
  inherited : Option OrderByValue

def SortMemory.fresh : SortMemory := ⟨SortColumn.declared, none⟩

/-- The names that an object inherits; all but one are functions. -/
def inheritedFunctions : List String :=
  ["constructor", "__defineGetter__", "__defineSetter__", "hasOwnProperty", "__lookupGetter__",
    "__lookupSetter__", "isPrototypeOf", "propertyIsEnumerable", "toString", "valueOf",
    "toLocaleString"]

/-- What `SORTABLE_COLUMNS[sortBy ?? 'documentDate'] ?? SORTABLE_COLUMNS.documentDate` is. -/
inductive SortTarget where
  | column (column : SortColumn)
  | function
  | prototype
  | text (value : OrderByValue)
deriving DecidableEq

def SortMemory.target (memory : SortMemory) (name : String) : SortTarget :=
  if name = "invoiceNumber" then .column .invoiceNumber
  else if name = "documentDate" then .column .documentDate
  else if name = "status" then .column .status
  else if name = "supplierName" then .column .supplierName
  else if name ∈ inheritedFunctions then .function
  else if name = "__proto__" then .prototype
  else
    match memory.inherited with
    | some value => if name = "undefined" then .text value else .column .documentDate
    | none => .column .documentDate

/-- `value === 'asc' ? 'desc' : 'asc'` -/
def turned (value : OrderByValue) : OrderByValue :=
  if value = .order .asc then .order .desc else .order .asc

/-- An argument of `findMany`, its properties as a loop over them finds them. -/
inductive OrderBy where
  | object (properties : List (String × OrderByValue))
  | function
  | text (value : OrderByValue)
deriving DecidableEq

def SortMemory.orderBy (memory : SortMemory) (target : SortTarget) : OrderBy :=
  let inherited := memory.inherited.toList.map fun value => ("undefined", value)
  match target with
  | .column column => .object ((column.key, memory.value column) :: inherited)
  | .prototype => .object inherited
  | .function => .function
  | .text value => .text value

/-- What the language and the database client bring. -/
structure ListPlatform where
  /-- `new Date(text).getTime()`, none for an invalid date. -/
  parseDate : String → Option ℤ
  /-- `JSON.parse`, none for a malformed text; what is no array has no filters. -/
  parseFilters : String → Option (List ColumnFilter)
  acceptsOrderBy : OrderBy → Bool
  /-- The client takes the rest of the arguments. -/
  acceptsSelection : ListRequest → Bool

section List

variable (platform : ListPlatform)

def toDate (text : String) : Except ListError ℤ :=
  match platform.parseDate text with
  | none => .error (.invalidDate text)
  | some time => .ok time

def dateCondition (filter : ColumnFilter) : Except ListError Unit :=
  if filter.operator = "between" then do
    let _ ← toDate platform filter.value.range.1
    let _ ← toDate platform filter.value.range.2
  else do
    let _ ← toDate platform filter.value.text

def checkFilter (filter : ColumnFilter) : Except ListError Unit :=
  if trim filter.value.given = "" ∧ filter.operator ≠ "isNull" ∧ filter.operator ≠ "isNotNull" then
    .ok ()
  else if filter.field = "documentDate" then dateCondition platform filter
  else if filter.field ∈ ["invoiceNumber", "supplierName", "purchaseOrderNumber", "status",
      "source", "totalAmount", "totalQty", "lineCount"] then .ok ()
  else .error (.notPermitted filter.field)

/-- The filters of the request are read and checked before its order is looked up. -/
def checkFilters (request : ListRequest) : Except ListError Unit :=
  match request.filters.filter (· ≠ "") with
  | none => .ok ()
  | some text =>
    match platform.parseFilters text with
    | none => .error .malformedFilters
    | some filters => filters.forM (checkFilter platform)

/-- The object at the target has its first key turned; a primitive text has none to assign to. -/
def SortMemory.turn (memory : SortMemory) : SortTarget → Option SortMemory
  | .column column =>
    some { memory with
      value := Function.update memory.value column (turned (memory.value column)) }
  | .prototype =>
    some { memory with inherited := some ((memory.inherited.map turned).getD (.order .asc)) }
  | .function => some memory
  | .text _ => none

/-- The request asks for the newest documents first, since it asks for no direction. -/
def ListRequest.IsDefault (request : ListRequest) : Prop :=
  (request.sortDir = none ∨ request.sortDir = some "") ∧
    (request.sortBy = none ∨ request.sortBy = some "documentDate")

instance (request : ListRequest) : Decidable request.IsDefault :=
  inferInstanceAs (Decidable (_ ∧ _))

/-- `list` up to its query: what it leaves in the process, and the order that it asks for. -/
def list (memory : SortMemory) (request : ListRequest) : SortMemory × Option OrderBy :=
  match checkFilters platform request with
  | .error _ => (memory, none)
  | .ok () =>
    let target := memory.target (request.sortBy.getD "documentDate")
    let turnedMemory :=
      if request.sortDir = some "desc" then memory.turn target
      else if request.IsDefault then
        some { memory with value := Function.update memory.value .documentDate (.order .desc) }
      else some memory
    match turnedMemory with
    | none => (memory, none)
    | some memory => (memory, some (memory.orderBy target))

def memoryAfter (history : List ListRequest) : SortMemory :=
  run (fun memory request => (list platform memory request).1) .fresh history

def sortOfResponse (memory : SortMemory) (request : ListRequest) : Option OrderBy :=
  ((list platform memory request).2).filter fun orderBy =>
    platform.acceptsOrderBy orderBy && platform.acceptsSelection request

/-- What the client takes for an order: fields of the invoice with a direction, the name of the
supplier, and nothing; not a relation with a direction, an unknown field or another value. -/
structure ListPlatform.Rules : Prop where
  field : ∀ (column : SortColumn) (order : SortOrder), column ≠ .supplierName →
    platform.acceptsOrderBy (.object [(column.key, .order order)]) = true
  supplierName : platform.acceptsOrderBy
    (.object [(SortColumn.supplierName.key, .supplierName)]) = true
  empty : platform.acceptsOrderBy (.object []) = true
  relation : ∀ order : SortOrder, platform.acceptsOrderBy
    (.object [(SortColumn.supplierName.key, .order order)]) = false
  unknown : ∀ properties value, ("undefined", value) ∈ properties →
    platform.acceptsOrderBy (.object properties) = false
  function : platform.acceptsOrderBy .function = false
  text : ∀ value, platform.acceptsOrderBy (.text value) = false

/-! ### When a history leaves no trace -/

/-- The request gets as far as the order. -/
def Reaches (request : ListRequest) : Prop := checkFilters platform request = .ok ()

/-- What the name is looked up as in a fresh process. -/
def ListRequest.target (request : ListRequest) : SortTarget :=
  SortMemory.fresh.target (request.sortBy.getD "documentDate")

/-- The request gives `Object.prototype` a property. -/
def Pollutes (request : ListRequest) : Prop :=
  Reaches platform request ∧ request.sortDir = some "desc" ∧ request.target = .prototype

instance (request : ListRequest) : Decidable (Reaches platform request) :=
  inferInstanceAs (Decidable (_ = _))

instance (request : ListRequest) : Decidable (Pollutes platform request) :=
  inferInstanceAs (Decidable (_ ∧ _))

/-- The turns of a column that a history leaves: a descending request on it is one, and a default
request leaves the date with one. -/
def turns (column : SortColumn) (history : List ListRequest) : ℕ :=
  history.foldl (fun n request =>
    if ¬Reaches platform request then n
    else if request.sortDir = some "desc" then
      if request.target = .column column then n + 1 else n
    else if request.IsDefault ∧ column = .documentDate then 1
    else n) 0

/-- No process answers the request. -/
def NeverAnswered (request : ListRequest) : Prop :=
  ¬Reaches platform request ∨ platform.acceptsSelection request = false ∨
    request.target = .function ∨
    (request.sortDir = some "desc" ∧
      (request.target = .prototype ∨ request.target = .column .supplierName))

/-- The column of the request is as it was declared. -/
def IsUnturned (history : List ListRequest) (request : ListRequest) : Prop :=
  match request.target with
  | .column .supplierName => turns platform .supplierName history = 0
  | .column column => Even (turns platform column history)
  | _ => True

/-- The history does not show in the answer to the request. -/
def LeavesNoTrace (history : List ListRequest) (request : ListRequest) : Prop :=
  NeverAnswered platform request ∨
    ((∀ earlier ∈ history, ¬Pollutes platform earlier) ∧
      (request.IsDefault ∨ IsUnturned platform history request))

end List

/-! ### What a request leaves -/

section Law

variable {platform : ListPlatform} {memory : SortMemory} {request : ListRequest}

@[simp]
theorem target_ne_text (value : OrderByValue) : request.target ≠ .text value := by
  unfold ListRequest.target SortMemory.target SortMemory.fresh
  dsimp only
  split_ifs <;> simp

/-- The names are looked up as in a fresh process, but for one of a prototype with a property. -/
theorem target_eq (h : memory.inherited = none) (name : String) :
    memory.target name = SortMemory.fresh.target name := by
  unfold SortMemory.target
  rw [h]
  rfl

theorem IsDefault.target (h : request.IsDefault) : request.target = .column .documentDate := by
  obtain ⟨-, hsort | hsort⟩ := h <;> rw [ListRequest.target, hsort] <;> rfl

theorem IsDefault.sortDir_ne (h : request.IsDefault) : request.sortDir ≠ some "desc" := by
  rcases h.1 with hdir | hdir <;> rw [hdir] <;> decide

theorem list_of_not_reaches (h : ¬Reaches platform request) :
    list platform memory request = (memory, none) := by
  unfold Reaches at h
  rw [list]
  cases hcheck : checkFilters platform request with
  | error e => rfl
  | ok checked => exact absurd hcheck h

theorem list_of_reaches (h : Reaches platform request) :
    list platform memory request =
      match (if request.sortDir = some "desc" then
          memory.turn (memory.target (request.sortBy.getD "documentDate"))
        else if request.IsDefault then
          some { memory with value := Function.update memory.value .documentDate (.order .desc) }
        else some memory) with
      | none => (memory, none)
      | some left =>
        (left, some (left.orderBy (memory.target (request.sortBy.getD "documentDate")))) := by
  unfold Reaches at h
  rw [list, h]

/-- A request gives the prototype a property if it pollutes, and none takes the property away. -/
theorem isSome_inherited_list (platform : ListPlatform) (memory : SortMemory)
    (request : ListRequest) :
    (list platform memory request).1.inherited.isSome = true ↔
      memory.inherited.isSome = true ∨ Pollutes platform request := by
  by_cases hreaches : Reaches platform request
  swap
  · rw [list_of_not_reaches hreaches]
    exact (or_iff_left fun h => hreaches h.1).symm
  rw [list_of_reaches hreaches]
  by_cases hdesc : request.sortDir = some "desc"
  swap
  · have hclean : ¬Pollutes platform request := fun h => hdesc h.2.1
    rw [if_neg hdesc, or_iff_left hclean]
    by_cases hdefault : request.IsDefault
    · rw [if_pos hdefault]
    · rw [if_neg hdefault]
  rw [if_pos hdesc]
  have hpollutes : Pollutes platform request ↔ request.target = .prototype := by
    simp [Pollutes, hreaches, hdesc]
  rw [hpollutes]
  cases hinherited : memory.inherited with
  | some value =>
    cases memory.target (request.sortBy.getD "documentDate") <;> simp [SortMemory.turn, hinherited]
  | none =>
    rw [target_eq hinherited, ← ListRequest.target]
    cases htarget : request.target with
    | text value => exact absurd htarget (target_ne_text value)
    | _ => simp [SortMemory.turn, hinherited]

/-- What a request leaves of the columns of a process whose prototype is clean. -/
theorem value_list (hclean : memory.inherited = none) (column : SortColumn) :
    (list platform memory request).1.value column =
      if ¬Reaches platform request then memory.value column
      else if request.sortDir = some "desc" then
        if request.target = .column column then turned (memory.value column)
        else memory.value column
      else if request.IsDefault ∧ column = .documentDate then .order .desc
      else memory.value column := by
  by_cases hreaches : Reaches platform request
  swap
  · rw [list_of_not_reaches hreaches, if_pos hreaches]
  rw [list_of_reaches hreaches, if_neg (not_not.2 hreaches), target_eq hclean,
    ← ListRequest.target]
  by_cases hdesc : request.sortDir = some "desc"
  · rw [if_pos hdesc, if_pos hdesc]
    cases htarget : request.target with
    | column other =>
      by_cases hcolumn : column = other
      · subst hcolumn
        simp [SortMemory.turn]
      · simp [SortMemory.turn, hcolumn, Ne.symm hcolumn]
    | text value => exact absurd htarget (target_ne_text value)
    | _ => simp [SortMemory.turn]
  · rw [if_neg hdesc, if_neg hdesc]
    by_cases hdefault : request.IsDefault
    · by_cases hcolumn : column = .documentDate
      · simp [hdefault, hcolumn]
      · simp [hdefault, hcolumn]
    · simp [hdefault]

theorem orderBy_list (hclean : memory.inherited = none) (hreaches : Reaches platform request) :
    (list platform memory request).2 = some (
      match request.target with
      | .column column =>
        .object [(column.key,
          if request.sortDir = some "desc" then turned (memory.value column)
          else if request.IsDefault then .order .desc
          else memory.value column)]
      | .prototype =>
        .object (if request.sortDir = some "desc" then [("undefined", .order .asc)] else [])
      | .function => .function
      | .text value => .text value) := by
  rw [list_of_reaches hreaches, target_eq hclean, ← ListRequest.target]
  by_cases hdesc : request.sortDir = some "desc"
  · rw [if_pos hdesc]
    cases htarget : request.target with
    | text value => exact absurd htarget (target_ne_text value)
    | _ => simp [SortMemory.turn, SortMemory.orderBy, hclean, hdesc]
  · rw [if_neg hdesc]
    by_cases hdefault : request.IsDefault
    · rw [if_pos hdefault, IsDefault.target hdefault]
      simp [SortMemory.orderBy, hclean, hdesc, hdefault]
    · rw [if_neg hdefault]
      cases htarget : request.target with
      | text value => exact absurd htarget (target_ne_text value)
      | _ => simp [SortMemory.orderBy, hclean, hdesc, hdefault]

/-! ### What a history leaves -/

theorem isSome_inherited_run (platform : ListPlatform) (memory : SortMemory)
    (history : List ListRequest) :
    (run (fun memory request => (list platform memory request).1) memory
        history).inherited.isSome = true ↔
      memory.inherited.isSome = true ∨ ∃ earlier ∈ history, Pollutes platform earlier := by
  induction history generalizing memory with
  | nil => simp
  | cons request history ih =>
    rw [run_cons, ih, isSome_inherited_list]
    simp only [List.mem_cons, exists_eq_or_imp, or_assoc]

theorem isSome_inherited_memoryAfter (platform : ListPlatform) (history : List ListRequest) :
    (memoryAfter platform history).inherited.isSome = true ↔
      ∃ earlier ∈ history, Pollutes platform earlier := by
  rw [memoryAfter, isSome_inherited_run]
  simp [SortMemory.fresh]

theorem value_memoryAfter {history : List ListRequest}
    (h : ∀ earlier ∈ history, ¬Pollutes platform earlier) (column : SortColumn) :
    (memoryAfter platform history).value column =
      turned^[turns platform column history] column.declared := by
  have hfrom : ∀ (memory : SortMemory) (n : ℕ), memory.inherited = none →
      memory.value column = turned^[n] column.declared →
      (run (fun memory request => (list platform memory request).1) memory history).value column =
        turned^[history.foldl (fun n request =>
          if ¬Reaches platform request then n
          else if request.sortDir = some "desc" then
            if request.target = .column column then n + 1 else n
          else if request.IsDefault ∧ column = .documentDate then 1
          else n) n] column.declared := by
    induction history with
    | nil => exact fun memory n _ hvalue => hvalue
    | cons request history ih =>
      intro memory n hclean hvalue
      rw [List.forall_mem_cons] at h
      rw [run_cons, List.foldl_cons]
      apply ih h.2
      · have hkept := mt (isSome_inherited_list platform memory request).1
          (by simpa [hclean] using h.1)
        simpa using hkept
      · rw [value_list hclean, hvalue]
        split_ifs with hreaches hdesc hturns hdefault
        · exact (Function.iterate_succ_apply' turned n column.declared).symm
        · rfl
        · obtain ⟨-, rfl⟩ := hdefault
          rfl
        · rfl
        · rfl
  exact hfrom .fresh 0 rfl rfl

/-! ### Turned values -/

theorem exists_order_turned (value : OrderByValue) : ∃ order, turned value = .order order := by
  unfold turned
  split_ifs
  · exact ⟨.desc, rfl⟩
  · exact ⟨.asc, rfl⟩

/-- A direction is the declared one after an even number of turns. -/
theorem iterate_turned_order (n : ℕ) :
    turned^[n] (.order .asc) = if Even n then .order .asc else .order .desc := by
  induction n with
  | zero => rfl
  | succ n ih =>
    rw [Function.iterate_succ_apply', ih]
    by_cases hn : Even n
    · rw [if_pos hn, if_neg (by simpa [Nat.even_add_one] using hn)]
      rfl
    · rw [if_neg hn, if_pos (by simpa [Nat.even_add_one] using hn)]
      rfl

/-! ### The answers -/

theorem filter_refused {orderBy : OrderBy}
    (h : (platform.acceptsOrderBy orderBy && platform.acceptsSelection request) = false) :
    (some orderBy).filter (fun orderBy =>
      platform.acceptsOrderBy orderBy && platform.acceptsSelection request) = none := by
  rw [Option.filter_some, h]
  rfl

/-- Once the prototype has a property, the client takes no arguments. -/
theorem sortOfResponse_of_inherited (hrules : platform.Rules)
    (h : (list platform memory request).1.inherited.isSome = true) :
    sortOfResponse platform memory request = none := by
  by_cases hreaches : Reaches platform request
  swap
  · rw [sortOfResponse, list_of_not_reaches hreaches, Option.filter_none]
  unfold sortOfResponse
  rw [list_of_reaches hreaches] at h ⊢
  generalize (if request.sortDir = some "desc" then
      memory.turn (memory.target (request.sortBy.getD "documentDate"))
    else if request.IsDefault then
      some { memory with value := Function.update memory.value .documentDate (.order .desc) }
    else some memory) = left at h ⊢
  cases left with
  | none => rfl
  | some left =>
    obtain ⟨value, hvalue⟩ : ∃ value, left.inherited = some value := Option.isSome_iff_exists.1 h
    have hrefused : platform.acceptsOrderBy
        (left.orderBy (memory.target (request.sortBy.getD "documentDate"))) = false := by
      cases memory.target (request.sortBy.getD "documentDate") with
      | column column => exact hrules.unknown _ value (by simp [hvalue])
      | prototype => exact hrules.unknown _ value (by simp [hvalue])
      | function => exact hrules.function
      | text text => exact hrules.text text
    apply filter_refused
    rw [hrefused, Bool.false_and]

theorem sortOfResponse_of_neverAnswered (hrules : platform.Rules)
    (h : NeverAnswered platform request) (memory : SortMemory) :
    sortOfResponse platform memory request = none := by
  by_cases hclean : memory.inherited = none
  swap
  · apply sortOfResponse_of_inherited hrules
    rw [isSome_inherited_list]
    exact .inl (Option.isSome_iff_ne_none.2 hclean)
  by_cases hreaches : Reaches platform request
  swap
  · rw [sortOfResponse, list_of_not_reaches hreaches, Option.filter_none]
  rw [sortOfResponse, orderBy_list hclean hreaches]
  apply filter_refused
  rcases h with hnot | hselection | hfunction | ⟨hdesc, hprototype | hsupplier⟩
  · exact absurd hreaches hnot
  · rw [hselection, Bool.and_false]
  · rw [hfunction, hrules.function, Bool.false_and]
  · rw [hprototype]
    dsimp only
    rw [if_pos hdesc, hrules.unknown _ (.order .asc) (by simp), Bool.false_and]
  · rw [hsupplier]
    dsimp only
    obtain ⟨order, horder⟩ := exists_order_turned (memory.value .supplierName)
    rw [if_pos hdesc, horder, hrules.relation, Bool.false_and]

theorem sortOfResponse_eq (hanswered : ¬NeverAnswered platform request)
    (hclean : memory.inherited = none) :
    sortOfResponse platform memory request =
      Option.filter platform.acceptsOrderBy (some (
        match request.target with
        | .column column =>
          .object [(column.key,
            if request.sortDir = some "desc" then turned (memory.value column)
            else if request.IsDefault then .order .desc
            else memory.value column)]
        | .prototype => .object []
        | .function => .function
        | .text value => .text value)) := by
  have hreaches : Reaches platform request := by
    by_contra hnot
    exact hanswered (.inl hnot)
  have hselection : platform.acceptsSelection request = true := by
    by_contra hnot
    exact hanswered (.inr (.inl (Bool.eq_false_iff.2 hnot)))
  rw [sortOfResponse, orderBy_list hclean hreaches]
  simp only [hselection, Bool.and_true]
  cases htarget : request.target with
  | prototype =>
    dsimp only
    rw [if_neg]
    exact fun hdesc => hanswered (.inr (.inr (.inr ⟨hdesc, .inl htarget⟩)))
  | _ => rfl

theorem sortOfResponse_eq_iff_of_field (hrules : platform.Rules)
    (hanswered : ¬NeverAnswered platform request) (hclean : memory.inherited = none)
    {column : SortColumn} (htarget : request.target = .column column)
    (hfield : column ≠ .supplierName) (hdefault : ¬request.IsDefault) {n : ℕ}
    (hvalue : memory.value column = turned^[n] (.order .asc)) :
    sortOfResponse platform memory request = sortOfResponse platform .fresh request ↔ Even n := by
  have hdeclared : SortMemory.fresh.value column = .order .asc := by
    cases column with
    | supplierName => exact absurd rfl hfield
    | _ => rfl
  have hturned : turned (.order .asc) = .order .desc ∧ turned (.order .desc) = .order .asc := by
    decide
  rw [sortOfResponse_eq hanswered hclean, sortOfResponse_eq hanswered rfl, htarget]
  dsimp only
  rw [if_neg hdefault, if_neg hdefault, hdeclared, hvalue, iterate_turned_order]
  by_cases hdesc : request.sortDir = some "desc"
  · by_cases hn : Even n
    · simp [hdesc, hn]
    · simp [hdesc, hn, hturned, Option.filter_some, hrules.field column _ hfield]
  · by_cases hn : Even n
    · simp [hdesc, hn]
    · simp [hdesc, hn, Option.filter_some, hrules.field column _ hfield]

/-- A process answers at the start what any process can answer. -/
theorem isSome_sortOfResponse_fresh (hrules : platform.Rules)
    (hanswered : ¬NeverAnswered platform request) :
    (sortOfResponse platform .fresh request).isSome = true := by
  rw [sortOfResponse_eq hanswered rfl]
  cases htarget : request.target with
  | column column =>
    by_cases hsupplier : column = .supplierName
    · subst hsupplier
      have hdesc : request.sortDir ≠ some "desc" := fun hdesc =>
        hanswered (.inr (.inr (.inr ⟨hdesc, .inr htarget⟩)))
      have hdefault : ¬request.IsDefault := by
        intro hdefault
        rw [IsDefault.target hdefault] at htarget
        cases htarget
      simp [hdesc, hdefault, SortMemory.fresh, SortColumn.declared, Option.filter_some,
        hrules.supplierName]
    · have hdeclared : SortMemory.fresh.value column = .order .asc := by
        cases column with
        | supplierName => exact absurd rfl hsupplier
        | _ => rfl
      obtain ⟨order, horder⟩ : ∃ order : SortOrder,
          (if request.sortDir = some "desc" then turned (SortMemory.fresh.value column)
            else if request.IsDefault then .order .desc
            else SortMemory.fresh.value column) = .order order := by
        rw [hdeclared]
        split_ifs
        · exact exists_order_turned _
        · exact ⟨.desc, rfl⟩
        · exact ⟨.asc, rfl⟩
      dsimp only
      rw [horder, Option.filter_some, hrules.field column order hsupplier]
      rfl
  | prototype => simp [Option.filter_some, hrules.empty]
  | function => exact absurd (.inr (.inr (.inl htarget))) hanswered
  | text value => exact absurd htarget (target_ne_text value)

/-- The history shows in no answer if and only if it leaves no trace. -/
theorem sortOfResponse_memoryAfter_iff (hrules : platform.Rules) (history : List ListRequest)
    (request : ListRequest) :
    sortOfResponse platform (memoryAfter platform history) request =
        sortOfResponse platform .fresh request ↔
      LeavesNoTrace platform history request := by
  by_cases hnever : NeverAnswered platform request
  · rw [sortOfResponse_of_neverAnswered hrules hnever,
      sortOfResponse_of_neverAnswered hrules hnever]
    exact iff_of_true rfl (.inl hnever)
  have htrace : LeavesNoTrace platform history request ↔
      (∀ earlier ∈ history, ¬Pollutes platform earlier) ∧
        (request.IsDefault ∨ IsUnturned platform history request) := or_iff_right hnever
  rw [htrace]
  have hfreshSome := isSome_sortOfResponse_fresh hrules hnever
  by_cases hpolluted : ∃ earlier ∈ history, Pollutes platform earlier
  · have hnone : sortOfResponse platform (memoryAfter platform history) request = none := by
      apply sortOfResponse_of_inherited hrules
      rw [isSome_inherited_list, isSome_inherited_memoryAfter]
      exact .inl hpolluted
    rw [hnone]
    refine iff_of_false ?_ ?_
    · intro hsame
      rw [← hsame] at hfreshSome
      cases hfreshSome
    · rintro ⟨hclean, -⟩
      obtain ⟨earlier, hmem, hpollutes⟩ := hpolluted
      exact hclean earlier hmem hpollutes
  · have hclean : ∀ earlier ∈ history, ¬Pollutes platform earlier := fun earlier hmem hp =>
      hpolluted ⟨earlier, hmem, hp⟩
    rw [and_iff_right hclean]
    have hinherited : (memoryAfter platform history).inherited = none := by
      have hnot := mt (isSome_inherited_memoryAfter platform history).1 hpolluted
      simpa using hnot
    by_cases hdefault : request.IsDefault
    · refine iff_of_true ?_ (.inl hdefault)
      rw [sortOfResponse_eq hnever hinherited, sortOfResponse_eq hnever rfl,
        IsDefault.target hdefault]
      simp [IsDefault.sortDir_ne hdefault, hdefault]
    rw [or_iff_right hdefault, IsUnturned]
    cases htarget : request.target with
    | column column =>
      have hvalue := value_memoryAfter hclean column
      cases column with
      | supplierName =>
        have hdesc : request.sortDir ≠ some "desc" := fun hdesc =>
          hnever (.inr (.inr (.inr ⟨hdesc, .inr htarget⟩)))
        rw [sortOfResponse_eq hnever hinherited, sortOfResponse_eq hnever rfl, htarget]
        dsimp only
        rw [if_neg hdesc, if_neg hdefault, if_neg hdesc, if_neg hdefault, hvalue]
        generalize turns platform .supplierName history = n
        cases n with
        | zero => exact iff_of_true rfl rfl
        | succ n =>
          obtain ⟨order, horder⟩ :=
            exists_order_turned (turned^[n] SortColumn.supplierName.declared)
          rw [Function.iterate_succ_apply', horder]
          simp [Option.filter_some, hrules.relation, SortMemory.fresh, SortColumn.declared,
            hrules.supplierName]
      | _ =>
        exact sortOfResponse_eq_iff_of_field hrules hnever hinherited htarget (by decide) hdefault
          hvalue
    | prototype =>
      rw [sortOfResponse_eq hnever hinherited, sortOfResponse_eq hnever rfl, htarget]
      simp
    | function => exact absurd (.inr (.inr (.inl htarget))) hnever
    | text value => exact absurd htarget (target_ne_text value)

end Law

/-- A client that reads its arguments as the documented one does. -/
def plainPlatform : ListPlatform where
  parseDate := fun _ => none
  parseFilters := fun _ => none
  acceptsOrderBy
    | .object properties => properties.all fun property =>
      (property.2 = .supplierName) = (property.1 = "purchaseOrder") && property.1 ≠ "undefined"
    | _ => false
  acceptsSelection := fun _ => true

theorem plainPlatform_rules : plainPlatform.Rules where
  field := by
    intro column order h
    cases column
    · rfl
    · rfl
    · rfl
    · exact absurd rfl h
  supplierName := by decide
  empty := rfl
  relation := fun _ => rfl
  unknown := by
    intro properties value hmem
    rw [Bool.eq_false_iff]
    intro haccepts
    simpa using List.all_eq_true.1 haccepts _ hmem
  function := rfl
  text := fun _ => rfl

def byStatus (sortDir : String) : ListRequest := ⟨some "status", some sortDir, none, ""⟩

/-- After a request by date, one by status is answered as in a fresh process. -/
theorem sortOfResponse_memoryAfter_byDate :
    sortOfResponse plainPlatform (memoryAfter plainPlatform [{}]) (byStatus "desc") =
      sortOfResponse plainPlatform .fresh (byStatus "desc") := by
  apply (sortOfResponse_memoryAfter_iff plainPlatform_rules [{}] (byStatus "desc")).2
  have htarget : (byStatus "desc").target = .column .status := by decide +kernel
  refine .inr ⟨by decide +kernel, .inr ?_⟩
  rw [IsUnturned, htarget]
  decide +kernel

/-- The second of two requests for descending statuses gets ascending ones. -/
theorem not_sortOfResponse_memoryAfter :
    ¬∀ (platform : ListPlatform), platform.Rules → ∀ (history : List ListRequest)
      (request : ListRequest),
      sortOfResponse platform (memoryAfter platform history) request =
        sortOfResponse platform .fresh request := by
  intro h
  have hsame := h plainPlatform plainPlatform_rules [byStatus "desc"] (byStatus "desc")
  revert hsame
  decide +kernel

end Forecast.Manufacturing.InvoiceSorting
