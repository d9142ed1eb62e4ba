import Mathlib.Algebra.Order.Ring.Rat
import Forecast.Lib.KeyedTable

/-!
# The tenant of a query

The middleware of the database client rewrites the arguments of an operation on a
tenant-scoped model: the tenant of the context goes to the top of `where`, and to data
that names no tenant. What the client does with the arguments is not part of the
repository: a table of one model is a list of rows, and `PrismaClient` says how a row is
selected, written and made.
-/

open KeyedTable

namespace Forecast.Database

/-! ### Arguments -/

/-- A value in the arguments of a query. -/
inductive Value where
  | undefined
  | null
  | bool (b : Bool)
  | number (q : ℚ)
  | text (s : String)
  | array (items : List Value)
  | object (entries : List (String × Value))

/-- An object, by its own keys in their order. -/
abbrev Object := List (String × Value)

def Value.truthy : Value → Bool
  | undefined | null => false
  | bool b => b
  | number q => q ≠ 0
  | text s => s ≠ ""
  | array _ | object _ => true

namespace Object

variable (o : Object)

def get (key : String) : Value := ((lookup Prod.fst o key).map Prod.snd).getD .undefined

def set (key : String) (value : Value) : Object := upsert Prod.fst o (key, value)

/-- `Object.assign` -/
def assign (entries : Object) : Object := upsertAll Prod.fst o entries

end Object

inductive PrismaAction where
  | findUnique
  | findUniqueOrThrow
  | findFirst
  | findFirstOrThrow
  | findMany
  | count
  | aggregate
  | groupBy
  | update
  | updateMany
  | delete
  | deleteMany
  | create
  | createMany
  | upsert
deriving DecidableEq

/-- The operations that act on one row. -/
def PrismaAction.single : PrismaAction → Bool
  | findUnique | findUniqueOrThrow | findFirst | findFirstOrThrow | update | delete | upsert => true
  | _ => false

/-- The operations whose `where` is to name a unique key. -/
def PrismaAction.needsUnique : PrismaAction → Bool
  | findUnique | findUniqueOrThrow | update | delete | upsert => true
  | _ => false

inductive Data where
  | one (data : Object)
  | many (data : List Object)

/-- The data of a creation, one item for each row. -/
def Data.items : Option Data → List Object
  | some (.one data) => [data]
  | some (.many items) => items
  | none => [[]]

/-- The data of an update. -/
def Data.single : Option Data → Object
  | some (.one data) => data
  | _ => []

/-- The arguments; `relations` are those that reach rows of other models. -/
structure Args where
  whereArg : Option Object := none
  data : Option Data := none
  create : Option Object := none
  update : Option Object := none
  relations : Object := []

structure Params where
  model : Option String
  action : PrismaAction
  args : Args

/-! ### The middleware -/

def superAdminTenantId : String := "00000000-0000-0000-0000-000000000000"

def mergeWhereWithTenant (w : Option Object) (tenantId : String) : Object :=
  (w.getD []).set "tenantId" (.text tenantId)

/-- The entries that an entry of `where` is expanded to. -/
def expandEntry (e : String × Value) : Object :=
  match e.2 with
  | .object entries => if '_' ∈ e.1.toList then entries else [e]
  | _ => [e]

def flattenCompositeKeys (w : Option Object) : Object :=
  (w.getD []).foldl (fun flat e => flat.assign (expandEntry e)) []

def namesTenant (data : Object) : Bool :=
  (data.get "tenantId").truthy || (data.get "tenant").truthy

def mergeDataWithTenant (data : Option Object) (tenantId : String) : Object :=
  if namesTenant (data.getD []) then data.getD []
  else (data.getD []).set "tenantId" (.text tenantId)

namespace Args

variable (args : Args) (tenantId : String)

def scopeWhere : Args :=
  { args with whereArg := some (mergeWhereWithTenant args.whereArg tenantId) }

def scopeUniqueWhere : Args :=
  { args with
    whereArg := some (mergeWhereWithTenant (some (flattenCompositeKeys args.whereArg)) tenantId) }

def scopeData : Args :=
  { args with
    data := some <|
      match args.data with
      | some (.many items) => .many (items.map fun item => mergeDataWithTenant (some item) tenantId)
      | some (.one data) => .one (mergeDataWithTenant (some data) tenantId)
      | none => .one (mergeDataWithTenant none tenantId) }

def scopeUpsert : Args :=
  { args with
    create := some (mergeDataWithTenant args.create tenantId)
    update := some (mergeDataWithTenant args.update tenantId) }

end Args

/-- The operation in the name of a tenant. -/
def Params.scoped (params : Params) (tenantId : String) : Params :=
  match params.action with
  | .findUnique =>
    { params with action := .findFirst, args := params.args.scopeUniqueWhere tenantId }
  | .findUniqueOrThrow =>
    { params with action := .findFirstOrThrow, args := params.args.scopeUniqueWhere tenantId }
  | .findFirst | .findFirstOrThrow | .findMany | .count | .aggregate | .groupBy | .update
  | .updateMany | .delete | .deleteMany =>
    { params with args := params.args.scopeWhere tenantId }
  | .create | .createMany => { params with args := params.args.scopeData tenantId }
  | .upsert => { params with args := (params.args.scopeWhere tenantId).scopeUpsert tenantId }

def scopeQuery (tenantScopedModels : List String) (tenantId : Option String) (params : Params) :
    Params :=
  if ∃ model ∈ params.model, model ∈ tenantScopedModels then
    match tenantId.filter fun t => t ≠ "" ∧ t ≠ superAdminTenantId with
    | some tenantId => params.scoped tenantId
    | none => params
  else params

/-! ### The client -/

/-- How the client reads its arguments; `ρ` are the rows of the model. -/
structure PrismaClient (ρ : Type) where
  tenantId : ρ → String
  /-- The row fulfils an entry of `where`. -/
  holds : ρ → String → Value → Bool
  /-- `where` names a unique key. -/
  unique : Object → Bool
  /-- The tenant that data assigns. -/
  assigned : Object → Option String
  /-- The row with data, none when the data is refused. -/
  updated : Object → ρ → Option ρ
  /-- The row of data, none when the data is refused. -/
  made : Object → Option ρ
  /-- The tenants of the rows of other models that an argument reaches from a row. -/
  reached : Object → ρ → List String

/-- What the documentation of the client says. -/
structure PrismaClient.Documented {ρ : Type} (client : PrismaClient ρ) : Prop where
  holds_tenantId : ∀ row t, client.holds row "tenantId" (.text t) = decide (client.tenantId row = t)
  /-- Only unique keys of several columns have a name with an underscore. -/
  holds_composite : ∀ row key entries, '_' ∈ key.toList →
    client.holds row key (.object entries) = entries.all fun e => client.holds row e.1 e.2
  assigned_text : ∀ data t, data.get "tenantId" = .text t → (data.get "tenant").truthy = false →
    client.assigned data = some t
  /-- A key that `where` names is still there with a tenant. -/
  unique_set : ∀ w t, client.unique w → client.unique (Object.set w "tenantId" (.text t))
  tenantId_updated : ∀ data row row', client.updated data row = some row' →
    client.tenantId row' = (client.assigned data).getD (client.tenantId row)
  assigned_made : ∀ data row, client.made data = some row →
    client.assigned data = some (client.tenantId row)

/-- A row that an operation touches: as it is found, as it is left, and whose rows of other
models are reached from it. -/
structure Touch (ρ : Type) where
  before : Option ρ
  after : Option ρ
  reached : List String
deriving DecidableEq

namespace PrismaClient

variable {ρ : Type} (client : PrismaClient ρ)

/-- All entries of `where` are to hold. -/
def selects (w : Object) (row : ρ) : Bool := w.all fun e => client.holds row e.1 e.2

def selected (args : Args) (rows : List ρ) : List ρ :=
  rows.filter (client.selects (args.whereArg.getD []))

def created (args : Args) (items : List Object) : List (Touch ρ) :=
  if items.all fun data => (client.made data).isSome then
    items.filterMap fun data => (client.made data).map fun row =>
      ⟨none, some row, client.reached data row ++ client.reached args.relations row⟩
  else []

/-- Data that is refused leaves the row as it is. -/
def updateTouch (args : Args) (data : Object) (row : ρ) : Touch ρ :=
  ⟨some row, some ((client.updated data row).getD row),
    client.reached data row ++ client.reached args.relations row⟩

/-- The rows that an operation acts on. -/
def chosen (params : Params) (rows : List ρ) : List ρ :=
  if params.action.single then (client.selected params.args rows).take 1
  else client.selected params.args rows

/-- What an operation does with the rows that it acts on. -/
def perform (params : Params) (rows : List ρ) : List (Touch ρ) :=
  match params.action with
  | .findUnique | .findUniqueOrThrow | .findFirst | .findFirstOrThrow | .findMany | .count
  | .aggregate | .groupBy =>
    rows.map fun row => ⟨some row, some row, client.reached params.args.relations row⟩
  | .update | .updateMany =>
    rows.map (client.updateTouch params.args (Data.single params.args.data))
  | .delete | .deleteMany =>
    rows.map fun row => ⟨some row, none, client.reached params.args.relations row⟩
  | .create | .createMany => client.created params.args (Data.items params.args.data)
  | .upsert =>
    match rows with
    | [] => client.created params.args [params.args.create.getD []]
    | row :: rest =>
      (row :: rest).map (client.updateTouch params.args (params.args.update.getD []))

/-- An operation on one row by its key names one. -/
def accepts (params : Params) : Bool :=
  !params.action.needsUnique || client.unique (params.args.whereArg.getD [])

def exec (params : Params) (rows : List ρ) : List (Touch ρ) :=
  if client.accepts params then client.perform params (client.chosen params rows) else []

end PrismaClient

end Forecast.Database
