import Mathlib.Data.Finset.Card
import Mathlib.Data.List.Sort
import Forecast.Billing.Schema
import Forecast.Lib.ThreadPool
import Forecast.Lib.Transactions

/-!
# Approval workflows

`WorkflowService` with one database read or write a step. A call reads the instance, decides, and
writes later; nothing locks the instance in between. Rows are never deleted, so that an id is the
position of its row.
-/

namespace Forecast.Workflow

open RowTable ThreadPool Transactions

/-! ### Tables -/

inductive WorkflowEntityType where
  | planVersion
  | scenario
  | forecastRun
  | forecastOverride
  | forecastReconciliation
  | forecast
  | plannedOrder
  | bom
  | promotion
  | priceChange
deriving DecidableEq

def WorkflowEntityType.text : WorkflowEntityType → String
  | planVersion => "PLAN_VERSION"
  | scenario => "SCENARIO"
  | forecastRun => "FORECAST_RUN"
  | forecastOverride => "FORECAST_OVERRIDE"
  | forecastReconciliation => "FORECAST_RECONCILIATION"
  | forecast => "FORECAST"
  | plannedOrder => "PLANNED_ORDER"
  | bom => "BOM"
  | promotion => "PROMOTION"
  | priceChange => "PRICE_CHANGE"

inductive WorkflowStatus where
  | inProgress
  | approved
  | rejected
  | cancelled
  | onHold
deriving DecidableEq

inductive WorkflowActionType where
  | submit
  | approve
  | reject
  | delegate
  | sendBack
  | comment
  | escalate
deriving DecidableEq

inductive ApproverType where
  | user
  | role
  | manager
  | dynamic
deriving DecidableEq

inductive UserRole where
  | superAdmin
  | admin
  | planner
  | forecastPlanner
  | finance
  | viewer
  | forecastViewer
deriving DecidableEq

structure User where
  id : Id
  tenantId : Id
  role : UserRole
deriving DecidableEq

structure WorkflowStep where
  sequence : ℤ
  approverType : ApproverType
  approverRole : Option UserRole
  approverUserId : Option Id
  requiredApprovals : ℤ
  canReject : Bool
deriving DecidableEq

/-- A template with its steps ordered by `sequence`, which is unique within a template. -/
structure WorkflowTemplate where
  tenantId : Id
  entityType : WorkflowEntityType
  isActive : Bool
  steps : List WorkflowStep
  ordered : (steps.map WorkflowStep.sequence).Pairwise (· < ·)

structure WorkflowInstance where
  tenantId : Id
  templateId : Id
  entityType : WorkflowEntityType
  entityId : Id
  status : WorkflowStatus
  currentStep : ℤ
  submittedBy : Id
  submittedAt : Time
  completedAt : Option Time
deriving DecidableEq

structure WorkflowAction where
  instanceId : Id
  stepNumber : ℤ
  action : WorkflowActionType
  performedBy : Id
deriving DecidableEq

structure WorkflowDb where
  users : List User
  templates : List WorkflowTemplate
  instances : List WorkflowInstance
  actions : List WorkflowAction

inductive WorkflowError where
  | badRequest (message : String)
  | notFound (message : String)
  | database
deriving DecidableEq

namespace WorkflowDb

def updateInstance (db : WorkflowDb) (id : Id) (f : WorkflowInstance → WorkflowInstance) :
    WorkflowDb :=
  { db with instances := db.instances.modify id f }

def createAction (db : WorkflowDb) (action : WorkflowAction) : WorkflowDb :=
  { db with actions := db.actions ++ [action] }

end WorkflowDb

/-! ### Starting a workflow -/

def minApprovalSteps : ℕ := 3

def assertTemplateStepsIntegrity (sequences : List ℤ) : Except WorkflowError Unit := do
  throwWhen (sequences = []) (.badRequest "Workflow template must contain at least one step")
  let sorted := sequences.insertionSort (· ≤ ·)
  throwWhen (sorted ≠ (List.range sorted.length).map fun index => ((index : ℤ) + 1))
    (.badRequest "Workflow steps must use contiguous sequence numbers starting at 1")

structure StartRequest where
  tenantId : Id
  entityType : WorkflowEntityType
  entityId : Id
  submittedBy : Id
deriving DecidableEq

def findTemplate (db : WorkflowDb) (request : StartRequest) :
    Except WorkflowError (Id × WorkflowStep) := do
  let (templateId, template) ← found
    (findRow? (fun row => row.tenantId == request.tenantId &&
      row.entityType == request.entityType && row.isActive) db.templates)
    (.badRequest s!"No active workflow template for {request.entityType.text}")
  assertTemplateStepsIntegrity (template.steps.map WorkflowStep.sequence)
  throwWhen (template.steps.length < minApprovalSteps)
    (.badRequest s!"Workflow template must define at least {minApprovalSteps} approval steps")
  let firstStep ← found template.steps.head? .database
  pure (templateId, firstStep)

def WorkflowInstance.isActive (row : WorkflowInstance) : Bool :=
  row.status == .inProgress || row.status == .onHold

def WorkflowInstance.isOf (row : WorkflowInstance) (tenantId : Id)
    (entityType : WorkflowEntityType) (entityId : Id) : Bool :=
  row.tenantId == tenantId && row.entityType == entityType && row.entityId == entityId

def hasActiveInstance (db : WorkflowDb) (request : StartRequest) : Bool :=
  db.instances.any fun row =>
    row.isOf request.tenantId request.entityType request.entityId && row.isActive

def newInstance (request : StartRequest) (templateId : Id) (firstStep : WorkflowStep)
    (now : Time) : WorkflowInstance where
  tenantId := request.tenantId
  templateId := templateId
  entityType := request.entityType
  entityId := request.entityId
  status := .inProgress
  currentStep := firstStep.sequence
  submittedBy := request.submittedBy
  submittedAt := now
  completedAt := none

/-! ### Deciding on a step -/

structure Review where
  instanceId : Id
  userId : Id
  tenantId : Option Id
deriving DecidableEq

/-- An instance as a call read it, with its template and the step it was in. -/
structure PendingReview where
  instanceId : Id
  userId : Id
  row : WorkflowInstance
  template : WorkflowTemplate
  step : WorkflowStep

def getInstanceWithTemplate (db : WorkflowDb) (instanceId : Id) (tenantId : Option Id) :
    Except WorkflowError (WorkflowInstance × WorkflowTemplate) := do
  let row ← found (db.instances[instanceId]?.filter fun row =>
    tenantId.all fun tenant => row.tenantId == tenant) (.notFound "Workflow instance not found")
  let template ← found db.templates[row.templateId]? .database
  pure (row, template)

/-- What `approve` and `reject` do first. -/
def readPending (db : WorkflowDb) (review : Review) : Except WorkflowError PendingReview := do
  let (row, template) ← getInstanceWithTemplate db review.instanceId review.tenantId
  throwWhen (row.status ≠ .inProgress) (.badRequest "Workflow is not in progress")
  let step ← found (template.steps.find? fun step => step.sequence == row.currentStep)
    (.notFound "Workflow step not found")
  pure ⟨review.instanceId, review.userId, row, template, step⟩

def readRejectable (db : WorkflowDb) (review : Review) : Except WorkflowError PendingReview := do
  let pending ← readPending db review
  throwWhen (pending.step.canReject = false)
    (.badRequest "Current workflow step does not allow rejection")
  pure pending

def assertApprover (db : WorkflowDb) (tenantId : Id) (step : WorkflowStep) (userId : Id) :
    Except WorkflowError Unit := do
  let user ← found (db.users.find? fun row => row.id == userId && row.tenantId == tenantId)
    (.notFound "User not found")
  throwWhen (step.approverType = .user ∧ step.approverUserId ≠ some userId)
    (.badRequest "User is not an authorized approver")
  throwWhen (step.approverType = .role ∧ step.approverRole.isSome ∧
    step.approverRole ≠ some user.role) (.badRequest "User does not have approver role")
  throwWhen (step.approverType = .manager ∧ user.role ≠ .admin)
    (.badRequest "Manager approvals require ADMIN")
  throwWhen (step.approverType = .dynamic ∧ user.role = .viewer)
    (.badRequest "User does not meet dynamic approver requirements")

def approvalsOf (db : WorkflowDb) (instanceId : Id) (step : WorkflowStep) : List WorkflowAction :=
  db.actions.filter fun row =>
    row.instanceId == instanceId && row.stepNumber == step.sequence && row.action == .approve

def uniqueApprovals (db : WorkflowDb) (instanceId : Id) (step : WorkflowStep) : Finset Id :=
  ((approvalsOf db instanceId step).map WorkflowAction.performedBy).toFinset

def assertNotApproved (db : WorkflowDb) (pending : PendingReview) : Except WorkflowError Unit :=
  throwWhen (pending.userId ∈ uniqueApprovals db pending.instanceId pending.step)
    (.badRequest "User has already approved the current step")

def PendingReview.action (pending : PendingReview) (action : WorkflowActionType) :
    WorkflowAction :=
  ⟨pending.instanceId, pending.step.sequence, action, pending.userId⟩

def isLastStep (pending : PendingReview) : Bool :=
  pending.template.steps.getLast?.any fun last => pending.step.sequence == last.sequence

/-! ### The steps of the calls -/

inductive WorkflowThread where
  | readTemplate (request : StartRequest)
  | checkActive (request : StartRequest) (templateId : Id) (firstStep : WorkflowStep)
  | createInstance (request : StartRequest) (templateId : Id) (firstStep : WorkflowStep)
  | recordSubmit (request : StartRequest) (instanceId : Id) (row : WorkflowInstance)
  | readForApproval (review : Review)
  | checkApprover (pending : PendingReview)
  | checkExisting (pending : PendingReview)
  | recordApproval (pending : PendingReview)
  | countApprovals (pending : PendingReview)
  | writeApproved (pending : PendingReview)
  | writeNextStep (pending : PendingReview)
  | readForRejection (review : Review)
  | checkRejecter (pending : PendingReview)
  | recordRejection (pending : PendingReview)
  | writeRejected (pending : PendingReview)
  | returned (row : WorkflowInstance)
  | thrown (error : WorkflowError)

inductive WorkflowCall where
  | startWorkflow (request : StartRequest)
  | approve (review : Review)
  | reject (review : Review)

def WorkflowCall.start : WorkflowCall → WorkflowThread
  | startWorkflow request => .readTemplate request
  | approve review => .readForApproval review
  | reject review => .readForRejection review

/-- The thread that a read leads to. -/
def proceed {α : Type} (outcome : Except WorkflowError α) (next : α → WorkflowThread) :
    WorkflowThread :=
  match outcome with
  | .ok a => next a
  | .error e => .thrown e

/-- What `approve` does with the number of approvals. -/
def afterCount (db : WorkflowDb) (pending : PendingReview) : WorkflowThread :=
  if pending.step.requiredApprovals ≤
      ((uniqueApprovals db pending.instanceId pending.step).card : ℤ) then
    if isLastStep pending then .writeApproved pending else .writeNextStep pending
  else .returned pending.row

def setApproved (now : Time) (row : WorkflowInstance) : WorkflowInstance :=
  { row with status := .approved, completedAt := some now }

def setNextStep (pending : PendingReview) (row : WorkflowInstance) : WorkflowInstance :=
  { row with currentStep := pending.step.sequence + 1 }

def setRejected (now : Time) (row : WorkflowInstance) : WorkflowInstance :=
  { row with status := .rejected, completedAt := some now }

def updated (db : WorkflowDb) (pending : PendingReview)
    (f : WorkflowInstance → WorkflowInstance) : WorkflowDb × WorkflowThread :=
  match db.instances[pending.instanceId]? with
  | some row => (db.updateInstance pending.instanceId f, .returned (f row))
  | none => (db, .thrown .database)

def WorkflowThread.isDone : WorkflowThread → Bool
  | returned _ => true
  | thrown _ => true
  | _ => false

/-- The next database operation of a call, at time `now`. -/
def WorkflowThread.perform (db : WorkflowDb) (thread : WorkflowThread) (now : Time) :
    WorkflowDb × WorkflowThread :=
  match thread with
  | readTemplate request =>
    (db, proceed (findTemplate db request) fun (id, step) => .checkActive request id step)
  | checkActive request templateId firstStep =>
    (db, proceed (throwWhen (hasActiveInstance db request)
      (.badRequest "An active workflow already exists for this entity")) fun _ =>
        .createInstance request templateId firstStep)
  | createInstance request templateId firstStep =>
    ({ db with instances := db.instances ++ [newInstance request templateId firstStep now] },
      .recordSubmit request db.instances.length (newInstance request templateId firstStep now))
  | recordSubmit request instanceId row =>
    (db.createAction ⟨instanceId, row.currentStep, .submit, request.submittedBy⟩, .returned row)
  | readForApproval review => (db, proceed (readPending db review) .checkApprover)
  | checkApprover pending =>
    (db, proceed (assertApprover db pending.row.tenantId pending.step pending.userId) fun _ =>
      .checkExisting pending)
  | checkExisting pending =>
    (db, proceed (assertNotApproved db pending) fun _ => .recordApproval pending)
  | recordApproval pending =>
    (db.createAction (pending.action .approve), .countApprovals pending)
  | countApprovals pending => (db, afterCount db pending)
  | writeApproved pending => updated db pending (setApproved now)
  | writeNextStep pending => updated db pending (setNextStep pending)
  | readForRejection review => (db, proceed (readRejectable db review) .checkRejecter)
  | checkRejecter pending =>
    (db, proceed (assertApprover db pending.row.tenantId pending.step pending.userId) fun _ =>
      .recordRejection pending)
  | recordRejection pending =>
    (db.createAction (pending.action .reject), .writeRejected pending)
  | writeRejected pending => updated db pending (setRejected now)
  | returned row => (db, .returned row)
  | thrown e => (db, .thrown e)

/-- Without an answer the operation fails and the call throws. -/
def WorkflowThread.advance (db : WorkflowDb) (thread : WorkflowThread) (answer : Option Time) :
    WorkflowDb × WorkflowThread :=
  match answer with
  | some now => thread.perform db now
  | none => (db, if thread.isDone then thread else .thrown .database)

def workflowProgram :
    Program WorkflowDb WorkflowThread WorkflowCall (Option Time) Empty where
  start _ _ call := some call.start
  advance := WorkflowThread.advance
  env db _ := db

abbrev WorkflowConfig := Config WorkflowDb WorkflowThread

abbrev WorkflowStepAction := Action WorkflowCall (Option Time) Empty

end Forecast.Workflow
