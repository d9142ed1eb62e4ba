import Forecast.Billing.Charges
import Forecast.Lib.ThreadPool

/-!
# Calls of the AI provider

`AiProviderService.callProvider` prepares a ticket, sends the request at most twice, and settles
the ticket on whichever path it leaves. A settle that throws is caught and logged; the call goes
on without it. Between any two steps of a call the wallets have other traffic, such as the sweep
that expires stale reservations.
-/

namespace Forecast

open RowTable ThreadPool Runs

/-- What a call of the provider is made with. -/
structure ProviderRequest where
  input : PrepareInput
  requestId : Option Id
  /-- The model comes from the billing registry and not from the tenant's own settings. -/
  central : Bool

/-- How one attempt to send the request ends. -/
inductive ProviderReply where
  | status (code : ℕ)
  | payload (content : Option String) (usage : SettleUsage)
  /-- The timeout aborted it. -/
  | aborted
  /-- The connection, or the reading of the answer, failed. -/
  | broken

/-- What a call throws before it sends anything. -/
inductive CallError where
  | billing (error : Thrown)
  /-- `AiReportingUnavailable` -/
  | unavailable (message : String)

inductive CallOutcome where
  | answered (content : String) (usage : SettleUsage)
  | failed

/-- What an attempt leads to; none when the request is sent again. -/
def handleReply (attempt : ℕ) : ProviderReply → Option CallOutcome
  | .status code => if (code = 429 ∨ 500 ≤ code) ∧ attempt < 2 then none else some .failed
  | .payload content usage =>
    match content with
    | some text =>
      if JsText.isBlank text then some .failed else some (.answered (JsText.trim text) usage)
    | none => some .failed
  | .aborted => if attempt < 2 then none else some .failed
  | .broken => some .failed

def CallOutcome.settle (request : ProviderRequest) : CallOutcome → SettleOutcome
  | answered _ usage => { success := true, usage := usage, requestId := request.requestId }
  | failed => { success := false, requestId := request.requestId }

/-- A call that has a ticket and its outcome. -/
structure TicketedCall where
  request : ProviderRequest
  ticket : ChargeTicket
  outcome : CallOutcome

namespace TicketedCall

variable (call : TicketedCall)

def settleOutcome : SettleOutcome := call.outcome.settle call.request

/-- The customer charge that `settle` computes from the usage. -/
def computedCharge : Decimal := (call.ticket.cost call.settleOutcome.usage).2.1

end TicketedCall

/-- Where a call stands between two steps. -/
inductive ProviderThread where
  | check (request : ProviderRequest)
  | reserve (request : ProviderRequest) (pricing : AiModelPricing) (estimatedCharge : Decimal)
  | send (request : ProviderRequest) (ticket : Option ChargeTicket) (attempt : ℕ)
  | settle (call : TicketedCall)
  | log (call : TicketedCall) (transactionId : Option Id) (status : AiUsageBillingStatus)
  | refused (error : CallError)
  | withoutTicket (request : ProviderRequest) (outcome : CallOutcome)
  /-- What the settle came to; its error was logged and nothing else. -/
  | ended (call : TicketedCall) (settled : Except Thrown (Option Id))

structure ProviderState where
  db : Db
  usageLogs : List AiUsageLog

/-- What the outside answers a step: the time, the price row found for the model, the provider's
reply, and whether the database fails. -/
structure ProviderAnswer where
  now : Time
  resolved : Option AiModelPricing := none
  reply : ProviderReply := .broken
  databaseFails : Bool := false

def databaseFailure : Thrown := .database "connection lost"

/-- A call of a central model is prepared up to the reservation. With billing enforcement on
there is no other model; with it off a tenant's own model runs unmetered. -/
def checkRequest (config : ChargeConfig) (s : ProviderState) (request : ProviderRequest)
    (answer : ProviderAnswer) : ProviderThread :=
  if request.central then
    match checkCall config s.usageLogs answer.now answer.resolved request.input with
    | .ok (.admitted ticket) => .send request (some ticket) 1
    | .ok (.checked pricing estimatedCharge) => .reserve request pricing estimatedCharge
    -- `checkCall` leads to no other stage
    | .ok _ => .refused (.billing databaseFailure)
    | .error e => .refused (.billing e)
  else if enforcementEnabled config.enforcement then
    .refused (.unavailable ("AI is not available: no active centrally configured provider/model. "
      ++ "Ask the platform administrator to configure Administration → AI Management."))
  else .send request none 1

def sendRequest (request : ProviderRequest) (ticket : Option ChargeTicket) (attempt : ℕ)
    (reply : ProviderReply) : ProviderThread :=
  match handleReply attempt reply, ticket with
  | none, _ => .send request ticket (attempt + 1)
  | some outcome, some ticket => .settle ⟨request, ticket, outcome⟩
  | some outcome, none => .withoutTicket request outcome

namespace ProviderThread

def perform (config : ChargeConfig) (s : ProviderState) (thread : ProviderThread)
    (answer : ProviderAnswer) : ProviderState × ProviderThread :=
  match thread with
  | check request => (s, checkRequest config s request answer)
  | reserve request pricing estimatedCharge =>
    match reserveCall s.db answer.now request.input pricing estimatedCharge with
    | .ok (ticket, db) => ({ s with db := db }, .send request (some ticket) 1)
    | .error e => (s, .refused (.billing e))
  | send request ticket attempt => (s, sendRequest request ticket attempt answer.reply)
  | settle call =>
    match call.ticket.settleReservation s.db answer.now call.settleOutcome with
    | .ok (transactionId, status, db) => ({ s with db := db }, .log call transactionId status)
    | .error e => (s, .ended call (.error e))
  | log call transactionId status =>
    match call.ticket.usageRow answer.now call.settleOutcome transactionId status with
    | .ok row => ({ s with usageLogs := s.usageLogs ++ [row] }, .ended call (.ok transactionId))
    | .error _ => (s, .ended call (.ok transactionId))
  | refused e => (s, .refused e)
  | withoutTicket request outcome => (s, .withoutTicket request outcome)
  | ended call settled => (s, .ended call settled)

/-- Where a call goes when the database fails in its step. -/
def afterFailure : ProviderThread → ProviderThread
  | check _ => .refused (.billing databaseFailure)
  | reserve _ _ _ => .refused (.billing databaseFailure)
  | settle call => .ended call (.error databaseFailure)
  | log call transactionId _ => .ended call (.ok transactionId)
  | thread => thread

def advance (config : ChargeConfig) (s : ProviderState) (thread : ProviderThread)
    (answer : ProviderAnswer) : ProviderState × ProviderThread :=
  if answer.databaseFails then (s, thread.afterFailure) else thread.perform config s answer

/-- The ledger row that the call was charged with. -/
def charge? : ProviderThread → Option (TicketedCall × Id)
  | log call transactionId _ => transactionId.map fun id => (call, id)
  | ended call (.ok transactionId) => transactionId.map fun id => (call, id)
  | _ => none

def ticket? : ProviderThread → Option ChargeTicket
  | send _ ticket _ => ticket
  | settle call => some call.ticket
  | log call _ _ => some call.ticket
  | ended call _ => some call.ticket
  | _ => none

end ProviderThread

def WalletCall.postsUsage : WalletCall → Bool
  | postTransaction input => input.type == .usageCharge
  | finalizeReservation .. => true
  | _ => false

def otherTraffic (s : ProviderState) (call : WalletCall) : ProviderState :=
  if call.postsUsage then s else { s with db := WalletCall.next s.db call }

def providerProgram (config : ChargeConfig) :
    Program ProviderState ProviderThread ProviderRequest ProviderAnswer WalletCall where
  start _ _ request := some (.check request)
  advance := ProviderThread.advance config
  env := otherTraffic

abbrev ProviderConfig := Config ProviderState ProviderThread

abbrev ProviderAction := Action ProviderRequest ProviderAnswer WalletCall

end Forecast
