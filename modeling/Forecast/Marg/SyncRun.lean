import Forecast.Marg.SyncLock

/-!
# What a sync fetches, stages, marks and commits

Runs and resumes over the configs of one tenant: the cursors, the saved pages, the
staging tables and the cursors that runs commit. A page is fetched and staged in
one step, which may fail part of the way. The lock is left out; any syncs may overlap.
-/

open JsText KeyedTable ThreadPool

namespace Forecast

/-- The page token and the datetime that a request sends; the empty datetime is none. -/
structure SyncCursor where
  index : ℤ := 0
  datetime : String := ""
deriving DecidableEq

/-- The columns of a config that decide what a run fetches. -/
structure CursorConfig where
  companyCode : String
  /-- Zero asks for every company of the code. -/
  companyId : ℤ := 0
  inventory : SyncCursor := {}
  accounting : SyncCursor := {}
deriving DecidableEq

structure CursorLog where
  configId : Id
  request : SyncRequest
  status : MargSyncStatus := .running
  startedAt : Millis
  completedAt : Option Millis := none
  cursor : SyncCursor
deriving DecidableEq

structure RawPage where
  syncLogId : Id
  apiType : ApiType
  payload : MargParsedPayload
  staged : Bool
deriving DecidableEq

structure StagingState where
  now : Millis
  configs : List CursorConfig
  logs : List CursorLog := []
  rawPages : List RawPage := []
  staged : List StagedRow := []
  /-- Every row that was ever written to the staging tables. -/
  written : List StagedRow := []

structure RunSettings where
  platform : Platform
  maxPagesPerSync : ℕ
  toISOString : Millis → String

/-- A page that the run has staged: what it asked for, what it got and the rows it wrote. -/
structure FetchedPage where
  cursor : SyncCursor
  payload : MargParsedPayload
  rows : List StagedRow
deriving DecidableEq

/-- The local variables of a run. -/
structure SyncRun where
  configId : Id
  /-- The config as the run read it. -/
  config : CursorConfig
  request : SyncRequest
  recovered : Option SyncCursor
  syncLogId : Id
  inventory : SyncCursor
  accounting : SyncCursor
  syncedBranchCompanyIds : List ℤ := []
  receivedStockSnapshot : Bool := false
  inventoryPages : List FetchedPage := []
  accountingPages : List FetchedPage := []
deriving DecidableEq

inductive RunThread where
  | readConfig (configId : Id) (request : SyncRequest)
  | readCursor (configId : Id) (config : CursorConfig) (request : SyncRequest)
  | createLog (configId : Id) (config : CursorConfig) (request : SyncRequest)
      (recovered : Option SyncCursor)
  | branches (run : SyncRun)
  | inventory (run : SyncRun)
  | accounting (run : SyncRun)
  | closeOutstandings (run : SyncRun)
  | markStock (run : SyncRun)
  | project (run : SyncRun)
  | commit (run : SyncRun)
  | finishLog (run : SyncRun)
  | failLog (run : SyncRun)
  | resume (syncLogId : Id) (request : SyncRequest)
  | ended
deriving DecidableEq

inductive RunCall where
  | runSync (configId : Id) (request : SyncRequest)
  | resumeSync (syncLogId : Id)

/-- How the staging of a page goes. -/
inductive PageOutcome where
  | staged
  /-- A write fails after this many rows. -/
  | failsAfter (rows : ℕ)
  /-- The page is staged, but the heartbeat after it fails. -/
  | heartbeatFails
deriving DecidableEq

inductive RunInput where
  | succeed
  | fail
  /-- The answer of the branches endpoint, and whether its rows are staged. -/
  | receiveBranches (rows : List MargRow) (staged : Bool)
  | receivePage (payload : MargParsedPayload) (outcome : PageOutcome)
  /-- A resume stages a saved page, all of it or only some rows. -/
  | replayPage (page : ℕ) (outcome : PageOutcome)
  | settle (completed : Bool)
deriving DecidableEq

section Cursors

namespace SyncCursor

variable (cursor : SyncCursor) (payload : MargParsedPayload)

def indexAdvanced : Bool :=
  payload.index.den = 1 ∧ 0 ≤ payload.index ∧ cursor.index < payload.index.num

def datetimeAdvanced : Bool :=
  trim payload.dateTime ≠ "" ∧ trim payload.dateTime ≠ cursor.datetime

/-- The cursor of the next request after a page. -/
def advance : SyncCursor :=
  { index := if cursor.indexAdvanced payload then payload.index.num else cursor.index
    datetime := if trim payload.dateTime = "" then cursor.datetime else trim payload.dateTime }

end SyncCursor

def completeDataStatus : ℚ := 10

/-- A page ends the fetch when it is marked complete or moves the cursor nowhere. -/
def isTerminalPage (cursor : SyncCursor) (payload : MargParsedPayload) : Bool :=
  payload.dataStatus = completeDataStatus ∨
    cursor.indexAdvanced payload = false ∧ cursor.datetimeAdvanced payload = false

namespace SyncRequest

variable (request : SyncRequest)

def fetches : Bool := request.mode == .fetch

def runsInventory : Bool := request.scope == .full

def isUnbounded : Bool := (given request.endDate).isNone

def window (platform : Platform) : Option DateWindow :=
  match buildDateWindow platform request.fromDate request.endDate with
  | .ok window => window
  | .error _ => none

def hasValidWindow (platform : Platform) : Bool :=
  (buildDateWindow platform request.fromDate request.endDate).toBool

/-- The run looks up the cursor of the last completed log. -/
def recoversFrom (config : CursorConfig) : Bool :=
  request.fetches && request.runsInventory && (given request.fromDate).isNone &&
    request.isUnbounded && config.inventory.index == 0 && config.inventory.datetime == ""

def startInventory (config : CursorConfig) (recovered : Option SyncCursor) : SyncCursor :=
  match if request.fetches then given request.fromDate else none with
  | some date => { datetime := date }
  | none =>
    { index := if config.inventory.index = 0 then (recovered.map SyncCursor.index).getD 0
        else config.inventory.index
      datetime := if config.inventory.datetime = "" then
          (recovered.map SyncCursor.datetime).getD ""
        else config.inventory.datetime }

def startAccounting (config : CursorConfig) : SyncCursor :=
  match if request.fetches then given request.fromDate else none with
  | some date => { datetime := date }
  | none => config.accounting

end SyncRequest

def laterLog (latest : Option CursorLog) (log : CursorLog) : Option CursorLog :=
  match latest with
  | none => some log
  | some other =>
    if other.completedAt.getD 0 < log.completedAt.getD 0 ∨
        other.completedAt = log.completedAt ∧ other.startedAt ≤ log.startedAt then some log
    else some other

def getLatestCompletedSyncLogCursor (logs : List CursorLog) (configId : Id) : Option SyncCursor :=
  let completed := logs.filter fun log => log.configId == configId && log.status == .completed &&
    (0 < log.cursor.index || log.cursor.datetime != "")
  (completed.foldl laterLog none).bind fun latest =>
    let syncDatetime := trim latest.cursor.datetime
    if latest.cursor.index = 0 ∧ syncDatetime = "" then none
    else some { index := latest.cursor.index, datetime := syncDatetime }

end Cursors

namespace SyncRun

variable (run : SyncRun)

/-- `getActiveCursor` -/
def activeCursor : SyncCursor :=
  if run.request.runsInventory then run.inventory else run.accounting

def startedFromCleanCursor : Bool :=
  (given run.request.fromDate).isNone && run.config.inventory.index == 0 &&
    run.config.inventory.datetime == ""

def stockSnapshotIsAuthoritative (platform : Platform) : Bool :=
  run.request.fetches && run.request.runsInventory && run.request.isUnbounded &&
    run.receivedStockSnapshot && run.startedFromCleanCursor &&
    (run.request.window platform).isNone

def startedFromCleanAccountingCursor : Bool :=
  (given run.request.fromDate).isNone && run.config.accounting.index == 0 &&
    run.config.accounting.datetime == ""

def outstandingSnapshotIsAuthoritative (platform : Platform) : Bool :=
  run.request.fetches && run.startedFromCleanAccountingCursor &&
    (run.request.window platform).isNone

def shouldCommitCursor : Bool := run.request.fetches && run.request.isUnbounded

def stageRows (platform : Platform) (apiType : ApiType) (payload : MargParsedPayload) :
    List StagedRow :=
  let log : SyncLogParameters :=
    { syncLogId := run.syncLogId
      syncScope := run.request.scope
      fromDate := run.request.fromDate
      endDate := run.request.endDate }
  log.stagedByRun platform run.syncedBranchCompanyIds apiType payload

def afterInventoryPage (platform : Platform) (payload : MargParsedPayload) : SyncRun :=
  { run with
    inventory := run.inventory.advance payload
    syncedBranchCompanyIds :=
      (takeUnseenMargBranchRows payload.masters run.syncedBranchCompanyIds).2
    receivedStockSnapshot :=
      run.receivedStockSnapshot || (run.request.isUnbounded && payload.stock != [])
    inventoryPages := run.inventoryPages ++
      [⟨run.inventory, payload, run.stageRows platform .inventory payload⟩] }

def afterAccountingPage (platform : Platform) (payload : MargParsedPayload) : SyncRun :=
  { run with
    accounting := run.accounting.advance payload
    accountingPages := run.accountingPages ++
      [⟨run.accounting, payload, run.stageRows platform .accounting payload⟩] }

end SyncRun

namespace StagingState

variable (s : StagingState)

def stage (rows : List StagedRow) : StagingState :=
  { s with
    staged := upsertAll StagedRow.rowKey s.staged rows
    written := s.written ++ rows }

def savePage (page : RawPage) : StagingState := { s with rawPages := s.rawPages ++ [page] }

def markUnseen (table : MargTable) (syncLogId : Id) : StagingState :=
  { s with
    staged := s.staged.map fun row =>
      if row.table = table ∧ row.sourceDeleted = false ∧ row.lastSeenSyncLogId ≠ some syncLogId then
        { row with sourceDeleted := true }
      else row }

def closeUnseenMargOutstandings (syncLogId : Id) : StagingState :=
  s.markUnseen .outstandings syncLogId

def markMissingStockAsDeleted (syncLogId : Id) : StagingState := s.markUnseen .stocks syncLogId

def updateLog (syncLogId : Id) (f : CursorLog → CursorLog) : StagingState :=
  { s with logs := s.logs.modify syncLogId f }

/-- The committed cursors restart at the index 0. -/
def commitCursors (settings : RunSettings) (run : SyncRun) : StagingState :=
  let committed := fun cursor : SyncCursor =>
    { datetime := if cursor.datetime = "" then settings.toISOString s.now else cursor.datetime :
      SyncCursor }
  { s with
    configs := s.configs.modify run.configId fun config =>
      { config with
        inventory := if run.request.runsInventory then committed run.inventory
          else config.inventory
        accounting := committed run.accounting } }

end StagingState

section Program

variable (settings : RunSettings)

def PageOutcome.written (outcome : PageOutcome) (rows : List StagedRow) : List StagedRow :=
  match outcome with
  | failsAfter n => rows.take n
  | _ => rows

/-- The rows that the next step of a thread writes to staging. -/
def RunThread.stages (s : StagingState) (thread : RunThread) (input : RunInput) :
    List StagedRow :=
  match thread, input with
  | branches run, .receiveBranches rows true =>
    syncBranches (takeUnseenMargBranchRows rows run.syncedBranchCompanyIds).1
  | inventory run, .receivePage payload outcome =>
    outcome.written (run.stageRows settings.platform .inventory payload)
  | accounting run, .receivePage payload outcome =>
    outcome.written (run.stageRows settings.platform .accounting payload)
  | resume syncLogId request, .replayPage page outcome =>
    match s.rawPages[page]? with
    | some saved =>
      if saved.syncLogId = syncLogId ∧ saved.staged = false then
        outcome.written (replayStagingForPage settings.platform
          (request.window settings.platform) syncLogId saved.apiType saved.payload)
      else []
    | none => []
  | _, _ => []

/-- Where a run goes once its log is created. -/
def SyncRun.begin (run : SyncRun) : RunThread :=
  if run.request.fetches then
    if run.request.runsInventory then .branches run else .accounting run
  else .closeOutstandings run

/-- Where a page leads: to the end of the fetch, to the next page, or over the page limit. -/
def afterPage (outcome : PageOutcome) (terminal : Bool) (pages : ℕ) (run : SyncRun)
    (next again : RunThread) : RunThread :=
  if outcome ≠ .staged then .failLog run
  else if terminal then next
  else if pages < settings.maxPagesPerSync then again
  else .failLog run

/-- The page of a failed staging leaves the run's variables as they were. -/
def receiveInventoryPage (run : SyncRun) (payload : MargParsedPayload) (outcome : PageOutcome) :
    RunThread :=
  match outcome with
  | .failsAfter _ => .failLog run
  | _ =>
    let run' := run.afterInventoryPage settings.platform payload
    afterPage settings outcome (isTerminalPage run.inventory payload)
      run'.inventoryPages.length run' (.accounting run') (.inventory run')

def receiveAccountingPage (run : SyncRun) (payload : MargParsedPayload) (outcome : PageOutcome) :
    RunThread :=
  match outcome with
  | .failsAfter _ => .failLog run
  | _ =>
    let run' := run.afterAccountingPage settings.platform payload
    afterPage settings outcome (isTerminalPage run.accounting payload)
      run'.accountingPages.length run' (.closeOutstandings run') (.accounting run')

def PageOutcome.isStaged (outcome : PageOutcome) : Bool :=
  match outcome with
  | failsAfter _ => false
  | _ => true

/-- What a step does besides staging rows. -/
def RunThread.proceed (s : StagingState) (thread : RunThread) (input : RunInput) :
    StagingState × RunThread :=
  match thread, input with
  | readConfig configId request, .succeed =>
    (s, match s.configs[configId]? with
      | none => .ended
      | some config =>
        if !request.hasValidWindow settings.platform then .ended
        else if request.recoversFrom config then .readCursor configId config request
        else .createLog configId config request none)
  | readCursor configId config request, .succeed =>
    (s, .createLog configId config request (getLatestCompletedSyncLogCursor s.logs configId))
  | createLog configId config request recovered, .succeed =>
    let run : SyncRun :=
      { configId := configId
        config := config
        request := request
        recovered := recovered
        syncLogId := s.logs.length
        inventory := request.startInventory config recovered
        accounting := request.startAccounting config }
    ({ s with
      logs := s.logs ++
        [{ configId := configId
           request := request
           startedAt := s.now
           cursor := run.activeCursor }] }, run.begin)
  -- a failure of the branches is not fatal
  | branches run, .receiveBranches rows _ =>
    (s, .inventory { run with
      syncedBranchCompanyIds := (takeUnseenMargBranchRows rows run.syncedBranchCompanyIds).2 })
  | branches run, .fail => (s, .inventory run)
  | inventory run, .receivePage payload outcome =>
    (s.savePage ⟨run.syncLogId, .inventory, payload, outcome.isStaged⟩,
      receiveInventoryPage settings run payload outcome)
  | inventory run, .fail => (s, .failLog run)
  | accounting run, .receivePage payload outcome =>
    (s.savePage ⟨run.syncLogId, .accounting, payload, outcome.isStaged⟩,
      receiveAccountingPage settings run payload outcome)
  | accounting run, .fail => (s, .failLog run)
  | closeOutstandings run, .succeed =>
    (if run.outstandingSnapshotIsAuthoritative settings.platform then
      s.closeUnseenMargOutstandings run.syncLogId else s, .markStock run)
  | closeOutstandings run, .fail => (s, .failLog run)
  | markStock run, .succeed =>
    (if run.stockSnapshotIsAuthoritative settings.platform then
      s.markMissingStockAsDeleted run.syncLogId else s, .project run)
  | markStock run, .fail => (s, .failLog run)
  | project run, .succeed => (s, .commit run)
  | project run, .fail => (s, .failLog run)
  | commit run, .succeed =>
    (if run.shouldCommitCursor then s.commitCursors settings run else s, .finishLog run)
  | commit run, .fail => (s, .failLog run)
  | finishLog run, .succeed =>
    (s.updateLog run.syncLogId fun log =>
      { log with status := .completed, completedAt := some s.now, cursor := run.activeCursor },
      .ended)
  | finishLog run, .fail => (s, .failLog run)
  | failLog run, .succeed =>
    (s.updateLog run.syncLogId fun log =>
      { log with status := .failed, completedAt := some s.now, cursor := run.activeCursor },
      .ended)
  | failLog _, .fail => (s, .ended)
  | resume syncLogId request, .replayPage page outcome =>
    ({ s with
      rawPages := s.rawPages.modify page fun saved =>
        { saved with
          staged := saved.staged || (saved.syncLogId == syncLogId && outcome.isStaged) } },
      .resume syncLogId request)
  | resume syncLogId _, .settle completed =>
    (s.updateLog syncLogId fun log =>
      { log with
        status := if completed then .completed else .failed
        completedAt := some s.now }, .ended)
  | readConfig _ _, .fail => (s, .ended)
  | readCursor _ _ _, .fail => (s, .ended)
  | createLog _ _ _ _, .fail => (s, .ended)
  | resume _ _, .fail => (s, .ended)
  | thread, _ => (s, thread)

/-- The next operation of a thread: the rows it stages are written first. -/
def RunThread.advance (s : StagingState) (thread : RunThread) (input : RunInput) :
    StagingState × RunThread :=
  thread.proceed settings (s.stage (thread.stages settings s input)) input

def RunCall.start (s : StagingState) : RunCall → Option RunThread
  | runSync configId request => some (.readConfig configId request)
  | resumeSync syncLogId =>
    match s.logs[syncLogId]? with
    | some log => if log.status = .completed then none else some (.resume syncLogId log.request)
    | none => none

/-- Time passes. -/
def StagingState.pass (s : StagingState) (elapsed : ℕ) : StagingState :=
  { s with now := s.now + elapsed }

def runProgram : Program StagingState RunThread RunCall RunInput ℕ where
  start s _ call := call.start s
  advance := RunThread.advance settings
  env := StagingState.pass

abbrev RunPool := Config StagingState RunThread

abbrev RunAction := Action RunCall RunInput ℕ

end Program

end Forecast
