import Forecast.Lib.ThreadPool
import Forecast.Marg.StagingDispatch

/-!
# The lock of a Marg config and its actors

The two status columns of a config serve as a lock. Runs, resumes, their
heartbeat timers, the scheduler's sweep, stale-log recovery and unlocking take it,
refresh it and clear it; each is a thread that does one database read or update a
step. What a sync does between its writes to these tables is left to the schedule.
-/

open ThreadPool

namespace Forecast

inductive MargSyncStatus where
  | idle
  | running
  | completed
  | failed
deriving DecidableEq

inductive MargSyncMode where
  | fetch
  | reproject
deriving DecidableEq

inductive MargFailureType where
  | retryable
  | fatal
deriving DecidableEq

structure MargSyncConfig where
  isActive : Bool := true
  lastSyncStatus : MargSyncStatus := .idle
  lastAccountingSyncStatus : MargSyncStatus := .idle
  lastSyncIndex : ℤ := 0
  lastSyncDatetime : Option String := none
  updatedAt : Millis
deriving DecidableEq

structure MargSyncLog where
  status : MargSyncStatus := .running
  startedAt : Millis
  completedAt : Option Millis := none
  currentStage : Option String := some "QUEUED"
  failureType : Option MargFailureType := none
  lastHeartbeatAt : Option Millis
  fromDate : Option String := none
  endDate : Option String := none
  syncMode : Option MargSyncMode
deriving DecidableEq

/-- One config with its sync logs; a log's place in the list is its id. -/
structure SyncState where
  now : Millis
  config : MargSyncConfig
  logs : List MargSyncLog

structure SyncSettings where
  platform : Platform
  /-- The threshold of the scheduler's sweep. -/
  staleAfterMs : Millis
  /-- The threshold of resumes and of stale-log recovery. -/
  staleSyncAfterMs : Millis

structure SyncRequest where
  fromDate : Option String := none
  endDate : Option String := none
  scope : MargSyncScope := .full
  mode : MargSyncMode := .fetch
deriving DecidableEq

/-- A sync that has a log, and a heartbeat timer that uses these fields. -/
structure LiveSync where
  logId : Id
  /-- `shouldRunInventory`; a resume always writes both columns. -/
  inventory : Bool
  commitsCursor : Bool
  isResume : Bool
deriving DecidableEq

inductive SyncThread where
  | readConfig (request : SyncRequest)
  | takeLock (request : SyncRequest) (config : MargSyncConfig)
  | readCursor (request : SyncRequest)
  | createLog (request : SyncRequest)
  | readResumeConfig (logId : Id)
  | readResumeLog (logId : Id)
  | takeResumeLock (logId : Id) (log : MargSyncLog)
  | startResume (live : LiveSync) (log : MargSyncLog)
  | body (live : LiveSync)
  | completeConfig (live : LiveSync) (lastDatetime : String)
  | completeLog (live : LiveSync)
  | settleLog (live : LiveSync) (staged : Bool)
  | settleConfig (live : LiveSync) (staged : Bool)
  /-- In the `catch` block; `released` when the config was set COMPLETED before. -/
  | failConfig (live : LiveSync) (released : Bool) (failure : MargFailureType)
  | failLog (live : LiveSync) (failure : MargFailureType)
  | tickLog (caller : ℕ) (live : LiveSync)
  | tickConfig (caller : ℕ) (live : LiveSync)
  | sweepConfigs (staleCutoff : Millis)
  | sweepLogs (staleCutoff : Millis)
  | recoverRead (logId : Id)
  | recoverLog (logId : Id)
  | recoverConfig
  | unlockRead (force : Bool)
  | unlockLatest
  | unlockLogs
  | unlockConfig
  /-- The call has returned or thrown; it took the lock or it did not. -/
  | ended (tookLock : Bool)
  /-- The process died; the scope of the lock that the thread held. -/
  | crashed (held : Option Bool)
deriving DecidableEq

inductive SyncCall where
  | runSync (request : SyncRequest)
  | resumeSync (logId : Id)
  /-- The timer of a caller's thread fires. -/
  | heartbeat (caller : ℕ)
  | recoverStaleConfigsAndLogs
  | recoverStaleSyncLog (logId : Id)
  | forceUnlockConfig (force : Bool)

/-- How the next operation of a thread goes. -/
inductive SyncInput where
  | succeed
  | fail (failure : MargFailureType)
  | crash
  /-- The body of a sync calls `touchSyncHeartbeat`. -/
  | touch
  /-- The body of a sync calls `updateSyncStage`, whose write succeeds. -/
  | stage (name : String)
  /-- The body of a run is done; the datetime that it commits if it commits one. -/
  | finish (lastDatetime : String)
  /-- The body of a resume is done; whether all pages were staged. -/
  | settle (staged : Bool)

inductive SyncEvent where
  | pass (elapsed : ℕ)
  | updateConfig (isActive : Bool)

section Writes

variable (s : SyncState)

def SyncState.updateLog (logId : Id) (f : MargSyncLog → MargSyncLog) : SyncState :=
  { s with logs := s.logs.modify logId f }

/-- Sets the statuses that a sync of this scope writes. -/
def SyncState.writeStatus (inventory : Bool) (status : MargSyncStatus) : SyncState :=
  { s with
    config :=
      { s.config with
        lastSyncStatus := if inventory then status else s.config.lastSyncStatus
        lastAccountingSyncStatus := status
        updatedAt := s.now } }

/-- The conditional update that takes the lock. -/
def SyncState.isUnlocked : Bool :=
  s.config.lastSyncStatus != .running && s.config.lastAccountingSyncStatus != .running

def touchSyncHeartbeat (inventory : Bool) : SyncState := s.writeStatus inventory .running

def updateSyncStage (logId : Id) (stage : String) : SyncState :=
  s.updateLog logId fun log =>
    { log with currentStage := some stage, lastHeartbeatAt := some s.now }

def MargFailureType.stage : MargFailureType → String
  | retryable => "FAILED_RETRYABLE"
  | fatal => "FAILED_FATAL"

def createSyncLog (request : SyncRequest) : SyncState :=
  { s with
    logs := s.logs ++
      [{ startedAt := s.now
         lastHeartbeatAt := some s.now
         fromDate := request.fromDate
         endDate := request.endDate
         syncMode := some request.mode }] }

/-- The last update of a run's config; a committing run moves the cursor too. -/
def completeSyncConfig (live : LiveSync) (lastDatetime : String) : SyncState :=
  let done := s.writeStatus live.inventory .completed
  if live.commitsCursor ∧ live.inventory then
    { done with
      config := { done.config with lastSyncIndex := 0, lastSyncDatetime := some lastDatetime } }
  else done

def completeSyncLog (logId : Id) : SyncState :=
  s.updateLog logId fun log =>
    { log with
      status := .completed
      completedAt := some s.now
      currentStage := some "COMPLETED"
      lastHeartbeatAt := some s.now
      failureType := none }

/-- The failure of a resume leaves `completedAt` as it is. -/
def failSyncLog (live : LiveSync) (failure : MargFailureType) : SyncState :=
  s.updateLog live.logId fun log =>
    { log with
      status := .failed
      completedAt := if live.isResume then log.completedAt else some s.now
      currentStage := some failure.stage
      failureType := some failure
      lastHeartbeatAt := some s.now }

def startResumeLog (logId : Id) : SyncState :=
  s.updateLog logId fun log =>
    { log with
      status := .running
      currentStage := some "STAGING_STARTED"
      failureType := none
      lastHeartbeatAt := some s.now }

def settleResumeLog (logId : Id) (staged : Bool) : SyncState :=
  s.updateLog logId fun log =>
    { log with
      status := if staged then .completed else .failed
      currentStage := some (if staged then "STAGING_COMPLETED" else "FAILED_RETRYABLE")
      failureType := if staged then none else some .retryable
      completedAt := some s.now
      lastHeartbeatAt := some s.now }

/-- Marks a log as failed for a retry, as recovery and unlocking do. -/
def abandonLog (log : MargSyncLog) : MargSyncLog :=
  { log with
    status := .failed
    currentStage := some "FAILED_RETRYABLE"
    failureType := some .retryable
    completedAt := some s.now
    lastHeartbeatAt := some s.now }

def sweepStaleConfig (staleCutoff : Millis) : SyncState :=
  if s.config.lastSyncStatus = .running ∧ s.config.updatedAt < staleCutoff then
    s.writeStatus true .failed
  else s

def isStaleLog (staleCutoff : Millis) (log : MargSyncLog) : Bool :=
  log.status = .running ∧ log.completedAt = none ∧
    log.lastHeartbeatAt.getD log.startedAt < staleCutoff

def sweepStaleLogs (staleCutoff : Millis) : SyncState :=
  { s with
    logs := s.logs.map fun log =>
      if isStaleLog staleCutoff log then
        { log with status := .failed, completedAt := some s.now }
      else log }

end Writes

def latestRunning (logs : List MargSyncLog) : Option MargSyncLog :=
  (logs.filter fun log => log.status == .running).foldl
    (fun latest log =>
      if latest.all fun other => other.startedAt ≤ log.startedAt then some log else latest) none

section Checks

variable (settings : SyncSettings)

/-- The cursor of the last completed log is looked up for an unbounded run without a cursor. -/
def recoversCursor (request : SyncRequest) (config : MargSyncConfig) : Bool :=
  request.mode = .fetch ∧ request.scope = .full ∧ given request.fromDate = none ∧
    given request.endDate = none ∧ config.lastSyncIndex = 0 ∧ given config.lastSyncDatetime = none

def validWindow (fromDate endDate : Option String) : Bool :=
  (buildDateWindow settings.platform fromDate endDate).toBool

/-- After the lock was taken: an invalid window is thrown outside the `try` block. -/
def afterLock (request : SyncRequest) (config : MargSyncConfig) : SyncThread :=
  if !validWindow settings request.fromDate request.endDate then .ended true
  else if recoversCursor request config then .readCursor request
  else .createLog request

def isResumable (now : Millis) (log : MargSyncLog) : Bool :=
  (log.status = .failed ∧ log.failureType ≠ some .fatal ∨
      log.status = .running ∧
        log.lastHeartbeatAt.any fun beat => settings.staleSyncAfterMs < now - beat) ∧
    log.currentStage.isSome ∧
    ((given log.fromDate).isSome ∨ (given log.endDate).isSome ∨ log.syncMode.isSome)

def isRecoverable (now : Millis) (log : MargSyncLog) : Bool :=
  log.status = .running ∧
    settings.staleSyncAfterMs ≤ now - log.lastHeartbeatAt.getD log.startedAt

/-- An unlock without force is refused while the latest log has a heartbeat of the last minute. -/
def isActiveLog (now : Millis) (log : MargSyncLog) : Bool :=
  log.lastHeartbeatAt.any fun beat => now - beat < 60000

end Checks

namespace SyncThread

/-- The scope of the lock that the thread holds: from taking it until the config update with
which the call ends. -/
def lock : SyncThread → Option Bool
  | readCursor request => some (request.scope == .full)
  | createLog request => some (request.scope == .full)
  | startResume live _ => some live.inventory
  | body live => some live.inventory
  | completeConfig live _ => some live.inventory
  | settleLog live _ => some live.inventory
  | settleConfig live _ => some live.inventory
  | failConfig live released _ => if released then none else some live.inventory
  | _ => none

/-- The sync whose heartbeat timer is on. -/
def timer : SyncThread → Option LiveSync
  | startResume live _ => some live
  | body live => some live
  | completeConfig live _ => some live
  | completeLog live => some live
  | settleLog live _ => some live
  | settleConfig live _ => some live
  | failConfig live _ _ => some live
  | failLog live _ => some live
  | _ => none

end SyncThread

section Program

variable (settings : SyncSettings)

def SyncCall.start (s : SyncState) (threads : List SyncThread) : SyncCall → Option SyncThread
  | runSync request => some (.readConfig request)
  | resumeSync logId => some (.readResumeConfig logId)
  | heartbeat caller => (threads[caller]?.bind SyncThread.timer).map (.tickLog caller)
  | recoverStaleConfigsAndLogs => some (.sweepConfigs (s.now - settings.staleAfterMs))
  | recoverStaleSyncLog logId => some (.recoverRead logId)
  | forceUnlockConfig force => some (.unlockRead force)

/-- What the thread does when its next operation succeeds. -/
def SyncThread.succeed (s : SyncState) : SyncThread → SyncState × SyncThread
  | readConfig request =>
    (s, if s.config.isActive then .takeLock request s.config else .ended false)
  | takeLock request config =>
    if s.isUnlocked then
      (s.writeStatus (request.scope == .full) .running, afterLock settings request config)
    else (s, .ended false)
  | readCursor request => (s, .createLog request)
  | createLog request =>
    (createSyncLog s request, .body
      { logId := s.logs.length
        inventory := request.scope == .full
        commitsCursor := request.mode == .fetch && (given request.endDate).isNone
        isResume := false })
  | readResumeConfig logId =>
    (s, if s.config.isActive then .readResumeLog logId else .ended false)
  | readResumeLog logId =>
    (s, match s.logs[logId]? with
      | some log => if isResumable settings s.now log then .takeResumeLock logId log
          else .ended false
      | none => .ended false)
  | takeResumeLock logId log =>
    if s.isUnlocked then
      (s.writeStatus true .running, .startResume
        { logId := logId
          inventory := true
          commitsCursor := false
          isResume := true } log)
    else (s, .ended false)
  | startResume live log =>
    (startResumeLog s live.logId,
      if validWindow settings log.fromDate log.endDate then .body live
      else .failConfig live false .retryable)
  | body live => (s, .body live)
  | completeConfig live lastDatetime => (completeSyncConfig s live lastDatetime, .completeLog live)
  | completeLog live => (completeSyncLog s live.logId, .ended true)
  | settleLog live staged => (settleResumeLog s live.logId staged, .settleConfig live staged)
  | settleConfig live staged =>
    (s.writeStatus live.inventory (if staged then .completed else .failed), .ended true)
  | failConfig live _ failure => (s.writeStatus live.inventory .failed, .failLog live failure)
  | failLog live failure => (failSyncLog s live failure, .ended true)
  | tickLog caller live =>
    (s.updateLog live.logId fun log => { log with lastHeartbeatAt := some s.now },
      .tickConfig caller live)
  | tickConfig _ live => (s.writeStatus live.inventory .running, .ended false)
  | sweepConfigs staleCutoff => (sweepStaleConfig s staleCutoff, .sweepLogs staleCutoff)
  | sweepLogs staleCutoff => (sweepStaleLogs s staleCutoff, .ended false)
  | recoverRead logId =>
    (s, if s.logs[logId]?.any (isRecoverable settings s.now) then .recoverLog logId
      else .ended false)
  | recoverLog logId => (s.updateLog logId (abandonLog s), .recoverConfig)
  | recoverConfig => (s.writeStatus true .failed, .ended false)
  | unlockRead force =>
    (s, if s.isUnlocked then .ended false else if force then .unlockLogs else .unlockLatest)
  | unlockLatest =>
    (s, if (latestRunning s.logs).any (isActiveLog s.now) then .ended false else .unlockLogs)
  | unlockLogs =>
    ({ s with logs := s.logs.map fun log => if log.status = .running then abandonLog s log else log },
      .unlockConfig)
  | unlockConfig => (s.writeStatus true .failed, .ended false)
  | ended tookLock => (s, .ended tookLock)
  | crashed held => (s, .crashed held)

/-- What the thread does when its next operation throws. -/
def SyncThread.fail (s : SyncState) (failure : MargFailureType) :
    SyncThread → SyncState × SyncThread
  | readCursor _ => (s, .ended true)
  | createLog _ => (s, .ended true)
  | startResume live _ => (updateSyncStage s live.logId failure.stage, .failConfig live false failure)
  | body live => (updateSyncStage s live.logId failure.stage, .failConfig live false failure)
  | completeConfig live _ =>
    (updateSyncStage s live.logId failure.stage, .failConfig live false failure)
  | completeLog live => (updateSyncStage s live.logId failure.stage, .failConfig live true failure)
  | settleLog live _ => (updateSyncStage s live.logId failure.stage, .failConfig live false failure)
  | settleConfig live _ =>
    (updateSyncStage s live.logId failure.stage, .failConfig live false failure)
  | failConfig live _ failure => (s, if live.isResume then .failLog live failure else .ended true)
  | failLog _ _ => (s, .ended true)
  -- a failed read of the latest log counts as finding none
  | unlockLatest => (s, .unlockLogs)
  | ended tookLock => (s, .ended tookLock)
  | crashed held => (s, .crashed held)
  | _ => (s, .ended false)

def SyncThread.crash : SyncThread → SyncThread
  | ended tookLock => .ended tookLock
  | crashed held => .crashed held
  | thread => .crashed thread.lock

/-- The next database operation of a thread; an input that is not about the thread's next
operation does nothing. -/
def SyncThread.advance (s : SyncState) (thread : SyncThread) (input : SyncInput) :
    SyncState × SyncThread :=
  match input, thread with
  | .succeed, thread => thread.succeed settings s
  | .fail failure, thread => thread.fail s failure
  | .crash, thread => (s, thread.crash)
  | .touch, .body live => (touchSyncHeartbeat s live.inventory, .body live)
  | .stage name, .body live => (updateSyncStage s live.logId name, .body live)
  | .finish lastDatetime, .body live =>
    (s, if live.isResume then .body live else .completeConfig live lastDatetime)
  | .settle staged, .body live =>
    (s, if live.isResume then .settleLog live staged else .body live)
  | _, thread => (s, thread)

def SyncEvent.apply (s : SyncState) : SyncEvent → SyncState
  | pass elapsed => { s with now := s.now + elapsed }
  | updateConfig isActive =>
    { s with config := { s.config with isActive := isActive, updatedAt := s.now } }

def syncProgram : Program SyncState SyncThread SyncCall SyncInput SyncEvent where
  start := SyncCall.start settings
  advance := SyncThread.advance settings
  env := SyncEvent.apply

abbrev SyncPool := Config SyncState SyncThread

abbrev SyncAction := Action SyncCall SyncInput SyncEvent

end Program

end Forecast
