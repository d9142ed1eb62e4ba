import Forecast.Marg.SyncLock

/-!
# What a step does to the lock

Each step of each actor keeps the two status columns, refreshes, takes, releases
or clears the lock, or lets the call end with the lock still taken.
-/

namespace Forecast

def SyncThread.holding : SyncThread → Option Bool
  | crashed held => held
  | thread => thread.lock

/-- The next update of the thread clears the lock without holding it. -/
def SyncThread.clears : SyncThread → Bool
  | failConfig _ released _ => released
  | recoverConfig => true
  | unlockConfig => true
  | _ => false

/-- The thread is about to do what must not fail while the lock is held outside the `try` block,
or to write the status with which its call ends. -/
def SyncThread.mustSucceed : SyncThread → Bool
  | readCursor _ => true
  | createLog _ => true
  | failConfig _ released _ => !released
  | _ => false

def SameStatus (s s' : SyncState) : Prop :=
  s'.config.lastSyncStatus = s.config.lastSyncStatus ∧
    s'.config.lastAccountingSyncStatus = s.config.lastAccountingSyncStatus

/-- The statuses of this scope were set and the others were left alone. -/
def WroteStatus (s s' : SyncState) (inventory : Bool) (status : MargSyncStatus) : Prop :=
  s'.config.lastSyncStatus = (if inventory then status else s.config.lastSyncStatus) ∧
    s'.config.lastAccountingSyncStatus = status

/-- What a step of a thread does to the lock. -/
inductive LockEffect (settings : SyncSettings) (s s' : SyncState) (t t' : SyncThread)
    (input : SyncInput) : Prop where
  /-- A thread that crashes keeps what it held. -/
  | kept (hstatus : SameStatus s s') (hholding : t'.holding = t.holding)
      (hlock : t'.lock = none ∨ t'.lock = t.lock)
  | touched (inventory : Bool) (hlock : t.lock = some inventory) (hthread : t' = t)
      (hwrote : WroteStatus s s' inventory .running)
  | ticked (caller : ℕ) (live : LiveSync) (hinput : input = .succeed)
      (hthread : t = .tickConfig caller live) (hlock : t'.holding = none)
      (hwrote : WroteStatus s s' live.inventory .running)
  | taken (inventory : Bool) (hfree : s.isUnlocked = true) (hlock : t.holding = none)
      (hwrote : WroteStatus s s' inventory .running) (hheld : t'.lock = some inventory)
  /-- The window is invalid. -/
  | thrown (inventory : Bool) (request : SyncRequest) (config : MargSyncConfig)
      (hfree : s.isUnlocked = true) (hinput : input = .succeed)
      (hthread : t = .takeLock request config)
      (hwindow : validWindow settings request.fromDate request.endDate = false)
      (hwrote : WroteStatus s s' inventory .running) (hlock : t'.holding = none)
  | released (inventory : Bool) (status : MargSyncStatus) (hlock : t.lock = some inventory)
      (hholding : t'.holding = none) (hstatus : status ≠ .running)
      (hwrote : WroteStatus s s' inventory status)
  | cleared (inventory : Bool) (hinput : input = .succeed) (hclears : t.clears = true)
      (hlock : t.holding = none) (hholding : t'.holding = none)
      (hwrote : WroteStatus s s' inventory .failed)
  | swept (staleCutoff : Millis) (hthread : t = .sweepConfigs staleCutoff)
      (hstale : s.config.updatedAt < staleCutoff) (hholding : t'.holding = none)
      (hwrote : WroteStatus s s' true .failed)
  | abandoned (inventory : Bool) (failure : MargFailureType) (hinput : input = .fail failure)
      (hmust : t.mustSucceed = true) (hlock : t.lock = some inventory)
      (hstatus : SameStatus s s') (hholding : t'.holding = none)

theorem SyncState.wroteStatus (s : SyncState) (inventory : Bool) (status : MargSyncStatus) :
    WroteStatus s (s.writeStatus inventory status) inventory status := ⟨rfl, rfl⟩

theorem sameStatus_refl (s : SyncState) : SameStatus s s := ⟨rfl, rfl⟩

theorem wroteStatus_completeSyncConfig (s : SyncState) (live : LiveSync) (lastDatetime : String) :
    WroteStatus s (completeSyncConfig s live lastDatetime) live.inventory .completed := by
  unfold completeSyncConfig
  split_ifs <;> exact ⟨rfl, rfl⟩

theorem holding_none_of_afterLock {settings : SyncSettings} {request : SyncRequest}
    {config : MargSyncConfig}
    (h : validWindow settings request.fromDate request.endDate = false) :
    (afterLock settings request config).holding = none := by
  rw [afterLock, h]
  rfl

theorem lock_afterLock {settings : SyncSettings} {request : SyncRequest} {config : MargSyncConfig}
    (h : validWindow settings request.fromDate request.endDate = true) :
    (afterLock settings request config).lock = some (request.scope == .full) := by
  rw [afterLock, h]
  cases recoversCursor request config <;> rfl

section Effects

variable {settings : SyncSettings} (s : SyncState) (t : SyncThread)

theorem lockEffect_succeed :
    LockEffect settings s (t.succeed settings s).1 t (t.succeed settings s).2 .succeed := by
  have hkept : ∀ {s' : SyncState} {t' : SyncThread}, SameStatus s s' → t.holding = none →
      t'.holding = none → t'.lock = none → LockEffect settings s s' t t' .succeed :=
    fun hstatus ht ht' hlock => .kept hstatus (ht'.trans ht.symm) (Or.inl hlock)
  cases t with
  | readConfig request =>
    simp only [SyncThread.succeed]
    split <;> exact hkept (sameStatus_refl s) rfl rfl rfl
  | takeLock request config =>
    by_cases hfree : s.isUnlocked = true
    · simp only [SyncThread.succeed, hfree, if_true]
      cases hwindow : validWindow settings request.fromDate request.endDate with
      | true =>
        exact .taken _ hfree rfl (s.wroteStatus _ _) (lock_afterLock hwindow)
      | false =>
        exact .thrown _ request config hfree rfl rfl hwindow (s.wroteStatus _ _)
          (holding_none_of_afterLock hwindow)
    · simp only [SyncThread.succeed, hfree]
      exact hkept (sameStatus_refl s) rfl rfl rfl
  | readCursor request => exact .kept (sameStatus_refl s) rfl (Or.inr rfl)
  | createLog request => exact .kept ⟨rfl, rfl⟩ rfl (Or.inr rfl)
  | readResumeConfig logId =>
    simp only [SyncThread.succeed]
    split <;> exact hkept (sameStatus_refl s) rfl rfl rfl
  | readResumeLog logId =>
    simp only [SyncThread.succeed]
    split
    · split <;> exact hkept (sameStatus_refl s) rfl rfl rfl
    · exact hkept (sameStatus_refl s) rfl rfl rfl
  | takeResumeLock logId log =>
    by_cases hfree : s.isUnlocked = true
    · simp only [SyncThread.succeed, hfree, if_true]
      exact .taken true hfree rfl (s.wroteStatus _ _) rfl
    · simp only [SyncThread.succeed, hfree]
      exact hkept (sameStatus_refl s) rfl rfl rfl
  | startResume live log =>
    simp only [SyncThread.succeed]
    split
    · exact .kept ⟨rfl, rfl⟩ rfl (Or.inr rfl)
    · exact .kept ⟨rfl, rfl⟩ rfl (Or.inr rfl)
  | body live => exact .kept (sameStatus_refl s) rfl (Or.inr rfl)
  | completeConfig live lastDatetime =>
    exact .released live.inventory .completed rfl rfl (by decide)
      (wroteStatus_completeSyncConfig s live lastDatetime)
  | completeLog live => exact hkept ⟨rfl, rfl⟩ rfl rfl rfl
  | settleLog live staged => exact .kept ⟨rfl, rfl⟩ rfl (Or.inr rfl)
  | settleConfig live staged =>
    refine .released live.inventory _ rfl rfl ?_ (s.wroteStatus _ _)
    cases staged <;> decide
  | failConfig live released failure =>
    cases released with
    | true => exact .cleared live.inventory rfl rfl rfl rfl (s.wroteStatus _ _)
    | false => exact .released live.inventory .failed rfl rfl (by decide) (s.wroteStatus _ _)
  | failLog live failure => exact hkept ⟨rfl, rfl⟩ rfl rfl rfl
  | tickLog caller live => exact hkept ⟨rfl, rfl⟩ rfl rfl rfl
  | tickConfig caller live => exact .ticked caller live rfl rfl rfl (s.wroteStatus _ _)
  | sweepConfigs staleCutoff =>
    simp only [SyncThread.succeed, sweepStaleConfig]
    split_ifs with hstale
    · exact .swept staleCutoff rfl hstale.2 rfl (s.wroteStatus _ _)
    · exact hkept (sameStatus_refl s) rfl rfl rfl
  | sweepLogs staleCutoff => exact hkept ⟨rfl, rfl⟩ rfl rfl rfl
  | recoverRead logId =>
    simp only [SyncThread.succeed]
    split <;> exact hkept (sameStatus_refl s) rfl rfl rfl
  | recoverLog logId => exact hkept ⟨rfl, rfl⟩ rfl rfl rfl
  | recoverConfig => exact .cleared true rfl rfl rfl rfl (s.wroteStatus _ _)
  | unlockRead force =>
    simp only [SyncThread.succeed]
    split
    · exact hkept (sameStatus_refl s) rfl rfl rfl
    · split <;> exact hkept (sameStatus_refl s) rfl rfl rfl
  | unlockLatest =>
    simp only [SyncThread.succeed]
    split <;> exact hkept (sameStatus_refl s) rfl rfl rfl
  | unlockLogs => exact hkept ⟨rfl, rfl⟩ rfl rfl rfl
  | unlockConfig => exact .cleared true rfl rfl rfl rfl (s.wroteStatus _ _)
  | ended tookLock => exact hkept (sameStatus_refl s) rfl rfl rfl
  | crashed held => exact .kept (sameStatus_refl s) rfl (Or.inr rfl)

theorem lockEffect_fail (failure : MargFailureType) :
    LockEffect settings s (t.fail s failure).1 t (t.fail s failure).2 (.fail failure) := by
  have hkept : ∀ {t' : SyncThread}, t.holding = none → t'.holding = none → t'.lock = none →
      LockEffect settings s s t t' (.fail failure) :=
    fun ht ht' hlock => .kept (sameStatus_refl s) (ht'.trans ht.symm) (Or.inl hlock)
  cases t with
  | readCursor request => exact .abandoned _ failure rfl rfl rfl (sameStatus_refl s) rfl
  | createLog request => exact .abandoned _ failure rfl rfl rfl (sameStatus_refl s) rfl
  | startResume live log => exact .kept ⟨rfl, rfl⟩ rfl (Or.inr rfl)
  | body live => exact .kept ⟨rfl, rfl⟩ rfl (Or.inr rfl)
  | completeConfig live lastDatetime => exact .kept ⟨rfl, rfl⟩ rfl (Or.inr rfl)
  | completeLog live => exact .kept ⟨rfl, rfl⟩ rfl (Or.inr rfl)
  | settleLog live staged => exact .kept ⟨rfl, rfl⟩ rfl (Or.inr rfl)
  | settleConfig live staged => exact .kept ⟨rfl, rfl⟩ rfl (Or.inr rfl)
  | failConfig live released recorded =>
    simp only [SyncThread.fail]
    cases released with
    | true => split <;> exact hkept rfl rfl rfl
    | false =>
      split <;> exact .abandoned live.inventory failure rfl rfl rfl (sameStatus_refl s) rfl
  | crashed held => exact .kept (sameStatus_refl s) rfl (Or.inr rfl)
  | _ => exact hkept rfl rfl rfl

theorem holding_crash : t.crash.holding = t.holding := by
  cases t <;> rfl

theorem lock_crash : t.crash.lock = none := by
  cases t <;> rfl

theorem lockEffect_advance (input : SyncInput) :
    LockEffect settings s (t.advance settings s input).1 t (t.advance settings s input).2 input := by
  have hsame : LockEffect settings s s t t input := .kept (sameStatus_refl s) rfl (Or.inr rfl)
  cases input with
  | succeed => exact lockEffect_succeed s t
  | fail failure => exact lockEffect_fail s t failure
  | crash => exact .kept (sameStatus_refl s) (holding_crash t) (Or.inl (lock_crash t))
  | touch =>
    cases t with
    | body live => exact .touched live.inventory rfl rfl (s.wroteStatus _ _)
    | _ => exact hsame
  | stage name =>
    cases t with
    | body live => exact .kept ⟨rfl, rfl⟩ rfl (Or.inr rfl)
    | _ => exact hsame
  | finish lastDatetime =>
    cases t with
    | body live =>
      simp only [SyncThread.advance]
      split <;> exact .kept (sameStatus_refl s) rfl (Or.inr rfl)
    | _ => exact hsame
  | settle staged =>
    cases t with
    | body live =>
      simp only [SyncThread.advance]
      split <;> exact .kept (sameStatus_refl s) rfl (Or.inr rfl)
    | _ => exact hsame

end Effects

end Forecast
