import Forecast.Marg.MutualExclusion

/-!
# The lock is released when the call ends

A RUNNING status is always one that some sync which has not ended will overwrite.
This fails where a call throws between taking the lock and its `try` block, where
its last update of the config fails, and where a heartbeat is written after it.
-/

open Runs ThreadPool

namespace Forecast

/-- The thread is about to leave a RUNNING status behind although it succeeds: it throws for an
invalid window once it has the lock, or it writes a heartbeat for a call that holds it no more. -/
def SyncThread.leavesRunning (settings : SyncSettings) (cfg : SyncPool) : SyncThread → Bool
  | takeLock request _ =>
    cfg.shared.isUnlocked && !validWindow settings request.fromDate request.endDate
  | tickConfig caller live => cfg.threads[caller]?.bind holding != some live.inventory
  | _ => false

/-- The step lets a call end, or be over, with a status left RUNNING. -/
def losesLock (settings : SyncSettings) (cfg : SyncPool) : SyncAction → Bool
  | .step i (.fail _) => cfg.threads[i]?.any SyncThread.mustSucceed
  | .step i .succeed => cfg.threads[i]?.any (SyncThread.leavesRunning settings cfg)
  | _ => false

/-- Once a call that took the lock has ended, both statuses are terminal unless another call holds
the lock or died with it. -/
def LockReleased (cfg : SyncPool) : Prop :=
  SyncThread.ended true ∈ cfg.threads → (∀ t ∈ cfg.threads, t.holding = none) →
    cfg.shared.config.lastSyncStatus ≠ .running ∧
      cfg.shared.config.lastAccountingSyncStatus ≠ .running

def Holder (threads : List SyncThread) (P : Option Bool → Prop) : Prop :=
  ∃ (i : ℕ) (t : SyncThread), threads[i]? = some t ∧ P t.holding

/-- Every RUNNING status is the one of a call that holds the lock. -/
structure RunningIsHeld (cfg : SyncPool) : Prop where
  inventory : cfg.shared.config.lastSyncStatus = .running →
    Holder cfg.threads (· = some true)
  accounting : cfg.shared.config.lastAccountingSyncStatus = .running →
    Holder cfg.threads (· ≠ none)

theorem holding_of_lock {t : SyncThread} {inventory : Bool} (h : t.lock = some inventory) :
    t.holding = some inventory := by
  cases t <;> first | exact h | cases h

theorem Holder.append {threads : List SyncThread} {P : Option Bool → Prop} (h : Holder threads P)
    (t : SyncThread) : Holder (threads ++ [t]) P := by
  obtain ⟨i, u, hu, hP⟩ := h
  exact ⟨i, u, List.getElem?_append_left (List.getElem?_eq_some_iff.1 hu).1 ▸ hu, hP⟩

theorem Holder.set {threads : List SyncThread} {P : Option Bool → Prop} {i : ℕ} {t t' : SyncThread}
    (h : Holder threads P) (ht : threads[i]? = some t) (hkeep : P t.holding → P t'.holding) :
    Holder (threads.set i t') P := by
  obtain ⟨j, u, hu, hP⟩ := h
  by_cases hij : i = j
  · subst hij
    obtain rfl := Option.some.inj (ht.symm.trans hu)
    exact ⟨i, t', List.getElem?_set_self (List.getElem?_eq_some_iff.1 ht).1, hkeep hP⟩
  · exact ⟨j, u, by rwa [List.getElem?_set_ne hij], hP⟩

theorem holder_self {threads : List SyncThread} {P : Option Bool → Prop} {i : ℕ}
    {t t' : SyncThread} (ht : threads[i]? = some t) (hP : P t'.holding) :
    Holder (threads.set i t') P :=
  ⟨i, t', List.getElem?_set_self (List.getElem?_eq_some_iff.1 ht).1, hP⟩

theorem runningIsHeld_step {settings : SyncSettings} {cfg : SyncPool} {i : ℕ} {input : SyncInput}
    {t t' : SyncThread} {s' : SyncState} (hheld : RunningIsHeld cfg)
    (hgood : losesLock settings cfg (.step i input) = false) (ht : cfg.threads[i]? = some t)
    (heffect : LockEffect settings cfg.shared s' t t' input) :
    RunningIsHeld ⟨s', cfg.threads.set i t'⟩ := by
  obtain ⟨hinventory, haccounting⟩ := hheld
  -- the inventory status, where the step leaves it alone, is held by another
  have hother : ∀ {written : Bool} {status : MargSyncStatus},
      WroteStatus cfg.shared s' written status → (status = .running → written = false) →
      t.holding ≠ some true → s'.config.lastSyncStatus = .running →
      Holder (cfg.threads.set i t') (· = some true) := by
    intro written status hwrote hstatus hholding hrunning
    rw [hwrote.1] at hrunning
    cases written with
    | true => exact absurd (hstatus hrunning) (by decide)
    | false => exact (hinventory hrunning).set ht fun h => absurd h hholding
  cases heffect with
  | kept hstatus hholding hlock =>
    refine ⟨fun h => ?_, fun h => ?_⟩
    · exact (hinventory (hstatus.1 ▸ h)).set ht fun h => hholding.trans h
    · exact (haccounting (hstatus.2 ▸ h)).set ht fun h => hholding.symm ▸ h
  | touched written hlock hthread hwrote =>
    subst hthread
    have hholding := holding_of_lock hlock
    refine ⟨fun h => ?_, fun _ => holder_self ht (by rw [hholding]; exact Option.some_ne_none _)⟩
    cases written with
    | true => exact holder_self ht hholding
    | false => exact hother hwrote (fun _ => rfl) (by rw [hholding]; decide) h
  | ticked caller live hinput hthread hlock hwrote =>
    subst hinput hthread
    have hcaller : (cfg.threads[caller]?.bind SyncThread.holding) = some live.inventory := by
      simpa [losesLock, ht, SyncThread.leavesRunning] using hgood
    obtain ⟨u, hu, huheld⟩ := Option.bind_eq_some_iff.1 hcaller
    have hmine : ∀ {P : Option Bool → Prop}, P (some live.inventory) →
        Holder (cfg.threads.set i t') P := by
      intro P hP
      refine ⟨caller, u, ?_, huheld.symm ▸ hP⟩
      rw [List.getElem?_set_ne]
      · exact hu
      · rintro rfl
        obtain rfl := Option.some.inj (ht.symm.trans hu)
        cases huheld
    refine ⟨fun h => ?_, fun _ => hmine (Option.some_ne_none _)⟩
    cases hscope : live.inventory with
    | true => exact hmine (congrArg some hscope)
    | false =>
      rw [hscope] at hwrote
      exact hother hwrote (fun _ => rfl) (fun h => by cases h) h
  | taken written hfree hlock hwrote hheld =>
    have hholding := holding_of_lock hheld
    refine ⟨fun h => ?_, fun _ => holder_self ht (by rw [hholding]; exact Option.some_ne_none _)⟩
    cases written with
    | true => exact holder_self ht hholding
    | false => exact hother hwrote (fun _ => rfl) (by rw [hlock]; exact fun h => by cases h) h
  | thrown written request config hfree hinput hthread hwindow hwrote hlock =>
    subst hinput hthread
    simp [losesLock, ht, SyncThread.leavesRunning, hfree, hwindow] at hgood
  | released written status hlock hholding hstatus hwrote =>
    refine ⟨fun h => ?_, fun h => absurd (hwrote.2.symm.trans h) hstatus⟩
    cases written with
    | true => exact absurd (hwrote.1.symm.trans h) hstatus
    | false =>
      refine hother hwrote (fun h => absurd h hstatus) ?_ h
      rw [holding_of_lock hlock]
      decide
  | cleared written hinput hclears hlock hholding hwrote =>
    refine ⟨hother hwrote (fun h => by cases h) (by rw [hlock]; exact fun h => by cases h),
      fun h => ?_⟩
    rw [hwrote.2] at h
    cases h
  | swept staleCutoff hthread hstale hholding hwrote =>
    refine ⟨fun h => ?_, fun h => ?_⟩
    · rw [hwrote.1] at h
      cases h
    · rw [hwrote.2] at h
      cases h
  | abandoned written failure hinput hmust hlock hstatus hholding =>
    subst hinput
    simp [losesLock, ht, hmust] at hgood

theorem runningIsHeld_next {settings : SyncSettings} {cfg : SyncPool} {action : SyncAction}
    (hheld : RunningIsHeld cfg) (hgood : losesLock settings cfg action = false) :
    RunningIsHeld ((syncProgram settings).next cfg action) := by
  cases action with
  | spawn call =>
    cases hstart : (syncProgram settings).start cfg.shared cfg.threads call with
    | none => simpa only [Program.next, hstart] using hheld
    | some t =>
      rw [Program.next_spawn _ hstart]
      exact ⟨fun h => (hheld.inventory h).append t, fun h => (hheld.accounting h).append t⟩
  | step i input =>
    cases ht : cfg.threads[i]? with
    | none => simpa only [Program.next, ht] using hheld
    | some t =>
      rw [Program.next_step _ ht]
      exact runningIsHeld_step hheld hgood ht (lockEffect_advance cfg.shared t input)
  | env event =>
    cases event with
    | pass elapsed => exact ⟨hheld.inventory, hheld.accounting⟩
    | updateConfig isActive => exact ⟨hheld.inventory, hheld.accounting⟩

theorem RunningIsHeld.released {cfg : SyncPool} (h : RunningIsHeld cfg) : LockReleased cfg := by
  intro _ hnone
  have hnobody : ∀ {P : Option Bool → Prop}, ¬ P none → ¬ Holder cfg.threads P := by
    rintro P hP ⟨i, t, ht, hholds⟩
    rw [hnone t (List.mem_of_getElem? ht)] at hholds
    exact hP hholds
  exact ⟨fun hrunning => hnobody (fun h => by cases h) (h.inventory hrunning),
    fun hrunning => hnobody (fun h => h rfl) (h.accounting hrunning)⟩

/-- In every run in which no step loses the lock, a call that has ended leaves no status
RUNNING. -/
theorem lockReleased_of_neverLoses (settings : SyncSettings) (s : SyncState)
    (hinventory : s.config.lastSyncStatus ≠ .running)
    (haccounting : s.config.lastAccountingSyncStatus ≠ .running) (actions : List SyncAction)
    (h : Always (syncProgram settings).next (fun cfg action => losesLock settings cfg action = false)
      ⟨s, []⟩ actions) (k : ℕ) :
    LockReleased (stateAt (syncProgram settings).next ⟨s, []⟩ actions k) := by
  have hheld := Always.invariant_at (I := RunningIsHeld)
    (fun cfg action hheld hgood => runningIsHeld_next hheld hgood)
    ⟨fun hrunning => absurd hrunning hinventory, fun hrunning => absurd hrunning haccounting⟩ h k
  exact hheld.released

def failedRunAndItsResume : List SyncAction :=
  [.spawn (.runSync {}), .step 0 .succeed, .step 0 .succeed, .step 0 .succeed,
    .spawn (.heartbeat 0), .step 1 .succeed, .step 1 .succeed,
    .step 0 (.fail .retryable), .step 0 .succeed, .step 0 .succeed,
    .spawn (.resumeSync 0), .step 2 .succeed, .step 2 .succeed, .step 2 .succeed, .step 2 .succeed,
    .step 2 (.settle true), .step 2 .succeed, .step 2 .succeed]

theorem lockReleased_failedRunAndItsResume :
    LockReleased (stateAt (syncProgram halfHour).next ⟨syncedConfig, []⟩ failedRunAndItsResume
      failedRunAndItsResume.length) :=
  lockReleased_of_neverLoses halfHour syncedConfig (by decide) (by decide) failedRunAndItsResume
    (by decide +kernel) failedRunAndItsResume.length

/-- The first date is read as the first of February. -/
def runWithInvalidWindow : List SyncAction :=
  [.spawn (.runSync { fromDate := some "01/02/2026", endDate := some "2026-01-15" }),
    .step 0 .succeed, .step 0 .succeed]

/-- A run whose window is invalid throws after it took the lock and leaves it taken. -/
theorem not_lockReleased_runWithInvalidWindow :
    ¬ LockReleased (run (syncProgram halfHour).next ⟨syncedConfig, []⟩ runWithInvalidWindow) := by
  intro h
  have hended : (run (syncProgram halfHour).next ⟨syncedConfig, []⟩ runWithInvalidWindow).threads =
      [.ended true] := by decide +kernel
  have hrunning : (run (syncProgram halfHour).next ⟨syncedConfig, []⟩
      runWithInvalidWindow).shared.config.lastSyncStatus = .running := by decide +kernel
  unfold LockReleased at h
  rw [hended] at h
  exact (h List.mem_cons_self (by simp [SyncThread.holding, SyncThread.lock])).1 hrunning

end Forecast
