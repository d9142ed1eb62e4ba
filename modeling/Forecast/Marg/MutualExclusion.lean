import Forecast.Marg.LockEffects

/-!
# At most one sync of a config executes

While one sync holds the lock the accounting status is RUNNING, so no other can
take it. The status stays RUNNING as long as nobody else clears it: the sweep
does not, the heartbeats being in time, but stale-log recovery, unlocking and a run
that fails after its completion clear it whoever holds the lock.
-/

open Runs ThreadPool

namespace Forecast

/-- No two syncs hold the lock. -/
def AtMostOneExecuting (cfg : SyncPool) : Prop :=
  ∀ (i j : ℕ) (t u : SyncThread), i ≠ j → cfg.threads[i]? = some t → cfg.threads[j]? = some u →
    t.lock = none ∨ u.lock = none

/-- The config was written within the sweep's threshold, and the log, while RUNNING, has a
heartbeat that neither a resume nor an unlock takes for a dead one. -/
def isInTime (settings : SyncSettings) (s : SyncState) (t : SyncThread) : Bool :=
  s.now - settings.staleAfterMs ≤ s.config.updatedAt ∧
    (t.timer.bind fun live => s.logs[live.logId]?).all fun log =>
      log.status ≠ .running ∨ log.lastHeartbeatAt.any fun beat =>
        s.now - beat < 60000 ∧ s.now - beat < settings.staleSyncAfterMs

/-- Live runs are heart-beating in time. -/
def HeartbeatsInTime (settings : SyncSettings) (cfg : SyncPool) : Prop :=
  ∀ t ∈ cfg.threads, t.lock ≠ none → isInTime settings cfg.shared t = true

/-- The step is an update that clears the lock without holding it. -/
def clearsLock (cfg : SyncPool) : SyncAction → Bool
  | .step i .succeed => cfg.threads[i]?.any SyncThread.clears
  | _ => false

/-- Stale-log recovery, unlocking and a run that failed after its completion write the config
only while no sync holds the lock. -/
def KeepsOthersLock (cfg : SyncPool) (action : SyncAction) : Prop :=
  clearsLock cfg action = true → ∀ t ∈ cfg.threads, t.lock = none

instance (settings : SyncSettings) (cfg : SyncPool) : Decidable (HeartbeatsInTime settings cfg) :=
  inferInstanceAs (Decidable (∀ t ∈ cfg.threads, t.lock ≠ none → _))

instance (cfg : SyncPool) (action : SyncAction) : Decidable (KeepsOthersLock cfg action) :=
  inferInstanceAs (Decidable (_ = true → ∀ t ∈ cfg.threads, t.lock = none))

/-- A holder of the lock keeps the accounting status RUNNING; a sweep has a cutoff that is old
enough. -/
def lockOutline (settings : SyncSettings) : Outline SyncState SyncThread where
  inv _ := True
  asserts s t := (t.lock ≠ none → s.config.lastAccountingSyncStatus = .running) ∧
    ∀ staleCutoff, t = .sweepConfigs staleCutoff → staleCutoff ≤ s.now - settings.staleAfterMs
  pair t u := t.lock = none ∨ u.lock = none
  symm _ _ := Or.symm

theorem start_cases {settings : SyncSettings} {s : SyncState} {threads : List SyncThread}
    {call : SyncCall} {t : SyncThread} (h : call.start settings s threads = some t) :
    t.lock = none ∧ ∀ staleCutoff, t = .sweepConfigs staleCutoff →
      staleCutoff = s.now - settings.staleAfterMs := by
  cases call with
  | heartbeat caller =>
    obtain ⟨live, -, rfl⟩ := Option.map_eq_some_iff.1 h
    exact ⟨rfl, fun _ h => by cases h⟩
  | recoverStaleConfigsAndLogs =>
    obtain rfl := Option.some.inj h
    exact ⟨rfl, fun _ h => by cases h; rfl⟩
  | _ =>
    obtain rfl := Option.some.inj h
    exact ⟨rfl, fun _ h => by cases h⟩

section Steps

variable {settings : SyncSettings} {s : SyncState} {t : SyncThread} {input : SyncInput}

theorem now_succeed : (t.succeed settings s).1.now = s.now := by
  cases t with
  | takeLock request config =>
    simp only [SyncThread.succeed]
    split_ifs <;> rfl
  | takeResumeLock logId log =>
    simp only [SyncThread.succeed]
    split_ifs <;> rfl
  | completeConfig live lastDatetime =>
    simp only [SyncThread.succeed, completeSyncConfig]
    split_ifs <;> rfl
  | sweepConfigs staleCutoff =>
    simp only [SyncThread.succeed, sweepStaleConfig]
    split_ifs <;> rfl
  | _ => rfl

theorem now_advance : (t.advance settings s input).1.now = s.now := by
  cases input with
  | succeed => exact now_succeed
  | fail failure => cases t <;> rfl
  | _ => cases t <;> rfl

theorem succeed_ne_sweepConfigs (staleCutoff : Millis) :
    (t.succeed settings s).2 ≠ .sweepConfigs staleCutoff := by
  intro h
  cases t with
  | readConfig | readResumeConfig | startResume | recoverRead | unlockLatest =>
    simp only [SyncThread.succeed] at h
    split_ifs at h
  | takeLock =>
    simp only [SyncThread.succeed, afterLock] at h
    split_ifs at h
  | readResumeLog =>
    simp only [SyncThread.succeed] at h
    split at h
    · split_ifs at h
    · cases h
  | takeResumeLock =>
    simp only [SyncThread.succeed] at h
    split_ifs at h
  | unlockRead =>
    simp only [SyncThread.succeed] at h
    split_ifs at h
  | _ => cases h

theorem fail_ne_sweepConfigs (failure : MargFailureType) (staleCutoff : Millis) :
    (t.fail s failure).2 ≠ .sweepConfigs staleCutoff := by
  intro h
  cases t with
  | failConfig =>
    simp only [SyncThread.fail] at h
    split_ifs at h
  | _ => cases h

theorem sweepConfigs_of_advance {staleCutoff : Millis}
    (h : (t.advance settings s input).2 = .sweepConfigs staleCutoff) :
    t = .sweepConfigs staleCutoff := by
  cases input with
  | succeed => exact absurd h (succeed_ne_sweepConfigs staleCutoff)
  | fail failure => exact absurd h (fail_ne_sweepConfigs failure staleCutoff)
  | crash => cases t <;> cases h
  | finish | settle =>
    cases t with
    | body live =>
      simp only [SyncThread.advance] at h
      split_ifs at h
    | _ => exact h
  | _ =>
    cases t with
    | body live => cases h
    | _ => exact h

end Steps

/-- What a run is assumed to keep. -/
def lockGood (settings : SyncSettings) (cfg : SyncPool) (action : SyncAction) : Prop :=
  HeartbeatsInTime settings cfg ∧ KeepsOthersLock cfg action

theorem lockOutline_startOk (settings : SyncSettings) :
    (lockOutline settings).StartOk (syncProgram settings) (lockGood settings) := by
  intro cfg call t hholds hgood hstart
  obtain ⟨hlock, hsweep⟩ := start_cases hstart
  exact ⟨⟨fun h => absurd hlock h, fun staleCutoff h => (hsweep staleCutoff h).le⟩,
    fun i u hu => Or.inl hlock⟩

/-- A step that clears the lock, or takes it, finds no other holder; every other step leaves the
accounting status RUNNING for the others. -/
theorem others_of_lockEffect {settings : SyncSettings} {cfg : SyncPool} {i : ℕ} {input : SyncInput}
    {t t' : SyncThread} {s' : SyncState}
    (hholds : (lockOutline settings).Holds cfg) (hgood : lockGood settings cfg (.step i input))
    (ht : cfg.threads[i]? = some t) (heffect : LockEffect settings cfg.shared s' t t' input) :
    (t'.lock ≠ none → s'.config.lastAccountingSyncStatus = .running) ∧
      ∀ (j : ℕ) (u : SyncThread), j ≠ i → cfg.threads[j]? = some u →
        (u.lock ≠ none → s'.config.lastAccountingSyncStatus = .running) ∧
          (t'.lock = none ∨ u.lock = none) := by
  have hpair : ∀ (j : ℕ) (u : SyncThread), j ≠ i → cfg.threads[j]? = some u →
      t.lock = none ∨ u.lock = none :=
    fun j u hj hu => hholds.pair i j t u (Ne.symm hj) ht hu
  have hrunning : ∀ (j : ℕ) (u : SyncThread), cfg.threads[j]? = some u → u.lock ≠ none →
      cfg.shared.config.lastAccountingSyncStatus = .running :=
    fun j u hu => (hholds.asserts j u hu).1
  have hnone : ∀ u : SyncThread, u.holding = none → u.lock = none := by
    intro u hu
    cases u <;> first | exact hu | rfl
  cases heffect with
  | kept hstatus hholding hlock =>
    rw [hstatus.2]
    refine ⟨fun h => hrunning i t ht ?_, fun j u hj hu => ⟨hrunning j u hu, ?_⟩⟩
    · exact hlock.elim (fun hn => absurd hn h) fun hs => hs ▸ h
    · exact hlock.elim Or.inl fun hs => hs ▸ hpair j u hj hu
  | touched inventory hlock hthread hwrote =>
    refine ⟨fun _ => hwrote.2, fun j u hj hu => ⟨fun _ => hwrote.2, ?_⟩⟩
    rw [hthread]
    exact hpair j u hj hu
  | ticked caller live hinput hthread hlock hwrote =>
    exact ⟨fun _ => hwrote.2, fun j u hj hu => ⟨fun _ => hwrote.2, Or.inl (hnone t' hlock)⟩⟩
  | taken inventory hfree hlock hwrote hheld =>
    refine ⟨fun _ => hwrote.2, fun j u hj hu => ⟨fun _ => hwrote.2, Or.inr ?_⟩⟩
    by_contra hu'
    simp [SyncState.isUnlocked, hrunning j u hu hu'] at hfree
  | thrown inventory request config hfree hinput hthread hwindow hwrote hlock =>
    exact ⟨fun _ => hwrote.2, fun j u hj hu => ⟨fun _ => hwrote.2, Or.inl (hnone t' hlock)⟩⟩
  | released inventory status hlock hholding hstatus hwrote =>
    have hnone' := hnone t' hholding
    refine ⟨fun h => absurd hnone' h, fun j u hj hu => ⟨fun h => ?_, Or.inl hnone'⟩⟩
    rcases hpair j u hj hu with hn | hn
    · rw [hlock] at hn
      cases hn
    · exact absurd hn h
  | cleared inventory hinput hclears hlock hholding hwrote =>
    subst hinput
    have hnone' := hnone t' hholding
    have hnobody := hgood.2 (by simp [clearsLock, ht, hclears])
    exact ⟨fun h => absurd hnone' h, fun j u hj hu =>
      ⟨fun h => absurd (hnobody u (List.mem_of_getElem? hu)) h, Or.inl hnone'⟩⟩
  | swept staleCutoff hthread hstale hholding hwrote =>
    have hnone' := hnone t' hholding
    have hcutoff := (hholds.asserts i t ht).2 staleCutoff hthread
    refine ⟨fun h => absurd hnone' h, fun j u hj hu => ⟨fun h => ?_, Or.inl hnone'⟩⟩
    have hfresh := hgood.1 u (List.mem_of_getElem? hu) h
    simp only [isInTime, Bool.decide_and, Bool.and_eq_true, decide_eq_true_eq] at hfresh
    exact absurd hfresh.1 (not_le.2 (hstale.trans_le hcutoff))
  | abandoned inventory failure hinput hmust hlock hstatus hholding =>
    have hnone' := hnone t' hholding
    rw [hstatus.2]
    exact ⟨fun h => absurd hnone' h, fun j u hj hu => ⟨hrunning j u hu, Or.inl hnone'⟩⟩

theorem lockOutline_stepOk (settings : SyncSettings) :
    (lockOutline settings).StepOk (syncProgram settings) (lockGood settings) := by
  intro cfg i input t hholds hgood ht
  obtain ⟨hown, hothers⟩ :=
    others_of_lockEffect hholds hgood ht (lockEffect_advance cfg.shared t input)
  have hnow : (t.advance settings cfg.shared input).1.now = cfg.shared.now := now_advance
  refine ⟨trivial, ⟨hown, fun staleCutoff h => ?_⟩, fun j u hj hu => ⟨⟨?_, fun staleCutoff h => ?_⟩, ?_⟩⟩
  · change staleCutoff ≤ (t.advance settings cfg.shared input).1.now - settings.staleAfterMs
    rw [hnow]
    exact (hholds.asserts i t ht).2 staleCutoff (sweepConfigs_of_advance h)
  · exact (hothers j u hj hu).1
  · change staleCutoff ≤ (t.advance settings cfg.shared input).1.now - settings.staleAfterMs
    rw [hnow]
    exact (hholds.asserts j u hu).2 staleCutoff h
  · exact (hothers j u hj hu).2

theorem lockOutline_envOk (settings : SyncSettings) :
    (lockOutline settings).EnvOk (syncProgram settings) (lockGood settings) := by
  intro cfg event hholds hgood
  refine ⟨trivial, fun i t ht => ?_⟩
  obtain ⟨hrunning, hsweep⟩ := hholds.asserts i t ht
  cases event with
  | pass elapsed =>
    refine ⟨hrunning, fun staleCutoff h => (hsweep staleCutoff h).trans ?_⟩
    exact sub_le_sub_right (le_add_of_nonneg_right (Int.natCast_nonneg elapsed)) _
  | updateConfig isActive => exact ⟨hrunning, hsweep⟩

/-- In every run whose heartbeats are in time, at most one sync executes as long as nobody clears
the lock while another holds it. -/
theorem atMostOneExecuting_of_keepsOthersLock (settings : SyncSettings) (s : SyncState)
    (actions : List SyncAction)
    (h : Always (syncProgram settings).next
      (fun cfg action => HeartbeatsInTime settings cfg ∧ KeepsOthersLock cfg action)
      ⟨s, []⟩ actions) (k : ℕ) :
    AtMostOneExecuting (stateAt (syncProgram settings).next ⟨s, []⟩ actions k) := by
  have hholds := Always.invariant_at (I := (lockOutline settings).Holds)
    (fun cfg action hholds hgood => hholds.next (lockOutline_startOk settings)
      (lockOutline_stepOk settings) (lockOutline_envOk settings) hgood)
    (Outline.holds_initial trivial) h k
  exact fun i j t u => hholds.pair i j t u

def halfHour : SyncSettings := ⟨asciiPlatform, 1800000, 1800000⟩

def syncedConfig : SyncState := ⟨0, { lastSyncDatetime := some "2026-03-01", updatedAt := 0 }, []⟩

/-- A run from its start to its end, by thread `i`, with one heartbeat. -/
def completeRun (i : ℕ) : List SyncAction :=
  [.step i .succeed, .step i .succeed, .step i .succeed, .step i .touch,
    .step i (.finish "2026-03-02"), .step i .succeed, .step i .succeed]

def oneRunAfterAnother : List SyncAction :=
  .spawn (.runSync {}) :: completeRun 0 ++
    .env (.pass 3600000) :: .spawn .recoverStaleConfigsAndLogs :: .spawn (.runSync {}) ::
      .step 1 .succeed :: .step 1 .succeed :: completeRun 2

theorem atMostOneExecuting_oneRunAfterAnother :
    AtMostOneExecuting (stateAt (syncProgram halfHour).next ⟨syncedConfig, []⟩
      oneRunAfterAnother oneRunAfterAnother.length) :=
  atMostOneExecuting_of_keepsOthersLock halfHour syncedConfig oneRunAfterAnother
    (by decide +kernel) oneRunAfterAnother.length

def isUnforced : SyncAction → Bool
  | .spawn (.forceUnlockConfig force) => !force
  | _ => true

/-- The config is unlocked after a run took the lock and before it created its log; then a second
run takes the lock. -/
def unlockBeforeLog : List SyncAction :=
  [.spawn (.runSync {}), .step 0 .succeed, .step 0 .succeed,
    .spawn (.forceUnlockConfig false), .step 1 .succeed, .step 1 .succeed, .step 1 .succeed,
    .step 1 .succeed,
    .spawn (.runSync {}), .step 2 .succeed, .step 2 .succeed]

/-- Heartbeats in time and no forced unlock do not keep two runs from executing. -/
theorem not_atMostOneExecuting_unlockBeforeLog :
    Always (syncProgram halfHour).next
      (fun cfg action => HeartbeatsInTime halfHour cfg ∧ isUnforced action = true)
      ⟨syncedConfig, []⟩ unlockBeforeLog ∧
    ¬ AtMostOneExecuting (run (syncProgram halfHour).next ⟨syncedConfig, []⟩ unlockBeforeLog) := by
  refine ⟨by decide +kernel, fun h => ?_⟩
  have hsecond : ((run (syncProgram halfHour).next ⟨syncedConfig, []⟩
      unlockBeforeLog).threads.map SyncThread.lock) = [some true, none, some true] := by
    decide +kernel
  have hlock : ∀ (i : ℕ) (t : SyncThread), (run (syncProgram halfHour).next ⟨syncedConfig, []⟩
      unlockBeforeLog).threads[i]? = some t → [some true, none, some true][i]? = some t.lock := by
    intro i t ht
    rw [← hsecond, List.getElem?_map, ht]
    rfl
  obtain ⟨t, ht⟩ : ∃ t, (run (syncProgram halfHour).next ⟨syncedConfig, []⟩
      unlockBeforeLog).threads[0]? = some t := Option.isSome_iff_exists.1 (by decide +kernel)
  obtain ⟨u, hu⟩ : ∃ u, (run (syncProgram halfHour).next ⟨syncedConfig, []⟩
      unlockBeforeLog).threads[2]? = some u := Option.isSome_iff_exists.1 (by decide +kernel)
  rcases h 0 2 t u (by decide) ht hu with hnone | hnone
  · simpa [hnone] using hlock 0 t ht
  · simpa [hnone] using hlock 2 u hu

end Forecast
