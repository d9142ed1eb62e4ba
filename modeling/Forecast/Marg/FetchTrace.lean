import Forecast.Marg.SyncRun

/-!
# What a run has fetched

The pages of a run are consecutive: each request uses the cursor to which the page
before it led. What a step does to a run's variables, to the staging tables and to
the cursors of the configs is said here once.
-/

open KeyedTable ThreadPool

namespace Forecast

/-- The cursor to which consecutive pages lead; none when a request used another cursor. -/
def follow (start : SyncCursor) : List FetchedPage → Option SyncCursor
  | [] => some start
  | page :: pages =>
    if page.cursor = start then follow (start.advance page.payload) pages else none

theorem follow_append {start stop : SyncCursor} {pages : List FetchedPage} {page : FetchedPage}
    (h : follow start pages = some stop) (hpage : page.cursor = stop) :
    follow start (pages ++ [page]) = some (stop.advance page.payload) := by
  induction pages generalizing start with
  | nil =>
    obtain rfl := Option.some.inj h
    simp [follow, hpage]
  | cons first pages ih =>
    by_cases hfirst : first.cursor = start
    · rw [follow, if_pos hfirst] at h
      rw [List.cons_append, follow, if_pos hfirst]
      exact ih h
    · rw [follow, if_neg hfirst] at h
      cases h

theorem cursor_head_of_follow {start stop : SyncCursor} {page : FetchedPage}
    {pages : List FetchedPage} (h : follow start (page :: pages) = some stop) :
    page.cursor = start := by
  by_contra hne
  rw [follow, if_neg hne] at h
  cases h

def endsFinal (pages : List FetchedPage) : Bool :=
  pages.getLast?.any fun page => page.payload.dataStatus == completeDataStatus

namespace RunThread

def running : RunThread → Option SyncRun
  | branches run => some run
  | inventory run => some run
  | accounting run => some run
  | closeOutstandings run => some run
  | markStock run => some run
  | project run => some run
  | commit run => some run
  | _ => none

/-- The run of a thread that may still mark rows. -/
def unmarked : RunThread → Option SyncRun
  | project _ => none
  | commit _ => none
  | thread => thread.running

end RunThread

theorem running_of_unmarked {t : RunThread} {run : SyncRun} (h : t.unmarked = some run) :
    t.running = some run := by
  cases t <;> first | exact h | cases h

/-- The pages of a run are consecutive from the cursors with which it started. -/
structure Traced (run : SyncRun) : Prop where
  inventory : follow (run.request.startInventory run.config run.recovered) run.inventoryPages =
    some run.inventory
  accounting : follow (run.request.startAccounting run.config) run.accountingPages =
    some run.accounting

section Steps

variable (settings : RunSettings) (s : StagingState) (t : RunThread) (input : RunInput)

/-- How the run of a thread comes from the step before. -/
inductive RunStep (run' : SyncRun) : Prop where
  | begun (configId : Id) (config : CursorConfig) (request : SyncRequest)
      (recovered : Option SyncCursor) (ht : t = .createLog configId config request recovered)
      (hrun : run' =
        { configId := configId
          config := config
          request := request
          recovered := recovered
          syncLogId := s.logs.length
          inventory := request.startInventory config recovered
          accounting := request.startAccounting config })
  | kept (run : SyncRun) (seen : List ℤ) (ht : t.running = some run)
      (hrun : run' = { run with syncedBranchCompanyIds := seen })
  | inventoryPage (run : SyncRun) (payload : MargParsedPayload) (ht : t = .inventory run)
      (hstages : t.stages settings s input = run.stageRows settings.platform .inventory payload)
      (hrun : run' = run.afterInventoryPage settings.platform payload)
  | accountingPage (run : SyncRun) (payload : MargParsedPayload) (ht : t = .accounting run)
      (hstages : t.stages settings s input = run.stageRows settings.platform .accounting payload)
      (hrun : run' = run.afterAccountingPage settings.platform payload)

variable {settings s t input}

theorem runStep_of_same {run' : SyncRun} (h : t.running = some run') :
    RunStep settings s t input run' := .kept run' run'.syncedBranchCompanyIds h rfl

theorem running_afterPage {run' run : SyncRun} {terminal : Bool} {pages : ℕ}
    {outcome : PageOutcome} {next again : RunThread}
    (h : (afterPage settings outcome terminal pages run next again).running = some run')
    (hnext : next.running = some run) (hagain : again.running = some run) : run' = run := by
  unfold afterPage at h
  split_ifs at h
  · cases h
  · exact Option.some.inj (h.symm.trans hnext)
  · exact Option.some.inj (h.symm.trans hagain)
  · cases h

theorem running_receiveInventoryPage {run' run : SyncRun} {payload : MargParsedPayload}
    {outcome : PageOutcome}
    (h : (receiveInventoryPage settings run payload outcome).running = some run') :
    outcome.isStaged = true ∧ run' = run.afterInventoryPage settings.platform payload := by
  cases outcome with
  | failsAfter n => cases h
  | staged => exact ⟨rfl, running_afterPage h rfl rfl⟩
  | heartbeatFails => exact ⟨rfl, running_afterPage h rfl rfl⟩

theorem running_receiveAccountingPage {run' run : SyncRun} {payload : MargParsedPayload}
    {outcome : PageOutcome}
    (h : (receiveAccountingPage settings run payload outcome).running = some run') :
    outcome.isStaged = true ∧ run' = run.afterAccountingPage settings.platform payload := by
  cases outcome with
  | failsAfter n => cases h
  | staged => exact ⟨rfl, running_afterPage h rfl rfl⟩
  | heartbeatFails => exact ⟨rfl, running_afterPage h rfl rfl⟩

theorem written_of_isStaged {outcome : PageOutcome} (h : outcome.isStaged = true)
    (rows : List StagedRow) : outcome.written rows = rows := by
  cases outcome with
  | failsAfter n => cases h
  | _ => rfl

theorem runStep_advance {run' : SyncRun}
    (h : (t.advance settings s input).2.running = some run') :
    RunStep settings s t input run' := by
  unfold RunThread.advance at h
  cases t with
  | createLog configId config request recovered =>
    cases input with
    | succeed =>
      refine .begun configId config request recovered rfl ?_
      simp only [RunThread.proceed, SyncRun.begin] at h
      split_ifs at h <;> exact (Option.some.inj h).symm
    | _ => cases h
  | branches run =>
    cases input with
    | receiveBranches rows staged => exact .kept run _ rfl (Option.some.inj h).symm
    | _ => exact runStep_of_same h
  | inventory run =>
    cases input with
    | receivePage payload outcome =>
      obtain ⟨hstaged, hrun⟩ := running_receiveInventoryPage h
      exact .inventoryPage run payload rfl (written_of_isStaged hstaged _) hrun
    | fail => cases h
    | _ => exact runStep_of_same h
  | accounting run =>
    cases input with
    | receivePage payload outcome =>
      obtain ⟨hstaged, hrun⟩ := running_receiveAccountingPage h
      exact .accountingPage run payload rfl (written_of_isStaged hstaged _) hrun
    | fail => cases h
    | _ => exact runStep_of_same h
  | closeOutstandings run =>
    cases input with
    | fail => cases h
    | _ => exact runStep_of_same h
  | markStock run =>
    cases input with
    | fail => cases h
    | _ => exact runStep_of_same h
  | project run =>
    cases input with
    | fail => cases h
    | _ => exact runStep_of_same h
  | commit run =>
    cases input with
    | succeed => cases h
    | fail => cases h
    | _ => exact runStep_of_same h
  | readConfig configId request =>
    cases input with
    | succeed =>
      simp only [RunThread.proceed] at h
      split at h
      · cases h
      · split_ifs at h <;> cases h
    | _ => cases h
  | _ => cases input <;> cases h

theorem Traced.runStep (htraced : ∀ run, t.running = some run → Traced run) {run' : SyncRun}
    (h : RunStep settings s t input run') : Traced run' := by
  cases h with
  | begun configId config request recovered ht hrun =>
    subst hrun
    exact ⟨rfl, rfl⟩
  | kept run seen ht hrun =>
    subst hrun
    exact ⟨(htraced run ht).inventory, (htraced run ht).accounting⟩
  | inventoryPage run payload ht hstages hrun =>
    subst ht hrun
    have hold := htraced run rfl
    exact ⟨follow_append hold.inventory rfl, hold.accounting⟩
  | accountingPage run payload ht hstages hrun =>
    subst ht hrun
    have hold := htraced run rfl
    exact ⟨hold.inventory, follow_append hold.accounting rfl⟩

def RunThread.marks (settings : RunSettings) : RunThread → Option (MargTable × SyncRun)
  | closeOutstandings run =>
    if run.outstandingSnapshotIsAuthoritative settings.platform then some (.outstandings, run)
    else none
  | markStock run =>
    if run.stockSnapshotIsAuthoritative settings.platform then some (.stocks, run) else none
  | _ => none

variable (settings s t input) in
theorem staged_advance :
    (t.advance settings s input).1.staged = (s.stage (t.stages settings s input)).staged ∨
      ∃ table run, input = .succeed ∧ t.marks settings = some (table, run) ∧
        (t.advance settings s input).1.staged = (s.markUnseen table run.syncLogId).staged := by
  cases t with
  | closeOutstandings run =>
    cases input with
    | succeed =>
      simp only [RunThread.advance, RunThread.proceed, RunThread.marks]
      split_ifs with hmarks
      · exact Or.inr ⟨_, _, trivial, rfl, rfl⟩
      · exact Or.inl rfl
    | _ => exact Or.inl rfl
  | markStock run =>
    cases input with
    | succeed =>
      simp only [RunThread.advance, RunThread.proceed, RunThread.marks]
      split_ifs with hmarks
      · exact Or.inr ⟨_, _, trivial, rfl, rfl⟩
      · exact Or.inl rfl
    | _ => exact Or.inl rfl
  | commit run =>
    cases input with
    | succeed =>
      simp only [RunThread.advance, RunThread.proceed]
      split_ifs <;> exact Or.inl rfl
    | _ => exact Or.inl rfl
  | _ => cases input <;> exact Or.inl rfl

theorem written_advance :
    (t.advance settings s input).1.written = s.written ++ t.stages settings s input := by
  cases t with
  | closeOutstandings run =>
    cases input with
    | succeed =>
      simp only [RunThread.advance, RunThread.proceed]
      split_ifs <;> rfl
    | _ => rfl
  | markStock run =>
    cases input with
    | succeed =>
      simp only [RunThread.advance, RunThread.proceed]
      split_ifs <;> rfl
    | _ => rfl
  | commit run =>
    cases input with
    | succeed =>
      simp only [RunThread.advance, RunThread.proceed]
      split_ifs <;> rfl
    | _ => rfl
  | _ => cases input <;> rfl

variable (settings s t input) in
theorem configs_advance :
    (t.advance settings s input).1.configs = s.configs ∨
      ∃ run, input = .succeed ∧ t = .commit run ∧ run.shouldCommitCursor = true ∧
        (t.advance settings s input).1.configs = (s.commitCursors settings run).configs := by
  cases t with
  | closeOutstandings run =>
    cases input with
    | succeed =>
      simp only [RunThread.advance, RunThread.proceed]
      split_ifs <;> exact Or.inl rfl
    | _ => exact Or.inl rfl
  | markStock run =>
    cases input with
    | succeed =>
      simp only [RunThread.advance, RunThread.proceed]
      split_ifs <;> exact Or.inl rfl
    | _ => exact Or.inl rfl
  | commit run =>
    cases input with
    | succeed =>
      simp only [RunThread.advance, RunThread.proceed]
      split_ifs with hcommits
      · exact Or.inr ⟨run, trivial, rfl, hcommits, rfl⟩
      · exact Or.inl rfl
    | _ => exact Or.inl rfl
  | _ => cases input <;> exact Or.inl rfl

end Steps

end Forecast
