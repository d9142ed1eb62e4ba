import Forecast.Marg.SnapshotDeletion

/-!
# A committed cursor passes no row that was not staged

A committed inventory cursor covers a version of a source row when the version was
current at that instant. What a run fetched covers its cursor when it began at or
before the committed cursor, ended with complete data and staged every fetched row.
-/

open Runs ThreadPool

namespace Forecast

/-- A row of an inventory section as it stood from one change to the next. -/
structure SourceVersion where
  table : MargTable
  row : MargRow
  changedAt : ℤ
  supersededAt : Option ℤ := none

structure ChangeSource where
  /-- The instant of a cursor datetime that is not empty. -/
  instant : String → ℤ
  /-- The versions of the rows that a config asks for. -/
  versions : Id → List SourceVersion

def ChangeSource.cursorInstant (source : ChangeSource) (datetime : String) : Option ℤ :=
  if datetime = "" then none else some (source.instant datetime)

def IsBefore (cursor : Option ℤ) (change : ℤ) : Prop := ∀ instant ∈ cursor, instant < change

def NotAfter (cursor later : Option ℤ) : Prop :=
  ∀ instant ∈ cursor, ∃ other ∈ later, instant ≤ other

def SourceVersion.CurrentAt (version : SourceVersion) (cursor : Option ℤ) : Prop :=
  ¬ IsBefore cursor version.changedAt ∧
    ∀ superseded ∈ version.supersededAt, IsBefore cursor superseded

def SourceVersion.StagedIn (version : SourceVersion) (written : List StagedRow) : Prop :=
  ∃ row ∈ written, row.table = version.table ∧ row.rawData = version.row

def Covers (source : ChangeSource) (written : List StagedRow) (configId : Id)
    (config : CursorConfig) : Prop :=
  ∀ version ∈ source.versions configId,
    version.CurrentAt (source.cursorInstant config.inventory.datetime) → version.StagedIn written

def CursorLaw (source : ChangeSource) (s : StagingState) : Prop :=
  ∀ (configId : Id) (config : CursorConfig), s.configs[configId]? = some config →
    Covers source s.written configId config

def MargParsedPayload.inventorySection (payload : MargParsedPayload) : MargTable → List MargRow
  | .branches => payload.masters
  | .products => payload.product
  | .parties => payload.party
  | .transactions => payload.details
  | .stocks => payload.stock
  | .vouchers => payload.mDis
  | .saleTypes => payload.saleType
  | _ => []

def SyncRun.start (run : SyncRun) : SyncCursor :=
  run.request.startInventory run.config run.recovered

/-- What Marg documents: consecutive pages from the index 0 to complete data hold every row
changed after the start and by the last datetime, which is not before the start nor before a
datetime given out earlier. -/
def HonestFetch (source : ChangeSource) (run : SyncRun) : Prop :=
  run.start.index = 0 → endsFinal run.inventoryPages = true →
    follow run.start run.inventoryPages = some run.inventory →
    (∀ version ∈ source.versions run.configId,
      IsBefore (source.cursorInstant run.start.datetime) version.changedAt →
      version.CurrentAt (source.cursorInstant run.inventory.datetime) →
      ∃ page ∈ run.inventoryPages, version.row ∈ page.payload.inventorySection version.table) ∧
    NotAfter (source.cursorInstant run.start.datetime)
      (source.cursorInstant run.inventory.datetime) ∧
    NotAfter (source.cursorInstant run.config.inventory.datetime)
      (source.cursorInstant run.inventory.datetime)

def RunThread.commits : RunThread → Option SyncRun
  | commit run => if run.shouldCommitCursor && run.request.runsInventory then some run else none
  | _ => none

def HonestChanges (source : ChangeSource) (cfg : RunPool) : Prop :=
  ∀ run ∈ cfg.threads.filterMap RunThread.commits, HonestFetch source run

/-- Every row of the page was staged as it is. -/
def StagedWhole (page : FetchedPage) : Prop :=
  ∀ table ∈ [MargTable.branches, .products, .parties, .transactions, .stocks, .vouchers,
      .saleTypes], ∀ row ∈ page.payload.inventorySection table,
    ∃ staged ∈ page.rows, staged.table = table ∧ staged.rawData = row

/-- The run began at or before the committed cursor with no page token, ended with complete data
and a datetime, and staged every row it fetched. -/
structure SafeToCommit (source : ChangeSource) (run : SyncRun) : Prop where
  begins : run.start.index = 0 ∧ NotAfter (source.cursorInstant run.start.datetime)
    (source.cursorInstant run.config.inventory.datetime)
  final : endsFinal run.inventoryPages = true ∧ run.inventory.datetime ≠ ""
  whole : ∀ page ∈ run.inventoryPages, StagedWhole page

def CommitsSafely (source : ChangeSource) (cfg : RunPool) : RunAction → Prop
  | .step i .succeed => ∀ run ∈ (cfg.threads[i]?.bind RunThread.commits).toList,
      SafeToCommit source run
  | _ => True

instance (cursor : Option ℤ) (change : ℤ) : Decidable (IsBefore cursor change) :=
  inferInstanceAs (Decidable (∀ instant ∈ cursor, _ < _))

instance (cursor later : Option ℤ) : Decidable (NotAfter cursor later) :=
  inferInstanceAs (Decidable (∀ instant ∈ cursor, ∃ other ∈ later, _ ≤ _))

instance (version : SourceVersion) (cursor : Option ℤ) : Decidable (version.CurrentAt cursor) :=
  inferInstanceAs (Decidable (¬ IsBefore _ _ ∧ ∀ superseded ∈ version.supersededAt, IsBefore _ _))

instance (source : ChangeSource) (run : SyncRun) : Decidable (HonestFetch source run) :=
  inferInstanceAs (Decidable (_ = _ → _ = _ → _ = _ →
    (∀ version ∈ source.versions run.configId, IsBefore _ _ → version.CurrentAt _ →
      ∃ page ∈ run.inventoryPages, _ ∈ _) ∧ NotAfter _ _ ∧ NotAfter _ _))

instance (source : ChangeSource) (cfg : RunPool) : Decidable (HonestChanges source cfg) :=
  inferInstanceAs (Decidable (∀ run ∈ _, HonestFetch source run))

instance (page : FetchedPage) : Decidable (StagedWhole page) :=
  inferInstanceAs (Decidable (∀ table ∈ _, ∀ row ∈ _, ∃ staged ∈ page.rows, _ = _ ∧ _ = _))

instance (source : ChangeSource) (run : SyncRun) : Decidable (SafeToCommit source run) :=
  decidable_of_iff
    ((run.start.index = 0 ∧ NotAfter (source.cursorInstant run.start.datetime)
        (source.cursorInstant run.config.inventory.datetime)) ∧
      (endsFinal run.inventoryPages = true ∧ run.inventory.datetime ≠ "") ∧
      ∀ page ∈ run.inventoryPages, StagedWhole page)
    ⟨fun h => ⟨h.1, h.2.1, h.2.2⟩, fun h => ⟨h.begins, h.final, h.whole⟩⟩

instance (source : ChangeSource) (cfg : RunPool) :
    (action : RunAction) → Decidable (CommitsSafely source cfg action)
  | .spawn _ => inferInstanceAs (Decidable True)
  | .env _ => inferInstanceAs (Decidable True)
  | .step _ input =>
    match input with
    | .succeed => inferInstanceAs (Decidable (∀ run ∈ _, SafeToCommit source run))
    | .fail => inferInstanceAs (Decidable True)
    | .receiveBranches _ _ => inferInstanceAs (Decidable True)
    | .receivePage _ _ => inferInstanceAs (Decidable True)
    | .replayPage _ _ => inferInstanceAs (Decidable True)
    | .settle _ => inferInstanceAs (Decidable True)

def RunThread.snapshot : RunThread → Option (Id × CursorConfig)
  | readCursor configId config _ => some (configId, config)
  | createLog configId config _ _ => some (configId, config)
  | thread => thread.running.map fun run => (run.configId, run.config)

theorem snapshot_of_running {t : RunThread} {run : SyncRun} (h : t.running = some run) :
    t.snapshot = some (run.configId, run.config) := by
  cases t <;> first | (cases h; rfl) | cases h

theorem Covers.mono {source : ChangeSource} {written rows : List StagedRow} {configId : Id}
    {config : CursorConfig} (h : Covers source written configId config) :
    Covers source (written ++ rows) configId config := by
  intro version hversion hcurrent
  obtain ⟨row, hrow, hsame⟩ := h version hversion hcurrent
  exact ⟨row, List.mem_append_left _ hrow, hsame⟩

theorem Covers.of_datetime_eq {source : ChangeSource} {written : List StagedRow} {configId : Id}
    {config config' : CursorConfig} (h : Covers source written configId config)
    (hcursor : config'.inventory.datetime = config.inventory.datetime) :
    Covers source written configId config' := by
  intro version hversion hcurrent
  rw [hcursor] at hcurrent
  exact h version hversion hcurrent

theorem mem_inventorySection {payload : MargParsedPayload} {table : MargTable} {row : MargRow}
    (h : row ∈ payload.inventorySection table) :
    table ∈ [MargTable.branches, .products, .parties, .transactions, .stocks, .vouchers,
      .saleTypes] := by
  cases table <;> first | decide | cases h

theorem NotAfter.isBefore {cursor later : Option ℤ} {change : ℤ} (h : NotAfter cursor later)
    (hlater : IsBefore later change) : IsBefore cursor change := by
  intro instant hinstant
  obtain ⟨other, hother, hle⟩ := h instant hinstant
  exact hle.trans_lt (hlater other hother)

theorem NotAfter.not_isBefore {cursor later : Option ℤ} {change : ℤ} (h : NotAfter cursor later)
    (hcursor : ¬ IsBefore cursor change) : ¬ IsBefore later change :=
  fun hlater => hcursor (h.isBefore hlater)

theorem SafeToCommit.covers {source : ChangeSource} {run : SyncRun} {written : List StagedRow}
    (h : SafeToCommit source run) (htraced : Traced run) (hhonest : HonestFetch source run)
    (hrows : ∀ page ∈ run.inventoryPages, ∀ row ∈ page.rows, row ∈ written)
    (hcovers : Covers source written run.configId run.config) {config : CursorConfig}
    (hcursor : config.inventory.datetime = run.inventory.datetime) :
    Covers source written run.configId config := by
  obtain ⟨hfetched, -, hlater⟩ := hhonest h.begins.1 h.final.1 htraced.inventory
  intro version hversion hcurrent
  rw [hcursor] at hcurrent
  by_cases hnew : IsBefore (source.cursorInstant run.start.datetime) version.changedAt
  · obtain ⟨page, hpage, hrow⟩ := hfetched version hversion hnew hcurrent
    obtain ⟨staged, hstaged, htable, hraw⟩ :=
      h.whole page hpage version.table (mem_inventorySection hrow) version.row hrow
    exact ⟨staged, hrows page hpage staged hstaged, htable, hraw⟩
  · exact hcovers version hversion ⟨h.begins.2.not_isBefore hnew,
      fun superseded hsuperseded => hlater.isBefore (hcurrent.2 superseded hsuperseded)⟩

def cursorOutline (source : ChangeSource) : Outline StagingState RunThread where
  inv s := CursorLaw source s
  asserts s t :=
    (∀ configId config, t.snapshot = some (configId, config) →
      Covers source s.written configId config) ∧
    ∀ run, t.running = some run →
      Traced run ∧ ∀ page ∈ run.inventoryPages, ∀ row ∈ page.rows, row ∈ s.written
  pair _ _ := True
  symm _ _ _ := trivial

section Obligations

variable {settings : RunSettings} {source : ChangeSource}

theorem snapshot_afterPage {outcome : PageOutcome} {terminal : Bool} {pages : ℕ} {run : SyncRun}
    {next again : RunThread} (hnext : next.running = some run) (hagain : again.running = some run)
    (h : (afterPage settings outcome terminal pages run next again).running = none) :
    (afterPage settings outcome terminal pages run next again).snapshot = none := by
  unfold afterPage at h ⊢
  split_ifs at h ⊢
  · rfl
  · rw [hnext] at h
    cases h
  · rw [hagain] at h
    cases h
  · rfl

theorem snapshot_receiveInventoryPage {run : SyncRun} {payload : MargParsedPayload}
    {outcome : PageOutcome}
    (h : (receiveInventoryPage settings run payload outcome).running = none) :
    (receiveInventoryPage settings run payload outcome).snapshot = none := by
  cases outcome with
  | failsAfter n => rfl
  | _ =>
    simp only [receiveInventoryPage] at h ⊢
    exact snapshot_afterPage rfl rfl h

theorem snapshot_receiveAccountingPage {run : SyncRun} {payload : MargParsedPayload}
    {outcome : PageOutcome}
    (h : (receiveAccountingPage settings run payload outcome).running = none) :
    (receiveAccountingPage settings run payload outcome).snapshot = none := by
  cases outcome with
  | failsAfter n => rfl
  | _ =>
    simp only [receiveAccountingPage] at h ⊢
    exact snapshot_afterPage rfl rfl h

/-- A run that stops has no config any more. -/
theorem snapshot_of_stopped {s : StagingState} {t : RunThread} {input : RunInput} {run : SyncRun}
    (ht : t.running = some run) (h : (t.advance settings s input).2.running = none) :
    (t.advance settings s input).2.snapshot = none := by
  cases t with
  | inventory other =>
    cases input with
    | receivePage payload outcome => exact snapshot_receiveInventoryPage h
    | fail => rfl
    | _ => cases h
  | accounting other =>
    cases input with
    | receivePage payload outcome => exact snapshot_receiveAccountingPage h
    | fail => rfl
    | _ => cases h
  | branches other => cases input <;> cases h
  | closeOutstandings other => cases input <;> first | rfl | cases h
  | markStock other => cases input <;> first | rfl | cases h
  | project other => cases input <;> first | rfl | cases h
  | commit other => cases input <;> first | rfl | cases h
  | _ => cases ht

/-- A thread's config is the one it had read before, or one that it reads now. -/
theorem snapshot_advance {s : StagingState} {t : RunThread} {input : RunInput} {configId : Id}
    {config : CursorConfig}
    (h : (t.advance settings s input).2.snapshot = some (configId, config)) :
    t.snapshot = some (configId, config) ∨ s.configs[configId]? = some config := by
  cases hrunning : (t.advance settings s input).2.running with
  | some run' =>
    rw [snapshot_of_running hrunning] at h
    obtain ⟨rfl, rfl⟩ := Prod.mk.inj (Option.some.inj h)
    cases runStep_advance hrunning with
    | begun configId config request recovered ht hrun =>
      subst ht hrun
      exact Or.inl rfl
    | kept run seen ht hrun =>
      have hold := snapshot_of_running ht
      subst hrun
      exact Or.inl hold
    | inventoryPage run payload ht hstages hrun =>
      subst ht hrun
      exact Or.inl rfl
    | accountingPage run payload ht hstages hrun =>
      subst ht hrun
      exact Or.inl rfl
  | none =>
    cases ht : t.running with
    | some run =>
      rw [snapshot_of_stopped ht hrunning] at h
      cases h
    | none =>
      cases t with
      | readConfig readId request =>
        cases input with
        | succeed =>
          simp only [RunThread.advance, RunThread.proceed, StagingState.stage] at h
          split at h
          · cases h
          · split_ifs at h
            · cases h
            · obtain ⟨rfl, rfl⟩ := Prod.mk.inj (Option.some.inj h)
              exact Or.inr (by assumption)
            · obtain ⟨rfl, rfl⟩ := Prod.mk.inj (Option.some.inj h)
              exact Or.inr (by assumption)
        | _ => cases h
      | readCursor readId readConfig request =>
        cases input with
        | fail => cases h
        | _ => exact Or.inl h
      | createLog readId readConfig request recovered =>
        cases input with
        | succeed =>
          simp only [RunThread.advance, RunThread.proceed, SyncRun.begin] at hrunning
          split_ifs at hrunning <;> cases hrunning
        | fail => cases h
        | _ => exact Or.inl h
      | finishLog run => cases input <;> cases h
      | failLog run => cases input <;> cases h
      | resume syncLogId request => cases input <;> cases h
      | ended => cases input <;> cases h
      | _ => cases ht

theorem written_grows {s : StagingState} {t : RunThread} {input : RunInput} {row : StagedRow}
    (h : row ∈ s.written) : row ∈ (t.advance settings s input).1.written := by
  rw [written_advance]
  exact List.mem_append_left _ h

theorem covers_advance {s : StagingState} {t : RunThread} {input : RunInput} {configId : Id}
    {config : CursorConfig} (h : Covers source s.written configId config) :
    Covers source (t.advance settings s input).1.written configId config := by
  rw [written_advance]
  exact h.mono

theorem pagesWritten_advance {s : StagingState} {t : RunThread} {input : RunInput}
    (h : ∀ run, t.running = some run →
      ∀ page ∈ run.inventoryPages, ∀ row ∈ page.rows, row ∈ s.written) {run' : SyncRun}
    (hrun' : (t.advance settings s input).2.running = some run') :
    ∀ page ∈ run'.inventoryPages, ∀ row ∈ page.rows,
      row ∈ (t.advance settings s input).1.written := by
  intro page hpage row hrow
  cases runStep_advance hrun' with
  | begun configId config request recovered ht hrun =>
    subst hrun
    cases hpage
  | kept run seen ht hrun =>
    subst hrun
    exact written_grows (h run ht page hpage row hrow)
  | inventoryPage run payload ht hstages hrun =>
    subst hrun
    rcases List.mem_append.1 hpage with hold | hnew
    · exact written_grows (h run (by rw [ht]; rfl) page hold row hrow)
    · obtain rfl := List.mem_singleton.1 hnew
      rw [written_advance, hstages]
      exact List.mem_append_right _ hrow
  | accountingPage run payload ht hstages hrun =>
    subst hrun
    exact written_grows (h run (by rw [ht]; rfl) page hpage row hrow)

theorem cursorLaw_advance {s : StagingState} {t : RunThread} {input : RunInput}
    (hlaw : CursorLaw source s)
    (hcovers : ∀ configId config, t.snapshot = some (configId, config) →
      Covers source s.written configId config)
    (hrun : ∀ run, t.running = some run →
      Traced run ∧ ∀ page ∈ run.inventoryPages, ∀ row ∈ page.rows, row ∈ s.written)
    (hgood : input = .succeed → ∀ run, t.commits = some run →
      HonestFetch source run ∧ SafeToCommit source run) :
    CursorLaw source (t.advance settings s input).1 := by
  intro configId config hconfig
  apply covers_advance
  rcases configs_advance settings s t input with
    hsame | ⟨run, hinput, ht, hcommits, hconfigs⟩
  · rw [hsame] at hconfig
    exact hlaw configId config hconfig
  · rw [hconfigs] at hconfig
    obtain ⟨old, hold, rfl⟩ := RowTable.exists_of_getElem?_modify s.configs _ hconfig
    by_cases hid : run.configId = configId
    · by_cases hinventory : run.request.runsInventory = true
      · subst ht
        obtain ⟨hhonest, hsafe⟩ :=
          hgood hinput run (by simp [RunThread.commits, hcommits, hinventory])
        obtain ⟨htraced, hrows⟩ := hrun run rfl
        have hmine := hcovers run.configId run.config rfl
        subst hid
        refine hsafe.covers htraced hhonest hrows hmine ?_
        rw [if_pos rfl]
        simp only [hinventory, if_true, hsafe.final.2, if_false]
      · refine (hlaw configId old hold).of_datetime_eq ?_
        rw [if_pos hid]
        simp only [hinventory, Bool.false_eq_true, if_false]
    · rw [if_neg hid]
      exact hlaw configId old hold

/-- What a run is assumed to keep. -/
def cursorGood (source : ChangeSource) (cfg : RunPool) (action : RunAction) : Prop :=
  HonestChanges source cfg ∧ CommitsSafely source cfg action

theorem cursorOutline_startOk :
    (cursorOutline source).StartOk (runProgram settings) (cursorGood source) := by
  intro cfg call t hholds hgood hstart
  have hnone := running_of_start hstart
  refine ⟨⟨fun configId config h => ?_, fun run h => ?_⟩, fun _ _ _ => trivial⟩
  · cases call with
    | runSync id request =>
      obtain rfl := Option.some.inj hstart
      cases h
    | resumeSync syncLogId =>
      simp only [runProgram, RunCall.start] at hstart
      split at hstart
      · split_ifs at hstart
        obtain rfl := Option.some.inj hstart
        cases h
      · cases hstart
  · rw [hnone] at h
    cases h

theorem cursorOutline_stepOk :
    (cursorOutline source).StepOk (runProgram settings) (cursorGood source) := by
  intro cfg i input t hholds hgood ht
  obtain ⟨hcovers, hrun⟩ := hholds.asserts i t ht
  refine ⟨cursorLaw_advance hholds.inv hcovers hrun ?_, ⟨fun configId config h => ?_,
    fun run' h => ⟨Traced.runStep (fun run hr => (hrun run hr).1) (runStep_advance h),
      pagesWritten_advance (fun run hr => (hrun run hr).2) h⟩⟩,
    fun j u hj hu => ⟨⟨fun configId config h => ?_, fun run h => ?_⟩, trivial⟩⟩
  · rintro rfl run hcommits
    exact ⟨hgood.1 run (List.mem_filterMap.2 ⟨t, List.mem_of_getElem? ht, hcommits⟩),
      hgood.2 run (by rw [ht, Option.bind_some, hcommits]; exact List.mem_singleton_self _)⟩
  · apply covers_advance
    rcases snapshot_advance h with hold | hread
    · exact hcovers configId config hold
    · exact hholds.inv configId config hread
  · exact covers_advance ((hholds.asserts j u hu).1 configId config h)
  · obtain ⟨htraced, hrows⟩ := (hholds.asserts j u hu).2 run h
    exact ⟨htraced, fun page hpage row hrow => written_grows (hrows page hpage row hrow)⟩

theorem cursorOutline_envOk :
    (cursorOutline source).EnvOk (runProgram settings) (cursorGood source) :=
  fun _ _ hholds _ => ⟨hholds.inv, fun i t ht => hholds.asserts i t ht⟩

end Obligations

/-- In every run whose commits are safe, the committed inventory cursor of a config passes no
version that was not staged. -/
theorem cursorLaw_of_commitsSafely (settings : RunSettings) (source : ChangeSource)
    (s : StagingState) (hlaw : CursorLaw source s) (actions : List RunAction)
    (h : Always (runProgram settings).next (fun cfg action => HonestChanges source cfg ∧
      CommitsSafely source cfg action) ⟨s, []⟩ actions) (k : ℕ) :
    CursorLaw source (stateAt (runProgram settings).next ⟨s, []⟩ actions k).shared := by
  have hholds := Always.invariant_at (I := (cursorOutline source).Holds)
    (fun cfg action hholds hgood => hholds.next cursorOutline_startOk cursorOutline_stepOk
      cursorOutline_envOk hgood)
    (Outline.holds_initial hlaw) h k
  exact hholds.inv

/-- A sale of a product, staged as a transaction line. -/
def saleLine (id : ℤ) (date : String) : MargRow :=
  ⟨[("CompanyID", .number 1 "1"), ("ID", .number id (toString id)), ("Voucher", .text "S1"),
    ("Date", .text date)]⟩

def pageWithSale (id : ℤ) (date dateTime : String) : MargParsedPayload :=
  { details := [saleLine id date], dataStatus := 10, dateTime := dateTime }

/-- Dates of one month stand for their day; an earlier line was changed on the twelfth. -/
def changesOfMarch : ChangeSource where
  instant text :=
    if text = "2026-03-08 10:00:00" then 8 else if text = "2026-03-20 10:00:00" then 20 else 1
  versions _ :=
    [⟨.transactions, saleLine 1 "2026-03-02", 2, some 12⟩,
      ⟨.transactions, saleLine 1 "2026-02-15", 12, none⟩]

/-- A full or windowed run of the only config by thread `i`; a config with a cursor looks up no
other. -/
def runWithSale (i : ℕ) (request : SyncRequest) (fresh : Bool) (page : MargParsedPayload) :
    List RunAction :=
  .spawn (.runSync 0 request) :: (if fresh then [.step i .succeed] else []) ++
    [.step i .succeed, .step i .succeed, .step i .fail, .step i (.receivePage page .staged),
      .step i (.receivePage { dataStatus := 10, dateTime := page.dateTime } .staged),
      .step i .succeed, .step i .succeed, .step i .succeed, .step i .succeed, .step i .succeed]

def oneConfig : StagingState := { now := 0, configs := [{ companyCode := "A" }] }

def fullThenIncremental : List RunAction :=
  runWithSale 0 {} true (pageWithSale 1 "2026-03-02" "2026-03-08 10:00:00") ++
    runWithSale 1 {} false (pageWithSale 1 "2026-02-15" "2026-03-20 10:00:00")

theorem cursorLaw_oneConfig (source : ChangeSource) : CursorLaw source oneConfig := by
  intro configId config hconfig version hversion hcurrent
  obtain rfl : config = { companyCode := "A" } := by
    rcases configId with _ | configId
    · exact (Option.some.inj hconfig).symm
    · cases hconfig
  exact absurd (fun instant h => by cases h) hcurrent.1

theorem cursorLaw_fullThenIncremental :
    CursorLaw changesOfMarch (stateAt (runProgram fiveHundredPages).next ⟨oneConfig, []⟩
      fullThenIncremental fullThenIncremental.length).shared :=
  cursorLaw_of_commitsSafely fiveHundredPages changesOfMarch oneConfig
    (cursorLaw_oneConfig changesOfMarch) fullThenIncremental (by decide +kernel)
    fullThenIncremental.length

def fullThenWindowed : List RunAction :=
  runWithSale 0 {} true (pageWithSale 1 "2026-03-02" "2026-03-08 10:00:00") ++
    runWithSale 1 { fromDate := some "2026-03-01" } false
      (pageWithSale 1 "2026-02-15" "2026-03-20 10:00:00")

/-- A run with a fromDate drops a changed line of an earlier date and commits a cursor past it. -/
theorem not_cursorLaw_fullThenWindowed :
    Always (runProgram fiveHundredPages).next (fun cfg _ => HonestChanges changesOfMarch cfg)
      ⟨oneConfig, []⟩ fullThenWindowed ∧
    ¬ CursorLaw changesOfMarch (run (runProgram fiveHundredPages).next ⟨oneConfig, []⟩
      fullThenWindowed).shared := by
  refine ⟨by decide +kernel, fun h => ?_⟩
  have hcursor : (run (runProgram fiveHundredPages).next ⟨oneConfig, []⟩
      fullThenWindowed).shared.configs =
      [⟨"A", 0, ⟨0, "2026-03-20 10:00:00"⟩, ⟨0, "2026-03-20 10:00:00"⟩⟩] := by decide +kernel
  have hwritten : (run (runProgram fiveHundredPages).next ⟨oneConfig, []⟩
      fullThenWindowed).shared.written.map StagedRow.rawData = [saleLine 1 "2026-03-02"] := by
    decide +kernel
  obtain ⟨row, hrow, -, hraw⟩ := h 0 _ (by rw [hcursor]; rfl)
    ⟨.transactions, saleLine 1 "2026-02-15", 12, none⟩ (List.mem_cons_of_mem _ List.mem_cons_self)
    (by decide +kernel)
  have hmem := List.mem_map_of_mem (f := StagedRow.rawData) hrow
  rw [hwritten, hraw] at hmem
  revert hmem
  decide

end Forecast
