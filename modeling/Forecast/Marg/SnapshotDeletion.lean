import Forecast.Marg.FetchTrace

/-!
# Rows are marked deleted only by a complete snapshot

A run marks every row of the tenant that it has not seen. That is right when the
run started without a cursor, ended with a page that says the data are complete,
serves the companies of all rows it marks, and was the last to write what it staged.
-/

open KeyedTable Runs ThreadPool

namespace Forecast

/-- What the source holds. -/
structure MargSource where
  /-- The companies of a company code. -/
  companies : String → List ℤ
  /-- The stock and outstanding rows that stay in the source while the run of a log fetches. -/
  present : Id → List StagedKey

def MargSource.covers (source : MargSource) (config : CursorConfig) (company : ℤ) : Prop :=
  company ∈ source.companies config.companyCode ∧
    (config.companyId = 0 ∨ config.companyId = company)

instance (source : MargSource) (config : CursorConfig) (company : ℤ) :
    Decidable (source.covers config company) :=
  inferInstanceAs (Decidable (_ ∧ (_ ∨ _)))

/-- The tables whose unseen rows are marked. -/
def MargTable.isTracked (table : MargTable) : Bool :=
  table == .stocks || table == .outstandings

def SyncRun.pagesOf (run : SyncRun) (table : MargTable) : List FetchedPage :=
  if table = .outstandings then run.accountingPages else run.inventoryPages

def MargParsedPayload.trackedSection (payload : MargParsedPayload) (table : MargTable) :
    List MargRow :=
  if table = .outstandings then payload.outstanding else payload.stock

/-- The key that a row of the source has, whether or not it passes the checks. -/
def trackedKey (table : MargTable) (row : MargRow) : StagedKey :=
  if table = .outstandings then (table, row.companyId, [toString (row.get "ID").toBigInt])
  else
    let batch := (row.get "Batch").trimmed
    (table, row.companyId, [(row.get "PID").trimmed, if batch = "" then "_default" else batch])

/-- The pages run from the index 0 and the empty datetime to a page that says it is the last. -/
structure IsSnapshot (pages : List FetchedPage) : Prop where
  consecutive : (follow {} pages).isSome = true
  final : endsFinal pages = true

instance (pages : List FetchedPage) : Decidable (IsSnapshot pages) :=
  decidable_of_iff ((follow {} pages).isSome = true ∧ endsFinal pages = true)
    ⟨fun h => ⟨h.1, h.2⟩, fun h => ⟨h.consecutive, h.final⟩⟩

def snapshotKeys (table : MargTable) (pages : List FetchedPage) : List StagedKey :=
  pages.flatMap fun page => (page.payload.trackedSection table).map (trackedKey table)

/-- What Marg documents: the pages of a snapshot hold every row of the companies asked for that
stays in the source. -/
def HonestSnapshot (source : MargSource) (run : SyncRun) (table : MargTable) : Prop :=
  IsSnapshot (run.pagesOf table) → ∀ key ∈ source.present run.syncLogId, key.1 = table →
    source.covers run.config key.2.1 → key ∈ snapshotKeys table (run.pagesOf table)

instance (source : MargSource) (run : SyncRun) (table : MargTable) :
    Decidable (HonestSnapshot source run table) :=
  inferInstanceAs (Decidable (IsSnapshot _ → ∀ key ∈ _, _ → _ → _ ∈ _))

def HonestSource (source : MargSource) (cfg : RunPool) : Prop :=
  ∀ run ∈ cfg.threads.filterMap RunThread.unmarked,
    HonestSnapshot source run .stocks ∧ HonestSnapshot source run .outstandings

/-- A row that the action marks deleted was not in a complete snapshot of its company. -/
def MarksOnlyGone (settings : RunSettings) (source : MargSource) (cfg : RunPool)
    (action : RunAction) : Prop :=
  ∀ row ∈ cfg.shared.staged, row.sourceDeleted = false →
    ∀ row' ∈ ((runProgram settings).next cfg action).shared.staged, row'.rowKey = row.rowKey →
      row'.sourceDeleted = true →
      ∃ i run, action = .step i .succeed ∧
        cfg.threads[i]?.bind (RunThread.marks settings) = some (row.table, run) ∧
        IsSnapshot (run.pagesOf row.table) ∧ source.covers run.config row.companyId ∧
        row.rowKey ∉ source.present run.syncLogId

/-- No cursor was recovered, the fetch ended with complete data, every row to be marked is of a
company that the config serves, and every fetched row with the key of a staged one was staged. -/
structure SafeToMark (source : MargSource) (s : StagingState) (table : MargTable)
    (run : SyncRun) : Prop where
  clean : (run.pagesOf table).head?.map FetchedPage.cursor = some {}
  final : endsFinal (run.pagesOf table) = true
  served : ∀ row ∈ s.staged, row.table = table → row.sourceDeleted = false →
    row.lastSeenSyncLogId ≠ some run.syncLogId → source.covers run.config row.companyId
  kept : ∀ page ∈ run.pagesOf table, ∀ row ∈ page.payload.trackedSection table,
    trackedKey table row ∈ s.staged.map StagedRow.rowKey →
    trackedKey table row ∈ page.rows.map StagedRow.rowKey

instance (source : MargSource) (s : StagingState) (table : MargTable) (run : SyncRun) :
    Decidable (SafeToMark source s table run) :=
  decidable_of_iff
    (((run.pagesOf table).head?.map FetchedPage.cursor = some {} ∧
        endsFinal (run.pagesOf table) = true) ∧
      (∀ row ∈ s.staged, row.table = table → row.sourceDeleted = false →
        row.lastSeenSyncLogId ≠ some run.syncLogId → source.covers run.config row.companyId) ∧
      ∀ page ∈ run.pagesOf table, ∀ row ∈ page.payload.trackedSection table,
        trackedKey table row ∈ s.staged.map StagedRow.rowKey →
        trackedKey table row ∈ page.rows.map StagedRow.rowKey)
    ⟨fun h => ⟨h.1.1, h.1.2, h.2.1, h.2.2⟩, fun h => ⟨⟨h.clean, h.final⟩, h.served, h.kept⟩⟩

def SyncRun.seenKeys (run : SyncRun) : List StagedKey :=
  (((run.inventoryPages ++ run.accountingPages).flatMap FetchedPage.rows).filter fun row =>
    row.table.isTracked).map StagedRow.rowKey

def othersSeen (cfg : RunPool) (i : ℕ) : List StagedKey :=
  ((cfg.threads.eraseIdx i).filterMap RunThread.unmarked).flatMap SyncRun.seenKeys

/-- No row that another run may still mark by is written over; what is marked is safe to mark. -/
def KeepsSnapshots (settings : RunSettings) (source : MargSource) (cfg : RunPool) :
    RunAction → Prop
  | .step i input =>
    (∀ row ∈ (cfg.threads[i]?.map fun t => t.stages settings cfg.shared input).getD [],
      row.rowKey ∉ othersSeen cfg i) ∧
    ∀ marked ∈ (cfg.threads[i]?.bind (RunThread.marks settings)).toList, input = .succeed →
      SafeToMark source cfg.shared marked.1 marked.2
  | _ => True

instance (source : MargSource) (cfg : RunPool) : Decidable (HonestSource source cfg) :=
  inferInstanceAs (Decidable (∀ run ∈ cfg.threads.filterMap RunThread.unmarked,
    HonestSnapshot source run .stocks ∧ HonestSnapshot source run .outstandings))

instance (settings : RunSettings) (source : MargSource) (cfg : RunPool) :
    (action : RunAction) → Decidable (KeepsSnapshots settings source cfg action)
  | .step _ _ => inferInstanceAs (Decidable ((∀ row ∈ _, _) ∧ ∀ marked ∈ _, _))
  | .spawn _ => inferInstanceAs (Decidable True)
  | .env _ => inferInstanceAs (Decidable True)

section Seen

/-- The rows with these keys were last written by the sync of this log. -/
def SeenBy (staged : List StagedRow) (syncLogId : Id) (keys : List StagedKey) : Prop :=
  ∀ key ∈ keys, ∃ row ∈ staged, row.rowKey = key ∧ row.lastSeenSyncLogId = some syncLogId

variable {s : StagingState} {syncLogId : Id} {keys : List StagedKey}

theorem SeenBy.stage_apart {rows : List StagedRow} (h : SeenBy s.staged syncLogId keys)
    (hapart : ∀ row ∈ rows, row.rowKey ∉ keys) : SeenBy (s.stage rows).staged syncLogId keys := by
  intro key hkey
  obtain ⟨row, hrow, rfl, hseen⟩ := h key hkey
  refine ⟨row, mem_upsertAll_of_not_mem_keys hrow fun hmem => ?_, rfl, hseen⟩
  obtain ⟨other, hother, hsame⟩ := List.mem_map.1 hmem
  exact hapart other hother (hsame ▸ hkey)

theorem SeenBy.stage_own {rows : List StagedRow} (h : SeenBy s.staged syncLogId keys)
    (hunique : (s.staged.map StagedRow.rowKey).Nodup)
    (hrows : ∀ row ∈ rows, row.table.isTracked = true → row.lastSeenSyncLogId = some syncLogId)
    (hkeys : ∀ key ∈ keys, key.1.isTracked = true) :
    SeenBy (s.stage rows).staged syncLogId
      (keys ++ (rows.filter fun row => row.table.isTracked).map StagedRow.rowKey) := by
  have hwritten : ∀ key : StagedKey, key.1.isTracked = true → key ∈ rows.map StagedRow.rowKey →
      ∃ row ∈ (s.stage rows).staged, row.rowKey = key ∧ row.lastSeenSyncLogId = some syncLogId := by
    intro key htracked hkey
    have hmem : key ∈ (s.stage rows).staged.map StagedRow.rowKey :=
      mem_keys_upsertAll.2 (Or.inr hkey)
    obtain ⟨row, hrow, rfl⟩ := List.mem_map.1 hmem
    exact ⟨row, hrow, rfl, hrows row (mem_of_mem_upsertAll hunique hrow hkey) htracked⟩
  intro key hkey
  rcases List.mem_append.1 hkey with hold | hnew
  · by_cases hkey' : key ∈ rows.map StagedRow.rowKey
    · exact hwritten key (hkeys key hold) hkey'
    · obtain ⟨row, hrow, rfl, hseen⟩ := h key hold
      exact ⟨row, mem_upsertAll_of_not_mem_keys hrow hkey', rfl, hseen⟩
  · obtain ⟨row, hrow, rfl⟩ := List.mem_map.1 hnew
    rw [List.mem_filter] at hrow
    exact hwritten _ hrow.2 (List.mem_map_of_mem hrow.1)

theorem SeenBy.markUnseen (h : SeenBy s.staged syncLogId keys) (table : MargTable) (other : Id) :
    SeenBy (s.markUnseen table other).staged syncLogId keys := by
  intro key hkey
  obtain ⟨row, hrow, rfl, hseen⟩ := h key hkey
  refine ⟨_, List.mem_map_of_mem hrow, ?_, ?_⟩
  · split_ifs <;> rfl
  · split_ifs <;> exact hseen

theorem keys_markUnseen (table : MargTable) (other : Id) :
    (s.markUnseen table other).staged.map StagedRow.rowKey = s.staged.map StagedRow.rowKey := by
  simp only [StagingState.markUnseen, List.map_map]
  refine List.map_congr_left fun row _ => ?_
  simp only [Function.comp_apply]
  split_ifs <;> rfl

theorem SeenBy.subset {keys' : List StagedKey} (h : SeenBy s.staged syncLogId keys)
    (hsubset : ∀ key ∈ keys', key ∈ keys) : SeenBy s.staged syncLogId keys' :=
  fun key hkey => h key (hsubset key hkey)

end Seen

/-- A live row that, in a table whose unseen rows are marked, names the sync that wrote it. -/
def WrittenBy (syncLogId : Id) (row : StagedRow) : Prop :=
  row.sourceDeleted = false ∧ (row.table.isTracked = true → row.lastSeenSyncLogId = some syncLogId)

section Written

variable {platform : Platform} {window : Option DateWindow} {syncLogId : Id}
  {payload : MargParsedPayload} {row : StagedRow}

theorem writtenBy_of_mem_stageLast {table : MargTable} {lastSeen : Option Id}
    {prepare : MargRow → Option PreparedRow} {rows : List MargRow}
    (h : row ∈ stageLast table lastSeen prepare rows)
    (htable : table.isTracked = false ∨ lastSeen = some syncLogId) : WrittenBy syncLogId row := by
  obtain ⟨prepared, -, rfl⟩ := List.mem_map.1 h
  refine ⟨rfl, fun htracked => ?_⟩
  rcases htable with hnot | hseen
  · exact absurd (hnot.symm.trans htracked) (by decide)
  · exact hseen

theorem writtenBy_of_mem_syncTransactions {rows : List MargRow}
    (h : row ∈ syncTransactions platform window rows) : WrittenBy syncLogId row := by
  obtain ⟨prepared, -, rfl⟩ := List.mem_map.1 h
  exact ⟨rfl, fun htracked => by cases htracked⟩

theorem writtenBy_of_mem_stageInventoryPage {done : Bool} {seen : List ℤ}
    (h : row ∈ stageInventoryPage platform window syncLogId done seen payload) :
    WrittenBy syncLogId row := by
  simp only [mem_stageInventoryPage, sharedInventorySections, List.mem_append] at h
  rcases h with h | h | (((h | h) | h) | h) | h
  · exact writtenBy_of_mem_stageLast h (Or.inl rfl)
  · cases done with
    | true => exact writtenBy_of_mem_stageLast h (Or.inr rfl)
    | false => cases h
  · exact writtenBy_of_mem_stageLast h (Or.inl rfl)
  · exact writtenBy_of_mem_stageLast h (Or.inl rfl)
  · exact writtenBy_of_mem_syncTransactions h
  · exact writtenBy_of_mem_stageLast h (Or.inl rfl)
  · exact writtenBy_of_mem_stageLast h (Or.inl rfl)

theorem writtenBy_of_mem_stageAccountingPage {inventory : Bool}
    (h : row ∈ stageAccountingPage platform window syncLogId inventory payload) :
    WrittenBy syncLogId row := by
  simp only [mem_stageAccountingPage, sharedAccountingSections, List.mem_append] at h
  rcases h with h | (((h | h) | h) | h) | h
  · cases inventory with
    | true => cases h
    | false => exact writtenBy_of_mem_stageLast h (Or.inl rfl)
  · exact writtenBy_of_mem_stageLast h (Or.inl rfl)
  · exact writtenBy_of_mem_stageLast h (Or.inl rfl)
  · exact writtenBy_of_mem_stageLast h (Or.inl rfl)
  · exact writtenBy_of_mem_stageLast h (Or.inl rfl)
  · exact writtenBy_of_mem_stageLast h (Or.inr rfl)

theorem writtenBy_of_mem_stageRows {run : SyncRun} {apiType : ApiType}
    (h : row ∈ run.stageRows platform apiType payload) : WrittenBy run.syncLogId row := by
  cases apiType with
  | inventory => exact writtenBy_of_mem_stageInventoryPage h
  | accounting => exact writtenBy_of_mem_stageAccountingPage h

theorem mem_of_mem_written {outcome : PageOutcome} {rows : List StagedRow}
    (h : row ∈ outcome.written rows) : row ∈ rows := by
  cases outcome with
  | failsAfter n => exact List.mem_of_mem_take h
  | _ => exact h

end Written

theorem writtenBy_of_mem_stages {settings : RunSettings} {s : StagingState} {t : RunThread}
    {input : RunInput} {row : StagedRow} (h : row ∈ t.stages settings s input) :
    row.sourceDeleted = false ∧ ∀ run, t.running = some run → WrittenBy run.syncLogId row := by
  have hrun : ∀ {run : SyncRun}, t.running = some run → WrittenBy run.syncLogId row →
      row.sourceDeleted = false ∧ ∀ run, t.running = some run → WrittenBy run.syncLogId row := by
    intro run ht hwritten
    refine ⟨hwritten.1, fun other hother => ?_⟩
    obtain rfl := Option.some.inj (ht.symm.trans hother)
    exact hwritten
  cases t with
  | branches run =>
    cases input with
    | receiveBranches rows staged =>
      cases staged with
      | true => exact hrun rfl (writtenBy_of_mem_stageLast h (Or.inl rfl))
      | false => cases h
    | _ => cases h
  | inventory run =>
    cases input with
    | receivePage payload outcome =>
      exact hrun rfl (writtenBy_of_mem_stageRows (mem_of_mem_written h))
    | _ => cases h
  | accounting run =>
    cases input with
    | receivePage payload outcome =>
      exact hrun rfl (writtenBy_of_mem_stageRows (mem_of_mem_written h))
    | _ => cases h
  | resume syncLogId request =>
    refine ⟨?_, fun run hrun => by cases hrun⟩
    cases input with
    | replayPage page outcome =>
      simp only [RunThread.stages] at h
      split at h
      · split_ifs at h
        · replace h := mem_of_mem_written h
          rw [replayStagingForPage_eq] at h
          split at h
          · exact (writtenBy_of_mem_stageInventoryPage h).1
          · exact (writtenBy_of_mem_stageAccountingPage h).1
        · cases h
      · cases h
    | _ => cases h
  | _ => cases input <;> cases h

theorem isTracked_of_mem_seenKeys {run : SyncRun} {key : StagedKey} (h : key ∈ run.seenKeys) :
    key.1.isTracked = true := by
  obtain ⟨row, hrow, rfl⟩ := List.mem_map.1 h
  exact (List.mem_filter.1 hrow).2

theorem mem_seenKeys_afterPage (run run' : SyncRun) {page : FetchedPage}
    (hpages : run'.inventoryPages = run.inventoryPages ++ [page] ∧
        run'.accountingPages = run.accountingPages ∨
      run'.inventoryPages = run.inventoryPages ∧
        run'.accountingPages = run.accountingPages ++ [page]) {key : StagedKey}
    (h : key ∈ run'.seenKeys) :
    key ∈ run.seenKeys ++
      (page.rows.filter fun row => row.table.isTracked).map StagedRow.rowKey := by
  rcases hpages with ⟨hinventory, haccounting⟩ | ⟨hinventory, haccounting⟩
  · simp only [SyncRun.seenKeys, hinventory, haccounting, List.flatMap_append, List.filter_append,
      List.map_append, List.mem_append, List.flatMap_cons, List.flatMap_nil, List.append_nil] at h ⊢
    tauto
  · simp only [SyncRun.seenKeys, hinventory, haccounting, List.flatMap_append, List.filter_append,
      List.map_append, List.mem_append, List.flatMap_cons, List.flatMap_nil, List.append_nil] at h ⊢
    tauto

/-- A run that has committed, or is about to, marks no more. -/
theorem unmarked_of_advance {settings : RunSettings} {s : StagingState} {t : RunThread}
    {input : RunInput} {run run' : SyncRun} (ht : t.running = some run)
    (h : (t.advance settings s input).2.unmarked = some run') : t.unmarked = some run := by
  cases t with
  | project other => cases input <;> cases h
  | commit other => cases input <;> cases h
  | _ => exact ht

/-- Through every step a run's pages stay consecutive, and what it staged stays its own. -/
def snapshotOutline : Outline StagingState RunThread where
  inv s := (s.staged.map StagedRow.rowKey).Nodup
  asserts s t := (∀ run, t.running = some run → Traced run) ∧
    ∀ run, t.unmarked = some run → SeenBy s.staged run.syncLogId run.seenKeys
  pair _ _ := True
  symm _ _ _ := trivial

section Obligations

variable {settings : RunSettings} {source : MargSource}

theorem nodup_staged_advance {s : StagingState} {t : RunThread} {input : RunInput}
    (hunique : (s.staged.map StagedRow.rowKey).Nodup) :
    ((t.advance settings s input).1.staged.map StagedRow.rowKey).Nodup := by
  rcases staged_advance settings s t input with
    hstaged | ⟨table, run, -, -, hstaged⟩
  · rw [hstaged]
    exact nodup_keys_upsertAll hunique
  · rw [hstaged, keys_markUnseen]
    exact hunique

theorem seenBy_own_advance {s : StagingState} {t : RunThread} {input : RunInput}
    (hunique : (s.staged.map StagedRow.rowKey).Nodup)
    (hseen : ∀ run, t.unmarked = some run → SeenBy s.staged run.syncLogId run.seenKeys)
    {run' : SyncRun} (h : (t.advance settings s input).2.unmarked = some run') :
    SeenBy (t.advance settings s input).1.staged run'.syncLogId run'.seenKeys := by
  -- what the thread had staged, with the rows of this step
  have hgrown : ∀ {run : SyncRun}, t.running = some run →
      SeenBy (s.stage (t.stages settings s input)).staged run.syncLogId
        (run.seenKeys ++ ((t.stages settings s input).filter fun row =>
          row.table.isTracked).map StagedRow.rowKey) := by
    intro run ht
    exact (hseen run (unmarked_of_advance ht h)).stage_own hunique
      (fun row hrow => ((writtenBy_of_mem_stages hrow).2 run ht).2)
      fun key => isTracked_of_mem_seenKeys
  have hpage : ∀ run : SyncRun, t.running = some run →
      run'.syncLogId = run.syncLogId → (∀ key ∈ run'.seenKeys, key ∈ run.seenKeys ++
        ((t.stages settings s input).filter fun row => row.table.isTracked).map
          StagedRow.rowKey) →
      t.marks settings = none →
      SeenBy (t.advance settings s input).1.staged run'.syncLogId run'.seenKeys := by
    intro run ht hlog hkeys hmarks
    rcases staged_advance settings s t input with
      hstaged | ⟨table, marked, -, hsome, -⟩
    · rw [hstaged, hlog]
      exact (hgrown ht).subset hkeys
    · rw [hmarks] at hsome
      cases hsome
  cases runStep_advance (running_of_unmarked h) with
  | begun configId config request recovered ht hrun =>
    subst hrun
    intro key hkey
    cases hkey
  | kept run seen ht hrun =>
    subst hrun
    rcases staged_advance settings s t input with
      hstaged | ⟨table, marked, -, -, hstaged⟩
    · rw [hstaged]
      exact (hgrown ht).subset fun key hkey => List.mem_append_left _ hkey
    · rw [hstaged]
      exact (hseen run (unmarked_of_advance ht h)).markUnseen table marked.syncLogId
  | inventoryPage run payload ht hstages hrun =>
    subst hrun
    refine hpage run (by rw [ht]; rfl) rfl (fun key hkey => ?_) (by rw [ht]; rfl)
    rw [hstages]
    exact mem_seenKeys_afterPage run (run.afterInventoryPage settings.platform payload)
      (Or.inl ⟨rfl, rfl⟩) hkey
  | accountingPage run payload ht hstages hrun =>
    subst hrun
    refine hpage run (by rw [ht]; rfl) rfl (fun key hkey => ?_) (by rw [ht]; rfl)
    rw [hstages]
    exact mem_seenKeys_afterPage run (run.afterAccountingPage settings.platform payload)
      (Or.inr ⟨rfl, rfl⟩) hkey

theorem mem_othersSeen {cfg : RunPool} {i j : ℕ} {u : RunThread} {run : SyncRun} (hj : j ≠ i)
    (hu : cfg.threads[j]? = some u) (hrun : u.unmarked = some run) {key : StagedKey}
    (h : key ∈ run.seenKeys) : key ∈ othersSeen cfg i :=
  List.mem_flatMap.2 ⟨run, List.mem_filterMap.2
    ⟨u, List.mem_eraseIdx_iff_getElem?.2 ⟨j, hj, hu⟩, hrun⟩, h⟩

theorem running_of_start {s : StagingState} {call : RunCall} {t : RunThread}
    (h : call.start s = some t) : t.running = none := by
  cases call with
  | runSync configId request =>
    obtain rfl := Option.some.inj h
    rfl
  | resumeSync syncLogId =>
    simp only [RunCall.start] at h
    split at h
    · split_ifs at h
      obtain rfl := Option.some.inj h
      rfl
    · cases h

theorem snapshotOutline_startOk (G : RunPool → RunAction → Prop) :
    snapshotOutline.StartOk (runProgram settings) G := by
  intro cfg call t hholds hgood hstart
  have hnone := running_of_start hstart
  refine ⟨⟨fun run h => ?_, fun run h => ?_⟩, fun _ _ _ => trivial⟩
  · rw [hnone] at h
    cases h
  · rw [running_of_unmarked h] at hnone
    cases hnone

theorem snapshotOutline_stepOk :
    snapshotOutline.StepOk (runProgram settings) (KeepsSnapshots settings source) := by
  intro cfg i input t hholds hgood ht
  obtain ⟨htraced, hseen⟩ := hholds.asserts i t ht
  refine ⟨nodup_staged_advance hholds.inv, ⟨fun run' h => Traced.runStep htraced (runStep_advance h),
    fun run' h => seenBy_own_advance hholds.inv hseen h⟩, fun j u hj hu => ⟨⟨?_, ?_⟩, trivial⟩⟩
  · exact (hholds.asserts j u hu).1
  · intro run hrun
    have hother := (hholds.asserts j u hu).2 run hrun
    change SeenBy (t.advance settings cfg.shared input).1.staged _ _
    rcases staged_advance settings cfg.shared t input with
      hstaged | ⟨table, marked, -, -, hstaged⟩
    · rw [hstaged]
      refine hother.stage_apart fun row hrow hkey => ?_
      refine hgood.1 row ?_ (mem_othersSeen hj hu hrun hkey)
      rw [ht]
      exact hrow
    · rw [hstaged]
      exact hother.markUnseen table marked.syncLogId

theorem snapshotOutline_envOk (G : RunPool → RunAction → Prop) :
    snapshotOutline.EnvOk (runProgram settings) G :=
  fun _ _ hholds _ => ⟨hholds.inv, fun i t ht => hholds.asserts i t ht⟩

end Obligations

theorem marked_of_advance {settings : RunSettings} {s : StagingState} {t : RunThread}
    {input : RunInput} (hunique : (s.staged.map StagedRow.rowKey).Nodup) {row row' : StagedRow}
    (hrow : row ∈ s.staged) (hlive : row.sourceDeleted = false)
    (hrow' : row' ∈ (t.advance settings s input).1.staged) (hkey : row'.rowKey = row.rowKey)
    (hdeleted : row'.sourceDeleted = true) :
    input = .succeed ∧ ∃ run, t.marks settings = some (row.table, run) ∧
      row.lastSeenSyncLogId ≠ some run.syncLogId := by
  have hsame : ∀ other ∈ s.staged, other.rowKey = row.rowKey → other = row :=
    fun other hother hotherKey => List.inj_on_of_nodup_map hunique hother hrow hotherKey
  rcases staged_advance settings s t input with
    hstaged | ⟨table, run, hinput, hmarks, hstaged⟩
  · rw [hstaged] at hrow'
    rcases upsertAll_subset hrow' with hnew | hold
    · rw [(writtenBy_of_mem_stages hnew).1] at hdeleted
      cases hdeleted
    · rw [hsame row' hold hkey, hlive] at hdeleted
      cases hdeleted
  · rw [hstaged] at hrow'
    obtain ⟨other, hother, rfl⟩ := List.mem_map.1 hrow'
    have hotherKey : other.rowKey = row.rowKey := by
      rw [← hkey]
      split_ifs <;> rfl
    obtain rfl := hsame other hother hotherKey
    split_ifs at hdeleted with hmarked
    · exact ⟨hinput, run, by rw [hmarks, hmarked.1], hmarked.2.2⟩
    · rw [hlive] at hdeleted
      cases hdeleted

theorem unmarked_of_marks {settings : RunSettings} {t : RunThread} {table : MargTable}
    {run : SyncRun} (h : t.marks settings = some (table, run)) :
    t.unmarked = some run ∧ (table = .outstandings ∨ table = .stocks) := by
  cases t with
  | closeOutstandings other =>
    simp only [RunThread.marks] at h
    split_ifs at h
    cases h
    exact ⟨rfl, Or.inl rfl⟩
  | markStock other =>
    simp only [RunThread.marks] at h
    split_ifs at h
    cases h
    exact ⟨rfl, Or.inr rfl⟩
  | _ => cases h

theorem SafeToMark.isSnapshot {source : MargSource} {s : StagingState} {table : MargTable}
    {run : SyncRun} (h : SafeToMark source s table run) (htraced : Traced run) :
    IsSnapshot (run.pagesOf table) := by
  refine ⟨?_, h.final⟩
  have hclean := h.clean
  have hfollow : ∃ start stop, follow start (run.pagesOf table) = some stop := by
    unfold SyncRun.pagesOf
    split_ifs
    · exact ⟨_, _, htraced.accounting⟩
    · exact ⟨_, _, htraced.inventory⟩
  obtain ⟨start, stop, hfollow⟩ := hfollow
  cases hpages : run.pagesOf table with
  | nil =>
    rw [hpages] at hclean
    cases hclean
  | cons page pages =>
    rw [hpages] at hclean hfollow
    have hstart := cursor_head_of_follow hfollow
    obtain rfl : start = {} := by
      rw [← hstart]
      exact Option.some.inj hclean
    rw [hfollow]
    rfl

theorem SafeToMark.not_present {source : MargSource} {s : StagingState} {table : MargTable}
    {run : SyncRun} {row : StagedRow} (h : SafeToMark source s table run)
    (hsnapshot : IsSnapshot (run.pagesOf table)) (hhonest : HonestSnapshot source run table)
    (hseen : SeenBy s.staged run.syncLogId run.seenKeys)
    (hunique : (s.staged.map StagedRow.rowKey).Nodup) (hrow : row ∈ s.staged)
    (htable : row.table = table) (htracked : table.isTracked = true)
    (hcovers : source.covers run.config row.companyId)
    (hunseen : row.lastSeenSyncLogId ≠ some run.syncLogId) :
    row.rowKey ∉ source.present run.syncLogId := by
  intro hpresent
  have hkey := hhonest hsnapshot row.rowKey hpresent htable hcovers
  obtain ⟨page, hpage, hraw⟩ := List.mem_flatMap.1 hkey
  obtain ⟨raw, hraw, hrawKey⟩ := List.mem_map.1 hraw
  have hstaged := h.kept page hpage raw hraw (hrawKey ▸ List.mem_map_of_mem hrow)
  rw [hrawKey] at hstaged
  obtain ⟨written, hwritten, hwrittenKey⟩ := List.mem_map.1 hstaged
  have hmine : page ∈ run.inventoryPages ++ run.accountingPages := by
    unfold SyncRun.pagesOf at hpage
    split_ifs at hpage
    · exact List.mem_append_right _ hpage
    · exact List.mem_append_left _ hpage
  have hwrittenTable : written.table = table :=
    (congrArg Prod.fst hwrittenKey).trans htable
  have hseenKey : row.rowKey ∈ run.seenKeys := by
    rw [← hwrittenKey]
    refine List.mem_map_of_mem (List.mem_filter.2 ⟨List.mem_flatMap.2 ⟨page, hmine, hwritten⟩, ?_⟩)
    rw [hwrittenTable]
    exact htracked
  obtain ⟨other, hother, hotherKey, hlast⟩ := hseen row.rowKey hseenKey
  obtain rfl := List.inj_on_of_nodup_map hunique hother hrow hotherKey
  exact hunseen hlast

/-- In every run in which what is marked is safe to mark, only rows that a complete snapshot of
their company does not hold are marked deleted. -/
theorem marksOnlyGone_of_keepsSnapshots (settings : RunSettings) (source : MargSource)
    (s : StagingState) (hunique : (s.staged.map StagedRow.rowKey).Nodup)
    (actions : List RunAction)
    (h : Always (runProgram settings).next (fun cfg action => HonestSource source cfg ∧
      KeepsSnapshots settings source cfg action) ⟨s, []⟩ actions) :
    Always (runProgram settings).next (MarksOnlyGone settings source) ⟨s, []⟩ actions := by
  rw [always_iff] at h ⊢
  intro k action haction row hrow hlive row' hrow' hkey hdeleted
  obtain ⟨hhonest, hgood⟩ := h k action haction
  have hholds := Always.invariant_at (I := snapshotOutline.Holds)
    (P := fun cfg action => KeepsSnapshots settings source cfg action)
    (fun cfg action hholds hgood => hholds.next (snapshotOutline_startOk _)
      snapshotOutline_stepOk (snapshotOutline_envOk _) hgood)
    (Outline.holds_initial hunique)
    (always_iff.2 fun k action haction => (h k action haction).2) k
  set cfg := stateAt (runProgram settings).next ⟨s, []⟩ actions k
  have hkept : row' ∉ cfg.shared.staged := by
    intro hold
    rw [List.inj_on_of_nodup_map hholds.inv hold hrow hkey, hlive] at hdeleted
    cases hdeleted
  cases action with
  | spawn call =>
    refine absurd ?_ hkept
    simp only [Program.next] at hrow'
    split at hrow' <;> exact hrow'
  | env elapsed => exact absurd hrow' hkept
  | step i input =>
    cases ht : cfg.threads[i]? with
    | none =>
      rw [Program.next, ht] at hrow'
      exact absurd hrow' hkept
    | some t =>
      rw [Program.next_step _ ht] at hrow'
      obtain ⟨rfl, run, hmarks, hunseen⟩ :=
        marked_of_advance hholds.inv hrow hlive hrow' hkey hdeleted
      obtain ⟨hunmarked, htable⟩ := unmarked_of_marks hmarks
      have hbind : cfg.threads[i]?.bind (RunThread.marks settings) = some (row.table, run) := by
        rw [ht]
        exact hmarks
      have hsafe : SafeToMark source cfg.shared row.table run :=
        hgood.2 (row.table, run) (by rw [hbind]; exact List.mem_singleton_self _) rfl
      obtain ⟨htraced, hseen⟩ := hholds.asserts i t ht
      have hsnapshot := hsafe.isSnapshot (htraced run (running_of_unmarked hunmarked))
      have hcovers := hsafe.served row hrow rfl hlive hunseen
      have hrunHonest := hhonest run
        (List.mem_filterMap.2 ⟨t, List.mem_of_getElem? ht, hunmarked⟩)
      refine ⟨i, run, rfl, by rw [ht]; exact hmarks, hsnapshot, hcovers, ?_⟩
      refine hsafe.not_present hsnapshot ?_ (hseen run hunmarked) hholds.inv hrow rfl ?_
        hcovers hunseen
      · rcases htable with htable | htable
        · rw [htable]
          exact hrunHonest.2
        · rw [htable]
          exact hrunHonest.1
      · rcases htable with htable | htable <;> rw [htable] <;> rfl

def fiveHundredPages : RunSettings := ⟨asciiPlatform, 500, fun _ => "2026-03-01T00:00:00.000Z"⟩

def stockRow (company : ℤ) (pid : String) : MargRow :=
  ⟨[("CompanyID", .number company (toString company)), ("PID", .text pid), ("Batch", .text "B1")]⟩

def stockKey (company : ℤ) (pid : String) : StagedKey := (.stocks, company, [pid, "B1"])

def finalPage (stock : List MargRow) : MargParsedPayload :=
  { stock := stock, dataStatus := 10, dateTime := "2026-03-01 10:00:00" }

/-- A full run of a config by thread `i`, with one page of stock. -/
def fullRun (i : ℕ) (configId : Id) (stock : List MargRow) : List RunAction :=
  [.spawn (.runSync configId {}), .step i .succeed, .step i .succeed, .step i .succeed,
    .step i .fail, .step i (.receivePage (finalPage stock) .staged),
    .step i (.receivePage (finalPage []) .staged), .step i .succeed, .step i .succeed,
    .step i .succeed, .step i .succeed, .step i .succeed]

def twoBatches : StagingState :=
  { now := 0
    configs := [{ companyCode := "A" }]
    staged := syncStockData 7 [stockRow 1 "P1", stockRow 1 "P2"] }

def oneBatchLeft : MargSource := ⟨fun _ => [1], fun _ => [stockKey 1 "P1"]⟩

theorem marksOnlyGone_oneBatchLeft :
    Always (runProgram fiveHundredPages).next (MarksOnlyGone fiveHundredPages oneBatchLeft)
      ⟨twoBatches, []⟩ (fullRun 0 0 [stockRow 1 "P1"]) :=
  marksOnlyGone_of_keepsSnapshots fiveHundredPages oneBatchLeft twoBatches (by decide +kernel)
    (fullRun 0 0 [stockRow 1 "P1"]) (by decide +kernel)

def twoConfigs : StagingState :=
  { now := 0, configs := [{ companyCode := "A" }, { companyCode := "B" }] }

def ofTwoCompanies : MargSource :=
  { companies := fun code => if code = "A" then [1] else [2]
    present := fun _ => [stockKey 1 "P1", stockKey 2 "Q1"] }

def runOfEachConfig : List RunAction :=
  fullRun 0 1 [stockRow 2 "Q1"] ++ fullRun 1 0 [stockRow 1 "P1"]

/-- The full run of one company's config marks the stock of the other deleted. -/
theorem not_marksOnlyGone_runOfEachConfig :
    Always (runProgram fiveHundredPages).next (fun cfg _ => HonestSource ofTwoCompanies cfg)
      ⟨twoConfigs, []⟩ runOfEachConfig ∧
    ¬ Always (runProgram fiveHundredPages).next (MarksOnlyGone fiveHundredPages ofTwoCompanies)
      ⟨twoConfigs, []⟩ runOfEachConfig := by
  refine ⟨by decide +kernel, fun h => ?_⟩
  have hmarks := h.at (k := 20) (a := .step 1 .succeed) rfl
  have hconfig : ((stateAt (runProgram fiveHundredPages).next ⟨twoConfigs, []⟩ runOfEachConfig
      20).threads[1]?.bind (RunThread.marks fiveHundredPages)).map (fun marked =>
        marked.2.config) = some { companyCode := "A" } := by decide +kernel
  obtain ⟨i, run, hstep, hrun, -, hcovers, -⟩ := hmarks ⟨.stocks, 2, ["Q1", "B1"],
    stockRow 2 "Q1", some 0, false⟩ (by decide +kernel) rfl ⟨.stocks, 2, ["Q1", "B1"],
    stockRow 2 "Q1", some 0, true⟩ (by decide +kernel) rfl rfl
  cases hstep
  rw [hrun] at hconfig
  have hrunConfig : run.config = { companyCode := "A" } := Option.some.inj hconfig
  rw [hrunConfig] at hcovers
  revert hcovers
  decide

end Forecast
