import Forecast.Billing.Schema
import Forecast.Imports.ImportJob
import Forecast.Lib.Transactions
import Mathlib.Data.List.Dedup

/-!
# What a finished import has persisted

A job sends its insert statements in order, each committing by itself, until one
fails or the parser breaks off. So a FAILED job has persisted nothing only when
nothing had been sent before, and a COMPLETED one has persisted what it counts
only when no valid row overwrites another.
-/

open Batches KeyedTable

namespace Forecast.Imports

/-- The valid rows of a file, as they are inserted. -/
def RowReader.validRows (reader : RowReader) (rows : List (ℕ × ImportRecord)) :
    List ImportRecord :=
  rows.filterMap fun row =>
    if (reader.validationErrors row.2).isEmpty then some (reader.transform row.2) else none

/-- The statements that a file has to send: when it breaks off, its last batch is left out. -/
def fileStatements (reader : RowReader) (rows : Parsed (ℕ × ImportRecord)) :
    List ImportStatement :=
  (match rows.broken with
    | some _ => fullBatches batchSize [] (reader.validRows rows.rows)
    | none => slices batchSize (reader.validRows rows.rows)).flatMap
      (batchStatements reader.importType)

section Law

variable (ctx : ImportContext) (db : ImportDb) (job : ImportJob)

def validRows : List ImportRecord :=
  (rowReader ctx db job).validRows (dataRows ctx.platform job.file).rows

/-- The rows of the database that hold what the job inserted: those it appended to the actuals,
or those with the code of a valid row. -/
def persistedRows (after : ImportDb) : ℕ :=
  match job.importType.dimension? with
  | none => after.actuals.length - db.actuals.length
  | some dimension => (after.masters dimension).rows.countP fun row =>
    (validRows ctx db job).any fun r => r.get "code" == .text row.code

/-- Every valid row is in the database once: as a row of its own that was appended, or as what
the one row of its code shows. -/
def PersistedOnce (after : ImportDb) : Prop :=
  match job.importType.dimension? with
  | none => ∃ rows, List.Forall₂ (fun r row => actualRow ctx.importId r = .ok row)
      (validRows ctx db job) rows ∧ after.actuals = db.actuals ++ rows
  | some dimension => ∀ r ∈ validRows ctx db job, ∃ entry,
      masterEntry dimension.columns r = .ok entry ∧
        (after.masters dimension).shows entry.1 = some entry.2

/-- The account of a finished job. -/
structure ImportLaw : Prop where
  completed : (processImport ctx db job).2.status = .completed →
    PersistedOnce ctx db job (processImport ctx db job).1 ∧
      ∃ total success errors, (processImport ctx db job).2.totalRows = some total ∧
        (processImport ctx db job).2.successRows = some success ∧
        (processImport ctx db job).2.errorRows = some errors ∧ success + errors = total ∧
        success = persistedRows ctx db job (processImport ctx db job).1
  failed : (processImport ctx db job).2.status = .failed →
    (processImport ctx db job).1.written = db.written ∧
      (processImport ctx db job).1.actuals = db.actuals ∧
      (processImport ctx db job).1.masters = db.masters

def plannedStatements : List ImportStatement :=
  fileStatements (rowReader ctx db job) (dataRows ctx.platform job.file)

/-- What makes statement number `k` fail: the database, or its own arguments. -/
def statementError (k : ℕ) (statement : ImportStatement) : Option String :=
  match ctx.fault k with
  | some e => some e
  | none =>
    match statement with
    | .createMany records =>
      match records.mapM (actualRow ctx.importId) with
      | .ok _ => none
      | .error e => some e
    | .upsert dimension record =>
      match masterEntry dimension.columns record with
      | .ok _ => none
      | .error e => some e

/-- The file has data rows and is read to its end, and no insert fails. -/
def RunsThrough : Prop :=
  (dataRows ctx.platform job.file).broken = none ∧ (dataRows ctx.platform job.file).rows ≠ [] ∧
    ∀ k statement, (plannedStatements ctx db job)[k]? = some statement →
      statementError ctx (db.sent + k) statement = none

/-- Either the job runs through, of dimension rows no two with one code; or its very first insert
fails, or there is none. -/
def ImportsCleanly : Prop :=
  (RunsThrough ctx db job ∧ (job.importType = .actuals ∨
      ((validRows ctx db job).map fun r => r.get "code").Nodup)) ∨
    (¬ RunsThrough ctx db job ∧ ∀ statement,
      (plannedStatements ctx db job).head? = some statement →
        statementError ctx db.sent statement ≠ none)

end Law

/-! ### Statements -/

section Statements

variable {ctx : ImportContext} {db : ImportDb}

theorem send_error (db : ImportDb) (statement : ImportStatement) :
    (statement.send ctx db).2 = statementError ctx db.sent statement := by
  unfold ImportStatement.send statementError
  cases ctx.fault db.sent with
  | some e => rfl
  | none =>
    cases statement with
    | createMany records =>
      simp only [ImportStatement.write]
      cases records.mapM (actualRow ctx.importId) <;> rfl
    | upsert dimension record =>
      simp only [ImportStatement.write]
      cases masterEntry dimension.columns record <;> rfl

theorem send_sent (db : ImportDb) (statement : ImportStatement) :
    (statement.send ctx db).1.sent = db.sent + 1 := by
  unfold ImportStatement.send
  cases ctx.fault db.sent with
  | some e => rfl
  | none => cases statement.write ctx db <;> rfl

/-- A failed statement writes nothing. -/
theorem send_of_error {statement : ImportStatement}
    (h : statementError ctx db.sent statement ≠ none) :
    (statement.send ctx db).1 = { db with sent := db.sent + 1 } := by
  rw [← send_error] at h
  revert h
  unfold ImportStatement.send
  cases ctx.fault db.sent with
  | some e => exact fun _ => rfl
  | none =>
    cases statement.write ctx db with
    | error e => exact fun _ => rfl
    | ok after => exact fun h => absurd rfl h

theorem send_of_success {statement : ImportStatement}
    (h : (statement.send ctx db).2 = none) : ∃ after, statement.write ctx db = .ok after ∧
      (statement.send ctx db).1 = { after with sent := db.sent + 1 } := by
  unfold ImportStatement.send at h ⊢
  cases hfault : ctx.fault db.sent with
  | some e =>
    rw [hfault] at h
    cases h
  | none =>
    cases hwrite : statement.write ctx db with
    | error e =>
      simp only [hfault, hwrite] at h
      cases h
    | ok after => exact ⟨after, rfl, rfl⟩

theorem createMany_eq_append {table rows : List ActualRow}
    (h : ∀ row ∈ rows, row.sourceReference = none) : createMany table rows = table ++ rows := by
  unfold createMany
  induction rows generalizing table with
  | nil => simp
  | cons row rows ih =>
    have hnone : table.any row.conflicts = false := by
      rw [List.any_eq_false]
      intro other _
      simp [ActualRow.conflicts, h row List.mem_cons_self]
    rw [List.foldl_cons, hnone, ih fun other hother => h other (List.mem_cons_of_mem _ hother)]
    simp

theorem actualRow_sourceReference {importId : String} {r : ImportRecord} {row : ActualRow}
    (h : actualRow importId r = .ok row) : row.sourceReference = none := by
  simp only [actualRow, bind_eq_ok, pure_eq_ok] at h
  obtain ⟨_, -, _, -, _, -, _, -, _, -, _, -, _, -, _, -, rfl⟩ := h
  rfl

/-- The rows of a batch are appended, as no row of an import conflicts with another. -/
theorem write_createMany {records : List ImportRecord} {after : ImportDb}
    (h : (ImportStatement.createMany records).write ctx db = .ok after) :
    ∃ rows, List.Forall₂ (fun r row => actualRow ctx.importId r = .ok row) records rows ∧
      after = { db with
        actuals := db.actuals ++ rows
        written := db.written + records.length } := by
  simp only [ImportStatement.write, bind_eq_ok, pure_eq_ok] at h
  obtain ⟨rows, hrows, rfl⟩ := h
  have hall := Transactions.forall₂_of_mapM_eq_ok hrows
  refine ⟨rows, hall, ?_⟩
  rw [createMany_eq_append, hall.length_eq]
  intro row hrow
  obtain ⟨r, -, hr⟩ := Transactions.exists_of_mapM_eq_ok hrows hrow
  exact actualRow_sourceReference hr

theorem write_upsert {dimension : Dimension} {record : ImportRecord} {after : ImportDb}
    (h : (ImportStatement.upsert dimension record).write ctx db = .ok after) :
    ∃ entry, masterEntry dimension.columns record = .ok entry ∧
      after = { db with
        masters := Function.update db.masters dimension
          ((db.masters dimension).upsert (ctx.newId db.sent) entry)
        written := db.written + 1 } := by
  simp only [ImportStatement.write, bind_eq_ok, pure_eq_ok] at h
  obtain ⟨entry, hentry, rfl⟩ := h
  exact ⟨entry, hentry, rfl⟩

def ImportStatement.records : ImportStatement → List ImportRecord
  | .createMany records => records
  | .upsert _ record => [record]

theorem send_written_of_success {statement : ImportStatement}
    (h : (statement.send ctx db).2 = none) :
    (statement.send ctx db).1.written = db.written + statement.records.length := by
  obtain ⟨after, hwrite, hafter⟩ := send_of_success h
  rw [hafter]
  cases statement with
  | createMany records =>
    obtain ⟨rows, -, rfl⟩ := write_createMany hwrite
    rfl
  | upsert dimension record =>
    obtain ⟨entry, -, rfl⟩ := write_upsert hwrite
    rfl

theorem written_le_send (db : ImportDb) (statement : ImportStatement) :
    db.written ≤ (statement.send ctx db).1.written := by
  cases h : (statement.send ctx db).2 with
  | none =>
    rw [send_written_of_success h]
    exact Nat.le_add_right _ _
  | some e =>
    rw [send_of_error (by rw [← send_error, h]; exact Option.some_ne_none e)]

end Statements

/-! ### What the statements of a job leave when none fails -/

section Contents

variable {ctx : ImportContext} {db : ImportDb}

theorem actuals_of_success {batches : List (List ImportRecord)}
    (h : (sendAll (ImportStatement.send ctx) db
      (batches.map ImportStatement.createMany)).2 = none) :
    ∃ rows, List.Forall₂ (fun r row => actualRow ctx.importId r = .ok row) batches.flatten rows ∧
      (sendAll (ImportStatement.send ctx) db
        (batches.map ImportStatement.createMany)).1.actuals = db.actuals ++ rows := by
  induction batches generalizing db with
  | nil => exact ⟨[], List.Forall₂.nil, (List.append_nil _).symm⟩
  | cons batch batches ih =>
    rw [List.map_cons, sendAll] at h ⊢
    cases hsend : ((ImportStatement.createMany batch).send ctx db).2 with
    | some e =>
      rw [hsend] at h
      cases h
    | none =>
      rw [hsend] at h
      dsimp only at h ⊢
      obtain ⟨after, hwrite, hafter⟩ := send_of_success hsend
      obtain ⟨rows, hrows, rfl⟩ := write_createMany hwrite
      obtain ⟨more, hmore, hactuals⟩ := ih h
      refine ⟨rows ++ more, List.rel_append hrows hmore, ?_⟩
      rw [hactuals, hafter, List.append_assoc]

theorem lastWith_cons {α κ : Type*} [DecidableEq κ] (key : α → κ) (x : α) (xs : List α) (k : κ) :
    lastWith key (x :: xs) k = (lastWith key xs k).or (if key x = k then some x else none) := by
  rw [lastWith, List.reverse_cons, lookup_append, lookup_cons]
  rfl

theorem masters_of_success {dimension : Dimension} {records : List ImportRecord}
    (h : (sendAll (ImportStatement.send ctx) db
      (records.map (ImportStatement.upsert dimension))).2 = none) :
    ∃ entries, List.Forall₂ (fun r entry => masterEntry dimension.columns r = .ok entry) records
        entries ∧
      ∀ code, ((sendAll (ImportStatement.send ctx) db
          (records.map (ImportStatement.upsert dimension))).1.masters dimension).shows code =
        ((lastWith Prod.fst entries code).map Prod.snd).or ((db.masters dimension).shows code) := by
  induction records generalizing db with
  | nil => exact ⟨[], List.Forall₂.nil, fun code => rfl⟩
  | cons record records ih =>
    rw [List.map_cons, sendAll] at h ⊢
    cases hsend : ((ImportStatement.upsert dimension record).send ctx db).2 with
    | some e =>
      rw [hsend] at h
      cases h
    | none =>
      rw [hsend] at h
      dsimp only at h ⊢
      obtain ⟨after, hwrite, hafter⟩ := send_of_success hsend
      obtain ⟨entry, hentry, rfl⟩ := write_upsert hwrite
      obtain ⟨entries, hentries, hshows⟩ := ih h
      refine ⟨entry :: entries, List.Forall₂.cons hentry hentries, fun code => ?_⟩
      rw [hshows, hafter, lastWith_cons]
      dsimp only
      rw [Function.update_self, MasterTable.shows_upsert]
      cases lastWith Prod.fst entries code with
      | some last => rfl
      | none => split_ifs <;> rfl

theorem masterEntry_code {columns : List (String × MasterColumn)} {r : ImportRecord}
    {entry : String × String × List (String × MasterCell)}
    (h : masterEntry columns r = .ok entry) : r.get "code" = .text entry.1 := by
  simp only [masterEntry, bind_eq_ok, pure_eq_ok] at h
  obtain ⟨code, hcode, _, -, _, -, rfl⟩ := h
  revert hcode
  cases r.get "code" with
  | missing =>
    intro hcode
    cases hcode
  | text value =>
    intro hcode
    cases hcode
    rfl
  | _ =>
    intro hcode
    cases hcode

theorem countP_code (table : MasterTable) {codes : List String}
    (h : ∀ code ∈ codes, code ∈ table.rows.map MasterRow.code) :
    table.rows.countP (fun row => codes.contains row.code) = codes.dedup.length := by
  have hfilter : ((table.rows.map MasterRow.code).filter codes.contains).Perm codes.dedup := by
    apply (List.perm_ext_iff_of_nodup (table.unique.filter _) (List.nodup_dedup _)).2
    intro code
    rw [List.mem_filter, List.mem_dedup, List.contains_iff_mem]
    exact ⟨fun hcode => hcode.2, fun hcode => ⟨h code hcode, hcode⟩⟩
  rw [← hfilter.length_eq, List.filter_map, List.length_map, List.countP_eq_length_filter]
  rfl

theorem length_dedup_eq_iff {codes : List String} :
    codes.dedup.length = codes.length ↔ codes.Nodup := by
  constructor
  · intro h
    rw [← (List.dedup_sublist codes).eq_of_length h]
    exact List.nodup_dedup codes
  · intro h
    rw [h.dedup]

end Contents

/-! ### The loop sends the planned statements -/

section Loop

variable {ctx : ImportContext} {db : ImportDb} {reader : RowReader}

theorem validRows_cons (row : ℕ × ImportRecord) (rows : List (ℕ × ImportRecord)) :
    reader.validRows (row :: rows) =
      if (reader.validationErrors row.2).isEmpty then
        reader.transform row.2 :: reader.validRows rows
      else reader.validRows rows := by
  unfold RowReader.validRows
  rw [List.filterMap_cons]
  split_ifs <;> rfl

theorem length_validRows_le (rows : List (ℕ × ImportRecord)) :
    (reader.validRows rows).length ≤ rows.length :=
  List.length_filterMap_le _ _

/-- A nonempty batch is sent in one slice. -/
theorem insertRecords_eq {importType : ImportType} {batch : List ImportRecord}
    (hne : batch ≠ []) (hle : batch.length ≤ batchSize) :
    insertRecords ctx importType db batch =
      sendAll (ImportStatement.send ctx) db (batchStatements importType batch) := by
  rw [insertRecords, slices_of_length_le hne hle]
  simp

/-- The loop ended as the statements it sent did, with these counts when none failed. -/
def Reaches (result : ImportDb × Except String ImportProgress) (sent : ImportDb × Option String)
    (batch : List ImportRecord) (total success failed : ℕ) : Prop :=
  result.1 = sent.1 ∧
    match sent.2 with
    | some e => result.2 = .error e
    | none => ∃ errors, result.2 = .ok ⟨batch, errors, total, success, failed⟩

/-- What the loop has sent and counted when it comes to the end of the rows. -/
theorem processRows_reaches {progress : ImportProgress}
    (hbuffer : progress.validBatch.length < batchSize) (rows : List (ℕ × ImportRecord)) :
    Reaches (reader.processRows ctx db progress rows)
      (sendAll (ImportStatement.send ctx) db
        ((fullBatches batchSize progress.validBatch (reader.validRows rows)).flatMap
          (batchStatements reader.importType)))
      (leftover batchSize progress.validBatch (reader.validRows rows))
      (progress.totalRows + rows.length)
      (progress.successRows +
        (fullBatches batchSize progress.validBatch (reader.validRows rows)).flatten.length)
      (progress.errorRows + (rows.length - (reader.validRows rows).length)) := by
  induction rows generalizing db progress with
  | nil => exact ⟨rfl, progress.errors, rfl⟩
  | cons row rows ih =>
    have hshort : (reader.validRows rows).length ≤ rows.length := length_validRows_le rows
    rw [validRows_cons]
    unfold RowReader.processRows
    dsimp only
    by_cases hvalid : (reader.validationErrors row.2).isEmpty
    · have hread : reader.readRow progress row =
          { progress with
            totalRows := progress.totalRows + 1
            validBatch := progress.validBatch ++ [reader.transform row.2] } :=
        if_pos hvalid
      rw [if_pos hvalid, fullBatches, leftover, hread]
      by_cases hfull : batchSize ≤ (progress.validBatch ++ [reader.transform row.2]).length
      · have hlength : (progress.validBatch ++ [reader.transform row.2]).length = batchSize := by
          rw [List.length_append, List.length_singleton] at hfull ⊢
          omega
        rw [if_pos hfull, if_pos hfull, if_pos hfull]
        unfold RowReader.flush
        dsimp only
        rw [insertRecords_eq (by simp) hlength.le, List.flatMap_cons, sendAll_append]
        obtain ⟨after, failure⟩ := sendAll (ImportStatement.send ctx) db
          (batchStatements reader.importType (progress.validBatch ++ [reader.transform row.2]))
        cases failure with
        | some e => exact ⟨rfl, rfl⟩
        | none =>
          have hrest := @ih after ⟨[], progress.errors, progress.totalRows + 1,
            progress.successRows + (progress.validBatch ++ [reader.transform row.2]).length,
            progress.errorRows⟩ (Nat.zero_lt_of_lt hbuffer)
          dsimp only at hrest
          convert hrest using 1
          · rw [List.length_cons]
            omega
          · rw [List.flatten_cons, List.length_append, Nat.add_assoc]
          · rw [List.length_cons, List.length_cons]
            omega
      · rw [if_neg hfull, if_neg hfull, if_neg hfull]
        have hrest := @ih db ⟨progress.validBatch ++ [reader.transform row.2], progress.errors,
          progress.totalRows + 1, progress.successRows, progress.errorRows⟩ (not_le.1 hfull)
        dsimp only at hrest
        convert hrest using 1
        · rw [List.length_cons]
          omega
        · rw [List.length_cons, List.length_cons]
          omega
    · rw [if_neg hvalid]
      have hread : (reader.readRow progress row).validBatch = progress.validBatch ∧
          (reader.readRow progress row).totalRows = progress.totalRows + 1 ∧
          (reader.readRow progress row).successRows = progress.successRows ∧
          (reader.readRow progress row).errorRows = progress.errorRows + 1 := by
        unfold RowReader.readRow
        rw [if_neg hvalid]
        exact ⟨rfl, rfl, rfl, rfl⟩
      obtain ⟨hbatch, htotal, hsuccess, herror⟩ := hread
      rw [if_neg (by rw [hbatch]; exact not_le.2 hbuffer)]
      have hrest := @ih db (reader.readRow progress row) (by rwa [hbatch])
      rw [hbatch, htotal, hsuccess, herror] at hrest
      convert hrest using 1
      · rw [List.length_cons]
        omega
      · rw [List.length_cons]
        omega

/-- After the full batches comes the last one, unless the file breaks off or nothing is left. -/
theorem fileStatements_eq (rows : Parsed (ℕ × ImportRecord)) :
    fileStatements reader rows =
      (fullBatches batchSize [] (reader.validRows rows.rows)).flatMap
        (batchStatements reader.importType) ++
        if rows.broken.isSome ∨ leftover batchSize [] (reader.validRows rows.rows) = [] then []
        else batchStatements reader.importType
          (leftover batchSize [] (reader.validRows rows.rows)) := by
  unfold fileStatements slices
  cases rows.broken with
  | some e => simp
  | none =>
    by_cases hempty : leftover batchSize [] (reader.validRows rows.rows) = []
    · simp [hempty]
    · simp [hempty]

theorem processFile_cases (rows : Parsed (ℕ × ImportRecord)) :
    let sent := sendAll (ImportStatement.send ctx) db (fileStatements reader rows)
    (reader.processFile ctx db rows).1 = sent.1 ∧
      (sent.2 = none → rows.broken = none → rows.rows ≠ [] → ∃ errors,
        (reader.processFile ctx db rows).2 =
          .ok ⟨[], errors, rows.rows.length, (reader.validRows rows.rows).length,
            rows.rows.length - (reader.validRows rows.rows).length⟩) ∧
      (¬ (sent.2 = none ∧ rows.broken = none ∧ rows.rows ≠ []) →
        ∃ e, (reader.processFile ctx db rows).2 = .error e) := by
  obtain ⟨rows, broken⟩ := rows
  have hreaches : Reaches (reader.processRows ctx db {} rows) _ _ _ _ _ :=
    processRows_reaches (by decide) rows
  have hall := congrArg List.length (flatten_fullBatches batchSize [] (reader.validRows rows))
  have hshort : (leftover batchSize [] (reader.validRows rows)).length < batchSize :=
    length_leftover_lt (by decide)
  have hle : (reader.validRows rows).length ≤ rows.length := length_validRows_le rows
  rw [List.length_append, List.nil_append] at hall
  rw [fileStatements_eq, sendAll_append]
  unfold RowReader.processFile
  dsimp only at hreaches ⊢
  generalize reader.processRows ctx db {} rows = result at hreaches ⊢
  obtain ⟨after, outcome⟩ := result
  generalize sendAll (ImportStatement.send ctx) db _ = full at hreaches ⊢
  obtain ⟨reached, failure⟩ := full
  obtain ⟨rfl, hreached⟩ := hreaches
  generalize leftover batchSize [] (reader.validRows rows) = rest at *
  generalize (reader.validRows rows).length = valid at *
  cases failure with
  | some e =>
    obtain rfl := hreached
    exact ⟨rfl, fun h => absurd h (Option.some_ne_none e), fun _ => ⟨e, rfl⟩⟩
  | none =>
    obtain ⟨errors, rfl⟩ := hreached
    dsimp only
    cases broken with
    | some e =>
      exact ⟨by simp [sendAll], fun _ h => absurd h (Option.some_ne_none e), fun _ => ⟨e, rfl⟩⟩
    | none =>
      by_cases hempty : rest = []
      · subst hempty
        by_cases hrows : rows = []
        · simp [hrows, sendAll]
        · have hcount : 0 + (fullBatches batchSize [] (reader.validRows rows)).flatten.length =
              valid := by
            rw [Nat.zero_add, ← hall]
            rfl
          rw [hcount]
          simp [hrows, sendAll]
      · have hcount : 0 + (fullBatches batchSize [] (reader.validRows rows)).flatten.length +
            rest.length = valid := by
          rw [Nat.zero_add, hall]
        have hrows : rows ≠ [] := by
          rintro rfl
          rw [List.length_nil] at hle
          exact hempty (List.length_eq_zero_iff.1 (by omega))
        rw [if_neg (by simpa using hempty), if_neg (by simpa using hempty)]
        unfold RowReader.flush
        dsimp only
        rw [insertRecords_eq hempty hshort.le, hcount]
        generalize sendAll (ImportStatement.send ctx) after _ = sent
        obtain ⟨last, failure⟩ := sent
        cases failure with
        | some e => exact ⟨rfl, fun h => absurd h (Option.some_ne_none e), fun _ => ⟨e, rfl⟩⟩
        | none => simp [hrows]

end Loop

/-! ### The job -/

section Job

variable {ctx : ImportContext} {db : ImportDb} {job : ImportJob}

theorem sendAll_none_iff (statements : List ImportStatement) :
    (sendAll (ImportStatement.send ctx) db statements).2 = none ↔
      ∀ k statement, statements[k]? = some statement →
        statementError ctx (db.sent + k) statement = none :=
  sendAll_eq_none_iff send_error send_sent db statements

theorem runsThrough_iff :
    RunsThrough ctx db job ↔
      (sendAll (ImportStatement.send ctx) db (plannedStatements ctx db job)).2 = none ∧
        (dataRows ctx.platform job.file).broken = none ∧
        (dataRows ctx.platform job.file).rows ≠ [] := by
  rw [sendAll_none_iff]
  unfold RunsThrough
  tauto

theorem processImport_of_runsThrough (h : RunsThrough ctx db job) :
    ∃ errors logged, processImport ctx db job =
      ((sendAll (ImportStatement.send ctx) db (plannedStatements ctx db job)).1,
        { status := finalStatus ⟨[], errors, (dataRows ctx.platform job.file).rows.length,
            (validRows ctx db job).length,
            (dataRows ctx.platform job.file).rows.length - (validRows ctx db job).length⟩
          totalRows := some (dataRows ctx.platform job.file).rows.length
          successRows := some (validRows ctx db job).length
          errorRows := some ((dataRows ctx.platform job.file).rows.length -
            (validRows ctx db job).length)
          errors := logged }) := by
  obtain ⟨hsent, hbroken, hrows⟩ := runsThrough_iff.1 h
  obtain ⟨hdb, hok, -⟩ := @processFile_cases ctx db (rowReader ctx db job)
    (dataRows ctx.platform job.file)
  obtain ⟨errors, hresult⟩ := hok hsent hbroken hrows
  refine ⟨errors, errors.take 100, ?_⟩
  unfold processImport
  revert hdb hresult
  generalize (rowReader ctx db job).processFile ctx db (dataRows ctx.platform job.file) = result
  intro hdb hresult
  obtain ⟨after, outcome⟩ := result
  obtain rfl := hdb
  obtain rfl := hresult
  rfl

theorem processImport_of_not_runsThrough (h : ¬ RunsThrough ctx db job) :
    ∃ errors, processImport ctx db job =
      ((sendAll (ImportStatement.send ctx) db (plannedStatements ctx db job)).1,
        ⟨.failed, none, none, none, errors⟩) := by
  rw [runsThrough_iff] at h
  obtain ⟨hdb, -, herror⟩ := @processFile_cases ctx db (rowReader ctx db job)
    (dataRows ctx.platform job.file)
  obtain ⟨message, hresult⟩ := herror h
  refine ⟨[⟨0, [message], []⟩], ?_⟩
  unfold processImport
  revert hdb hresult
  generalize (rowReader ctx db job).processFile ctx db (dataRows ctx.platform job.file) = result
  intro hdb hresult
  obtain ⟨after, outcome⟩ := result
  obtain rfl := hdb
  obtain rfl := hresult
  rfl

/-- A first statement that fails leaves the tables as they are. -/
theorem sendAll_of_head_error {statements : List ImportStatement}
    (h : ∀ statement, statements.head? = some statement →
      statementError ctx db.sent statement ≠ none) :
    (sendAll (ImportStatement.send ctx) db statements).1.written = db.written ∧
      (sendAll (ImportStatement.send ctx) db statements).1.actuals = db.actuals ∧
      (sendAll (ImportStatement.send ctx) db statements).1.masters = db.masters := by
  cases statements with
  | nil => exact ⟨rfl, rfl, rfl⟩
  | cons statement statements =>
    have herror := h statement rfl
    have hafter := send_of_error herror
    rw [← send_error] at herror
    obtain ⟨e, he⟩ := Option.ne_none_iff_exists'.1 herror
    rw [sendAll, he, hafter]
    exact ⟨rfl, rfl, rfl⟩

theorem lt_written_of_head {statement : ImportStatement} {statements : List ImportStatement}
    (h : statementError ctx db.sent statement = none) (hrecords : statement.records ≠ []) :
    db.written < (sendAll (ImportStatement.send ctx) db (statement :: statements)).1.written := by
  rw [← send_error] at h
  have hfirst := send_written_of_success h
  have hpos := List.length_pos_iff.2 hrecords
  have hstep : ∀ (later : ImportDb) (next : ImportStatement), db.written < later.written →
      db.written < (next.send ctx later).1.written :=
    fun later next hlater => hlater.trans_le (written_le_send later next)
  rw [sendAll, h]
  exact sendAll_invariant (I := fun later : ImportDb => db.written < later.written) hstep
    (by omega) statements

theorem records_ne_nil {statement : ImportStatement} {importType : ImportType}
    {batch : List ImportRecord} (hbatch : batch ≠ [])
    (h : statement ∈ batchStatements importType batch) : statement.records ≠ [] := by
  unfold batchStatements at h
  cases hdimension : importType.dimension? with
  | none =>
    rw [hdimension] at h
    obtain rfl := List.mem_singleton.1 h
    exact hbatch
  | some dimension =>
    rw [hdimension] at h
    obtain ⟨r, -, rfl⟩ := List.mem_map.1 h
    exact List.cons_ne_nil r []

theorem records_ne_nil_of_planned {statement : ImportStatement}
    (h : statement ∈ plannedStatements ctx db job) : statement.records ≠ [] := by
  unfold plannedStatements at h
  rw [fileStatements_eq] at h
  rcases List.mem_append.1 h with h | h
  · obtain ⟨batch, hbatch, hstatement⟩ := List.mem_flatMap.1 h
    apply records_ne_nil _ hstatement
    rintro rfl
    have hlength := length_of_mem_fullBatches (by decide) hbatch
    revert hlength
    decide
  · split_ifs at h with hnone
    · exact absurd h List.not_mem_nil
    · exact records_ne_nil (fun hempty => hnone (Or.inr hempty)) h

theorem importLaw_of_not_runsThrough (h : ¬ RunsThrough ctx db job) :
    ImportLaw ctx db job ↔ ∀ statement,
      (plannedStatements ctx db job).head? = some statement →
        statementError ctx db.sent statement ≠ none := by
  obtain ⟨errors, hresult⟩ := processImport_of_not_runsThrough h
  constructor
  · intro hlaw statement hhead hnone
    obtain ⟨statements, hplanned⟩ : ∃ statements,
        plannedStatements ctx db job = statement :: statements := by
      cases hplanned : plannedStatements ctx db job with
      | nil => simp [hplanned] at hhead
      | cons first statements =>
        obtain rfl : first = statement := by simpa [hplanned] using hhead
        exact ⟨statements, rfl⟩
    have hsame := (hlaw.failed (by rw [hresult])).1
    rw [hresult, hplanned] at hsame
    have hrecords : statement.records ≠ [] :=
      records_ne_nil_of_planned (by rw [hplanned]; exact List.mem_cons_self)
    exact (lt_written_of_head hnone hrecords).ne' hsame
  · intro hhead
    constructor
    · intro hstatus
      rw [hresult] at hstatus
      cases hstatus
    · intro _
      rw [hresult]
      exact sendAll_of_head_error hhead

theorem flatMap_batchStatements_of_actuals {importType : ImportType}
    (htype : importType.dimension? = none) (batches : List (List ImportRecord)) :
    batches.flatMap (batchStatements importType) = batches.map ImportStatement.createMany := by
  have hbatch : batchStatements importType = fun batch => [.createMany batch] := by
    funext batch
    rw [batchStatements, htype]
  rw [hbatch, ← List.map_eq_flatMap]

theorem flatMap_batchStatements_of_masters {importType : ImportType} {dimension : Dimension}
    (htype : importType.dimension? = some dimension) (batches : List (List ImportRecord)) :
    batches.flatMap (batchStatements importType) =
      batches.flatten.map (ImportStatement.upsert dimension) := by
  have hbatch : batchStatements importType = List.map (.upsert dimension) := by
    funext batch
    rw [batchStatements, htype]
  rw [hbatch, List.map_flatten, List.flatMap]

theorem plannedStatements_of_actuals (h : RunsThrough ctx db job)
    (htype : job.importType.dimension? = none) :
    plannedStatements ctx db job =
      (slices batchSize (validRows ctx db job)).map ImportStatement.createMany := by
  unfold plannedStatements fileStatements
  rw [h.1]
  exact flatMap_batchStatements_of_actuals htype _

theorem plannedStatements_of_masters (h : RunsThrough ctx db job) {dimension : Dimension}
    (htype : job.importType.dimension? = some dimension) :
    plannedStatements ctx db job =
      (validRows ctx db job).map (ImportStatement.upsert dimension) := by
  conv_rhs => rw [← flatten_slices batchSize (validRows ctx db job)]
  unfold plannedStatements fileStatements
  rw [h.1]
  exact flatMap_batchStatements_of_masters htype _

theorem codes_of_entries {columns : List (String × MasterColumn)} {records : List ImportRecord}
    {entries : List (String × String × List (String × MasterCell))}
    (h : List.Forall₂ (fun r entry => masterEntry columns r = .ok entry) records entries) :
    records.map (fun r => r.get "code") = entries.map fun entry => ImportValue.text entry.1 := by
  induction h with
  | nil => rfl
  | cons hentry _ ih => rw [List.map_cons, List.map_cons, ih, masterEntry_code hentry]

theorem entry_of_mem {columns : List (String × MasterColumn)} {records : List ImportRecord}
    {entries : List (String × String × List (String × MasterCell))}
    (h : List.Forall₂ (fun r entry => masterEntry columns r = .ok entry) records entries)
    {r : ImportRecord} (hr : r ∈ records) : ∃ entry ∈ entries, masterEntry columns r = .ok entry := by
  induction h with
  | nil => exact absurd hr List.not_mem_nil
  | cons hentry _ ih =>
    rcases List.mem_cons.1 hr with rfl | hr
    · exact ⟨_, List.mem_cons_self, hentry⟩
    · obtain ⟨entry, hmem, hok⟩ := ih hr
      exact ⟨entry, List.mem_cons_of_mem _ hmem, hok⟩

theorem masters_persisted {dimension : Dimension}
    (htype : job.importType.dimension? = some dimension) {after : ImportDb}
    {entries : List (String × String × List (String × MasterCell))}
    (hentries : List.Forall₂ (fun r entry => masterEntry dimension.columns r = .ok entry)
      (validRows ctx db job) entries)
    (hshows : ∀ code, (after.masters dimension).shows code =
      ((lastWith Prod.fst entries code).map Prod.snd).or ((db.masters dimension).shows code)) :
    persistedRows ctx db job after = (entries.map Prod.fst).dedup.length ∧
      ((entries.map Prod.fst).Nodup → PersistedOnce ctx db job after) := by
  have hcodes := codes_of_entries hentries
  constructor
  · unfold persistedRows
    rw [htype]
    dsimp only
    rw [← countP_code (after.masters dimension)]
    · apply List.countP_congr
      intro row _
      rw [List.any_eq_true, List.contains_iff_mem, List.mem_map]
      constructor
      · rintro ⟨r, hr, hcode⟩
        have hmem : ImportValue.text row.code ∈
            (validRows ctx db job).map (fun r => r.get "code") :=
          List.mem_map.2 ⟨r, hr, beq_iff_eq.1 hcode⟩
        rw [hcodes] at hmem
        obtain ⟨entry, hentry, htext⟩ := List.mem_map.1 hmem
        exact ⟨entry, hentry, ImportValue.text.inj htext⟩
      · rintro ⟨entry, hentry, hcode⟩
        have hmem : ImportValue.text row.code ∈
            entries.map fun entry => ImportValue.text entry.1 :=
          List.mem_map.2 ⟨entry, hentry, congrArg ImportValue.text hcode⟩
        rw [← hcodes] at hmem
        obtain ⟨r, hr, htext⟩ := List.mem_map.1 hmem
        exact ⟨r, hr, beq_iff_eq.2 htext⟩
    · intro code hcode
      obtain ⟨last, hlast⟩ : ∃ last, lastWith Prod.fst entries code = some last := by
        rw [← Option.ne_none_iff_exists', ne_eq, lastWith_eq_none]
        exact not_not.2 hcode
      have hrow := hshows code
      rw [hlast] at hrow
      obtain ⟨row, hrow, -⟩ := Option.map_eq_some_iff.1 hrow
      obtain ⟨hmem, rfl⟩ := lookup_eq_some hrow
      exact List.mem_map_of_mem hmem
  · intro hnodup
    unfold PersistedOnce
    rw [htype]
    intro r hr
    obtain ⟨entry, hget, hentry⟩ := entry_of_mem hentries hr
    refine ⟨entry, hentry, ?_⟩
    rw [hshows, lastWith_of_mem hnodup hget]
    rfl

theorem finalStatus_eq_failed {progress : ImportProgress}
    (h : finalStatus progress = .failed) : progress.successRows = 0 := by
  unfold finalStatus at h
  split_ifs at h with herrors hsuccess
  omega

theorem importLaw_of_runsThrough (h : RunsThrough ctx db job) :
    ImportLaw ctx db job ↔ job.importType = .actuals ∨
      ((validRows ctx db job).map fun r => r.get "code").Nodup := by
  obtain ⟨errors, logged, hresult⟩ := processImport_of_runsThrough h
  obtain ⟨hsent, -, -⟩ := runsThrough_iff.1 h
  have hshort : (validRows ctx db job).length ≤ (dataRows ctx.platform job.file).rows.length :=
    length_validRows_le _
  -- a job FAILED here had no valid row, and so nothing to send
  have hfailed : (processImport ctx db job).2.status = .failed → validRows ctx db job = [] := by
    intro hstatus
    rw [hresult] at hstatus
    exact List.length_eq_zero_iff.1 (finalStatus_eq_failed hstatus)
  cases htype : job.importType.dimension? with
  | none =>
    have hactuals : job.importType = .actuals := by
      revert htype
      cases job.importType <;> simp [ImportType.dimension?]
    have hplanned := plannedStatements_of_actuals h htype
    rw [hplanned] at hsent
    obtain ⟨rows, hrows, happended⟩ := actuals_of_success hsent
    rw [flatten_slices] at hrows
    refine ⟨fun _ => Or.inl hactuals, fun _ => ⟨fun _ => ?_, fun hstatus => ?_⟩⟩
    · rw [hresult, hplanned]
      refine ⟨?_, _, _, _, rfl, rfl, rfl, by omega, ?_⟩
      · unfold PersistedOnce
        rw [htype]
        exact ⟨rows, hrows, happended⟩
      · unfold persistedRows
        rw [htype]
        dsimp only
        rw [happended, List.length_append, ← hrows.length_eq]
        omega
    · rw [hresult, hplanned, hfailed hstatus]
      exact ⟨rfl, rfl, rfl⟩
  | some dimension =>
    have hplanned := plannedStatements_of_masters h htype
    rw [hplanned] at hsent
    obtain ⟨entries, hentries, hshows⟩ := masters_of_success hsent
    obtain ⟨hcount, honce⟩ := masters_persisted htype hentries hshows
    have hnodup : ((validRows ctx db job).map fun r => r.get "code").Nodup ↔
        (entries.map Prod.fst).Nodup := by
      have hinj : Function.Injective ImportValue.text := fun _ _ => ImportValue.text.inj
      rw [codes_of_entries hentries, ← List.nodup_map_iff hinj, List.map_map]
      rfl
    constructor
    · intro hlaw
      right
      cases hstatus : (processImport ctx db job).2.status with
      | failed =>
        rw [hfailed hstatus]
        exact List.nodup_nil
      | completed =>
        obtain ⟨-, total, success, failed, -, hsuccess, -, -, hpersisted⟩ :=
          hlaw.completed hstatus
        rw [hresult] at hsuccess hpersisted
        obtain rfl := Option.some.inj hsuccess
        rw [hplanned, hcount] at hpersisted
        rw [hnodup, ← length_dedup_eq_iff, ← hpersisted, List.length_map]
        exact hentries.length_eq
    · intro hclean
      have hcodes : ((validRows ctx db job).map fun r => r.get "code").Nodup := by
        rcases hclean with hactuals | hcodes
        · rw [hactuals] at htype
          cases htype
        · exact hcodes
      refine ⟨fun _ => ?_, fun hstatus => ?_⟩
      · rw [hresult, hplanned]
        refine ⟨honce (hnodup.1 hcodes), _, _, _, rfl, rfl, rfl, by omega, ?_⟩
        rw [hcount, length_dedup_eq_iff.2 (hnodup.1 hcodes), List.length_map]
        exact hentries.length_eq
      · rw [hresult, hplanned, hfailed hstatus]
        exact ⟨rfl, rfl, rfl⟩

end Job

/-- A job keeps its account exactly when it runs through without one row overwriting another, or
fails before it has written anything. -/
theorem importLaw_iff (ctx : ImportContext) (db : ImportDb) (job : ImportJob) :
    ImportLaw ctx db job ↔ ImportsCleanly ctx db job := by
  unfold ImportsCleanly
  by_cases h : RunsThrough ctx db job
  · rw [importLaw_of_runsThrough h]
    simp [h]
  · rw [importLaw_of_not_runsThrough h]
    simp [h]

/-- A job leaves the first valid rows of its file behind, in their order. -/
def PersistsPrefix (ctx : ImportContext) (db : ImportDb) (job : ImportJob) : Prop :=
  ∃ n, match job.importType.dimension? with
    | none => ∃ rows, List.Forall₂ (fun r row => actualRow ctx.importId r = .ok row)
        ((validRows ctx db job).take n) rows ∧
          (processImport ctx db job).1.actuals = db.actuals ++ rows
    | some dimension => ∃ entries,
        List.Forall₂ (fun r entry => masterEntry dimension.columns r = .ok entry)
          ((validRows ctx db job).take n) entries ∧
          ∀ code, ((processImport ctx db job).1.masters dimension).shows code =
            ((lastWith Prod.fst entries code).map Prod.snd).or ((db.masters dimension).shows code)

/-- What was sent until a statement failed is what succeeded. -/
theorem exists_sent_take (ctx : ImportContext) (db : ImportDb) (statements : List ImportStatement) :
    ∃ k after, sendAll (ImportStatement.send ctx) db (statements.take k) = (after, none) ∧
      (sendAll (ImportStatement.send ctx) db statements).1.actuals = after.actuals ∧
      (sendAll (ImportStatement.send ctx) db statements).1.masters = after.masters := by
  induction statements generalizing db with
  | nil => exact ⟨0, db, rfl, rfl, rfl⟩
  | cons statement statements ih =>
    cases hsend : (statement.send ctx db).2 with
    | some e =>
      have hfails : statementError ctx db.sent statement ≠ none := by simp [← send_error, hsend]
      exact ⟨0, db, rfl, by simp [sendAll, hsend, send_of_error hfails]⟩
    | none =>
      obtain ⟨k, after, hk⟩ := ih (statement.send ctx db).1
      exact ⟨k + 1, after, by simpa only [List.take_succ_cons, sendAll, hsend] using hk⟩

/-- Wherever a job fails, it has persisted no row before an earlier one, and none that is not
valid. -/
theorem persistsPrefix (ctx : ImportContext) (db : ImportDb) (job : ImportJob) :
    PersistsPrefix ctx db job := by
  have hdb : (processImport ctx db job).1 =
      (sendAll (ImportStatement.send ctx) db (plannedStatements ctx db job)).1 := by
    by_cases h : RunsThrough ctx db job
    · obtain ⟨_, _, hresult⟩ := processImport_of_runsThrough h
      rw [hresult]
    · obtain ⟨_, hresult⟩ := processImport_of_not_runsThrough h
      rw [hresult]
  obtain ⟨batches, hprefix, hplanned⟩ : ∃ batches : List (List ImportRecord),
      batches.flatten <+: validRows ctx db job ∧
        plannedStatements ctx db job = batches.flatMap (batchStatements job.importType) := by
    refine ⟨_, ?_, rfl⟩
    split
    · exact ⟨_, flatten_fullBatches batchSize [] _⟩
    · rw [flatten_slices]
      exact List.prefix_refl _
  obtain ⟨k, after, hsent, hactuals, hmasters⟩ :=
    exists_sent_take ctx db (plannedStatements ctx db job)
  unfold PersistsPrefix
  rw [hdb, hactuals, hmasters]
  cases htype : job.importType.dimension? with
  | none =>
    have htake : (plannedStatements ctx db job).take k =
        (batches.take k).map ImportStatement.createMany := by
      rw [hplanned, flatMap_batchStatements_of_actuals htype, List.map_take]
    rw [htake] at hsent
    obtain ⟨rows, hrows, hafter⟩ := actuals_of_success (congrArg Prod.snd hsent)
    rw [hsent] at hafter
    have htaken := (List.take_prefix k batches).flatten.trans hprefix
    exact ⟨_, rows, List.prefix_iff_eq_take.1 htaken ▸ hrows, hafter⟩
  | some dimension =>
    have htake : (plannedStatements ctx db job).take k =
        (batches.flatten.take k).map (ImportStatement.upsert dimension) := by
      rw [hplanned, flatMap_batchStatements_of_masters htype, List.map_take]
    rw [htake] at hsent
    obtain ⟨entries, hentries, hshows⟩ := masters_of_success (congrArg Prod.snd hsent)
    rw [hsent] at hshows
    have htaken := (List.take_prefix k batches.flatten).trans hprefix
    exact ⟨_, entries, List.prefix_iff_eq_take.1 htaken ▸ hentries, hshows⟩

/-- Lower case as it is, and every text the date of 1 January 2024. -/
def plainPlatform : ImportPlatform := ⟨id, fun _ => some 1704067200000⟩

/-- The database refuses the second insert statement. -/
def secondRefused : ImportContext where
  platform := plainPlatform
  importId := "import-1"
  fault k := if k = 1 then some "connection reset" else none
  newId _ := "id"

def emptyDb : ImportDb := ⟨[], fun _ => ⟨[], List.nodup_nil⟩, 0, 0⟩

def twoProducts : ImportJob where
  importType := .products
  file := ⟨"products.csv",
    ⟨[[("code", "A1"), ("name", "First")], [("code", "A2"), ("name", "Second")]], none⟩, ⟨[], none⟩⟩

/-- The job is FAILED, and the first product stays. -/
theorem not_importLaw_twoProducts : ¬ ImportLaw secondRefused emptyDb twoProducts := by
  intro h
  have hstatus : (processImport secondRefused emptyDb twoProducts).2.status = .failed := by
    decide +kernel
  have hwritten := (h.failed hstatus).1
  revert hwritten
  decide +kernel

end Forecast.Imports
