import Forecast.Costing.FiscalPeriods
import Forecast.Lib.Runs

/-!
# Entries in open periods

No entry is created in a locked or closed period as long as every process that posts
sees the periods of the date as they are: a map of the process may hold a period as it
was before it was locked.
-/

open KeyedTable Transactions ReadThrough Runs

namespace Forecast.Costing

/-! ### The law and what it takes -/

/-- Locked or closed, by its flags or by its checkpoint. -/
def FiscalDb.Shut (db : FiscalDb) (row : FiscalPeriodRow) : Prop :=
  row.isLocked ∨ row.isClosed ∨ db.checkpointStatus row.id = some .closed

instance (db : FiscalDb) (row : FiscalPeriodRow) : Decidable (db.Shut row) :=
  inferInstanceAs (Decidable (_ ∨ _))

def FiscalDb.Admits (db : FiscalDb) (entry : JournalEntry) : Prop :=
  ∀ row ∈ db.periods,
    row.Contains (utcDay entry.entryDate) ∨ entry.fiscalPeriodId = some row.id → ¬db.Shut row

instance (db : FiscalDb) (entry : JournalEntry) : Decidable (db.Admits entry) :=
  inferInstanceAs (Decidable (∀ row ∈ db.periods, _ → _))

namespace FiscalSystem

variable {s : FiscalSystem} {process : Id} {params : JournalParams}

def CreatesInOpenPeriods (s : FiscalSystem) (a : FiscalAction) : Prop :=
  ∀ entry ∈ (s.next a).db.entries, entry.id ∉ s.db.entries.map JournalEntry.id → s.db.Admits entry

instance (s : FiscalSystem) (a : FiscalAction) : Decidable (s.CreatesInOpenPeriods a) :=
  inferInstanceAs (Decidable (∀ entry ∈ (s.next a).db.entries, _ → _))

def SeesShut (s : FiscalSystem) (process : Id) (day : Day) : Prop :=
  ∀ row ∈ s.db.periods, row.Contains day → s.db.Shut row →
    ∃ period ∈ (s.caches process).findFiscalPeriod s.db day, period.isLocked ∨ period.isClosed

instance (s : FiscalSystem) (process : Id) (day : Day) : Decidable (s.SeesShut process day) :=
  inferInstanceAs (Decidable (∀ row ∈ s.db.periods, _ → _ →
    ∃ period ∈ (s.caches process).findFiscalPeriod s.db day, _))

/-- The period that the parameters name, if they name one, has the property. -/
def Names (s : FiscalSystem) (params : JournalParams) (P : FiscalPeriodRow → Prop) : Prop :=
  ∀ row ∈ s.db.periods, params.fiscalPeriodId = some row.id → P row

instance (s : FiscalSystem) (params : JournalParams) (P : FiscalPeriodRow → Prop)
    [DecidablePred P] : Decidable (s.Names params P) :=
  inferInstanceAs (Decidable (∀ row ∈ s.db.periods, _ → _))

def IsNew (s : FiscalSystem) (params : JournalParams) : Prop :=
  findByIdempotencyKey s.db.entries params.idempotencyKey = none

instance (s : FiscalSystem) (params : JournalParams) : Decidable (s.IsNew params) :=
  inferInstanceAs (Decidable (_ = _))

/-- A posting that creates its entry sees the shut periods of its date and names none; the
costing engine itself refuses to name a period that is locked or that it has closed. -/
def PostsKnowingly (s : FiscalSystem) : FiscalAction → Prop
  | .createJournalEntry process params => s.IsNew params →
      s.SeesShut process (utcDay params.entryDate) ∧ s.Names params fun row => ¬s.db.Shut row
  | .postCosted process params => s.IsNew params →
      s.SeesShut process (utcDay params.entryDate) ∧ s.Names params fun row => row.isClosed = false
  | .reverseJournalEntry process now _ _ => s.SeesShut process (utcDay now)
  | _ => True

instance (s : FiscalSystem) : (a : FiscalAction) → Decidable (s.PostsKnowingly a)
  | .createJournalEntry _ _ => inferInstanceAs (Decidable (_ → _ ∧ _))
  | .postCosted _ _ => inferInstanceAs (Decidable (_ → _ ∧ _))
  | .reverseJournalEntry process now _ _ =>
    inferInstanceAs (Decidable (s.SeesShut process (utcDay now)))
  | .lockFiscalPeriod _ | .unlockFiscalPeriod _ | .toggleFiscalPeriodStatus _
  | .snapshotPeriodValuation _ | .closePeriod _ | .reopenPeriod _ =>
    inferInstanceAs (Decidable True)

/-- Every period in a map was found in the tables for its day. -/
def CachesHold (s : FiscalSystem) : Prop :=
  ∀ process, Holds (fun day found => ∀ period ∈ found, ∃ row ∈ s.db.periods,
    row.id = period.id ∧ row.Contains day) (s.caches process).fiscalPeriodCache

/-! ### What the actions do to the periods -/

/-- The periods keep their ids and dates. -/
def KeepsPeriods (db db' : FiscalDb) : Prop :=
  ∀ row ∈ db.periods, ∃ row' ∈ db'.periods, row'.id = row.id ∧
    ∀ day, row.Contains day → row'.Contains day

theorem keepsPeriods_of_eq {db db' : FiscalDb} (h : db'.periods = db.periods) :
    KeepsPeriods db db' :=
  fun row hrow => ⟨row, h ▸ hrow, rfl, fun _ hday => hday⟩

theorem keepsPeriods_updatePeriod (db : FiscalDb) (id : Id) (f : FiscalPeriod → FiscalPeriod)
    (hf : ∀ p, (f p).id = p.id) : KeepsPeriods db (db.updatePeriod id f hf) := by
  intro row hrow
  refine ⟨_, List.mem_map_of_mem hrow, ?_⟩
  by_cases hid : row.id = id
  · rw [if_pos hid]
    exact ⟨hf _, fun _ hday => hday⟩
  · rw [if_neg hid]
    exact ⟨rfl, fun _ hday => hday⟩

theorem CachesHold.of_keepsPeriods {db : FiscalDb} (h : s.CachesHold)
    (hkeeps : KeepsPeriods s.db db) : (s.withDb db).CachesHold := by
  intro process
  refine (h process).mono fun day found hfound period hperiod => ?_
  obtain ⟨row, hrow, hid, hday⟩ := hfound period hperiod
  obtain ⟨row', hrow', hid', hdays⟩ := hkeeps row hrow
  exact ⟨row', hrow', hid'.trans hid, hdays day hday⟩

theorem mem_periodIn {db : FiscalDb} {calendarId : Id} {day : Day} {period : FiscalPeriod}
    (h : period ∈ db.periodIn calendarId day) :
    ∃ row ∈ db.periods, row.id = period.id ∧ row.Contains day := by
  obtain ⟨row, hrow, rfl⟩ := Option.mem_map.1 h
  have hfound := List.find?_some hrow
  rw [decide_eq_true_iff] at hfound
  exact ⟨row, List.mem_of_find?_eq_some hrow, rfl, hfound.2⟩

theorem CachesHold.mem_findFiscalPeriod (h : s.CachesHold) {day : Day} {period : FiscalPeriod}
    (hperiod : period ∈ (s.caches process).findFiscalPeriod s.db day) :
    ∃ row ∈ s.db.periods, row.id = period.id ∧ row.Contains day := by
  unfold FiscalCaches.findFiscalPeriod at hperiod
  cases hcalendar : (s.caches process).calendarId s.db with
  | none => simp [hcalendar] at hperiod
  | some calendarId =>
    rw [hcalendar] at hperiod
    exact (h process).read (fun _ hload => mem_periodIn hload) period hperiod

theorem CachesHold.looked (h : s.CachesHold) (process : Id) (day : Day) :
    (s.looked process day).CachesHold := by
  intro other
  by_cases hother : other = process
  · subst hother
    simp only [FiscalSystem.looked, Function.update_self, FiscalCaches.afterFind]
    cases (s.caches other).calendarId s.db with
    | none => exact h other
    | some calendarId => exact (h other).fill fun _ hload => mem_periodIn hload
  · simp only [FiscalSystem.looked, Function.update_of_ne hother]
    exact h other

/-! ### What the actions do to the journal -/

/-- A posting creates nothing, or its own entry in what it takes for an open period. -/
theorem createJournalEntry_cases (s : FiscalSystem) (process : Id) (params : JournalParams) :
    (s.createJournalEntry process params).db = s.db ∨
      s.IsNew params ∧ (s.context process params.entryDate).accounting.IsOpen params.entryDate ∧
        ∃ id currency, (s.createJournalEntry process params).db.entries = s.db.entries ++
          [params.entry (s.context process params.entryDate).accounting id currency] := by
  unfold FiscalSystem.createJournalEntry
  cases hkey : findByIdempotencyKey s.db.entries params.idempotencyKey with
  | some _ => exact Or.inl rfl
  | none =>
    cases hcreated : Forecast.createJournalEntry (s.context process params.entryDate).accounting
        s.db.entries params with
    | error e => exact Or.inl rfl
    | ok created =>
      obtain ⟨hopened, hentries, currency, hentry⟩ := createJournalEntry_eq_ok hcreated hkey
      exact Or.inr ⟨hkey, hopened, _, currency, hentry ▸ hentries⟩

/-- A reversal creates nothing, or its own entry in what it takes for an open period. -/
theorem reverseJournalEntry_cases (s : FiscalSystem) (process : Id) (now : Millis)
    (journalEntryId : Id) (reason : String) :
    (s.reverseJournalEntry process now journalEntryId reason).db = s.db ∨
      (s.context process now).accounting.IsOpen now ∧ ∃ (original : JournalEntry) (id : Id),
        (s.reverseJournalEntry process now journalEntryId reason).db.entries =
          (s.db.entries ++ [original.reversal (s.context process now).accounting id reason]).map
            (JournalEntry.markedReversed original.id) := by
  unfold FiscalSystem.reverseJournalEntry
  by_cases hreversible : s.isReversible journalEntryId
  · rw [if_pos hreversible]
    cases hreversed : Forecast.reverseJournalEntry (s.context process now).accounting
        s.db.entries journalEntryId reason with
    | error e => exact Or.inl rfl
    | ok entries =>
      obtain ⟨hopened, original, hentries⟩ := reverseJournalEntry_eq_ok hreversed
      exact Or.inr ⟨hopened, original, _, hentries⟩
  · rw [if_neg hreversible]
    exact Or.inl rfl

/-- The periods keep their ids and dates, and the journal stays as it is. -/
def Administers (db db' : FiscalDb) : Prop := KeepsPeriods db db' ∧ db'.entries = db.entries

theorem administers_setLocked (db : FiscalDb) (id : Id) (isLocked : Bool) :
    Administers db (db.setLocked id isLocked) :=
  ⟨keepsPeriods_updatePeriod db id _ _, rfl⟩

/-- The actions that post nothing. -/
def administration (db : FiscalDb) : FiscalAction → Option (Except PeriodError FiscalDb)
  | .lockFiscalPeriod periodId => some (db.lockFiscalPeriod periodId)
  | .unlockFiscalPeriod periodId => some (db.unlockFiscalPeriod periodId)
  | .toggleFiscalPeriodStatus periodId => some (db.toggleFiscalPeriodStatus periodId)
  | .snapshotPeriodValuation id => some (db.snapshotPeriodValuation id)
  | .closePeriod id => some (db.closePeriod id)
  | .reopenPeriod id => some (db.reopenPeriod id)
  | _ => none

theorem administers_of_administration {db db' : FiscalDb} {a : FiscalAction}
    (h : administration db a = some (.ok db')) : Administers db db' := by
  cases a with
  | lockFiscalPeriod periodId =>
    simp only [administration, FiscalDb.lockFiscalPeriod, Option.some.injEq, bind_eq_ok,
      pure_eq_ok] at h
    obtain ⟨-, -, rfl⟩ := h
    exact administers_setLocked db periodId true
  | unlockFiscalPeriod periodId =>
    simp only [administration, FiscalDb.unlockFiscalPeriod, Option.some.injEq, bind_eq_ok,
      pure_eq_ok] at h
    obtain ⟨-, -, rfl⟩ := h
    exact administers_setLocked db periodId false
  | toggleFiscalPeriodStatus periodId =>
    simp only [administration, FiscalDb.toggleFiscalPeriodStatus, Option.some.injEq, bind_eq_ok,
      pure_eq_ok] at h
    obtain ⟨-, -, rfl⟩ := h
    exact ⟨keepsPeriods_updatePeriod db periodId _ _, rfl⟩
  | snapshotPeriodValuation id =>
    simp only [administration, FiscalDb.snapshotPeriodValuation, Option.some.injEq, bind_eq_ok,
      pure_eq_ok] at h
    obtain ⟨-, -, -, -, rfl⟩ := h
    exact ⟨keepsPeriods_of_eq rfl, rfl⟩
  | closePeriod id =>
    simp only [administration, FiscalDb.closePeriod, Option.some.injEq, bind_eq_ok,
      pure_eq_ok] at h
    obtain ⟨-, -, -, -, rfl⟩ := h
    exact administers_setLocked db id true
  | reopenPeriod id =>
    simp only [administration, FiscalDb.reopenPeriod, Option.some.injEq, bind_eq_ok,
      pure_eq_ok] at h
    obtain ⟨-, -, -, -, rfl⟩ := h
    exact administers_setLocked db id false
  | createJournalEntry process params => cases h
  | postCosted process params => cases h
  | reverseJournalEntry process now journalEntryId reason => cases h

theorem next_of_administration {a : FiscalAction} {body : Except PeriodError FiscalDb}
    (h : administration s.db a = some body) : s.next a = transaction s (body.map s.withDb) := by
  cases a <;> cases h <;> rfl

/-- An action that posts nothing keeps the maps and the periods' ids and dates. -/
theorem next_cases_of_administration {a : FiscalAction} {body : Except PeriodError FiscalDb}
    (h : administration s.db a = some body) :
    ∃ db, s.next a = s.withDb db ∧ Administers s.db db := by
  rw [next_of_administration h]
  cases hbody : body with
  | error e => exact ⟨s.db, rfl, keepsPeriods_of_eq rfl, rfl⟩
  | ok db => exact ⟨db, rfl, administers_of_administration (hbody ▸ h)⟩

/-! ### The law -/

theorem CachesHold.withEntries (h : s.CachesHold) (entries : List JournalEntry) :
    (s.withEntries entries).CachesHold := h

theorem CachesHold.createJournalEntry (h : s.CachesHold) (process : Id) (params : JournalParams) :
    (s.createJournalEntry process params).CachesHold := by
  unfold FiscalSystem.createJournalEntry
  cases findByIdempotencyKey s.db.entries params.idempotencyKey with
  | some _ => exact h
  | none =>
    cases Forecast.createJournalEntry (s.context process params.entryDate).accounting
      s.db.entries params with
    | error e => exact h.looked process _
    | ok created => exact (h.looked process _).withEntries created.1

theorem CachesHold.next (h : s.CachesHold) (a : FiscalAction) : (s.next a).CachesHold := by
  cases hadmin : administration s.db a with
  | some body =>
    obtain ⟨db, hnext, hkeeps, -⟩ := next_cases_of_administration hadmin
    rw [hnext]
    exact h.of_keepsPeriods hkeeps
  | none =>
    cases a with
    | createJournalEntry process params => exact h.createJournalEntry process params
    | postCosted process params =>
      simp only [FiscalSystem.next, FiscalSystem.postCosted]
      cases (s.context process params.entryDate).assertPeriodOpen params.fiscalPeriodId with
      | error e => exact h
      | ok u => exact h.createJournalEntry process params
    | reverseJournalEntry process now journalEntryId reason =>
      simp only [FiscalSystem.next, FiscalSystem.reverseJournalEntry]
      by_cases hreversible : s.isReversible journalEntryId
      · rw [if_pos hreversible]
        cases Forecast.reverseJournalEntry (s.context process now).accounting s.db.entries
          journalEntryId reason with
        | error e => exact h.looked process _
        | ok entries => exact (h.looked process _).withEntries entries
      · rw [if_neg hreversible]
        exact h
    | _ => cases hadmin

theorem cachesHold_of_noCaches (db : FiscalDb) : FiscalSystem.CachesHold { db := db } :=
  fun _ => holds_empty _

theorem row_eq_of_id_eq {db : FiscalDb} {row row' : FiscalPeriodRow} (hrow : row ∈ db.periods)
    (hrow' : row' ∈ db.periods) (hid : row.id = row'.id) : row = row' :=
  List.inj_on_of_nodup_map db.periods_nodup hrow hrow' hid

theorem not_shut_of_isOpen {now date : Millis} {row : FiscalPeriodRow}
    (hsees : s.SeesShut process (utcDay date))
    (hopened : (s.context process now).accounting.IsOpen date) (hrow : row ∈ s.db.periods)
    (hday : row.Contains (utcDay date)) : ¬s.db.Shut row := by
  intro hshut
  obtain ⟨period, hperiod, hflag⟩ := hsees row hrow hday hshut
  obtain ⟨hlocked, hclosed⟩ := hopened period hperiod
  rcases hflag with hflag | hflag
  · exact absurd hflag (by simp [hlocked])
  · exact absurd hflag (by simp [hclosed])

theorem not_shut_of_found (h : s.CachesHold) {now date : Millis} {row : FiscalPeriodRow}
    (hsees : s.SeesShut process (utcDay date))
    (hopened : (s.context process now).accounting.IsOpen date) (hrow : row ∈ s.db.periods)
    (hfound : ((s.context process now).accounting.findFiscalPeriod date).map FiscalPeriod.id =
      some row.id) : ¬s.db.Shut row := by
  obtain ⟨period, hperiod, hid⟩ := Option.map_eq_some_iff.1 hfound
  obtain ⟨row', hrow', hid', hday⟩ := h.mem_findFiscalPeriod hperiod
  have hsame : row' = row := row_eq_of_id_eq hrow' hrow (hid'.trans hid)
  exact not_shut_of_isOpen hsees hopened hrow (hsame ▸ hday)

theorem admits_entry (h : s.CachesHold) {id : Id} {currency : String}
    (hsees : s.SeesShut process (utcDay params.entryDate))
    (hnames : s.Names params fun row => ¬s.db.Shut row)
    (hopened : (s.context process params.entryDate).accounting.IsOpen params.entryDate) :
    s.db.Admits (params.entry (s.context process params.entryDate).accounting id currency) := by
  intro row hrow hplace
  rcases hplace with hday | hperiod
  · exact not_shut_of_isOpen hsees hopened hrow hday
  · change params.periodId _ = some row.id at hperiod
    unfold JournalParams.periodId at hperiod
    cases hnamed : params.fiscalPeriodId with
    | none =>
      rw [hnamed] at hperiod
      exact not_shut_of_found h hsees hopened hrow hperiod
    | some named =>
      rw [hnamed] at hperiod
      obtain ⟨period, hfound, hid⟩ := Option.map_eq_some_iff.1 hperiod
      have hpred := List.find?_some hfound
      rw [decide_eq_true_iff] at hpred
      refine hnames row hrow ?_
      rw [hnamed, ← hpred, hid]

/-- What the costing engine lets pass is shut only by the flag that it does not read. -/
theorem names_of_assertPeriodOpen {now : Millis} {u : Unit}
    (h : (s.context process now).assertPeriodOpen params.fiscalPeriodId = .ok u)
    (hclosed : s.Names params fun row => row.isClosed = false) :
    s.Names params fun row => ¬s.db.Shut row := by
  intro row hrow hnamed hshut
  rw [hnamed] at h
  simp only [CostingContext.assertPeriodOpen, bind_eq_ok, throwWhen_eq_ok, found_eq_ok] at h
  obtain ⟨-, hcheckpoint, period, hperiod, hlocked⟩ := h
  obtain ⟨row', hrow', hsame⟩ := List.mem_map.1 (lookup_eq_some hperiod).1
  have hid : row' = row := by
    refine row_eq_of_id_eq hrow' hrow ?_
    rw [hsame]
    exact (lookup_eq_some hperiod).2
  subst hid
  rcases hshut with hshut | hshut | hshut
  · rw [hsame] at hshut
    exact hlocked hshut
  · rw [hclosed row' hrow hnamed] at hshut
    cases hshut
  · exact hcheckpoint hshut

/-- A posting that knows its periods creates nothing that they do not admit. -/
theorem creates_createJournalEntry (h : s.CachesHold)
    (hknows : s.IsNew params →
      s.SeesShut process (utcDay params.entryDate) ∧ s.Names params fun row => ¬s.db.Shut row) :
    ∀ entry ∈ (s.createJournalEntry process params).db.entries,
      entry.id ∉ s.db.entries.map JournalEntry.id → s.db.Admits entry := by
  intro entry hentry hid
  rcases s.createJournalEntry_cases process params with hsame | hcreated
  · rw [hsame] at hentry
    exact absurd (List.mem_map_of_mem hentry) hid
  · obtain ⟨hnew, hopened, id, currency, hentries⟩ := hcreated
    rw [hentries] at hentry
    rcases List.mem_append.1 hentry with hold | hcreated
    · exact absurd (List.mem_map_of_mem hold) hid
    · obtain rfl := List.mem_singleton.1 hcreated
      obtain ⟨hsees, hnames⟩ := hknows hnew
      exact admits_entry h hsees hnames hopened

theorem creates_reverseJournalEntry (h : s.CachesHold) {now : Millis} {journalEntryId : Id}
    {reason : String} (hsees : s.SeesShut process (utcDay now)) :
    ∀ entry ∈ (s.reverseJournalEntry process now journalEntryId reason).db.entries,
      entry.id ∉ s.db.entries.map JournalEntry.id → s.db.Admits entry := by
  intro entry hentry hid
  rcases s.reverseJournalEntry_cases process now journalEntryId reason with hsame | hcreated
  · rw [hsame] at hentry
    exact absurd (List.mem_map_of_mem hentry) hid
  · obtain ⟨hopened, original, id, hentries⟩ := hcreated
    rw [hentries] at hentry
    obtain ⟨before, hbefore, rfl⟩ := List.mem_map.1 hentry
    have hkeeps := id_markedReversed original.id before
    rcases List.mem_append.1 hbefore with hold | hreversal
    · rw [hkeeps] at hid
      exact absurd (List.mem_map_of_mem hold) hid
    · -- the mark changes neither the date nor the period of the reversal
      have hadmits : s.db.Admits
          (original.reversal (s.context process now).accounting id reason) := by
        intro row hrow hplace
        rcases hplace with hday | hperiod
        · exact not_shut_of_isOpen hsees hopened hrow hday
        · exact not_shut_of_found h hsees hopened hrow hperiod
      obtain rfl := List.mem_singleton.1 hreversal
      unfold JournalEntry.markedReversed
      split_ifs <;> exact hadmits

theorem createsInOpenPeriods_of_postsKnowingly (h : s.CachesHold) {a : FiscalAction}
    (hknows : s.PostsKnowingly a) : s.CreatesInOpenPeriods a := by
  cases hadmin : administration s.db a with
  | some body =>
    intro entry hentry hid
    obtain ⟨db, hnext, -, hentries⟩ := next_cases_of_administration hadmin
    rw [hnext] at hentry
    exact absurd (List.mem_map_of_mem (hentries ▸ hentry : entry ∈ s.db.entries)) hid
  | none =>
    cases a with
    | createJournalEntry process params => exact creates_createJournalEntry h hknows
    | postCosted process params =>
      intro entry hentry hid
      simp only [FiscalSystem.next, FiscalSystem.postCosted] at hentry
      cases hassert : (s.context process params.entryDate).assertPeriodOpen
          params.fiscalPeriodId with
      | error e =>
        rw [hassert] at hentry
        exact absurd (List.mem_map_of_mem hentry) hid
      | ok u =>
        rw [hassert] at hentry
        refine creates_createJournalEntry h (fun hnew => ?_) entry hentry hid
        obtain ⟨hsees, hnames⟩ := hknows hnew
        exact ⟨hsees, names_of_assertPeriodOpen hassert hnames⟩
    | reverseJournalEntry process now journalEntryId reason =>
      exact creates_reverseJournalEntry h hknows
    | _ => cases hadmin

end FiscalSystem

/-- No entry of a run of any number of processes is created in a shut period. -/
def PeriodLaw (db : FiscalDb) (actions : List FiscalAction) : Prop :=
  Always FiscalSystem.next FiscalSystem.CreatesInOpenPeriods { db := db } actions

theorem periodLaw_of_postsKnowingly (db : FiscalDb) (actions : List FiscalAction)
    (h : Always FiscalSystem.next FiscalSystem.PostsKnowingly { db := db } actions) :
    PeriodLaw db actions := by
  rw [PeriodLaw, always_iff]
  intro k a ha
  have hcaches : (stateAt FiscalSystem.next { db := db } actions k).CachesHold :=
    h.invariant_at (fun _ a hcaches _ => hcaches.next a)
      (FiscalSystem.cachesHold_of_noCaches db) k
  exact FiscalSystem.createsInOpenPeriods_of_postsKnowingly hcaches (h.at ha)

/-- The period that a process finds for a day is a row whose dates contain the day. -/
def FindsByDate (s : FiscalSystem) : Prop :=
  ∀ process day, ∀ period ∈ (s.caches process).findFiscalPeriod s.db day,
    ∃ row ∈ s.db.periods, row.id = period.id ∧ row.Contains day

/-- However old the maps of the processes are, only the marks of a period that they hold are. -/
theorem findsByDate_run (db : FiscalDb) (actions : List FiscalAction) :
    FindsByDate (run FiscalSystem.next { db := db } actions) := by
  have hcaches : (run FiscalSystem.next { db := db } actions).CachesHold :=
    run_invariant (fun _ a h => h.next a) (FiscalSystem.cachesHold_of_noCaches db) actions
  exact fun _ _ _ => hcaches.mem_findFiscalPeriod

/-- One calendar with one period of thirty days. -/
def januaryBooks : FiscalDb where
  calendars := [⟨1, true⟩]
  periods := [⟨⟨10, "P01", false, false⟩, 1, 0, 30⟩]
  periods_nodup := by decide
  checkpoints := []
  costLayers := []
  entries := []
  defaultCurrency := some "USD"

def postingOn (entryDate : Millis) (key : String) : JournalParams where
  entryDate := entryDate
  referenceType := "MANUAL"
  idempotencyKey := some key
  lines :=
    [ { glAccountId := 1, debitAmount := 10, creditAmount := 0, description := none },
      { glAccountId := 2, debitAmount := 0, creditAmount := 10, description := none } ]

def lockedForTheOther : List FiscalAction :=
  [.createJournalEntry 0 (postingOn 5 "first"), .lockFiscalPeriod 10,
    .createJournalEntry 1 (postingOn 5 "second")]

theorem periodLaw_lockedForTheOther : PeriodLaw januaryBooks lockedForTheOther :=
  periodLaw_of_postsKnowingly _ _ (by decide +kernel)

/-- The same with both postings made by one process. -/
def lockedUnseen : List FiscalAction :=
  [.createJournalEntry 0 (postingOn 5 "first"), .lockFiscalPeriod 10,
    .createJournalEntry 0 (postingOn 5 "second")]

/-- The process still has the period as it was before the lock. -/
theorem not_periodLaw_lockedUnseen : ¬PeriodLaw januaryBooks lockedUnseen := by
  intro h
  have hlast := h.at (k := 2) rfl
  revert hlast
  decide +kernel

end Forecast.Costing
