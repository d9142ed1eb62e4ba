import Forecast.Marg.JournalLaw

/-!
# Histories of staged postings

Rows are staged, taken away and staged again by runs that fail or complete, and a
completed run projects the journals. They equal the journals of a full
projection as long as each completed run posts every change that the history
made since the last one.
-/

open KeyedTable Runs

namespace Forecast

structure AccountingState where
  now : Millis
  /-- When the run began, while there is one. -/
  startedAt : Option Millis := none
  postings : List MargAccountPosting := []
  books : MargBooks

inductive AccountingEvent where
  | wait (time : ℕ)
  | begin
  | stage (rows : List MargAccountPosting)
  | remove (keys : List (ℤ × ℤ))
  | fail
  | complete (run : AccountingRun)

section History

variable (settings : ProjectionPlatform)

/-- The upsert of `syncAccountPostings`; the time of a row is that of its last staging. -/
def stageAccountPostings (now : Millis) (postings rows : List MargAccountPosting) :
    List MargAccountPosting :=
  upsertAll MargAccountPosting.key postings (rows.map fun p => { p with updatedAt := now })

def AccountingState.next (s : AccountingState) : AccountingEvent → AccountingState
  | .wait time => { s with now := s.now + time }
  | .begin => { s with startedAt := some s.now }
  | .stage rows => { s with postings := stageAccountPostings s.now s.postings rows }
  | .remove keys => { s with postings := s.postings.filter fun p => p.key ∉ keys }
  | .fail => { s with startedAt := none }
  | .complete run =>
    match s.startedAt with
    | none => s
    | some startedAt =>
      { s with
        startedAt := none
        books := (transformAccountPostingsToJournalEntries settings run s.postings s.now
          startedAt s.books).books }

/-- The journals of a tenant that are not from Marg. -/
structure OtherJournals where
  entries : List JournalEntry
  ids_nodup : (entries.map JournalEntry.id).Nodup
  not_marg : ∀ j ∈ entries, j.isLiveMarg = false

def AccountingState.initial (now : Millis) (others : OtherJournals) : AccountingState where
  now := now
  books := ⟨[], others.entries⟩

/-! ### The law and when a run keeps it -/

variable (run : AccountingRun)

/-- The journals of all groups of the current rows. -/
def fullProjection (postings : List MargAccountPosting) : List JournalContent :=
  (firstOfEach MargAccountPosting.group postings).filterMap fun p =>
    groupContent settings run postings p.group

/-- The Marg journals that are not reversed are those of a full projection, each once. -/
def JournalsLaw (s : AccountingState) : Prop :=
  ((s.books.journals.filter JournalEntry.isLiveMarg).map JournalEntry.content).Perm
    (fullProjection settings run s.postings)

def projectedGroups (postings : List MargAccountPosting) (startedAt : Millis) :
    List (String × MargAccountPostingGroup) :=
  if run.rules = [] then []
  else if run.hasPostingUser then touchedGroups settings run postings startedAt
  else []

def MargBooks.HasJournal (books : MargBooks) (k : String) (group : MargAccountPostingGroup)
    (lines : List MargJournalLineDraft) : Prop :=
  ∃ projection ∈ books.projections, projection.groupKey = k ∧
    projection.contentHash = contentHash settings k group lines ∧
    ∃ j ∈ books.journals, projection.journalEntryId = some j.id ∧
      j.content = journalContent group lines

/-- Neither the group nor any journal had the content, its date and, where a journal is to be
reversed, the present day are open, and its lines balance. -/
structure MargBooks.CanPost (books : MargBooks) (context : AccountingContext) (k : String)
    (group : MargAccountPostingGroup) (lines : List MargJournalLineDraft) : Prop where
  hash : ∀ projection ∈ books.projections, projection.groupKey = k →
    projection.contentHash ≠ contentHash settings k group lines
  unused : postingKey settings k group lines ∉ usedKeys books.journals
  opened : k ∈ books.projections.map MargAccountJournalProjection.groupKey →
    context.IsOpen context.now
  postable : ∀ id, (margJournalParams settings id k group lines).Postable context

/-- Every change since the last completed run is posted by this one. -/
structure PostsEveryChange (s : AccountingState) (startedAt : Millis) : Prop where
  keysApart : ∀ p ∈ s.postings, ∀ q ∈ s.postings,
    (groupContent settings run s.postings p.group).isSome →
    (groupContent settings run s.postings q.group).isSome →
    p.groupKey settings.platform = q.groupKey settings.platform → p.group = q.group
  kept : ∀ projection ∈ s.books.projections, ∃ p ∈ s.postings,
    p.groupKey settings.platform = projection.groupKey ∧
      (groupContent settings run s.postings p.group).isSome
  posted : ∀ p ∈ s.postings, ∀ lines, groupLines settings run s.postings p.group = .ok lines →
    s.books.HasJournal settings (p.groupKey settings.platform) p.group lines ∨
      ((p.groupKey settings.platform, p.group) ∈
          projectedGroups settings run s.postings startedAt ∧
        s.books.CanPost settings ⟨s.now, run.findFiscalPeriod, [], none⟩
          (p.groupKey settings.platform) p.group lines)
  distinct : ∀ p ∈ s.postings, ∀ q ∈ s.postings, ∀ lines lines',
    groupLines settings run s.postings p.group = .ok lines →
    groupLines settings run s.postings q.group = .ok lines' →
    postingKey settings (p.groupKey settings.platform) p.group lines =
      postingKey settings (q.groupKey settings.platform) q.group lines' → p.group = q.group
  uninterrupted : ∀ kg ∈ projectedGroups settings run s.postings startedAt, ∀ lines,
    groupLines settings run s.postings kg.2 = .ok lines → run.fails kg.1 = false

variable {settings run}

/-! ### One completed run -/

theorem books_transform (postings : List MargAccountPosting) (now startedAt : Millis)
    (books : MargBooks) :
    (transformAccountPostingsToJournalEntries settings run postings now startedAt books).books =
      (projectGroups settings run postings ⟨now, run.findFiscalPeriod, [], none⟩
        (projectedGroups settings run postings startedAt) { books := books }).books := by
  unfold transformAccountPostingsToJournalEntries projectedGroups
  by_cases hrules : run.rules = []
  · rw [if_pos hrules, if_pos hrules]
    rfl
  · rw [if_neg hrules, if_neg hrules]
    by_cases huser : run.hasPostingUser = true
    · rw [if_pos huser, if_pos huser]
    · rw [if_neg huser, if_neg huser]
      rfl

theorem nodup_keys_projectedGroups (settings : ProjectionPlatform) (run : AccountingRun)
    (postings : List MargAccountPosting) (startedAt : Millis) :
    ((projectedGroups settings run postings startedAt).map Prod.fst).Nodup := by
  unfold projectedGroups touchedGroups
  split_ifs
  · exact List.nodup_nil
  · exact nodup_keys_firstOfEach _
  · exact List.nodup_nil

theorem exists_posting_of_projectedGroup {postings : List MargAccountPosting} {startedAt : Millis}
    {kg : String × MargAccountPostingGroup}
    (h : kg ∈ projectedGroups settings run postings startedAt) :
    ∃ p ∈ postings, kg = (p.groupKey settings.platform, p.group) := by
  unfold projectedGroups touchedGroups at h
  split_ifs at h
  · exact absurd h List.not_mem_nil
  · obtain ⟨p, hp, rfl⟩ := List.mem_map.1 (firstOfEach_subset h)
    exact ⟨p, (List.mem_filter.1 hp).1, rfl⟩
  · exact absurd h List.not_mem_nil

theorem groupContent_eq_some {postings : List MargAccountPosting} {group : MargAccountPostingGroup}
    {content : JournalContent} :
    groupContent settings run postings group = some content ↔
      ∃ lines, groupLines settings run postings group = .ok lines ∧
        journalContent group lines = content := by
  unfold groupContent
  cases groupLines settings run postings group with
  | ok lines => simp
  | error reason => simp

section Table

variable {books : MargBooks} {posted : List PostedGroup}

theorem MargBooks.Holds.isCurrent_of_hasJournal (h : books.Holds posted) {k : String}
    {group : MargAccountPostingGroup} {lines : List MargJournalLineDraft}
    (hjournal : books.HasJournal settings k group lines) :
    IsCurrent settings posted k group lines := by
  obtain ⟨projection, hmem, hk, hhash, j, hj, hid, hcontent⟩ := hjournal
  rw [h.projections] at hmem
  obtain ⟨e, he, rfl⟩ := List.mem_map.1 hmem
  rw [h.linked e he, Option.some.injEq] at hid
  obtain rfl : e.journal = j :=
    List.inj_on_of_nodup_map h.ids_nodup (h.journal_live he).1 hj hid
  exact ⟨e, he, hk, hhash, hcontent⟩

theorem MargBooks.Holds.isNew_of_canPost (h : books.Holds posted) {context : AccountingContext}
    {k : String} {group : MargAccountPostingGroup} {lines : List MargJournalLineDraft}
    (hpost : books.CanPost settings context k group lines) :
    IsNew settings context posted (usedKeys books.journals) k group lines where
  hash := by
    intro e he hk
    apply hpost.hash e.projection _ hk
    rw [h.projections]
    exact List.mem_map_of_mem he
  unused := hpost.unused
  opened := by
    intro hk
    apply hpost.opened
    rw [h.projections, List.map_map]
    exact hk
  postable := hpost.postable

theorem mem_of_postedContent {k : String} {content : JournalContent}
    (h : postedContent posted k = some content) :
    ∃ e ∈ posted, e.groupKey = k ∧ e.journal.content = content := by
  obtain ⟨e, he, hcontent⟩ := Option.map_eq_some_iff.1 h
  obtain ⟨hmem, hk⟩ := lookup_eq_some he
  exact ⟨e, hmem, hk, hcontent⟩

theorem postedContent_of_mem (hkeys : (posted.map PostedGroup.groupKey).Nodup) {e : PostedGroup}
    (he : e ∈ posted) : postedContent posted e.groupKey = some e.journal.content := by
  rw [postedContent, lookup_of_mem hkeys he]
  rfl

end Table

variable {s : AccountingState} {startedAt : Millis}

theorem PostsEveryChange.postedContent_iff
    (h : PostsEveryChange settings run s startedAt) {posted posted' : List PostedGroup}
    (hholds : s.books.Holds posted)
    (hcontent : ∀ k, postedContent posted' k =
      ((lookup Prod.fst (projectedGroups settings run s.postings startedAt) k).bind fun kg =>
        groupContent settings run s.postings kg.2).or (postedContent posted k))
    {k : String} {content : JournalContent} :
    postedContent posted' k = some content ↔
      ∃ p ∈ s.postings, p.groupKey settings.platform = k ∧
        groupContent settings run s.postings p.group = some content := by
  rw [hcontent]
  constructor
  · intro hk
    obtain hgroup | ⟨hnone, hold⟩ := Option.or_eq_some_iff.1 hk
    · obtain ⟨kg, hkg, hcalled⟩ := Option.bind_eq_some_iff.1 hgroup
      obtain ⟨hmem, hkey⟩ := lookup_eq_some hkg
      obtain ⟨p, hp, rfl⟩ := exists_posting_of_projectedGroup hmem
      exact ⟨p, hp, hkey, hcalled⟩
    · -- an old journal: its group still calls for one, and for this one
      obtain ⟨e, he, rfl, rfl⟩ := mem_of_postedContent hold
      obtain ⟨p, hp, hkey, hsome⟩ := h.kept e.projection (by
        rw [hholds.projections]
        exact List.mem_map_of_mem he)
      obtain ⟨content, hp'⟩ := Option.isSome_iff_exists.1 hsome
      obtain ⟨lines, hlines, rfl⟩ := groupContent_eq_some.1 hp'
      refine ⟨p, hp, hkey, ?_⟩
      obtain hjournal | ⟨hgroup, -⟩ := h.posted p hp lines hlines
      · obtain ⟨e', he', hk', -, hjournal⟩ := hholds.isCurrent_of_hasJournal hjournal
        obtain rfl : e' = e :=
          List.inj_on_of_nodup_map hholds.keys_nodup he' he (hk'.trans hkey)
        rw [hp', hjournal]
      · have hfound := lookup_of_mem (nodup_keys_projectedGroups settings run s.postings startedAt) hgroup
        change p.groupKey settings.platform = e.groupKey at hkey
        rw [hkey] at hfound
        rw [hfound, Option.bind_some, hp'] at hnone
        exact absurd hnone (Option.some_ne_none _)
  · rintro ⟨p, hp, rfl, hp'⟩
    obtain ⟨lines, hlines, rfl⟩ := groupContent_eq_some.1 hp'
    obtain hjournal | ⟨hgroup, -⟩ := h.posted p hp lines hlines
    · obtain ⟨e, he, hk, -, hjournal⟩ := hholds.isCurrent_of_hasJournal hjournal
      have hold : postedContent posted (p.groupKey settings.platform) =
          some (journalContent p.group lines) := by
        rw [← hk, postedContent_of_mem hholds.keys_nodup he, hjournal]
      rw [hold]
      cases hfound : lookup Prod.fst (projectedGroups settings run s.postings startedAt)
          (p.groupKey settings.platform) with
      | none => rfl
      | some kg =>
        obtain ⟨hmem, hkey⟩ := lookup_eq_some hfound
        obtain ⟨q, hq, rfl⟩ := exists_posting_of_projectedGroup hmem
        rw [Option.bind_some]
        cases hq' : groupContent settings run s.postings q.group with
        | none => rfl
        | some content =>
          have hgroup := h.keysApart q hq p hp (by rw [hq']; rfl) (by rw [hp']; rfl) hkey
          rw [hgroup, hp'] at hq'
          rw [← hq']
          rfl
    · have hfound := lookup_of_mem (nodup_keys_projectedGroups settings run s.postings startedAt) hgroup
      change lookup Prod.fst _ (p.groupKey settings.platform) = _ at hfound
      rw [hfound, Option.bind_some, hp']
      rfl

theorem map_fst_filterMap {α β κ : Type*} (k : α → κ) (f : α → Option β) (xs : List α) :
    (xs.filterMap fun x => (f x).map fun y => (k x, y)).map Prod.fst =
      (xs.filter fun x => (f x).isSome).map k := by
  induction xs with
  | nil => rfl
  | cons x xs ih => cases h : f x <;> simp [h, ih]

theorem map_snd_filterMap {α β κ : Type*} (k : α → κ) (f : α → Option β) (xs : List α) :
    (xs.filterMap fun x => (f x).map fun y => (k x, y)).map Prod.snd = xs.filterMap f := by
  induction xs with
  | nil => rfl
  | cons x xs ih => cases h : f x <;> simp [h, ih]

theorem PostsEveryChange.perm_fullProjection (h : PostsEveryChange settings run s startedAt)
    {posted : List PostedGroup} (hkeys : (posted.map PostedGroup.groupKey).Nodup)
    (hcontent : ∀ k content, postedContent posted k = some content ↔
      ∃ p ∈ s.postings, p.groupKey settings.platform = k ∧
        groupContent settings run s.postings p.group = some content) :
    (posted.map fun e => e.journal.content).Perm (fullProjection settings run s.postings) := by
  have hreps : ((firstOfEach MargAccountPosting.group s.postings).map
      MargAccountPosting.group).Nodup := nodup_keys_firstOfEach s.postings
  have hcalled : ((firstOfEach MargAccountPosting.group s.postings).filterMap fun p =>
      (groupContent settings run s.postings p.group).map fun content =>
        (p.groupKey settings.platform, content)).Nodup := by
    apply List.Nodup.of_map Prod.fst
    rw [map_fst_filterMap]
    apply List.Nodup.map_on
    · intro p hp q hq hkey
      obtain ⟨hpmem, hpcalls⟩ := List.mem_filter.1 hp
      obtain ⟨hqmem, hqcalls⟩ := List.mem_filter.1 hq
      have hgroup := h.keysApart p (firstOfEach_subset hpmem) q (firstOfEach_subset hqmem) hpcalls
        hqcalls hkey
      exact List.inj_on_of_nodup_map hreps hpmem hqmem hgroup
    · exact (List.Nodup.of_map _ hreps).filter _
  have hposted : (posted.map fun e => (e.groupKey, e.journal.content)).Nodup := by
    apply List.Nodup.of_map Prod.fst
    rw [List.map_map]
    exact hkeys
  have hperm := (List.perm_ext_iff_of_nodup hposted hcalled).2 fun ⟨k, content⟩ => by
    have hmem : (k, content) ∈ posted.map (fun e => (e.groupKey, e.journal.content)) ↔
        postedContent posted k = some content := by
      constructor
      · intro hmem
        obtain ⟨e, he, hpair⟩ := List.mem_map.1 hmem
        obtain ⟨rfl, rfl⟩ := Prod.mk.inj hpair
        exact postedContent_of_mem hkeys he
      · intro hfound
        obtain ⟨e, he, rfl, rfl⟩ := mem_of_postedContent hfound
        exact List.mem_map_of_mem he
    rw [hmem, hcontent, List.mem_filterMap]
    constructor
    · rintro ⟨p, hp, rfl, hp'⟩
      -- the first row of the group stands for it
      have hgroup : p.group ∈ (firstOfEach MargAccountPosting.group s.postings).map
          MargAccountPosting.group := mem_keys_firstOfEach.2 (List.mem_map_of_mem hp)
      obtain ⟨q, hq, hqp⟩ := List.mem_map.1 hgroup
      refine ⟨q, hq, ?_⟩
      rw [hqp, hp', groupKey_eq_of_group_eq hqp]
      rfl
    · rintro ⟨p, hp, hpair⟩
      obtain ⟨content', hp', hpair⟩ := Option.map_eq_some_iff.1 hpair
      obtain ⟨rfl, rfl⟩ := Prod.mk.inj hpair
      exact ⟨p, firstOfEach_subset hp, rfl, hp'⟩
  have hcontents := hperm.map Prod.snd
  rw [map_snd_filterMap, List.map_map] at hcontents
  exact hcontents

theorem PostsEveryChange.holds_and_perm (h : PostsEveryChange settings run s startedAt)
    {posted : List PostedGroup} (hholds : s.books.Holds posted) :
    ∃ posted', (transformAccountPostingsToJournalEntries settings run s.postings s.now startedAt
        s.books).books.Holds posted' ∧
      (posted'.map fun e => e.journal.content).Perm (fullProjection settings run s.postings) := by
  have hready : ∀ kg ∈ projectedGroups settings run s.postings startedAt, ∀ lines,
      groupLines settings run s.postings kg.2 = .ok lines →
      IsCurrent settings posted kg.1 kg.2 lines ∨
        IsNew settings ⟨s.now, run.findFiscalPeriod, [], none⟩ posted (usedKeys s.books.journals)
          kg.1 kg.2 lines := by
    intro kg hkg lines hlines
    obtain ⟨p, hp, rfl⟩ := exists_posting_of_projectedGroup hkg
    obtain hjournal | ⟨-, hpost⟩ := h.posted p hp lines hlines
    · exact Or.inl (hholds.isCurrent_of_hasJournal hjournal)
    · exact Or.inr (hholds.isNew_of_canPost hpost)
  have hdistinct : (projectedGroups settings run s.postings startedAt).Pairwise fun a b =>
      ∀ lines lines', groupLines settings run s.postings a.2 = .ok lines →
      groupLines settings run s.postings b.2 = .ok lines' →
      IsCurrent settings posted a.1 a.2 lines ∨ IsCurrent settings posted b.1 b.2 lines' ∨
        postingKey settings a.1 a.2 lines ≠ postingKey settings b.1 b.2 lines' := by
    have hkeys := nodup_keys_projectedGroups settings run s.postings startedAt
    rw [List.Nodup, List.pairwise_map] at hkeys
    refine hkeys.imp_of_mem ?_
    intro a b ha hb hne lines lines' hlines hlines'
    obtain ⟨p, hp, rfl⟩ := exists_posting_of_projectedGroup ha
    obtain ⟨q, hq, rfl⟩ := exists_posting_of_projectedGroup hb
    refine Or.inr (Or.inr fun hkey => hne ?_)
    exact groupKey_eq_of_group_eq (h.distinct p hp q hq lines lines' hlines hlines' hkey)
  obtain ⟨posted', hposted', hcontent⟩ := holds_projectGroups settings run s.postings
    (nodup_keys_projectedGroups settings run s.postings startedAt) { books := s.books } hholds
    h.uninterrupted hready hdistinct
  refine ⟨posted', ?_, ?_⟩
  · rw [books_transform]
    exact hposted'
  · exact h.perm_fullProjection hposted'.keys_nodup fun k content =>
      h.postedContent_iff hholds hcontent

/-! ### Histories -/

theorem next_complete (h : s.startedAt = some startedAt) :
    s.next settings (.complete run) =
      { s with
        startedAt := none
        books := (transformAccountPostingsToJournalEntries settings run s.postings s.now startedAt
          s.books).books } := by
  unfold AccountingState.next
  rw [h]

def PostsChanges (settings : ProjectionPlatform) (s : AccountingState) (e : AccountingEvent) : Prop :=
  match e with
  | .complete run => ∀ startedAt, s.startedAt = some startedAt →
      PostsEveryChange settings run s startedAt
  | _ => True

theorem exists_holds_next (e : AccountingEvent) (hposts : PostsChanges settings s e)
    (h : ∃ posted, s.books.Holds posted) : ∃ posted, (s.next settings e).books.Holds posted := by
  cases e with
  | complete run =>
    cases hstarted : s.startedAt with
    | none =>
      unfold AccountingState.next
      rw [hstarted]
      exact h
    | some startedAt =>
      rw [next_complete hstarted]
      obtain ⟨posted, hholds⟩ := h
      obtain ⟨posted', hposted', -⟩ := (hposts startedAt hstarted).holds_and_perm hholds
      exact ⟨posted', hposted'⟩
  | _ => exact h

theorem exists_holds_initial (now : Millis) (others : OtherJournals) :
    ∃ posted, (AccountingState.initial now others).books.Holds posted := by
  refine ⟨[], rfl, List.nodup_nil, ?_, ?_, others.ids_nodup⟩
  · intro e he
    exact absurd he List.not_mem_nil
  · have hnone : others.entries.filter JournalEntry.isLiveMarg = [] := by
      rw [List.filter_eq_nil_iff]
      intro j hj
      rw [others.not_marg j hj]
      exact Bool.false_ne_true
    exact hnone ▸ List.Perm.refl _

/-- In a history whose completed runs post every change, each of them leaves the journals of a
full projection. -/
theorem journalsLaw_of_postsChanges (settings : ProjectionPlatform) (now : Millis)
    (others : OtherJournals) (events : List AccountingEvent)
    (hposts : Always (AccountingState.next settings) (PostsChanges settings)
      (AccountingState.initial now others) events)
    (k : ℕ) (run : AccountingRun) (hcomplete : events[k]? = some (.complete run))
    (hrunning : (stateAt (AccountingState.next settings) (AccountingState.initial now others)
      events k).startedAt ≠ none) :
    JournalsLaw settings run (stateAt (AccountingState.next settings)
      (AccountingState.initial now others) events (k + 1)) := by
  have hholds := Always.invariant_at (I := fun s : AccountingState => ∃ posted, s.books.Holds posted)
    (fun s e h hP => exists_holds_next e hP h) (exists_holds_initial now others) hposts k
  obtain ⟨posted, hholds⟩ := hholds
  obtain ⟨startedAt, hstarted⟩ := Option.ne_none_iff_exists'.1 hrunning
  have hpost := hposts.at hcomplete startedAt hstarted
  obtain ⟨posted', hposted', hperm⟩ := hpost.holds_and_perm hholds
  rw [stateAt_succ _ _ hcomplete, next_complete hstarted]
  refine List.Perm.trans ?_ hperm
  have hlive := hposted'.live.map JournalEntry.content
  rw [List.map_map] at hlive
  exact hlive

end History

def postingOf (margId : ℤ) (code : String) (amount : ℚ) : MargAccountPosting where
  companyId := 1
  margId := margId
  voucher := .of "V1"
  date := 0
  code := code
  amount := amount
  book := .of "CB"
  code1 := ""
  gCode := ""
  remark := .of ""
  updatedAt := 0
  book_le := by decide +kernel

def ruleOf (partyCode : String) (glAccountId : Id) : MargGLMappingRule :=
  ⟨none, "", "", partyCode, "", "", glAccountId, 0⟩

def voucherDigest (payload : JournalPayload) : String :=
  if payload.lines = [(1, 100, 0), (2, 0, 100)] then
    "067e4077a81b699ba2621a64763b0e2aa736f1884e83a4e94e4af8d8dbdeafc5"
  else "29fe5b0881cdb5d643b2f0e0a31eb9f524eba42ba0678779159920731bd1af00"

def voucherPlatform : ProjectionPlatform := ⟨asciiPlatform, voucherDigest⟩

def voucherRun : AccountingRun where
  rules := [ruleOf "CASH" 1, ruleOf "SALES" 2]

def voucherSync (amount : ℚ) : List AccountingEvent :=
  [.wait 1000, .begin, .stage [postingOf 1 "CASH" amount, postingOf 2 "SALES" (-amount)],
    .complete voucherRun]

def noOtherJournals : OtherJournals := ⟨[], by decide, by decide⟩

def voucherLines : List MargJournalLineDraft :=
  [⟨1, .debit, 100, "Book CB | Voucher V1 | Code CASH"⟩,
    ⟨2, .credit, 100, "Book CB | Voucher V1 | Code SALES"⟩]

def voucherStaged : AccountingState :=
  Runs.run (AccountingState.next voucherPlatform) (AccountingState.initial 0 noOtherJournals)
    ((voucherSync 100).take 3)

theorem postsEveryChange_voucherStaged :
    PostsEveryChange voucherPlatform voucherRun voucherStaged 1000 where
  keysApart := by decide +kernel
  kept := fun _ h => absurd h List.not_mem_nil
  posted := by
    intro p hp lines hlines
    have hall : ∀ p ∈ voucherStaged.postings,
        groupLines voucherPlatform voucherRun voucherStaged.postings p.group = .ok voucherLines ∧
          (p.groupKey voucherPlatform.platform, p.group) ∈
            projectedGroups voucherPlatform voucherRun voucherStaged.postings 1000 := by
      decide +kernel
    obtain ⟨hvoucher, hgroup⟩ := hall p hp
    rw [hvoucher] at hlines
    obtain rfl := Except.ok.inj hlines
    refine Or.inr ⟨hgroup, ?_, ?_, ?_, ?_⟩
    · exact fun _ h => absurd h List.not_mem_nil
    · exact List.not_mem_nil
    · exact fun h => absurd h List.not_mem_nil
    · refine fun id => ⟨fun _ h => absurd h (by simp [voucherRun]), ?_, ?_⟩
      · simp only [margJournalParams, JournalParams.totalDebit, JournalParams.totalCredit]
        decide +kernel
      · simp only [margJournalParams, JournalParams.totalDebit]
        decide +kernel
  distinct := by
    intro p hp q hq _ _ _ _ _
    have hone : ∀ p ∈ voucherStaged.postings, ∀ q ∈ voucherStaged.postings, p.group = q.group := by
      decide +kernel
    exact hone p hp q hq
  uninterrupted := fun _ _ _ _ => rfl

theorem journalsLaw_firstSync :
    JournalsLaw voucherPlatform voucherRun (stateAt (AccountingState.next voucherPlatform)
      (AccountingState.initial 0 noOtherJournals) (voucherSync 100) (3 + 1)) :=
  journalsLaw_of_postsChanges voucherPlatform 0 noOtherJournals (voucherSync 100)
    ⟨trivial, trivial, trivial, fun startedAt hstarted => by
      obtain rfl : (1000 : Millis) = startedAt := Option.some.inj hstarted
      exact postsEveryChange_voucherStaged, trivial⟩
    3 voucherRun rfl (by decide)

/-- The voucher is changed and changed back: its journal was reversed, and none is posted. -/
theorem not_journalsLaw_changedBack :
    ¬JournalsLaw voucherPlatform voucherRun (Runs.run (AccountingState.next voucherPlatform)
      (AccountingState.initial 0 noOtherJournals)
      (voucherSync 100 ++ voucherSync 120 ++ voucherSync 100)) := by
  intro h
  have hlength := h.length_eq
  revert hlength
  decide +kernel

end Forecast
