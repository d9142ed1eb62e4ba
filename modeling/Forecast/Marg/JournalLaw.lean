import Forecast.Marg.JournalProjection

/-!
# The journals as a projection of the staged postings

A table of groups with their journals stands for the books: each projection has
its live journal and each live journal its projection. A posted group replaces
its entry of the table, so the journals follow the postings as long as every
change is posted.
-/

open JsText KeyedTable

namespace Forecast

def JournalEntry.isLiveMarg (j : JournalEntry) : Bool :=
  j.referenceType = margAccountingReferenceType && !j.isReversed && j.status = .posted

/-- What a journal says: its date, what it describes and its lines. -/
structure JournalContent where
  entryDate : Millis
  description : Option String
  lines : List JournalEntryLine
deriving DecidableEq

def JournalEntry.content (j : JournalEntry) : JournalContent := ⟨j.entryDate, j.description, j.lines⟩

def journalContent (group : MargAccountPostingGroup) (lines : List MargJournalLineDraft) :
    JournalContent :=
  ⟨group.date, some group.description, lines.map MargJournalLineDraft.journalLine⟩

/-- A projection and its journal. -/
structure PostedGroup where
  projection : MargAccountJournalProjection
  journal : JournalEntry

def PostedGroup.groupKey (e : PostedGroup) : String := e.projection.groupKey

theorem groupKey_projection (e : PostedGroup) : e.projection.groupKey = e.groupKey := rfl

def usedKeys (journals : List JournalEntry) : List String :=
  journals.filterMap JournalEntry.idempotencyKey

/-- The table stands for the books. -/
structure MargBooks.Holds (books : MargBooks) (posted : List PostedGroup) : Prop where
  projections : books.projections = posted.map PostedGroup.projection
  keys_nodup : (posted.map PostedGroup.groupKey).Nodup
  linked : ∀ e ∈ posted, e.projection.journalEntryId = some e.journal.id
  live : (books.journals.filter JournalEntry.isLiveMarg).Perm (posted.map PostedGroup.journal)
  ids_nodup : (books.journals.map JournalEntry.id).Nodup

/-! ### Journals that are created and reversed -/

theorem findByIdempotencyKey_eq_none {journals : List JournalEntry} {key : String}
    (h : key ∉ usedKeys journals) : findByIdempotencyKey journals (some key) = none := by
  unfold findByIdempotencyKey
  cases hgiven : given (some key) with
  | none => rfl
  | some text =>
    obtain rfl : key = text := by
      unfold given at hgiven
      exact Option.some.inj (Option.filter_eq_some_iff.1 hgiven).1
    rw [Option.bind_some, List.find?_eq_none]
    intro j hj
    rw [decide_eq_true_eq]
    exact fun hkey => h (List.mem_filterMap.2 ⟨j, hj, hkey⟩)

theorem idempotencyKey_markedReversed (id : Id) (j : JournalEntry) :
    (j.markedReversed id).idempotencyKey = j.idempotencyKey := by
  unfold JournalEntry.markedReversed
  by_cases h : j.id = id
  · rw [if_pos h]
  · rw [if_neg h]

theorem usedKeys_markedReversed (id : Id) (journals : List JournalEntry) :
    usedKeys (journals.map (JournalEntry.markedReversed id)) = usedKeys journals := by
  unfold usedKeys
  rw [List.filterMap_map]
  congr 1
  funext j
  exact idempotencyKey_markedReversed id j

theorem filter_isLiveMarg_markedReversed (id : Id) (journals : List JournalEntry) :
    (journals.map (JournalEntry.markedReversed id)).filter JournalEntry.isLiveMarg =
      (journals.filter JournalEntry.isLiveMarg).filter fun j => j.id ≠ id := by
  induction journals with
  | nil => rfl
  | cons j journals ih =>
    rw [List.map_cons]
    by_cases hid : j.id = id
    · have hmarked : (j.markedReversed id).isLiveMarg = false := by
        unfold JournalEntry.markedReversed
        rw [if_pos hid]
        simp [JournalEntry.isLiveMarg]
      rw [List.filter_cons_of_neg (by simp [hmarked]), ih]
      by_cases hlive : j.isLiveMarg = true
      · rw [List.filter_cons_of_pos hlive, List.filter_cons_of_neg (by simp [hid])]
      · rw [List.filter_cons_of_neg hlive]
    · have hmarked : j.markedReversed id = j := by
        unfold JournalEntry.markedReversed
        rw [if_neg hid]
      rw [hmarked]
      by_cases hlive : j.isLiveMarg = true
      · rw [List.filter_cons_of_pos hlive, List.filter_cons_of_pos hlive,
          List.filter_cons_of_pos (by simp [hid]), ih]
      · rw [List.filter_cons_of_neg hlive, List.filter_cons_of_neg hlive, ih]

theorem isLiveMarg_reversal (context : AccountingContext) (original : JournalEntry) (id : Id)
    (reason : String) : (original.reversal context id reason).isLiveMarg = false := by
  simp [JournalEntry.isLiveMarg, JournalEntry.reversal, margAccountingReferenceType]

/-! ### The table and the books -/

namespace MargBooks.Holds

variable {books : MargBooks} {posted : List PostedGroup}

theorem journal_live (h : books.Holds posted) {e : PostedGroup} (he : e ∈ posted) :
    e.journal ∈ books.journals ∧ e.journal.isLiveMarg = true :=
  List.mem_filter.1 (h.live.symm.subset (List.mem_map_of_mem he))

theorem lookup_journal (h : books.Holds posted) {e : PostedGroup} (he : e ∈ posted) :
    lookup JournalEntry.id books.journals e.journal.id = some e.journal :=
  lookup_of_mem h.ids_nodup (h.journal_live he).1

/-- Different groups have different journals. -/
theorem nodup_journalIds (h : books.Holds posted) :
    (posted.map fun e => e.journal.id).Nodup := by
  have hlive : ((books.journals.filter JournalEntry.isLiveMarg).map JournalEntry.id).Nodup :=
    h.ids_nodup.sublist (List.filter_sublist.map JournalEntry.id)
  have hperm := h.live.map JournalEntry.id
  rw [List.map_map] at hperm
  exact hperm.nodup_iff.1 hlive

theorem lookup_projection (h : books.Holds posted) (k : String) :
    lookup MargAccountJournalProjection.groupKey books.projections k =
      (lookup PostedGroup.groupKey posted k).map PostedGroup.projection := by
  rw [h.projections, lookup, lookup, List.find?_map]
  rfl

theorem filter_journal_ne (h : books.Holds posted) {e : PostedGroup} (he : e ∈ posted) :
    (posted.map PostedGroup.journal).filter (fun j => j.id ≠ e.journal.id) =
      (posted.filter fun other => other.groupKey ≠ e.groupKey).map PostedGroup.journal := by
  rw [List.filter_map]
  congr 1
  apply List.filter_congr
  intro other hother
  rw [Function.comp_apply]
  apply decide_eq_decide.2
  refine not_congr ⟨?_, ?_⟩
  · intro hid
    rw [List.inj_on_of_nodup_map h.nodup_journalIds hother he hid]
  · intro hkey
    rw [List.inj_on_of_nodup_map h.keys_nodup hother he hkey]

theorem reverseProjected_projectionOf (h : books.Holds posted) {context : AccountingContext}
    {k : String} (hash : String)
    (hopened : k ∈ posted.map PostedGroup.groupKey → context.IsOpen context.now) :
    ∃ journals, reverseProjected context books.journals (projectionOf books k hash) = .ok journals ∧
      (journals.filter JournalEntry.isLiveMarg).Perm
        ((posted.filter fun e => e.groupKey ≠ k).map PostedGroup.journal) ∧
      (journals.map JournalEntry.id).Nodup ∧ usedKeys journals = usedKeys books.journals := by
  cases hfound : lookup PostedGroup.groupKey posted k with
  | none =>
    have hprojection : (projectionOf books k hash).journalEntryId = none := by
      rw [projectionOf, h.lookup_projection, hfound]
      rfl
    refine ⟨books.journals, ?_, ?_, h.ids_nodup, rfl⟩
    · rw [reverseProjected, hprojection]
      rfl
    · have hall : posted.filter (fun e => e.groupKey ≠ k) = posted := by
        rw [List.filter_eq_self]
        intro e he
        apply decide_eq_true
        intro hkey
        exact lookup_eq_none.1 hfound (hkey ▸ List.mem_map_of_mem he)
      rw [hall]
      exact h.live
  | some e =>
    obtain ⟨he, rfl⟩ := lookup_eq_some hfound
    have hprojection : projectionOf books e.groupKey hash = e.projection := by
      rw [projectionOf, h.lookup_projection, hfound]
      rfl
    obtain ⟨-, hlive⟩ := h.journal_live he
    simp only [JournalEntry.isLiveMarg, Bool.and_eq_true, Bool.not_eq_true', decide_eq_true_eq]
      at hlive
    refine ⟨(books.journals ++ [e.journal.reversal context (nextJournalId books.journals)
      ("Marg account projection refreshed for " ++ e.projection.groupKey)]).map
        (JournalEntry.markedReversed e.journal.id), ?_, ?_, ?_, ?_⟩
    · rw [reverseProjected, hprojection, h.linked e he, Option.bind_some, h.lookup_journal he]
      dsimp only
      rw [if_pos (by simp [hlive]), reverseJournalEntry_of_live (h.lookup_journal he) hlive.1.2
        hlive.2 (hopened (List.mem_map_of_mem he))]
    · rw [filter_isLiveMarg_markedReversed, List.filter_append,
        List.filter_cons_of_neg (by simp [isLiveMarg_reversal]), List.filter_nil, List.append_nil,
        ← h.filter_journal_ne he]
      exact h.live.filter _
    · rw [List.map_map]
      have hids : JournalEntry.id ∘ JournalEntry.markedReversed e.journal.id = JournalEntry.id :=
        funext (id_markedReversed e.journal.id)
      rw [hids, List.map_append, List.nodup_append']
      refine ⟨h.ids_nodup, List.nodup_singleton _, ?_⟩
      intro i hi hnew
      obtain rfl := List.mem_singleton.1 hnew
      exact nextJournalId_not_mem books.journals hi
    · rw [usedKeys_markedReversed, usedKeys, List.filterMap_append]
      exact List.append_nil _

theorem postGroup_of_current (h : books.Holds posted) {settings : ProjectionPlatform}
    {context : AccountingContext} {group : MargAccountPostingGroup}
    {lines : List MargJournalLineDraft} {e : PostedGroup} (he : e ∈ posted)
    (hhash : e.projection.contentHash = contentHash settings e.groupKey group lines) :
    postGroup settings context e.groupKey group lines books = .ok (books, false) := by
  have hprojection : projectionOf books e.groupKey (contentHash settings e.groupKey group lines) =
      e.projection := by
    rw [projectionOf, h.lookup_projection, lookup_of_mem h.keys_nodup he]
    rfl
  unfold postGroup
  dsimp only
  rw [hprojection, if_pos]
  exact ⟨hhash, by rw [h.linked e he]; rfl⟩

theorem postGroup_of_new (h : books.Holds posted) {settings : ProjectionPlatform}
    {context : AccountingContext} {k : String} {group : MargAccountPostingGroup}
    {lines : List MargJournalLineDraft}
    (hhash : ∀ e ∈ posted, e.groupKey = k →
      e.projection.contentHash ≠ contentHash settings k group lines)
    (hunused : buildMargAccountJournalIdempotencyKey k (contentHash settings k group lines) ∉
      usedKeys books.journals)
    (hopened : k ∈ posted.map PostedGroup.groupKey → context.IsOpen context.now)
    (hpostable : ∀ id, (margJournalParams settings id k group lines).Postable context) :
    ∃ after e, postGroup settings context k group lines books = .ok (after, true) ∧
      after.Holds (upsert PostedGroup.groupKey posted e) ∧ e.groupKey = k ∧
      e.journal.content = journalContent group lines ∧
      e.projection.contentHash = contentHash settings k group lines ∧
      usedKeys after.journals = usedKeys books.journals ++
        [buildMargAccountJournalIdempotencyKey k (contentHash settings k group lines)] := by
  obtain ⟨journals, hreversed, hlive, hids, hused⟩ :=
    h.reverseProjected_projectionOf (contentHash settings k group lines) hopened
  have hkey : (projectionOf books k (contentHash settings k group lines)).groupKey = k := by
    rw [projectionOf, h.lookup_projection]
    cases hfound : lookup PostedGroup.groupKey posted k with
    | none => rfl
    | some e => exact (lookup_eq_some hfound).2
  have hnew : ¬((projectionOf books k (contentHash settings k group lines)).contentHash =
      contentHash settings k group lines ∧
      (projectionOf books k (contentHash settings k group lines)).journalEntryId.isSome) := by
    rw [projectionOf, h.lookup_projection]
    cases hfound : lookup PostedGroup.groupKey posted k with
    | none => simp
    | some e =>
      obtain ⟨he, hek⟩ := lookup_eq_some hfound
      exact fun hboth => hhash e he hek hboth.1
  rw [← hused] at hunused
  have hcreate := createJournalEntry_of_new (margJournalParams settings
    (projectionOf books k (contentHash settings k group lines)).id k group lines) "INR"
    (findByIdempotencyKey_eq_none hunused) (hpostable _) (by rfl)
  let entry := (margJournalParams settings
    (projectionOf books k (contentHash settings k group lines)).id k group lines).entry context
      (nextJournalId journals) "INR"
  let projection : MargAccountJournalProjection :=
    { projectionOf books k (contentHash settings k group lines) with
      contentHash := contentHash settings k group lines
      journalEntryId := some entry.id }
  refine ⟨⟨upsert MargAccountJournalProjection.groupKey books.projections projection,
    journals ++ [entry]⟩, ⟨projection, entry⟩, ?_, ?_, hkey, rfl, rfl, ?_⟩
  · unfold postGroup
    dsimp only
    rw [if_neg hnew, hreversed]
    change (createJournalEntry context journals _ >>= _) = _
    rw [hcreate]
    rfl
  · refine ⟨?_, nodup_keys_upsert h.keys_nodup, ?_, ?_, ?_⟩
    · rw [h.projections]
      exact (map_upsert groupKey_projection posted ⟨projection, entry⟩).symm
    · intro e he
      obtain rfl | he := upsert_subset he
      · rfl
      · exact h.linked e he
    · have hentry : entry.isLiveMarg = true := by
        simp [entry, JournalParams.entry, margJournalParams, JournalEntry.isLiveMarg]
      rw [List.filter_append, List.filter_cons_of_pos hentry, List.filter_nil]
      have hothers := (upsert_perm h.keys_nodup (⟨projection, entry⟩ : PostedGroup)).map
        PostedGroup.journal
      refine List.Perm.trans ?_ hothers.symm
      refine (hlive.append_right [entry]).trans ?_
      rw [List.map_cons]
      have hk : (⟨projection, entry⟩ : PostedGroup).groupKey = k := hkey
      rw [hk]
      exact List.perm_append_comm
    · rw [List.map_append, List.nodup_append']
      refine ⟨hids, List.nodup_singleton _, ?_⟩
      intro i hi hmem
      obtain rfl := List.mem_singleton.1 hmem
      exact nextJournalId_not_mem journals hi
  · rw [usedKeys, List.filterMap_append]
    exact congrArg (· ++ _) hused

end MargBooks.Holds

/-! ### The loop over the groups -/

def postedContent (posted : List PostedGroup) (k : String) : Option JournalContent :=
  (lookup PostedGroup.groupKey posted k).map fun e => e.journal.content

theorem postedContent_upsert (posted : List PostedGroup) (e : PostedGroup) (k : String) :
    postedContent (upsert PostedGroup.groupKey posted e) k =
      if e.groupKey = k then some e.journal.content else postedContent posted k := by
  rw [postedContent, lookup_upsert]
  by_cases h : e.groupKey = k
  · rw [if_pos h, if_pos h]
    rfl
  · rw [if_neg h, if_neg h]
    rfl

section Loop

variable (settings : ProjectionPlatform) (run : AccountingRun)
  (postings : List MargAccountPosting)

/-- The journal that the current rows of a group call for, if they can be projected. -/
def groupContent (group : MargAccountPostingGroup) : Option JournalContent :=
  match groupLines settings run postings group with
  | .ok lines => some (journalContent group lines)
  | .error _ => none

/-- The journal of the group is the one that its lines call for. -/
def IsCurrent (posted : List PostedGroup) (k : String) (group : MargAccountPostingGroup)
    (lines : List MargJournalLineDraft) : Prop :=
  ∃ e ∈ posted, e.groupKey = k ∧ e.projection.contentHash = contentHash settings k group lines ∧
    e.journal.content = journalContent group lines

def postingKey (k : String) (group : MargAccountPostingGroup) (lines : List MargJournalLineDraft) :
    String :=
  buildMargAccountJournalIdempotencyKey k (contentHash settings k group lines)

/-- The content is new to the group and to the books, and nothing keeps it from being posted. -/
structure IsNew (context : AccountingContext) (posted : List PostedGroup) (used : List String)
    (k : String) (group : MargAccountPostingGroup) (lines : List MargJournalLineDraft) : Prop where
  hash : ∀ e ∈ posted, e.groupKey = k →
    e.projection.contentHash ≠ contentHash settings k group lines
  unused : postingKey settings k group lines ∉ used
  opened : k ∈ posted.map PostedGroup.groupKey → context.IsOpen context.now
  postable : ∀ id, (margJournalParams settings id k group lines).Postable context

variable {settings}

theorem IsNew.not_current {context : AccountingContext} {posted : List PostedGroup}
    {used : List String} {k : String} {group : MargAccountPostingGroup}
    {lines : List MargJournalLineDraft} (h : IsNew settings context posted used k group lines) :
    ¬IsCurrent settings posted k group lines := by
  rintro ⟨e, he, hek, hhash, -⟩
  exact h.hash e he hek hhash

theorem IsCurrent.upsert {posted : List PostedGroup} {k : String}
    {group : MargAccountPostingGroup} {lines : List MargJournalLineDraft} {e : PostedGroup}
    (h : IsCurrent settings posted k group lines) (hne : k ≠ e.groupKey) :
    IsCurrent settings (KeyedTable.upsert PostedGroup.groupKey posted e) k group lines := by
  obtain ⟨other, hother, hk, hhash, hcontent⟩ := h
  refine ⟨other, ?_, hk, hhash, hcontent⟩
  apply mem_upsert_of_key_ne hother
  rw [hk]
  exact hne

theorem IsNew.upsert {context : AccountingContext} {posted : List PostedGroup}
    {used used' : List String} {k key : String} {group : MargAccountPostingGroup}
    {lines : List MargJournalLineDraft} {e : PostedGroup}
    (h : IsNew settings context posted used k group lines) (hne : k ≠ e.groupKey)
    (hused : used' = used ++ [key]) (hkey : key ≠ postingKey settings k group lines) :
    IsNew settings context (KeyedTable.upsert PostedGroup.groupKey posted e) used' k group lines
    where
  hash := by
    intro other hother hk
    obtain rfl | hother := upsert_subset hother
    · exact absurd hk hne.symm
    · exact h.hash other hother hk
  unused := by
    rw [hused, List.mem_append, List.mem_singleton]
    rintro (hmem | rfl)
    · exact h.unused hmem
    · exact hkey rfl
  opened := by
    intro hmem
    obtain hk | hk := mem_keys_upsert.1 hmem
    · exact h.opened hk
    · exact absurd hk hne
  postable := h.postable

variable (settings)

theorem holds_projectGroups {context : AccountingContext}
    {groups : List (String × MargAccountPostingGroup)} (hkeys : (groups.map Prod.fst).Nodup)
    (result : AccountingProjectionResult) {posted : List PostedGroup}
    (hholds : result.books.Holds posted)
    (hfails : ∀ kg ∈ groups, ∀ lines, groupLines settings run postings kg.2 = .ok lines →
      run.fails kg.1 = false)
    (hready : ∀ kg ∈ groups, ∀ lines, groupLines settings run postings kg.2 = .ok lines →
      IsCurrent settings posted kg.1 kg.2 lines ∨
        IsNew settings context posted (usedKeys result.books.journals) kg.1 kg.2 lines)
    (hdistinct : groups.Pairwise fun a b => ∀ lines lines',
      groupLines settings run postings a.2 = .ok lines →
      groupLines settings run postings b.2 = .ok lines' →
      IsCurrent settings posted a.1 a.2 lines ∨ IsCurrent settings posted b.1 b.2 lines' ∨
        postingKey settings a.1 a.2 lines ≠ postingKey settings b.1 b.2 lines') :
    ∃ posted', (projectGroups settings run postings context groups result).books.Holds posted' ∧
      ∀ k, postedContent posted' k =
        ((lookup Prod.fst groups k).bind fun kg => groupContent settings run postings kg.2).or
          (postedContent posted k) := by
  induction groups generalizing result posted with
  | nil => exact ⟨posted, hholds, fun k => rfl⟩
  | cons kg groups ih =>
    obtain ⟨k₀, group⟩ := kg
    rw [List.map_cons, List.nodup_cons] at hkeys
    rw [List.pairwise_cons] at hdistinct
    have hother : ∀ kg ∈ groups, kg.1 ≠ k₀ :=
      fun kg hkg hk => hkeys.1 (List.mem_map.2 ⟨kg, hkg, hk⟩)
    cases hlines : groupLines settings run postings group with
    | error reason =>
      obtain ⟨posted', hposted', hcontent⟩ := ih hkeys.2
        { result with skippedGroups := result.skippedGroups ++ [(k₀, reason)] } hholds
        (fun kg hkg => hfails kg (List.mem_cons_of_mem _ hkg))
        (fun kg hkg => hready kg (List.mem_cons_of_mem _ hkg)) hdistinct.2
      refine ⟨posted', ?_, ?_⟩
      · rw [projectGroups, hlines]
        exact hposted'
      · intro k
        rw [hcontent, lookup_cons]
        by_cases hk : k₀ = k
        · have hnone : lookup Prod.fst groups k = none :=
            lookup_eq_none.2 (hk ▸ hkeys.1)
          rw [if_pos hk, hnone, Option.bind_some, groupContent, hlines]
          rfl
        · rw [if_neg hk]
    | ok lines =>
      have hrun : run.fails k₀ = false := hfails _ List.mem_cons_self lines hlines
      have hcontent₀ : groupContent settings run postings group =
          some (journalContent group lines) := by
        rw [groupContent, hlines]
      obtain hcurrent | hnew := hready _ List.mem_cons_self lines hlines
      · obtain ⟨e, he, rfl, hhash, hjournal⟩ := hcurrent
        obtain ⟨posted', hposted', hcontent⟩ := ih hkeys.2
          { result with journalEntriesSynced := result.journalEntriesSynced + 0 } hholds
          (fun kg hkg => hfails kg (List.mem_cons_of_mem _ hkg))
          (fun kg hkg => hready kg (List.mem_cons_of_mem _ hkg)) hdistinct.2
        refine ⟨posted', ?_, ?_⟩
        · rw [projectGroups, hlines]
          dsimp only
          rw [if_neg (by simp [hrun]), hholds.postGroup_of_current he hhash]
          exact hposted'
        · intro k
          rw [hcontent, lookup_cons]
          by_cases hk : e.groupKey = k
          · have hnone : lookup Prod.fst groups k = none := lookup_eq_none.2 (hk ▸ hkeys.1)
            have hposted : postedContent posted k = some (journalContent group lines) := by
              rw [postedContent, ← hk, lookup_of_mem hholds.keys_nodup he, Option.map_some, hjournal]
            rw [if_pos hk, hnone, Option.bind_some, hcontent₀, hposted]
            rfl
          · rw [if_neg hk]
      · obtain ⟨after, e, hpost, hafter, rfl, hjournal, -, hused⟩ := hholds.postGroup_of_new
          hnew.hash hnew.unused hnew.opened hnew.postable
        obtain ⟨posted', hposted', hcontent⟩ := ih hkeys.2
          { result with
            books := after
            journalEntriesSynced := result.journalEntriesSynced + 1 } hafter
          (fun kg hkg => hfails kg (List.mem_cons_of_mem _ hkg))
          (by
            intro kg hkg lines' hlines'
            obtain hcurrent' | hnew' := hready kg (List.mem_cons_of_mem _ hkg) lines' hlines'
            · exact Or.inl (hcurrent'.upsert (hother kg hkg))
            · refine Or.inr (hnew'.upsert (hother kg hkg) hused ?_)
              obtain h | h | h := hdistinct.1 kg hkg lines lines' hlines hlines'
              · exact absurd h hnew.not_current
              · exact absurd h hnew'.not_current
              · exact h)
          (by
            refine hdistinct.2.imp_of_mem ?_
            intro a b ha hb hab lines₁ lines₂ h₁ h₂
            obtain h | h | h := hab lines₁ lines₂ h₁ h₂
            · exact Or.inl (h.upsert (hother a ha))
            · exact Or.inr (Or.inl (h.upsert (hother b hb)))
            · exact Or.inr (Or.inr h))
        refine ⟨posted', ?_, ?_⟩
        · rw [projectGroups, hlines]
          dsimp only
          rw [if_neg (by simp [hrun]), hpost]
          exact hposted'
        · intro k
          rw [hcontent, lookup_cons, postedContent_upsert]
          by_cases hk : e.groupKey = k
          · have hnone : lookup Prod.fst groups k = none := lookup_eq_none.2 (hk ▸ hkeys.1)
            rw [if_pos hk, if_pos hk, hnone, Option.bind_some, hcontent₀, hjournal]
            rfl
          · rw [if_neg hk, if_neg hk]

end Loop

end Forecast
