import Forecast.Accounting.JournalEntries
import Forecast.Lib.ThreadPool

/-!
# Interleaved reversals

`reverseJournalEntryById` opens a transaction of its own. It reads the entry, asks for the
period of the day, and writes the mirror entry and the mark of the original at the end. Nothing
is locked in between, so that two calls on one entry can both read it as not reversed.
-/

open KeyedTable ThreadPool Runs

namespace Forecast.Reversals

/-- The ledger of a tenant, with the clock and the periods that its calls see. -/
structure JournalBook where
  tenantId : Id
  context : AccountingContext
  entries : List JournalEntry

/-- `reverseJournalEntryById(tenantId, journalEntryId, postedById, reason)` -/
structure ReverseCall where
  tenantId : Id
  journalEntryId : Id
  reason : Option String := none

/-- Where a call stands between two operations. -/
inductive ReverseThread where
  | findOriginal (call : ReverseCall)
  | validatePeriod (call : ReverseCall) (original : JournalEntry)
  | create (call : ReverseCall) (original : JournalEntry)
  | returned (reversal : JournalEntry)
  | thrown (error : JournalError)

namespace JournalBook

variable (book : JournalBook)

def checkOriginal (call : ReverseCall) : ReverseThread :=
  match lookup JournalEntry.id book.entries call.journalEntryId with
  | none => .thrown .notFound
  | some original =>
    if book.tenantId ≠ call.tenantId then .thrown .notFound
    else if original.isReversed then .thrown .alreadyReversed
    else if original.status = .reversed then .thrown .isReversal
    else .validatePeriod call original

def checkPeriod (call : ReverseCall) (original : JournalEntry) : ReverseThread :=
  match validatePeriodOpen book.context book.context.now with
  | .ok _ => .create call original
  | .error error => .thrown error

/-- The mirror entry; the id stands for the number of the original in its text. -/
def reversalOf (call : ReverseCall) (original : JournalEntry) : JournalEntry :=
  original.reversal book.context (nextJournalId book.entries)
    (call.reason.getD s!"Reversal of {original.id}")

/-- The two writes of a call, which its commit makes visible together. -/
def reverse (call : ReverseCall) (original : JournalEntry) : JournalBook :=
  { book with
    entries := (book.entries ++ [book.reversalOf call original]).map
      (JournalEntry.markedReversed original.id) }

end JournalBook

def ReverseThread.advance (book : JournalBook) : ReverseThread → JournalBook × ReverseThread
  | findOriginal call => (book, book.checkOriginal call)
  | validatePeriod call original => (book, book.checkPeriod call original)
  | create call original =>
    (book.reverse call original, .returned (book.reversalOf call original))
  | returned reversal => (book, .returned reversal)
  | thrown error => (book, .thrown error)

/-- What else happens: entries are posted, the clock moves on, periods are opened and closed. -/
inductive BookEvent where
  | createJournalEntry (params : JournalParams)
  | changeContext (context : AccountingContext)

def BookEvent.apply (book : JournalBook) : BookEvent → JournalBook
  | createJournalEntry params =>
    match Forecast.createJournalEntry book.context book.entries params with
    | .ok (entries, _) => { book with entries := entries }
    | .error _ => book
  | changeContext context => { book with context := context }

/-- A call whose connection breaks before its commit is one that takes no further step. -/
def reverseProgram : Program JournalBook ReverseThread ReverseCall Unit BookEvent where
  start _ _ call := some (.findOriginal call)
  advance book thread _ := thread.advance book
  env := BookEvent.apply

abbrev ReverseConfig := Config JournalBook ReverseThread

abbrev ReverseAction := Action ReverseCall Unit BookEvent

def reverseInit (tenantId : Id) (context : AccountingContext) : ReverseConfig :=
  ⟨⟨tenantId, context, []⟩, []⟩

/-! ### The law -/

def netOn (glAccountId : Id) (entry : JournalEntry) : ℚ :=
  ((entry.lines.filter fun line => line.glAccountId = glAccountId).map fun line =>
    line.debitAmount - line.creditAmount).sum

/-- How often an entry was reversed. -/
def reversalsOf (entries : List JournalEntry) (id : Id) : ℕ :=
  entries.countP fun entry => entry.reversalOfId = some id

/-- No entry is reversed twice, and a reversed one and its reversal cancel on every account. -/
structure ReversedOnce (entries : List JournalEntry) : Prop where
  once : ∀ id, reversalsOf entries id ≤ 1
  cancelled : ∀ entry ∈ entries, entry.isReversed = true →
    ∃ reversal ∈ entries, reversal.reversalOfId = some entry.id ∧
      ∀ glAccountId, netOn glAccountId entry + netOn glAccountId reversal = 0

/-- The check that a call made before it writes, on the entry as it stands now. -/
def ReverseThread.stillReversible (book : JournalBook) : ReverseThread → Bool
  | create _ original =>
    (lookup JournalEntry.id book.entries original.id).all fun entry => !entry.isReversed
  | _ => true

/-- Whenever a call writes its reversal, the entry is still not reversed. -/
def ReversesKnowingly (cfg : ReverseConfig) : ReverseAction → Prop
  | .step i _ => cfg.threads[i]?.all (fun thread => thread.stillReversible cfg.shared) = true
  | _ => True

instance (cfg : ReverseConfig) : (action : ReverseAction) →
    Decidable (ReversesKnowingly cfg action)
  | .step _ _ => inferInstanceAs (Decidable (_ = true))
  | .spawn _ | .env _ => inferInstanceAs (Decidable True)

/-! ### Mirrored lines -/

theorem sum_mirrored (lines : List JournalEntryLine) :
    ((lines.map JournalEntryLine.mirrored).map fun line =>
      line.debitAmount - line.creditAmount).sum =
        -(lines.map fun line => line.debitAmount - line.creditAmount).sum := by
  induction lines with
  | nil => simp
  | cons line lines ih =>
    rw [List.map_cons, List.map_cons, List.map_cons, List.sum_cons, List.sum_cons, ih]
    simp only [JournalEntryLine.mirrored]
    ring

theorem netOn_reversal (context : AccountingContext) (original : JournalEntry) (id : Id)
    (reason : String) (glAccountId : Id) :
    netOn glAccountId (original.reversal context id reason) = -netOn glAccountId original := by
  have hlines : (original.reversal context id reason).lines =
      original.lines.map JournalEntryLine.mirrored := rfl
  unfold netOn
  rw [hlines, List.filter_map, sum_mirrored]
  rfl

section Marks

variable (id : Id) (entry : JournalEntry)

theorem reversalOfId_markedReversed :
    (entry.markedReversed id).reversalOfId = entry.reversalOfId := by
  unfold JournalEntry.markedReversed
  split_ifs <;> rfl

theorem lines_markedReversed : (entry.markedReversed id).lines = entry.lines := by
  unfold JournalEntry.markedReversed
  split_ifs <;> rfl

theorem netOn_markedReversed (glAccountId : Id) :
    netOn glAccountId (entry.markedReversed id) = netOn glAccountId entry := by
  unfold netOn
  rw [lines_markedReversed]

variable {id entry}

theorem markedReversed_of_ne (h : entry.id ≠ id) : entry.markedReversed id = entry := by
  unfold JournalEntry.markedReversed
  rw [if_neg h]

theorem isReversed_markedReversed (h : entry.isReversed = true ∨ entry.id = id) :
    (entry.markedReversed id).isReversed = true := by
  unfold JournalEntry.markedReversed
  split_ifs with hid
  · rfl
  · exact h.resolve_right hid

end Marks

/-! ### What the ledger keeps -/

/-- The law, on entries with ids of their own, each of which is marked when it was reversed. -/
structure BookKept (entries : List JournalEntry) : Prop where
  ids : (entries.map JournalEntry.id).Nodup
  marked : ∀ reversal ∈ entries, ∀ id ∈ reversal.reversalOfId,
    ∃ entry ∈ entries, entry.id = id ∧ entry.isReversed = true
  law : ReversedOnce entries

/-- A copy that was read earlier still has the id and the lines of an entry. -/
def CopyOf (entries : List JournalEntry) (original : JournalEntry) : Prop :=
  ∃ entry ∈ entries, entry.id = original.id ∧ entry.lines = original.lines

namespace BookKept

variable {entries : List JournalEntry}

theorem empty : BookKept [] where
  ids := List.nodup_nil
  marked := by simp
  law := ⟨by simp [reversalsOf], by simp⟩

theorem reversalsOf_eq_zero (h : BookKept entries) {id : Id}
    (hid : ∀ entry ∈ entries, entry.id = id → entry.isReversed = false) :
    reversalsOf entries id = 0 := by
  apply List.countP_eq_zero.2
  intro reversal hreversal hof
  rw [decide_eq_true_eq] at hof
  obtain ⟨entry, hentry, hmark, hreversed⟩ := h.marked reversal hreversal id hof
  rw [hid entry hentry hmark] at hreversed
  cases hreversed

/-- A new entry that reverses nothing leaves the law alone. -/
theorem append (h : BookKept entries) {entry : JournalEntry}
    (hid : entry.id ∉ entries.map JournalEntry.id) (hnew : entry.reversalOfId = none)
    (hlive : entry.isReversed = false) : BookKept (entries ++ [entry]) where
  ids := by
    rw [List.map_append, List.map_singleton]
    exact h.ids.append (List.nodup_singleton _) (by simpa using hid)
  marked := by
    intro reversal hreversal id hof
    rcases List.mem_append.1 hreversal with hold | hlast
    · obtain ⟨marked, hmarked, hrest⟩ := h.marked reversal hold id hof
      exact ⟨marked, List.mem_append_left _ hmarked, hrest⟩
    · rw [List.mem_singleton.1 hlast, hnew] at hof
      cases hof
  law := by
    refine ⟨fun id => ?_, fun reversed hreversed hmark => ?_⟩
    · have hsame : reversalsOf (entries ++ [entry]) id = reversalsOf entries id := by
        simp [reversalsOf, List.countP_append, hnew]
      rw [hsame]
      exact h.law.once id
    · rcases List.mem_append.1 hreversed with hold | hlast
      · obtain ⟨reversal, hreversal, hrest⟩ := h.law.cancelled reversed hold hmark
        exact ⟨reversal, List.mem_append_left _ hreversal, hrest⟩
      · rw [List.mem_singleton.1 hlast, hlive] at hmark
        cases hmark

section Reverse

variable {book : JournalBook} {call : ReverseCall} {original : JournalEntry}

theorem mem_reverse {entry : JournalEntry} :
    entry ∈ (book.reverse call original).entries ↔
      (∃ before ∈ book.entries, before.markedReversed original.id = entry) ∨
        (book.reversalOf call original).markedReversed original.id = entry := by
  simp only [JournalBook.reverse, List.map_append, List.map_singleton, List.mem_append,
    List.mem_map, List.mem_singleton]
  exact or_congr Iff.rfl eq_comm

theorem reversalsOf_reverse (id : Id) :
    reversalsOf (book.reverse call original).entries id =
      reversalsOf book.entries id + if original.id = id then 1 else 0 := by
  have hmarks : (fun entry : JournalEntry => decide (entry.reversalOfId = some id)) ∘
      JournalEntry.markedReversed original.id =
        fun entry => decide (entry.reversalOfId = some id) := by
    funext entry
    simp only [Function.comp_apply, reversalOfId_markedReversed]
  have hof : (book.reversalOf call original).reversalOfId = some original.id := rfl
  unfold reversalsOf JournalBook.reverse
  rw [List.countP_map, hmarks, List.countP_append, List.countP_singleton, hof]
  simp only [Option.some.injEq, decide_eq_true_eq]

theorem reversalOf_id_ne (hcopy : CopyOf book.entries original) :
    (book.reversalOf call original).id ≠ original.id := by
  obtain ⟨entry, hentry, hid, -⟩ := hcopy
  intro hsame
  apply nextJournalId_not_mem book.entries
  rw [← hid] at hsame
  exact List.mem_map.2 ⟨entry, hentry, hsame.symm⟩

theorem reverse (h : BookKept book.entries) (hcopy : CopyOf book.entries original)
    (hlive : ∀ entry ∈ book.entries, entry.id = original.id → entry.isReversed = false) :
    BookKept (book.reverse call original).entries where
  ids := by
    have hids : (book.reverse call original).entries.map JournalEntry.id =
        book.entries.map JournalEntry.id ++ [nextJournalId book.entries] := by
      unfold JournalBook.reverse
      rw [List.map_map, show JournalEntry.id ∘ JournalEntry.markedReversed original.id =
        JournalEntry.id from funext (id_markedReversed original.id), List.map_append]
      rfl
    rw [hids]
    exact h.ids.append (List.nodup_singleton _) (by simpa using nextJournalId_not_mem book.entries)
  marked := by
    intro reversal hreversal id hof
    rcases mem_reverse.1 hreversal with ⟨before, hbefore, rfl⟩ | rfl
    · rw [reversalOfId_markedReversed] at hof
      obtain ⟨entry, hentry, rfl, hreversed⟩ := h.marked before hbefore id hof
      exact ⟨entry.markedReversed original.id, mem_reverse.2 (Or.inl ⟨entry, hentry, rfl⟩),
        id_markedReversed _ _, isReversed_markedReversed (Or.inl hreversed)⟩
    · rw [reversalOfId_markedReversed] at hof
      obtain ⟨entry, hentry, hid, -⟩ := hcopy
      exact ⟨entry.markedReversed original.id, mem_reverse.2 (Or.inl ⟨entry, hentry, rfl⟩),
        by rw [id_markedReversed, hid]; exact Option.some.inj hof,
        isReversed_markedReversed (Or.inr hid)⟩
  law := by
    refine ⟨fun id => ?_, fun reversed hreversed hmark => ?_⟩
    · rw [reversalsOf_reverse]
      split_ifs with hid
      · rw [h.reversalsOf_eq_zero fun entry hentry hsame =>
          hlive entry hentry (hsame.trans hid.symm)]
      · exact h.law.once id
    · rcases mem_reverse.1 hreversed with ⟨before, hbefore, rfl⟩ | rfl
      · by_cases hid : before.id = original.id
        · -- the entry that is reversed now
          refine ⟨_, mem_reverse.2 (Or.inr rfl), ?_, fun glAccountId => ?_⟩
          · rw [reversalOfId_markedReversed, id_markedReversed, hid]
            rfl
          · obtain ⟨entry, hentry, hentryId, hlines⟩ := hcopy
            have hsame : entry = before :=
              List.inj_on_of_nodup_map h.ids hentry hbefore (hentryId.trans hid.symm)
            have hnet : netOn glAccountId original = netOn glAccountId before := by
              unfold netOn
              rw [← hlines, hsame]
            rw [netOn_markedReversed, netOn_markedReversed, JournalBook.reversalOf, netOn_reversal,
              hnet, add_neg_cancel]
        · -- an entry that was reversed before
          rw [markedReversed_of_ne hid] at hmark ⊢
          obtain ⟨reversal, hreversal, hof, hnet⟩ := h.law.cancelled before hbefore hmark
          refine ⟨reversal.markedReversed original.id,
            mem_reverse.2 (Or.inl ⟨reversal, hreversal, rfl⟩), ?_, fun glAccountId => ?_⟩
          · rw [reversalOfId_markedReversed, hof]
          · rw [netOn_markedReversed, hnet]
      · rw [markedReversed_of_ne (reversalOf_id_ne hcopy)] at hmark
        cases hmark

theorem copyOf_reverse {copy : JournalEntry} (h : CopyOf book.entries copy) :
    CopyOf (book.reverse call original).entries copy := by
  obtain ⟨entry, hentry, hid, hlines⟩ := h
  exact ⟨entry.markedReversed original.id, mem_reverse.2 (Or.inl ⟨entry, hentry, rfl⟩),
    (id_markedReversed _ _).trans hid, (lines_markedReversed _ _).trans hlines⟩

end Reverse

end BookKept

/-! ### The steps -/

/-- The entry that a call has read. -/
def ReverseThread.Asserts (entries : List JournalEntry) : ReverseThread → Prop
  | validatePeriod _ original | create _ original => CopyOf entries original
  | _ => True

theorem ReverseThread.Asserts.of_copies {entries entries' : List JournalEntry}
    (hcopies : ∀ copy, CopyOf entries copy → CopyOf entries' copy) {thread : ReverseThread}
    (h : thread.Asserts entries) : thread.Asserts entries' := by
  cases thread with
  | validatePeriod call original => exact hcopies original h
  | create call original => exact hcopies original h
  | findOriginal call => trivial
  | returned reversal => trivial
  | thrown error => trivial

theorem asserts_checkOriginal (book : JournalBook) (call : ReverseCall) :
    (book.checkOriginal call).Asserts book.entries := by
  unfold JournalBook.checkOriginal
  cases hfound : lookup JournalEntry.id book.entries call.journalEntryId with
  | none => trivial
  | some original =>
    dsimp only
    split_ifs
    · trivial
    · trivial
    · trivial
    · exact ⟨original, (lookup_eq_some hfound).1, rfl, rfl⟩

theorem asserts_checkPeriod {book : JournalBook} {call : ReverseCall} {original : JournalEntry}
    (h : CopyOf book.entries original) :
    (book.checkPeriod call original).Asserts book.entries := by
  unfold JournalBook.checkPeriod
  split
  · exact h
  · trivial

/-- What a step owes: the law, the call's own assertion, and the copies of the others. -/
structure ReverseStep (book book' : JournalBook) (thread' : ReverseThread) : Prop where
  kept : BookKept book'.entries
  asserts : thread'.Asserts book'.entries
  copies : ∀ copy, CopyOf book.entries copy → CopyOf book'.entries copy

theorem reverseStep_advance {book : JournalBook} {thread : ReverseThread}
    (hkept : BookKept book.entries) (hasserts : thread.Asserts book.entries)
    (hcheck : thread.stillReversible book = true) :
    ReverseStep book (thread.advance book).1 (thread.advance book).2 := by
  cases thread with
  | findOriginal call => exact ⟨hkept, asserts_checkOriginal book call, fun _ => id⟩
  | validatePeriod call original => exact ⟨hkept, asserts_checkPeriod hasserts, fun _ => id⟩
  | create call original =>
    refine ⟨hkept.reverse hasserts fun entry hentry hid => ?_, trivial, fun _ =>
      BookKept.copyOf_reverse⟩
    have hfound : lookup JournalEntry.id book.entries original.id = some entry := by
      rw [← hid]
      exact lookup_of_mem hkept.ids hentry
    simpa [ReverseThread.stillReversible, hfound] using hcheck
  | returned reversal => exact ⟨hkept, trivial, fun _ => id⟩
  | thrown error => exact ⟨hkept, trivial, fun _ => id⟩

theorem reverseStep_apply {book : JournalBook} (hkept : BookKept book.entries)
    (event : BookEvent) :
    BookKept (event.apply book).entries ∧
      ∀ copy, CopyOf book.entries copy → CopyOf (event.apply book).entries copy := by
  cases event with
  | changeContext context => exact ⟨hkept, fun _ => id⟩
  | createJournalEntry params =>
    unfold BookEvent.apply
    dsimp only
    cases hcreated : Forecast.createJournalEntry book.context book.entries params with
    | error error => exact ⟨hkept, fun _ => id⟩
    | ok created =>
      cases hkey : findByIdempotencyKey book.entries params.idempotencyKey with
      | some existing =>
        unfold Forecast.createJournalEntry at hcreated
        rw [hkey] at hcreated
        cases hcreated
        exact ⟨hkept, fun _ => id⟩
      | none =>
        obtain ⟨-, hentries, currency, hentry⟩ := createJournalEntry_eq_ok hcreated hkey
        dsimp only
        rw [hentries, hentry]
        refine ⟨hkept.append (nextJournalId_not_mem book.entries) rfl rfl, ?_⟩
        rintro copy ⟨entry, hmem, hrest⟩
        exact ⟨entry, List.mem_append_left _ hmem, hrest⟩

/-! ### Runs -/

def reverseOutline : Outline JournalBook ReverseThread where
  inv book := BookKept book.entries
  asserts book thread := thread.Asserts book.entries
  pair _ _ := True
  symm _ _ _ := trivial

theorem reverseOutline_next {cfg : ReverseConfig} {action : ReverseAction}
    (h : reverseOutline.Holds cfg) (hgood : ReversesKnowingly cfg action) :
    reverseOutline.Holds (reverseProgram.next cfg action) := by
  apply Outline.Holds.next (G := ReversesKnowingly) _ _ _ h hgood
  · intro cfg call thread _ _ hstart
    obtain rfl := Option.some.inj hstart
    exact ⟨trivial, fun _ _ _ => trivial⟩
  · intro cfg i fault thread hholds hcheck hthread
    have hown : thread.stillReversible cfg.shared = true := by
      have hall : cfg.threads[i]?.all (fun thread => thread.stillReversible cfg.shared) = true :=
        hcheck
      rwa [hthread, Option.all_some] at hall
    have hstep := reverseStep_advance hholds.inv (hholds.asserts i thread hthread) hown
    exact ⟨hstep.kept, hstep.asserts, fun j other _ hother =>
      ⟨(hholds.asserts j other hother).of_copies hstep.copies, trivial⟩⟩
  · intro cfg event hholds _
    obtain ⟨hkept, hcopies⟩ := reverseStep_apply hholds.inv event
    exact ⟨hkept, fun i thread hthread => (hholds.asserts i thread hthread).of_copies hcopies⟩

theorem reverseOutline_init (tenantId : Id) (context : AccountingContext) :
    reverseOutline.Holds (reverseInit tenantId context) :=
  Outline.holds_initial (O := reverseOutline) BookKept.empty

theorem reversedOnce_of_reversesKnowingly (tenantId : Id) (context : AccountingContext)
    {actions : List ReverseAction}
    (h : Always reverseProgram.next ReversesKnowingly (reverseInit tenantId context) actions)
    (k : ℕ) :
    ReversedOnce
      (stateAt reverseProgram.next (reverseInit tenantId context) actions k).shared.entries :=
  (h.invariant_at (I := reverseOutline.Holds) (fun _ _ => reverseOutline_next)
    (reverseOutline_init tenantId context) k).inv.law

/-! ### Two calls on one entry -/

/-- No fiscal period contains any date. -/
def plainContext : AccountingContext where
  now := 0
  findFiscalPeriod _ := none
  defaultCurrency := some "EUR"

/-- Five from one account to another. -/
def fivePosted : List ReverseAction :=
  [.env (.createJournalEntry
    { entryDate := 0
      referenceType := "MANUAL"
      lines := [⟨1, 5, 0, none, none, none, none⟩, ⟨2, 0, 5, none, none, none, none⟩] })]

def reverseFive : ReverseAction := .spawn { tenantId := 3, journalEntryId := 1 }

def oneAfterAnother : List ReverseAction :=
  fivePosted ++ [reverseFive, .step 0 (), .step 0 (), .step 0 (), reverseFive, .step 1 (),
    .spawn { tenantId := 3, journalEntryId := 2 }, .step 2 (), .step 2 (), .step 2 ()]

theorem reversedOnce_oneAfterAnother :
    (stateAt reverseProgram.next (reverseInit 3 plainContext) oneAfterAnother
        11).shared.entries.length = 3 ∧
      ReversedOnce (stateAt reverseProgram.next (reverseInit 3 plainContext) oneAfterAnother
        11).shared.entries :=
  ⟨by decide +kernel, reversedOnce_of_reversesKnowingly 3 plainContext (by decide +kernel) 11⟩

/-- Both calls read the entry before either writes. -/
def bothReadFirst : List ReverseAction :=
  fivePosted ++ [reverseFive, reverseFive, .step 0 (), .step 1 (), .step 0 (), .step 1 (),
    .step 0 (), .step 1 ()]

theorem not_reversedOnce_bothReadFirst :
    ¬ReversedOnce (stateAt reverseProgram.next (reverseInit 3 plainContext) bothReadFirst
      9).shared.entries := by
  intro h
  have htwice : reversalsOf (stateAt reverseProgram.next (reverseInit 3 plainContext)
      bothReadFirst 9).shared.entries 1 = 2 := by decide +kernel
  have honce := h.once 1
  rw [htwice] at honce
  omega

end Forecast.Reversals
