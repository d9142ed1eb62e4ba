import Forecast.Accounting.PostingProfiles
import Forecast.Costing.JournalPostings

/-!
# Issues that costing accepts

Costing finds what an issue costs, also nothing; the journal refuses an entry of
nothing. An issue that costing accepts is posted exactly when there is a profile for
it and its key is in the journal or its cost can be entered.
-/

open KeyedTable DecimalColumn Transactions

namespace Forecast.Costing

open Inventory (Qty StockKey)

variable {ctx : CostingContext} {db : CostingDb} {journal : List JournalEntry}

/-! ### What an issue costs -/

/-- What the layers cost, taken from in their order until the quantity is there. -/
def layersCost : Decimal → Decimal → List CostLayer → Decimal
  | _, total, [] => total
  | need, total, l :: ls =>
    if need ≤ 0 then layersCost need total ls
    else
      layersCost (need.minus (min need l.remainingQty.value))
        (total.plus ((min need l.remainingQty.value).times l.unitCost.value)) ls

/-- The quantity at the unit cost of its method: of the layers one after another, of the average
or of the standard. -/
def IssueCostParams.worth (params : IssueCostParams) (ctx : CostingContext) (books : Books) :
    Except CostingError Decimal :=
  match ctx.resolveMethod params.key with
  | .fifo | .lifo =>
    .ok (layersCost params.quantity 0
      (openLayers books.costLayers (ctx.resolveMethod params.key) params.key))
  | .movingAverage => .ok (params.quantity.times (books.getMovingAverageCost params.key))
  | .standard | .actualJobCosting => do
      let stdCost ← ctx.getStandardCost params.key.productId
      pure (params.quantity.times stdCost)

theorem totalCost_depleteLayers {reference : DepletionReference} {s s' : DepletionState}
    {ls : List CostLayer} (h : forEach (depleteLayer reference) s ls = .ok s') :
    s'.totalCost = layersCost s.remaining s.totalCost ls := by
  induction ls generalizing s with
  | nil =>
    cases h
    rfl
  | cons l ls ih =>
    obtain ⟨m, hm, h⟩ := forEach_cons_eq_ok.1 h
    rw [ih h, layersCost]
    unfold depleteLayer at hm
    by_cases hneed : s.remaining ≤ 0
    · rw [if_pos hneed] at hm ⊢
      cases hm
      rfl
    · rw [if_neg hneed] at hm ⊢
      simp only [bind_eq_ok, pure_eq_ok] at hm
      obtain ⟨_, -, _, -, _, -, rfl⟩ := hm
      rfl

example : layersCost 4 0 [] = 0 := by decide +kernel

theorem worth_of_leaveBooks {params : IssueCostParams} {books : Books} {issued : Books × Decimal}
    (h : params.leaveBooks ctx books = .ok issued) : params.worth ctx books = .ok issued.2 := by
  unfold IssueCostParams.leaveBooks at h
  unfold IssueCostParams.worth
  cases hmethod : ctx.resolveMethod params.key with
  | fifo =>
    simp only [hmethod, Books.depleteCostLayers, bind_eq_ok, pure_eq_ok] at h ⊢
    obtain ⟨s, hs, -, -, rfl⟩ := h
    exact congrArg Except.ok (totalCost_depleteLayers hs).symm
  | lifo =>
    simp only [hmethod, Books.depleteCostLayers, bind_eq_ok, pure_eq_ok] at h ⊢
    obtain ⟨s, hs, -, -, rfl⟩ := h
    exact congrArg Except.ok (totalCost_depleteLayers hs).symm
  | movingAverage =>
    simp only [hmethod, bind_eq_ok, pure_eq_ok] at h ⊢
    obtain ⟨_, -, rfl⟩ := h
    rfl
  | standard =>
    simp only [hmethod, bind_eq_ok, pure_eq_ok] at h ⊢
    obtain ⟨stdCost, hstd, rfl⟩ := h
    exact ⟨stdCost, hstd, rfl⟩
  | actualJobCosting =>
    simp only [hmethod, bind_eq_ok, pure_eq_ok] at h ⊢
    obtain ⟨stdCost, hstd, rfl⟩ := h
    exact ⟨stdCost, hstd, rfl⟩

/-! ### What the journal takes -/

theorem postingKey_ne_empty (transactionType : PostingTransactionType) (referenceId : Id) :
    postingKey transactionType referenceId ≠ "" := by
  intro h
  have hlength := congrArg String.length h
  rw [postingKey, String.length_append, String.length_append] at hlength
  simp at hlength

theorem findByIdempotencyKey_eq_none_iff {key : String} (hkey : key ≠ "") :
    findByIdempotencyKey journal (some key) = none ↔ KeyFree journal key := by
  constructor
  · intro h
    have hgiven : given (some key) = some key := by simp [given, hkey]
    rw [findByIdempotencyKey, hgiven, Option.bind_some, List.find?_eq_none] at h
    exact fun entry hentry => by simpa using h entry hentry
  · exact findByIdempotencyKey_eq_none

/-- There is a profile for the posting, and its key is in the journal or its entry can be
made: today is open, there is a currency, and the amount is not zero and fits its column. -/
structure PostingParams.Enterable (ctx : CostingContext) (journal : List JournalEntry)
    (params : PostingParams) : Prop where
  profile : ∃ p ∈ ctx.postingProfiles, p.transactionType = params.transactionType ∧
    p.isActive = true
  entered : KeyFree journal params.key → ctx.accounting.IsOpen ctx.accounting.now ∧
    params.amount ≠ 0 ∧ (∃ currency, given ctx.accounting.defaultCurrency = some currency) ∧
      ∃ c : Qty, Column.store params.amount = some c

theorem exists_resolvePostingProfile {transactionType : PostingTransactionType}
    {locationId : Option Id} {profiles : List PostingProfile} :
    (∃ profile, resolvePostingProfile profiles transactionType locationId = some profile) ↔
      ∃ p ∈ profiles, p.transactionType = transactionType ∧ p.isActive = true := by
  rw [Postings.resolvePostingProfile_engine Postings.plainTables, ← Option.isSome_iff_exists,
    Option.isSome_iff_ne_none, Ne, Postings.resolvePostingProfile_eq_none,
    Postings.activeProfiles, List.filter_eq_nil_iff]
  simp

theorem exists_entryColumns {params : PostingParams} {profile : PostingProfile} {id : Id}
    {currency : String} (now : Millis) :
    (∃ row, entryColumns ((params.toJournal profile now).entry ctx.accounting id currency) =
        .ok row) ↔ ∃ c : Qty, Column.store params.amount = some c := by
  have hdebit := params.totalDebit_toJournal profile now
  have hcredit : (params.toJournal profile now).totalCredit = params.amount := by
    simp [JournalParams.totalCredit, PostingParams.toJournal]
  constructor
  · rintro ⟨row, hrow⟩
    simp only [entryColumns, bind_eq_ok, columnOf_eq_ok] at hrow
    obtain ⟨c, hc, -⟩ := hrow
    rw [JournalParams.entry, hdebit] at hc
    exact ⟨c, hc⟩
  · rintro ⟨c, hc⟩
    have hamount : columnOf params.amount = .ok c := columnOf_eq_ok.2 hc
    have hzero : columnOf 0 = .ok Column.zero := by
      have hstore := Column.store_value (Column.zero : Qty)
      rw [Column.value_zero] at hstore
      exact columnOf_eq_ok.2 hstore
    have hlines : ∃ lines, (params.toJournal profile now).lines.mapM lineColumns = .ok lines := by
      simp only [PostingParams.toJournal, List.mapM_cons, List.mapM_nil, lineColumns, hamount,
        hzero]
      exact ⟨_, rfl⟩
    obtain ⟨lines, hlines⟩ := hlines
    simp only [entryColumns, JournalParams.entry, hdebit, hcredit, hamount, hlines]
    exact ⟨_, rfl⟩

/-- A posting under a new key is entered on an open day, in a currency, for something. -/
theorem createJournalEntry_posting {params : PostingParams} {profile : PostingProfile}
    {created : List JournalEntry × JournalEntry} (hfree : KeyFree journal params.key) :
    createJournalEntry ctx.accounting journal (params.toJournal profile ctx.accounting.now) =
        .ok created ↔
      ctx.accounting.IsOpen ctx.accounting.now ∧ params.amount ≠ 0 ∧
        ∃ currency, given ctx.accounting.defaultCurrency = some currency ∧
          created = (journal ++ [(params.toJournal profile ctx.accounting.now).entry ctx.accounting
              (nextJournalId journal) currency],
            (params.toJournal profile ctx.accounting.now).entry ctx.accounting
              (nextJournalId journal) currency) := by
  have hnew : findByIdempotencyKey journal
      (params.toJournal profile ctx.accounting.now).idempotencyKey = none :=
    findByIdempotencyKey_eq_none hfree
  have hdebit := params.totalDebit_toJournal profile ctx.accounting.now
  have hcredit : (params.toJournal profile ctx.accounting.now).totalCredit = params.amount := by
    simp [JournalParams.totalCredit, PostingParams.toJournal]
  have hcurrency : given (params.toJournal profile ctx.accounting.now).currency = none := rfl
  unfold createJournalEntry
  simp only [hnew, hdebit, hcredit, hcurrency, Option.none_or, ne_eq, not_true_eq_false, if_false,
    bind_eq_ok, validatePeriodOpen_eq_ok]
  by_cases hzero : params.amount = 0
  · simp [hzero, throw, throwThe, MonadExceptOf.throw, bind, Except.bind]
  · cases hgiven : given ctx.accounting.defaultCurrency with
    | none => simp [hzero, throw, throwThe, MonadExceptOf.throw]
    | some currency =>
      simp only [hzero, not_false_eq_true, true_and, Option.some_inj, exists_eq_left']
      constructor
      · rintro ⟨-, hopened, h⟩
        exact ⟨hopened, (Except.ok.inj h).symm⟩
      · rintro ⟨hopened, rfl⟩
        exact ⟨(), hopened, rfl⟩

/-- The posting step passes exactly for what can be entered. -/
theorem exists_postTransactionalJournal {params : PostingParams} :
    (∃ posted, postTransactionalJournal ctx journal params = .ok posted) ↔
      params.Enterable ctx journal := by
  simp only [postTransactionalJournal, bind_eq_ok, mapError_eq_ok, found_eq_ok]
  by_cases hfree : KeyFree journal params.key
  · have hcreated : ∀ (entry : JournalEntry) (profile : PostingProfile) (currency : String),
        entry = (params.toJournal profile ctx.accounting.now).entry ctx.accounting
          (nextJournalId journal) currency → entry ∉ journal := by
      rintro entry profile currency rfl hmem
      exact nextJournalId_not_mem journal (List.mem_map_of_mem (f := JournalEntry.id) hmem)
    constructor
    · rintro ⟨posted, profile, hprofile, created, hcreate, h⟩
      obtain ⟨hopened, hzero, currency, hcurrency, rfl⟩ := (createJournalEntry_posting hfree).1
        hcreate
      rw [if_neg (hcreated _ profile currency rfl)] at h
      simp only [bind_eq_ok] at h
      obtain ⟨row, hrow, -⟩ := h
      exact ⟨exists_resolvePostingProfile.1 ⟨profile, hprofile⟩, fun _ => ⟨hopened, hzero,
        ⟨currency, hcurrency⟩, (exists_entryColumns ctx.accounting.now).1 ⟨row, hrow⟩⟩⟩
    · rintro ⟨hprofile, hentered⟩
      obtain ⟨profile, hprofile⟩ := exists_resolvePostingProfile.2 hprofile
      obtain ⟨hopened, hzero, ⟨currency, hcurrency⟩, hfits⟩ := hentered hfree
      obtain ⟨row, hrow⟩ := (exists_entryColumns ctx.accounting.now).2 hfits
      refine ⟨(journal ++ [row], row), profile, hprofile, _,
        (createJournalEntry_posting hfree).2 ⟨hopened, hzero, currency, hcurrency, rfl⟩, ?_⟩
      rw [if_neg (hcreated _ profile currency rfl), hrow]
      rfl
  · obtain ⟨existing, hexisting⟩ := Option.ne_none_iff_exists'.1
      (mt (findByIdempotencyKey_eq_none_iff (postingKey_ne_empty _ _)).1 hfree)
    have hmem : existing ∈ journal := by
      rw [findByIdempotencyKey, Option.bind_eq_some_iff] at hexisting
      obtain ⟨key, -, hfind⟩ := hexisting
      exact List.mem_of_find?_eq_some hfind
    have hcreate : ∀ profile, createJournalEntry ctx.accounting journal
        (params.toJournal profile ctx.accounting.now) = .ok (journal, existing) := by
      intro profile
      rw [createJournalEntry]
      simp only [PostingParams.toJournal]
      rw [show findByIdempotencyKey journal (some params.key) = some existing from hexisting]
    constructor
    · rintro ⟨posted, profile, hprofile, -⟩
      exact ⟨exists_resolvePostingProfile.1 ⟨profile, hprofile⟩, fun h => absurd h hfree⟩
    · rintro ⟨hprofile, -⟩
      obtain ⟨profile, hprofile⟩ := exists_resolvePostingProfile.2 hprofile
      refine ⟨(journal, existing), profile, hprofile, _, hcreate profile, ?_⟩
      rw [if_pos hmem]
      rfl

/-! ### Issues -/

/-- What costing has found before the posting. -/
structure CostedIssue where
  books : Books
  wip : List WipAccumulation
  issueCost : Decimal

/-- The steps of an issue before its posting. -/
def IssueCostParams.costed (params : IssueCostParams) (ctx : CostingContext) (db : CostingDb) :
    Except CostingError CostedIssue := do
  let _ ← ctx.resolveBaseCurrency
  ctx.assertPeriodOpen params.fiscalPeriodId
  throwWhen (params.quantity = 0) .zeroIssueQuantity
  let issued ← params.leaveBooks ctx db.books
  let books ← issued.1.updateLastIssueCost params.key (issued.2.dividedBy params.quantity)
  let wip ← accumulateWIP db.wip params.workOrderId "MATERIAL" issued.2
  pure ⟨books, wip, issued.2⟩

/-- The tables when the posting and the stock ledger have passed as well. -/
def IssueCostParams.done (params : IssueCostParams) (db : CostingDb) (costed : CostedIssue)
    (journal : List JournalEntry) (stock : Inventory.StockDb) : CostingDb :=
  { db with
    stock := stock
    books := costed.books
    wip := costed.wip
    idempotencyKeys := db.idempotencyKeys ++ [params.idempKey]
    journal := journal }

variable {params : IssueCostParams} {costed : CostedIssue}

theorem issueMaterialCost_of_costed (hnew : db.hasProcessed params.idempKey = false)
    (hcosted : params.costed ctx db = .ok costed) :
    issueMaterialCost ctx db params = (do
      let posted ← postTransactionalJournal ctx db.journal (params.posting ctx costed.issueCost)
      let stock ← recordEntry db.stock (params.entry costed.issueCost posted.2.id)
      pure (params.done db costed posted.1 stock, .costed costed.issueCost)) := by
  simp only [IssueCostParams.costed, bind_eq_ok, pure_eq_ok] at hcosted
  obtain ⟨_, hcurrency, _, hopened, _, hquantity, issued, hissued, books, hbooks, wip, hwip, rfl⟩ :=
    hcosted
  simp only [issueMaterialCost, hcurrency, hnew, hopened, hquantity, hissued, hbooks, hwip, bind,
    Except.bind, Bool.false_eq_true, if_false]
  rfl

theorem recordEntry_error {stock : Inventory.StockDb} {entry : Inventory.EntryParams}
    {e : CostingError} (h : recordEntry stock entry = .error e) : ∃ e', e = .inventory e' := by
  unfold recordEntry at h
  cases hstock : stock.recordEntry entry with
  | error e' =>
    rw [hstock] at h
    exact ⟨e', (Except.error.inj h).symm⟩
  | ok stock' =>
    rw [hstock] at h
    cases h

/-- A body throws what one of its steps throws. -/
theorem bind_eq_error {ε α β : Type} {x : Except ε α} {f : α → Except ε β} {e : ε} :
    (x >>= f) = .error e ↔ x = .error e ∨ ∃ a, x = .ok a ∧ f a = .error e := by
  cases x with
  | error e => simp [bind, Except.bind]
  | ok a => simp [bind, Except.bind]

theorem columnOf_error {q : Decimal} {e : CostingError} (h : columnOf q = .error e) :
    e = .numericOverflow := by
  unfold columnOf found at h
  cases hstore : (Column.store q : Option Qty) with
  | none =>
    rw [hstore] at h
    exact (Except.error.inj h).symm
  | some c =>
    rw [hstore] at h
    cases h

theorem lineColumns_error {line : JournalEntryLine} {e : CostingError}
    (h : lineColumns line = .error e) : e = .numericOverflow := by
  simp only [lineColumns, bind_eq_error] at h
  rcases h with h | ⟨_, -, h | ⟨_, -, h⟩⟩
  · exact columnOf_error h
  · exact columnOf_error h
  · cases h

theorem mapM_lineColumns_error {lines : List JournalEntryLine} {e : CostingError}
    (h : lines.mapM lineColumns = .error e) : e = .numericOverflow := by
  induction lines with
  | nil => cases h
  | cons line lines ih =>
    rw [List.mapM_cons] at h
    simp only [bind_eq_error] at h
    rcases h with h | ⟨_, -, h | ⟨_, -, h⟩⟩
    · exact lineColumns_error h
    · exact ih h
    · cases h

theorem entryColumns_error {entry : JournalEntry} {e : CostingError}
    (h : entryColumns entry = .error e) : e = .numericOverflow := by
  simp only [entryColumns, bind_eq_error] at h
  rcases h with h | ⟨_, -, h | ⟨_, -, h | ⟨_, -, h⟩⟩⟩
  · exact columnOf_error h
  · exact columnOf_error h
  · exact mapM_lineColumns_error h
  · cases h

theorem postTransactionalJournal_ne_inventory {posting : PostingParams}
    (e : Inventory.InventoryError) :
    postTransactionalJournal ctx journal posting ≠ .error (.inventory e) := by
  intro h
  simp only [postTransactionalJournal, bind_eq_error] at h
  rcases h with h | ⟨profile, -, h | ⟨created, -, h⟩⟩
  · cases hprofile : resolvePostingProfile ctx.postingProfiles posting.transactionType
      posting.locationId <;> rw [hprofile] at h <;> cases h
  · cases hcreate : createJournalEntry ctx.accounting journal
      (posting.toJournal profile ctx.accounting.now) <;> rw [hcreate] at h <;> cases h
  · by_cases hmem : created.2 ∈ journal
    · rw [if_pos hmem] at h
      cases h
    · rw [if_neg hmem] at h
      simp only [bind_eq_error] at h
      rcases h with h | ⟨_, -, h⟩
      · cases entryColumns_error h
      · cases h

/-- The issue is done at its cost and posted, or it is refused by the stock ledger only. -/
def IssueCompletes (ctx : CostingContext) (db : CostingDb) (params : IssueCostParams)
    (costed : CostedIssue) : Prop :=
  (∃ journal stock, issueMaterialCost ctx db params =
      .ok (params.done db costed journal stock, .costed costed.issueCost) ∧
    (KeyFree db.journal (postingKey .materialIssue params.materialIssueId) →
      Posts db.journal journal [params.posting ctx costed.issueCost])) ∨
  ∃ e, issueMaterialCost ctx db params = .error (.inventory e)

def IssueCostParams.IsEnterable (params : IssueCostParams) (ctx : CostingContext)
    (db : CostingDb) : Prop :=
  ∃ worth, params.worth ctx db.books = .ok worth ∧
    (params.posting ctx worth).Enterable ctx db.journal

theorem isEnterable_iff (hcosted : params.costed ctx db = .ok costed) :
    params.IsEnterable ctx db ↔ (params.posting ctx costed.issueCost).Enterable ctx db.journal := by
  simp only [IssueCostParams.costed, bind_eq_ok, pure_eq_ok] at hcosted
  obtain ⟨-, -, -, -, -, -, issued, hissued, books, -, wip, -, rfl⟩ := hcosted
  have hworth := worth_of_leaveBooks hissued
  constructor
  · rintro ⟨worth, hworth', h⟩
    rw [hworth] at hworth'
    cases hworth'
    exact h
  · exact fun h => ⟨issued.2, hworth, h⟩

/-- The posting makes an issue fail exactly when what it is worth cannot be entered. -/
theorem issueCompletes_iff (hnew : db.hasProcessed params.idempKey = false)
    (hcosted : params.costed ctx db = .ok costed) :
    IssueCompletes ctx db params costed ↔ params.IsEnterable ctx db := by
  rw [isEnterable_iff hcosted, ← exists_postTransactionalJournal]
  have hissue := issueMaterialCost_of_costed hnew hcosted
  unfold IssueCompletes
  cases hposted : postTransactionalJournal ctx db.journal (params.posting ctx costed.issueCost) with
  | error e =>
    -- the posting throws the errors of accounting, never those of the stock
    have hnot : ∀ e', e ≠ .inventory e' := by
      rintro e' rfl
      exact absurd hposted (postTransactionalJournal_ne_inventory e')
    rw [hissue, hposted]
    constructor
    · rintro (⟨journal, stock, h, -⟩ | ⟨e', h⟩)
      · cases h
      · exact absurd (Except.error.inj h) (hnot e')
    · rintro ⟨posted, h⟩
      cases h
  | ok posted =>
    refine iff_of_true ?_ ⟨posted, rfl⟩
    rw [hissue, hposted]
    cases hstock : recordEntry db.stock (params.entry costed.issueCost posted.2.id) with
    | error e =>
      obtain ⟨e', rfl⟩ := recordEntry_error hstock
      exact Or.inr ⟨e', by simp [bind, Except.bind, hstock]⟩
    | ok stock =>
      refine Or.inl ⟨posted.1, stock, by simp [bind, Except.bind, hstock]; rfl, fun hfree => ?_⟩
      exact posts_of_postTransactionalJournal hposted hfree

/-- Four of the ten pieces that were received. -/
def fourPieces : IssueCostParams where
  workOrderId := 8
  materialIssueId := 9
  key := ⟨1, 7, 3⟩
  quantity := 4
  uom := "EA"

def tenReceived : CostingDb := CostingDb.call (.empty (.opened []) []) (receiptLine 51 10 3)

/-- At a standard cost of 3 the issue is done at 12. -/
theorem issueCompletes_fourPieces :
    ∃ costed, fourPieces.costed standardContext tenReceived = .ok costed ∧
      IssueCompletes standardContext tenReceived fourPieces costed := by
  obtain ⟨costed, hcosted⟩ := exists_of_isOk
    (x := fourPieces.costed standardContext tenReceived) (by decide +kernel)
  refine ⟨costed, hcosted, (issueCompletes_iff (by decide +kernel) hcosted).2 ⟨12, ?_, ?_⟩⟩
  · decide +kernel
  · constructor
    · decide +kernel
    · exact fun _ => ⟨by rintro _ ⟨⟩, by decide, ⟨"USD", by decide⟩,
        ⟨⟨120000, by decide⟩, by decide +kernel⟩⟩

def uncostedContext : CostingContext := { standardContext with products := [⟨7, none⟩] }

/-- The issue at cost zero is refused as an entry of nothing. -/
theorem not_issueCompletes_uncosted :
    ¬∀ (ctx : CostingContext) (db : CostingDb) (params : IssueCostParams) (costed : CostedIssue),
      db.hasProcessed params.idempKey = false → params.costed ctx db = .ok costed →
        IssueCompletes ctx db params costed := by
  intro h
  obtain ⟨costed, hcosted⟩ := exists_of_isOk
    (x := fourPieces.costed uncostedContext tenReceived) (by decide +kernel)
  have hrefused : issueMaterialCost uncostedContext tenReceived fourPieces =
      .error (.journal .zeroAmounts) := by decide +kernel
  rcases h _ _ _ _ (by decide +kernel) hcosted with ⟨journal, stock, hdone, -⟩ | ⟨e, he⟩
  · rw [hrefused] at hdone
    cases hdone
  · rw [hrefused] at he
    cases he

end Forecast.Costing
