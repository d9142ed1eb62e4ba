import Forecast.Costing.CostEffects
import Forecast.Lib.Runs

/-!
# The postings of a run of costing operations

The journal takes one entry for a key. An operation whose keys are not in the journal
posts its own entries, and then the journal grows by the operation's value.
-/

open KeyedTable DecimalColumn Transactions Runs

namespace Forecast.Costing

open Inventory (StockDb)

variable {ctx : CostingContext} {db db' : CostingDb} {result : CostResult}

/-- The amounts that an operation has to post. -/
def CostResult.values : CostResult → List Decimal
  | alreadyProcessed => []
  | costed totalCost => [totalCost]
  | revalued revaluationAmount => [|revaluationAmount|]
  | completed fgCost scrapCost totalVariance =>
    fgCost :: ((if 0 < scrapCost then [scrapCost] else []) ++
      if totalVariance ≠ 0 then [|totalVariance|] else [])

/-- The keys under which an operation posts. -/
def CostOp.postingKeys (db : CostingDb) : CostOp → List String
  | receipt params => [postingKey .goodsReceipt params.goodsReceiptId]
  | landedCost params => [postingKey .goodsReceipt params.goodsReceiptId]
  | issue params => [postingKey .materialIssue params.materialIssueId]
  | labor params => [postingKey .laborAbsorption params.laborEntryId]
  | overhead params => [postingKey .overheadAbsorption params.referenceId]
  | completion params =>
    postingKey .productionReceipt params.workOrderId ::
      postingKey .costVariance params.workOrderId ::
        if params.scrapQty = 0 then [] else [postingKey .scrap params.workOrderId]
  | revaluation params =>
    ((db.books.findItemCost params.key).map fun row =>
      postingKey .inventoryAdjustment row.id).toList
  | scrap params => [postingKey .scrap params.referenceId]

def CostOp.allocatesNothing : CostOp → Bool
  | landedCost params => params.allocations.isEmpty
  | _ => false

/-- No entry of the journal has a key of the operation. -/
def CostCall.Unposted (db : CostingDb) (c : CostCall) : Prop :=
  (∀ key ∈ c.op.postingKeys db, KeyFree db.journal key) ∧ c.op.allocatesNothing = false

instance (db : CostingDb) (c : CostCall) : Decidable (c.Unposted db) :=
  inferInstanceAs (Decidable (_ ∧ _))

/-! ### The postings of one operation -/

theorem postingKey_ne {t t' : PostingTransactionType} (h : t ≠ t') (id : Id) :
    postingKey t id ≠ postingKey t' id := by
  intro heq
  unfold postingKey at heq
  rw [String.append_left_inj, String.append_left_inj] at heq
  apply h
  cases t <;> cases t' <;> first | rfl | exact absurd heq (by decide)

theorem posts_of_postWhen {c : Prop} [Decidable c] {journal journal' : List JournalEntry}
    {params : PostingParams} (h : postWhen c ctx journal params = .ok journal')
    (hfree : c → KeyFree journal params.key) :
    Posts journal journal' (if c then [params] else []) := by
  unfold postWhen at h
  by_cases hc : c
  · rw [if_pos hc] at h ⊢
    simp only [bind_eq_ok, pure_eq_ok] at h
    obtain ⟨posted, hposted, rfl⟩ := h
    exact posts_of_postTransactionalJournal hposted (hfree hc)
  · rw [if_neg hc] at h ⊢
    cases h
    exact Posts.nil journal

theorem times_zero_left (q : Decimal) : Decimal.times 0 q = 0 := by
  simp [Decimal.times]

theorem plus_pos {p q : Decimal} (hp : 0 ≤ p) (hq : 0 < q) : 0 < p.plus q :=
  GridRounding.toSignificant_pos (by decide) (by linarith)

theorem allocateLine_total {params : LandedCostParams} {s s' : LandedState} {line : LandedCostLine}
    (h : allocateLine ctx params s line = .ok s') (hs : 0 ≤ s.totalAllocated) :
    0 < s'.totalAllocated := by
  simp only [allocateLine, bind_eq_ok, pure_eq_ok, throwWhen_eq_ok] at h
  obtain ⟨-, hamount, -, -, -, -, rfl⟩ := h
  exact plus_pos hs (not_le.1 hamount)

theorem forEach_allocateLine_total {params : LandedCostParams} {s s' : LandedState}
    {lines : List LandedCostLine} (h : forEach (allocateLine ctx params) s lines = .ok s')
    (hs : 0 ≤ s.totalAllocated) (hlines : lines ≠ []) : 0 < s'.totalAllocated := by
  cases lines with
  | nil => exact absurd rfl hlines
  | cons line lines =>
    obtain ⟨m, hm, h⟩ := forEach_cons_eq_ok.1 h
    refine forEach_invariant (I := fun s => 0 < s.totalAllocated) ?_ h (allocateLine_total hm hs)
    intro t t' x _ ht hstep
    exact allocateLine_total hstep ht.le

theorem completion_posts {params : CompletionParams} {fgCost wipPerUnit totalVariance : Decimal}
    {journal journal' journal'' : List JournalEntry}
    {posted : List JournalEntry × JournalEntry}
    (hfg : postTransactionalJournal ctx journal (params.fgPosting ctx fgCost) = .ok posted)
    (hscrap : postWhen (0 < params.scrapQty.times wipPerUnit) ctx posted.1
      (params.scrapPosting ctx (params.scrapQty.times wipPerUnit)) = .ok journal')
    (hvariance : postWhen (totalVariance ≠ 0) ctx journal'
      (params.variancePosting ctx totalVariance) = .ok journal'')
    (hkeys : ∀ key ∈ (CostOp.completion params).postingKeys db, KeyFree journal key) :
    ∃ postings, postings ≠ [] ∧ Posts journal journal'' postings ∧
      postings.map PostingParams.amount =
        (CostResult.completed fgCost (params.scrapQty.times wipPerUnit) totalVariance).values := by
  have hfree : KeyFree journal (postingKey .productionReceipt params.workOrderId) :=
    hkeys _ List.mem_cons_self
  have hfreeVariance : KeyFree journal (postingKey .costVariance params.workOrderId) :=
    hkeys _ (List.mem_cons_of_mem _ List.mem_cons_self)
  have hfirst := posts_of_postTransactionalJournal hfg hfree
  have hsecond := posts_of_postWhen hscrap fun hpos => by
    have hqty : params.scrapQty ≠ 0 := by
      intro h0
      rw [h0, times_zero_left] at hpos
      exact lt_irrefl 0 hpos
    have hfreeScrap : KeyFree journal (postingKey .scrap params.workOrderId) := by
      apply hkeys
      simp [CostOp.postingKeys, hqty]
    apply hfirst.keyFree hfreeScrap
    intro p hp
    rw [List.mem_singleton.1 hp]
    exact postingKey_ne (t := .productionReceipt) (by decide) _
  have hthird := posts_of_postWhen hvariance fun _ => by
    apply (hfirst.append hsecond).keyFree hfreeVariance
    intro p hp
    rcases List.mem_append.1 hp with hp | hp
    · rw [List.mem_singleton.1 hp]
      exact postingKey_ne (t := .productionReceipt) (by decide) _
    · split_ifs at hp with hpos
      · rw [List.mem_singleton.1 hp]
        exact postingKey_ne (t := .scrap) (by decide) _
      · cases hp
  refine ⟨_, ?_, (hfirst.append hsecond).append hthird, ?_⟩
  · simp
  · by_cases hpos : 0 < params.scrapQty.times wipPerUnit <;> by_cases hzero : totalVariance = 0 <;>
      simp [hpos, hzero, CostResult.values, CompletionParams.fgPosting,
        CompletionParams.scrapPosting, CompletionParams.variancePosting, CompletionParams.posting]

/-- An operation that is done for the first time posts its values under its own keys. -/
theorem CostCall.exists_posts {c : CostCall} (h : c.body db = .ok (db', result))
    (hfirst : result ≠ .alreadyProcessed) (hfree : c.Unposted db) :
    ∃ postings, postings ≠ [] ∧ Posts db.journal db'.journal postings ∧
      postings.map PostingParams.amount = result.values := by
  obtain ⟨hkeys, hsome⟩ := hfree
  obtain ⟨ctx, op⟩ := c
  cases op with
  | receipt params =>
    rcases receipt_eq_ok h with hrepeated | ⟨baseCurrency, posted, -, -, hposted, hjournal, -, rfl⟩
    · exact absurd hrepeated.1 hfirst
    · refine ⟨[params.posting ctx baseCurrency], by simp, ?_, rfl⟩
      rw [hjournal]
      exact posts_of_postTransactionalJournal hposted (hkeys _ (List.mem_singleton.2 rfl))
  | landedCost params =>
    rcases landedCost_eq_ok h with hrepeated | ⟨s, hs, -, hjournal, -, rfl⟩
    · exact absurd hrepeated.1 hfirst
    · have hlines : params.allocations ≠ [] := by
        rintro heq
        simp [CostOp.allocatesNothing, heq] at hsome
      have hpos := forEach_allocateLine_total hs le_rfl hlines
      refine ⟨[params.posting s.totalAllocated], by simp, ?_, rfl⟩
      have hposts := posts_of_postWhen hjournal fun _ => hkeys _ (List.mem_singleton.2 rfl)
      rwa [if_pos hpos] at hposts
  | issue params =>
    rcases issue_eq_ok h with hrepeated | ⟨issued, posted, -, -, hposted, hjournal, -, rfl⟩
    · exact absurd hrepeated.1 hfirst
    · refine ⟨[params.posting ctx issued.2], by simp, ?_, rfl⟩
      rw [hjournal]
      exact posts_of_postTransactionalJournal hposted (hkeys _ (List.mem_singleton.2 rfl))
  | labor params =>
    rcases labor_eq_ok h with hrepeated | ⟨posted, hposted, hjournal, -, -, rfl⟩
    · exact absurd hrepeated.1 hfirst
    · refine ⟨[params.posting], by simp, ?_, rfl⟩
      rw [hjournal]
      exact posts_of_postTransactionalJournal hposted (hkeys _ (List.mem_singleton.2 rfl))
  | overhead params =>
    rcases overhead_eq_ok h with hrepeated | ⟨posted, hposted, hjournal, -, -, rfl⟩
    · exact absurd hrepeated.1 hfirst
    · refine ⟨[params.posting], by simp, ?_, rfl⟩
      rw [hjournal]
      exact posts_of_postTransactionalJournal hposted (hkeys _ (List.mem_singleton.2 rfl))
  | completion params =>
    rcases completion_eq_ok h with
      hrepeated | ⟨wipPerUnit, totalVariance, posted, journal, -, hfg, hscrap, hvariance, -, rfl⟩
    · exact absurd hrepeated.1 hfirst
    · exact completion_posts hfg hscrap hvariance hkeys
  | revaluation params =>
    obtain ⟨row, revalued, posted, hrow, -, -, hposted, hjournal, -, rfl⟩ := revaluation_eq_ok h
    refine ⟨[params.posting ctx row (params.revalAmount row)], by simp, ?_, rfl⟩
    rw [hjournal]
    apply posts_of_postTransactionalJournal hposted
    apply hkeys
    simp [CostOp.postingKeys, hrow, PostingParams.key, RevaluationParams.posting]
  | scrap params =>
    obtain ⟨scrapped, posted, -, -, hposted, hjournal, -, rfl⟩ := scrap_eq_ok h
    refine ⟨[params.posting ctx scrapped.2], by simp, ?_, rfl⟩
    rw [hjournal]
    exact posts_of_postTransactionalJournal hposted (hkeys _ (List.mem_singleton.2 rfl))

/-! ### Runs -/

def journalTotal (journal : List JournalEntry) : ℚ := (journal.map JournalEntry.totalDebit).sum

/-- What a call that succeeds adds to the value of the operations. -/
def CostCall.value (db : CostingDb) (c : CostCall) : ℚ :=
  match c.body db with
  | .ok (_, result) => (result.values.map (roundToScale 4)).sum
  | .error _ => 0

theorem CostingDb.call_of_ok {c : CostCall} (h : c.body db = .ok (db', result)) :
    db.call c = db' := by
  rw [CostingDb.call, h]
  rfl

theorem CostingDb.call_of_error {c : CostCall} {e : CostingError} (h : c.body db = .error e) :
    db.call c = db := by
  rw [CostingDb.call, h]
  rfl

def CostCall.idempKey? (c : CostCall) : Option (String × String) :=
  match c.op with
  | .receipt params => some params.idempKey
  | .landedCost params => some (params.idempKey c.ctx)
  | .issue params => some params.idempKey
  | .labor params => some params.idempKey
  | .overhead params => some params.idempKey
  | .completion params => some params.idempKey
  | .revaluation _ | .scrap _ => none

/-- An operation whose key was taken changes nothing, and any other one takes its key. -/
def TakesKey (key : Option (String × String)) (db db' : CostingDb) (result : CostResult) : Prop :=
  (db' = db ∧ ∃ taken ∈ key, taken ∈ db.idempotencyKeys) ∨
    (result ≠ .alreadyProcessed ∧ db'.idempotencyKeys = db.idempotencyKeys ++ key.toList ∧
      ∀ taken ∈ key, taken ∉ db.idempotencyKeys)

theorem takesKey_of_once {key : String × String} {x : Except CostingError (CostingDb × CostResult)}
    (h : (if db.hasProcessed key then .ok (db, .alreadyProcessed) else x) = .ok (db', result))
    (hx : x = .ok (db', result) → result ≠ .alreadyProcessed ∧
      db'.idempotencyKeys = db.idempotencyKeys ++ [key]) :
    TakesKey (some key) db db' result := by
  by_cases hkey : db.hasProcessed key
  · rw [if_pos hkey] at h
    cases h
    exact Or.inl ⟨rfl, key, rfl, of_decide_eq_true hkey⟩
  · rw [if_neg hkey] at h
    refine Or.inr ⟨(hx h).1, (hx h).2, fun taken htaken hmem => hkey ?_⟩
    obtain rfl := Option.some.inj htaken
    exact decide_eq_true hmem

theorem CostCall.takesKey {c : CostCall} (h : c.body db = .ok (db', result)) :
    TakesKey c.idempKey? db db' result := by
  obtain ⟨ctx, op⟩ := c
  cases op with
  | receipt params =>
    obtain ⟨baseCurrency, -, h⟩ := bind_eq_ok.1 h
    refine takesKey_of_once h fun hx => ?_
    simp only [bind_eq_ok, pure_eq_ok] at hx
    obtain ⟨-, -, -, -, _, -, _, -, _, -, _, -, heq⟩ := hx
    cases heq
    exact ⟨by simp, rfl⟩
  | landedCost params =>
    refine takesKey_of_once h fun hx => ?_
    simp only [bind_eq_ok, pure_eq_ok] at hx
    obtain ⟨-, -, _, -, _, -, heq⟩ := hx
    cases heq
    exact ⟨by simp, rfl⟩
  | issue params =>
    obtain ⟨-, -, h⟩ := bind_eq_ok.1 h
    refine takesKey_of_once h fun hx => ?_
    simp only [bind_eq_ok, pure_eq_ok] at hx
    obtain ⟨-, -, -, -, _, -, _, -, _, -, _, -, _, -, heq⟩ := hx
    cases heq
    exact ⟨by simp, rfl⟩
  | labor params =>
    refine takesKey_of_once h fun hx => ?_
    simp only [bind_eq_ok, pure_eq_ok] at hx
    obtain ⟨-, -, _, -, _, -, heq⟩ := hx
    cases heq
    exact ⟨by simp, rfl⟩
  | overhead params =>
    refine takesKey_of_once h fun hx => ?_
    simp only [bind_eq_ok, pure_eq_ok] at hx
    obtain ⟨-, -, _, -, _, -, heq⟩ := hx
    cases heq
    exact ⟨by simp, rfl⟩
  | completion params =>
    refine takesKey_of_once h fun hx => ?_
    simp only [bind_eq_ok, pure_eq_ok] at hx
    obtain ⟨-, -, -, -, _, -, _, -, _, -, _, -, _, -, _, -, _, -, _, -, heq⟩ := hx
    cases heq
    exact ⟨by simp, rfl⟩
  | revaluation params =>
    have hbody : revalueInventory ctx db params = .ok (db', result) := h
    simp only [revalueInventory, bind_eq_ok, pure_eq_ok] at hbody
    obtain ⟨-, -, _, -, _, -, _, -, heq⟩ := hbody
    cases heq
    exact Or.inr ⟨by simp, (List.append_nil _).symm, fun _ h => by cases h⟩
  | scrap params =>
    have hbody : costScrap ctx db params = .ok (db', result) := h
    simp only [costScrap, bind_eq_ok, pure_eq_ok] at hbody
    obtain ⟨-, -, _, -, _, -, _, -, -, -, _, -, heq⟩ := hbody
    cases heq
    exact Or.inr ⟨by simp, (List.append_nil _).symm, fun _ h => by cases h⟩

/-- An operation that was done before leaves everything as it is. -/
theorem CostCall.eq_of_alreadyProcessed {c : CostCall}
    (h : c.body db = .ok (db', .alreadyProcessed)) : db' = db :=
  c.takesKey h |>.elim And.left fun htakes => absurd rfl htakes.1

theorem Posts.totalDebits {journal journal' : List JournalEntry} {postings : List PostingParams}
    (h : Posts journal journal' postings) :
    ∃ entries, journal' = journal ++ entries ∧ (entries = [] ↔ postings = []) ∧
      entries.map JournalEntry.totalDebit =
        (postings.map PostingParams.amount).map (roundToScale 4) := by
  obtain ⟨entries, hjournal, hkeys, hamounts⟩ := h
  refine ⟨entries, hjournal, ?_, ?_⟩
  · rw [← List.map_eq_nil_iff (f := JournalEntry.idempotencyKey), hkeys, List.map_eq_nil_iff]
  · rw [hamounts, List.map_map]
    rfl

theorem journalTotal_call {c : CostCall} (hfree : c.Unposted db) :
    journalTotal (db.call c).journal = journalTotal db.journal + c.value db := by
  unfold CostCall.value
  cases h : c.body db with
  | error e =>
    rw [CostingDb.call_of_error h]
    exact (add_zero _).symm
  | ok r =>
    obtain ⟨db', result⟩ := r
    rw [CostingDb.call_of_ok h]
    by_cases hfirst : result = .alreadyProcessed
    · subst hfirst
      rw [CostCall.eq_of_alreadyProcessed h]
      exact (add_zero _).symm
    · obtain ⟨postings, -, hposts, hvalues⟩ := CostCall.exists_posts h hfirst hfree
      obtain ⟨entries, hjournal, -, hamounts⟩ := hposts.totalDebits
      rw [hjournal, journalTotal, List.map_append, List.sum_append, hamounts, hvalues]
      rfl

/-- Every operation of the run that is done for the first time posts its own entries, each
for its amount as the column keeps it, and the journal grows by the values of the operations. -/
structure PostingLaw (start : CostingDb) (calls : List CostCall) : Prop where
  posts : ∀ k c db' result, calls[k]? = some c →
    c.body (stateAt CostingDb.call start calls k) = .ok (db', result) →
    result ≠ .alreadyProcessed →
    ∃ entries, entries ≠ [] ∧
      db'.journal = (stateAt CostingDb.call start calls k).journal ++ entries ∧
      entries.map JournalEntry.totalDebit = result.values.map (roundToScale 4)
  total : journalTotal (run CostingDb.call start calls).journal =
    journalTotal start.journal + sumAlong CostingDb.call (fun db c => c.value db) start calls

theorem postingLaw_of_unposted (start : CostingDb) (calls : List CostCall)
    (h : Always CostingDb.call (fun db c => c.Unposted db) start calls) :
    PostingLaw start calls where
  posts := by
    intro k c db' result hk hbody hfirst
    obtain ⟨postings, hsome, hposts, hvalues⟩ := CostCall.exists_posts hbody hfirst (h.at hk)
    obtain ⟨entries, hjournal, hnil, hamounts⟩ := hposts.totalDebits
    exact ⟨entries, fun hempty => hsome (hnil.1 hempty), hjournal, hvalues ▸ hamounts⟩
  total := h.sumAlong_eq (g := fun db => journalTotal db.journal) fun _ _ hfree =>
    journalTotal_call hfree

def standardContext : CostingContext where
  accounting := { now := 0, findFiscalPeriod := fun _ => none, defaultCurrency := some "USD" }
  products := [⟨7, Column.store 3⟩]
  postingProfiles :=
    [ { transactionType := .goodsReceipt, debitAccountId := 1, creditAccountId := 2 },
      { transactionType := .materialIssue, debitAccountId := 3, creditAccountId := 1 },
      { transactionType := .laborAbsorption, debitAccountId := 3, creditAccountId := 4 } ]
  shown := fun q => toString q

def receiptLine (goodsReceiptLineId : Id) (quantity unitPrice : Decimal) : CostCall where
  ctx := standardContext
  op := .receipt
    { goodsReceiptId := 5
      goodsReceiptLineId := goodsReceiptLineId
      key := ⟨1, 7, 3⟩
      quantity := quantity
      unitPrice := unitPrice
      purchaseCurrency := "USD" }

def receiptIssueLabor : List CostCall :=
  [receiptLine 51 10 3,
    ⟨standardContext, .issue
      { workOrderId := 8, materialIssueId := 9, key := ⟨1, 7, 3⟩, quantity := 4, uom := "EA" }⟩,
    ⟨standardContext, .labor
      { workOrderId := 8, laborEntryId := 10, hours := 2, costPerHour := 4, isSetup := false }⟩]

theorem postingLaw_receiptIssueLabor :
    journalTotal (run CostingDb.call (.empty (.opened []) []) receiptIssueLabor).journal = 50 ∧
      PostingLaw (.empty (.opened []) []) receiptIssueLabor :=
  ⟨by decide +kernel, postingLaw_of_unposted _ _ (by decide +kernel)⟩

def twoLines : List CostCall := [receiptLine 51 10 3, receiptLine 52 4 2]

/-- The second line is costed, but its posting returns the entry of the first. -/
theorem not_postingLaw_twoLines : ¬PostingLaw (.empty (.opened []) []) twoLines := by
  intro h
  have htotal := h.total
  have hstart : journalTotal (CostingDb.empty (.opened []) []).journal = 0 := rfl
  have hjournal : journalTotal
      (run CostingDb.call (.empty (.opened []) []) twoLines).journal = 30 := by decide +kernel
  have hvalues : sumAlong CostingDb.call (fun db c => c.value db) (.empty (.opened []) [])
      twoLines = 38 := by decide +kernel
  rw [hjournal, hvalues, hstart] at htotal
  norm_num at htotal

/-! ### Calls that are made again -/

theorem CostingDb.idempotencyKeys_call (c : CostCall) (db : CostingDb) : db.call c = db ∨
    (db.call c).idempotencyKeys = db.idempotencyKeys ++ c.idempKey?.toList ∧
      ∀ key ∈ c.idempKey?, key ∉ db.idempotencyKeys := by
  cases hbody : c.body db with
  | error e => exact Or.inl (CostingDb.call_of_error hbody)
  | ok done =>
    rw [CostingDb.call_of_ok hbody]
    exact (c.takesKey hbody).imp And.left And.right

/-- Once a call has succeeded, another one with its key changes nothing, whatever it asks for and
however many calls lie in between. -/
def RetryLaw (start : CostingDb) (calls : List CostCall) : Prop :=
  ∀ i j c again key done, i < j → calls[i]? = some c → calls[j]? = some again →
    c.idempKey? = some key → again.idempKey? = some key →
    c.body (stateAt CostingDb.call start calls i) = .ok done →
    stateAt CostingDb.call start calls (j + 1) = stateAt CostingDb.call start calls j

theorem retryLaw (start : CostingDb) (calls : List CostCall) : RetryLaw start calls := by
  intro i j c again key done hij hi hj hkey hsame hdone
  have htaken : key ∈ (stateAt CostingDb.call start calls (i + 1)).idempotencyKeys := by
    rw [stateAt_succ CostingDb.call start hi, CostingDb.call_of_ok hdone]
    rcases c.takesKey hdone with ⟨hdb, taken, htaken, hmem⟩ | ⟨-, hkeys, -⟩
    · rw [hkey] at htaken
      rwa [hdb, Option.some.inj htaken]
    · rw [hkeys, hkey]
      exact List.mem_append_right _ List.mem_cons_self
  have hlater : key ∈ (stateAt CostingDb.call start calls j).idempotencyKeys := by
    refine stateAt_stable (I := fun db : CostingDb => key ∈ db.idempotencyKeys) (fun db c hdb => ?_)
      hij htaken
    rcases db.idempotencyKeys_call c with hsame | ⟨hkeys, -⟩
    · rwa [hsame]
    · rw [hkeys]
      exact List.mem_append_left _ hdb
  rw [stateAt_succ CostingDb.call start hj]
  rcases CostingDb.idempotencyKeys_call again (stateAt CostingDb.call start calls j) with
    hdb | ⟨-, hnew⟩
  · exact hdb
  · exact absurd hlater (hnew key hsame)

end Forecast.Costing
