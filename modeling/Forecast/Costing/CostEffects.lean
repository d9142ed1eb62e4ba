import Forecast.Costing.CostCalls

/-!
# What a costing operation does

For each operation the books it leaves and the postings it makes, read off once from its
body. A posting under a key that the journal does not have appends an entry; under a key
that it has, it returns the entry that is there.
-/

open KeyedTable DecimalColumn Transactions

namespace Forecast.Costing

open Inventory (Qty)

variable {ctx : CostingContext} {db db' : CostingDb} {result : CostResult}

theorem mapError_eq_ok {ε ε' α : Type} {f : ε → ε'} {x : Except ε α} {a : α} :
    x.mapError f = .ok a ↔ x = .ok a := by
  cases x <;> simp [Except.mapError]

/-- Different rows have different ids as text. -/
theorem uuidText_injective {a b : Id} (h : uuidText a = uuidText b) : a = b := by
  have hdigits := congrArg (fun s : String => Nat.ofDigitChars 10 s.toList 0) h
  change Nat.ofDigitChars 10 (Nat.repr a).toList 0 =
    Nat.ofDigitChars 10 (Nat.repr b).toList 0 at hdigits
  simpa only [Nat.toList_repr, Nat.ofDigitChars_toDigits (b := 10) (by omega) le_rfl] using hdigits

/-- The number has at most twenty significant digits. -/
def IsExact (q : ℚ) : Prop := GridRounding.toSignificant Decimal.precision q = q

instance (q : ℚ) : Decidable (IsExact q) := inferInstanceAs (Decidable (_ = _))

theorem abs_value_sub_le_slack {q : ℚ} {c : Qty}
    (h : Column.store (GridRounding.toSignificant Decimal.precision q) = some c) :
    |c.value - q| ≤ slack 4 q :=
  Column.abs_value_sub_le_slack_of_significant (by norm_num) (by decide) h

/-! ### Postings -/

def Posts (journal journal' : List JournalEntry) (postings : List PostingParams) : Prop :=
  ∃ entries : List JournalEntry, journal' = journal ++ entries ∧
    entries.map JournalEntry.idempotencyKey = postings.map (fun p => some p.key) ∧
    entries.map JournalEntry.totalDebit = postings.map (fun p => roundToScale 4 p.amount)

def KeyFree (journal : List JournalEntry) (key : String) : Prop :=
  ∀ entry ∈ journal, entry.idempotencyKey ≠ some key

instance (journal : List JournalEntry) (key : String) : Decidable (KeyFree journal key) :=
  inferInstanceAs (Decidable (∀ entry ∈ journal, entry.idempotencyKey ≠ some key))

theorem Posts.nil (journal : List JournalEntry) : Posts journal journal [] :=
  ⟨[], (List.append_nil journal).symm, rfl, rfl⟩

theorem Posts.append {j₁ j₂ j₃ : List JournalEntry} {ps qs : List PostingParams}
    (h : Posts j₁ j₂ ps) (h' : Posts j₂ j₃ qs) : Posts j₁ j₃ (ps ++ qs) := by
  obtain ⟨es, rfl, hkeys, hamounts⟩ := h
  obtain ⟨fs, rfl, hkeys', hamounts'⟩ := h'
  refine ⟨es ++ fs, List.append_assoc j₁ es fs, ?_, ?_⟩
  · rw [List.map_append, List.map_append, hkeys, hkeys']
  · rw [List.map_append, List.map_append, hamounts, hamounts']

theorem Posts.keyFree {journal journal' : List JournalEntry} {postings : List PostingParams}
    {key : String} (h : Posts journal journal' postings) (hfree : KeyFree journal key)
    (hkey : ∀ p ∈ postings, p.key ≠ key) : KeyFree journal' key := by
  obtain ⟨entries, rfl, hkeys, -⟩ := h
  intro entry hentry heq
  rcases List.mem_append.1 hentry with hold | hnew
  · exact hfree entry hold heq
  · have hmem : some key ∈ entries.map JournalEntry.idempotencyKey :=
      List.mem_map.2 ⟨entry, hnew, heq⟩
    rw [hkeys] at hmem
    obtain ⟨p, hp, hpkey⟩ := List.mem_map.1 hmem
    exact hkey p hp (Option.some.inj hpkey)

theorem findByIdempotencyKey_eq_none {journal : List JournalEntry} {key : String}
    (h : KeyFree journal key) : findByIdempotencyKey journal (some key) = none := by
  cases hgiven : given (some key) with
  | none => rw [findByIdempotencyKey, hgiven, Option.bind_none]
  | some key' =>
    have hkey : key' = key := by
      rw [given, Option.filter_eq_some_iff] at hgiven
      exact (Option.some.inj hgiven.1).symm
    rw [findByIdempotencyKey, hgiven, Option.bind_some, List.find?_eq_none]
    intro entry hentry
    simpa [hkey] using h entry hentry

theorem entryColumns_eq_ok {entry row : JournalEntry} (h : entryColumns entry = .ok row) :
    row.idempotencyKey = entry.idempotencyKey ∧
      row.totalDebit = roundToScale 4 entry.totalDebit := by
  simp only [entryColumns, bind_eq_ok, pure_eq_ok, columnOf_eq_ok] at h
  obtain ⟨totalDebit, hdebit, -, -, -, -, rfl⟩ := h
  exact ⟨rfl, Column.value_of_store_eq hdebit⟩

theorem PostingParams.totalDebit_toJournal (params : PostingParams) (profile : PostingProfile)
    (now : Millis) : (params.toJournal profile now).totalDebit = params.amount := by
  simp [JournalParams.totalDebit, PostingParams.toJournal]

theorem posts_of_postTransactionalJournal {journal : List JournalEntry} {params : PostingParams}
    {posted : List JournalEntry × JournalEntry}
    (h : postTransactionalJournal ctx journal params = .ok posted)
    (hfree : KeyFree journal params.key) : Posts journal posted.1 [params] := by
  simp only [postTransactionalJournal, bind_eq_ok, mapError_eq_ok] at h
  obtain ⟨profile, -, created, hcreated, h⟩ := h
  have hnew : findByIdempotencyKey journal
      (params.toJournal profile ctx.accounting.now).idempotencyKey = none :=
    findByIdempotencyKey_eq_none hfree
  obtain ⟨-, -, currency, hentry⟩ := createJournalEntry_eq_ok hcreated hnew
  have hmem : created.2 ∉ journal := by
    intro hmem
    have hid := List.mem_map_of_mem (f := JournalEntry.id) hmem
    rw [hentry] at hid
    exact nextJournalId_not_mem journal hid
  rw [if_neg hmem] at h
  simp only [bind_eq_ok, pure_eq_ok] at h
  obtain ⟨row, hrow, rfl⟩ := h
  obtain ⟨hkey, hdebit⟩ := entryColumns_eq_ok hrow
  refine ⟨[row], rfl, ?_, ?_⟩
  · rw [List.map_singleton, List.map_singleton, hkey, hentry]
    rfl
  · rw [List.map_singleton, List.map_singleton, hdebit, hentry]
    exact congrArg (fun q => [roundToScale 4 q])
      (params.totalDebit_toJournal profile ctx.accounting.now)

/-! ### Operations -/

/-- An operation that was done before changes nothing. -/
def Repeated (db db' : CostingDb) (result : CostResult) : Prop :=
  result = .alreadyProcessed ∧ db' = db

theorem receipt_eq_ok {params : ReceiptCostParams}
    (h : calculatePurchaseReceiptCost ctx db params = .ok (db', result)) :
    Repeated db db' result ∨ ∃ baseCurrency posted, params.currency ctx = .ok baseCurrency ∧
      params.enterBooks ctx baseCurrency db.books = .ok db'.books ∧
      postTransactionalJournal ctx db.journal (params.posting ctx baseCurrency) = .ok posted ∧
      db'.journal = posted.1 ∧
      recordEntry db.stock (params.entry baseCurrency posted.2.id) = .ok db'.stock ∧
      result = .costed (params.totalCost baseCurrency) := by
  simp only [calculatePurchaseReceiptCost, bind_eq_ok] at h
  obtain ⟨baseCurrency, hcurrency, h⟩ := h
  by_cases hkey : db.hasProcessed params.idempKey
  · rw [if_pos hkey] at h
    cases h
    exact Or.inl ⟨rfl, rfl⟩
  · rw [if_neg hkey] at h
    simp only [bind_eq_ok, pure_eq_ok] at h
    obtain ⟨-, -, -, -, snapshots, -, books, hbooks, posted, hposted, stock, hstock, heq⟩ := h
    cases heq
    exact Or.inr ⟨baseCurrency, posted, hcurrency, hbooks, hposted, rfl, hstock, rfl⟩

theorem landedCost_eq_ok {params : LandedCostParams}
    (h : allocateLandedCost ctx db params = .ok (db', result)) :
    Repeated db db' result ∨ ∃ s : LandedState,
      forEach (allocateLine ctx params) ⟨db.books, db.landedCosts, 0⟩ params.allocations = .ok s ∧
      db'.books = s.books ∧
      postWhen (0 < s.totalAllocated) ctx db.journal (params.posting s.totalAllocated) =
        .ok db'.journal ∧
      db'.stock = db.stock ∧ result = .costed s.totalAllocated := by
  unfold allocateLandedCost at h
  by_cases hkey : db.hasProcessed (params.idempKey ctx)
  · rw [if_pos hkey] at h
    cases h
    exact Or.inl ⟨rfl, rfl⟩
  · rw [if_neg hkey] at h
    simp only [bind_eq_ok, pure_eq_ok] at h
    obtain ⟨-, -, s, hs, journal, hjournal, heq⟩ := h
    cases heq
    exact Or.inr ⟨s, hs, rfl, hjournal, rfl, rfl⟩

theorem issue_eq_ok {params : IssueCostParams}
    (h : issueMaterialCost ctx db params = .ok (db', result)) :
    Repeated db db' result ∨ ∃ (issued : Books × Decimal) (posted : List JournalEntry × JournalEntry),
      params.leaveBooks ctx db.books = .ok issued ∧
      issued.1.updateLastIssueCost params.key (issued.2.dividedBy params.quantity) =
        .ok db'.books ∧
      postTransactionalJournal ctx db.journal (params.posting ctx issued.2) = .ok posted ∧
      db'.journal = posted.1 ∧
      recordEntry db.stock (params.entry issued.2 posted.2.id) = .ok db'.stock ∧
      result = .costed issued.2 := by
  simp only [issueMaterialCost, bind_eq_ok] at h
  obtain ⟨-, -, h⟩ := h
  by_cases hkey : db.hasProcessed params.idempKey
  · rw [if_pos hkey] at h
    cases h
    exact Or.inl ⟨rfl, rfl⟩
  · rw [if_neg hkey] at h
    simp only [bind_eq_ok, pure_eq_ok] at h
    obtain ⟨-, -, -, -, issued, hissued, books, hbooks, wip, -, posted, hposted, stock, hstock,
      heq⟩ := h
    cases heq
    exact Or.inr ⟨issued, posted, hissued, hbooks, hposted, rfl, hstock, rfl⟩

theorem labor_eq_ok {params : LaborCostParams}
    (h : recordLaborCostToWIP ctx db params = .ok (db', result)) :
    Repeated db db' result ∨ ∃ posted,
      postTransactionalJournal ctx db.journal params.posting = .ok posted ∧
      db'.journal = posted.1 ∧ db'.books = db.books ∧ db'.stock = db.stock ∧
      result = .costed params.laborCost := by
  unfold recordLaborCostToWIP at h
  by_cases hkey : db.hasProcessed params.idempKey
  · rw [if_pos hkey] at h
    cases h
    exact Or.inl ⟨rfl, rfl⟩
  · rw [if_neg hkey] at h
    simp only [bind_eq_ok, pure_eq_ok] at h
    obtain ⟨-, -, wip, -, posted, hposted, heq⟩ := h
    cases heq
    exact Or.inr ⟨posted, hposted, rfl, rfl, rfl, rfl⟩

theorem overhead_eq_ok {params : OverheadCostParams}
    (h : recordOverheadToWIP ctx db params = .ok (db', result)) :
    Repeated db db' result ∨ ∃ posted,
      postTransactionalJournal ctx db.journal params.posting = .ok posted ∧
      db'.journal = posted.1 ∧ db'.books = db.books ∧ db'.stock = db.stock ∧
      result = .costed params.amount := by
  unfold recordOverheadToWIP at h
  by_cases hkey : db.hasProcessed params.idempKey
  · rw [if_pos hkey] at h
    cases h
    exact Or.inl ⟨rfl, rfl⟩
  · rw [if_neg hkey] at h
    simp only [bind_eq_ok, pure_eq_ok] at h
    obtain ⟨-, -, wip, -, posted, hposted, heq⟩ := h
    cases heq
    exact Or.inr ⟨posted, hposted, rfl, rfl, rfl, rfl⟩

/-- The three postings of a completion follow one another; the last two are made for amounts
other than zero. -/
theorem completion_eq_ok {params : CompletionParams}
    (h : completeWorkOrderCost ctx db params = .ok (db', result)) :
    Repeated db db' result ∨
    ∃ (wipPerUnit totalVariance : Decimal) (posted : List JournalEntry × JournalEntry)
        (journal : List JournalEntry),
      params.enterBooks ctx db.books wipPerUnit = .ok db'.books ∧
      postTransactionalJournal ctx db.journal
        (params.fgPosting ctx (params.completedQty.times wipPerUnit)) = .ok posted ∧
      postWhen (0 < params.scrapQty.times wipPerUnit) ctx posted.1
        (params.scrapPosting ctx (params.scrapQty.times wipPerUnit)) = .ok journal ∧
      postWhen (totalVariance ≠ 0) ctx journal (params.variancePosting ctx totalVariance) =
        .ok db'.journal ∧
      recordEntry db.stock (params.entry wipPerUnit posted.2.id) = .ok db'.stock ∧
      result = .completed (params.completedQty.times wipPerUnit)
        (params.scrapQty.times wipPerUnit) totalVariance := by
  unfold completeWorkOrderCost at h
  by_cases hkey : db.hasProcessed params.idempKey
  · rw [if_pos hkey] at h
    cases h
    exact Or.inl ⟨rfl, rfl⟩
  · rw [if_neg hkey] at h
    simp only [bind_eq_ok, pure_eq_ok] at h
    obtain ⟨-, -, -, -, rate, -, totals, -, books, hbooks, posted, hposted, scrapped, hscrapped,
      stock, hstock, journal, hjournal, wip, -, heq⟩ := h
    cases heq
    exact Or.inr ⟨_, _, posted, scrapped, hbooks, hposted, hscrapped, hjournal, hstock, rfl⟩

def RevaluationParams.revalAmount (params : RevaluationParams) (row : ItemCost) : Decimal :=
  (Decimal.times row.currentTotalQty.value params.newUnitCost).minus row.currentTotalValue.value

theorem revaluation_eq_ok {params : RevaluationParams}
    (h : revalueInventory ctx db params = .ok (db', result)) :
    ∃ (row revalued : ItemCost) (posted : List JournalEntry × JournalEntry),
      db.books.findItemCost params.key = some row ∧
      row.revalued params.newUnitCost
        (Decimal.times row.currentTotalQty.value params.newUnitCost) = .ok revalued ∧
      db'.books = db.books.writeItemCost revalued ∧
      postTransactionalJournal ctx db.journal
        (params.posting ctx row (params.revalAmount row)) = .ok posted ∧
      db'.journal = posted.1 ∧ db'.stock = db.stock ∧
      result = .revalued (params.revalAmount row) := by
  simp only [revalueInventory, bind_eq_ok, pure_eq_ok, found_eq_ok] at h
  obtain ⟨-, -, row, hrow, posted, hposted, revalued, hrevalued, heq⟩ := h
  cases heq
  exact ⟨row, revalued, posted, hrow, hrevalued, rfl, hposted, rfl, rfl, rfl⟩

theorem scrap_eq_ok {params : ScrapCostParams}
    (h : costScrap ctx db params = .ok (db', result)) :
    ∃ (scrapped : Books × Decimal) (posted : List JournalEntry × JournalEntry),
      params.leaveBooks ctx db.books = .ok scrapped ∧ db'.books = scrapped.1 ∧
      postTransactionalJournal ctx db.journal (params.posting ctx scrapped.2) = .ok posted ∧
      db'.journal = posted.1 ∧
      recordEntry db.stock (params.entry scrapped.2) = .ok db'.stock ∧
      result = .costed scrapped.2 := by
  simp only [costScrap, bind_eq_ok, pure_eq_ok] at h
  obtain ⟨-, -, scrapped, hscrapped, wip, -, posted, hposted, -, -, stock, hstock, heq⟩ := h
  cases heq
  exact ⟨scrapped, posted, hscrapped, rfl, hposted, rfl, hstock, rfl⟩

end Forecast.Costing
