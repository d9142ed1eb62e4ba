import Forecast.Lib.WrittenTable
import Forecast.Marg.StockLevels

/-!
# Batches from staged stock

`transformStockToBatches` pages through the live rows and writes a batch for each,
keyed by product, location and number; a statement that holds one key twice
fails. Batches of staged rows that no live row stands for are closed afterwards.
-/

open JsText KeyedTable WrittenTable

namespace Forecast

/-- The unique columns of a batch: its scope and its number. -/
abbrev BatchKey := Scope × String

def Batch.key (b : Batch) : BatchKey := ((b.productId, b.locationId), b.batchNumber)

/-- The note on every batch that the sync writes or closes. -/
def margBatchNotes : String := "Synced from Marg EDE"

def Batch.isMarg (b : Batch) : Bool := b.notes = some margBatchNotes

structure BatchDecision where
  key : BatchKey
  quantity : ℚ
  status : BatchStatus
  manufacturingDate : Option Millis
  expiryDate : Option Millis
  costPerUnit : Option ℚ
deriving DecidableEq

def BatchDecision.row (batches : List Batch) (d : BatchDecision) : Batch where
  id := ((lookup Batch.key batches d.key).map Batch.id).getD (freshId (batches.map Batch.id))
  productId := d.key.1.1
  locationId := d.key.1.2
  batchNumber := d.key.2
  quantity := d.quantity
  availableQty := d.quantity
  status := d.status
  manufacturingDate := d.manufacturingDate
  expiryDate := d.expiryDate
  costPerUnit := d.costPerUnit
  notes := some margBatchNotes

def Batch.closed (b : Batch) : Batch :=
  { b with quantity := 0, availableQty := 0, status := .consumed, notes := some margBatchNotes }

def Batch.reading (b : Batch) : ℚ × BatchStatus := (b.quantity, b.status)

/-- The row stands for stock without a batch. -/
def MargStock.isPlaceholderBatch (s : MargStock) : Bool :=
  s.batch.text = "" || s.batch.text = "_default"

def MargStock.batchNumber (s : MargStock) : String :=
  leftText 50 (if s.isPlaceholderBatch then "NOBATCH-" ++ s.pid.text else s.batch.text)

def MargStock.batchStatus (now : Millis) (s : MargStock) : BatchStatus :=
  if s.stockQty ≤ 0 then .consumed
  else if s.expiry.any fun expiry => expiry < now then .expired
  else .available

namespace StagedStock

section Decisions

variable (m : LinkedMasters) (now : Millis) (pageSize insertBatchSize : ℕ) (stock : StagedStock)

/-- Placeholder rows without a quantity are skipped, and rows without a scope. -/
def batchDecision (s : MargStock) : Option BatchDecision :=
  (m.scopeOf s.stockPid).bind fun scope =>
    if s.isPlaceholderBatch ∧ s.stockQty = 0 then none
    else
      some
        { key := (scope, s.batchNumber)
          quantity := s.stockQty
          status := s.batchStatus now
          manufacturingDate := s.batDate
          expiryDate := s.expiry
          costPerUnit := s.pRate }

def batchDecisions : List BatchDecision := stock.live.filterMap (batchDecision m now)

/-- The statements of the loop over the pages; the rows are listed in the order of their ids. -/
def batchChunks : List (List BatchDecision) :=
  (Paging.pages pageSize stock.live).flatMap fun page =>
    Paging.pages insertBatchSize (page.filterMap (batchDecision m now))

def insertChunk (batches : List Batch) (chunk : List BatchDecision) : Option (List Batch) :=
  if (chunk.map BatchDecision.key).Nodup then
    some (writeAll Batch.key BatchDecision.row batches chunk)
  else none

/-- A staged row, live or deleted, has the key, and no live one writes it. -/
def closes (key : BatchKey) : Bool :=
  key ∉ (stock.batchDecisions m now).map BatchDecision.key &&
    stock.rows.any fun s => s.batch.text ≠ "_default" &&
      (m.scopeOf s.stockPid).any fun scope => (scope, leftText 50 s.batch.text) = key

def closeMissingMargBatches (batches : List Batch) : List Batch :=
  batches.map fun b => if stock.closes m now b.key then b.closed else b

def transformStockToBatches (batches : List Batch) : Option (List Batch) :=
  ((stock.batchChunks m now pageSize insertBatchSize).foldlM insertChunk batches).map
    (stock.closeMissingMargBatches m now)

end Decisions

/-! ### The batches after the transform -/

variable {m : LinkedMasters} {now : Millis} {pageSize insertBatchSize : ℕ} {stock : StagedStock}

theorem flatten_batchChunks :
    (stock.batchChunks m now pageSize insertBatchSize).flatten = stock.batchDecisions m now := by
  have hpages : ∀ pages : List (List MargStock),
      (pages.flatMap fun page =>
        Paging.pages insertBatchSize (page.filterMap (batchDecision m now))).flatten =
          pages.flatten.filterMap (batchDecision m now) := by
    intro pages
    induction pages with
    | nil => rfl
    | cons page pages ih =>
      rw [List.flatMap_cons, List.flatten_append, Paging.flatten_pages, ih, List.flatten_cons,
        List.filterMap_append]
  rw [batchChunks, hpages, Paging.flatten_pages]
  rfl

/-- The statements succeed together when no one has a key twice. -/
theorem foldlM_insertChunk (chunks : List (List BatchDecision)) (batches : List Batch) :
    chunks.foldlM insertChunk batches =
      if ∀ chunk ∈ chunks, (chunk.map BatchDecision.key).Nodup then
        some (writeAll Batch.key BatchDecision.row batches chunks.flatten)
      else none := by
  induction chunks generalizing batches with
  | nil => simp [writeAll]
  | cons chunk chunks ih =>
    rw [List.foldlM_cons, insertChunk]
    by_cases hchunk : (chunk.map BatchDecision.key).Nodup
    · rw [if_pos hchunk, Option.bind_eq_bind, Option.bind_some, ih, List.flatten_cons,
        writeAll_append]
      simp only [List.forall_mem_cons, hchunk, true_and]
    · rw [if_neg hchunk, if_neg]
      · rfl
      · exact fun h => hchunk (h chunk List.mem_cons_self)

theorem transformStockToBatches_eq_some {batches after : List Batch} :
    stock.transformStockToBatches m now pageSize insertBatchSize batches = some after ↔
      (∀ chunk ∈ stock.batchChunks m now pageSize insertBatchSize,
        (chunk.map BatchDecision.key).Nodup) ∧
      after = stock.closeMissingMargBatches m now
        (writeAll Batch.key BatchDecision.row batches (stock.batchDecisions m now)) := by
  rw [transformStockToBatches, foldlM_insertChunk, flatten_batchChunks]
  by_cases h : ∀ chunk ∈ stock.batchChunks m now pageSize insertBatchSize,
      (chunk.map BatchDecision.key).Nodup
  · rw [if_pos h, Option.map_some, Option.some.injEq]
    exact ⟨fun heq => ⟨h, heq.symm⟩, fun heq => heq.2.symm⟩
  · rw [if_neg h]
    simp [h]

/-- The batches that a complete transform leaves. -/
def batchesAfter (m : LinkedMasters) (now : Millis) (stock : StagedStock) (batches : List Batch) :
    List Batch :=
  stock.closeMissingMargBatches m now
    (writeAll Batch.key BatchDecision.row batches (stock.batchDecisions m now))

theorem closes_eq_false_of_written {key : BatchKey}
    (h : key ∈ (stock.batchDecisions m now).map BatchDecision.key) :
    stock.closes m now key = false := by
  simp only [closes, h, not_true_eq_false, decide_false, Bool.false_and]

theorem key_row (batches : List Batch) (d : BatchDecision) : (d.row batches).key = d.key := rfl

theorem lookup_batchesAfter (batches : List Batch) (key : BatchKey) :
    (lookup Batch.key (stock.batchesAfter m now batches) key).map Batch.reading =
      ((lastWith BatchDecision.key (stock.batchDecisions m now) key).map fun d =>
        (d.quantity, d.status)).or
        ((lookup Batch.key batches key).map fun b =>
          if stock.closes m now key then (0, .consumed) else b.reading) := by
  have hkey : ∀ b : Batch, (if stock.closes m now b.key then b.closed else b).key = b.key := by
    intro b
    split_ifs <;> rfl
  rw [batchesAfter, closeMissingMargBatches, lookup_map hkey, Option.map_map]
  have hread : ((lookup Batch.key (writeAll Batch.key BatchDecision.row batches
      (stock.batchDecisions m now)) key).map
        (Batch.reading ∘ fun b => if stock.closes m now b.key then b.closed else b)) =
      ((lookup Batch.key (writeAll Batch.key BatchDecision.row batches
        (stock.batchDecisions m now)) key).map Batch.reading).map fun r =>
          if stock.closes m now key then (0, .consumed) else r := by
    cases hfound : lookup Batch.key (writeAll Batch.key BatchDecision.row batches
        (stock.batchDecisions m now)) key with
    | none => rfl
    | some b =>
      obtain ⟨-, hb⟩ := lookup_eq_some hfound
      rw [Option.map_some, Option.map_some, Option.map_some, Function.comp_apply, hb]
      split_ifs <;> rfl
  have hreading : ∀ (t : List Batch) (d : BatchDecision),
      (d.row t).reading = (d.quantity, d.status) := fun _ _ => rfl
  rw [hread, lookup_writeAll key_row hreading]
  cases hlast : lastWith BatchDecision.key (stock.batchDecisions m now) key with
  | some d =>
    obtain ⟨hd, hdkey⟩ := lastWith_eq_some hlast
    have hwritten : key ∈ (stock.batchDecisions m now).map BatchDecision.key :=
      hdkey ▸ List.mem_map_of_mem hd
    simp [closes_eq_false_of_written hwritten]
  | none =>
    rw [Option.map_none, Option.none_or, Option.none_or, Option.map_map]
    rfl

/-! ### The quantities of a scope -/

def margBatchQty (batches : List Batch) (scope : Scope) : ℚ :=
  ((batches.filter fun b => b.isMarg && b.key.1 = scope).map Batch.quantity).sum

/-- What is left open of the Marg batches from before. -/
def leftoverQty (m : LinkedMasters) (now : Millis) (stock : StagedStock) (batches : List Batch)
    (scope : Scope) : ℚ :=
  margBatchQty (batches.filter fun b =>
    b.key ∉ (stock.batchDecisions m now).map BatchDecision.key && !stock.closes m now b.key) scope

def decidedQty (decisions : List BatchDecision) (scope : Scope) : ℚ :=
  ((decisions.filter fun d => d.key.1 = scope).map BatchDecision.quantity).sum

/-- What live rows of a scope hold that a later row with the same batch number replaces. -/
def overwrittenQty (m : LinkedMasters) (now : Millis) (stock : StagedStock) (scope : Scope) : ℚ :=
  decidedQty (stock.batchDecisions m now) scope -
    decidedQty (lastOfEach BatchDecision.key (stock.batchDecisions m now)) scope

theorem batchDecision_of_scope (now : Millis) {s : MargStock} {scope : Scope}
    (h : m.scopeOf s.stockPid = some scope) :
    (batchDecision m now s = none ∧ s.stockQty = 0) ∨
      ∃ d, batchDecision m now s = some d ∧ d.key.1 = scope ∧ d.quantity = s.stockQty := by
  unfold batchDecision
  rw [h, Option.bind_some]
  by_cases hskip : s.isPlaceholderBatch ∧ s.stockQty = 0
  · rw [if_pos hskip]
    exact Or.inl ⟨rfl, hskip.2⟩
  · rw [if_neg hskip]
    exact Or.inr ⟨_, rfl, rfl, rfl⟩

theorem scopeOf_of_batchDecision {s : MargStock} {d : BatchDecision}
    (h : batchDecision m now s = some d) : m.scopeOf s.stockPid = some d.key.1 := by
  unfold batchDecision at h
  obtain ⟨scope, hscope, hd⟩ := Option.bind_eq_some_iff.1 h
  split_ifs at hd
  rw [Option.some.injEq] at hd
  rw [hscope, ← hd]

/-- The skipped rows hold nothing, so the decisions of a scope sum its live rows. -/
theorem decidedQty_batchDecisions (scope : Scope) :
    decidedQty (stock.batchDecisions m now) scope =
      ((stock.liveIn m scope).map MargStock.stockQty).sum := by
  unfold decidedQty batchDecisions liveIn
  induction stock.live with
  | nil => rfl
  | cons s rows ih =>
    have hrow : ∀ h : m.scopeOf s.stockPid = some scope,
        (s :: rows).filter (fun s => m.scopeOf s.stockPid = some scope) =
          s :: rows.filter fun s => m.scopeOf s.stockPid = some scope :=
      fun h => List.filter_cons_of_pos (by simpa using h)
    by_cases hscope : m.scopeOf s.stockPid = some scope
    · rw [hrow hscope, List.map_cons, List.sum_cons, ← ih]
      obtain ⟨hnone, hzero⟩ | ⟨d, hd, hdscope, hqty⟩ := batchDecision_of_scope now hscope
      · rw [List.filterMap_cons_none hnone, hzero, zero_add]
      · rw [List.filterMap_cons_some hd, List.filter_cons_of_pos (by simpa using hdscope),
          List.map_cons, List.sum_cons, hqty]
    · rw [List.filter_cons_of_neg (by simpa using hscope), ← ih]
      cases hd : batchDecision m now s with
      | none => rw [List.filterMap_cons_none hd]
      | some d =>
        have hdscope : d.key.1 ≠ scope := by
          intro heq
          exact hscope (heq ▸ scopeOf_of_batchDecision hd)
        rw [List.filterMap_cons_some hd, List.filter_cons_of_neg (by simpa using hdscope)]

theorem margBatchQty_batchesAfter (m : LinkedMasters) (now : Millis) (stock : StagedStock)
    {batches : List Batch} (hunique : (batches.map Batch.key).Nodup)
    (scope : Scope) :
    margBatchQty (stock.batchesAfter m now batches) scope =
      ((stock.liveIn m scope).map MargStock.stockQty).sum -
        stock.overwrittenQty m now scope + stock.leftoverQty m now batches scope := by
  let share : Batch → ℚ := fun b => if b.isMarg && b.key.1 = scope then b.quantity else 0
  let openShare : Batch → ℚ := fun b => if stock.closes m now b.key then 0 else share b
  have hclosed : margBatchQty (stock.batchesAfter m now batches) scope =
      ((writeAll Batch.key BatchDecision.row batches (stock.batchDecisions m now)).map
        openShare).sum := by
    rw [margBatchQty, Grouping.sum_map_filter, batchesAfter, closeMissingMargBatches, List.map_map]
    congr 1
    apply List.map_congr_left
    intro b _
    rw [Function.comp_apply]
    by_cases hb : stock.closes m now b.key
    · simp [openShare, hb, Batch.closed]
    · simp [openShare, share, hb]
  have hwritten := sum_writeAll key_row hunique (stock.batchDecisions m now) (f := openShare)
    (g := fun d => if stock.closes m now d.key then 0
      else if decide (d.key.1 = scope) then d.quantity else 0) (by
        intro t d
        have hmarg : (d.row t).isMarg = true := decide_eq_true rfl
        simp only [openShare, share, key_row, hmarg, Bool.true_and]
        rfl)
    (fun b => b.key ∉ (stock.batchDecisions m now).map BatchDecision.key) (by
        intro b
        exact decide_eq_true_iff)
  have hlast : ((lastOfEach BatchDecision.key (stock.batchDecisions m now)).map fun d =>
      if stock.closes m now d.key then 0
      else if decide (d.key.1 = scope) then d.quantity else 0).sum =
      decidedQty (lastOfEach BatchDecision.key (stock.batchDecisions m now)) scope := by
    rw [decidedQty, Grouping.sum_map_filter]
    congr 1
    apply List.map_congr_left
    intro d hd
    rw [if_neg]
    rw [closes_eq_false_of_written (List.mem_map_of_mem (lastOfEach_subset hd))]
    exact Bool.false_ne_true
  have hleft : ((batches.filter fun b =>
      b.key ∉ (stock.batchDecisions m now).map BatchDecision.key).map openShare).sum =
      stock.leftoverQty m now batches scope := by
    rw [leftoverQty, margBatchQty, List.filter_filter, Grouping.sum_map_filter,
      Grouping.sum_map_filter]
    congr 1
    apply List.map_congr_left
    intro b _
    by_cases hb : stock.closes m now b.key
    · simp [openShare, hb]
    · simp only [openShare, share, hb]
      by_cases hkey : b.key ∈ (stock.batchDecisions m now).map BatchDecision.key
      · simp [hkey]
      · simp [hkey]
  rw [hclosed, hwritten, hlast, hleft, overwrittenQty, decidedQty_batchDecisions]
  ring

end StagedStock

end Forecast
