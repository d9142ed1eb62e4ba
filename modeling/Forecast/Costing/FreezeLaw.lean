import Forecast.Costing.LayerLaw
import Forecast.Costing.PeriodLaw

/-!
# Layers of closed periods

Closing a period freezes its open cost layers, and a depletion takes from open layers
only: stock received in a closed period cannot be issued before the period is reopened.
What the open layers hold can always be issued. Reopening thaws the layers that still
have stock.
-/

open KeyedTable DecimalColumn Transactions Runs

namespace Forecast.Costing

open Inventory (Qty StockKey)

/-! ### What the open layers hold -/

def stockIn (layers : List CostLayer) : ℚ := (layers.map fun l => l.remainingQty.value).sum

def stockOnHand (layers : List CostLayer) (key : StockKey) : ℚ :=
  stockIn (layers.filter fun l => l.key = key ∧ 0 < l.remainingQty.value)

def openStock (layers : List CostLayer) (key : StockKey) : ℚ :=
  stockIn (layers.filter fun l => l.key = key ∧ l.status = .opened ∧ 0 < l.remainingQty.value)

def CostLayer.CostFits (l : CostLayer) : Prop :=
  (Column.store (Decimal.times l.remainingQty.value l.unitCost.value) : Option Qty).isSome

instance (l : CostLayer) : Decidable l.CostFits := inferInstanceAs (Decidable (_ = true))

/-- The quantity of the layers is a number of at most twenty digits. -/
def FitsDigits (quantity : ℚ) : Prop := quantity * 10 ^ 4 < 10 ^ Decimal.precision

instance (quantity : ℚ) : Decidable (FitsDigits quantity) := inferInstanceAs (Decidable (_ < _))

theorem stockIn_cons (l : CostLayer) (ls : List CostLayer) :
    stockIn (l :: ls) = l.remainingQty.value + stockIn ls := by
  rw [stockIn, List.map_cons, List.sum_cons, stockIn]

theorem onScale_stockIn (ls : List CostLayer) : OnScale 4 (stockIn ls) := by
  induction ls with
  | nil => exact OnScale.zero
  | cons l ls ih =>
    rw [stockIn_cons]
    exact l.remainingQty.onScale_value.add ih

theorem stockIn_nonneg {ls : List CostLayer} (h : ∀ l ∈ ls, 0 < l.remainingQty.value) :
    0 ≤ stockIn ls := by
  induction ls with
  | nil => exact le_rfl
  | cons l ls ih =>
    rw [List.forall_mem_cons] at h
    rw [stockIn_cons]
    exact add_nonneg h.1.le (ih h.2)

theorem stockIn_perm {ls ls' : List CostLayer} (h : ls.Perm ls') : stockIn ls = stockIn ls' :=
  (h.map _).sum_eq

theorem toSignificant_stockIn {ls : List CostLayer} (hpos : ∀ l ∈ ls, 0 < l.remainingQty.value)
    (hdigits : FitsDigits (stockIn ls)) :
    GridRounding.toSignificant Decimal.precision (stockIn ls) = stockIn ls := by
  refine (onScale_stockIn ls).toSignificant_eq_self ?_
  rw [abs_of_nonneg (stockIn_nonneg hpos)]
  exact hdigits

/-! ### Issuing what the open layers hold -/

section Depletion

variable {reference : DepletionReference} {s : DepletionState} {l : CostLayer}
  {ls : List CostLayer}

/-- A layer gives what is asked of it, and the rest is for the layers after it. -/
theorem exists_depleteLayer (hpos : ∀ l' ∈ l :: ls, 0 < l'.remainingQty.value)
    (hcost : l.CostFits) (hdigits : FitsDigits (stockIn ls))
    (hle : s.remaining ≤ stockIn (l :: ls)) :
    ∃ s', depleteLayer reference s l = .ok s' ∧ s'.remaining ≤ stockIn ls := by
  have hl : 0 < l.remainingQty.value := hpos l List.mem_cons_self
  have hrest : ∀ l' ∈ ls, 0 < l'.remainingQty.value := fun l' hl' =>
    hpos l' (List.mem_cons_of_mem l hl')
  have hnonneg : 0 ≤ stockIn ls := stockIn_nonneg hrest
  unfold depleteLayer
  by_cases hdone : s.remaining ≤ 0
  · rw [if_pos hdone]
    exact ⟨s, rfl, hdone.trans hnonneg⟩
  rw [if_neg hdone]
  push Not at hdone
  set depleteQty := min s.remaining l.remainingQty.value with hdeplete
  have hdepleteLe : depleteQty ≤ l.remainingQty.value := min_le_right _ _
  have hdepletePos : 0 < depleteQty := lt_min hdone hl
  have hlayer : GridRounding.toSignificant Decimal.precision l.remainingQty.value =
      l.remainingQty.value := by
    refine l.remainingQty.onScale_value.toSignificant_eq_self
      (l.remainingQty.abs_value_mul_lt.trans (by norm_num [Decimal.precision]))
  have hnew : |Decimal.minus l.remainingQty.value depleteQty| ≤ |l.remainingQty.value| := by
    have hlow : 0 ≤ Decimal.minus l.remainingQty.value depleteQty :=
      GridRounding.toSignificant_nonneg (by linarith)
    have hhigh : Decimal.minus l.remainingQty.value depleteQty ≤ l.remainingQty.value := by
      calc Decimal.minus l.remainingQty.value depleteQty
          ≤ GridRounding.toSignificant Decimal.precision l.remainingQty.value :=
            GridRounding.toSignificant_mono (by decide) (by linarith)
        _ = l.remainingQty.value := hlayer
    rw [abs_of_nonneg hlow, abs_of_pos hl]
    exact hhigh
  have htaken : |depleteQty| ≤ |l.remainingQty.value| := by
    rw [abs_of_pos hdepletePos, abs_of_pos hl]
    exact hdepleteLe
  have hcostLe : |depleteQty.times l.unitCost.value| ≤
      |Decimal.times l.remainingQty.value l.unitCost.value| := by
    unfold Decimal.times
    rw [← GridRounding.toSignificant_abs, ← GridRounding.toSignificant_abs, abs_mul, abs_mul]
    exact GridRounding.toSignificant_mono (by decide)
      (mul_le_mul_of_nonneg_right htaken (abs_nonneg _))
  obtain ⟨remainingQty, hremaining⟩ :=
    Column.exists_store_of_abs_le hnew (Column.store_value l.remainingQty)
  obtain ⟨depletedQty, hdepleted⟩ :=
    Column.exists_store_of_abs_le htaken (Column.store_value l.remainingQty)
  obtain ⟨whole, hwhole⟩ := Option.isSome_iff_exists.1 hcost
  obtain ⟨totalCost, htotal⟩ := Column.exists_store_of_abs_le hcostLe hwhole
  simp only [bind_eq_ok, pure_eq_ok, columnOf_eq_ok]
  refine ⟨_, ⟨remainingQty, hremaining, depletedQty, hdepleted, totalCost, htotal, rfl⟩, ?_⟩
  · -- rounding what is left to take does not lift it over what the other layers hold
    have hleft : s.remaining - depleteQty ≤ stockIn ls := by
      rcases min_choice s.remaining l.remainingQty.value with heq | heq
      · rw [hdeplete, heq, sub_self]
        exact hnonneg
      · rw [hdeplete, heq]
        rw [stockIn_cons] at hle
        linarith
    calc s.remaining.minus depleteQty
        ≤ GridRounding.toSignificant Decimal.precision (stockIn ls) :=
          GridRounding.toSignificant_mono (by decide) hleft
      _ = stockIn ls := toSignificant_stockIn hrest hdigits

theorem exists_forEach_depleteLayer (hpos : ∀ l ∈ ls, 0 < l.remainingQty.value)
    (hcost : ∀ l ∈ ls, l.CostFits) (hdigits : FitsDigits (stockIn ls))
    (hle : s.remaining ≤ stockIn ls) :
    ∃ s', forEach (depleteLayer reference) s ls = .ok s' ∧ s'.remaining ≤ 0 := by
  induction ls generalizing s with
  | nil => exact ⟨s, rfl, hle⟩
  | cons l ls ih =>
    have hrest : ∀ l' ∈ ls, 0 < l'.remainingQty.value := fun l' hl' =>
      hpos l' (List.mem_cons_of_mem l hl')
    have hdigits' : FitsDigits (stockIn ls) := by
      have hl : 0 < l.remainingQty.value := hpos l List.mem_cons_self
      unfold FitsDigits at hdigits ⊢
      rw [stockIn_cons] at hdigits
      linarith
    obtain ⟨m, hm, hrem⟩ :=
      exists_depleteLayer hpos (hcost l List.mem_cons_self) hdigits' hle
    obtain ⟨s', hs', hdone⟩ :=
      ih hrest (fun l' hl' => hcost l' (List.mem_cons_of_mem l hl')) hdigits' hrem
    exact ⟨s', forEach_cons_eq_ok.2 ⟨m, hm, hs'⟩, hdone⟩

end Depletion

/-- Whatever the open layers hold can be issued. -/
theorem exists_depleteCostLayers {books : Books} {key : StockKey} {quantity : Decimal}
    (method : CostingMethod) (reference : DepletionReference)
    (hcost : ∀ l ∈ books.costLayers, l.status = .opened → l.CostFits)
    (hdigits : FitsDigits (openStock books.costLayers key))
    (hle : quantity ≤ openStock books.costLayers key) :
    ∃ depleted, books.depleteCostLayers key quantity method reference = .ok depleted := by
  have hperm := openLayers_perm books.costLayers method key
  have hstock : stockIn (openLayers books.costLayers method key) = openStock books.costLayers key :=
    stockIn_perm hperm
  have hmem : ∀ l ∈ openLayers books.costLayers method key,
      l ∈ books.costLayers ∧ l.status = .opened ∧ 0 < l.remainingQty.value := by
    intro l hl
    obtain ⟨hl, hopen⟩ := List.mem_filter.1 (hperm.mem_iff.1 hl)
    exact ⟨hl, (of_decide_eq_true hopen).2⟩
  rw [← hstock] at hdigits hle
  have hdone : ∃ s, forEach (depleteLayer reference) (.start books quantity)
      (openLayers books.costLayers method key) = .ok s ∧ s.remaining ≤ 0 :=
    exists_forEach_depleteLayer (fun l hl => (hmem l hl).2.2)
      (fun l hl => hcost l (hmem l hl).1 (hmem l hl).2.1) hdigits hle
  obtain ⟨s, hs, hdone⟩ := hdone
  simp only [Books.depleteCostLayers, bind_eq_ok, pure_eq_ok, throwWhen_eq_ok]
  exact ⟨_, s, hs, (), not_lt.2 hdone, rfl⟩

/-! ### Closing and reopening -/

namespace CostLayer

variable (p : Id) (l : CostLayer)

/-- The layer after its period, if it is `p`, was closed. -/
def closed : CostLayer :=
  if l.fiscalPeriodId = some p then
    if l.status = .opened then { l with status := .frozen } else l
  else l

/-- The layer after its period, if it is `p`, was reopened. -/
def reopened : CostLayer :=
  if l.fiscalPeriodId = some p then
    if l.status = .frozen ∧ 0 < l.remainingQty.value then { l with status := .opened } else l
  else l

/-- Closing and reopening the period gives the layer its status back. -/
def RegainsStatus : Prop :=
  l.fiscalPeriodId = some p → l.status ≠ .depleted →
    (l.status = .opened ↔ 0 < l.remainingQty.value)

variable {p l}

theorem closed_of_ne (h : l.fiscalPeriodId ≠ some p) : l.closed p = l := if_neg h

theorem reopened_of_ne (h : l.fiscalPeriodId ≠ some p) : l.reopened p = l := if_neg h

@[simp] theorem fiscalPeriodId_reopened : (l.reopened p).fiscalPeriodId = l.fiscalPeriodId := by
  unfold reopened
  split_ifs <;> rfl

@[simp] theorem remainingQty_reopened : (l.reopened p).remainingQty = l.remainingQty := by
  unfold reopened
  split_ifs <;> rfl

theorem reopened_of_opened (h : l.status = .opened) : l.reopened p = l := by
  unfold reopened
  rw [h]
  simp

theorem status_reopened (hp : l.fiscalPeriodId = some p) (hpos : 0 < l.remainingQty.value) :
    (l.reopened p).status ≠ .frozen := by
  unfold reopened
  rw [if_pos hp]
  by_cases hfrozen : l.status = .frozen
  · rw [if_pos ⟨hfrozen, hpos⟩]
    exact fun h => CostLayerStatus.noConfusion h
  · rw [if_neg fun h => hfrozen h.1]
    exact hfrozen

theorem status_reopened_closed : ((l.closed p).reopened p).status = l.status ↔ l.RegainsStatus p := by
  unfold RegainsStatus
  by_cases hp : l.fiscalPeriodId = some p
  · by_cases hpos : 0 < l.remainingQty.value <;> cases hstatus : l.status <;>
      simp [closed, reopened, hp, hpos, hstatus]
  · rw [closed_of_ne hp, reopened_of_ne hp]
    exact iff_of_true rfl fun h => absurd h hp

end CostLayer

namespace FiscalDb

variable {db db' : FiscalDb} {p : Id}

theorem costLayers_closePeriod (h : db.closePeriod p = .ok db') :
    db'.costLayers = db.costLayers.map (CostLayer.closed p) := by
  simp only [closePeriod, bind_eq_ok, pure_eq_ok] at h
  obtain ⟨-, -, -, -, rfl⟩ := h
  rfl

theorem costLayers_reopenPeriod (h : db.reopenPeriod p = .ok db') :
    db'.costLayers = db.costLayers.map (CostLayer.reopened p) := by
  simp only [reopenPeriod, bind_eq_ok, pure_eq_ok] at h
  obtain ⟨-, -, -, -, rfl⟩ := h
  rfl

/-- A period that was closed can be reopened at once. -/
theorem exists_reopenPeriod (h : db.closePeriod p = .ok db') :
    ∃ db'', db'.reopenPeriod p = .ok db'' := by
  simp only [closePeriod, bind_eq_ok, pure_eq_ok, throwWhen_eq_ok] at h
  obtain ⟨-, -, -, hperiod, rfl⟩ := h
  simp only [reopenPeriod, bind_eq_ok, pure_eq_ok, throwWhen_eq_ok]
  refine ⟨_, (), ?_, (), ?_, rfl⟩
  · rw [not_not, checkpointStatus, setCheckpoint]
    dsimp only
    rw [lookup_upsert, if_pos rfl]
    rfl
  · intro hmissing
    refine hperiod ?_
    rw [Bool.not_eq_true'] at hmissing ⊢
    rw [hasPeriod, List.any_eq_false] at hmissing ⊢
    intro row hrow
    have hmapped := hmissing _ (List.mem_map_of_mem hrow)
    by_cases hid : row.id = p
    · simp [hid] at hmapped
    · simpa using hid

end FiscalDb

namespace FiscalSystem

variable {s : FiscalSystem} {a : FiscalAction}

def Closes (s : FiscalSystem) (a : FiscalAction) (p : Id) : Prop :=
  a = .closePeriod p ∧ ∃ db, s.db.closePeriod p = .ok db

def Reopens (s : FiscalSystem) (a : FiscalAction) (p : Id) : Prop :=
  a = .reopenPeriod p ∧ ∃ db, s.db.reopenPeriod p = .ok db

theorem costLayers_transaction {body : Except PeriodError FiscalDb}
    (h : ∀ db, body = .ok db → db.costLayers = s.db.costLayers) :
    (transaction s (body.map s.withDb)).db.costLayers = s.db.costLayers := by
  cases hbody : body with
  | error e => rfl
  | ok db => exact h db hbody

theorem costLayers_createJournalEntry (s : FiscalSystem) (process : Id) (params : JournalParams) :
    (s.createJournalEntry process params).db.costLayers = s.db.costLayers := by
  unfold createJournalEntry
  cases findByIdempotencyKey s.db.entries params.idempotencyKey with
  | some _ => rfl
  | none =>
    cases Forecast.createJournalEntry (s.context process params.entryDate).accounting
        s.db.entries params with
    | error e => rfl
    | ok created => rfl

theorem costLayers_reverseJournalEntry (s : FiscalSystem) (process : Id) (now : Millis)
    (journalEntryId : Id) (reason : String) :
    (s.reverseJournalEntry process now journalEntryId reason).db.costLayers = s.db.costLayers := by
  unfold reverseJournalEntry
  by_cases hreversible : s.isReversible journalEntryId
  · rw [if_pos hreversible]
    cases Forecast.reverseJournalEntry (s.context process now).accounting s.db.entries
        journalEntryId reason with
    | error e => rfl
    | ok entries => rfl
  · rw [if_neg hreversible]

theorem costLayers_next (s : FiscalSystem) (a : FiscalAction) :
    (s.next a).db.costLayers = s.db.costLayers ∨
      (∃ p, s.Closes a p ∧ (s.next a).db.costLayers = s.db.costLayers.map (CostLayer.closed p)) ∨
      ∃ p, s.Reopens a p ∧ (s.next a).db.costLayers = s.db.costLayers.map (CostLayer.reopened p) := by
  cases a with
  | lockFiscalPeriod periodId =>
    refine Or.inl (costLayers_transaction fun db h => ?_)
    simp only [FiscalDb.lockFiscalPeriod, bind_eq_ok, pure_eq_ok] at h
    obtain ⟨-, -, rfl⟩ := h
    rfl
  | unlockFiscalPeriod periodId =>
    refine Or.inl (costLayers_transaction fun db h => ?_)
    simp only [FiscalDb.unlockFiscalPeriod, bind_eq_ok, pure_eq_ok] at h
    obtain ⟨-, -, rfl⟩ := h
    rfl
  | toggleFiscalPeriodStatus periodId =>
    refine Or.inl (costLayers_transaction fun db h => ?_)
    simp only [FiscalDb.toggleFiscalPeriodStatus, bind_eq_ok, pure_eq_ok] at h
    obtain ⟨-, -, rfl⟩ := h
    rfl
  | snapshotPeriodValuation id =>
    refine Or.inl (costLayers_transaction fun db h => ?_)
    simp only [FiscalDb.snapshotPeriodValuation, bind_eq_ok, pure_eq_ok] at h
    obtain ⟨-, -, -, -, rfl⟩ := h
    rfl
  | closePeriod id =>
    cases h : s.db.closePeriod id with
    | error e =>
      refine Or.inl ?_
      simp only [next, h, Except.map, transaction_error]
    | ok db =>
      refine Or.inr (Or.inl ⟨id, ⟨rfl, db, h⟩, ?_⟩)
      simp only [next, h, Except.map, transaction_ok]
      exact FiscalDb.costLayers_closePeriod h
  | reopenPeriod id =>
    cases h : s.db.reopenPeriod id with
    | error e =>
      refine Or.inl ?_
      simp only [next, h, Except.map, transaction_error]
    | ok db =>
      refine Or.inr (Or.inr ⟨id, ⟨rfl, db, h⟩, ?_⟩)
      simp only [next, h, Except.map, transaction_ok]
      exact FiscalDb.costLayers_reopenPeriod h
  | createJournalEntry process params => exact Or.inl (costLayers_createJournalEntry s process params)
  | postCosted process params =>
    refine Or.inl ?_
    change (s.postCosted process params).db.costLayers = _
    unfold postCosted
    cases (s.context process params.entryDate).assertPeriodOpen params.fiscalPeriodId with
    | error e => rfl
    | ok _ => exact costLayers_createJournalEntry s process params
  | reverseJournalEntry process now journalEntryId reason =>
    exact Or.inl (costLayers_reverseJournalEntry s process now journalEntryId reason)

theorem getElem?_next {n : ℕ} {l : CostLayer} (hl : s.db.costLayers[n]? = some l)
    (hopen : l.status = .opened) (hno : ∀ p, s.Closes a p → l.fiscalPeriodId ≠ some p) :
    (s.next a).db.costLayers[n]? = some l := by
  rcases costLayers_next s a with hsame | ⟨p, hcloses, hclosed⟩ | ⟨p, -, hreopened⟩
  · rw [hsame, hl]
  · rw [hclosed, List.getElem?_map, hl, Option.map_some, CostLayer.closed_of_ne (hno p hcloses)]
  · rw [hreopened, List.getElem?_map, hl, Option.map_some, CostLayer.reopened_of_opened hopen]

end FiscalSystem

/-! ### The law -/

/-- The layers before action number `k`. -/
def layersAt (start : FiscalSystem) (actions : List FiscalAction) (k : ℕ) : List CostLayer :=
  (stateAt FiscalSystem.next start actions k).db.costLayers

/-- Action number `k` closes the period. -/
def ClosesAt (start : FiscalSystem) (actions : List FiscalAction) (k : ℕ) (p : Id) : Prop :=
  ∃ a, actions[k]? = some a ∧ (stateAt FiscalSystem.next start actions k).Closes a p

/-- Action number `k` reopens the period. -/
def ReopensAt (start : FiscalSystem) (actions : List FiscalAction) (k : ℕ) (p : Id) : Prop :=
  ∃ a, actions[k]? = some a ∧ (stateAt FiscalSystem.next start actions k).Reopens a p

/-- All stock on hand in the layers of an item can be issued at any time, and reopening a
closed period gives every layer its status back. -/
structure StockLaw (start : FiscalSystem) (actions : List FiscalAction) : Prop where
  issuable : ∀ (k : ℕ) (books : Books) (key : StockKey) (quantity : Decimal)
    (method : CostingMethod) (reference : DepletionReference),
    books.costLayers = layersAt start actions k →
    (∀ l ∈ books.costLayers, l.CostFits) → FitsDigits (stockOnHand books.costLayers key) →
    quantity ≤ stockOnHand books.costLayers key →
    ∃ depleted, books.depleteCostLayers key quantity method reference = .ok depleted
  restored : ∀ (k : ℕ) (p : Id) (db db' : FiscalDb),
    (stateAt FiscalSystem.next start actions k).db.closePeriod p = .ok db →
    db.reopenPeriod p = .ok db' →
    db'.costLayers.map CostLayer.status = (layersAt start actions k).map CostLayer.status

/-- What holds of the layers with a period that can be closed. -/
structure FreezeLaw (start : FiscalSystem) (actions : List FiscalAction) : Prop where
  issuable : ∀ (k : ℕ) (books : Books) (key : StockKey) (quantity : Decimal)
    (method : CostingMethod) (reference : DepletionReference),
    books.costLayers = layersAt start actions k →
    (∀ l ∈ books.costLayers, l.status = .opened → l.CostFits) →
    FitsDigits (openStock books.costLayers key) →
    quantity ≤ openStock books.costLayers key →
    ∃ depleted, books.depleteCostLayers key quantity method reference = .ok depleted
  stays : ∀ (i j n : ℕ) (l : CostLayer), i ≤ j → (layersAt start actions i)[n]? = some l →
    l.status = .opened →
    (∀ k p, i ≤ k → k < j → ClosesAt start actions k p → l.fiscalPeriodId ≠ some p) →
    (layersAt start actions j)[n]? = some l
  reopened : ∀ (k : ℕ) (p : Id), ReopensAt start actions k p →
    ∀ l ∈ layersAt start actions (k + 1), l.fiscalPeriodId = some p → 0 < l.remainingQty.value →
      l.status ≠ .frozen
  restored : ∀ (k : ℕ) (p : Id) (db : FiscalDb),
    (stateAt FiscalSystem.next start actions k).db.closePeriod p = .ok db →
    ∃ db', db.reopenPeriod p = .ok db' ∧
      List.Forall₂ (fun l l' => l'.status = l.status ↔ l.RegainsStatus p)
        (layersAt start actions k) db'.costLayers

theorem getElem?_layersAt {start : FiscalSystem} {actions : List FiscalAction} {i j n : ℕ}
    {l : CostLayer} (hij : i ≤ j) (hl : (layersAt start actions i)[n]? = some l)
    (hopen : l.status = .opened)
    (hno : ∀ k p, i ≤ k → k < j → ClosesAt start actions k p → l.fiscalPeriodId ≠ some p) :
    (layersAt start actions j)[n]? = some l := by
  induction j, hij using Nat.le_induction with
  | base => exact hl
  | succ j hij ih =>
    have hbefore := ih fun k p hik hkj => hno k p hik (Nat.lt_succ_of_lt hkj)
    cases ha : actions[j]? with
    | none =>
      have hend : stateAt FiscalSystem.next start actions (j + 1) =
          stateAt FiscalSystem.next start actions j := by
        rw [stateAt, stateAt, List.take_add_one, ha, Option.toList_none, List.append_nil]
      rw [layersAt, hend]
      exact hbefore
    | some a =>
      rw [layersAt, stateAt_succ FiscalSystem.next start ha]
      exact FiscalSystem.getElem?_next hbefore hopen fun p hcloses =>
        hno j p hij (Nat.lt_succ_self j) ⟨a, ha, hcloses⟩

theorem freezeLaw (start : FiscalSystem) (actions : List FiscalAction) :
    FreezeLaw start actions where
  issuable k books key quantity method reference _ hcost hdigits hle :=
    exists_depleteCostLayers method reference hcost hdigits hle
  stays i j n l hij hl hopen hno := getElem?_layersAt hij hl hopen hno
  reopened := by
    rintro k p ⟨a, ha, rfl, db, hreopen⟩ l hl hp hpos
    rw [layersAt, stateAt_succ FiscalSystem.next start ha] at hl
    simp only [FiscalSystem.next, hreopen, Except.map, transaction_ok] at hl
    change l ∈ db.costLayers at hl
    rw [FiscalDb.costLayers_reopenPeriod hreopen] at hl
    obtain ⟨l', -, rfl⟩ := List.mem_map.1 hl
    rw [CostLayer.fiscalPeriodId_reopened] at hp
    rw [CostLayer.remainingQty_reopened] at hpos
    exact CostLayer.status_reopened hp hpos
  restored := by
    intro k p db hclose
    obtain ⟨db', hreopen⟩ := FiscalDb.exists_reopenPeriod hclose
    refine ⟨db', hreopen, ?_⟩
    rw [FiscalDb.costLayers_reopenPeriod hreopen, FiscalDb.costLayers_closePeriod hclose,
      List.map_map, List.forall₂_map_right_iff, layersAt]
    exact List.forall₂_same.2 fun l _ => CostLayer.status_reopened_closed

theorem closingPeriods_nodup :
    (([⟨⟨10, "P01", false, false⟩, 1, 0, 30⟩] : List FiscalPeriodRow).map fun row => row.id).Nodup :=
  List.nodup_singleton 10

/-- A layer of ten pieces in a period whose valuation is done. -/
def closingBooks : FiscalDb where
  calendars := [⟨1, true⟩]
  periods := [⟨⟨10, "P01", false, false⟩, 1, 0, 30⟩]
  periods_nodup := closingPeriods_nodup
  checkpoints := [⟨10, .closing⟩]
  costLayers :=
    [{ id := 0
       key := ⟨1, 7, 3⟩
       batchId := none
       costingMethod := .fifo
       layerDate := 0
       referenceType := "GOODS_RECEIPT"
       referenceId := 5
       originalQty := (Column.store 10).getD .zero
       remainingQty := (Column.store 10).getD .zero
       unitCost := (Column.store 3).getD .zero
       totalCost := (Column.store 30).getD .zero
       fiscalPeriodId := some 10 }]
  entries := []
  defaultCurrency := some "USD"

/-- The ten pieces are on hand, and none of them can be issued after the period is closed. -/
theorem not_stockLaw_closed : ¬StockLaw { db := closingBooks } [.closePeriod 10] := by
  intro h
  have hissue := h.issuable 1
    ⟨[], layersAt { db := closingBooks } [.closePeriod 10] 1, []⟩ ⟨1, 7, 3⟩ 4 .fifo
    ⟨"MATERIAL_ISSUE", 9⟩ rfl (by decide +kernel) (by decide +kernel) (by decide +kernel)
  have hfails : (Books.depleteCostLayers
      ⟨[], layersAt { db := closingBooks } [.closePeriod 10] 1, []⟩ ⟨1, 7, 3⟩ 4 .fifo
      ⟨"MATERIAL_ISSUE", 9⟩).toOption = none := by decide +kernel
  obtain ⟨depleted, hdepleted⟩ := hissue
  rw [hdepleted] at hfails
  cases hfails

end Forecast.Costing
