import Forecast.Inventory.StockReservations
import Forecast.Lib.Runs

/-!
# Releases of a hold

The rows of the ledger against the row of the hold: what was placed, what was released
and what is still held. They agree as long as a hold is released in parts only, or at
once and whole.
-/

open KeyedTable DecimalColumn Transactions RowTable Runs

namespace Forecast.Inventory

def rowsOf (entryType : LedgerEntryType) (ledger : List LedgerEntry) (holdId : Id) : ℚ :=
  total (fun entry => entry.entryType = entryType ∧ entry.referenceId = some holdId)
    (fun entry => entry.quantity.value) ledger

/-- The quantity originally held. -/
abbrev placedQty : List LedgerEntry → Id → ℚ := rowsOf .ledgerHold

/-- The sum of the releases. -/
abbrev releasedRows : List LedgerEntry → Id → ℚ := rowsOf .ledgerRelease

def InventoryHold.stillHeld (hold : InventoryHold) : ℚ :=
  if hold.status = .active then hold.heldQty.value else 0

/-- The hold's row agrees with the ledger. -/
structure Conserved (ledger : List LedgerEntry) (hold : InventoryHold) : Prop where
  released : releasedRows ledger hold.id = hold.releasedQty.value
  bounded : releasedRows ledger hold.id ≤ placedQty ledger hold.id
  remaining : hold.stillHeld = placedQty ledger hold.id - releasedRows ledger hold.id

/-- What a release asks for is less than what is held, or it is all of it and the first. -/
def InventoryHold.Fulfills (hold : InventoryHold) (q : Decimal) : Prop :=
  OnScale 4 q ∧ (q < hold.heldQty.value ∨
    q = hold.heldQty.value ∧ hold.releasedQty.value = 0)

instance (hold : InventoryHold) (q : Decimal) : Decidable (hold.Fulfills q) :=
  inferInstanceAs (Decidable (_ ∧ _))

/-- A hold is placed for no negative quantity, and released in parts or at once and whole. -/
def WarehouseDb.Releasable (db : WarehouseDb) : StockCall → Prop
  | .placeHold params => 0 ≤ params.quantity
  | .releaseHold params => ∀ hold ∈ db.holds[params.holdId]?, hold.status = .active →
      hold.Fulfills (DecimalInput.orElse params.releasedQty hold.heldQty)
  | _ => True

instance (db : WarehouseDb) : (c : StockCall) → Decidable (db.Releasable c)
  | .placeHold _ => inferInstanceAs (Decidable (_ ≤ _))
  | .releaseHold _ => inferInstanceAs (Decidable (∀ _ ∈ _, _))
  | .record _ _ | .createReservation _ | .releaseReservation _ =>
    inferInstanceAs (Decidable True)

/-- Every hold agrees with the ledger in every state of the run. -/
def ReleaseLaw (batches : List Batch) (calls : List StockCall) : Prop :=
  ∀ k, ∀ hold ∈ (stateAt WarehouseDb.call (.opened batches) calls k).holds,
    Conserved (stateAt WarehouseDb.call (.opened batches) calls k).stock.ledger hold

/-! ### The row that a call appends -/

/-- The row is of the call's type and document and has its quantity as the column keeps it. -/
structure LedgerEntry.IsOf (entry : LedgerEntry) (params : EntryParams) : Prop where
  entryType : entry.entryType = params.entryType
  referenceId : entry.referenceId = params.referenceId
  quantity : Column.store params.quantity = some entry.quantity

theorem appended_of_recordEntry {db db' : StockDb} {params : EntryParams}
    (h : db.recordEntry params = .ok db') :
    ∃ entry : LedgerEntry, entry.IsOf params ∧ db'.ledger = db.ledger ++ [entry] := by
  simp only [StockDb.recordEntry, EntryParams.toEntry, bind_eq_ok, pure_eq_ok, stored_eq_ok] at h
  obtain ⟨-, -, entry, ⟨quantity, hquantity, _, -, _, -, _, -, rfl⟩, level, -, batches, -, rfl⟩ := h
  exact ⟨_, ⟨rfl, rfl, hquantity⟩, rfl⟩

theorem rowsOf_append (entryType : LedgerEntryType) (ledger : List LedgerEntry)
    (entry : LedgerEntry) (holdId : Id) :
    rowsOf entryType (ledger ++ [entry]) holdId = rowsOf entryType ledger holdId +
      if entry.entryType = entryType ∧ entry.referenceId = some holdId then entry.quantity.value
      else 0 := by
  rw [rowsOf, total_append_row]
  simp only [decide_eq_true_eq]
  rfl

/-- A row of another type or another hold adds nothing. -/
theorem rowsOf_append_of_not {entryType : LedgerEntryType} {ledger : List LedgerEntry}
    {entry : LedgerEntry} {holdId : Id}
    (h : ¬(entry.entryType = entryType ∧ entry.referenceId = some holdId)) :
    rowsOf entryType (ledger ++ [entry]) holdId = rowsOf entryType ledger holdId := by
  rw [rowsOf_append, if_neg h, add_zero]

theorem rowsOf_eq_zero {entryType : LedgerEntryType} {ledger : List LedgerEntry} {holdId : Id}
    (h : ∀ entry ∈ ledger, entry.entryType = entryType → entry.referenceId ≠ some holdId) :
    rowsOf entryType ledger holdId = 0 := by
  have hnone : ledger.filter (fun entry =>
      entry.entryType = entryType ∧ entry.referenceId = some holdId) = [] := by
    rw [List.filter_eq_nil_iff]
    intro entry hentry
    simpa using h entry hentry
  rw [rowsOf, total, hnone]
  rfl

/-! ### One hold -/

/-- The row of the hold agrees with the ledger, and nothing negative is held. -/
structure Kept (ledger : List LedgerEntry) (hold : InventoryHold) : Prop where
  released : releasedRows ledger hold.id = hold.releasedQty.value
  remaining : hold.stillHeld = placedQty ledger hold.id - releasedRows ledger hold.id
  nonneg : 0 ≤ hold.stillHeld

namespace Kept

variable {ledger : List LedgerEntry} {hold : InventoryHold} {entry : LedgerEntry}

theorem conserved (h : Kept ledger hold) : Conserved ledger hold := by
  refine ⟨h.released, ?_, h.remaining⟩
  have hremaining := h.remaining
  have hnonneg := h.nonneg
  linarith

/-- Rows of other documents, or of neither type, leave a hold alone. -/
theorem append (h : Kept ledger hold)
    (hother : entry.entryType = .ledgerHold ∨ entry.entryType = .ledgerRelease →
      entry.referenceId ≠ some hold.id) : Kept (ledger ++ [entry]) hold := by
  have hplaced : placedQty (ledger ++ [entry]) hold.id = placedQty ledger hold.id :=
    rowsOf_append_of_not fun hrow => hother (Or.inl hrow.1) hrow.2
  have hreleased : releasedRows (ledger ++ [entry]) hold.id = releasedRows ledger hold.id :=
    rowsOf_append_of_not fun hrow => hother (Or.inr hrow.1) hrow.2
  exact ⟨hreleased.trans h.released, by rw [hplaced, hreleased]; exact h.remaining, h.nonneg⟩

theorem placed {params : HoldParams} {heldQty : Qty} (hheld : stored params.quantity = .ok heldQty)
    (hnonneg : 0 ≤ params.quantity) {holdId : Id} (hentry : entry.IsOf (params.entry holdId))
    (hfresh : ∀ e ∈ ledger, e.entryType = .ledgerHold ∨ e.entryType = .ledgerRelease →
      e.referenceId ≠ some holdId) : Kept (ledger ++ [entry]) (params.row holdId heldQty) := by
  have hquantity : entry.quantity = heldQty := by
    have hstore := hentry.quantity
    rw [show (params.entry holdId).quantity = params.quantity from rfl,
      stored_eq_ok.1 hheld] at hstore
    exact (Option.some.inj hstore).symm
  have hplaced : placedQty (ledger ++ [entry]) holdId = heldQty.value := by
    rw [placedQty, rowsOf_append, rowsOf_eq_zero fun e he htype => hfresh e he (Or.inl htype),
      if_pos ⟨hentry.entryType, hentry.referenceId⟩, hquantity, zero_add]
  have hreleased : releasedRows (ledger ++ [entry]) holdId = 0 := by
    rw [releasedRows, rowsOf_append_of_not,
      rowsOf_eq_zero fun e he htype => hfresh e he (Or.inr htype)]
    rintro ⟨htype, -⟩
    rw [hentry.entryType] at htype
    cases htype
  have hstill : (params.row holdId heldQty).stillHeld = heldQty.value := if_pos rfl
  refine ⟨?_, ?_, ?_⟩
  · exact hreleased.trans Column.value_zero.symm
  · rw [hstill, show (params.row holdId heldQty).id = holdId from rfl, hplaced, hreleased, sub_zero]
  · rw [hstill, Column.value_of_store_eq (stored_eq_ok.1 hheld), roundToScale]
    have hround := GridRounding.roundHalfAway_nonneg
      (mul_nonneg hnonneg (by positivity : (0 : ℚ) ≤ 10 ^ 4))
    have hcast : (0 : ℚ) ≤ GridRounding.roundHalfAway (params.quantity * 10 ^ 4) := by
      exact_mod_cast hround
    positivity

/-- A release in part moves its quantity from what is held to what was released; a release of
all that is held ends the hold. -/
theorem release {released : InventoryHold} {q : Decimal} (h : Kept ledger hold)
    (hactive : hold.status = .active) (hq : hold.Fulfills q)
    (hreleased : hold.release q = .ok released) (hentry : entry.IsOf (hold.releaseEntry q)) :
    Kept (ledger ++ [entry]) released ∧ released.id = hold.id := by
  obtain ⟨hscale, hpart⟩ := hq
  have hquantity : entry.quantity.value = q := Column.value_of_store hentry.quantity hscale
  have hfits : Fits 1 q := Fits.of_stored hscale (stored_eq_ok.2 hentry.quantity)
  have hplaced : placedQty (ledger ++ [entry]) hold.id = placedQty ledger hold.id := by
    apply rowsOf_append_of_not
    rintro ⟨htype, -⟩
    rw [hentry.entryType] at htype
    cases htype
  have hrows : releasedRows (ledger ++ [entry]) hold.id = releasedRows ledger hold.id + q := by
    rw [releasedRows, rowsOf_append, if_pos ⟨hentry.entryType, hentry.referenceId⟩, hquantity]
  have hstill : hold.stillHeld = hold.heldQty.value := if_pos hactive
  have hremaining := h.remaining
  rw [hstill] at hremaining
  unfold InventoryHold.release at hreleased
  rcases hpart with hlt | ⟨rfl, hfirst⟩
  · rw [if_pos hlt] at hreleased
    simp only [bind_eq_ok, pure_eq_ok, stored_eq_ok] at hreleased
    obtain ⟨heldQty, hheld, releasedQty, hsum, rfl⟩ := hreleased
    rw [(Fits.value hold.heldQty).minus_eq hfits (by norm_num)] at hheld
    rw [(Fits.value hold.releasedQty).plus_eq hfits (by norm_num)] at hsum
    have hheld' := Column.value_of_store hheld (hold.heldQty.onScale_value.sub hscale)
    have hsum' := Column.value_of_store hsum (hold.releasedQty.onScale_value.add hscale)
    refine ⟨⟨?_, ?_, ?_⟩, rfl⟩
    · rw [hrows, h.released, hsum']
    · rw [hplaced, hrows, InventoryHold.stillHeld, if_pos hactive, hheld', hremaining]
      ring
    · rw [InventoryHold.stillHeld, if_pos hactive, hheld']
      linarith
  · rw [if_neg (lt_irrefl _)] at hreleased
    simp only [bind_eq_ok, pure_eq_ok, stored_eq_ok] at hreleased
    obtain ⟨releasedQty, hstore, rfl⟩ := hreleased
    have hall := Column.value_of_store hstore hscale
    have hnothing : ({ hold with status := .released, releasedQty := releasedQty } :
        InventoryHold).stillHeld = 0 := if_neg (by simp)
    have hearlier := h.released.trans hfirst
    refine ⟨⟨?_, ?_, hnothing.ge⟩, rfl⟩
    · rw [hrows, hearlier, zero_add, hall]
    · rw [hnothing, hplaced, hrows, hearlier, hremaining, hearlier]
      ring

end Kept

/-! ### One call -/

namespace WarehouseDb

/-- Every hold is kept, and the ledger has no rows of holds that are still to come. -/
structure Keeping (db : WarehouseDb) : Prop where
  ids : ∀ (i : ℕ) (hold : InventoryHold), db.holds[i]? = some hold → hold.id = i
  unused : ∀ entry ∈ db.stock.ledger,
    entry.entryType = .ledgerHold ∨ entry.entryType = .ledgerRelease →
      ∀ id ∈ entry.referenceId, id < db.holds.length
  kept : ∀ hold ∈ db.holds, Kept db.stock.ledger hold

variable {db db' : WarehouseDb}

theorem keeping_opened (batches : List Batch) : Keeping (.opened batches) where
  ids := by simp [opened]
  unused := by simp [opened, StockDb.opened]
  kept := by simp [opened]

theorem Keeping.id_lt (h : Keeping db) {hold : InventoryHold} (hmem : hold ∈ db.holds) :
    hold.id < db.holds.length := by
  obtain ⟨i, hi⟩ := List.mem_iff_getElem?.1 hmem
  rw [h.ids i hold hi]
  exact (List.getElem?_eq_some_iff.1 hi).1

theorem recordEntry_appends {params : EntryParams} (h : db.recordEntry params = .ok db') :
    db'.holds = db.holds ∧ ∃ entry : LedgerEntry, entry.IsOf params ∧
      db'.stock.ledger = db.stock.ledger ++ [entry] := by
  simp only [recordEntry, bind_eq_ok, pure_eq_ok] at h
  obtain ⟨stock, hstock, rfl⟩ := h
  exact ⟨rfl, appended_of_recordEntry hstock⟩

theorem Keeping.append (h : Keeping db) {entry : LedgerEntry} (hholds : db'.holds = db.holds)
    (hledger : db'.stock.ledger = db.stock.ledger ++ [entry])
    (htype : ¬(entry.entryType = .ledgerHold ∨ entry.entryType = .ledgerRelease)) :
    Keeping db' where
  ids := hholds ▸ h.ids
  unused := by
    intro e he hheld
    rw [hledger] at he
    rw [hholds]
    rcases List.mem_append.1 he with he | he
    · exact h.unused e he hheld
    · rw [List.mem_singleton.1 he] at hheld
      exact absurd hheld htype
  kept := by
    rw [hholds, hledger]
    exact fun hold hmem => (h.kept hold hmem).append fun hheld => absurd hheld htype

theorem keeping_placeHold {params : HoldParams} (h : Keeping db) (hnonneg : 0 ≤ params.quantity)
    (hcall : db.placeHold params = .ok db') : Keeping db' := by
  simp only [placeHold, bind_eq_ok] at hcall
  obtain ⟨heldQty, hheld, hcall⟩ := hcall
  obtain ⟨hholds, entry, hentry, hledger⟩ := recordEntry_appends hcall
  change db'.stock.ledger = db.stock.ledger ++ [entry] at hledger
  have hreference : entry.referenceId = some db.holds.length := hentry.referenceId
  constructor
  · intro i hold hi
    rw [hholds, getElem?_append_row_iff] at hi
    rcases hi with hi | ⟨rfl, rfl⟩
    · exact h.ids i hold hi
    · rfl
  · intro e he hheldRow id hid
    rw [hholds, List.length_append, List.length_singleton]
    rw [hledger] at he
    rcases List.mem_append.1 he with he | he
    · exact Nat.lt_succ_of_lt (h.unused e he hheldRow id hid)
    · rw [List.mem_singleton.1 he, hreference] at hid
      cases hid
      exact Nat.lt_succ_self _
  · rw [hholds, hledger]
    intro hold hmem
    rcases List.mem_append.1 hmem with hold' | hnew
    · refine (h.kept hold hold').append fun _ hid => ?_
      rw [hreference] at hid
      exact absurd (h.id_lt hold') (by rw [← Option.some.inj hid]; exact lt_irrefl _)
    · rw [List.mem_singleton.1 hnew]
      refine Kept.placed hheld hnonneg hentry fun e he hheldRow hid => ?_
      exact lt_irrefl _ (h.unused e he hheldRow _ hid)

theorem keeping_releaseHold {params : ReleaseHoldParams} (h : Keeping db)
    (hsound : db.Releasable (.releaseHold params)) (hcall : db.releaseHold params = .ok db') :
    Keeping db' := by
  simp only [releaseHold, bind_eq_ok, throwWhen_eq_ok, found_eq_ok, not_not] at hcall
  obtain ⟨hold, hhold, -, -, -, hactive, released, hreleased, hcall⟩ := hcall
  obtain ⟨hholds, entry, hentry, hledger⟩ := recordEntry_appends hcall
  change db'.stock.ledger = db.stock.ledger ++ [entry] at hledger
  have hreference : entry.referenceId = some hold.id := hentry.referenceId
  have hmem := List.mem_of_getElem? hhold
  obtain ⟨hkept, hid⟩ := (h.kept hold hmem).release hactive (hsound hold hhold hactive) hreleased
    hentry
  have hat : hold.id = params.holdId := h.ids _ _ hhold
  constructor
  · intro i row hi
    rw [hholds] at hi
    obtain ⟨old, hold', rfl⟩ := exists_of_getElem?_modify _ _ hi
    by_cases hii : params.holdId = i
    · rw [if_pos hii, hid, hat, hii]
    · rw [if_neg hii]
      exact h.ids i old hold'
  · intro e he hheldRow id hidRow
    rw [hholds, List.length_modify]
    rw [hledger] at he
    rcases List.mem_append.1 he with he | he
    · exact h.unused e he hheldRow id hidRow
    · rw [List.mem_singleton.1 he, hreference] at hidRow
      cases hidRow
      exact h.id_lt hmem
  · rw [hholds, hledger]
    intro row hrow
    obtain ⟨i, hi⟩ := List.mem_iff_getElem?.1 hrow
    obtain ⟨old, hold', rfl⟩ := exists_of_getElem?_modify _ _ hi
    by_cases hii : params.holdId = i
    · rw [if_pos hii]
      exact hkept
    · rw [if_neg hii]
      refine (h.kept old (List.mem_of_getElem? hold')).append fun _ hidRow => hii ?_
      rw [hreference] at hidRow
      rw [← hat, Option.some.inj hidRow, h.ids i old hold']

theorem keeping_body {c : StockCall} (h : Keeping db) (hsound : db.Releasable c)
    (hbody : db.body c = .ok db') : Keeping db' := by
  cases c with
  | record params moves =>
    have hrecord : db.recordEntry params = .ok db' := hbody
    obtain ⟨hholds, entry, hentry, hledger⟩ := recordEntry_appends hrecord
    refine h.append hholds hledger ?_
    rw [hentry.entryType]
    rintro (htype | htype)
    · exact absurd moves (by rw [htype]; simp [LedgerEntryType.movesOnHand])
    · exact absurd moves (by rw [htype]; simp [LedgerEntryType.movesOnHand])
  | createReservation params =>
    simp only [body, createReservation, bind_eq_ok] at hbody
    obtain ⟨_, -, _, -, hbody⟩ := hbody
    obtain ⟨hholds, entry, hentry, hledger⟩ := recordEntry_appends hbody
    refine h.append hholds hledger ?_
    rw [hentry.entryType]
    rintro (htype | htype) <;> cases htype
  | releaseReservation params =>
    simp only [body, releaseReservation, bind_eq_ok] at hbody
    obtain ⟨_, -, _, -, _, -, _, -, hbody⟩ := hbody
    obtain ⟨hholds, entry, hentry, hledger⟩ := recordEntry_appends hbody
    refine h.append hholds hledger ?_
    rw [hentry.entryType]
    rintro (htype | htype) <;> cases htype
  | placeHold params => exact keeping_placeHold h hsound hbody
  | releaseHold params => exact keeping_releaseHold h hsound hbody

theorem keeping_call {c : StockCall} (h : Keeping db) (hsound : db.Releasable c) :
    Keeping (db.call c) := by
  unfold call
  cases hbody : db.body c with
  | error e => exact h
  | ok db' => exact keeping_body h hsound hbody

end WarehouseDb

/-! ### Runs -/

theorem releaseLaw_of_releasable (batches : List Batch) (calls : List StockCall)
    (h : Always WarehouseDb.call WarehouseDb.Releasable (.opened batches) calls) :
    ReleaseLaw batches calls := by
  intro k hold hmem
  have hkeeping := h.invariant_at (I := WarehouseDb.Keeping)
    (fun _ _ hdb hsound => WarehouseDb.keeping_call hdb hsound)
    (WarehouseDb.keeping_opened batches) k
  exact (hkeeping.kept hold hmem).conserved

def tenHeld : StockCall :=
  .placeHold { key := ⟨1, 7, 3⟩, quantity := 10, holdReason := "QC_PENDING" }

/-- Two parts are released, and another hold at once. -/
def releasedApart : List StockCall :=
  [tenHeld, tenHeld, .releaseHold { holdId := 0, releasedQty := some (.number 4) },
    .releaseHold { holdId := 0, releasedQty := some (.number 5) }, .releaseHold { holdId := 1 }]

theorem releaseLaw_releasedApart :
    ((run WarehouseDb.call (.opened []) releasedApart).holds.map
        InventoryHold.stillHeld) = [1, 0] ∧ ReleaseLaw [] releasedApart :=
  ⟨by decide +kernel, releaseLaw_of_releasable _ _ (by decide +kernel)⟩

def partThenRest : List StockCall :=
  [tenHeld, .releaseHold { holdId := 0, releasedQty := some (.number 4) },
    .releaseHold { holdId := 0 }]

/-- The ledger has released ten, the row of the hold six. -/
theorem not_releaseLaw_partThenRest : ¬ReleaseLaw [] partThenRest := by
  intro h
  have hhold : ∃ hold ∈ (run WarehouseDb.call (.opened []) partThenRest).holds,
      hold.releasedQty.value = 6 ∧ releasedRows
        (run WarehouseDb.call (.opened []) partThenRest).stock.ledger hold.id = 10 := by
    decide +kernel
  obtain ⟨hold, hmem, hsix, hten⟩ := hhold
  have hreleased := (h 3 hold hmem).released
  change releasedRows (run WarehouseDb.call (.opened []) partThenRest).stock.ledger hold.id =
    hold.releasedQty.value at hreleased
  rw [hsix, hten] at hreleased
  norm_num at hreleased

end Forecast.Inventory
