import Forecast.Inventory.LedgerBalance
import Forecast.Inventory.StockReservations

/-!
# Reserved and quarantined stock

The counters of a level against the rows of its active reservations and holds.
They agree as long as a reservation is released whole, a hold gives back no more
than it holds, and what is held or issued is available.
-/

open KeyedTable DecimalColumn Transactions RowTable Runs

namespace Forecast.Inventory

/-- What a row of the ledger put on hold, or took off it. -/
def LedgerEntry.heldShare (entry : LedgerEntry) : ℚ :=
  match entry.entryType with
  | .ledgerHold => entry.quantity.value
  | .ledgerRelease => -entry.quantity.value
  | _ => 0

/-- The quantity held less the quantities released of a hold, by the rows of the ledger. -/
def heldMinusReleased (ledger : List LedgerEntry) (holdId : Id) : ℚ :=
  total (fun entry => entry.referenceId = some holdId) LedgerEntry.heldShare ledger

def InventoryReservation.reserves (key : StockKey) (r : InventoryReservation) : Bool :=
  r.key = key ∧ r.status = .active

def InventoryReservation.unreleased (r : InventoryReservation) : ℚ :=
  r.reservedQty.value - r.fulfilledQty.value

def InventoryHold.holds (key : StockKey) (h : InventoryHold) : Bool :=
  h.key = key ∧ h.status = .active

namespace WarehouseDb

def balances (db : WarehouseDb) (key : StockKey) : Balances := db.stock.balances key

/-- The call names what it moves on the scale of its column, releases a reservation whole and
a hold up to what it holds, and takes no more than is available. -/
def Sound (db : WarehouseDb) : StockCall → Prop
  | .record params _ => OnScale 4 params.quantity ∧
      (params.entryType ≠ .ledgerAdjustment → 0 ≤ (db.balances params.key).available →
        0 ≤ (db.balances params.key).available +
          (calculateDeltas params.entryType params.quantity).onHandDelta)
  | .createReservation params => OnScale 4 params.quantity ∧ 0 ≤ params.quantity
  | .releaseReservation params => ∀ r ∈ db.reservations[params.reservationId]?,
      r.status = .active →
        DecimalInput.orElse params.fulfilledQty r.reservedQty = r.reservedQty.value
  | .placeHold params => OnScale 4 params.quantity ∧ 0 ≤ params.quantity ∧
      (0 ≤ (db.balances params.key).available →
        params.quantity ≤ (db.balances params.key).available)
  | .releaseHold params => ∀ h ∈ db.holds[params.holdId]?, h.status = .active →
      OnScale 4 (DecimalInput.orElse params.releasedQty h.heldQty) ∧
        0 ≤ DecimalInput.orElse params.releasedQty h.heldQty ∧
          DecimalInput.orElse params.releasedQty h.heldQty ≤ h.heldQty.value

instance (db : WarehouseDb) : (c : StockCall) → Decidable (db.Sound c)
  | .record _ _ => inferInstanceAs (Decidable (_ ∧ _))
  | .createReservation _ => inferInstanceAs (Decidable (_ ∧ _))
  | .releaseReservation _ => inferInstanceAs (Decidable (∀ _ ∈ _, _))
  | .placeHold _ => inferInstanceAs (Decidable (_ ∧ _ ∧ _))
  | .releaseHold _ => inferInstanceAs (Decidable (∀ _ ∈ _, _))

/-- The counters of every level are those of its active reservations and holds. -/
structure Balanced (db : WarehouseDb) : Prop where
  levels : ∀ key, KeepsLevel db.stock key
  reserved : ∀ key, (db.balances key).reserved =
    total (·.reserves key) InventoryReservation.unreleased db.reservations
  whole : ∀ r ∈ db.reservations, r.status = .active →
    r.fulfilledQty.value = 0 ∧ 0 ≤ r.reservedQty.value
  quarantine : ∀ key, (db.balances key).quarantine =
    total (·.holds key) (·.heldQty.value) db.holds
  held : ∀ hold ∈ db.holds, hold.status = .active →
    hold.heldQty.value = heldMinusReleased db.stock.ledger hold.id
  ids : ∀ (i : ℕ) (hold : InventoryHold), db.holds[i]? = some hold → hold.id = i
  unused : ∀ entry ∈ db.stock.ledger, entry.heldShare ≠ 0 →
    ∀ id ∈ entry.referenceId, id < db.holds.length

theorem balanced_opened (batches : List Batch) : Balanced (.opened batches) where
  levels := keepsLevel_opened batches
  reserved := fun _ => rfl
  whole := by simp [opened]
  quarantine := fun _ => rfl
  held := by simp [opened]
  ids := by simp [opened]
  unused := by simp [opened, StockDb.opened]

theorem recordEntry_eq_ok {db db' : WarehouseDb} {params : EntryParams} :
    db.recordEntry params = .ok db' ↔
      ∃ stock, db.stock.recordEntry params = .ok stock ∧ { db with stock := stock } = db' := by
  simp only [recordEntry, bind_eq_ok, pure_eq_ok]

end WarehouseDb

def StockCall.Adjusts (key : StockKey) (c : StockCall) : Prop :=
  ∃ params moves, c = .record params moves ∧ params.key = key ∧
    params.entryType = .ledgerAdjustment

/-- What a call's row puts on hold, or takes off it. -/
def EntryParams.heldShare (params : EntryParams) : ℚ :=
  match params.entryType with
  | .ledgerHold => params.quantity
  | .ledgerRelease => -params.quantity
  | _ => 0

namespace Recorded

variable {db db' : StockDb} {params : EntryParams}

/-- The deltas of the call, at the level it is for. -/
def deltasAt (params : EntryParams) (key : StockKey) : Deltas :=
  if params.key = key then calculateDeltas params.entryType params.quantity else ⟨0, 0, 0⟩

theorem reserved (h : Recorded db params db') (key : StockKey) :
    (db'.balances key).reserved =
      (db.balances key).reserved + (deltasAt params key).reservedDelta := by
  unfold deltasAt
  by_cases hkey : params.key = key
  · subst hkey
    rw [if_pos rfl, h.balances]
    rfl
  · rw [if_neg hkey, h.others key (Ne.symm hkey)]
    exact (add_zero _).symm

theorem quarantine (h : Recorded db params db') (key : StockKey) :
    (db'.balances key).quarantine =
      (db.balances key).quarantine + (deltasAt params key).quarantineDelta := by
  unfold deltasAt
  by_cases hkey : params.key = key
  · subst hkey
    rw [if_pos rfl, h.balances]
    rfl
  · rw [if_neg hkey, h.others key (Ne.symm hkey)]
    exact (add_zero _).symm

theorem available (h : Recorded db params db') {key : StockKey} (hlevel : KeepsLevel db key) :
    (db'.balances key).available = (db.balances key).available +
      ((deltasAt params key).onHandDelta - (deltasAt params key).reservedDelta -
        (deltasAt params key).quarantineDelta) := by
  have hbefore := hlevel.available
  unfold deltasAt
  by_cases hkey : params.key = key
  · subst hkey
    rw [if_pos rfl, h.balances, hbefore]
    simp only [Balances.shifted]
    ring
  · rw [if_neg hkey, h.others key (Ne.symm hkey)]
    simp

theorem heldMinusReleased (h : Recorded db params db') (holdId : Id) :
    heldMinusReleased db'.ledger holdId = Inventory.heldMinusReleased db.ledger holdId +
      if params.referenceId = some holdId then params.heldShare else 0 := by
  obtain ⟨entry, hentry, hledger⟩ := h.ledger
  have hshare : entry.heldShare = params.heldShare := by
    rw [LedgerEntry.heldShare, EntryParams.heldShare, hentry.entryType, hentry.quantity]
  rw [Inventory.heldMinusReleased, hledger, total_append_row, hentry.referenceId, hshare]
  simp [Inventory.heldMinusReleased]

end Recorded

namespace WarehouseDb

/-- The reservations that a call leaves fit its entry. -/
structure ReservationsFollow (db : WarehouseDb) (params : EntryParams)
    (reservations : List InventoryReservation) : Prop where
  reserved : ∀ key, total (·.reserves key) InventoryReservation.unreleased reservations =
    total (·.reserves key) InventoryReservation.unreleased db.reservations +
      (Recorded.deltasAt params key).reservedDelta
  whole : ∀ r ∈ reservations, r.status = .active →
    r.fulfilledQty.value = 0 ∧ 0 ≤ r.reservedQty.value

/-- The holds that a call leaves fit its entry. -/
structure HoldsFollow (db : WarehouseDb) (params : EntryParams) (holds : List InventoryHold) :
    Prop where
  quarantine : ∀ key, total (·.holds key) (·.heldQty.value) holds =
    total (·.holds key) (·.heldQty.value) db.holds +
      (Recorded.deltasAt params key).quarantineDelta
  held : ∀ hold ∈ holds, hold.status = .active →
    hold.heldQty.value = heldMinusReleased db.stock.ledger hold.id +
      if params.referenceId = some hold.id then params.heldShare else 0
  ids : ∀ (i : ℕ) (hold : InventoryHold), holds[i]? = some hold → hold.id = i
  unused : params.heldShare ≠ 0 → ∀ id ∈ params.referenceId, id < holds.length
  length_le : db.holds.length ≤ holds.length

/-- What a sound call that does not throw did: one entry, rows that follow it, and the stock
it takes was available unless it adjusts. -/
structure Effect (db : WarehouseDb) (params : EntryParams) (db' : WarehouseDb) : Prop where
  recorded : Recorded db.stock params db'.stock
  reservations : ReservationsFollow db params db'.reservations
  holds : HoldsFollow db params db'.holds
  free : params.entryType ≠ .ledgerAdjustment → 0 ≤ (db.balances params.key).available →
    0 ≤ (db.balances params.key).available +
      ((calculateDeltas params.entryType params.quantity).onHandDelta -
        (calculateDeltas params.entryType params.quantity).reservedDelta -
          (calculateDeltas params.entryType params.quantity).quarantineDelta)

variable {db db' : WarehouseDb}

theorem Balanced.effect {params : EntryParams} (h : Balanced db) (heffect : Effect db params db') :
    Balanced db' where
  levels := fun key => (h.levels key).recorded heffect.recorded
  reserved := by
    intro key
    rw [heffect.reservations.reserved, ← h.reserved]
    exact heffect.recorded.reserved key
  whole := heffect.reservations.whole
  quarantine := by
    intro key
    rw [heffect.holds.quarantine, ← h.quarantine]
    exact heffect.recorded.quarantine key
  held := by
    intro hold hmem hactive
    rw [heffect.recorded.heldMinusReleased]
    exact heffect.holds.held hold hmem hactive
  ids := heffect.holds.ids
  unused := by
    obtain ⟨entry, hentry, hledger⟩ := heffect.recorded.ledger
    intro row hrow hshare id hid
    rw [hledger] at hrow
    rcases List.mem_append.1 hrow with hold | hnew
    · exact (h.unused row hold hshare id hid).trans_le heffect.holds.length_le
    · obtain rfl := List.mem_singleton.1 hnew
      apply heffect.holds.unused ?_ id (hentry.referenceId ▸ hid)
      rwa [EntryParams.heldShare, ← hentry.entryType, ← hentry.quantity]

theorem deltasAt_of_eq {params : EntryParams} {key : StockKey} (h : params.key = key) :
    Recorded.deltasAt params key = calculateDeltas params.entryType params.quantity := if_pos h

theorem deltasAt_of_ne {params : EntryParams} {key : StockKey} (h : params.key ≠ key) :
    Recorded.deltasAt params key = ⟨0, 0, 0⟩ := if_neg h

theorem Balanced.reservationsFollow {params : EntryParams} (h : Balanced db)
    (hdelta : (calculateDeltas params.entryType params.quantity).reservedDelta = 0) :
    ReservationsFollow db params db.reservations where
  reserved := by
    intro key
    unfold Recorded.deltasAt
    by_cases hkey : params.key = key
    · rw [if_pos hkey, hdelta, add_zero]
    · rw [if_neg hkey, add_zero]
  whole := h.whole

theorem Balanced.holdsFollow {params : EntryParams} (h : Balanced db)
    (hdelta : (calculateDeltas params.entryType params.quantity).quarantineDelta = 0)
    (hshare : params.heldShare = 0) : HoldsFollow db params db.holds where
  quarantine := by
    intro key
    unfold Recorded.deltasAt
    by_cases hkey : params.key = key
    · rw [if_pos hkey, hdelta, add_zero]
    · rw [if_neg hkey, add_zero]
  held := by
    intro hold hmem hactive
    rw [hshare, ite_self, add_zero]
    exact h.held hold hmem hactive
  ids := h.ids
  unused := fun hne => absurd hshare hne
  length_le := le_rfl

theorem effect_record {params : EntryParams} (hdb : Balanced db)
    (hmoves : params.entryType.movesOnHand = true) (hsound : db.Sound (.record params hmoves))
    (h : db.recordEntry params = .ok db') : Effect db params db' := by
  obtain ⟨stock, hstock, rfl⟩ := recordEntry_eq_ok.1 h
  obtain ⟨hscale, hfree⟩ := hsound
  have hdeltas : (calculateDeltas params.entryType params.quantity).reservedDelta = 0 ∧
      (calculateDeltas params.entryType params.quantity).quarantineDelta = 0 := by
    cases htype : params.entryType <;> rw [htype] at hmoves <;>
      first | exact ⟨rfl, rfl⟩ | cases hmoves
  have hshare : params.heldShare = 0 := by
    unfold EntryParams.heldShare
    cases htype : params.entryType <;> rw [htype] at hmoves <;> first | rfl | cases hmoves
  refine ⟨recorded_of_recordEntry hstock hscale, hdb.reservationsFollow hdeltas.1,
    hdb.holdsFollow hdeltas.2 hshare, ?_⟩
  intro htype hbefore
  rw [hdeltas.1, hdeltas.2, sub_zero, sub_zero]
  exact hfree htype hbefore

theorem effect_createReservation {params : ReservationParams} (hdb : Balanced db)
    (hsound : db.Sound (.createReservation params)) (h : db.createReservation params = .ok db') :
    Effect db params.entry db' := by
  obtain ⟨hscale, hpos⟩ := hsound
  simp only [createReservation, bind_eq_ok, throwWhen_eq_ok, recordEntry_eq_ok, stored_eq_ok] at h
  obtain ⟨-, havailable, reservedQty, hqty, stock, hstock, rfl⟩ := h
  have hvalue : reservedQty.value = params.quantity := Column.value_of_store hqty hscale
  have hdeltas : calculateDeltas params.entry.entryType params.entry.quantity =
      ⟨0, params.quantity, 0⟩ := by
    change (⟨0, |params.quantity|, 0⟩ : Deltas) = _
    rw [abs_of_nonneg hpos]
  refine ⟨recorded_of_recordEntry hstock hscale, ⟨?_, ?_⟩, hdb.holdsFollow rfl rfl, ?_⟩
  · intro key
    have hunreleased : (params.row reservedQty).unreleased = params.quantity := by
      change reservedQty.value - (Column.zero : Qty).value = _
      rw [Column.value_zero, sub_zero, hvalue]
    rw [total_append_row, hunreleased]
    by_cases hkey : params.key = key
    · have hreserves : (params.row reservedQty).reserves key = true := decide_eq_true ⟨hkey, rfl⟩
      have hat : Recorded.deltasAt params.entry key = _ := deltasAt_of_eq hkey
      rw [if_pos hreserves, hat, hdeltas]
    · have hreserves : (params.row reservedQty).reserves key ≠ true := by
        simp [InventoryReservation.reserves, ReservationParams.row, hkey]
      rw [if_neg hreserves, deltasAt_of_ne hkey]
  · intro r hr hactive
    rcases List.mem_append.1 hr with hold | hnew
    · exact hdb.whole r hold hactive
    · obtain rfl := List.mem_singleton.1 hnew
      exact ⟨Column.value_zero, hvalue.symm ▸ hpos⟩
  · intro _ _
    rw [hdeltas]
    rw [not_lt] at havailable
    change 0 ≤ (db.stock.balances params.key).available + (0 - params.quantity - 0)
    linarith

theorem effect_releaseReservation {params : ReleaseReservationParams} (hdb : Balanced db)
    (hsound : db.Sound (.releaseReservation params))
    (h : db.releaseReservation params = .ok db') : ∃ entry, entry.entryType ≠ .ledgerAdjustment ∧
      Effect db entry db' := by
  simp only [releaseReservation, bind_eq_ok, throwWhen_eq_ok, recordEntry_eq_ok, stored_eq_ok,
    found_eq_ok, not_not] at h
  obtain ⟨r, hr, -, -, -, hactive, fulfilledQty, -, stock, hstock, rfl⟩ := h
  obtain ⟨hzero, hpos⟩ := hdb.whole r (List.mem_of_getElem? hr) hactive
  have hwhole := hsound r hr hactive
  rw [hwhole] at hstock
  have hdeltas : calculateDeltas (r.releaseEntry r.reservedQty.value).entryType
      (r.releaseEntry r.reservedQty.value).quantity = ⟨0, -r.reservedQty.value, 0⟩ := by
    change (⟨0, -|r.reservedQty.value|, 0⟩ : Deltas) = _
    rw [abs_of_nonneg hpos]
  refine ⟨r.releaseEntry r.reservedQty.value, by simp [InventoryReservation.releaseEntry],
    recorded_of_recordEntry hstock r.reservedQty.onScale_value, ⟨?_, ?_⟩,
    hdb.holdsFollow rfl rfl, ?_⟩
  · intro key
    have hgone : (r.release fulfilledQty).reserves key ≠ true := by
      simp [InventoryReservation.reserves, InventoryReservation.release]
    rw [total_modify _ _ _ hr, if_neg hgone, zero_sub]
    by_cases hkey : r.key = key
    · have hreserves : r.reserves key = true := decide_eq_true ⟨hkey, hactive⟩
      have hat : Recorded.deltasAt (r.releaseEntry r.reservedQty.value) key = _ :=
        deltasAt_of_eq hkey
      rw [if_pos hreserves, hat, hdeltas, InventoryReservation.unreleased, hzero, sub_zero]
    · have hreserves : r.reserves key ≠ true := by simp [InventoryReservation.reserves, hkey]
      rw [if_neg hreserves, deltasAt_of_ne hkey, neg_zero]
  · intro row hrow hrowactive
    obtain ⟨i, hi⟩ := List.mem_iff_getElem?.1 hrow
    obtain ⟨old, hold, rfl⟩ := exists_of_getElem?_modify _ _ hi
    by_cases hid : params.reservationId = i
    · rw [if_pos hid] at hrowactive
      cases hrowactive
    · rw [if_neg hid] at hrowactive ⊢
      exact hdb.whole old (List.mem_of_getElem? hold) hrowactive
  · intro _ hbefore
    rw [hdeltas]
    change 0 ≤ _ + (0 - -r.reservedQty.value - 0)
    linarith

theorem Balanced.heldMinusReleased_length (h : Balanced db) :
    heldMinusReleased db.stock.ledger db.holds.length = 0 := by
  unfold heldMinusReleased total
  apply List.sum_eq_zero
  intro share hshare
  obtain ⟨entry, hentry, rfl⟩ := List.mem_map.1 hshare
  obtain ⟨hmem, hid⟩ := List.mem_filter.1 hentry
  by_contra hne
  exact absurd (h.unused entry hmem hne _ (of_decide_eq_true hid)) (lt_irrefl _)

theorem Balanced.id_lt (h : Balanced db) {hold : InventoryHold} (hmem : hold ∈ db.holds) :
    hold.id < db.holds.length := by
  obtain ⟨i, hi⟩ := List.mem_iff_getElem?.1 hmem
  rw [h.ids i hold hi]
  exact (List.getElem?_eq_some_iff.1 hi).1

theorem effect_placeHold {params : HoldParams} (hdb : Balanced db)
    (hsound : db.Sound (.placeHold params)) (h : db.placeHold params = .ok db') :
    Effect db (params.entry db.holds.length) db' := by
  obtain ⟨hscale, hpos, havailable⟩ := hsound
  simp only [placeHold, bind_eq_ok, recordEntry_eq_ok, stored_eq_ok] at h
  obtain ⟨heldQty, hqty, stock, hstock, rfl⟩ := h
  have hvalue : heldQty.value = params.quantity := Column.value_of_store hqty hscale
  have hdeltas : calculateDeltas (params.entry db.holds.length).entryType
      (params.entry db.holds.length).quantity = ⟨0, 0, params.quantity⟩ := by
    change (⟨0, 0, |params.quantity|⟩ : Deltas) = _
    rw [abs_of_nonneg hpos]
  refine ⟨recorded_of_recordEntry hstock hscale, hdb.reservationsFollow rfl,
    ⟨?_, ?_, ?_, ?_, ?_⟩, ?_⟩
  · intro key
    rw [total_append_row]
    by_cases hkey : params.key = key
    · have hholds : (params.row db.holds.length heldQty).holds key = true :=
        decide_eq_true ⟨hkey, rfl⟩
      have hat : Recorded.deltasAt (params.entry db.holds.length) key = _ := deltasAt_of_eq hkey
      rw [if_pos hholds, hat, hdeltas]
      exact congrArg _ hvalue
    · have hholds : (params.row db.holds.length heldQty).holds key ≠ true := by
        simp [InventoryHold.holds, HoldParams.row, hkey]
      rw [if_neg hholds, deltasAt_of_ne hkey]
  · intro hold hmem hactive
    rcases List.mem_append.1 hmem with hold' | hnew
    · have hne : (params.entry db.holds.length).referenceId ≠ some hold.id := by
        simp [HoldParams.entry, (hdb.id_lt hold').ne']
      rw [if_neg hne, add_zero]
      exact hdb.held hold hold' hactive
    · obtain rfl := List.mem_singleton.1 hnew
      have hid : (params.row db.holds.length heldQty).id = db.holds.length := rfl
      have hreference : (params.entry db.holds.length).referenceId = some db.holds.length := rfl
      rw [hid, hdb.heldMinusReleased_length, zero_add, if_pos hreference]
      exact hvalue
  · intro i hold hi
    rcases (getElem?_append_row_iff _ _).1 hi with hold' | ⟨rfl, rfl⟩
    · exact hdb.ids i hold hold'
    · rfl
  · intro _ id hid
    cases hid
    rw [List.length_append, List.length_singleton]
    exact Nat.lt_succ_self _
  · exact (List.sublist_append_left _ _).length_le
  · intro _ hbefore
    rw [hdeltas]
    have hle := havailable hbefore
    change 0 ≤ (db.balances params.key).available + (0 - 0 - params.quantity)
    linarith

theorem release_spec {hold released : InventoryHold} {q : Decimal}
    (h : hold.release q = .ok released) (hscale : OnScale 4 q) (hpos : 0 ≤ q)
    (hle : q ≤ hold.heldQty.value) : released.id = hold.id ∧ released.key = hold.key ∧
      (released.status = .active → hold.status = .active ∧
        released.heldQty.value = hold.heldQty.value - q) ∧
      (released.status ≠ .active → hold.status = .active → hold.heldQty.value = q) := by
  unfold InventoryHold.release at h
  by_cases hlt : q < hold.heldQty.value
  · rw [if_pos hlt] at h
    simp only [bind_eq_ok, pure_eq_ok, stored_eq_ok] at h
    obtain ⟨heldQty, hheld, releasedQty, -, rfl⟩ := h
    have hq : Fits 1 q := by
      refine ⟨hscale, ?_⟩
      have hbound := hold.heldQty.abs_value_mul_lt
      rw [abs_of_nonneg hpos]
      rw [abs_of_nonneg (hpos.trans hle)] at hbound
      norm_num at hbound ⊢
      linarith
    have hexact := (Fits.value hold.heldQty).minus_eq hq (by norm_num)
    rw [hexact] at hheld
    refine ⟨rfl, rfl, fun hactive => ⟨hactive, ?_⟩, fun hne hactive => absurd hactive hne⟩
    exact Column.value_of_store hheld (hold.heldQty.onScale_value.sub hscale)
  · rw [if_neg hlt] at h
    simp only [bind_eq_ok, pure_eq_ok] at h
    obtain ⟨releasedQty, -, rfl⟩ := h
    refine ⟨rfl, rfl, fun hactive => ?_, fun _ _ => le_antisymm (not_lt.1 hlt) hle⟩
    cases hactive

theorem effect_releaseHold {params : ReleaseHoldParams} (hdb : Balanced db)
    (hsound : db.Sound (.releaseHold params)) (h : db.releaseHold params = .ok db') :
    ∃ entry, entry.entryType ≠ .ledgerAdjustment ∧ Effect db entry db' := by
  simp only [releaseHold, bind_eq_ok, throwWhen_eq_ok, recordEntry_eq_ok, found_eq_ok,
    not_not] at h
  obtain ⟨hold, hhold, -, -, -, hactive, released, hreleased, stock, hstock, rfl⟩ := h
  obtain ⟨hscale, hpos, hle⟩ := hsound hold hhold hactive
  generalize DecimalInput.orElse params.releasedQty hold.heldQty = q at *
  obtain ⟨hid, hkey', hstill, hdone⟩ := release_spec hreleased hscale hpos hle
  have hdeltas : calculateDeltas (hold.releaseEntry q).entryType (hold.releaseEntry q).quantity =
      ⟨0, 0, -q⟩ := by
    change (⟨0, 0, -|q|⟩ : Deltas) = _
    rw [abs_of_nonneg hpos]
  have hshare : (hold.releaseEntry q).heldShare = -q := rfl
  have hat_id : hold.id = params.holdId := hdb.ids _ _ hhold
  refine ⟨hold.releaseEntry q, by simp [InventoryHold.releaseEntry],
    recorded_of_recordEntry hstock hscale, hdb.reservationsFollow rfl, ⟨?_, ?_, ?_, ?_, ?_⟩, ?_⟩
  · intro key
    rw [total_modify _ _ _ hhold]
    by_cases hkey : hold.key = key
    · have hat : Recorded.deltasAt (hold.releaseEntry q) key = _ := deltasAt_of_eq hkey
      have hholds : hold.holds key = true := decide_eq_true ⟨hkey, hactive⟩
      rw [if_pos hholds, hat, hdeltas]
      congr 1
      by_cases hstatus : released.status = .active
      · have hreleases : released.holds key = true := decide_eq_true ⟨hkey'.trans hkey, hstatus⟩
        rw [if_pos hreleases, (hstill hstatus).2]
        ring
      · have hreleases : released.holds key ≠ true := by simp [InventoryHold.holds, hstatus]
        rw [if_neg hreleases, hdone hstatus hactive, zero_sub]
    · have hholds : hold.holds key ≠ true := by simp [InventoryHold.holds, hkey]
      have hreleases : released.holds key ≠ true := by simp [InventoryHold.holds, hkey', hkey]
      rw [if_neg hholds, if_neg hreleases, deltasAt_of_ne hkey, sub_zero]
  · intro row hrow hrowactive
    obtain ⟨i, hi⟩ := List.mem_iff_getElem?.1 hrow
    obtain ⟨old, hold', rfl⟩ := exists_of_getElem?_modify _ _ hi
    by_cases hii : params.holdId = i
    · rw [if_pos hii] at hrowactive ⊢
      have hreference : (hold.releaseEntry q).referenceId = some released.id := by
        rw [hid]
        rfl
      rw [if_pos hreference, hshare, (hstill hrowactive).2, hid,
        ← hdb.held hold (List.mem_of_getElem? hhold) hactive]
      ring
    · rw [if_neg hii] at hrowactive ⊢
      have hne : (hold.releaseEntry q).referenceId ≠ some old.id := by
        rw [hdb.ids i old hold', InventoryHold.releaseEntry, hat_id]
        simpa using hii
      rw [if_neg hne, add_zero]
      exact hdb.held old (List.mem_of_getElem? hold') hrowactive
  · intro i row hi
    obtain ⟨old, hold', rfl⟩ := exists_of_getElem?_modify _ _ hi
    by_cases hii : params.holdId = i
    · rw [if_pos hii, hid, hat_id, hii]
    · rw [if_neg hii]
      exact hdb.ids i old hold'
  · intro _ id hid'
    cases hid'
    rw [List.length_modify]
    exact hdb.id_lt (List.mem_of_getElem? hhold)
  · rw [List.length_modify]
  · intro _ hbefore
    rw [hdeltas]
    change 0 ≤ (db.balances hold.key).available + (0 - 0 - -q)
    change 0 ≤ (db.balances hold.key).available at hbefore
    linarith

theorem exists_effect {c : StockCall} (hdb : Balanced db) (hsound : db.Sound c)
    (h : db.body c = .ok db') : ∃ params, Effect db params db' ∧
      (params.entryType = .ledgerAdjustment → c.Adjusts params.key) := by
  cases c with
  | record params moves =>
    exact ⟨params, effect_record hdb moves hsound h, fun htype => ⟨params, moves, rfl, rfl, htype⟩⟩
  | createReservation params =>
    exact ⟨params.entry, effect_createReservation hdb hsound h, fun htype => nomatch htype⟩
  | releaseReservation params =>
    obtain ⟨entry, htype, heffect⟩ := effect_releaseReservation hdb hsound h
    exact ⟨entry, heffect, fun h => absurd h htype⟩
  | placeHold params =>
    exact ⟨_, effect_placeHold hdb hsound h, fun htype => nomatch htype⟩
  | releaseHold params =>
    obtain ⟨entry, htype, heffect⟩ := effect_releaseHold hdb hsound h
    exact ⟨entry, heffect, fun h => absurd h htype⟩

theorem Balanced.call {c : StockCall} (hdb : Balanced db) (hsound : db.Sound c) :
    Balanced (db.call c) := by
  unfold WarehouseDb.call
  cases hbody : db.body c with
  | error error => exact hdb
  | ok db' =>
    obtain ⟨params, heffect, -⟩ := exists_effect hdb hsound hbody
    exact hdb.effect heffect

theorem adjusts_of_available_neg {c : StockCall} {key : StockKey} (hdb : Balanced db)
    (hsound : db.Sound c) (hbefore : 0 ≤ (db.balances key).available)
    (hafter : ((db.call c).balances key).available < 0) : c.Adjusts key := by
  unfold WarehouseDb.call at hafter
  cases hbody : db.body c with
  | error error =>
    rw [hbody, transaction_error] at hafter
    exact absurd hbefore (not_le.2 hafter)
  | ok db' =>
    rw [hbody, transaction_ok] at hafter
    obtain ⟨params, heffect, hadjusts⟩ := exists_effect hdb hsound hbody
    have havailable := heffect.recorded.available (hdb.levels key)
    change (db'.balances key).available = (db.balances key).available + _ at havailable
    by_cases hkey : params.key = key
    · subst hkey
      apply hadjusts
      by_contra htype
      have hfree := heffect.free htype hbefore
      rw [deltasAt_of_eq rfl] at havailable
      rw [havailable] at hafter
      exact absurd hfree (not_le.2 hafter)
    · rw [deltasAt_of_ne hkey] at havailable
      simp only [sub_zero, add_zero] at havailable
      rw [havailable] at hafter
      exact absurd hbefore (not_le.2 hafter)

end WarehouseDb

/-- What holds of the counters before, between and after the calls. -/
structure ReservationLaw (start : WarehouseDb) (calls : List StockCall) : Prop where
  reserved : ∀ k key, ((stateAt WarehouseDb.call start calls k).balances key).reserved =
    total (·.reserves key) InventoryReservation.unreleased
      (stateAt WarehouseDb.call start calls k).reservations
  quarantine : ∀ k key, ((stateAt WarehouseDb.call start calls k).balances key).quarantine =
    total (·.holds key)
      (fun hold =>
        heldMinusReleased (stateAt WarehouseDb.call start calls k).stock.ledger hold.id)
      (stateAt WarehouseDb.call start calls k).holds
  available : ∀ k c key, calls[k]? = some c →
    0 ≤ ((stateAt WarehouseDb.call start calls k).balances key).available →
      ((stateAt WarehouseDb.call start calls (k + 1)).balances key).available < 0 →
        c.Adjusts key

theorem WarehouseDb.Balanced.quarantine_eq {db : WarehouseDb} (h : db.Balanced) (key : StockKey) :
    (db.balances key).quarantine =
      total (·.holds key) (fun hold => heldMinusReleased db.stock.ledger hold.id) db.holds := by
  rw [h.quarantine key, total, total]
  congr 1
  apply List.map_congr_left
  intro hold hhold
  obtain ⟨hmem, hholds⟩ := List.mem_filter.1 hhold
  exact h.held hold hmem (of_decide_eq_true hholds).2

theorem reservationLaw_of_sound (batches : List Batch) (calls : List StockCall)
    (hsound : Always WarehouseDb.call WarehouseDb.Sound (.opened batches) calls) :
    ReservationLaw (.opened batches) calls := by
  have hbalanced : ∀ k, (stateAt WarehouseDb.call (.opened batches) calls k).Balanced :=
    hsound.invariant_at (fun _ _ h hs => h.call hs) (WarehouseDb.balanced_opened batches)
  constructor
  · exact fun k key => (hbalanced k).reserved key
  · exact fun k key => (hbalanced k).quarantine_eq key
  · intro k c key hcall hbefore hafter
    rw [stateAt_succ WarehouseDb.call _ hcall] at hafter
    exact WarehouseDb.adjusts_of_available_neg (hbalanced k) (hsound.at hcall) hbefore hafter

def wholeReleases : List StockCall :=
  [.record { key := stockKey, entryType := .ledgerReceipt, quantity := 10 } rfl,
    .createReservation
      { key := stockKey, quantity := 6, referenceType := "WORK_ORDER", referenceId := 1 },
    .placeHold { key := stockKey, quantity := 4, holdReason := "QC_INSPECTION" },
    .releaseHold { holdId := 0, releasedQty := some (.decimal 1) },
    .releaseReservation { reservationId := 0 },
    .releaseHold { holdId := 0 },
    .record { key := stockKey, entryType := .ledgerIssue, quantity := 19 / 2 } rfl]

theorem reservationLaw_wholeReleases : ReservationLaw (.opened []) wholeReleases :=
  reservationLaw_of_sound [] wholeReleases (by decide +kernel)

/-- Two of the six reserved units are released. -/
def partialRelease : List StockCall :=
  [.record { key := stockKey, entryType := .ledgerReceipt, quantity := 10 } rfl,
    .createReservation
      { key := stockKey, quantity := 6, referenceType := "WORK_ORDER", referenceId := 1 },
    .releaseReservation { reservationId := 0, fulfilledQty := some (.decimal 2) }]

/-- Four units stay reserved, and no reservation is active. -/
theorem not_reservationLaw_partialRelease : ¬ReservationLaw (.opened []) partialRelease := by
  intro h
  have hreserved := h.reserved 3 stockKey
  revert hreserved
  decide +kernel

end Forecast.Inventory
