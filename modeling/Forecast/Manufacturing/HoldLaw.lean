import Forecast.Manufacturing.StockEffects

/-!
# Decisions on quality inspections

A decision is for the goods of one document. The holds it moves are looked up by their
product, so it is right as long as no other document holds goods of the product.
-/

open KeyedTable DecimalColumn Transactions Runs RowTable

namespace Forecast.Manufacturing

open Inventory (Qty StockKey InventoryHold HoldStatus ReleaseHoldParams Recorded DecimalInput
  recorded_of_recordEntry stored_eq_ok)

def QualityInspection.owns (inspection : QualityInspection) (hold : InventoryHold) : Bool :=
  hold.key.productId = inspection.productId ∧
    ((∃ id ∈ inspection.goodsReceiptId,
        hold.referenceType = some "GOODS_RECEIPT" ∧ hold.referenceId = some id) ∨
      ∃ id ∈ inspection.workOrderId,
        hold.referenceType = some "WORK_ORDER" ∧ hold.referenceId = some id)

/-- What a hold keeps out of the available stock. -/
def heldStock (hold : InventoryHold) : Decimal := |hold.heldQty.value|

/-- A final result that lets the goods go. -/
def InspectionStatus.releases (status : InspectionStatus) : Bool :=
  status = .passed ∨ status = .conditionallyAccepted

namespace FactoryDb

def quarantine (db : FactoryDb) (key : StockKey) : Decimal :=
  (db.costing.stock.balances key).quarantine

/-- What the inspection's document still holds of a product at a location. -/
def ownHeld (db : FactoryDb) (inspection : QualityInspection) (key : StockKey) : Decimal :=
  ((db.holds.filter fun hold =>
    inspection.owns hold ∧ hold.status ≠ .released ∧ hold.key = key).map heldStock).sum

/-- The active holds of the inspection's product are those that its receipt still has; what it
does not look up is none of its own. -/
def Isolated (tenantId : Id) (db : FactoryDb) (inspection : QualityInspection)
    (status : InspectionStatus) : Prop :=
  match inspection.goodsReceiptId with
  | some _ =>
    (status.releases = true ∨ status = .failed → ∀ hold ∈ db.holds,
      isHeldForQC tenantId inspection.productId hold = true → inspection.owns hold = true) ∧
    (status.releases = true → ∀ hold ∈ db.holds, inspection.owns hold = true →
      hold.status ≠ .released → isHeldForQC tenantId inspection.productId hold = true)
  | none => status.releases = true → ∀ hold ∈ db.holds, inspection.owns hold = true →
      hold.status = .released

instance (tenantId : Id) (db : FactoryDb) :
    (inspection : QualityInspection) → (status : InspectionStatus) →
      Decidable (db.Isolated tenantId inspection status)
  | ⟨_, _, some _, _, _, _, _, _, _, _, _⟩, _ => inferInstanceAs (Decidable (_ ∧ _))
  | ⟨_, _, none, _, _, _, _, _, _, _, _⟩, _ => inferInstanceAs (Decidable (_ → _))

/-- A decision on an inspection whose product is held for its own document only. -/
def DecidesApart (db : FactoryDb) (c : FactoryCall) : Prop :=
  match c.op with
  | .updateQualityInspectionStatus id status =>
    ∀ inspection ∈ lookup QualityInspection.id db.inspections id,
      db.Isolated c.ctx.tenantId inspection status
  | _ => False

instance (db : FactoryDb) : DecidablePred db.DecidesApart
  | ⟨_, .updateQualityInspectionStatus _ _⟩ => inferInstanceAs (Decidable (∀ _ ∈ _, _))
  | ⟨_, .releasePurchaseOrder _⟩ | ⟨_, .createGoodsReceipt _⟩ | ⟨_, .confirmGoodsReceipt _⟩
  | ⟨_, .cancelPurchaseOrder _⟩ | ⟨_, .createInventoryTransaction _⟩ | ⟨_, .adjustInventory _⟩
  | ⟨_, .transferInventory _⟩ | ⟨_, .releaseWorkOrder _⟩ | ⟨_, .startWorkOrder _⟩
  | ⟨_, .issueMaterial _⟩ | ⟨_, .backflushMaterials _ _⟩ | ⟨_, .reportProductionCompletion _⟩
  | ⟨_, .completeWorkOrder _⟩ | ⟨_, .cancelWorkOrder _⟩ => inferInstanceAs (Decidable False)

/-- The id of a hold is its position. -/
def HoldsInPlace (db : FactoryDb) : Prop :=
  ∀ (i : ℕ) (hold : InventoryHold), db.holds[i]? = some hold → hold.id = i

variable {ctx : FactoryContext} {db db' : FactoryDb}

/-! ### Releasing a list of holds -/

/-- The holds of a list are released, and nothing else. -/
structure Releases (holds : List InventoryHold) (db db' : FactoryDb) : Prop where
  others : ∀ i, i ∉ holds.map InventoryHold.id → db'.holds[i]? = db.holds[i]?
  released : ∀ hold ∈ holds, ∃ hold' : InventoryHold, db'.holds[hold.id]? = some hold' ∧
    hold'.id = hold.id ∧ hold'.status = .released
  quarantine : ∀ key, db'.quarantine key = db.quarantine key -
    ((holds.filter fun hold => hold.key = key).map heldStock).sum

/-- A whole release takes what is held out of quarantine. -/
theorem releases_releaseHold {hold : InventoryHold} (hhold : db.holds[hold.id]? = some hold)
    (h : (db.inWarehouse fun w => w.releaseHold { holdId := hold.id }) = .ok db') :
    Releases [hold] db db' := by
  obtain ⟨w, hw, rfl⟩ := inWarehouse_eq_ok.1 h
  obtain ⟨found, released, hfound, -, hreleased, hstock, -, hholds⟩ := releaseHold_eq_ok hw
  cases hhold.symm.trans hfound
  have hwhole : DecimalInput.orElse none hold.heldQty = hold.heldQty.value := rfl
  rw [hwhole] at hreleased hstock
  have hrow : released.id = hold.id ∧ released.status = .released := by
    simp only [InventoryHold.release, lt_irrefl, if_false, bind_eq_ok, pure_eq_ok] at hreleased
    obtain ⟨releasedQty, -, rfl⟩ := hreleased
    exact ⟨rfl, rfl⟩
  have hrecorded := recorded_of_recordEntry hstock hold.heldQty.onScale_value
  refine ⟨fun i hi => ?_, fun hold' hmem => ?_, fun key => ?_⟩
  · rw [List.map_singleton, List.mem_singleton] at hi
    change w.holds[i]? = _
    rw [hholds]
    exact getElem?_modify_of_ne db.holds _ (Ne.symm hi)
  · rw [List.mem_singleton] at hmem
    subst hmem
    refine ⟨released, ?_, hrow⟩
    change w.holds[hold'.id]? = _
    rw [hholds]
    exact getElem?_modify_self db.holds (fun _ => released) hhold
  · change (w.stock.balances key).quarantine = (db.costing.stock.balances key).quarantine - _
    by_cases hkey : hold.key = key
    · have hbalances := hrecorded.balances
      change w.stock.balances hold.key = _ at hbalances
      rw [hkey] at hbalances
      rw [hbalances]
      simp [hkey, heldStock, Inventory.Balances.shifted, Inventory.calculateDeltas,
        InventoryHold.releaseEntry, sub_eq_add_neg, FactoryDb.warehouse]
    · have hother := hrecorded.others key (Ne.symm hkey)
      rw [hother]
      simp [hkey, FactoryDb.warehouse]

theorem Releases.cons {hold : InventoryHold} {holds : List InventoryHold} {m : FactoryDb}
    (hfirst : Releases [hold] db m) (hrest : Releases holds m db')
    (hnew : hold.id ∉ holds.map InventoryHold.id) : Releases (hold :: holds) db db' where
  others i hi := by
    rw [List.map_cons, List.mem_cons, not_or] at hi
    rw [hrest.others i hi.2, hfirst.others i (by simpa using hi.1)]
  released hold' hmem := by
    rcases List.mem_cons.1 hmem with rfl | hmem
    · obtain ⟨row, hrow, hid, hstatus⟩ := hfirst.released hold' List.mem_cons_self
      exact ⟨row, (hrest.others _ hnew).trans hrow, hid, hstatus⟩
    · exact hrest.released hold' hmem
  quarantine key := by
    rw [hrest.quarantine, hfirst.quarantine]
    by_cases hkey : hold.key = key <;> simp [hkey, sub_sub]

theorem releases_forEach {holds : List InventoryHold}
    (hunique : (holds.map InventoryHold.id).Nodup)
    (hrows : ∀ hold ∈ holds, db.holds[hold.id]? = some hold)
    (h : forEach (fun db (hold : InventoryHold) => db.inWarehouse fun w =>
      w.releaseHold { holdId := hold.id }) db holds = .ok db') : Releases holds db db' := by
  induction holds generalizing db with
  | nil =>
    cases h
    exact ⟨fun _ _ => rfl, fun _ hmem => absurd hmem List.not_mem_nil, fun key => by simp⟩
  | cons hold holds ih =>
    obtain ⟨m, hm, h⟩ := forEach_cons_eq_ok.1 h
    rw [List.map_cons, List.nodup_cons] at hunique
    have hfirst := releases_releaseHold (hrows hold List.mem_cons_self) hm
    refine hfirst.cons (ih hunique.2 (fun hold' hmem => ?_) h) hunique.1
    have hne : hold'.id ≠ hold.id := by
      intro heq
      exact hunique.1 (heq ▸ List.mem_map_of_mem hmem)
    rw [hfirst.others _ (by simpa using hne)]
    exact hrows hold' (List.mem_cons_of_mem hold hmem)

namespace HoldsInPlace

theorem nodup (h : db.HoldsInPlace) : (db.holds.map InventoryHold.id).Nodup := by
  have hrange : db.holds.map InventoryHold.id = List.range db.holds.length := by
    apply List.ext_getElem?
    intro i
    rw [List.getElem?_map]
    cases hrow : db.holds[i]? with
    | none =>
      rw [List.getElem?_eq_none (by simpa using List.getElem?_eq_none_iff.1 hrow)]
      rfl
    | some hold =>
      have hlt : i < db.holds.length := (List.getElem?_eq_some_iff.1 hrow).1
      rw [List.getElem?_range hlt, Option.map_some, h i hold hrow]
  rw [hrange]
  exact List.nodup_range

theorem getElem?_id (h : db.HoldsInPlace) {hold : InventoryHold} (hmem : hold ∈ db.holds) :
    db.holds[hold.id]? = some hold := by
  obtain ⟨i, hi⟩ := List.mem_iff_getElem?.1 hmem
  rw [h i hold hi, hi]

theorem of_releases {holds : List InventoryHold} (h : db.HoldsInPlace)
    (hreleases : Releases holds db db') : db'.HoldsInPlace := by
  intro i hold hrow
  by_cases hi : i ∈ holds.map InventoryHold.id
  · obtain ⟨before, hmem, rfl⟩ := List.mem_map.1 hi
    obtain ⟨after, hafter, hid, -⟩ := hreleases.released before hmem
    cases hrow.symm.trans hafter
    exact hid
  · rw [hreleases.others i hi] at hrow
    exact h i hold hrow

end HoldsInPlace

theorem releases_releaseHolds {productId : Id} (hplace : db.HoldsInPlace)
    (h : db.releaseHolds ctx productId = .ok db') :
    Releases (db.holds.filter (isHeldForQC ctx.tenantId productId)) db db' := by
  refine releases_forEach ?_ (fun hold hmem => ?_) h
  · exact hplace.nodup.sublist (List.filter_sublist.map _)
  · exact hplace.getElem?_id (List.mem_filter.1 hmem).1

/-! ### A decision -/

/-- What a decision does: the holds of other documents stay, and when it releases, its own
holds are released and exactly their stock leaves quarantine. -/
structure Decided (inspection : QualityInspection) (releases : Bool) (db db' : FactoryDb) :
    Prop where
  others : ∀ (i : ℕ) (hold : InventoryHold), db.holds[i]? = some hold →
    inspection.owns hold = false → db'.holds[i]? = some hold
  released : releases = true → ∀ (i : ℕ) (hold : InventoryHold), db.holds[i]? = some hold →
    inspection.owns hold = true →
      ∃ hold' : InventoryHold, db'.holds[i]? = some hold' ∧ hold'.status = .released
  quarantine : ∀ key, db'.quarantine key =
    db.quarantine key - if releases then db.ownHeld inspection key else 0

theorem decided_of_eq {inspection : QualityInspection} (hholds : db'.holds = db.holds)
    (hcosting : db'.costing = db.costing) : Decided inspection false db db' where
  others i hold hrow _ := hholds ▸ hrow
  released h := nomatch h
  quarantine key := by
    rw [FactoryDb.quarantine, hcosting, if_neg Bool.false_ne_true, sub_zero]
    rfl

theorem setQcStatus_eq_ok {goodsReceiptId : Id} {qcStatus : GoodsReceiptQcStatus}
    (h : db.setQcStatus goodsReceiptId qcStatus = .ok db') :
    db'.holds = db.holds ∧ db'.costing = db.costing ∧ db'.inspections = db.inspections := by
  simp only [setQcStatus, bind_eq_ok, pure_eq_ok] at h
  obtain ⟨gr, -, rfl⟩ := h
  exact ⟨rfl, rfl, rfl⟩

theorem ne_released_of_isHeldForQC {tenantId productId : Id} {hold : InventoryHold}
    (h : isHeldForQC tenantId productId hold = true) : hold.status ≠ .released := by
  rw [isHeldForQC, decide_eq_true_eq] at h
  rw [h.2.2.2]
  nofun

/-- The holds that are looked up are those that the document still has. -/
theorem decided_of_releases {inspection : QualityInspection} {productId : Id}
    (hproduct : inspection.productId = productId) (hplace : db.HoldsInPlace)
    (hown : ∀ hold ∈ db.holds, isHeldForQC ctx.tenantId productId hold = true →
      inspection.owns hold = true)
    (hall : ∀ hold ∈ db.holds, inspection.owns hold = true → hold.status ≠ .released →
      isHeldForQC ctx.tenantId productId hold = true)
    (h : Releases (db.holds.filter (isHeldForQC ctx.tenantId productId)) db db') :
    Decided inspection true db db' := by
  subst hproduct
  refine ⟨fun i hold hrow hother => ?_, fun _ i hold hrow howns => ?_, fun key => ?_⟩
  · have hmem := List.mem_of_getElem? hrow
    rw [h.others i, hrow]
    intro hi
    obtain ⟨held, hheld, rfl⟩ := List.mem_map.1 hi
    obtain ⟨hheldMem, hheldQc⟩ := List.mem_filter.1 hheld
    cases hrow.symm.trans (hplace.getElem?_id hheldMem)
    rw [hown hold hmem hheldQc] at hother
    cases hother
  · have hmem := List.mem_of_getElem? hrow
    have hid := hplace i hold hrow
    by_cases hstatus : hold.status = .released
    · refine ⟨hold, ?_, hstatus⟩
      rw [h.others i, hrow]
      intro hi
      obtain ⟨held, hheld, rfl⟩ := List.mem_map.1 hi
      obtain ⟨hheldMem, hheldQc⟩ := List.mem_filter.1 hheld
      cases hrow.symm.trans (hplace.getElem?_id hheldMem)
      exact ne_released_of_isHeldForQC hheldQc hstatus
    · obtain ⟨hold', hrow', -, hreleased⟩ :=
        h.released hold (List.mem_filter.2 ⟨hmem, hall hold hmem howns hstatus⟩)
      exact ⟨hold', hid ▸ hrow', hreleased⟩
  · rw [h.quarantine, if_pos rfl, ownHeld, List.filter_filter]
    congr 3
    apply List.filter_congr
    intro hold hmem
    rw [Bool.eq_iff_iff]
    simp only [Bool.and_eq_true, decide_eq_true_eq]
    constructor
    · rintro ⟨hkey, hheld⟩
      exact ⟨hown hold hmem hheld, ne_released_of_isHeldForQC hheld, hkey⟩
    · rintro ⟨howns, hstatus, hkey⟩
      exact ⟨hkey, hall hold hmem howns hstatus⟩

theorem decided_rejectHolds {inspection : QualityInspection} {tenantId inspectionId : Id}
    (htenant : ctx.tenantId = tenantId)
    (hown : ∀ hold ∈ db.holds, isHeldForQC tenantId inspection.productId hold = true →
      inspection.owns hold = true) :
    Decided inspection false db (db.rejectHolds ctx inspection.productId inspectionId) := by
  subst htenant
  refine ⟨fun i hold hrow hother => ?_, nofun, fun key => ?_⟩
  · have hnot : isHeldForQC ctx.tenantId inspection.productId hold = false := by
      by_contra hheld
      rw [hown hold (List.mem_of_getElem? hrow) (Bool.eq_true_of_not_eq_false hheld)] at hother
      cases hother
    rw [rejectHolds, List.getElem?_map, hrow, Option.map_some, hnot]
    rfl
  · rw [if_neg Bool.false_ne_true, sub_zero]
    rfl

theorem holdsInPlace_rejectHolds {productId inspectionId : Id} (h : db.HoldsInPlace) :
    (db.rejectHolds ctx productId inspectionId).HoldsInPlace := by
  intro i hold hrow
  rw [rejectHolds, List.getElem?_map, Option.map_eq_some_iff] at hrow
  obtain ⟨before, hbefore, rfl⟩ := hrow
  have hid := h i before hbefore
  split_ifs <;> exact hid

theorem decided_release {inspection : QualityInspection} {status : InspectionStatus}
    {goodsReceiptId : Id} {qcStatus : GoodsReceiptQcStatus}
    (hreceipt : inspection.goodsReceiptId = some goodsReceiptId)
    (hstatus : status.releases = true) (hplace : db.HoldsInPlace)
    (hsound : db.Isolated ctx.tenantId inspection status)
    (h : (do
      let released ← db.releaseHolds ctx inspection.productId
      released.setQcStatus goodsReceiptId qcStatus) = .ok db') :
    Decided inspection true db db' ∧ db'.HoldsInPlace := by
  simp only [bind_eq_ok] at h
  obtain ⟨released, hreleased, h⟩ := h
  obtain ⟨hholds, hcosting, -⟩ := setQcStatus_eq_ok h
  simp only [Isolated, hreceipt] at hsound
  have hreleases := releases_releaseHolds hplace hreleased
  have hdecided := decided_of_releases rfl hplace (hsound.1 (Or.inl hstatus)) (hsound.2 hstatus)
    hreleases
  have hafter := hplace.of_releases hreleases
  refine ⟨⟨fun i hold hrow hother => ?_, fun htrue i hold hrow howns => ?_, fun key => ?_⟩,
    fun i hold hrow => hafter i hold (hholds ▸ hrow)⟩
  · rw [hholds]
    exact hdecided.others i hold hrow hother
  · rw [hholds]
    exact hdecided.released htrue i hold hrow howns
  · rw [← hdecided.quarantine key, FactoryDb.quarantine, hcosting]
    rfl

theorem decided_decide {inspection : QualityInspection} {status : InspectionStatus}
    (hplace : db.HoldsInPlace) (hsound : db.Isolated ctx.tenantId inspection status)
    (h : db.decide ctx inspection status = .ok db') :
    Decided inspection status.releases db db' ∧ db'.HoldsInPlace := by
  cases hreceipt : inspection.goodsReceiptId with
  | none =>
    simp only [FactoryDb.decide, hreceipt] at h
    cases h
    simp only [Isolated, hreceipt] at hsound
    refine ⟨⟨fun _ _ hrow _ => hrow, fun htrue i hold hrow howns => ?_, fun key => ?_⟩, hplace⟩
    · exact ⟨hold, hrow, hsound htrue hold (List.mem_of_getElem? hrow) howns⟩
    · by_cases hreleases : status.releases = true
      · have hnone : (db.holds.filter fun hold =>
            inspection.owns hold ∧ hold.status ≠ .released ∧ hold.key = key) = [] :=
          List.filter_eq_nil_iff.2 fun hold hmem => by
            simp only [decide_eq_true_eq, not_and]
            exact fun howns hstatus => absurd (hsound hreleases hold hmem howns) hstatus
        rw [if_pos hreleases, ownHeld, hnone]
        simp
      · rw [if_neg hreleases, sub_zero]
  | some goodsReceiptId =>
    cases status with
    | passed =>
      simp only [FactoryDb.decide, hreceipt] at h
      exact decided_release hreceipt rfl hplace hsound h
    | conditionallyAccepted =>
      simp only [FactoryDb.decide, hreceipt] at h
      exact decided_release hreceipt rfl hplace hsound h
    | failed =>
      simp only [FactoryDb.decide, hreceipt] at h
      obtain ⟨hholds, hcosting, -⟩ := setQcStatus_eq_ok h
      simp only [Isolated, hreceipt] at hsound
      have hrejected : Decided inspection false db
          (db.rejectHolds ctx inspection.productId inspection.id) :=
        decided_rejectHolds rfl (hsound.1 (Or.inr trivial))
      refine ⟨⟨fun i hold hrow hother => ?_, nofun, fun key => ?_⟩, fun i hold hrow => ?_⟩
      · rw [hholds]
        exact hrejected.others i hold hrow hother
      · rw [FactoryDb.quarantine, hcosting]
        exact hrejected.quarantine key
      · exact holdsInPlace_rejectHolds hplace i hold (hholds ▸ hrow)
    | pending =>
      simp only [FactoryDb.decide, hreceipt] at h
      cases h
      exact ⟨decided_of_eq rfl rfl, hplace⟩
    | inProgress =>
      simp only [FactoryDb.decide, hreceipt] at h
      cases h
      exact ⟨decided_of_eq rfl rfl, hplace⟩

theorem decided_next {id : Id} {status : InspectionStatus} {inspection : QualityInspection}
    (hplace : db.HoldsInPlace)
    (hfound : lookup QualityInspection.id db.inspections id = some inspection)
    (hsound : db.Isolated ctx.tenantId inspection status) :
    Decided inspection
        (status.releases && (db.updateQualityInspectionStatus ctx id status).isOk) db
        (db.next ⟨ctx, .updateQualityInspectionStatus id status⟩) ∧
      (db.next ⟨ctx, .updateQualityInspectionStatus id status⟩).HoldsInPlace := by
  simp only [next, outcome]
  cases h : db.updateQualityInspectionStatus ctx id status with
  | error e =>
    simp only [Except.isOk, Except.toBool, Bool.and_false]
    exact ⟨decided_of_eq rfl rfl, hplace⟩
  | ok db' =>
    simp only [updateQualityInspectionStatus, bind_eq_ok, found_eq_ok] at h
    obtain ⟨inspection', hfound', h⟩ := h
    cases hfound.symm.trans hfound'
    simp only [Except.isOk, Except.toBool, Bool.and_true]
    have hstored : FactoryDb.HoldsInPlace
        { db with
          inspections := upsert QualityInspection.id db.inspections
            { inspection with status := status } } := hplace
    obtain ⟨hdecided, hafter⟩ := decided_decide hstored hsound h
    exact ⟨⟨hdecided.others, hdecided.released, hdecided.quarantine⟩, hafter⟩

theorem holdsInPlace_next {c : FactoryCall} (hplace : db.HoldsInPlace)
    (hsound : db.DecidesApart c) : (db.next c).HoldsInPlace := by
  obtain ⟨ctx, op⟩ := c
  cases op with
  | updateQualityInspectionStatus id status =>
    cases hfound : lookup QualityInspection.id db.inspections id with
    | none =>
      have hthrown : db.updateQualityInspectionStatus ctx id status =
          .error .inspectionNotFound := by
        rw [updateQualityInspectionStatus, hfound]
        rfl
      simp only [next, outcome, hthrown]
      exact hplace
    | some inspection => exact (decided_next hplace hfound (hsound inspection hfound)).2
  | _ => cases hsound

end FactoryDb

/-! ### Runs -/

open FactoryDb (next Decided)

/-- Every decision of a run is one on the goods of its own document. -/
def HoldLaw (start : FactoryDb) (calls : List FactoryCall) : Prop :=
  ∀ k ctx id status, calls[k]? = some ⟨ctx, .updateQualityInspectionStatus id status⟩ →
    ∀ inspection ∈ lookup QualityInspection.id (stateAt next start calls k).inspections id,
      Decided inspection
        (status.releases &&
          ((stateAt next start calls k).updateQualityInspectionStatus ctx id status).isOk)
        (stateAt next start calls k) (stateAt next start calls (k + 1))

theorem holdLaw_of_decidesApart {start : FactoryDb} {calls : List FactoryCall}
    (hstart : start.HoldsInPlace) (h : Always next FactoryDb.DecidesApart start calls) :
    HoldLaw start calls := by
  intro k ctx id status hc inspection hfound
  have hplace := h.invariant_at (I := FactoryDb.HoldsInPlace)
    (fun _ _ hdb hs => FactoryDb.holdsInPlace_next hdb hs) hstart k
  rw [stateAt_succ next start hc]
  exact (FactoryDb.decided_next hplace hfound (h.at hc inspection hfound)).1

/-- A tenant whose products are inspected. -/
def inspectedContext : FactoryContext :=
  { plainContext with
    products := [{ id := 7, qcRequired := true }, { id := 8, qcRequired := true }] }

/-- Two receipts of ten pieces each, in stock and on hold. -/
def heldReceipts (secondProductId : Id) : FactoryDb :=
  run next
    { plainFactory with
      goodsReceipts :=
        [{ id := 1
           purchaseOrderId := none
           locationId := 3
           lines := [⟨1, 7, pieces 10, none, 11⟩] },
          { id := 2
            purchaseOrderId := none
            locationId := 3
            lines := [⟨2, secondProductId, pieces 10, none, 12⟩] }] }
    [⟨inspectedContext, .confirmGoodsReceipt 1⟩, ⟨inspectedContext, .confirmGoodsReceipt 2⟩]

def decisionOn (id : Id) (status : InspectionStatus) : FactoryCall :=
  ⟨inspectedContext, .updateQualityInspectionStatus id status⟩

instance (db : FactoryDb) : Decidable db.HoldsInPlace :=
  decidable_of_iff (∀ i < db.holds.length, ∀ hold ∈ db.holds[i]?, hold.id = i)
    ⟨fun h i hold hrow => h i (List.getElem?_eq_some_iff.1 hrow).1 hold hrow,
      fun h i _ hold hrow => h i hold hrow⟩

/-- One receipt passes and the other, of another product, fails. -/
theorem holdLaw_twoProducts :
    ((run next (heldReceipts 8) [decisionOn 1 .passed, decisionOn 2 .failed]).holds.map
        InventoryHold.status) = [.released, .rejected] ∧
      HoldLaw (heldReceipts 8) [decisionOn 1 .passed, decisionOn 2 .failed] :=
  ⟨by decide +kernel, holdLaw_of_decidesApart (by decide +kernel) (by decide +kernel)⟩

def firstInspection : QualityInspection where
  id := 1
  productId := 7
  goodsReceiptId := some 1
  locationId := 3
  inspectionType := .incoming
  inspectedQty := pieces 10

/-- The decision on the first receipt releases the second receipt of the product as well. -/
theorem not_holdLaw_oneProduct : ¬HoldLaw (heldReceipts 7) [decisionOn 1 .passed] := by
  intro h
  have hfound : lookup QualityInspection.id (heldReceipts 7).inspections 1 =
      some firstInspection := by decide +kernel
  have hothers : ∀ hold ∈ (heldReceipts 7).holds[1]?, firstInspection.owns hold = false →
      (run next (heldReceipts 7) [decisionOn 1 .passed]).holds[1]? = some hold :=
    (h 0 inspectedContext 1 .passed rfl firstInspection hfound).others 1
  revert hothers
  decide +kernel

end Forecast.Manufacturing
