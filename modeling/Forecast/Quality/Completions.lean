import Forecast.Manufacturing.HoldLaw

/-!
# Completed inspections

`completeInspection` stores the accepted and the rejected quantity and, unless the result is a
failure, releases every active hold of the inspection whole. A conditional acceptance is not
among the results that it takes for a completion.
-/

open KeyedTable DecimalColumn Transactions RowTable Runs

namespace Forecast.Quality

open Inventory (Qty StockKey StockDb InventoryHold LedgerEntry Recorded DecimalInput
  recorded_of_recordEntry)
open Manufacturing (FactoryDb FactoryContext ManufacturingError QualityInspection
  InspectionStatus GoodsReceiptQcStatus columnOf heldStock)

/-- A row of `non_conformance_reports`. -/
structure NonConformanceReport where
  inspectionId : Id
  productId : Id
  locationId : Id
  workOrderId : Option Id
  affectedQty : Qty
  uom : String
deriving DecidableEq

structure QualityDb where
  factory : FactoryDb
  ncrs : List NonConformanceReport := []

inductive QualityError where
  | notFound
  | alreadyCompleted
  | unbalanced (acceptedQty rejectedQty totalInspected inspectedQty : Decimal)
  | factory (e : ManufacturingError)
deriving DecidableEq

/-- The message of an error; the database words its own. -/
def QualityError.text (shown : Decimal → String) (tenantId : String) :
    QualityError → Option String
  | notFound => none
  | alreadyCompleted => some "Inspection has already been completed"
  | unbalanced acceptedQty rejectedQty totalInspected inspectedQty =>
    some ("accepted (" ++ shown acceptedQty ++ ") + rejected (" ++ shown rejectedQty ++ ") = " ++
      shown totalInspected ++ " must equal inspected qty (" ++ shown inspectedQty ++ ")")
  | factory e => e.text shown tenantId

/-- `completeInspection(tenantId, inspectionId, params)`, and what it finds. -/
structure CompletionCall where
  ctx : FactoryContext
  inspectionId : Id
  status : InspectionStatus
  acceptedQty : Decimal
  rejectedQty : Decimal

def isHeldBy (inspectionId : Id) (hold : InventoryHold) : Bool :=
  hold.inspectionId = some inspectionId ∧ hold.status = .active

def releaseHolds (factory : FactoryDb) (holds : List InventoryHold) :
    Except ManufacturingError FactoryDb :=
  forEach (fun db (hold : InventoryHold) => db.inWarehouse fun w =>
    w.releaseHold { holdId := hold.id }) factory holds

/-- The receipt that the inspection is about, when it is about one. -/
def updateReceipt (factory : FactoryDb) (inspection : QualityInspection)
    (qcStatus : GoodsReceiptQcStatus) : Except ManufacturingError FactoryDb :=
  match inspection.goodsReceiptId with
  | some goodsReceiptId => factory.setQcStatus goodsReceiptId qcStatus
  | none => .ok factory

def createNCR (call : CompletionCall) (inspection : QualityInspection) (rejectedQty : Qty) :
    NonConformanceReport where
  inspectionId := inspection.id
  productId := inspection.productId
  locationId := inspection.locationId
  workOrderId := inspection.workOrderId
  affectedQty := rejectedQty
  uom := ((call.ctx.product inspection.productId).map (·.unitOfMeasure)).getD "EA"

namespace QualityDb

def settle (db : QualityDb) (call : CompletionCall) (inspection : QualityInspection)
    (rejectedQty : Qty) : Except ManufacturingError QualityDb :=
  let holds := db.factory.holds.filter (isHeldBy call.inspectionId)
  match call.status with
  | .passed => do
      let released ← releaseHolds db.factory holds
      let factory ← updateReceipt released inspection .qcPassed
      pure { db with factory := factory }
  | .conditionallyAccepted => do
      let released ← releaseHolds db.factory holds
      let factory ← updateReceipt released inspection .qcConditional
      pure { db with factory := factory }
  | .failed => do
      let factory ← updateReceipt db.factory inspection .qcFailed
      pure
        { factory := factory
          ncrs := db.ncrs ++ [createNCR call inspection rejectedQty] }
  | .pending | .inProgress => do
      let factory ← updateReceipt db.factory inspection .qcConditional
      pure { db with factory := factory }

def completeInspection (db : QualityDb) (call : CompletionCall) :
    Except QualityError QualityDb := do
  let inspection ←
    found (lookup QualityInspection.id db.factory.inspections call.inspectionId) .notFound
  throwWhen (inspection.status = .passed ∨ inspection.status = .failed) .alreadyCompleted
  let totalInspected := Decimal.plus call.acceptedQty call.rejectedQty
  throwWhen (totalInspected ≠ inspection.inspectedQty.value)
    (.unbalanced call.acceptedQty call.rejectedQty totalInspected inspection.inspectedQty.value)
  let acceptedQty ← (columnOf call.acceptedQty).mapError QualityError.factory
  let rejectedQty ← (columnOf call.rejectedQty).mapError QualityError.factory
  let inspections := upsert QualityInspection.id db.factory.inspections
    { inspection with
      status := call.status
      acceptedQty := acceptedQty
      rejectedQty := rejectedQty }
  let db := { db with factory := { db.factory with inspections := inspections } }
  (db.settle call inspection rejectedQty).mapError QualityError.factory

def next (db : QualityDb) (call : CompletionCall) : QualityDb :=
  transaction db (db.completeInspection call)

/-- The call gives its inspection one of the three results. -/
def completes (db : QualityDb) (call : CompletionCall) : Bool :=
  (call.status.releases || call.status = .failed) && (db.completeInspection call).isOk

end QualityDb

/-! ### The law -/

/-- What the releases of the ledger took out of quarantine. -/
def releasedStock (factory : FactoryDb) : Decimal :=
  total (fun entry => entry.entryType = .ledgerRelease) (fun entry => |entry.quantity.value|)
    factory.costing.stock.ledger

/-- The same for one product at one location. -/
def releasedAt (factory : FactoryDb) (key : StockKey) : Decimal :=
  total (fun entry => entry.entryType = .ledgerRelease ∧ entry.key = key)
    (fun entry => |entry.quantity.value|) factory.costing.stock.ledger

/-- What the available quantity is computed as. -/
def freeStock (factory : FactoryDb) (key : StockKey) : Decimal :=
  let b := factory.costing.stock.balances key
  b.onHand - b.reserved - b.quarantine

/-- A quantity goes from quarantine to the free stock, as the ledger says, and nothing else. -/
structure Moves (factory factory' : FactoryDb) (q : Decimal) : Prop where
  released : releasedStock factory' = releasedStock factory + q
  quarantine : ∀ key, factory'.quarantine key =
    factory.quarantine key - (releasedAt factory' key - releasedAt factory key)
  free : ∀ key, freeStock factory' key =
    freeStock factory key + (releasedAt factory' key - releasedAt factory key)

/-- An inspection is completed once, and what the call moves is what it accepts. -/
structure CompletionLaw (start : QualityDb) (calls : List CompletionCall) : Prop where
  once : ∀ i j c c', i < j → calls[i]? = some c → calls[j]? = some c' →
    c.inspectionId = c'.inspectionId → (stateAt QualityDb.next start calls i).completes c = true →
      (stateAt QualityDb.next start calls j).completes c' = false
  moves : ∀ k c, calls[k]? = some c → (stateAt QualityDb.next start calls k).completes c = true →
    ∃ inspection : QualityInspection,
      lookup QualityInspection.id (stateAt QualityDb.next start calls (k + 1)).factory.inspections
        c.inspectionId = some inspection ∧
      Moves (stateAt QualityDb.next start calls k).factory
        (stateAt QualityDb.next start calls (k + 1)).factory inspection.acceptedQty.value

namespace QualityDb

/-- What the active holds of an inspection keep in quarantine. -/
def heldBy (db : QualityDb) (inspectionId : Id) : Decimal :=
  ((db.factory.holds.filter (isHeldBy inspectionId)).map heldStock).sum

/-- The call accepts what its result releases. -/
def AcceptsHeld (db : QualityDb) (call : CompletionCall) : Prop :=
  match call.status with
  | .passed | .conditionallyAccepted => call.acceptedQty = db.heldBy call.inspectionId
  | .failed => call.acceptedQty = 0
  | .pending | .inProgress => True

/-- The inspection of the call was not accepted conditionally before, and unless it is
completed the call accepts what its result releases. -/
def Completable (db : QualityDb) (call : CompletionCall) : Prop :=
  ∀ inspection ∈ lookup QualityInspection.id db.factory.inspections call.inspectionId,
    inspection.status ≠ .conditionallyAccepted ∧
      (inspection.status ≠ .passed ∧ inspection.status ≠ .failed → db.AcceptsHeld call)

instance (db : QualityDb) : (call : CompletionCall) → Decidable (db.AcceptsHeld call)
  | ⟨_, _, .passed, _, _⟩ | ⟨_, _, .conditionallyAccepted, _, _⟩ =>
    inferInstanceAs (Decidable (_ = db.heldBy _))
  | ⟨_, _, .failed, _, _⟩ => inferInstanceAs (Decidable (_ = (0 : Decimal)))
  | ⟨_, _, .pending, _, _⟩ | ⟨_, _, .inProgress, _, _⟩ => inferInstanceAs (Decidable True)

instance (db : QualityDb) (call : CompletionCall) : Decidable (db.Completable call) :=
  inferInstanceAs (Decidable (∀ _ ∈ _, _))

end QualityDb

/-! ### What a release moves -/

section Moves

variable {factory factory' : FactoryDb}

theorem Moves.of_same (h : factory'.costing.stock = factory.costing.stock) :
    Moves factory factory' 0 := by
  constructor
  · rw [releasedStock, releasedStock, h, add_zero]
  · intro key
    rw [FactoryDb.quarantine, FactoryDb.quarantine, releasedAt, releasedAt, h, sub_self, sub_zero]
  · intro key
    rw [freeStock, freeStock, releasedAt, releasedAt, h, sub_self, add_zero]

theorem Moves.trans {m : FactoryDb} {p q : Decimal} (hfirst : Moves factory m p)
    (hrest : Moves m factory' q) : Moves factory factory' (p + q) := by
  constructor
  · rw [hrest.released, hfirst.released, add_assoc]
  · intro key
    rw [hrest.quarantine, hfirst.quarantine]
    ring
  · intro key
    rw [hrest.free, hfirst.free]
    ring

theorem balances_release {stock stock' : StockDb} {hold : InventoryHold}
    (h : Recorded stock (hold.releaseEntry hold.heldQty.value) stock') (key : StockKey) :
    (stock'.balances key).onHand = (stock.balances key).onHand ∧
      (stock'.balances key).reserved = (stock.balances key).reserved ∧
      (stock'.balances key).quarantine = (stock.balances key).quarantine -
        if hold.key = key then heldStock hold else 0 := by
  by_cases hkey : hold.key = key
  · subst hkey
    have hbalances : stock'.balances hold.key = _ := h.balances
    rw [hbalances, if_pos rfl]
    exact ⟨add_zero _, add_zero _, (sub_eq_add_neg _ _).symm⟩
  · rw [h.others key (Ne.symm hkey), if_neg hkey, sub_zero]
    exact ⟨rfl, rfl, rfl⟩

theorem total_release {stock stock' : StockDb} {hold : InventoryHold}
    (h : Recorded stock (hold.releaseEntry hold.heldQty.value) stock') (p : StockKey → Bool) :
    total (fun entry => entry.entryType = .ledgerRelease ∧ p entry.key)
        (fun entry => |entry.quantity.value|) stock'.ledger =
      total (fun entry => entry.entryType = .ledgerRelease ∧ p entry.key)
        (fun entry => |entry.quantity.value|) stock.ledger +
        if p hold.key then heldStock hold else 0 := by
  obtain ⟨entry, hentry, hledger⟩ := h.ledger
  have htype : entry.entryType = .ledgerRelease := hentry.entryType
  have hkey : entry.key = hold.key := hentry.key
  have hquantity : |entry.quantity.value| = heldStock hold := congrArg abs hentry.quantity
  rw [hledger, total_append_row, hkey, htype, hquantity]
  simp

theorem moves_releaseHold {hold : InventoryHold}
    (hhold : factory.holds[hold.id]? = some hold)
    (h : (factory.inWarehouse fun w => w.releaseHold { holdId := hold.id }) = .ok factory') :
    Moves factory factory' (heldStock hold) := by
  obtain ⟨w, hw, rfl⟩ := FactoryDb.inWarehouse_eq_ok.1 h
  obtain ⟨found, released, hfound, -, -, hstock, -, -⟩ := Manufacturing.releaseHold_eq_ok hw
  cases hhold.symm.trans hfound
  have hwhole : DecimalInput.orElse none hold.heldQty = hold.heldQty.value := rfl
  rw [hwhole] at hstock
  have hrecorded := recorded_of_recordEntry hstock hold.heldQty.onScale_value
  have hat : ∀ key, releasedAt (factory.withWarehouse w) key - releasedAt factory key =
      if hold.key = key then heldStock hold else 0 := by
    intro key
    have htotal := total_release hrecorded fun k => k = key
    simp only [decide_eq_true_eq] at htotal
    rw [sub_eq_iff_eq_add, add_comm]
    exact htotal
  refine ⟨?_, fun key => ?_, fun key => ?_⟩
  · have htotal := total_release hrecorded fun _ => true
    simp only [and_true, if_true] at htotal
    exact htotal
  · rw [hat]
    exact (balances_release hrecorded key).2.2
  · obtain ⟨honHand, hreserved, hquarantine⟩ := balances_release hrecorded key
    rw [hat]
    change (w.stock.balances key).onHand - (w.stock.balances key).reserved -
      (w.stock.balances key).quarantine = _
    rw [honHand, hreserved, hquarantine, freeStock, sub_sub_eq_add_sub, add_sub_right_comm]
    rfl

theorem moves_releaseHolds {holds : List InventoryHold}
    (hunique : (holds.map InventoryHold.id).Nodup)
    (hrows : ∀ hold ∈ holds, factory.holds[hold.id]? = some hold)
    (h : releaseHolds factory holds = .ok factory') :
    Moves factory factory' (holds.map heldStock).sum := by
  induction holds generalizing factory with
  | nil =>
    cases h
    exact Moves.of_same rfl
  | cons hold holds ih =>
    obtain ⟨m, hm, h⟩ := forEach_cons_eq_ok.1 h
    rw [List.map_cons, List.nodup_cons] at hunique
    have hhold := hrows hold List.mem_cons_self
    have hfirst := FactoryDb.releases_releaseHold hhold hm
    rw [List.map_cons, List.sum_cons]
    refine (moves_releaseHold hhold hm).trans (ih hunique.2 (fun other hmem => ?_) h)
    have hne : other.id ≠ hold.id := by
      intro heq
      exact hunique.1 (heq ▸ List.mem_map_of_mem hmem)
    rw [hfirst.others _ (by simpa using hne)]
    exact hrows other (List.mem_cons_of_mem hold hmem)

end Moves

/-! ### One call -/

theorem inspections_releaseHolds {factory factory' : FactoryDb} {holds : List InventoryHold}
    (h : releaseHolds factory holds = .ok factory') :
    factory'.inspections = factory.inspections := by
  refine forEach_invariant (I := fun db : FactoryDb => db.inspections = factory.inspections)
    (fun db db' hold _ hdb hstep => ?_) h rfl
  obtain ⟨w, -, rfl⟩ := FactoryDb.inWarehouse_eq_ok.1 hstep
  exact hdb

theorem updateReceipt_eq_ok {factory factory' : FactoryDb} {inspection : QualityInspection}
    {qcStatus : GoodsReceiptQcStatus}
    (h : updateReceipt factory inspection qcStatus = .ok factory') :
    factory'.holds = factory.holds ∧ factory'.costing = factory.costing ∧
      factory'.inspections = factory.inspections := by
  unfold updateReceipt at h
  cases hreceipt : inspection.goodsReceiptId with
  | none =>
    rw [hreceipt] at h
    cases h
    exact ⟨rfl, rfl, rfl⟩
  | some goodsReceiptId =>
    rw [hreceipt] at h
    exact FactoryDb.setQcStatus_eq_ok h

/-- What a result does: the inspections stay, and what it should accept is what it moves. -/
structure Settled (db : QualityDb) (call : CompletionCall) (db' : QualityDb) : Prop where
  inspections : db'.factory.inspections = db.factory.inspections
  holdsInPlace : db'.factory.HoldsInPlace
  moves : db.AcceptsHeld call → call.status.releases = true ∨ call.status = .failed →
    Moves db.factory db'.factory call.acceptedQty

namespace QualityDb

variable {db db' : QualityDb} {call : CompletionCall} {inspection : QualityInspection}

theorem settled_release {factory released : FactoryDb} {qcStatus : GoodsReceiptQcStatus}
    (hplace : db.factory.HoldsInPlace)
    (haccepts : db.AcceptsHeld call → call.acceptedQty = db.heldBy call.inspectionId)
    (hreleased : releaseHolds db.factory
      (db.factory.holds.filter (isHeldBy call.inspectionId)) = .ok released)
    (hreceipt : updateReceipt released inspection qcStatus = .ok factory) :
    Settled db call { db with factory := factory } := by
  obtain ⟨hholds, hcosting, hinspections⟩ := updateReceipt_eq_ok hreceipt
  have hunique : ((db.factory.holds.filter (isHeldBy call.inspectionId)).map
      InventoryHold.id).Nodup := hplace.nodup.sublist (List.filter_sublist.map _)
  have hrows : ∀ hold ∈ db.factory.holds.filter (isHeldBy call.inspectionId),
      db.factory.holds[hold.id]? = some hold := fun hold hmem =>
    hplace.getElem?_id (List.mem_filter.1 hmem).1
  refine ⟨hinspections.trans (inspections_releaseHolds hreleased), fun i hold hrow => ?_,
    fun hheld _ => ?_⟩
  · have hafter := hplace.of_releases (FactoryDb.releases_forEach hunique hrows hreleased)
    exact hafter i hold (hholds ▸ hrow)
  · have hmoves := (moves_releaseHolds hunique hrows hreleased).trans
      (Moves.of_same (congrArg Costing.CostingDb.stock hcosting))
    rw [add_zero] at hmoves
    rw [haccepts hheld]
    exact hmoves

theorem settled_settle {rejectedQty : Qty} (hplace : db.factory.HoldsInPlace)
    (h : db.settle call inspection rejectedQty = .ok db') : Settled db call db' := by
  obtain ⟨ctx, inspectionId, status, acceptedQty, rejected⟩ := call
  -- a result without releases leaves the stock and the holds as they are
  have hkept : ∀ {factory : FactoryDb} {qcStatus : GoodsReceiptQcStatus}
      {ncrs : List NonConformanceReport},
      updateReceipt db.factory inspection qcStatus = .ok factory →
      ((QualityDb.mk factory ncrs).factory.inspections = db.factory.inspections ∧
        (QualityDb.mk factory ncrs).factory.HoldsInPlace ∧ Moves db.factory factory 0) := by
    intro factory qcStatus ncrs hreceipt
    obtain ⟨hholds, hcosting, hinspections⟩ := updateReceipt_eq_ok hreceipt
    exact ⟨hinspections, fun i hold hrow => hplace i hold (hholds ▸ hrow),
      Moves.of_same (congrArg Costing.CostingDb.stock hcosting)⟩
  cases status with
  | passed =>
    simp only [settle, bind_eq_ok, pure_eq_ok] at h
    obtain ⟨released, hreleased, factory, hreceipt, rfl⟩ := h
    exact settled_release hplace id hreleased hreceipt
  | conditionallyAccepted =>
    simp only [settle, bind_eq_ok, pure_eq_ok] at h
    obtain ⟨released, hreleased, factory, hreceipt, rfl⟩ := h
    exact settled_release hplace id hreleased hreceipt
  | failed =>
    simp only [settle, bind_eq_ok, pure_eq_ok] at h
    obtain ⟨factory, hreceipt, rfl⟩ := h
    obtain ⟨hinspections, hholds, hmoves⟩ := hkept hreceipt
    refine ⟨hinspections, hholds, fun hnone _ => ?_⟩
    have hzero : acceptedQty = 0 := hnone
    rw [hzero]
    exact hmoves
  | pending =>
    simp only [settle, bind_eq_ok, pure_eq_ok] at h
    obtain ⟨factory, hreceipt, rfl⟩ := h
    obtain ⟨hinspections, hholds, -⟩ := hkept hreceipt
    refine ⟨hinspections, hholds, fun _ hfinal => ?_⟩
    simp [InspectionStatus.releases] at hfinal
  | inProgress =>
    simp only [settle, bind_eq_ok, pure_eq_ok] at h
    obtain ⟨factory, hreceipt, rfl⟩ := h
    obtain ⟨hinspections, hholds, -⟩ := hkept hreceipt
    refine ⟨hinspections, hholds, fun _ hfinal => ?_⟩
    simp [InspectionStatus.releases] at hfinal

/-- What a call that does not throw did. -/
structure Completed (db : QualityDb) (call : CompletionCall) (inspection : QualityInspection)
    (db' : QualityDb) : Prop where
  found : lookup QualityInspection.id db.factory.inspections call.inspectionId = some inspection
  unfinished : inspection.status ≠ .passed ∧ inspection.status ≠ .failed
  result : ∃ acceptedQty rejectedQty, Column.store call.acceptedQty = some acceptedQty ∧
    db'.factory.inspections = upsert QualityInspection.id db.factory.inspections
      { inspection with
        status := call.status
        acceptedQty := acceptedQty
        rejectedQty := rejectedQty }
  holdsInPlace : db'.factory.HoldsInPlace
  moves : db.AcceptsHeld call → call.status.releases = true ∨ call.status = .failed →
    Moves db.factory db'.factory call.acceptedQty

theorem completed_of_completeInspection (hplace : db.factory.HoldsInPlace)
    (h : db.completeInspection call = .ok db') :
    ∃ inspection, Completed db call inspection db' := by
  simp only [completeInspection, bind_eq_ok, found_eq_ok, throwWhen_eq_ok, not_or,
    Costing.mapError_eq_ok, Manufacturing.columnOf_eq_ok] at h
  obtain ⟨inspection, hfound, _, hunfinished, _, -, acceptedQty, haccepted, rejectedQty, -, h⟩ := h
  have hsettled := settled_settle (by exact hplace) h
  refine ⟨inspection, hfound, hunfinished, ⟨acceptedQty, rejectedQty, haccepted,
    hsettled.inspections⟩, hsettled.holdsInPlace, fun haccepts hfinal => ?_⟩
  have hmoves := hsettled.moves haccepts hfinal
  exact ⟨hmoves.released, hmoves.quarantine, hmoves.free⟩

/-- The inspection has one of the three results. -/
def Finished (db : QualityDb) (inspectionId : Id) : Prop :=
  ∃ inspection : QualityInspection,
    lookup QualityInspection.id db.factory.inspections inspectionId = some inspection ∧
      (inspection.status.releases = true ∨ inspection.status = .failed)

theorem holdsInPlace_next (hplace : db.factory.HoldsInPlace) (call : CompletionCall) :
    (db.next call).factory.HoldsInPlace := by
  unfold next
  cases h : db.completeInspection call with
  | error e => exact hplace
  | ok db' =>
    obtain ⟨inspection, hcompleted⟩ := completed_of_completeInspection hplace h
    exact hcompleted.holdsInPlace

theorem onScale_heldBy (db : QualityDb) (inspectionId : Id) :
    OnScale 4 (db.heldBy inspectionId) := by
  unfold heldBy
  induction db.factory.holds.filter (isHeldBy inspectionId) with
  | nil => exact OnScale.zero
  | cons hold holds ih =>
    rw [List.map_cons, List.sum_cons]
    exact hold.heldQty.onScale_value.abs.add ih

theorem AcceptsHeld.onScale (h : db.AcceptsHeld call)
    (hfinal : call.status.releases = true ∨ call.status = .failed) :
    OnScale 4 call.acceptedQty := by
  obtain ⟨ctx, inspectionId, status, acceptedQty, rejectedQty⟩ := call
  cases status with
  | passed =>
    have hheld : acceptedQty = db.heldBy inspectionId := h
    rw [hheld]
    exact onScale_heldBy db inspectionId
  | conditionallyAccepted =>
    have hheld : acceptedQty = db.heldBy inspectionId := h
    rw [hheld]
    exact onScale_heldBy db inspectionId
  | failed =>
    have hnone : acceptedQty = 0 := h
    rw [hnone]
    exact OnScale.zero
  | pending => simp [InspectionStatus.releases] at hfinal
  | inProgress => simp [InspectionStatus.releases] at hfinal

theorem next_of_completes (hplace : db.factory.HoldsInPlace) (hgood : db.Completable call)
    (h : db.completes call = true) :
    (db.next call).Finished call.inspectionId ∧
      ∃ inspection : QualityInspection,
        lookup QualityInspection.id (db.next call).factory.inspections call.inspectionId =
          some inspection ∧
        Moves db.factory (db.next call).factory inspection.acceptedQty.value := by
  simp only [completes, Bool.and_eq_true, Bool.or_eq_true, decide_eq_true_eq] at h
  obtain ⟨hfinal, hok⟩ := h
  cases hcall : db.completeInspection call with
  | error e =>
    rw [hcall] at hok
    cases hok
  | ok db' =>
    obtain ⟨inspection, hcompleted⟩ := completed_of_completeInspection hplace hcall
    obtain ⟨acceptedQty, rejectedQty, haccepted, hinspections⟩ := hcompleted.result
    have hnext : db.next call = db' := by rw [next, hcall, transaction_ok]
    have hid : inspection.id = call.inspectionId := (lookup_eq_some hcompleted.found).2
    have hfound := hinspections ▸ lookup_upsert db.factory.inspections
      { inspection with
        status := call.status
        acceptedQty := acceptedQty
        rejectedQty := rejectedQty } call.inspectionId
    rw [if_pos hid] at hfound
    rw [hnext]
    refine ⟨⟨_, hfound, hfinal⟩, _, hfound, ?_⟩
    have haccepts := (hgood inspection hcompleted.found).2 hcompleted.unfinished
    rw [Column.value_of_store haccepted (haccepts.onScale hfinal)]
    exact hcompleted.moves haccepts hfinal

theorem finished_next {inspectionId : Id} (hplace : db.factory.HoldsInPlace)
    (hgood : db.Completable call) (hfinished : db.Finished inspectionId) :
    (db.next call).Finished inspectionId ∧
      (call.inspectionId = inspectionId → db.completes call = false) := by
  obtain ⟨finished, hfinishedFound, hresult⟩ := hfinished
  cases hcall : db.completeInspection call with
  | error e =>
    have hnext : db.next call = db := by rw [next, hcall, transaction_error]
    rw [hnext]
    refine ⟨⟨finished, hfinishedFound, hresult⟩, fun _ => ?_⟩
    rw [completes, hcall]
    exact Bool.and_false _
  | ok db' =>
    obtain ⟨inspection, hcompleted⟩ := completed_of_completeInspection hplace hcall
    have hother : call.inspectionId ≠ inspectionId := by
      rintro rfl
      obtain rfl := Option.some.inj (hcompleted.found.symm.trans hfinishedFound)
      have hconditional := (hgood inspection hcompleted.found).1
      obtain ⟨hpassed, hfailed⟩ := hcompleted.unfinished
      simp [InspectionStatus.releases, hpassed, hfailed, hconditional] at hresult
    obtain ⟨acceptedQty, rejectedQty, -, hinspections⟩ := hcompleted.result
    have hid : inspection.id = call.inspectionId := (lookup_eq_some hcompleted.found).2
    have hnext : db.next call = db' := by rw [next, hcall, transaction_ok]
    refine ⟨⟨finished, ?_, hresult⟩, fun hsame => absurd hsame hother⟩
    rw [hnext, hinspections, lookup_upsert, if_neg fun h => hother (hid.symm.trans h)]
    exact hfinishedFound

/-- What is finished stays finished. -/
def Keeps (db db' : QualityDb) : Prop :=
  db.factory.HoldsInPlace →
    db'.factory.HoldsInPlace ∧ ∀ inspectionId, db.Finished inspectionId → db'.Finished inspectionId

theorem Keeps.refl (db : QualityDb) : Keeps db db := fun hplace => ⟨hplace, fun _ => id⟩

theorem Keeps.trans {a b c : QualityDb} (hfirst : Keeps a b) (hrest : Keeps b c) : Keeps a c := by
  intro hplace
  obtain ⟨hplace', hfinished⟩ := hfirst hplace
  obtain ⟨hplace'', hfinished'⟩ := hrest hplace'
  exact ⟨hplace'', fun id h => hfinished' id (hfinished id h)⟩

theorem keeps_next (hgood : db.Completable call) : Keeps db (db.next call) := fun hplace =>
  ⟨holdsInPlace_next hplace call, fun _ hfinished =>
    (finished_next hplace hgood hfinished).1⟩

end QualityDb

/-! ### Runs -/

theorem completionLaw_of_completable {start : QualityDb} {calls : List CompletionCall}
    (hstart : start.factory.HoldsInPlace)
    (h : Always QualityDb.next QualityDb.Completable start calls) : CompletionLaw start calls := by
  have hplace : ∀ k, (stateAt QualityDb.next start calls k).factory.HoldsInPlace :=
    h.invariant_at (I := fun db : QualityDb => db.factory.HoldsInPlace)
      (fun _ call hdb _ => QualityDb.holdsInPlace_next hdb call) hstart
  constructor
  · intro i j c c' hij hc hc' hsame hcompletes
    have hfinished : (stateAt QualityDb.next start calls (i + 1)).Finished c.inspectionId := by
      rw [stateAt_succ QualityDb.next start hc]
      exact (QualityDb.next_of_completes (hplace i) (h.at hc) hcompletes).1
    obtain ⟨-, hstill⟩ := h.related QualityDb.Keeps.refl QualityDb.Keeps.trans
      (fun db call hgood => QualityDb.keeps_next hgood) (Nat.succ_le_of_lt hij) (hplace (i + 1))
    exact (QualityDb.finished_next (hplace j) (h.at hc') (hstill _ hfinished)).2 hsame.symm
  · intro k c hc hcompletes
    rw [stateAt_succ QualityDb.next start hc]
    exact (QualityDb.next_of_completes (hplace k) (h.at hc) hcompletes).2

/-! ### Inspections of ten pieces -/

def inspectionOf (id : Id) : QualityInspection where
  id := id
  productId := 7
  locationId := 3
  inspectionType := .incoming
  inspectedQty := Manufacturing.pieces 10

/-- Thirty pieces were received, and ten put on hold for each of three inspections. -/
def threeInspections : QualityDb where
  factory :=
    let hold : Inventory.StockCall :=
      .placeHold { key := ⟨1, 7, 3⟩, quantity := 10, holdReason := "QC_PENDING" }
    let w := run Inventory.WarehouseDb.call (.opened [])
      [.record { key := ⟨1, 7, 3⟩, entryType := .ledgerReceipt, quantity := 30 } rfl,
        hold, hold, hold]
    { Manufacturing.plainFactory.withWarehouse
        { w with holds := w.holds.map fun hold => { hold with inspectionId := some hold.id } } with
      inspections := [inspectionOf 0, inspectionOf 1, inspectionOf 2] }

def completionOf (id : Id) (status : InspectionStatus) (acceptedQty rejectedQty : Decimal) :
    CompletionCall :=
  ⟨Manufacturing.plainContext, id, status, acceptedQty, rejectedQty⟩

def threeResults : List CompletionCall :=
  [completionOf 0 .passed 10 0, completionOf 1 .failed 0 10,
    completionOf 2 .conditionallyAccepted 10 0, completionOf 1 .passed 10 0]

theorem completionLaw_threeResults :
    ((run QualityDb.next threeInspections threeResults).factory.holds.map
        InventoryHold.status) = [.released, .active, .released] ∧
      CompletionLaw threeInspections threeResults :=
  ⟨by decide +kernel, completionLaw_of_completable (by decide +kernel) (by decide +kernel)⟩

def sixAccepted : List CompletionCall := [completionOf 0 .passed 6 4]

/-- The hold of ten is released whole. -/
theorem not_completionLaw_sixAccepted : ¬CompletionLaw threeInspections sixAccepted := by
  intro h
  obtain ⟨inspection, hfound, hmoves⟩ := h.moves 0 _ rfl (by decide +kernel)
  have hreleased := hmoves.released
  have hten : releasedStock (stateAt QualityDb.next threeInspections sixAccepted 1).factory =
      releasedStock (stateAt QualityDb.next threeInspections sixAccepted 0).factory + 10 := by
    decide +kernel
  have hsix : ∀ inspection ∈ lookup QualityInspection.id
      (stateAt QualityDb.next threeInspections sixAccepted 1).factory.inspections 0,
      inspection.acceptedQty.value = 6 := by
    decide +kernel
  rw [hten, hsix inspection hfound] at hreleased
  norm_num at hreleased

end Forecast.Quality
