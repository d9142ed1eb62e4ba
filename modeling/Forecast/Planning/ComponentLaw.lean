import Forecast.Lib.AcyclicRelation
import Forecast.Lib.Runs
import Forecast.Planning.PlannedOrders

/-!
# Products that are made of themselves

No bill lists its own product and no product leads back to itself through active bills,
as long as the components that are added, changed and copied and the bills that become
active are checked as those of a new bill are.
-/

open KeyedTable DecimalColumn Transactions Runs Relation AcyclicRelation

namespace Forecast.Planning

namespace PlanningDb

/-- A component of an active bill of the product. -/
def Uses (db : PlanningDb) (p c : Id) : Prop :=
  ∃ bom ∈ db.boms, bom.status = .active ∧ bom.parentProductId = p ∧
    ∃ component ∈ db.bomComponents, component.bomId = bom.id ∧ component.componentProductId = c

/-- The product is not the bill's own and does not lead back to it when the bill is active. -/
def MayUse (db : PlanningDb) (bomId c : Id) : Prop :=
  ∀ bom ∈ lookup BillOfMaterial.id db.boms bomId, c ≠ bom.parentProductId ∧
    (bom.status = .active → ¬ReflTransGen db.Uses c bom.parentProductId)

/-- No component of the bill leads back to the bill's product. -/
def MayActivate (db : PlanningDb) (bomId : Id) : Prop :=
  ∀ bom ∈ lookup BillOfMaterial.id db.boms bomId, ∀ component ∈ db.bomComponents,
    component.bomId = bom.id →
      ¬ReflTransGen db.Uses component.componentProductId bom.parentProductId

def KeepsApart (db : PlanningDb) : PlanningAction → Prop
  | .addBOMComponent bomId dto => db.MayUse bomId dto.componentProductId
  | .updateBOMComponent componentId dto =>
    ∀ component ∈ lookup BOMComponent.id db.bomComponents componentId,
      ∀ c ∈ dto.componentProductId, db.MayUse component.bomId c
  | .copyBOM bomId dto => ∀ target ∈ dto.targetProductId, dto.copyComponents ≠ some false →
      ∀ component ∈ db.componentsOf bomId, component.componentProductId ≠ target
  | .updateBOM bomId dto => dto.status = some .active → db.MayActivate bomId
  | .updateBOMStatus bomId status => status = .active → db.MayActivate bomId
  | _ => True

structure ComponentsApart (db : PlanningDb) : Prop where
  keyed : (db.boms.map BillOfMaterial.id).Nodup
  /-- The foreign key of the components. -/
  owned : ∀ component ∈ db.bomComponents, component.bomId ∈ db.boms.map BillOfMaterial.id
  direct : ∀ bom ∈ db.boms, ∀ component ∈ db.bomComponents, component.bomId = bom.id →
    component.componentProductId ≠ bom.parentProductId
  acyclic : Acyclic db.Uses

variable {db db' : PlanningDb} {a : PlanningAction}

namespace ComponentsApart

/-- Every row that is left was there, perhaps with other figures. -/
theorem of_old_rows (h : db.ComponentsApart) {rows : List BOMComponent}
    (hrows : ∀ row ∈ rows, ∃ old ∈ db.bomComponents,
      old.bomId = row.bomId ∧ old.componentProductId = row.componentProductId) :
    ComponentsApart { db with bomComponents := rows } := by
  refine ⟨h.keyed, fun row hrow => ?_, fun bom hbom row hrow hof => ?_, h.acyclic.mono ?_⟩
  · obtain ⟨old, hold, hbomId, -⟩ := hrows row hrow
    rw [← hbomId]
    exact h.owned old hold
  · obtain ⟨old, hold, hbomId, hproduct⟩ := hrows row hrow
    rw [← hproduct]
    exact h.direct bom hbom old hold (hbomId.trans hof)
  · rintro p c ⟨bom, hbom, hactive, hp, row, hrow, hof, hc⟩
    obtain ⟨old, hold, hbomId, hproduct⟩ := hrows row hrow
    exact ⟨bom, hbom, hactive, hp, old, hold, hbomId.trans hof, hproduct.trans hc⟩

theorem of_new_row (h : db.ComponentsApart) {rows : List BOMComponent} {bom : BillOfMaterial}
    {c : Id} (hbom : bom ∈ db.boms) (hmay : db.MayUse bom.id c)
    (hrows : ∀ row ∈ rows, (∃ old ∈ db.bomComponents,
        old.bomId = row.bomId ∧ old.componentProductId = row.componentProductId) ∨
      (row.bomId = bom.id ∧ row.componentProductId = c)) :
    ComponentsApart { db with bomComponents := rows } := by
  have hlookup : ∀ bom' ∈ db.boms, bom'.id = bom.id → bom' = bom := by
    intro bom' hbom' hid
    have hbefore := lookup_of_mem h.keyed hbom
    rw [← hid, lookup_of_mem h.keyed hbom'] at hbefore
    exact Option.some.inj hbefore
  obtain ⟨hne, hback⟩ := hmay bom (lookup_of_mem h.keyed hbom)
  refine ⟨h.keyed, fun row hrow => ?_, fun bom' hbom' row hrow hof => ?_,
    h.acyclic.of_edges (p := bom.parentProductId)
      (S := fun c' => c' = c ∧ bom.status = .active) ?_ ?_⟩
  · rcases hrows row hrow with ⟨old, hold, hbomId, -⟩ | ⟨hbomId, -⟩
    · rw [← hbomId]
      exact h.owned old hold
    · rw [hbomId]
      exact List.mem_map_of_mem hbom
  · rcases hrows row hrow with ⟨old, hold, hbomId, hproduct⟩ | ⟨hbomId, hproduct⟩
    · rw [← hproduct]
      exact h.direct bom' hbom' old hold (hbomId.trans hof)
    · rw [hlookup bom' hbom' (hof.symm.trans hbomId), hproduct]
      exact hne
  · rintro p c' ⟨bom', hbom', hactive, hp, row, hrow, hof, hc⟩
    rcases hrows row hrow with ⟨old, hold, hbomId, hproduct⟩ | ⟨hbomId, hproduct⟩
    · exact Or.inl ⟨bom', hbom', hactive, hp, old, hold, hbomId.trans hof, hproduct.trans hc⟩
    · obtain rfl := hlookup bom' hbom' (hof.symm.trans hbomId)
      exact Or.inr ⟨hp.symm, hc.symm.trans hproduct, hactive⟩
  · rintro c' ⟨rfl, hactive⟩
    exact hback hactive

theorem newBill (h : db.ComponentsApart) {parentProductId : Id} {version : String}
    {baseQuantity : Inventory.Qty} {rows : List BOMComponent}
    (hrows : ∀ row ∈ rows, row.bomId = freshId (db.boms.map BillOfMaterial.id) ∧
      row.componentProductId ≠ parentProductId) :
    ComponentsApart
      { db with
        boms := db.boms ++ [⟨freshId (db.boms.map BillOfMaterial.id), parentProductId, version,
          .draft, baseQuantity⟩]
        bomComponents := db.bomComponents ++ rows } := by
  set id := freshId (db.boms.map BillOfMaterial.id) with hid
  have hfresh : id ∉ db.boms.map BillOfMaterial.id := freshId_not_mem _
  refine ⟨?_, fun row hrow => ?_, fun bom hbom row hrow hof => ?_, h.acyclic.mono ?_⟩
  · rw [List.map_append]
    refine h.keyed.append (List.nodup_singleton _) fun k hk hnew => ?_
    rw [List.map_singleton, List.mem_singleton] at hnew
    subst hnew
    exact hfresh hk
  · rw [List.map_append, List.mem_append]
    rcases List.mem_append.1 hrow with hold | hnew
    · exact Or.inl (h.owned row hold)
    · exact Or.inr (by simp [(hrows row hnew).1])
  · rcases List.mem_append.1 hbom with hbom | hbom <;> rcases List.mem_append.1 hrow with hold | hnew
    · exact h.direct bom hbom row hold hof
    · exact absurd (hof.symm.trans (hrows row hnew).1 ▸ List.mem_map_of_mem hbom) hfresh
    · rw [List.mem_singleton] at hbom
      subst hbom
      have howned := h.owned row hold
      rw [hof] at howned
      exact absurd howned hfresh
    · rw [List.mem_singleton] at hbom
      subst hbom
      exact (hrows row hnew).2
  · rintro p c ⟨bom, hbom, hactive, hp, row, hrow, hof, hc⟩
    rcases List.mem_append.1 hbom with hbom | hbom
    · rcases List.mem_append.1 hrow with hold | hnew
      · exact ⟨bom, hbom, hactive, hp, row, hold, hof, hc⟩
      · exact absurd (hof.symm.trans (hrows row hnew).1 ▸ List.mem_map_of_mem hbom) hfresh
    · rw [List.mem_singleton] at hbom
      subst hbom
      cases hactive

theorem writeBOM (h : db.ComponentsApart) {bom bom' : BillOfMaterial} (hbom : bom ∈ db.boms)
    (hid : bom'.id = bom.id) (hparent : bom'.parentProductId = bom.parentProductId)
    (hactive : bom'.status = .active → bom.status = .active ∨ db.MayActivate bom.id) :
    (db.writeBOM bom').ComponentsApart := by
  refine ⟨nodup_keys_upsert h.keyed, fun row hrow => ?_, fun bom₁ hbom₁ row hrow hof => ?_,
    h.acyclic.of_edges (p := bom.parentProductId)
      (S := fun c => ¬ReflTransGen db.Uses c bom.parentProductId) ?_ fun c hc => hc⟩
  · exact mem_keys_upsert.2 (Or.inl (h.owned row hrow))
  · rcases upsert_subset hbom₁ with rfl | hold
    · rw [hparent]
      exact h.direct bom hbom row hrow (hof.trans hid)
    · exact h.direct bom₁ hold row hrow hof
  · rintro p c ⟨bom₁, hbom₁, hstatus, hp, row, hrow, hof, hc⟩
    rcases upsert_subset hbom₁ with rfl | hold
    · rcases hactive hstatus with hbefore | hmay
      · exact Or.inl ⟨bom, hbom, hbefore, hparent.symm.trans hp, row, hrow, hof.trans hid, hc⟩
      · refine Or.inr ⟨hp.symm.trans hparent, ?_⟩
        rw [← hc]
        exact hmay bom (lookup_of_mem h.keyed hbom) row hrow (hof.trans hid)
    · exact Or.inl ⟨bom₁, hold, hstatus, hp, row, hrow, hof, hc⟩

theorem deleteBOM (h : db.ComponentsApart) (bomId : Id) :
    ComponentsApart
      { db with
        boms := db.boms.filter fun b => b.id ≠ bomId
        bomComponents := db.bomComponents.filter fun c => c.bomId ≠ bomId } := by
  refine ⟨h.keyed.sublist (List.filter_sublist.map _), fun row hrow => ?_,
    fun bom hbom row hrow hof => ?_, h.acyclic.mono ?_⟩
  · obtain ⟨hrow, hne⟩ := List.mem_filter.1 hrow
    obtain ⟨bom, hbom, hid⟩ := List.mem_map.1 (h.owned row hrow)
    exact List.mem_map.2 ⟨bom, List.mem_filter.2 ⟨hbom, hid ▸ hne⟩, hid⟩
  · exact h.direct bom (List.mem_filter.1 hbom).1 row (List.mem_filter.1 hrow).1 hof
  · rintro p c ⟨bom, hbom, hactive, hp, row, hrow, hof, hc⟩
    exact ⟨bom, (List.mem_filter.1 hbom).1, hactive, hp, row, (List.mem_filter.1 hrow).1, hof, hc⟩

theorem of_eq (h : db.ComponentsApart) (hboms : db'.boms = db.boms)
    (hcomponents : db'.bomComponents = db.bomComponents) : db'.ComponentsApart := by
  obtain ⟨products, boms, bomComponents, plannedOrders⟩ := db
  obtain ⟨products', boms', bomComponents', plannedOrders'⟩ := db'
  cases hboms
  cases hcomponents
  exact ⟨h.keyed, h.owned, h.direct, h.acyclic⟩

end ComponentsApart

/-! ### One operation -/

theorem bom_of_ok {bomId : Id} {bom : BillOfMaterial} (h : db.bom bomId = .ok bom) :
    bom ∈ db.boms ∧ bom.id = bomId := lookup_eq_some (found_eq_ok.1 h)

theorem mem_newComponents {bomId : Id} {components : List ComponentParams}
    {rows : List BOMComponent} (h : db.newComponents bomId components = .ok rows) :
    ∀ row ∈ rows, row.bomId = bomId ∧
      row.componentProductId ∈ components.map ComponentParams.componentProductId := by
  intro row hrow
  obtain ⟨c, hc, hok⟩ := exists_of_mapM_eq_ok h hrow
  simp only [bind_eq_ok, pure_eq_ok] at hok
  obtain ⟨quantity, -, scrapPercent, -, rfl⟩ := hok
  exact ⟨rfl, List.mem_map_of_mem (List.fst_mem_of_mem_zipIdx hc)⟩

theorem createBOM_spec (h : db.ComponentsApart) {dto : CreateBOMParams}
    (hok : db.createBOM dto = .ok db') : db'.ComponentsApart := by
  simp only [createBOM, bind_eq_ok] at hok
  obtain ⟨-, -, -, -, hok⟩ := hok
  split_ifs at hok with hcomponents <;>
    simp only [bind_eq_ok, pure_eq_ok, checkComponents, throwWhen_eq_ok] at hok
  · obtain ⟨-, ⟨-, hself, -⟩, quantity, -, rows, hrows, rfl⟩ := hok
    refine h.newBill fun row hrow => ?_
    obtain ⟨hbomId, hmem⟩ := mem_newComponents hrows row hrow
    refine ⟨hbomId, fun heq => ?_⟩
    rw [heq] at hmem
    exact hself hmem
  · obtain ⟨quantity, -, rows, hrows, rfl⟩ := hok
    refine h.newBill fun row hrow => ?_
    have hmem := (mem_newComponents hrows row hrow).2
    rw [not_not.1 hcomponents] at hmem
    cases hmem

theorem body_componentsApart (h : db.ComponentsApart) (hkeeps : db.KeepsApart a)
    (hok : db.body a = .ok db') : db'.ComponentsApart := by
  cases a with
  | createBOM dto => exact createBOM_spec h hok
  | createBOMFromApi dto =>
    simp only [body, createBOMFromApi, bind_eq_ok] at hok
    obtain ⟨productId, -, -, -, hok⟩ := hok
    exact createBOM_spec h hok
  | updateBOM bomId dto =>
    simp only [body, updateBOM, bind_eq_ok, pure_eq_ok] at hok
    obtain ⟨bom, hbom, -, -, quantity, -, rfl⟩ := hok
    obtain ⟨hmem, rfl⟩ := bom_of_ok hbom
    refine h.writeBOM hmem rfl rfl fun hactive => ?_
    cases hstatus : dto.status with
    | none =>
      simp only [hstatus, Option.getD_none] at hactive
      exact Or.inl hactive
    | some status =>
      simp only [hstatus, Option.getD_some] at hactive
      subst hactive
      exact Or.inr (hkeeps hstatus)
  | updateBOMStatus id status =>
    simp only [body, updateBOMStatus, bind_eq_ok, pure_eq_ok] at hok
    obtain ⟨bom, hbom, -, -, rfl⟩ := hok
    obtain ⟨hmem, rfl⟩ := bom_of_ok hbom
    exact h.writeBOM hmem rfl rfl fun hactive => Or.inr (hkeeps hactive)
  | copyBOM bomId dto =>
    simp only [body, copyBOM, bind_eq_ok, pure_eq_ok] at hok
    obtain ⟨bom, hbom, -, -, -, -, rfl⟩ := hok
    obtain ⟨hmem, rfl⟩ := bom_of_ok hbom
    refine h.newBill fun row hrow => ?_
    obtain ⟨c, hc, rfl⟩ := List.mem_map.1 hrow
    refine ⟨rfl, ?_⟩
    have hcopied := List.fst_mem_of_mem_zipIdx hc
    split_ifs at hcopied with hcopy
    · cases hcopied
    · cases htarget : dto.targetProductId with
      | none =>
        obtain ⟨hcomponent, hof⟩ := List.mem_filter.1 hcopied
        exact h.direct bom hmem c.1 hcomponent (of_decide_eq_true hof)
      | some target => exact hkeeps target htarget hcopy c.1 hcopied
  | deleteBOM bomId =>
    simp only [body, PlanningDb.deleteBOM, bind_eq_ok, pure_eq_ok] at hok
    obtain ⟨bom, -, rfl⟩ := hok
    exact h.deleteBOM bom.id
  | addBOMComponent bomId dto =>
    simp only [body, addBOMComponent, bind_eq_ok, pure_eq_ok] at hok
    obtain ⟨bom, hbom, -, -, amount, -, quantity, -, scrapPercent, -, rfl⟩ := hok
    obtain ⟨hmem, rfl⟩ := bom_of_ok hbom
    refine h.of_new_row hmem hkeeps fun row hrow => ?_
    rcases List.mem_append.1 hrow with hold | hnew
    · exact Or.inl ⟨row, hold, rfl, rfl⟩
    · rw [List.mem_singleton] at hnew
      subst hnew
      exact Or.inr ⟨rfl, rfl⟩
  | updateBOMComponent componentId dto =>
    simp only [body, updateBOMComponent, bind_eq_ok, pure_eq_ok, found_eq_ok] at hok
    obtain ⟨component, hfound, -, -, quantity, -, scrapPercent, -, rfl⟩ := hok
    have hcomponent := (lookup_eq_some hfound).1
    cases hproduct : dto.componentProductId with
    | none =>
      refine h.of_old_rows fun row hrow => ?_
      rcases upsert_subset hrow with rfl | hold
      · exact ⟨component, hcomponent, rfl, rfl⟩
      · exact ⟨row, hold, rfl, rfl⟩
    | some c =>
      obtain ⟨bom, hbom, hid⟩ := List.mem_map.1 (h.owned component hcomponent)
      have hmay := hkeeps component hfound c hproduct
      rw [← hid] at hmay
      refine h.of_new_row hbom hmay fun row hrow => ?_
      rcases upsert_subset hrow with rfl | hold
      · exact Or.inr ⟨hid.symm, rfl⟩
      · exact Or.inl ⟨row, hold, rfl, rfl⟩
  | deleteBOMComponent componentId =>
    simp only [body, deleteBOMComponent, bind_eq_ok, pure_eq_ok] at hok
    obtain ⟨component, -, rfl⟩ := hok
    exact h.of_old_rows fun row hrow => ⟨row, (List.mem_filter.1 hrow).1, rfl, rfl⟩
  | createPlannedOrder dto =>
    simp only [body, createPlannedOrder, bind_eq_ok, pure_eq_ok] at hok
    obtain ⟨-, -, quantity, -, rfl⟩ := hok
    exact h.of_eq rfl rfl
  | updatePlannedOrder orderId dto =>
    simp only [body, updatePlannedOrder, bind_eq_ok, pure_eq_ok] at hok
    obtain ⟨order, -, quantity, -, rfl⟩ := hok
    exact h.of_eq rfl rfl
  | firmPlannedOrder orderId =>
    simp only [body, firmPlannedOrder, bind_eq_ok, pure_eq_ok] at hok
    obtain ⟨order, -, -, -, rfl⟩ := hok
    exact h.of_eq rfl rfl
  | releasePlannedOrder orderId =>
    simp only [body, releasePlannedOrder, bind_eq_ok, pure_eq_ok] at hok
    obtain ⟨order, -, -, -, rfl⟩ := hok
    exact h.of_eq rfl rfl
  | cancelPlannedOrder orderId =>
    simp only [body, cancelPlannedOrder, bind_eq_ok, pure_eq_ok] at hok
    obtain ⟨order, -, rfl⟩ := hok
    exact h.of_eq rfl rfl
  | bulkUpdatePlannedOrders orderIds action =>
    simp only [body, bulkUpdatePlannedOrders, bind_eq_ok, pure_eq_ok] at hok
    obtain ⟨-, -, status, -, rfl⟩ := hok
    exact h.of_eq rfl rfl
  | convertPlannedOrdersToPurchaseOrders orderIds =>
    simp only [body, convertPlannedOrdersToPurchaseOrders, bind_eq_ok, pure_eq_ok] at hok
    obtain ⟨-, -, rfl⟩ := hok
    exact h.of_eq rfl rfl
  | convertPlannedOrdersToWorkOrders orderIds =>
    simp only [body, convertPlannedOrdersToWorkOrders, bind_eq_ok, pure_eq_ok] at hok
    obtain ⟨-, -, rfl⟩ := hok
    exact h.of_eq rfl rfl

theorem next_componentsApart (h : db.ComponentsApart) (hkeeps : db.KeepsApart a) :
    (db.next a).ComponentsApart := by
  unfold next
  cases hbody : db.body a with
  | error e => exact h
  | ok db' => exact body_componentsApart h hkeeps hbody

theorem componentsApart_noBills (products : List Id) (plannedOrders : List PlannedOrder) :
    ComponentsApart ⟨products, [], [], plannedOrders⟩ where
  keyed := List.nodup_nil
  owned := by simp
  direct := by simp
  acyclic := acyclic_of_forall_not fun p c h => by simp [Uses] at h

end PlanningDb

open PlanningDb

/-- The bills along a run of operations. -/
structure ComponentLaw (start : PlanningDb) (actions : List PlanningAction) : Prop where
  direct : ∀ k, ∀ bom ∈ (stateAt next start actions k).boms,
    ∀ component ∈ (stateAt next start actions k).bomComponents, component.bomId = bom.id →
      component.componentProductId ≠ bom.parentProductId
  acyclic : ∀ k, Acyclic (stateAt next start actions k).Uses

theorem componentLaw_of_keepsApart (products : List Id) (plannedOrders : List PlannedOrder)
    (actions : List PlanningAction)
    (h : Always next KeepsApart ⟨products, [], [], plannedOrders⟩ actions) :
    ComponentLaw ⟨products, [], [], plannedOrders⟩ actions := by
  have hapart : ∀ k, (stateAt next ⟨products, [], [], plannedOrders⟩ actions k).ComponentsApart :=
    fun k => h.invariant_at (I := ComponentsApart)
      (fun _ _ happ hkeeps => next_componentsApart happ hkeeps)
      (componentsApart_noBills products plannedOrders) k
  exact ⟨fun k => (hapart k).direct, fun k => (hapart k).acyclic⟩

def activeBill : List PlanningAction :=
  [.createBOM { parentProductId := 1, components := some [⟨2, 3, none⟩] },
    .updateBOMStatus 1 .active]

theorem componentLaw_activeBill : ComponentLaw ⟨[1, 2], [], [], []⟩ activeBill := by
  refine componentLaw_of_keepsApart _ _ _ ⟨trivial, fun _ bom hbom component hcomponent hof => ?_,
    trivial⟩
  clear hof
  -- no bill is active yet
  have hproduct : component.componentProductId = 2 := by
    revert component
    decide +kernel
  have hparent : bom.parentProductId = 1 := by
    revert bom
    decide +kernel
  rw [hproduct, hparent]
  refine not_reflTransGen_of_forall_not ?_ (by decide)
  rintro c ⟨bom', hbom', hactive, -⟩
  revert bom'
  decide +kernel

/-- A component is added that a new bill would refuse. -/
theorem not_componentLaw_addBOMComponent :
    ¬ComponentLaw ⟨[1, 2], [], [], []⟩ (activeBill ++ [.addBOMComponent 1 ⟨1, some 1, none⟩]) := by
  intro h
  have hdirect := h.direct 3
  revert hdirect
  decide +kernel

end Forecast.Planning
