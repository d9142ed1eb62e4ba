import Forecast.Planning.Conversions
import Forecast.Planning.StatusLaw

/-!
# One document for each planned order

No planned order is turned into two lines or work orders, as long as no conversion reads
an order that another one is still working on and none ends between the creation of an
order and the change of status.
-/

open KeyedTable ThreadPool Runs Transactions

namespace Forecast.Planning

namespace ConversionState

def converted (s : ConversionState) : List Id :=
  (s.purchaseOrders.flatMap fun order => order.lines.map PurchaseOrderLine.plannedOrderId) ++
    s.workOrders.map WorkOrder.plannedOrderId

end ConversionState

namespace ConversionThread

def creating : ConversionThread → List Id
  | readPrices _ orders groups =>
    (orders ++ groups.flatMap Prod.snd).map PlannedOrder.id
  | createPurchase _ orders _ groups => (orders ++ groups.flatMap Prod.snd).map PlannedOrder.id
  | firmOrders _ groups => (groups.flatMap Prod.snd).map PlannedOrder.id
  | readPolicy order orders => (order :: orders).map PlannedOrder.id
  | createWork order _ orders => (order :: orders).map PlannedOrder.id
  | firmOrder _ orders => orders.map PlannedOrder.id
  | _ => []

def firming : ConversionThread → List Id
  | firmOrders orders _ => orders.map PlannedOrder.id
  | firmOrder order _ => [order.id]
  | _ => []

def selects (s : ConversionState) : ConversionThread → List Id
  | readPurchase plannedOrderIds =>
    (s.db.convertible .purchase plannedOrderIds).map PlannedOrder.id
  | readProduction plannedOrderIds =>
    (s.db.convertible .production plannedOrderIds).map PlannedOrder.id
  | _ => []

def pending (t : ConversionThread) : List Id := t.creating ++ t.firming

end ConversionThread

/-- No conversion reads what another works on, and none ends before it has set firm what it
converted. -/
def ConvertsApart (pool : ConversionPool) : ConversionAction → Prop
  | .step i .none => ∀ t ∈ pool.threads[i]?, ∀ id ∈ t.selects pool.shared,
      ∀ u ∈ pool.threads, id ∉ u.pending
  | .step i .crash => ∀ t ∈ pool.threads[i]?, t.firming = []
  | _ => True

instance (pool : ConversionPool) : DecidablePred (ConvertsApart pool)
  | .step i .none => inferInstanceAs (Decidable (∀ t ∈ pool.threads[i]?,
      ∀ id ∈ t.selects pool.shared, ∀ u ∈ pool.threads, id ∉ u.pending))
  | .step i .crash => inferInstanceAs (Decidable (∀ t ∈ pool.threads[i]?, t.firming = []))
  | .spawn _ => isTrue trivial
  | .env _ => isTrue trivial

/-! ### Groups -/

theorem mem_bySupplier {orders : List PlannedOrder} {group : Id × List PlannedOrder}
    (h : group ∈ bySupplier orders) {order : PlannedOrder} (horder : order ∈ group.2) :
    order ∈ orders ∧ order.supplierId = some group.1 := by
  obtain ⟨supplierId, -, rfl⟩ := List.mem_map.1 h
  obtain ⟨hmem, hsupplier⟩ := List.mem_filter.1 horder
  exact ⟨hmem, of_decide_eq_true hsupplier⟩

/-- Grouping repeats no order. -/
theorem nodup_bySupplier {orders : List PlannedOrder}
    (h : (orders.map PlannedOrder.id).Nodup) :
    (((bySupplier orders).flatMap Prod.snd).map PlannedOrder.id).Nodup := by
  unfold bySupplier
  have hkeys := nodup_firstOfEach_id (orders.filterMap PlannedOrder.supplierId)
  generalize firstOfEach id (orders.filterMap PlannedOrder.supplierId) = suppliers at hkeys ⊢
  induction suppliers with
  | nil => exact List.nodup_nil
  | cons supplierId suppliers ih =>
    rw [List.nodup_cons] at hkeys
    rw [List.map_cons, List.flatMap_cons, List.map_append]
    refine (h.sublist (List.filter_sublist.map _)).append (ih hkeys.2) fun id hid hrest => ?_
    obtain ⟨order, horder, rfl⟩ := List.mem_map.1 hid
    obtain ⟨order', horder', hsame⟩ := List.mem_map.1 hrest
    obtain ⟨group, hgroup, hin⟩ := List.mem_flatMap.1 horder'
    obtain ⟨supplierId', hsupplier', rfl⟩ := List.mem_map.1 hgroup
    obtain ⟨hmem, hsupplier⟩ := List.mem_filter.1 horder
    obtain ⟨hmem', hin'⟩ := List.mem_filter.1 hin
    have heq : order' = order := List.inj_on_of_nodup_map h hmem' hmem hsame
    have hname : some supplierId' = some supplierId := by
      rw [← of_decide_eq_true hin', heq, of_decide_eq_true hsupplier]
    exact hkeys.1 (Option.some.inj hname ▸ hsupplier')

theorem pending_purchasing (groups : List (Id × List PlannedOrder)) :
    (ConversionThread.purchasing groups).creating =
        (groups.flatMap Prod.snd).map PlannedOrder.id ∧
      (ConversionThread.purchasing groups).firming = [] := by
  cases groups <;> exact ⟨rfl, rfl⟩

theorem pending_producing (orders : List PlannedOrder) :
    (ConversionThread.producing orders).creating = orders.map PlannedOrder.id ∧
      (ConversionThread.producing orders).firming = [] := by
  cases orders <;> exact ⟨rfl, rfl⟩

/-! ### The invariant of a pool -/

structure ConversionsInOrder (pool : ConversionPool) : Prop where
  keyed : pool.shared.db.OrdersKeyed
  once : pool.shared.converted.Nodup
  known : ∀ id ∈ pool.shared.converted, pool.shared.db.orderStatus id ≠ none
  /-- A converted order that is still planned is about to be set firm. -/
  settled : ∀ id ∈ pool.shared.converted, pool.shared.db.orderStatus id = some .planned →
    ∃ t ∈ pool.threads, id ∈ t.firming
  pendingNodup : ∀ t ∈ pool.threads, t.pending.Nodup
  pendingKnown : ∀ t ∈ pool.threads, ∀ id ∈ t.creating, pool.shared.db.orderStatus id ≠ none
  unconverted : ∀ t ∈ pool.threads, ∀ id ∈ t.creating, id ∉ pool.shared.converted
  apart : ∀ (i j : ℕ) (t u : ConversionThread), i ≠ j → pool.threads[i]? = some t →
    pool.threads[j]? = some u → ∀ id ∈ t.pending, id ∉ u.pending

section Steps

variable {pool : ConversionPool} {i : ℕ} {t t' : ConversionThread} {s' : ConversionState}

/-- What a step of thread `i` owes the invariant; the other threads keep theirs. -/
theorem ConversionsInOrder.step (h : ConversionsInOrder pool) (ht : pool.threads[i]? = some t)
    (hkeyed : s'.db.OrdersKeyed)
    (hknown : ∀ id, pool.shared.db.orderStatus id ≠ none → s'.db.orderStatus id ≠ none)
    (honce : s'.converted.Nodup)
    (hconverted : ∀ id ∈ s'.converted, id ∈ pool.shared.converted ∨ id ∈ t.creating)
    (hsettled : ∀ id ∈ s'.converted, s'.db.orderStatus id = some .planned →
      id ∈ t'.firming ∨ (id ∈ pool.shared.converted ∧
        pool.shared.db.orderStatus id = some .planned ∧ id ∉ t.firming))
    (hnodup : t'.pending.Nodup)
    (hpendingKnown : ∀ id ∈ t'.creating, s'.db.orderStatus id ≠ none)
    (hunconverted : ∀ id ∈ t'.creating, id ∉ s'.converted)
    (hapart : ∀ id ∈ t'.pending, id ∈ t.pending ∨ ∀ u ∈ pool.threads, id ∉ u.pending) :
    ConversionsInOrder { shared := s', threads := pool.threads.set i t' } := by
  have hmem : t ∈ pool.threads := List.mem_of_getElem? ht
  have hset : ∀ (j : ℕ) (u : ConversionThread), (pool.threads.set i t')[j]? = some u →
      (j = i ∧ u = t') ∨ (j ≠ i ∧ pool.threads[j]? = some u) := by
    intro j u hu
    by_cases hj : j = i
    · subst hj
      rw [List.getElem?_set_self (List.getElem?_eq_some_iff.1 ht).1] at hu
      exact Or.inl ⟨rfl, (Option.some.inj hu).symm⟩
    · rw [List.getElem?_set_ne (Ne.symm hj)] at hu
      exact Or.inr ⟨hj, hu⟩
  have hold : ∀ (j : ℕ) (u : ConversionThread), j ≠ i → pool.threads[j]? = some u →
      ∀ id ∈ u.creating, id ∉ s'.converted := by
    intro j u hj hu id hid hin
    rcases hconverted id hin with hbefore | hnew
    · exact h.unconverted u (List.mem_of_getElem? hu) id hid hbefore
    · exact h.apart i j t u (Ne.symm hj) ht hu id (List.mem_append_left _ hnew)
        (List.mem_append_left _ hid)
  have hnotT' : ∀ (j : ℕ) (u : ConversionThread), j ≠ i → pool.threads[j]? = some u →
      ∀ id ∈ t'.pending, id ∉ u.pending := by
    intro j u hj hu id hid
    rcases hapart id hid with hown | hfree
    · exact h.apart i j t u (Ne.symm hj) ht hu id hown
    · exact hfree u (List.mem_of_getElem? hu)
  refine ⟨hkeyed, honce, fun id hid => ?_, fun id hid hplanned => ?_, fun u hu => ?_,
    fun u hu id hid => ?_, fun u hu id hid => ?_, fun j k u v hjk hu hv id hid => ?_⟩
  · rcases hconverted id hid with hbefore | hnew
    · exact hknown id (h.known id hbefore)
    · exact hknown id (h.pendingKnown t hmem id hnew)
  · rcases hsettled id hid hplanned with hnow | ⟨hbefore, hstatus, hnot⟩
    · exact ⟨t', List.mem_set (List.getElem?_eq_some_iff.1 ht).1 _, hnow⟩
    · obtain ⟨u, hu, hfirming⟩ := h.settled id hbefore hstatus
      obtain ⟨j, hj⟩ := List.mem_iff_getElem?.1 hu
      have hne : j ≠ i := by
        rintro rfl
        rw [ht] at hj
        exact hnot (Option.some.inj hj ▸ hfirming)
      have hkept : (pool.threads.set i t')[j]? = some u := by
        rw [List.getElem?_set_ne (Ne.symm hne)]
        exact hj
      exact ⟨u, List.mem_of_getElem? hkept, hfirming⟩
  · rcases List.mem_or_eq_of_mem_set hu with hu | rfl
    · exact h.pendingNodup u hu
    · exact hnodup
  · rcases List.mem_or_eq_of_mem_set hu with hu | rfl
    · exact hknown id (h.pendingKnown u hu id hid)
    · exact hpendingKnown id hid
  · obtain ⟨j, hj⟩ := List.mem_iff_getElem?.1 hu
    rcases hset j u hj with ⟨-, rfl⟩ | ⟨hne, hj⟩
    · exact hunconverted id hid
    · exact hold j u hne hj id hid
  · rcases hset j u hu with ⟨hji, rfl⟩ | ⟨hne, hju⟩ <;>
      rcases hset k v hv with ⟨hki, rfl⟩ | ⟨hne', hkv⟩
    · exact absurd (hji.trans hki.symm) hjk
    · exact hnotT' k v hne' hkv id hid
    · exact fun hin => hnotT' j u hne hju id hin hid
    · exact h.apart j k u v hjk hju hkv id hid

/-- A step that touches no order and drops none but what was not converted yet. -/
theorem ConversionsInOrder.drop (h : ConversionsInOrder pool) (ht : pool.threads[i]? = some t)
    (hcreating : t'.creating.Sublist t.creating) (hfirming : t'.firming = t.firming) :
    ConversionsInOrder { shared := pool.shared, threads := pool.threads.set i t' } := by
  have hmem : t ∈ pool.threads := List.mem_of_getElem? ht
  have hsub : t'.pending.Sublist t.pending := by
    unfold ConversionThread.pending
    rw [hfirming]
    exact hcreating.append_right _
  refine h.step ht h.keyed (fun _ h => h) h.once (fun _ hid => Or.inl hid)
    (fun id hid hplanned => ?_) ((h.pendingNodup t hmem).sublist hsub)
    (fun id hid => h.pendingKnown t hmem id (hcreating.subset hid))
    (fun id hid => h.unconverted t hmem id (hcreating.subset hid))
    fun id hid => Or.inl (hsub.subset hid)
  by_cases hin : id ∈ t.firming
  · exact Or.inl (hfirming ▸ hin)
  · exact Or.inr ⟨hid, hplanned, hin⟩

theorem ConversionsInOrder.read (h : ConversionsInOrder pool) (ht : pool.threads[i]? = some t)
    (hbefore : t.pending = []) {orderType : PlannedOrderType} {ids : List Id}
    (hapart : ∀ id ∈ (pool.shared.db.convertible orderType ids).map PlannedOrder.id,
      ∀ u ∈ pool.threads, id ∉ u.pending)
    (hnodup : t'.creating.Nodup)
    (hcreating : t'.creating ⊆ (pool.shared.db.convertible orderType ids).map PlannedOrder.id)
    (hfirming : t'.firming = []) :
    ConversionsInOrder { shared := pool.shared, threads := pool.threads.set i t' } := by
  have hpending : t'.pending = t'.creating := by
    rw [ConversionThread.pending, hfirming, List.append_nil]
  have hplanned : ∀ id ∈ t'.creating, pool.shared.db.orderStatus id = some .planned := by
    intro id hid
    obtain ⟨order, horder, rfl⟩ := List.mem_map.1 (hcreating hid)
    exact PlanningDb.orderStatus_of_convertible h.keyed horder
  refine h.step ht h.keyed (fun _ h => h) h.once (fun _ hid => Or.inl hid)
    (fun id hid hstatus => Or.inr ⟨hid, hstatus, ?_⟩) (hpending ▸ hnodup)
    (fun id hid => by simp [hplanned id hid]) (fun id hid hin => ?_)
    fun id hid => Or.inr (hapart id (hcreating (hpending ▸ hid)))
  · rw [(List.append_eq_nil_iff.1 hbefore).2]
    exact List.not_mem_nil
  · obtain ⟨u, hu, hfirm⟩ := h.settled id hin (hplanned id hid)
    exact hapart id (hcreating hid) u hu (List.mem_append_right _ hfirm)

/-- Lines or a work order for the orders that come next. -/
theorem ConversionsInOrder.create (h : ConversionsInOrder pool)
    (ht : pool.threads[i]? = some t) (hcreating : t.creating = t'.firming ++ t'.creating)
    (hfirming : t.firming = []) (hdb : s'.db = pool.shared.db)
    (hconverted : s'.converted.Perm (pool.shared.converted ++ t'.firming)) :
    ConversionsInOrder { shared := s', threads := pool.threads.set i t' } := by
  have hmem : t ∈ pool.threads := List.mem_of_getElem? ht
  have hpending : t.pending = t'.firming ++ t'.creating := by
    rw [ConversionThread.pending, hfirming, List.append_nil, hcreating]
  have hperm : t.pending.Perm t'.pending := by
    rw [hpending]
    exact List.perm_append_comm
  have hparts := (hperm.nodup_iff.1 (h.pendingNodup t hmem))
  have hin : ∀ id, id ∈ s'.converted ↔ id ∈ pool.shared.converted ∨ id ∈ t'.firming := by
    intro id
    rw [hconverted.mem_iff, List.mem_append]
  refine h.step ht (hdb ▸ h.keyed) (fun id hid => hdb ▸ hid) ?_ (fun id hid => ?_)
    (fun id hid hplanned => ?_) hparts (fun id hid => ?_) (fun id hid hid' => ?_)
    fun id hid => Or.inl (hperm.mem_iff.2 hid)
  · rw [hconverted.nodup_iff]
    refine h.once.append hparts.of_append_right fun id hid hnew => ?_
    exact h.unconverted t hmem id (hcreating ▸ List.mem_append_left _ hnew) hid
  · rw [hcreating, List.mem_append]
    exact ((hin id).1 hid).imp_right Or.inl
  · rcases (hin id).1 hid with hbefore | hnew
    · exact Or.inr ⟨hbefore, hdb ▸ hplanned, by simp [hfirming]⟩
    · exact Or.inl hnew
  · rw [hdb]
    exact h.pendingKnown t hmem id (hcreating ▸ List.mem_append_right _ hid)
  · rcases (hin id).1 hid' with hbefore | hnew
    · exact h.unconverted t hmem id (hcreating ▸ List.mem_append_right _ hid) hbefore
    · exact (List.nodup_append.1 hparts).2.2 id hid id hnew rfl

theorem ConversionsInOrder.firm (h : ConversionsInOrder pool)
    (ht : pool.threads[i]? = some t) {orders : List PlannedOrder}
    (hfirming : t.firming = orders.map PlannedOrder.id) (hcreating : t'.creating = t.creating)
    (hafter : t'.firming = []) :
    ConversionsInOrder
      { shared := pool.shared.setFirm orders, threads := pool.threads.set i t' } := by
  have hmem : t ∈ pool.threads := List.mem_of_getElem? ht
  have hstatus : ∀ id, (pool.shared.setFirm orders).db.orderStatus id =
      if id ∈ t.firming then (pool.shared.db.orderStatus id).map fun _ => .firmed
      else pool.shared.db.orderStatus id := by
    intro id
    rw [hfirming]
    exact PlanningDb.orderStatus_setStatus _ _ _ id
  have hknown : ∀ id, pool.shared.db.orderStatus id ≠ none →
      (pool.shared.setFirm orders).db.orderStatus id ≠ none := by
    intro id hid
    rw [hstatus]
    split_ifs
    · simpa using hid
    · exact hid
  have hsub : t'.pending.Sublist t.pending := by
    unfold ConversionThread.pending
    rw [hafter, hcreating, List.append_nil]
    exact List.sublist_append_left _ _
  refine h.step ht (h.keyed.setStatus _ _) hknown h.once (fun _ hid => Or.inl hid)
    (fun id hid hplanned => Or.inr ?_) ((h.pendingNodup t hmem).sublist hsub)
    (fun id hid => hknown id (h.pendingKnown t hmem id (hcreating ▸ hid)))
    (fun id hid => h.unconverted t hmem id (hcreating ▸ hid)) fun id hid => Or.inl (hsub.subset hid)
  rw [hstatus] at hplanned
  split_ifs at hplanned with hin
  · obtain ⟨status, -, hfirmed⟩ := Option.map_eq_some_iff.1 hplanned
    cases hfirmed
  · exact ⟨hid, hplanned, hin⟩

theorem converted_createPurchaseOrder {s s' : ConversionState} {supplierId : Id}
    {orders : List PlannedOrder} {prices : List SupplierProduct}
    (h : s.createPurchaseOrder supplierId orders prices = some s') :
    s'.db = s.db ∧ s'.converted.Perm (s.converted ++ orders.map PlannedOrder.id) := by
  obtain ⟨locationId, -, rfl⟩ := Option.map_eq_some_iff.1 h
  refine ⟨rfl, ?_⟩
  unfold ConversionState.converted
  rw [List.flatMap_append, List.flatMap_singleton, List.map_map, List.append_assoc,
    List.append_assoc]
  exact List.Perm.append_left _ List.perm_append_comm

theorem converted_createWorkOrder {s s' : ConversionState} {order : PlannedOrder}
    {leadTimeDays : ℕ} (h : s.createWorkOrder order leadTimeDays = some s') :
    s'.db = s.db ∧ s'.converted = s.converted ++ [order.id] := by
  obtain ⟨locationId, -, rfl⟩ := Option.map_eq_some_iff.1 h
  refine ⟨rfl, ?_⟩
  unfold ConversionState.converted
  rw [List.map_append, ← List.append_assoc]
  rfl

theorem convertible_nodup {db : PlanningDb} (h : db.OrdersKeyed) (orderType : PlannedOrderType)
    (ids : List Id) : ((db.convertible orderType ids).map PlannedOrder.id).Nodup :=
  h.sublist (List.filter_sublist.map _)

theorem ConversionsInOrder.succeed (h : ConversionsInOrder pool)
    (ht : pool.threads[i]? = some t)
    (hapart : ∀ id ∈ t.selects pool.shared, ∀ u ∈ pool.threads, id ∉ u.pending) :
    ConversionsInOrder
      { shared := (t.succeed pool.shared).1
        threads := pool.threads.set i (t.succeed pool.shared).2 } := by
  cases t with
  | readPurchase ids =>
    simp only [ConversionThread.succeed]
    split_ifs
    · exact h.drop ht (List.Sublist.refl _) rfl
    · obtain ⟨hcreating, hfirming⟩ :=
        pending_purchasing (bySupplier (pool.shared.db.convertible .purchase ids))
      refine h.read ht rfl hapart ?_ ?_ hfirming
      · rw [hcreating]
        exact nodup_bySupplier (convertible_nodup h.keyed _ _)
      · rw [hcreating]
        refine List.map_subset _ fun order horder => ?_
        obtain ⟨group, hgroup, hin⟩ := List.mem_flatMap.1 horder
        exact (mem_bySupplier hgroup hin).1
  | readPrices supplierId orders groups => exact h.drop ht (List.Sublist.refl _) rfl
  | createPurchase supplierId orders prices groups =>
    simp only [ConversionThread.succeed]
    split
    · rename_i s' hcreated
      obtain ⟨hdb, hconverted⟩ := converted_createPurchaseOrder hcreated
      exact h.create ht (List.map_append ..) rfl hdb hconverted
    · exact h.drop ht (List.nil_sublist _) rfl
  | firmOrders orders groups =>
    obtain ⟨hcreating, hfirming⟩ := pending_purchasing groups
    exact h.firm ht rfl hcreating hfirming
  | readProduction ids =>
    simp only [ConversionThread.succeed]
    split_ifs
    · exact h.drop ht (List.Sublist.refl _) rfl
    · obtain ⟨hcreating, hfirming⟩ :=
        pending_producing (pool.shared.db.convertible .production ids)
      refine h.read ht rfl hapart ?_ (hcreating ▸ List.Subset.refl _) hfirming
      rw [hcreating]
      exact convertible_nodup h.keyed _ _
  | readPolicy order orders => exact h.drop ht (List.Sublist.refl _) rfl
  | createWork order leadTimeDays orders =>
    simp only [ConversionThread.succeed]
    split
    · rename_i s' hcreated
      obtain ⟨hdb, hconverted⟩ := converted_createWorkOrder hcreated
      exact h.create ht rfl rfl hdb (hconverted ▸ List.Perm.refl _)
    · exact h.drop ht (List.nil_sublist _) rfl
  | firmOrder order orders =>
    obtain ⟨hcreating, hfirming⟩ := pending_producing orders
    exact h.firm ht rfl hcreating hfirming
  | returned => exact h.drop ht (List.Sublist.refl _) rfl
  | thrown error => exact h.drop ht (List.Sublist.refl _) rfl

end Steps

/-! ### The other operations -/

section Others

variable {db db' : PlanningDb} {a : PlanningAction}

/-- No order goes back to the planned status, and none goes away. -/
def KeepsUnplanned (db db' : PlanningDb) : Prop :=
  ∀ id, (db'.orderStatus id = some .planned →
      db.orderStatus id = some .planned ∨ db.orderStatus id = none) ∧
    (db.orderStatus id ≠ none → db'.orderStatus id ≠ none)

theorem keepsUnplanned_of_orderMoves (h : PlanningDb.OrderMoves db db') :
    KeepsUnplanned db db' := by
  intro id
  rcases h id with h | h | ⟨hbefore, h⟩ | ⟨-, h⟩ | ⟨-, h⟩
  · rw [h]
    exact ⟨Or.inl, fun hne => hne⟩
  · exact ⟨fun hplanned => by simp [h] at hplanned, fun _ => by simp [h]⟩
  · exact ⟨fun _ => Or.inr hbefore, fun hne => absurd hbefore hne⟩
  · exact ⟨fun hplanned => by simp [h] at hplanned, fun _ => by simp [h]⟩
  · exact ⟨fun hplanned => by simp [h] at hplanned, fun _ => by simp [h]⟩

theorem keepsUnplanned_setStatus (db : PlanningDb) (orderIds : List Id)
    {status : PlannedOrderStatus} (hstatus : status ≠ .planned) :
    KeepsUnplanned db (db.setStatus orderIds status) := by
  intro id
  rw [PlanningDb.orderStatus_setStatus]
  split_ifs
  · refine ⟨fun hplanned => ?_, fun hne => by simpa using hne⟩
    obtain ⟨-, -, heq⟩ := Option.map_eq_some_iff.1 hplanned
    exact absurd heq hstatus
  · exact ⟨Or.inl, fun hne => hne⟩

theorem statusOfAction_ne_planned {action : String} {status : PlannedOrderStatus}
    (h : PlanningDb.statusOfAction action = some status) : status ≠ .planned := by
  unfold PlanningDb.statusOfAction at h
  split_ifs at h
  all_goals
    obtain rfl := Option.some.inj h
    decide

theorem next_keepsUnplanned (hkeyed : db.OrdersKeyed) (a : PlanningAction) :
    KeepsUnplanned db (db.next a) ∧ (db.next a).OrdersKeyed := by
  by_cases hlawful : db.WritesLawfully a
  · obtain ⟨-, hmoves, hkeyed'⟩ := PlanningDb.next_spec hkeyed hlawful
    exact ⟨keepsUnplanned_of_orderMoves hmoves, hkeyed'⟩
  · unfold PlanningDb.next
    cases hbody : db.body a with
    | error e => exact ⟨keepsUnplanned_of_orderMoves (PlanningDb.orderMoves_of_eq rfl), hkeyed⟩
    | ok db' =>
      -- only the unchecked writers of a status may be unlawful
      cases a with
      | updateBOM bomId dto =>
        simp only [PlanningDb.body, PlanningDb.updateBOM, bind_eq_ok, pure_eq_ok] at hbody
        obtain ⟨bom, -, -, -, quantity, -, rfl⟩ := hbody
        exact ⟨keepsUnplanned_of_orderMoves (PlanningDb.orderMoves_of_eq rfl), hkeyed⟩
      | bulkUpdatePlannedOrders orderIds action =>
        simp only [PlanningDb.body, PlanningDb.bulkUpdatePlannedOrders, bind_eq_ok, pure_eq_ok,
          found_eq_ok] at hbody
        obtain ⟨-, -, status, hstatus, rfl⟩ := hbody
        exact ⟨keepsUnplanned_setStatus db orderIds (statusOfAction_ne_planned hstatus),
          hkeyed.setStatus _ _⟩
      | _ => exact absurd trivial hlawful

end Others

theorem ConversionsInOrder.env {pool : ConversionPool} (h : ConversionsInOrder pool)
    (a : PlanningAction) :
    ConversionsInOrder { pool with shared := pool.shared.env a } := by
  have hspec : KeepsUnplanned pool.shared.db (pool.shared.env a).db ∧
      (pool.shared.env a).db.OrdersKeyed := by
    have hsame : KeepsUnplanned pool.shared.db pool.shared.db :=
      fun id => ⟨Or.inl, fun hne => hne⟩
    cases a with
    | convertPlannedOrdersToPurchaseOrders ids => exact ⟨hsame, h.keyed⟩
    | convertPlannedOrdersToWorkOrders ids => exact ⟨hsame, h.keyed⟩
    | _ => exact next_keepsUnplanned h.keyed _
  have hconverted : (pool.shared.env a).converted = pool.shared.converted := by
    cases a <;> rfl
  obtain ⟨hkeeps, hkeyed⟩ := hspec
  refine ⟨hkeyed, hconverted ▸ h.once, fun id hid => ?_, fun id hid hplanned => ?_,
    h.pendingNodup, fun t ht id hid => (hkeeps id).2 (h.pendingKnown t ht id hid), ?_, h.apart⟩
  · exact (hkeeps id).2 (h.known id (hconverted ▸ hid))
  · rcases (hkeeps id).1 hplanned with hbefore | hnone
    · exact h.settled id (hconverted ▸ hid) hbefore
    · exact absurd hnone (h.known id (hconverted ▸ hid))
  · rw [hconverted]
    exact h.unconverted

theorem ConversionsInOrder.spawn {pool : ConversionPool} (h : ConversionsInOrder pool)
    (call : ConversionCall) :
    ConversionsInOrder { pool with threads := pool.threads ++ [call.start] } := by
  have hcreating : call.start.creating = [] := by cases call <;> rfl
  have hfirming : call.start.firming = [] := by cases call <;> rfl
  have hpending : call.start.pending = [] := by
    rw [ConversionThread.pending, hcreating, hfirming, List.append_nil]
  have hmem : ∀ t ∈ pool.threads ++ [call.start], t ∈ pool.threads ∨ t.pending = [] := by
    intro t ht
    rcases List.mem_append.1 ht with hold | hnew
    · exact Or.inl hold
    · rw [List.mem_singleton.1 hnew]
      exact Or.inr hpending
  have hget : ∀ (i : ℕ) (t : ConversionThread), (pool.threads ++ [call.start])[i]? = some t →
      pool.threads[i]? = some t ∨ t.pending = [] := by
    intro i t ht
    by_cases hi : i < pool.threads.length
    · rw [List.getElem?_append_left hi] at ht
      exact Or.inl ht
    · rw [List.getElem?_append_right (by omega)] at ht
      rw [List.mem_singleton.1 (List.mem_of_getElem? ht)]
      exact Or.inr hpending
  refine ⟨h.keyed, h.once, h.known, fun id hid hplanned => ?_, fun t ht => ?_,
    fun t ht id hid => ?_, fun t ht id hid => ?_, fun i j t u hij ht hu id hid => ?_⟩
  · obtain ⟨t, ht, hin⟩ := h.settled id hid hplanned
    exact ⟨t, List.mem_append_left _ ht, hin⟩
  · rcases hmem t ht with hold | hnone
    · exact h.pendingNodup t hold
    · rw [hnone]
      exact List.nodup_nil
  · rcases hmem t ht with hold | hnone
    · exact h.pendingKnown t hold id hid
    · rw [(List.append_eq_nil_iff.1 hnone).1] at hid
      cases hid
  · rcases hmem t ht with hold | hnone
    · exact h.unconverted t hold id hid
    · rw [(List.append_eq_nil_iff.1 hnone).1] at hid
      cases hid
  · rcases hget i t ht with ht | hnone
    · rcases hget j u hu with hu | hnone
      · exact h.apart i j t u hij ht hu id hid
      · rw [hnone]
        exact List.not_mem_nil
    · rw [hnone] at hid
      cases hid

theorem ConversionsInOrder.next {pool : ConversionPool} {action : ConversionAction}
    (h : ConversionsInOrder pool) (happ : ConvertsApart pool action) :
    ConversionsInOrder (conversionProgram.next pool action) := by
  cases action with
  | spawn call => exact h.spawn call
  | step i fault =>
    cases ht : pool.threads[i]? with
    | none =>
      rw [Program.next, ht]
      exact h
    | some t =>
      rw [conversionProgram.next_step ht]
      cases fault with
      | none => exact h.succeed ht (happ t ht)
      | crash => exact h.drop ht (List.nil_sublist _) (happ t ht).symm
  | env a => exact h.env a

/-- No planned order has two lines or work orders, after any number of steps. -/
def ConversionLaw (start : ConversionState) (actions : List ConversionAction) : Prop :=
  ∀ k id, (stateAt conversionProgram.next ⟨start, []⟩ actions k).shared.converted.count id ≤ 1

theorem conversionLaw_of_convertsApart (start : ConversionState) (actions : List ConversionAction)
    (hkeyed : start.db.OrdersKeyed) (hnone : start.converted = [])
    (h : Always conversionProgram.next ConvertsApart ⟨start, []⟩ actions) :
    ConversionLaw start actions := by
  have hstart : ConversionsInOrder ⟨start, []⟩ := by
    refine ⟨hkeyed, ?_, ?_, ?_, ?_, ?_, ?_, ?_⟩ <;> simp [hnone]
  intro k id
  exact List.nodup_iff_count_le_one.1 (h.invariant_at (I := ConversionsInOrder)
    (fun pool action hpool happ => hpool.next happ) hstart k).once id

/-- Three planned orders, of which two are bought from one supplier. -/
def threeOrders : ConversionState where
  now := 0
  db := ⟨[5, 6, 7], [], [],
    [{ id := 1, productId := 5, locationId := 9, orderType := .purchase, startDate := 0,
       dueDate := 8, quantity := .zero, supplierId := some 4 },
     { id := 2, productId := 6, locationId := 9, orderType := .purchase, startDate := 0,
       dueDate := 9, quantity := .zero, supplierId := some 4 },
     { id := 3, productId := 7, locationId := 9, orderType := .production, startDate := 0,
       dueDate := 9, quantity := .zero }]⟩
  locations := [9]

def oneStep (i : ℕ) : ConversionAction := .step i .none

def overlappingLists : List ConversionAction :=
  [.spawn (.convertPlannedOrdersToPurchaseOrders [1]),
    .spawn (.convertPlannedOrdersToPurchaseOrders [1, 2]),
    .spawn (.convertPlannedOrdersToWorkOrders [2, 3])] ++
    List.replicate 4 (oneStep 0) ++ List.replicate 4 (oneStep 1) ++ List.replicate 4 (oneStep 2)

theorem conversionLaw_overlappingLists : ConversionLaw threeOrders overlappingLists :=
  conversionLaw_of_convertsApart threeOrders overlappingLists (by decide) rfl
    (by decide +kernel)

/-- The process stops after the purchase order is created; the conversion is tried again. -/
theorem not_conversionLaw_retried : ¬ConversionLaw threeOrders
    ([.spawn (.convertPlannedOrdersToPurchaseOrders [1]), oneStep 0, oneStep 0, oneStep 0,
      .step 0 .crash, .spawn (.convertPlannedOrdersToPurchaseOrders [1])] ++
        List.replicate 4 (oneStep 1)) := by
  intro h
  have htwice := h 10 1
  revert htwice
  decide +kernel

end Forecast.Planning
