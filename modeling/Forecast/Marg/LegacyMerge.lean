import Forecast.Marg.Products

/-!
# Merging legacy products

Before a product's master row is staged its stock is kept under `MARG-` and the
pid. The sweep after each projection merges such a product into the one with the
canonical code, in no particular order. Both codes live in one column: a pid that
is also a code of another item names a canonical product.
-/

open Redirection

namespace Forecast

/-- The foreign keys of the tables that a merge leaves as they are. -/
structure References where
  pinsBatch : ℕ → Bool
  keepsProduct : ℕ → Bool

/-! ### One merge -/

namespace ProductRows

variable (owned : ProductRows) (merge : ℕ × ℕ)

def twin (l : Batch) : Option Batch :=
  owned.batches.find? fun cc =>
    cc.productId = merge.2 ∧ cc.locationId = l.locationId ∧ cc.batchNumber = l.batchNumber

def isStale (l : Batch) : Bool := l.productId = merge.1 && (owned.twin merge l).isSome

def survivingBatch (r : ProductRow) : Option ℕ :=
  if r.table = .actuals then r.batchId
  else
    match owned.batches.find? fun l => owned.isStale merge l && r.batchId = some l.id with
    | some l => (owned.twin merge l).map Batch.id
    | none => r.batchId

/-- The statements of the transaction, on the rows of the products. -/
def handOver : ProductRows where
  levels := owned.levels.filter fun l => l.productId ≠ merge.1
  batches := (owned.batches.filter fun l => !owned.isStale merge l).map fun b =>
    { b with productId := redirect merge b.productId }
  rows := owned.rows.map fun r =>
    { r with
      productId := redirect merge r.productId
      batchId := owned.survivingBatch merge r }

def handsOver : Bool :=
  (owned.batches.any fun l => l.productId = merge.1 && !owned.isStale merge l) ||
    owned.rows.any fun r => r.productId = merge.1

end ProductRows

namespace Catalog

section Merge

variable (refs : References) (c : Catalog) (merge : ℕ × ℕ)

/-- Rolled back when a stale batch is referred to, or the canonical product is gone. -/
def mergeTransaction : Option Catalog :=
  if (c.owned.batches.any fun l => c.owned.isStale merge l && refs.pinsBatch l.id) ||
      (!(c.products.rows.any fun p => p.id = merge.2) && c.owned.handsOver merge) then none
  else
    some
      { c with
        owned := c.owned.handOver merge
        staged := c.staged.map fun mp => { mp with productId := mp.productId.map (redirect merge) } }

def mergeLegacyProductIntoCanonical : Catalog :=
  if merge.1 = merge.2 then c
  else
    match c.mergeTransaction refs merge with
    | none => c
    | some merged =>
      if refs.keepsProduct merge.1 then merged
      else { merged with products := merged.products.delete merge.1 }

def commits : Bool := merge.1 ≠ merge.2 && (c.mergeTransaction refs merge).isSome

end Merge

def legacyPairs (c : Catalog) : List (ℕ × ℕ) :=
  c.staged.flatMap fun mp =>
    (c.products.rows.filter fun legacy => legacy.code.text = mp.placeholder).flatMap fun legacy =>
      (c.products.rows.filter fun canonical =>
        canonical.code.text = mp.fullCode ∧ legacy.id ≠ canonical.id).map fun canonical =>
          (legacy.id, canonical.id)

/-- `sweepMargLegacyPidProducts`; the database returns the pairs in some order. -/
def sweepMargLegacyPidProducts (refs : References) (order : List (ℕ × ℕ)) (c : Catalog) : Catalog :=
  order.foldl (mergeLegacyProductIntoCanonical refs) c

/-- The merges of a sweep that commit. -/
def committed (refs : References) : List (ℕ × ℕ) → Catalog → List (ℕ × ℕ)
  | [], _ => []
  | merge :: rest, c =>
    let later := committed refs rest (c.mergeLegacyProductIntoCanonical refs merge)
    if c.commits refs merge then merge :: later else later

end Catalog

/-! ### The law -/

/-- The code is that of the placeholder or of the canonical product of the staged row. -/
def MargProduct.names (mp : MargProduct) (code : ProductCode) : Prop :=
  code.text = mp.placeholder ∨ code = mp.canonicalCode

/-- A row stays, or goes to the product that is canonical for every staged row that names its own. -/
def Catalog.MovesFairly (c : Catalog) (source target : ℕ) : Prop :=
  target = source ∨ ∃ p ∈ c.products.rows, ∃ q ∈ c.products.rows, p.id = source ∧ q.id = target ∧
    ∀ mp ∈ c.staged, mp.names p.code → mp.canonicalCode = q.code

/-- Staged rows are linked canonically, and the sweep respects canonical products and codes. -/
structure ProductsLaw (projected swept : Catalog) : Prop where
  masters : swept.staged.map MargProduct.master = projected.staged.map MargProduct.master
  linked : ∀ mp ∈ swept.staged, mp.Linked swept.products
  kept : ∀ p ∈ projected.products.rows, (∃ mp ∈ projected.staged, mp.canonicalCode = p.code) →
    p ∈ swept.products.rows
  batches : ∀ b ∈ swept.owned.batches, ∃ old ∈ projected.owned.batches,
    old.id = b.id ∧ projected.MovesFairly old.productId b.productId
  rows : ∀ r ∈ swept.owned.rows, ∃ old ∈ projected.owned.rows,
    old.table = r.table ∧ old.id = r.id ∧ projected.MovesFairly old.productId r.productId

def TransformLaw (products : ProductTable) (staged : List MargProduct) : Prop :=
  ∀ (owned : ProductRows) (refs : References) (pageSize insertBatchSize : ℕ) (order : List (ℕ × ℕ)),
    let projected := Catalog.projectProducts pageSize insertBatchSize ⟨products, staged, owned⟩
    order.Perm projected.legacyPairs →
      ProductsLaw projected (projected.sweepMargLegacyPidProducts refs order)

/-- Where a placeholder exists, all staged rows that name it have one canonical code. -/
def NamesApart (products : ProductTable) (staged : List MargProduct) : Prop :=
  ∀ a ∈ staged, a.fullCode.length ≤ 50 → a.pid ≠ a.code →
    ((∃ p ∈ products.rows, p.code.text = a.placeholder) ∨
      ∃ r ∈ staged, r.canonicalCode.text = a.placeholder) →
    ∀ b ∈ staged, b.placeholder = a.placeholder ∨ b.canonicalCode.text = a.placeholder →
      b.canonicalCode = a.canonicalCode

/-! ### What the merges of a sweep do -/

namespace Catalog

variable {refs : References} {c : Catalog} {merge : ℕ × ℕ}

theorem merge_of_not_commits (h : ¬c.commits refs merge) :
    c.mergeLegacyProductIntoCanonical refs merge = c := by
  unfold mergeLegacyProductIntoCanonical
  by_cases heq : merge.1 = merge.2
  · rw [if_pos heq]
  · have hnone : c.mergeTransaction refs merge = none := by
      simpa [commits, heq] using h
    rw [if_neg heq, hnone]

/-- What a merge that commits leaves of the catalog. -/
structure Merged (c : Catalog) (merge : ℕ × ℕ) (c' : Catalog) : Prop where
  staged : c'.staged = c.staged.map fun mp =>
    { mp with productId := mp.productId.map (redirect merge) }
  owned : c'.owned = c.owned.handOver merge
  kept : ∀ p ∈ c.products.rows, merge.1 ≠ p.id → p ∈ c'.products.rows
  old : ∀ p ∈ c'.products.rows, p ∈ c.products.rows

theorem merged_of_commits (h : c.commits refs merge) :
    c.Merged merge (c.mergeLegacyProductIntoCanonical refs merge) := by
  unfold commits at h
  rw [Bool.and_eq_true, decide_eq_true_eq, Option.isSome_iff_exists] at h
  obtain ⟨hne, merged, hmerged⟩ := h
  have hfields := hmerged
  unfold mergeTransaction at hfields
  split_ifs at hfields
  rw [Option.some.injEq] at hfields
  unfold mergeLegacyProductIntoCanonical
  rw [if_neg hne, hmerged]
  dsimp only
  split_ifs
  · subst hfields
    exact ⟨rfl, rfl, fun p hp _ => hp, fun p hp => hp⟩
  · subst hfields
    refine ⟨rfl, rfl, ?_, ?_⟩
    · intro p hp hid
      exact List.mem_filter.2 ⟨hp, decide_eq_true hid.symm⟩
    · intro p hp
      exact (List.mem_filter.1 hp).1

theorem committed_subset {order : List (ℕ × ℕ)} : committed refs order c ⊆ order := by
  induction order generalizing c with
  | nil => exact fun m hm => hm
  | cons merge rest ih =>
    intro m hm
    unfold committed at hm
    dsimp only at hm
    split_ifs at hm
    · obtain rfl | hm := List.mem_cons.1 hm
      · exact List.mem_cons_self
      · exact List.mem_cons_of_mem _ (ih hm)
    · exact List.mem_cons_of_mem _ (ih hm)

/-- What a sweep leaves of the catalog, by the merges that commit. -/
structure Swept (ms : List (ℕ × ℕ)) (c c' : Catalog) : Prop where
  staged : c'.staged = c.staged.map fun mp =>
    { mp with productId := mp.productId.map (follow ms) }
  batches : ∀ b ∈ c'.owned.batches, ∃ old ∈ c.owned.batches,
    old.id = b.id ∧ b.productId = follow ms old.productId
  rows : c'.owned.rows.map (fun r => (r.table, r.id, r.productId)) =
    c.owned.rows.map fun r => (r.table, r.id, follow ms r.productId)
  kept : ∀ p ∈ c.products.rows, (∀ m ∈ ms, m.1 ≠ p.id) → p ∈ c'.products.rows
  old : ∀ p ∈ c'.products.rows, p ∈ c.products.rows

theorem Swept.refl (c : Catalog) : Swept [] c c where
  staged := by
    have hid : follow ([] : List (ℕ × ℕ)) = id := rfl
    simp [hid]
  batches b hb := ⟨b, hb, rfl, rfl⟩
  rows := rfl
  kept _ hp _ := hp
  old _ hp := hp

theorem Swept.cons {ms : List (ℕ × ℕ)} {c' c'' : Catalog} (h : c.Merged merge c')
    (hrest : Swept ms c' c'') : Swept (merge :: ms) c c'' where
  staged := by
    rw [hrest.staged, h.staged, List.map_map]
    apply List.map_congr_left
    intro mp _
    rw [Function.comp_apply, Option.map_map]
    rfl
  batches := by
    intro b hb
    obtain ⟨middle, hmiddle, hid, hproduct⟩ := hrest.batches b hb
    rw [h.owned] at hmiddle
    obtain ⟨old, hold, rfl⟩ := List.mem_map.1 hmiddle
    exact ⟨old, (List.mem_filter.1 hold).1, hid, hproduct⟩
  rows := by
    rw [hrest.rows, h.owned, ProductRows.handOver, List.map_map]
    rfl
  kept := by
    intro p hp hms
    apply hrest.kept p (h.kept p hp (hms merge List.mem_cons_self))
    exact fun m hm => hms m (List.mem_cons_of_mem _ hm)
  old p hp := h.old p (hrest.old p hp)

theorem swept_sweepMargLegacyPidProducts (refs : References) (order : List (ℕ × ℕ)) (c : Catalog) :
    Swept (committed refs order c) c (c.sweepMargLegacyPidProducts refs order) := by
  induction order generalizing c with
  | nil => exact Swept.refl c
  | cons merge rest ih =>
    have hrest := ih (c.mergeLegacyProductIntoCanonical refs merge)
    by_cases h : c.commits refs merge
    · rw [committed, if_pos h]
      exact Swept.cons (merged_of_commits h) hrest
    · rw [committed, if_neg h]
      rw [merge_of_not_commits h] at hrest ⊢
      rw [sweepMargLegacyPidProducts, List.foldl_cons, merge_of_not_commits h]
      exact hrest

theorem mem_legacyPairs {c : Catalog} {m : ℕ × ℕ} :
    m ∈ c.legacyPairs ↔ ∃ mp ∈ c.staged, ∃ p ∈ c.products.rows, ∃ q ∈ c.products.rows,
      p.code.text = mp.placeholder ∧ q.code.text = mp.fullCode ∧ p.id ≠ q.id ∧ (p.id, q.id) = m := by
  unfold legacyPairs
  simp only [List.mem_flatMap, List.mem_map, List.mem_filter, decide_eq_true_eq]
  constructor
  · rintro ⟨mp, hmp, p, ⟨hp, hlegacy⟩, q, ⟨hq, hcanonical, hne⟩, rfl⟩
    exact ⟨mp, hmp, p, hp, q, hq, hlegacy, hcanonical, hne, rfl⟩
  · rintro ⟨mp, hmp, p, hp, q, hq, hlegacy, hcanonical, hne, rfl⟩
    exact ⟨mp, hmp, p, ⟨hp, hlegacy⟩, q, ⟨hq, hcanonical, hne⟩, rfl⟩

end Catalog

theorem MargProduct.canonicalCode_text {mp : MargProduct} (h : mp.fullCode.length ≤ 50) :
    mp.canonicalCode.text = mp.fullCode :=
  leftText_eq_self h

/-! ### The law where names are apart -/

section Apart

variable {products : ProductTable} {staged : List MargProduct} {owned : ProductRows}
  {pageSize insertBatchSize : ℕ}

theorem exists_of_mem_legacyPairs (hapart : NamesApart products staged) {m : ℕ × ℕ}
    (hm : m ∈ (Catalog.projectProducts pageSize insertBatchSize
      ⟨products, staged, owned⟩).legacyPairs) :
    ∃ p ∈ (Catalog.projectProducts pageSize insertBatchSize ⟨products, staged, owned⟩).products.rows,
      ∃ q ∈ (Catalog.projectProducts pageSize insertBatchSize
        ⟨products, staged, owned⟩).products.rows,
        p.id = m.1 ∧ q.id = m.2 ∧ p ≠ q ∧ (∃ a ∈ staged, a.canonicalCode = q.code) ∧
          ∀ b ∈ staged, b.names p.code → b.canonicalCode = q.code := by
  have hprojects := Catalog.projects_projectProducts pageSize insertBatchSize
    ⟨products, staged, owned⟩
  obtain ⟨mp, hmp, p, hp, q, hq, hlegacy, hfull, hne, rfl⟩ := Catalog.mem_legacyPairs.1 hm
  obtain ⟨⟨a, ha, hmaster⟩, -⟩ := Catalog.linked_projectProducts hmp
  have hplaceholder := MargProduct.placeholder_eq_of_master hmaster
  have hacode : a.fullCode = mp.fullCode := congrArg (fun m => "MARG-" ++ m.2.2) hmaster
  have hshort : a.fullCode.length ≤ 50 := by
    rw [hacode, ← hfull]
    exact q.code.short
  have hcanonical : a.canonicalCode = q.code := by
    apply ProductCode.text_injective
    rw [MargProduct.canonicalCode_text hshort, hacode, hfull]
  have hpq : p ≠ q := fun h => hne (congrArg Product.id h)
  have hpid : a.pid ≠ a.code := by
    intro hpid
    apply hpq
    apply ProductTable.eq_of_code_eq hp hq
    apply ProductCode.text_injective
    rw [hlegacy, hfull, ← hplaceholder, ← hacode, MargProduct.placeholder, MargProduct.fullCode, hpid]
  have hexists : (∃ p ∈ products.rows, p.code.text = a.placeholder) ∨
      ∃ r ∈ staged, r.canonicalCode.text = a.placeholder := by
    obtain hold | hnew := hprojects.added p hp
    · exact Or.inl ⟨p, hold, hlegacy.trans hplaceholder.symm⟩
    · obtain ⟨r, hr, hcode⟩ := List.mem_map.1 hnew
      refine Or.inr ⟨r, hr, ?_⟩
      rw [hcode, hlegacy, hplaceholder]
  refine ⟨p, hp, q, hq, rfl, rfl, hpq, ⟨a, ha, hcanonical⟩, ?_⟩
  intro b hb hnames
  rw [← hcanonical]
  apply hapart a ha hshort hpid hexists b hb
  obtain hb | hb := hnames
  · exact Or.inl (hb.symm.trans (hlegacy.trans hplaceholder.symm))
  · right
    rw [← hb, hlegacy, hplaceholder]

theorem source_ne_of_canonical (hapart : NamesApart products staged) {m : ℕ × ℕ}
    (hm : m ∈ (Catalog.projectProducts pageSize insertBatchSize
      ⟨products, staged, owned⟩).legacyPairs)
    {r : Product}
    (hr : r ∈ (Catalog.projectProducts pageSize insertBatchSize
      ⟨products, staged, owned⟩).products.rows)
    (hcanonical : ∃ b ∈ staged, b.canonicalCode = r.code) : m.1 ≠ r.id := by
  obtain ⟨p, hp, q, hq, hpm, -, hpq, -, hnames⟩ := exists_of_mem_legacyPairs hapart hm
  intro hid
  obtain ⟨b, hb, hcode⟩ := hcanonical
  have hpr : p = r := ProductTable.eq_of_id_eq hp hr (hpm.trans hid)
  apply hpq
  apply ProductTable.eq_of_code_eq hp hq
  rw [hpr, ← hcode]
  exact hnames b hb (Or.inr (hpr ▸ hcode.symm))

theorem target_not_source (hapart : NamesApart products staged) {m n : ℕ × ℕ}
    (hm : m ∈ (Catalog.projectProducts pageSize insertBatchSize
      ⟨products, staged, owned⟩).legacyPairs)
    (hn : n ∈ (Catalog.projectProducts pageSize insertBatchSize
      ⟨products, staged, owned⟩).legacyPairs) : n.1 ≠ m.2 := by
  obtain ⟨-, -, q, hq, -, hqm, -, hcanonical, -⟩ := exists_of_mem_legacyPairs hapart hm
  rw [← hqm]
  exact source_ne_of_canonical hapart hn hq hcanonical

theorem transformLaw_of_namesApart (hapart : NamesApart products staged) :
    TransformLaw products staged := by
  intro owned refs pageSize insertBatchSize order projected horder
  have hprojects := Catalog.projects_projectProducts pageSize insertBatchSize
    ⟨products, staged, owned⟩
  have hswept := Catalog.swept_sweepMargLegacyPidProducts refs order projected
  have hpairs : ∀ m ∈ Catalog.committed refs order projected, m ∈ projected.legacyPairs :=
    fun m hm => horder.subset (Catalog.committed_subset hm)
  have hcanonical : ∀ p ∈ projected.products.rows, (∃ b ∈ staged, b.canonicalCode = p.code) →
      ∀ m ∈ Catalog.committed refs order projected, m.1 ≠ p.id := by
    intro p hp hb m hm
    exact source_ne_of_canonical hapart (hpairs m hm) hp hb
  have hmaster : ∀ mp ∈ projected.staged, ∃ a ∈ staged, a.canonicalCode = mp.canonicalCode := by
    intro mp hmp
    obtain ⟨⟨a, ha, heq⟩, -⟩ := Catalog.linked_projectProducts hmp
    exact ⟨a, ha, MargProduct.canonicalCode_eq_of_master heq⟩
  have hmoves : ∀ source,
      projected.MovesFairly source (follow (Catalog.committed refs order projected) source) := by
    intro source
    obtain hstay | ⟨m, hm, hsource, htarget⟩ := follow_eq_or
      (fun m hm n hn => target_not_source hapart (hpairs m hm) (hpairs n hn)) source
    · exact Or.inl hstay
    · obtain ⟨p, hp, q, hq, hpm, hqm, -, -, hnames⟩ :=
        exists_of_mem_legacyPairs hapart (hpairs m hm)
      refine Or.inr ⟨p, hp, q, hq, hpm.trans hsource, hqm.trans htarget.symm, ?_⟩
      intro mp hmp hmpnames
      obtain ⟨⟨a, ha, heq⟩, -⟩ := Catalog.linked_projectProducts hmp
      rw [← MargProduct.canonicalCode_eq_of_master heq]
      apply hnames a ha
      obtain h | h := hmpnames
      · exact Or.inl (h.trans (MargProduct.placeholder_eq_of_master heq).symm)
      · exact Or.inr (h.trans (MargProduct.canonicalCode_eq_of_master heq).symm)
  refine ⟨?_, ?_, ?_, ?_, ?_⟩
  · rw [hswept.staged, List.map_map]
    rfl
  · intro mp hmp
    rw [hswept.staged] at hmp
    obtain ⟨old, hold, rfl⟩ := List.mem_map.1 hmp
    obtain ⟨p, hp, hlink, hcode⟩ := (Catalog.linked_projectProducts hold).2
    have hsource := hcanonical p hp (hcode ▸ hmaster old hold)
    refine ⟨p, hswept.kept p hp hsource, ?_, hcode⟩
    dsimp only
    rw [hlink, Option.map_some, follow_eq_self hsource]
  · rintro p hp ⟨mp, hmp, hcode⟩
    exact hswept.kept p hp (hcanonical p hp (hcode ▸ hmaster mp hmp))
  · intro b hb
    obtain ⟨old, hold, hid, hproduct⟩ := hswept.batches b hb
    exact ⟨old, hold, hid, hproduct ▸ hmoves old.productId⟩
  · intro r hr
    have hmem : (r.table, r.id, r.productId) ∈ projected.owned.rows.map fun r =>
        (r.table, r.id, follow (Catalog.committed refs order projected) r.productId) :=
      hswept.rows ▸ List.mem_map_of_mem hr
    obtain ⟨old, hold, heq⟩ := List.mem_map.1 hmem
    simp only [Prod.mk.injEq] at heq
    obtain ⟨htable, hid, hproduct⟩ := heq
    exact ⟨old, hold, htable, hid, hproduct ▸ hmoves old.productId⟩

end Apart

/-! ### The law fails where they are not -/

namespace Catalog

theorem exists_committed_cons {c : Catalog} (hbatches : c.owned.batches = []) {m : ℕ × ℕ}
    (hm : m ∈ c.legacyPairs) :
    ∃ refs order, order.Perm c.legacyPairs ∧
      ∃ rest ⊆ c.legacyPairs, committed refs order c = m :: rest := by
  let refs : References := ⟨fun _ => false, fun _ => false⟩
  refine ⟨refs, m :: c.legacyPairs.erase m, (List.perm_cons_erase hm).symm,
    committed refs (c.legacyPairs.erase m) (c.mergeLegacyProductIntoCanonical refs m), ?_, ?_⟩
  · exact fun n hn => List.erase_subset (committed_subset hn)
  · have hcommits : c.commits refs m := by
      obtain ⟨-, -, p, -, q, hq, -, -, hne, rfl⟩ := mem_legacyPairs.1 hm
      have hcanonical : (c.products.rows.any fun r => r.id = q.id) = true :=
        List.any_eq_true.2 ⟨q, hq, decide_eq_true rfl⟩
      simp [commits, mergeTransaction, hbatches, hne, hcanonical]
    rw [committed, if_pos hcommits]

end Catalog

section Together

variable {products : ProductTable} {staged : List MargProduct} {a : MargProduct}

theorem exists_legacyPair (owned : ProductRows) (ha : a ∈ staged)
    (hshort : a.fullCode.length ≤ 50) (hpid : a.pid ≠ a.code) {p : Product}
    (hp : p ∈ (Catalog.projectProducts 0 0 ⟨products, staged, owned⟩).products.rows)
    (hcode : p.code.text = a.placeholder) :
    ∃ q ∈ (Catalog.projectProducts 0 0 ⟨products, staged, owned⟩).products.rows,
      q.code = a.canonicalCode ∧ p.id ≠ q.id ∧
        (p.id, q.id) ∈ (Catalog.projectProducts 0 0 ⟨products, staged, owned⟩).legacyPairs := by
  have hprojects := Catalog.projects_projectProducts 0 0 ⟨products, staged, owned⟩
  obtain ⟨q, hq, hqcode⟩ := hprojects.present a.canonicalCode (List.mem_map_of_mem ha)
  obtain ⟨mp, hmp, hmaster⟩ :=
    List.mem_map.1 (hprojects.masters.symm ▸ List.mem_map_of_mem ha : a.master ∈ _)
  have hqtext : q.code.text = a.fullCode := by
    rw [hqcode, MargProduct.canonicalCode_text hshort]
  have hne : p.id ≠ q.id := by
    intro hid
    have hpq := ProductTable.eq_of_id_eq hp hq hid
    rw [hpq, hqtext] at hcode
    have htext := congrArg String.toList hcode
    simp only [MargProduct.fullCode, MargProduct.placeholder, String.toList_append,
      List.append_cancel_left_eq, String.toList_inj] at htext
    exact hpid htext.symm
  refine ⟨q, hq, hqcode, hne, Catalog.mem_legacyPairs.2 ⟨mp, hmp, p, hp, q, hq, ?_, ?_, hne, rfl⟩⟩
  · rw [hcode, MargProduct.placeholder_eq_of_master hmaster]
  · rw [hqtext]
    exact (congrArg (fun m => "MARG-" ++ m.2.2) hmaster).symm

/-- A placeholder that is canonical for a staged row is merged away from under it. -/
theorem placeholder_not_canonical (h : TransformLaw products staged) (ha : a ∈ staged)
    (hshort : a.fullCode.length ≤ 50) (hpid : a.pid ≠ a.code) {r : MargProduct} (hr : r ∈ staged) :
    r.canonicalCode.text ≠ a.placeholder := by
  intro hcode
  let owned : ProductRows := ⟨[], [], []⟩
  let projected := Catalog.projectProducts 0 0 ⟨products, staged, owned⟩
  have hprojects := Catalog.projects_projectProducts 0 0 ⟨products, staged, owned⟩
  obtain ⟨p, hp, hpcode⟩ := hprojects.present r.canonicalCode (List.mem_map_of_mem hr)
  obtain ⟨q, hq, hqcode, hne, hpair⟩ :=
    exists_legacyPair owned ha hshort hpid hp (hpcode ▸ hcode)
  have hbatches : projected.owned.batches = [] := congrArg ProductRows.batches hprojects.owned
  obtain ⟨refs, order, horder, rest, -, hcommitted⟩ :=
    Catalog.exists_committed_cons hbatches hpair
  have hlaw := h owned refs 0 0 order horder
  have hswept := Catalog.swept_sweepMargLegacyPidProducts refs order projected
  rw [hcommitted] at hswept
  -- the rows of both codes end with one link, that of the merge
  have hlinked : ∀ b ∈ staged, ∀ s ∈ projected.products.rows, s.code = b.canonicalCode →
      redirect (p.id, q.id) s.id = q.id →
        ∃ t ∈ (projected.sweepMargLegacyPidProducts refs order).products.rows,
          t.id = follow rest q.id ∧ t.code = b.canonicalCode := by
    intro b hb s hs hscode hredirect
    obtain ⟨mp, hmp, hmaster⟩ :=
      List.mem_map.1 (hprojects.masters.symm ▸ List.mem_map_of_mem hb : b.master ∈ _)
    have hbcode := MargProduct.canonicalCode_eq_of_master hmaster
    obtain ⟨s', hs', hlink, hs'code⟩ := (Catalog.linked_projectProducts hmp).2
    have hsame : s' = s := ProductTable.eq_of_code_eq hs' hs (by rw [hs'code, hscode, hbcode])
    have hafter : { mp with productId := mp.productId.map (follow ((p.id, q.id) :: rest)) } ∈
        (projected.sweepMargLegacyPidProducts refs order).staged := by
      rw [hswept.staged]
      exact List.mem_map_of_mem hmp
    obtain ⟨t, ht, htlink, htcode⟩ := hlaw.linked _ hafter
    refine ⟨t, ht, ?_, htcode.trans hbcode⟩
    dsimp only at htlink
    rw [hlink, hsame, Option.map_some, Option.some.injEq, follow_cons, hredirect] at htlink
    exact htlink.symm
  obtain ⟨t, ht, htid, htcode⟩ := hlinked r hr p hp hpcode (redirect_self (p.id, q.id))
  obtain ⟨u, hu, huid, hucode⟩ := hlinked a ha q hq hqcode (redirect_of_ne hne.symm)
  have htu : t = u := ProductTable.eq_of_id_eq ht hu (htid.trans huid.symm)
  apply hne
  have hcodes : p.code = q.code := by rw [hpcode, hqcode, ← htcode, ← hucode, htu]
  rw [ProductTable.eq_of_code_eq hp hq hcodes]

theorem canonicalCode_eq_of_shared (h : TransformLaw products staged) (ha : a ∈ staged)
    (hshort : a.fullCode.length ≤ 50) (hpid : a.pid ≠ a.code) {p : Product} (hp : p ∈ products.rows)
    (hcode : p.code.text = a.placeholder) {b : MargProduct} (hb : b ∈ staged)
    (hplaceholder : b.placeholder = a.placeholder) : b.canonicalCode = a.canonicalCode := by
  let owned : ProductRows := ⟨[], [], [⟨.actuals, 0, p.id, none⟩]⟩
  let projected := Catalog.projectProducts 0 0 ⟨products, staged, owned⟩
  have hprojects := Catalog.projects_projectProducts 0 0 ⟨products, staged, owned⟩
  have hp' : p ∈ projected.products.rows := hprojects.kept p hp
  obtain ⟨q, hq, hqcode, hne, hpair⟩ := exists_legacyPair owned ha hshort hpid hp' hcode
  have hbatches : projected.owned.batches = [] := congrArg ProductRows.batches hprojects.owned
  obtain ⟨refs, order, horder, rest, hrest, hcommitted⟩ :=
    Catalog.exists_committed_cons hbatches hpair
  have hlaw := h owned refs 0 0 order horder
  have hswept := Catalog.swept_sweepMargLegacyPidProducts refs order projected
  rw [hcommitted] at hswept
  have htargets : ∀ n ∈ rest, n.2 ≠ p.id := by
    intro n hn hid
    obtain ⟨mp, hmp, p', -, q', hq', -, hfull, -, rfl⟩ := Catalog.mem_legacyPairs.1 (hrest hn)
    obtain ⟨⟨r, hr, hmaster⟩, -⟩ := Catalog.linked_projectProducts hmp
    have hrfull : r.fullCode = mp.fullCode := congrArg (fun m => "MARG-" ++ m.2.2) hmaster
    apply placeholder_not_canonical h ha hshort hpid hr
    rw [MargProduct.canonicalCode_text, hrfull, ← hfull, ← hcode]
    · exact congrArg (fun s => s.code.text) (ProductTable.eq_of_id_eq hq' hp' hid)
    · rw [hrfull, ← hfull]
      exact q'.code.short
  have hmoved : follow ((p.id, q.id) :: rest) p.id ≠ p.id := by
    rw [follow_cons, redirect_self]
    exact follow_ne hne.symm htargets
  have hrows : projected.owned.rows = [⟨.actuals, 0, p.id, none⟩] :=
    congrArg ProductRows.rows hprojects.owned
  have hmem : (ProductRowTable.actuals, 0, follow ((p.id, q.id) :: rest) p.id) ∈
      (projected.sweepMargLegacyPidProducts refs order).owned.rows.map fun r =>
        (r.table, r.id, r.productId) := by
    rw [hswept.rows, hrows]
    exact List.mem_cons_self
  obtain ⟨final, hfinal, heq⟩ := List.mem_map.1 hmem
  simp only [Prod.mk.injEq] at heq
  obtain ⟨old, hold, -, -, hfair⟩ := hlaw.rows final hfinal
  rw [hrows, List.mem_singleton] at hold
  rw [hold, heq.2.2] at hfair
  obtain hstay | ⟨s, hs, t, -, hsid, -, hnames⟩ := hfair
  · exact absurd hstay hmoved
  · have hsp : s = p := ProductTable.eq_of_id_eq hs hp' hsid
    have hnamed : ∀ c ∈ staged, c.placeholder = a.placeholder → c.canonicalCode = t.code := by
      intro c hc hcname
      obtain ⟨mp, hmp, hmaster⟩ :=
        List.mem_map.1 (hprojects.masters.symm ▸ List.mem_map_of_mem hc : c.master ∈ _)
      rw [← MargProduct.canonicalCode_eq_of_master hmaster]
      apply hnames mp hmp
      left
      rw [hsp, hcode, ← hcname, MargProduct.placeholder_eq_of_master hmaster]
    rw [hnamed b hb hplaceholder, hnamed a ha rfl]

end Together

/-- Staged products keep their own products exactly when no placeholder names two of them. -/
theorem transformLaw_iff_namesApart (products : ProductTable) (staged : List MargProduct) :
    TransformLaw products staged ↔ NamesApart products staged := by
  refine ⟨?_, transformLaw_of_namesApart⟩
  intro h a ha hshort hpid hexists b hb hnames
  obtain hplaceholder | hcanonical := hnames
  · obtain ⟨p, hp, hcode⟩ | ⟨r, hr, hcode⟩ := hexists
    · exact canonicalCode_eq_of_shared h ha hshort hpid hp hcode hb hplaceholder
    · exact absurd hcode (placeholder_not_canonical h ha hshort hpid hr)
  · exact absurd hcanonical (placeholder_not_canonical h ha hshort hpid hb)

/-- An item whose pid is the code of another one. -/
def overlappingProducts : List MargProduct :=
  [⟨1, "A1", "B7", none⟩, ⟨1, "X2", "A1", none⟩]

/-- The product of the second item is merged into that of the first. -/
theorem not_transformLaw_overlappingProducts :
    ¬TransformLaw ⟨[], 0, by decide, by decide, by decide⟩ overlappingProducts := by
  intro h
  have hlaw := h ⟨[], [], []⟩ ⟨fun _ => false, fun _ => false⟩ 200 100 [(1, 0)] (by decide +kernel)
  obtain ⟨p, hp, -, hcode⟩ := hlaw.linked ⟨1, "X2", "A1", some 0⟩ (by decide +kernel)
  have hnone : ∀ p ∈ ((Catalog.projectProducts 200 100
      ⟨⟨[], 0, by decide, by decide, by decide⟩, overlappingProducts, ⟨[], [], []⟩⟩).sweepMargLegacyPidProducts
        ⟨fun _ => false, fun _ => false⟩ [(1, 0)]).products.rows, p.code ≠ .cut "MARG-A1" := by
    decide +kernel
  exact hnone p hp hcode

end Forecast
