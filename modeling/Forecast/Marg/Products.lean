import Forecast.Lib.KeyedTable
import Forecast.Lib.Batches
import Forecast.Lib.Redirection
import Forecast.Marg.Values

/-!
# Products and the rows that belong to them

A staged Marg product becomes the product whose code is `MARG-` and its own
code, cut to the length of the column. `transformProducts` writes these products
page by page and links the staged rows to them by code.
-/

namespace Forecast

/-! ### The product table -/

/-- A value of `products.code`, a `VARCHAR(50)`. -/
structure ProductCode where
  text : String
  short : text.length ≤ 50
deriving DecidableEq

/-- `substring(0, n)`, and `LEFT(…, n)` in the database. -/
def leftText (n : ℕ) (text : String) : String := String.ofList (text.toList.take n)

theorem leftText_eq_self {n : ℕ} {text : String} (h : text.length ≤ n) : leftText n text = text := by
  rw [leftText, List.take_of_length_le (by rwa [String.length_toList]), String.ofList_toList]

namespace ProductCode

def cut (text : String) : ProductCode where
  text := leftText 50 text
  short := by
    rw [leftText, String.length_ofList, List.length_take]
    exact min_le_left 50 _

theorem text_injective {a b : ProductCode} (h : a.text = b.text) : a = b := by
  cases a
  cases b
  simpa using h

end ProductCode

structure Product where
  id : ℕ
  code : ProductCode
deriving DecidableEq

/-- The products of a tenant; an id is never given twice. -/
structure ProductTable where
  rows : List Product
  nextId : ℕ
  ids_nodup : (rows.map Product.id).Nodup
  codes_nodup : (rows.map Product.code).Nodup
  id_lt : ∀ p ∈ rows, p.id < nextId

namespace ProductTable

def byCode (t : ProductTable) (code : ProductCode) : Option Product :=
  t.rows.find? fun p => p.code = code

/-- `INSERT … ON CONFLICT (tenant_id, code) DO UPDATE`; of the columns only id and code are kept. -/
def upsert (t : ProductTable) (code : ProductCode) : ProductTable :=
  if h : code ∈ t.rows.map Product.code then t
  else
    { rows := t.rows ++ [⟨t.nextId, code⟩]
      nextId := t.nextId + 1
      ids_nodup := by
        rw [List.map_append, List.nodup_append']
        refine ⟨t.ids_nodup, List.nodup_singleton _, ?_⟩
        intro id hid hnew
        obtain ⟨p, hp, rfl⟩ := List.mem_map.1 hid
        have hlt := t.id_lt p hp
        have hnext : p.id = t.nextId := List.mem_singleton.1 hnew
        omega
      codes_nodup := by
        rw [List.map_append, List.nodup_append']
        refine ⟨t.codes_nodup, List.nodup_singleton _, ?_⟩
        intro c hc hnew
        have hcode : c = code := List.mem_singleton.1 hnew
        exact h (hcode ▸ hc)
      id_lt := by
        intro p hp
        obtain hp | hp := List.mem_append.1 hp
        · exact (t.id_lt p hp).trans (Nat.lt_succ_self _)
        · rw [List.mem_singleton] at hp
          rw [hp]
          exact Nat.lt_succ_self _ }

def delete (t : ProductTable) (id : ℕ) : ProductTable where
  rows := t.rows.filter fun p => p.id ≠ id
  nextId := t.nextId
  ids_nodup := t.ids_nodup.sublist (List.filter_sublist.map _)
  codes_nodup := t.codes_nodup.sublist (List.filter_sublist.map _)
  id_lt p hp := t.id_lt p (List.mem_filter.1 hp).1

theorem eq_of_code_eq {t : ProductTable} {p q : Product} (hp : p ∈ t.rows) (hq : q ∈ t.rows)
    (h : p.code = q.code) : p = q :=
  List.inj_on_of_nodup_map t.codes_nodup hp hq h

theorem eq_of_id_eq {t : ProductTable} {p q : Product} (hp : p ∈ t.rows) (hq : q ∈ t.rows)
    (h : p.id = q.id) : p = q :=
  List.inj_on_of_nodup_map t.ids_nodup hp hq h

theorem byCode_eq_some {t : ProductTable} {p : Product} :
    t.byCode p.code = some p ↔ p ∈ t.rows := by
  constructor
  · exact List.mem_of_find?_eq_some
  · intro hp
    cases h : t.byCode p.code with
    | none =>
      have hne := List.find?_eq_none.1 h p hp
      simp at hne
    | some q =>
      have hcode : q.code = p.code := by simpa using List.find?_some h
      rw [eq_of_code_eq (List.mem_of_find?_eq_some h) hp hcode]

theorem mem_upsert_of_mem {t : ProductTable} {p : Product} {code : ProductCode} (hp : p ∈ t.rows) :
    p ∈ (t.upsert code).rows := by
  unfold upsert
  split_ifs
  · exact hp
  · exact List.mem_append_left _ hp

theorem exists_mem_upsert (t : ProductTable) (code : ProductCode) :
    ∃ p ∈ (t.upsert code).rows, p.code = code := by
  unfold upsert
  split_ifs with h
  · exact List.mem_map.1 h
  · exact ⟨_, List.mem_append_right _ List.mem_cons_self, rfl⟩

theorem code_of_mem_upsert {t : ProductTable} {p : Product} {code : ProductCode}
    (hp : p ∈ (t.upsert code).rows) : p ∈ t.rows ∨ p.code = code := by
  unfold upsert at hp
  split_ifs at hp
  · exact Or.inl hp
  · obtain hp | hp := List.mem_append.1 hp
    · exact Or.inl hp
    · rw [List.mem_singleton] at hp
      exact Or.inr (hp ▸ rfl)

def upsertAll (t : ProductTable) (codes : List ProductCode) : ProductTable := codes.foldl upsert t

theorem mem_upsertAll_of_mem {t : ProductTable} {p : Product} {codes : List ProductCode}
    (hp : p ∈ t.rows) : p ∈ (t.upsertAll codes).rows := by
  induction codes generalizing t with
  | nil => exact hp
  | cons code codes ih => exact ih (mem_upsert_of_mem hp)

theorem exists_mem_upsertAll {t : ProductTable} {codes : List ProductCode} {code : ProductCode}
    (h : code ∈ codes) : ∃ p ∈ (t.upsertAll codes).rows, p.code = code := by
  induction codes generalizing t with
  | nil => cases h
  | cons first codes ih =>
    obtain rfl | h := List.mem_cons.1 h
    · obtain ⟨p, hp, hcode⟩ := t.exists_mem_upsert code
      have hmem : p ∈ ((t.upsert code).upsertAll codes).rows := mem_upsertAll_of_mem hp
      exact ⟨p, hmem, hcode⟩
    · exact ih h

theorem code_of_mem_upsertAll {t : ProductTable} {p : Product} {codes : List ProductCode}
    (hp : p ∈ (t.upsertAll codes).rows) : p ∈ t.rows ∨ p.code ∈ codes := by
  induction codes generalizing t with
  | nil => exact Or.inl hp
  | cons code codes ih =>
    obtain h | h := ih hp
    · obtain h | h := code_of_mem_upsert h
      · exact Or.inl h
      · exact Or.inr (h ▸ List.mem_cons_self)
    · exact Or.inr (List.mem_cons_of_mem _ h)

end ProductTable

/-! ### Staged products and the rows of a product -/

/-- A row of `marg_products`. -/
structure MargProduct where
  companyId : ℤ
  pid : String
  code : String
  productId : Option ℕ
deriving DecidableEq

namespace MargProduct

/-- The code a product had before its master row was staged. -/
def placeholder (mp : MargProduct) : String := "MARG-" ++ mp.pid

def fullCode (mp : MargProduct) : String := "MARG-" ++ mp.code

def canonicalCode (mp : MargProduct) : ProductCode := .cut mp.fullCode

end MargProduct

/-- A row of `inventory_levels`. -/
structure InventoryLevel where
  productId : ℕ
  locationId : ℕ
  onHandQty : ℚ
  availableQty : ℚ
  averageCost : Option ℚ
  inventoryValue : Option ℚ
deriving DecidableEq

inductive BatchStatus
  | created
  | inProcess
  | available
  | quarantine
  | expired
  | consumed
  | recalled
deriving DecidableEq

/-- A row of `batches`. -/
structure Batch where
  id : ℕ
  productId : ℕ
  locationId : ℕ
  batchNumber : String
  quantity : ℚ
  availableQty : ℚ
  status : BatchStatus
  manufacturingDate : Option Millis
  expiryDate : Option Millis
  costPerUnit : Option ℚ
  notes : Option String
deriving DecidableEq

/-- The other tables whose rows a merge hands over. -/
inductive ProductRowTable
  | actuals
  | inventoryTransactions
  | inventoryLedger
deriving DecidableEq

/-- A row of one of them. -/
structure ProductRow where
  table : ProductRowTable
  id : ℕ
  productId : ℕ
  batchId : Option ℕ
deriving DecidableEq

/-- The rows of a tenant that refer to its products. -/
structure ProductRows where
  levels : List InventoryLevel
  batches : List Batch
  rows : List ProductRow

structure Catalog where
  products : ProductTable
  staged : List MargProduct
  owned : ProductRows

/-! ### Projection of the staged products -/

namespace Catalog

/-- One statement: the products of a chunk are written and the staged rows linked by code. -/
def upsertChunk (c : Catalog) (chunk : List MargProduct) : Catalog :=
  let codes := chunk.map MargProduct.canonicalCode
  let products := c.products.upsertAll codes
  { c with
    products := products
    staged := c.staged.map fun mp =>
      if mp.canonicalCode ∈ codes then
        { mp with productId := (products.byCode mp.canonicalCode).map Product.id }
      else mp }

/-- Of the rows with one code the last is written. -/
def projectPage (insertBatchSize : ℕ) (c : Catalog) (page : List MargProduct) : Catalog :=
  (Paging.pages insertBatchSize (KeyedTable.lastOfEach MargProduct.canonicalCode page)).foldl
    upsertChunk c

/-- `transformProducts` up to the sweep; the staged rows are listed in the order of their ids. -/
def projectProducts (pageSize insertBatchSize : ℕ) (c : Catalog) : Catalog :=
  (Paging.pages pageSize c.staged).foldl (projectPage insertBatchSize) c

end Catalog

/-! ### What the projection links -/

/-- What identifies a staged product, and its code. -/
def MargProduct.master (mp : MargProduct) : ℤ × String × String := (mp.companyId, mp.pid, mp.code)

theorem MargProduct.canonicalCode_eq_of_master {a b : MargProduct} (h : a.master = b.master) :
    a.canonicalCode = b.canonicalCode := by
  have hcode : a.code = b.code := congrArg (fun m => m.2.2) h
  rw [canonicalCode, canonicalCode, fullCode, fullCode, hcode]

theorem MargProduct.placeholder_eq_of_master {a b : MargProduct} (h : a.master = b.master) :
    a.placeholder = b.placeholder := by
  have hpid : a.pid = b.pid := congrArg (fun m => m.2.1) h
  rw [placeholder, placeholder, hpid]

def MargProduct.Linked (t : ProductTable) (mp : MargProduct) : Prop :=
  ∃ p ∈ t.rows, mp.productId = some p.id ∧ p.code = mp.canonicalCode

/-- The products with the codes are there, and the rows with the codes linked to them. -/
structure Catalog.Projects (codes : ProductCode → Prop) (c c' : Catalog) : Prop where
  kept : ∀ p ∈ c.products.rows, p ∈ c'.products.rows
  added : ∀ p ∈ c'.products.rows, p ∈ c.products.rows ∨ codes p.code
  present : ∀ code, codes code → ∃ p ∈ c'.products.rows, p.code = code
  masters : c'.staged.map MargProduct.master = c.staged.map MargProduct.master
  linked : ∀ mp ∈ c'.staged, codes mp.canonicalCode → mp.Linked c'.products
  others : ∀ mp ∈ c'.staged, ¬codes mp.canonicalCode → mp ∈ c.staged
  owned : c'.owned = c.owned

namespace Catalog

variable {c c' c'' : Catalog} {A B : ProductCode → Prop}

theorem Projects.refl (h : ∀ code, ¬A code) (c : Catalog) : Projects A c c where
  kept _ hp := hp
  added _ hp := Or.inl hp
  present code hcode := absurd hcode (h code)
  masters := rfl
  linked _ _ hcode := absurd hcode (h _)
  others _ hmp _ := hmp
  owned := rfl

theorem Projects.trans (h : Projects A c c') (h' : Projects B c' c'') :
    Projects (fun code => A code ∨ B code) c c'' where
  kept p hp := h'.kept p (h.kept p hp)
  added := by
    intro p hp
    obtain hp | hp := h'.added p hp
    · exact (h.added p hp).imp_right Or.inl
    · exact Or.inr (Or.inr hp)
  present := by
    rintro code (hcode | hcode)
    · obtain ⟨p, hp, hpcode⟩ := h.present code hcode
      exact ⟨p, h'.kept p hp, hpcode⟩
    · exact h'.present code hcode
  masters := h'.masters.trans h.masters
  linked := by
    intro mp hmp hcode
    by_cases hB : B mp.canonicalCode
    · exact h'.linked mp hmp hB
    · obtain ⟨p, hp, hlink, hpcode⟩ :=
        h.linked mp (h'.others mp hmp hB) (hcode.resolve_right hB)
      exact ⟨p, h'.kept p hp, hlink, hpcode⟩
  others := by
    intro mp hmp hcode
    obtain ⟨hA, hB⟩ := not_or.1 hcode
    exact h.others mp (h'.others mp hmp hB) hA
  owned := h'.owned.trans h.owned

theorem Projects.congr (h : Projects A c c') (hcodes : ∀ code, A code ↔ B code) :
    Projects B c c' := by
  have heq : A = B := funext fun code => propext (hcodes code)
  exact heq ▸ h

theorem Projects.foldl {α : Type*} {step : Catalog → α → Catalog} {codesOf : α → ProductCode → Prop}
    (hstep : ∀ c x, Projects (codesOf x) c (step c x)) (xs : List α) (c : Catalog) :
    Projects (fun code => ∃ x ∈ xs, codesOf x code) c (xs.foldl step c) := by
  induction xs generalizing c with
  | nil =>
    apply Projects.refl
    rintro code ⟨x, hx, -⟩
    cases hx
  | cons x xs ih =>
    apply ((hstep c x).trans (ih (step c x))).congr
    intro code
    rw [List.exists_mem_cons_iff]

theorem projects_upsertChunk (c : Catalog) (chunk : List MargProduct) :
    Projects (· ∈ chunk.map MargProduct.canonicalCode) c (c.upsertChunk chunk) where
  kept _ hp := ProductTable.mem_upsertAll_of_mem hp
  added _ hp := ProductTable.code_of_mem_upsertAll hp
  present _ hcode := ProductTable.exists_mem_upsertAll hcode
  masters := by
    unfold upsertChunk
    dsimp only
    rw [List.map_map]
    apply List.map_congr_left
    intro mp _
    rw [Function.comp_apply]
    split_ifs <;> rfl
  linked := by
    intro mp hmp hcode
    obtain ⟨old, -, hold⟩ := List.mem_map.1 hmp
    split_ifs at hold with hchunk
    · obtain ⟨p, hp, hpcode⟩ :=
        ProductTable.exists_mem_upsertAll (t := c.products) hchunk
      refine ⟨p, hp, ?_, ?_⟩
      · rw [← hold]
        dsimp only
        rw [← hpcode, ProductTable.byCode_eq_some.2 hp]
        rfl
      · rw [hpcode, ← hold]
        rfl
    · rw [← hold] at hcode
      exact absurd hcode hchunk
  others := by
    intro mp hmp hcode
    obtain ⟨old, hmem, hold⟩ := List.mem_map.1 hmp
    split_ifs at hold with hchunk
    · rw [← hold] at hcode
      exact absurd hchunk hcode
    · exact hold ▸ hmem
  owned := rfl

theorem projects_projectPage (insertBatchSize : ℕ) (c : Catalog) (page : List MargProduct) :
    Projects (· ∈ page.map MargProduct.canonicalCode) c (c.projectPage insertBatchSize page) := by
  apply (Projects.foldl projects_upsertChunk _ c).congr
  intro code
  rw [Paging.exists_mem_map_pages, KeyedTable.mem_keys_lastOfEach]

theorem projects_projectProducts (pageSize insertBatchSize : ℕ) (c : Catalog) :
    Projects (· ∈ c.staged.map MargProduct.canonicalCode) c
      (c.projectProducts pageSize insertBatchSize) := by
  apply (Projects.foldl (projects_projectPage insertBatchSize) _ c).congr
  intro code
  exact Paging.exists_mem_map_pages

theorem linked_projectProducts {pageSize insertBatchSize : ℕ} {mp : MargProduct}
    (hmp : mp ∈ (c.projectProducts pageSize insertBatchSize).staged) :
    (∃ old ∈ c.staged, old.master = mp.master) ∧
      mp.Linked (c.projectProducts pageSize insertBatchSize).products := by
  have h := projects_projectProducts pageSize insertBatchSize c
  have hmaster : mp.master ∈ c.staged.map MargProduct.master :=
    h.masters ▸ List.mem_map_of_mem hmp
  obtain ⟨old, hold, heq⟩ := List.mem_map.1 hmaster
  refine ⟨⟨old, hold, heq⟩, h.linked mp hmp ?_⟩
  rw [← MargProduct.canonicalCode_eq_of_master heq]
  exact List.mem_map_of_mem hold

end Catalog

end Forecast
