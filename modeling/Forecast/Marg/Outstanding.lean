import Forecast.Lib.DecimalColumn
import Forecast.Lib.Grouping
import Forecast.Marg.AccountPostings
import Mathlib.Algebra.BigOperators.Fin

/-!
# Outstanding invoices and the ledger of a party

The open invoices are shown by party, by account group and one by one. The first two views take
the sign of a balance from the letter of the account group, the third one does not. The ledger of
a party opens with what was posted before its window, and without a window with the opening of
the party's balance row.
-/

open KeyedTable DecimalColumn

namespace Forecast.MargOutstandings

/-! ### Totals by a key -/

section Gather

variable {α ρ κ : Type*} [DecidableEq κ] {key : α → κ} {rowKey : ρ → κ} {start : ρ → α}
  {add : α → ρ → α}

variable (key rowKey start add) in
/-- The row is added to the entry of its key, which it opens when there is none yet. -/
def gather (t : List α) (r : ρ) : List α :=
  upsert key t (add ((lookup key t (rowKey r)).getD (start r)) r)

theorem nodup_foldl_gather {t : List α} (ht : (t.map key).Nodup) (rows : List ρ) :
    ((rows.foldl (gather key rowKey start add) t).map key).Nodup := by
  induction rows generalizing t with
  | nil => exact ht
  | cons r rows ih => exact ih (nodup_keys_upsert ht)

section Entries

variable (hadd : ∀ a r, key (add a r) = key a) (hstart : ∀ r, key (start r) = rowKey r)
include hadd hstart

theorem key_gathered (t : List α) (r : ρ) :
    key (add ((lookup key t (rowKey r)).getD (start r)) r) = rowKey r := by
  rw [hadd]
  cases hfound : lookup key t (rowKey r) with
  | none => exact hstart r
  | some a => exact (lookup_eq_some hfound).2

theorem mem_keys_foldl_gather {t : List α} {rows : List ρ} {r : ρ} (hr : r ∈ rows) :
    rowKey r ∈ (rows.foldl (gather key rowKey start add) t).map key := by
  have hkeep : ∀ (rows : List ρ) (t : List α) {k : κ}, k ∈ t.map key →
      k ∈ (rows.foldl (gather key rowKey start add) t).map key := by
    intro rows
    induction rows with
    | nil => exact fun t k hk => hk
    | cons r rows ih => exact fun t k hk => ih _ (mem_keys_upsert.2 (.inl hk))
  induction rows generalizing t with
  | nil => cases hr
  | cons q rows ih =>
    rcases List.mem_cons.1 hr with rfl | hrest
    · exact hkeep rows _ (mem_keys_upsert.2 (.inr (key_gathered hadd hstart t r).symm))
    · exact ih hrest

/-- An entry has taken in the rows of its key, in their order. -/
theorem foldl_gather_apply {β : Type*} {f : α → β} (step : β → ρ → β) {z : β}
    (hf : ∀ a r, f (add a r) = step (f a) r) (hzero : ∀ r, f (start r) = z) {rows : List ρ} {a : α}
    (ha : a ∈ rows.foldl (gather key rowKey start add) []) :
    f a = (rows.filter fun r => rowKey r = key a).foldl step z := by
  have hfold : ∀ (t : List α) (k : κ),
      ((lookup key (rows.foldl (gather key rowKey start add) t) k).map f).getD z =
        (rows.filter fun r => rowKey r = k).foldl step (((lookup key t k).map f).getD z) := by
    intro t k
    clear ha
    induction rows generalizing t with
    | nil => rfl
    | cons r rows ih =>
      rw [List.foldl_cons, ih, gather, lookup_upsert, key_gathered hadd hstart]
      by_cases hk : rowKey r = k
      · rw [if_pos hk, List.filter_cons_of_pos (by simpa using hk), List.foldl_cons,
          Option.map_some, Option.getD_some, hf, hk]
        cases lookup key t k with
        | none => rw [Option.getD_none, hzero, Option.map_none, Option.getD_none]
        | some b => rfl
      · rw [if_neg hk, List.filter_cons_of_neg (by simpa using hk)]
  have hentry := hfold [] (key a)
  have hkeys : (([] : List α).map key).Nodup := by simp
  rw [lookup_of_mem (nodup_foldl_gather hkeys rows) ha] at hentry
  exact hentry

theorem any_key_of_mem {rows : List ρ} {shown : List α}
    (hshown : shown.Perm (rows.foldl (gather key rowKey start add) [])) {r : ρ} (hr : r ∈ rows) :
    (shown.any fun a => rowKey r = key a) = true := by
  obtain ⟨a, ha, hra⟩ := List.mem_map.1 (mem_keys_foldl_gather hadd hstart (t := []) hr)
  exact List.any_eq_true.2 ⟨a, hshown.mem_iff.2 ha, decide_eq_true hra.symm⟩

end Entries

end Gather

/-! ### Sums over the entries -/

section Sums

variable {α ρ κ : Type*} [DecidableEq κ] {key : α → κ} {rowKey : ρ → κ} {start : ρ → α}
  {add : α → ρ → α} {rows : List ρ} {shown : List α}

/-- Entries with distinct keys share their rows out. -/
theorem sum_map_matchedSum {M : Type*} [AddCommMonoid M] (hkeys : (shown.map key).Nodup)
    (g : ρ → M) : (shown.map (Grouping.matchedSum (fun a r => rowKey r = key a) g rows)).sum =
      ((rows.filter fun r => shown.any fun a => rowKey r = key a).map g).sum := by
  refine Grouping.sum_matchedSum_of_countP_le_one g fun r _ =>
    (Grouping.countP_le_one_iff hkeys.of_map).2 fun a ha b hb hka hkb => ?_
  exact List.inj_on_of_nodup_map hkeys ha hb
    ((of_decide_eq_true hka).symm.trans (of_decide_eq_true hkb))

variable (hadd : ∀ a r, key (add a r) = key a) (hstart : ∀ r, key (start r) = rowKey r)
  (hshown : shown.Perm (rows.foldl (gather key rowKey start add) []))
include hadd hstart hshown

theorem sum_gathered {M : Type*} [AddCommMonoid M] {f : α → M} {g : ρ → M}
    (hf : ∀ a r, f (add a r) = f a + g r) (hzero : ∀ r, f (start r) = 0) :
    (shown.map f).sum = (rows.map g).sum := by
  have hentry : ∀ a ∈ shown, f a =
      Grouping.matchedSum (fun a r => decide (rowKey r = key a)) g rows a := by
    intro a ha
    rw [foldl_gather_apply hadd hstart (fun m r => m + g r) hf hzero (hshown.mem_iff.1 ha),
      Grouping.matchedSum, List.sum_eq_foldl, List.foldl_map]
  have hkeys : (shown.map key).Nodup :=
    (hshown.map key).nodup_iff.2 (nodup_foldl_gather (by simp) rows)
  rw [List.map_congr_left hentry, sum_map_matchedSum hkeys,
    List.filter_eq_self.2 fun r hr => any_key_of_mem hadd hstart hshown hr]

/-- An amount that the rows with `p` add to, in an entry. -/
theorem gathered_eq_sum {p : ρ → Bool} {f : α → ℚ} {g : ρ → ℚ}
    (hf : ∀ a r, f (add a r) = if p r then Binary64.add (f a) (g r) else f a)
    (hzero : ∀ r, f (start r) = 0) {a : α} (ha : a ∈ shown) :
    f a = Binary64.sum (((rows.filter p).filter fun r => rowKey r = key a).map g) := by
  rw [foldl_gather_apply hadd hstart (fun x r => if p r then Binary64.add x (g r) else x) hf hzero
    (hshown.mem_iff.1 ha), Binary64.sum, List.foldl_map, List.filter_comm]
  exact List.foldl_filter.symm

/-- Where no rounding is needed, the entries of any grouping sum up to the same. -/
theorem binarySum_gathered {p : ρ → Bool} {f : α → ℚ} {g : ρ → ℚ}
    (hf : ∀ a r, f (add a r) = if p r then Binary64.add (f a) (g r) else f a)
    (hzero : ∀ r, f (start r) = 0) (hexact : Binary64.AddsExactly ((rows.filter p).map g)) :
    Binary64.sum (shown.map f) = ((rows.filter p).map g).sum := by
  have hentry : ∀ a ∈ shown, f a =
      Grouping.matchedSum (fun a r => decide (rowKey r = key a)) g (rows.filter p) a := by
    intro a ha
    rw [gathered_eq_sum hadd hstart hshown hf hzero ha]
    exact (hexact.sublist (List.filter_sublist.map g)).sum_eq
  have hkeys : (shown.map key).Nodup :=
    (hshown.map key).nodup_iff.2 (nodup_foldl_gather (by simp) rows)
  rw [List.map_congr_left hentry, Binary64.sum_eq]
  · rw [sum_map_matchedSum hkeys, List.filter_eq_self.2 fun r hr =>
      any_key_of_mem hadd hstart hshown (List.mem_of_mem_filter hr)]
  · intro ys hys
    rw [List.prefix_iff_eq_take.1 hys, ← List.map_take,
      sum_map_matchedSum ((List.take_sublist _ _).map key |>.nodup hkeys)]
    exact hexact _ (List.filter_sublist.map g)

end Sums

/-! ### The rows -/

/-- A row of `marg_outstandings`. -/
structure MargOutstanding where
  companyId : ℤ
  ord : String
  vcn : String
  date : Millis
  days : ℤ
  finalAmt : Option ℚ
  balance : Option ℚ
  pdLess : Option ℚ
  groupCode : Option String
  sourceDeleted : Bool
deriving DecidableEq

/-- The time up to which invoices age, and whether the caller gave it. -/
structure AsOf where
  time : Millis
  explicit : Bool

def resolveOutstandingAgeDays (storedDays : ℤ) (invoiceDate asOf : Millis) : ℤ :=
  if 0 < storedDays then storedDays
  else max 0 ((dateColumn asOf - dateColumn invoiceDate) / 86400000)

def MargOutstanding.ageDays (asOf : AsOf) (r : MargOutstanding) : ℤ :=
  resolveOutstandingAgeDays (if asOf.explicit then 0 else r.days) r.date asOf.time

theorem bucketIndex_lt (days : ℤ) (boundaries : List ℤ) :
    boundaries.findIdx (fun b => decide (days ≤ b)) < boundaries.length + 1 :=
  Nat.lt_succ_of_le List.findIdx_le_length

/-- The first boundary that the age does not pass, else the bucket behind the last one. -/
def assignBucketIndex (days : ℤ) (boundaries : List ℤ) : Fin (boundaries.length + 1) :=
  ⟨boundaries.findIdx fun b => days ≤ b, bucketIndex_lt days boundaries⟩

/-- What `Number` makes of a column. -/
def numberOf (x : Option ℚ) : ℚ := Decimal.toDouble (x.getD 0)

namespace MargOutstanding

def balanceNumber (r : MargOutstanding) : ℚ := numberOf r.balance

def pdLessNumber (r : MargOutstanding) : ℚ := numberOf r.pdLess

end MargOutstanding

/-- The rows that all three views read. -/
def openRows (rows : List MargOutstanding) : List MargOutstanding :=
  rows.filter fun r => !r.sourceDeleted && r.balance.getD 0 ≠ 0

section Views

variable (platform : Platform) (asOf : AsOf) (boundaries : List ℤ)
  (localeLe : String → String → Bool)

def startsWith (letter : Char) (groupCode : Option String) : Bool :=
  (platform.toUpperCase (groupCode.getD "")).toList.head? = some letter

def isSupplier (r : MargOutstanding) : Bool := startsWith platform 'D' r.groupCode

def isCustomer (r : MargOutstanding) : Bool := startsWith platform 'C' r.groupCode

def exposure (r : MargOutstanding) : ℚ :=
  let balance := r.balanceNumber
  if isSupplier platform r then max (-balance) 0
  else if isCustomer platform r then max balance 0
  else |balance|

def credit (r : MargOutstanding) : ℚ :=
  let balance := r.balanceNumber
  if isSupplier platform r then max balance 0
  else if isCustomer platform r then max (-balance) 0
  else 0

/-- What a party or a group is shown with, one amount for each of `n` buckets. The view by group
shows no signed balance. -/
structure OpenTotals (n : ℕ) where
  openInvoiceCount : ℤ
  totalOutstanding : ℚ
  creditBalance : ℚ
  signedBalance : ℚ
  pdLess : ℚ
  bucketAmounts : Fin n → ℚ
  weightedDaysExposure : ℚ
  lastInvoiceDate : Option Millis

def OpenTotals.zero (n : ℕ) : OpenTotals n := ⟨0, 0, 0, 0, 0, 0, 0, none⟩

def bucketOf (r : MargOutstanding) : Fin (boundaries.length + 1) :=
  assignBucketIndex (r.ageDays asOf) boundaries

/-- One amount of an array grows. -/
def addAt {n : ℕ} (amounts : Fin n → ℚ) (i : Fin n) (amount : ℚ) : Fin n → ℚ :=
  Function.update amounts i (Binary64.add (amounts i) amount)

def OpenTotals.add (t : OpenTotals (boundaries.length + 1)) (r : MargOutstanding) :
    OpenTotals (boundaries.length + 1) where
  openInvoiceCount := t.openInvoiceCount + if 0 < exposure platform r then 1 else 0
  totalOutstanding := Binary64.add t.totalOutstanding (exposure platform r)
  creditBalance := Binary64.add t.creditBalance (credit platform r)
  signedBalance := Binary64.add t.signedBalance r.balanceNumber
  pdLess := Binary64.add t.pdLess r.pdLessNumber
  bucketAmounts := addAt t.bucketAmounts (bucketOf asOf boundaries r) (exposure platform r)
  weightedDaysExposure :=
    Binary64.add t.weightedDaysExposure (Binary64.mul (exposure platform r) (r.ageDays asOf))
  lastInvoiceDate :=
    if t.lastInvoiceDate.all (· < r.date) then some r.date else t.lastInvoiceDate

/-- The sums over the shown entries. -/
structure ViewTotals (n : ℕ) where
  openInvoiceCount : ℤ
  totalOutstanding : ℚ
  creditBalance : ℚ
  signedBalance : ℚ
  pdLess : ℚ
  bucketTotals : Fin n → ℚ

def viewTotals {α : Type} {n : ℕ} (totals : α → OpenTotals n) (shown : List α) : ViewTotals n where
  openInvoiceCount := (shown.map fun a => (totals a).openInvoiceCount).sum
  totalOutstanding := Binary64.sum (shown.map fun a => (totals a).totalOutstanding)
  creditBalance := Binary64.sum (shown.map fun a => (totals a).creditBalance)
  signedBalance := Binary64.sum (shown.map fun a => (totals a).signedBalance)
  pdLess := Binary64.sum (shown.map fun a => (totals a).pdLess)
  bucketTotals i := Binary64.sum (shown.map fun a => (totals a).bucketAmounts i)

/-! ### By party -/

structure PartyRow (n : ℕ) where
  partyCode : String
  groupCode : Option String
  companyId : ℤ
  totals : OpenTotals n

def partyKeyText (companyId : ℤ) (partyCode : String) (groupCode : Option String) : String :=
  toString companyId ++ "|" ++ partyCode ++ "|" ++ groupCode.getD ""

def PartyRow.key {n : ℕ} (p : PartyRow n) : String :=
  partyKeyText p.companyId p.partyCode p.groupCode

def addToParty (p : PartyRow (boundaries.length + 1)) (r : MargOutstanding) :
    PartyRow (boundaries.length + 1) :=
  { p with totals := p.totals.add platform asOf boundaries r }

def openParty (r : MargOutstanding) : PartyRow (boundaries.length + 1) :=
  ⟨r.ord, r.groupCode, r.companyId, .zero _⟩

def groupedByParty (rows : List MargOutstanding) : List (PartyRow (boundaries.length + 1)) :=
  (openRows rows).foldl (gather PartyRow.key (fun r => partyKeyText r.companyId r.ord r.groupCode)
    (openParty boundaries) (addToParty platform asOf boundaries)) []

/-- The largest balances first. -/
def getMargOutstandingSummary (rows : List MargOutstanding) :
    List (PartyRow (boundaries.length + 1)) :=
  (groupedByParty platform asOf boundaries rows).mergeSort fun a b =>
    Binary64.add b.totals.totalOutstanding b.totals.creditBalance ≤
      Binary64.add a.totals.totalOutstanding a.totals.creditBalance

/-! ### By account group -/

structure GroupRow (n : ℕ) where
  groupCode : Option String
  partyKeys : List (ℤ × String)
  totals : OpenTotals n

def addToGroup (g : GroupRow (boundaries.length + 1)) (r : MargOutstanding) :
    GroupRow (boundaries.length + 1) where
  groupCode := g.groupCode
  partyKeys := g.partyKeys.insert (r.companyId, r.ord)
  totals := g.totals.add platform asOf boundaries r

def openGroup (r : MargOutstanding) : GroupRow (boundaries.length + 1) :=
  ⟨r.groupCode, [], .zero _⟩

def groupedByGroup (rows : List MargOutstanding) : List (GroupRow (boundaries.length + 1)) :=
  (openRows rows).foldl (gather (fun g => g.groupCode.getD "") (fun r => r.groupCode.getD "")
    (openGroup boundaries) (addToGroup platform asOf boundaries)) []

def getMargOutstandingByGroup (rows : List MargOutstanding) :
    List (GroupRow (boundaries.length + 1)) :=
  (groupedByGroup platform asOf boundaries rows).mergeSort fun a b =>
    b.totals.totalOutstanding ≤ a.totals.totalOutstanding

/-! ### Invoice by invoice -/

structure InvoiceRow (n : ℕ) where
  vcn : String
  date : Millis
  days : ℤ
  finalAmt : ℚ
  balance : ℚ
  pdLess : ℚ
  bucketIndex : Fin n

structure OutstandingDetail (n : ℕ) where
  partyCode : String
  groupCode : Option String
  invoices : List (InvoiceRow n)
  finalAmt : ℚ
  balance : ℚ
  pdLess : ℚ
  openCount : ℤ
  bucketTotals : Fin n → ℚ

def InvoiceRow.of (r : MargOutstanding) : InvoiceRow (boundaries.length + 1) where
  vcn := r.vcn
  date := r.date
  days := r.ageDays asOf
  finalAmt := numberOf r.finalAmt
  balance := r.balanceNumber
  pdLess := r.pdLessNumber
  bucketIndex := bucketOf asOf boundaries r

def detailRows (rows : List MargOutstanding) (partyCode : String) : List MargOutstanding :=
  (openRows rows).filter fun r => r.ord = (MargValue.text partyCode).normalizeMargCode platform

/-- By date and number, compared as the host's `localeCompare` does; a party without a code is
refused. -/
def getMargOutstandingDetail (rows : List MargOutstanding) (partyCode : String) :
    Option (OutstandingDetail (boundaries.length + 1)) :=
  if (MargValue.text partyCode).normalizeMargCode platform = "" then none
  else
    let invoices := (detailRows platform rows partyCode).map (.of asOf boundaries)
    let sorted := invoices.mergeSort
      fun a b => a.date < b.date || (a.date = b.date && localeLe a.vcn b.vcn)
    some {
      partyCode := (MargValue.text partyCode).normalizeMargCode platform
      groupCode := (detailRows platform rows partyCode).head?.bind MargOutstanding.groupCode
      invoices := sorted
      finalAmt := Binary64.sum (sorted.map InvoiceRow.finalAmt)
      balance := Binary64.sum (sorted.map InvoiceRow.balance)
      pdLess := Binary64.sum (sorted.map InvoiceRow.pdLess)
      openCount := (sorted.map fun _ => (1 : ℤ)).sum
      bucketTotals := invoices.foldl (fun totals i => addAt totals i.bucketIndex |i.balance|) 0 }

/-! ### What the views sum up -/

variable {platform asOf boundaries localeLe}

theorem addAt_apply {n : ℕ} (amounts : Fin n → ℚ) (i j : Fin n) (amount : ℚ) :
    addAt amounts i amount j = if i = j then Binary64.add (amounts j) amount else amounts j := by
  unfold addAt
  by_cases h : i = j
  · rw [h, Function.update_self, if_pos rfl]
  · rw [Function.update_of_ne (Ne.symm h), if_neg h]

theorem bucketAmounts_add (t : OpenTotals (boundaries.length + 1)) (r : MargOutstanding)
    (i : Fin (boundaries.length + 1)) : (t.add platform asOf boundaries r).bucketAmounts i =
      if decide (bucketOf asOf boundaries r = i) = true then
        Binary64.add (t.bucketAmounts i) (exposure platform r)
      else t.bucketAmounts i := by
  simp only [decide_eq_true_eq]
  exact addAt_apply _ _ _ _

theorem foldl_addAt_apply {ρ : Type*} {n : ℕ} (bucket : ρ → Fin n) (amount : ρ → ℚ) (rows : List ρ)
    (amounts : Fin n → ℚ) (i : Fin n) :
    rows.foldl (fun totals r => addAt totals (bucket r) (amount r)) amounts i =
      ((rows.filter fun r => bucket r = i).map amount).foldl Binary64.add (amounts i) := by
  induction rows generalizing amounts with
  | nil => rfl
  | cons r rows ih =>
    rw [List.foldl_cons, ih, addAt_apply]
    by_cases h : bucket r = i <;> simp [h]

theorem sum_buckets {ρ : Type*} {n : ℕ} (bucket : ρ → Fin n) (amount : ρ → ℚ) (rows : List ρ) :
    ∑ i, ((rows.filter fun r => bucket r = i).map amount).sum = (rows.map amount).sum := by
  simp only [Grouping.sum_map_filter, decide_eq_true_eq]
  induction rows with
  | nil => simp
  | cons r rows ih =>
    simp only [List.map_cons, List.sum_cons, Finset.sum_add_distrib, ih, Finset.sum_ite_eq,
      Finset.mem_univ, if_true]

/-- The buckets share out what is outstanding. -/
def OpenTotals.Shared {n : ℕ} (t : OpenTotals n) : Prop :=
  ∑ i, t.bucketAmounts i = t.totalOutstanding

section Shown

variable {α κ : Type} [DecidableEq κ] {key : α → κ} {rowKey : MargOutstanding → κ}
  {start : MargOutstanding → α} {add : α → MargOutstanding → α}
  {totals : α → OpenTotals (boundaries.length + 1)} {rows : List MargOutstanding} {shown : List α}

variable (platform asOf key rowKey start add totals rows shown) in
/-- The entries of a view, which have taken in the rows by a key. -/
structure Gathered : Prop where
  key_add : ∀ a r, key (add a r) = key a
  key_start : ∀ r, key (start r) = rowKey r
  totals_add : ∀ a r, totals (add a r) = (totals a).add platform asOf boundaries r
  totals_start : ∀ r, totals (start r) = .zero _
  perm : shown.Perm (rows.foldl (gather key rowKey start add) [])

namespace Gathered

variable (h : Gathered platform asOf key rowKey start add totals rows shown)
include h

theorem openInvoiceCount : (viewTotals totals shown).openInvoiceCount =
    (rows.map fun r => if 0 < exposure platform r then (1 : ℤ) else 0).sum := by
  refine sum_gathered h.key_add h.key_start h.perm (fun a r => ?_) fun r => ?_
  · rw [h.totals_add, OpenTotals.add]
  · rw [h.totals_start, OpenTotals.zero]

theorem total {f : OpenTotals (boundaries.length + 1) → ℚ} {g : MargOutstanding → ℚ}
    (hf : ∀ t r, f (t.add platform asOf boundaries r) = Binary64.add (f t) (g r))
    (hnone : f (.zero _) = 0) (hexact : Binary64.AddsExactly (rows.map g)) :
    Binary64.sum (shown.map fun a => f (totals a)) = (rows.map g).sum := by
  have hsum := binarySum_gathered (p := fun _ => true) (f := fun a => f (totals a)) (g := g)
    h.key_add h.key_start h.perm (fun a r => by rw [h.totals_add, hf, if_pos rfl])
    (fun r => by rw [h.totals_start, hnone]) (by rwa [List.filter_true])
  rwa [List.filter_true] at hsum

theorem bucketTotals (hexact : Binary64.AddsExactly (rows.map (exposure platform)))
    (i : Fin (boundaries.length + 1)) : (viewTotals totals shown).bucketTotals i =
      ((rows.filter fun r => bucketOf asOf boundaries r = i).map (exposure platform)).sum := by
  refine binarySum_gathered h.key_add h.key_start h.perm (fun a r => ?_) (fun r => ?_)
    (hexact.sublist (List.filter_sublist.map _))
  · rw [h.totals_add, bucketAmounts_add]
  · rw [h.totals_start]
    rfl

theorem shared (hexact : Binary64.AddsExactly (rows.map (exposure platform))) {a : α}
    (ha : a ∈ shown) : (totals a).Shared := by
  have htotal := gathered_eq_sum (p := fun _ => true) (f := fun a => (totals a).totalOutstanding)
    (g := exposure platform) h.key_add h.key_start h.perm
    (fun a r => by rw [h.totals_add, if_pos rfl]; rfl) (fun r => by rw [h.totals_start]; rfl) ha
  have hbucket : ∀ i, (totals a).bucketAmounts i =
      Binary64.sum (((rows.filter fun r => bucketOf asOf boundaries r = i).filter fun r =>
        rowKey r = key a).map (exposure platform)) := fun i =>
    gathered_eq_sum (f := fun a => (totals a).bucketAmounts i) h.key_add h.key_start h.perm
      (fun a r => by rw [h.totals_add, bucketAmounts_add])
      (fun r => by rw [h.totals_start]; rfl) ha
  rw [OpenTotals.Shared, htotal, List.filter_true,
    (hexact.sublist (List.filter_sublist.map _)).sum_eq,
    ← sum_buckets (bucketOf asOf boundaries) (exposure platform)]
  refine Finset.sum_congr rfl fun i _ => ?_
  rw [hbucket, List.filter_comm,
    (hexact.sublist ((List.filter_sublist.trans List.filter_sublist).map _)).sum_eq]

theorem viewTotals_eq (hexposure : Binary64.AddsExactly (rows.map (exposure platform)))
    (hcredit : Binary64.AddsExactly (rows.map (credit platform)))
    (hbalance : Binary64.AddsExactly (rows.map MargOutstanding.balanceNumber))
    (hpdLess : Binary64.AddsExactly (rows.map MargOutstanding.pdLessNumber)) :
    viewTotals totals shown = {
      openInvoiceCount := (rows.map fun r => if 0 < exposure platform r then (1 : ℤ) else 0).sum
      totalOutstanding := (rows.map (exposure platform)).sum
      creditBalance := (rows.map (credit platform)).sum
      signedBalance := (rows.map MargOutstanding.balanceNumber).sum
      pdLess := (rows.map MargOutstanding.pdLessNumber).sum
      bucketTotals := fun i =>
        ((rows.filter fun r => bucketOf asOf boundaries r = i).map (exposure platform)).sum } := by
  rw [ViewTotals.mk.injEq]
  exact ⟨h.openInvoiceCount,
    h.total (f := OpenTotals.totalOutstanding) (fun _ _ => rfl) rfl hexposure,
    h.total (f := OpenTotals.creditBalance) (fun _ _ => rfl) rfl hcredit,
    h.total (f := OpenTotals.signedBalance) (fun _ _ => rfl) rfl hbalance,
    h.total (f := OpenTotals.pdLess) (fun _ _ => rfl) rfl hpdLess,
    funext (h.bucketTotals hexposure)⟩

end Gathered

end Shown

/-! ### The three views -/

def parties (rows : List MargOutstanding) : List String :=
  ((openRows rows).map MargOutstanding.ord).dedup

def detailTotal {M : Type*} [AddCommMonoid M] (platform : Platform) (asOf : AsOf)
    (boundaries : List ℤ) (localeLe : String → String → Bool) (rows : List MargOutstanding)
    (f : OutstandingDetail (boundaries.length + 1) → M) : M :=
  ((parties rows).map fun partyCode =>
    (getMargOutstandingDetail platform asOf boundaries localeLe rows partyCode).elim 0 f).sum

section Rows

variable {rows : List MargOutstanding}

theorem gathered_summary : Gathered platform asOf PartyRow.key
    (fun r => partyKeyText r.companyId r.ord r.groupCode) (openParty boundaries)
    (addToParty platform asOf boundaries) PartyRow.totals (openRows rows)
    (getMargOutstandingSummary platform asOf boundaries rows) :=
  ⟨fun _ _ => rfl, fun _ => rfl, fun _ _ => rfl, fun _ => rfl, List.mergeSort_perm _ _⟩

theorem gathered_byGroup : Gathered platform asOf (fun g => g.groupCode.getD "")
    (fun r => r.groupCode.getD "") (openGroup boundaries) (addToGroup platform asOf boundaries)
    GroupRow.totals (openRows rows) (getMargOutstandingByGroup platform asOf boundaries rows) :=
  ⟨fun _ _ => rfl, fun _ => rfl, fun _ _ => rfl, fun _ => rfl, List.mergeSort_perm _ _⟩

variable (platform asOf boundaries localeLe rows) in
/-- The three views agree: in their totals, in each bucket and in the number of open invoices; the
detail of a party lists its rows, and the buckets of each shown row share out its total. The totals
over the details of all parties are the reader's. -/
structure Reconciles : Prop where
  groups : viewTotals PartyRow.totals (getMargOutstandingSummary platform asOf boundaries rows) =
    viewTotals GroupRow.totals (getMargOutstandingByGroup platform asOf boundaries rows)
  listed : ∀ r ∈ openRows rows, r ∈ detailRows platform rows r.ord ∧
    (getMargOutstandingDetail platform asOf boundaries localeLe rows r.ord).isSome = true
  outstanding : detailTotal platform asOf boundaries localeLe rows (fun d => ∑ i, d.bucketTotals i) =
    (viewTotals PartyRow.totals
      (getMargOutstandingSummary platform asOf boundaries rows)).totalOutstanding
  buckets : ∀ i, detailTotal platform asOf boundaries localeLe rows (fun d => d.bucketTotals i) =
    (viewTotals PartyRow.totals
      (getMargOutstandingSummary platform asOf boundaries rows)).bucketTotals i
  balance : detailTotal platform asOf boundaries localeLe rows OutstandingDetail.balance =
    (viewTotals PartyRow.totals
      (getMargOutstandingSummary platform asOf boundaries rows)).signedBalance
  pdLess : detailTotal platform asOf boundaries localeLe rows OutstandingDetail.pdLess =
    (viewTotals PartyRow.totals (getMargOutstandingSummary platform asOf boundaries rows)).pdLess
  openCount : detailTotal platform asOf boundaries localeLe rows OutstandingDetail.openCount =
    (viewTotals PartyRow.totals
      (getMargOutstandingSummary platform asOf boundaries rows)).openInvoiceCount
  partyBuckets : ∀ p ∈ getMargOutstandingSummary platform asOf boundaries rows, p.totals.Shared
  groupBuckets : ∀ g ∈ getMargOutstandingByGroup platform asOf boundaries rows, g.totals.Shared

variable (platform rows) in
/-- Every open row has a code in the form that the detail looks for, and is no credit: a supplier's
row is negative, a customer's positive. -/
def AllExposed : Prop :=
  ∀ r ∈ openRows rows, (r.ord ≠ "" ∧ (MargValue.text r.ord).normalizeMargCode platform = r.ord) ∧
    0 < exposure platform r

variable (rows) in
/-- Whichever open rows are taken, their amounts are added without rounding. -/
structure NeedsNoRounding : Prop where
  balance : Binary64.AddsExactly ((openRows rows).map MargOutstanding.balanceNumber)
  size : Binary64.AddsExactly ((openRows rows).map fun r => |r.balanceNumber|)
  pdLess : Binary64.AddsExactly ((openRows rows).map MargOutstanding.pdLessNumber)

/-- Amounts that are multiples of a power of two, whole ones for instance, need no rounding as long
as they have 53 bits together. -/
theorem needsNoRounding_of_onUnit {e : ℤ} (he : -1074 ≤ e)
    (hunit : ∀ r ∈ openRows rows,
      Binary64.OnUnit e r.balanceNumber ∧ Binary64.OnUnit e r.pdLessNumber)
    (hbalance : ((openRows rows).map fun r => |r.balanceNumber|).sum < 2 ^ 53 * 2 ^ e)
    (hpdLess : ((openRows rows).map fun r => |r.pdLessNumber|).sum < 2 ^ 53 * 2 ^ e) :
    NeedsNoRounding rows := by
  refine ⟨.of_onUnit he ?_ ?_, .of_onUnit he ?_ ?_, .of_onUnit he ?_ ?_⟩
  · exact List.forall_mem_map.2 fun r hr => (hunit r hr).1
  · rwa [List.map_map]
  · exact List.forall_mem_map.2 fun r hr => (hunit r hr).1.abs
  · rw [List.map_map]
    simpa only [Function.comp_def, abs_abs] using hbalance
  · exact List.forall_mem_map.2 fun r hr => (hunit r hr).2
  · rwa [List.map_map]

theorem exposure_of_pos {r : MargOutstanding} (h : 0 < exposure platform r) :
    exposure platform r = |r.balanceNumber| ∧ credit platform r = 0 := by
  unfold exposure credit at *
  generalize r.balanceNumber = b at *
  split_ifs at * with hsupplier hcustomer
  · have hb : b < 0 := by
      rcases lt_max_iff.1 h with hneg | habs
      · linarith
      · exact absurd habs (lt_irrefl 0)
    rw [max_eq_left (by linarith), abs_of_neg hb, max_eq_right hb.le]
    exact ⟨rfl, rfl⟩
  · have hb : 0 < b := by
      rcases lt_max_iff.1 h with hpos | habs
      · exact hpos
      · exact absurd habs (lt_irrefl 0)
    rw [max_eq_left hb.le, abs_of_pos hb, max_eq_right (by linarith)]
    exact ⟨rfl, rfl⟩
  · exact ⟨rfl, rfl⟩

theorem mem_detailRows {r : MargOutstanding} {code : String} :
    r ∈ detailRows platform rows code ↔
      r ∈ openRows rows ∧ r.ord = (MargValue.text code).normalizeMargCode platform := by
  rw [detailRows, List.mem_filter, decide_eq_true_eq]

/-- With codes in the staged form the details of all parties list every open row once. -/
theorem detailTotal_eq {M : Type*} [AddCommMonoid M]
    (hcodes : ∀ r ∈ openRows rows,
      r.ord ≠ "" ∧ (MargValue.text r.ord).normalizeMargCode platform = r.ord)
    {f : OutstandingDetail (boundaries.length + 1) → M} {g : MargOutstanding → M}
    (hf : ∀ code d, getMargOutstandingDetail platform asOf boundaries localeLe rows code = some d →
      f d = ((detailRows platform rows code).map g).sum) :
    detailTotal platform asOf boundaries localeLe rows f = ((openRows rows).map g).sum := by
  have hparty : ∀ code ∈ parties rows,
      code ≠ "" ∧ (MargValue.text code).normalizeMargCode platform = code := by
    intro code hcode
    obtain ⟨r, hr, rfl⟩ := List.mem_map.1 (List.mem_dedup.1 hcode)
    exact hcodes r hr
  have hshown : detailTotal platform asOf boundaries localeLe rows f =
      ((parties rows).map (Grouping.matchedSum (fun code r => r.ord = code) g
        (openRows rows))).sum := by
    unfold detailTotal
    congr 1
    refine List.map_congr_left fun code hcode => ?_
    obtain ⟨hne, hstaged⟩ := hparty code hcode
    have hsome : ∃ d,
        getMargOutstandingDetail platform asOf boundaries localeLe rows code = some d := by
      unfold getMargOutstandingDetail
      rw [if_neg (by rw [hstaged]; exact hne)]
      exact ⟨_, rfl⟩
    obtain ⟨d, hd⟩ := hsome
    rw [hd, Option.elim_some, hf code d hd, Grouping.matchedSum, detailRows, hstaged]
  have hnodup : (parties rows).Nodup := List.nodup_dedup _
  rw [hshown, Grouping.sum_matchedSum_of_countP_le_one]
  · congr 2
    rw [List.filter_eq_self]
    intro r hr
    exact List.any_eq_true.2 ⟨r.ord, List.mem_dedup.2 (List.mem_map_of_mem hr), by simp⟩
  · intro r _
    refine (Grouping.countP_le_one_iff hnodup).2 fun a _ b _ ha hb => ?_
    exact (of_decide_eq_true ha).symm.trans (of_decide_eq_true hb)

theorem binarySum_invoices {rs : List MargOutstanding} (f : InvoiceRow (boundaries.length + 1) → ℚ)
    (le : InvoiceRow (boundaries.length + 1) → InvoiceRow (boundaries.length + 1) → Bool)
    (hexact : Binary64.AddsExactly (rs.map fun r => f (.of asOf boundaries r))) :
    Binary64.sum (((rs.map (InvoiceRow.of asOf boundaries)).mergeSort le).map f) =
      (rs.map fun r => f (.of asOf boundaries r)).sum := by
  have hperm : (((rs.map (InvoiceRow.of asOf boundaries)).mergeSort le).map f).Perm
      (rs.map fun r => f (.of asOf boundaries r)) := by
    have hsorted := (List.mergeSort_perm (rs.map (InvoiceRow.of asOf boundaries)) le).map f
    rwa [List.map_map] at hsorted
  rw [(hexact.perm hperm).sum_eq, hperm.sum_eq]

theorem openCount_detail {code : String} {d : OutstandingDetail (boundaries.length + 1)}
    (h : getMargOutstandingDetail platform asOf boundaries localeLe rows code = some d) :
    d.openCount = ((detailRows platform rows code).map fun _ => (1 : ℤ)).sum := by
  unfold getMargOutstandingDetail at h
  split_ifs at h
  obtain rfl := Option.some.inj h
  rw [((List.mergeSort_perm _ _).map _).sum_eq, List.map_map]
  rfl

theorem sums_detail (hexact : NeedsNoRounding rows) {code : String}
    {d : OutstandingDetail (boundaries.length + 1)}
    (h : getMargOutstandingDetail platform asOf boundaries localeLe rows code = some d) :
    d.balance = ((detailRows platform rows code).map MargOutstanding.balanceNumber).sum ∧
    d.pdLess = ((detailRows platform rows code).map MargOutstanding.pdLessNumber).sum ∧
    ∀ i, d.bucketTotals i = (((detailRows platform rows code).filter fun r =>
      bucketOf asOf boundaries r = i).map fun r => |r.balanceNumber|).sum := by
  have hsub : (detailRows platform rows code).Sublist (openRows rows) := List.filter_sublist
  unfold getMargOutstandingDetail at h
  split_ifs at h
  obtain rfl := Option.some.inj h
  refine ⟨binarySum_invoices InvoiceRow.balance _ (hexact.balance.sublist (hsub.map _)),
    binarySum_invoices InvoiceRow.pdLess _ (hexact.pdLess.sublist (hsub.map _)), fun i => ?_⟩
  rw [List.foldl_map]
  exact (foldl_addAt_apply (bucketOf asOf boundaries) (fun r => |r.balanceNumber|) _ 0 i).trans
    (hexact.size.sublist ((List.filter_sublist.trans hsub).map _)).sum_eq

end Rows

theorem allExposed_of_reconciles {platform : Platform} {asOf : AsOf} {boundaries : List ℤ}
    {localeLe : String → String → Bool} {rows : List MargOutstanding}
    (h : Reconciles platform asOf boundaries localeLe rows) : AllExposed platform rows := by
  have hcodes : ∀ r ∈ openRows rows,
      r.ord ≠ "" ∧ (MargValue.text r.ord).normalizeMargCode platform = r.ord := by
    intro r hr
    obtain ⟨hlisted, hsome⟩ := h.listed r hr
    have hstaged := (mem_detailRows.1 hlisted).2.symm
    refine ⟨fun hne => ?_, hstaged⟩
    rw [hne] at hstaged hsome
    unfold getMargOutstandingDetail at hsome
    rw [if_pos hstaged] at hsome
    cases hsome
  -- the details count the credits, and the other views do not
  have hcount := h.openCount
  rw [gathered_summary.openInvoiceCount, detailTotal_eq hcodes fun _ _ hd => openCount_detail hd]
    at hcount
  have hones : ((openRows rows).map fun _ => (1 : ℤ)).sum = (openRows rows).length := by simp
  have hexposed := Grouping.sum_map_ite_eq_countP_nsmul
    (fun r => decide (0 < exposure platform r)) (1 : ℤ) (openRows rows)
  simp only [decide_eq_true_eq, nsmul_eq_mul, mul_one] at hexposed
  rw [hones, hexposed] at hcount
  have hall := List.countP_eq_length.1 (by exact_mod_cast hcount.symm)
  exact fun r hr => ⟨hcodes r hr, of_decide_eq_true (hall r hr)⟩

theorem reconciles_of_needsNoRounding {platform : Platform} {asOf : AsOf} {boundaries : List ℤ}
    {localeLe : String → String → Bool} {rows : List MargOutstanding}
    (h : AllExposed platform rows) (hexact : NeedsNoRounding rows) :
    Reconciles platform asOf boundaries localeLe rows := by
  have hcodes : ∀ r ∈ openRows rows,
      r.ord ≠ "" ∧ (MargValue.text r.ord).normalizeMargCode platform = r.ord :=
    fun r hr => (h r hr).1
  have hsize : ∀ r ∈ openRows rows, exposure platform r = |r.balanceNumber| :=
    fun r hr => (exposure_of_pos (h r hr).2).1
  have hexposure : Binary64.AddsExactly ((openRows rows).map (exposure platform)) := by
    rw [List.map_congr_left hsize]
    exact hexact.size
  have hcredit : Binary64.AddsExactly ((openRows rows).map (credit platform)) := by
    refine Binary64.AddsExactly.of_forall_eq_zero fun c hc => ?_
    obtain ⟨r, hr, rfl⟩ := List.mem_map.1 hc
    exact (exposure_of_pos (h r hr).2).2
  have hparty : viewTotals PartyRow.totals
      (getMargOutstandingSummary platform asOf boundaries rows) = _ :=
    gathered_summary.viewTotals_eq hexposure hcredit hexact.balance hexact.pdLess
  have hgroup : viewTotals GroupRow.totals
      (getMargOutstandingByGroup platform asOf boundaries rows) = _ :=
    gathered_byGroup.viewTotals_eq hexposure hcredit hexact.balance hexact.pdLess
  refine ⟨hparty.trans hgroup.symm, ?_, ?_, ?_, ?_, ?_, ?_,
    fun p hp => gathered_summary.shared hexposure hp,
    fun g hg => gathered_byGroup.shared hexposure hg⟩
  · intro r hr
    obtain ⟨hne, hstaged⟩ := hcodes r hr
    refine ⟨mem_detailRows.2 ⟨hr, hstaged.symm⟩, ?_⟩
    unfold getMargOutstandingDetail
    rw [if_neg (by rw [hstaged]; exact hne)]
    rfl
  · have hdetail : detailTotal platform asOf boundaries localeLe rows
        (fun d => ∑ i, d.bucketTotals i) =
          ((openRows rows).map fun r => |r.balanceNumber|).sum := by
      refine detailTotal_eq hcodes fun code d hd => ?_
      rw [← sum_buckets (bucketOf asOf boundaries)]
      exact Finset.sum_congr rfl fun i _ => (sums_detail hexact hd).2.2 i
    rw [hparty, hdetail]
    exact congrArg List.sum (List.map_congr_left fun r hr => (hsize r hr).symm)
  · intro i
    have hdetail : detailTotal platform asOf boundaries localeLe rows (fun d => d.bucketTotals i) =
        ((openRows rows).map fun r =>
          if bucketOf asOf boundaries r = i then |r.balanceNumber| else 0).sum := by
      refine detailTotal_eq hcodes fun code d hd => ?_
      rw [(sums_detail hexact hd).2.2 i, Grouping.sum_map_filter]
      simp only [decide_eq_true_eq]
    rw [gathered_summary.bucketTotals hexposure i, hdetail, Grouping.sum_map_filter]
    refine congrArg List.sum (List.map_congr_left fun r hr => ?_)
    simp only [decide_eq_true_eq, hsize r hr]
  · rw [hparty, detailTotal_eq hcodes fun code d hd => (sums_detail hexact hd).1]
  · rw [hparty, detailTotal_eq hcodes fun code d hd => (sums_detail hexact hd).2.1]
  · rw [hparty, detailTotal_eq hcodes fun code d hd => openCount_detail hd]
    exact congrArg List.sum (List.map_congr_left fun r hr => (if_pos (h r hr).2).symm)

end Views

/-- A customer that has paid too much. -/
def overpaid : MargOutstanding where
  companyId := 1
  ord := "C1"
  vcn := "R1"
  date := 0
  days := 10
  finalAmt := some 0
  balance := some (-50)
  pdLess := none
  groupCode := some "C1"
  sourceDeleted := false

structure MargPartyBalance where
  companyId : ℤ
  cid : String
  opening : Option ℚ
  balance : Option ℚ
deriving DecidableEq

/-- The postings in the order of the query (date, voucher and row id), and the balance rows. -/
structure LedgerTables where
  postings : List MargAccountPosting
  partyBalances : List MargPartyBalance
  /-- A `DATE` column holds midnights. -/
  dates : ∀ p ∈ postings, dateColumn p.date = p.date
  /-- The columns hold four decimals. -/
  amounts : ∀ p ∈ postings, OnScale 4 p.amount
  openings : ∀ b ∈ partyBalances, ∀ x, b.opening = some x → OnScale 4 x

structure LedgerTransaction where
  date : Millis
  voucher : String
  debit : ℚ
  credit : ℚ
  runningBalance : ℚ
deriving DecidableEq

structure PartyLedger where
  openingFromPartyBalance : Option ℚ
  openingComputed : ℚ
  openingBalance : ℚ
  debit : ℚ
  credit : ℚ
  closingBalance : ℚ
  transactionCount : ℕ
  /-- All pages together. -/
  transactions : List LedgerTransaction
deriving DecidableEq

def runLedger (runningBalance : ℚ) : List MargAccountPosting → List LedgerTransaction
  | [] => []
  | p :: ps =>
    let amount := Decimal.toDouble p.amount
    let balance := Binary64.add runningBalance amount
    { date := p.date
      voucher := p.voucher.text
      debit := if 0 < amount then amount else 0
      credit := if amount < 0 then -amount else 0
      runningBalance := balance } :: runLedger balance ps

def partyPostings (db : LedgerTables) (code : String) (companyId : Option ℤ) :
    List MargAccountPosting :=
  db.postings.filter fun p => p.code = code && companyId.all (p.companyId = ·)

/-- Bounds are sent to the `DATE` column as dates. -/
def postingsBefore (fromDate : Millis) (ps : List MargAccountPosting) : List MargAccountPosting :=
  ps.filter fun p => p.date < dateColumn fromDate

def postingsWithin (fromDate toDate : Option Millis) (ps : List MargAccountPosting) :
    List MargAccountPosting :=
  ps.filter fun p => fromDate.all (dateColumn · ≤ p.date) && toDate.all (p.date ≤ dateColumn ·)

def partyBalanceRow (db : LedgerTables) (code : String) (companyId : Option ℤ) :
    Option MargPartyBalance :=
  db.partyBalances.find? fun b => b.cid = code && companyId.all (b.companyId = ·)

def totalAmount (ps : List MargAccountPosting) : ℚ := (ps.map MargAccountPosting.amount).sum

/-- The ledger of a party over the dates that are given, without column filters. The database adds
up what was posted before the window, the loop the rest. -/
def getMargPartyLedger (db : LedgerTables) (code : String) (companyId : Option ℤ)
    (fromDate toDate : Option Millis) : PartyLedger :=
  let ps := partyPostings db code companyId
  let openingComputed := match fromDate with
    | some date => Decimal.toDouble (totalAmount (postingsBefore date ps))
    | none => 0
  let openingFromPb :=
    ((partyBalanceRow db code companyId).bind MargPartyBalance.opening).map Decimal.toDouble
  let openingBalance := if fromDate = none then openingFromPb.getD openingComputed
    else openingComputed
  let transactions := runLedger openingBalance (postingsWithin fromDate toDate ps)
  { openingFromPartyBalance := openingFromPb
    openingComputed, openingBalance
    debit := Binary64.sum (transactions.map LedgerTransaction.debit)
    credit := Binary64.sum (transactions.map LedgerTransaction.credit)
    closingBalance :=
      (transactions.getLast?.map LedgerTransaction.runningBalance).getD openingBalance
    transactionCount := transactions.length
    transactions }

/-- A number to the four decimals of the columns. -/
def fourDecimals (x : ℚ) : ℚ := roundToScale 4 x

/-- To four decimals the balance moves by each row, from the opening to the closing. -/
structure PartyLedger.Balances (l : PartyLedger) : Prop where
  closing : fourDecimals l.openingBalance + fourDecimals l.debit - fourDecimals l.credit =
    fourDecimals l.closingBalance
  running : ∀ i row, l.transactions[i]? = some row → fourDecimals row.runningBalance =
    fourDecimals l.openingBalance + ((l.transactions.take (i + 1)).map fun t =>
      fourDecimals t.debit - fourDecimals t.credit).sum

def openingForward (db : LedgerTables) (code : String) (companyId : Option ℤ) : ℚ :=
  ((partyBalanceRow db code companyId).bind MargPartyBalance.opening).getD 0

/-- What was moved at all, with the opening that is brought forward. -/
def turnover (db : LedgerTables) (code : String) (companyId : Option ℤ) : ℚ :=
  |openingForward db code companyId| +
    ((partyPostings db code companyId).map fun p => |p.amount|).sum

/-- The turnover is small enough for the number of postings that binary64 keeps four decimals. -/
def KeepsDecimals (db : LedgerTables) (code : String) (companyId : Option ℤ) : Prop :=
  ((partyPostings db code companyId).length + 1) * (turnover db code companyId + 1) ≤ (2 : ℚ) ^ 37

/-! ### Running sums of postings -/

/-- The side of a posting, as a number. -/
theorem toDouble_side (amount : ℚ) :
    (if 0 < Decimal.toDouble amount then Decimal.toDouble amount else 0) =
      Decimal.toDouble (max amount 0) := by
  unfold Decimal.toDouble
  rcases le_total 0 amount with h | h
  · rw [max_eq_left h]
    split_ifs with hpos
    · rfl
    · exact le_antisymm (Binary64.round_nonneg h) (not_lt.1 hpos)
  · have hneg := Binary64.round_nonneg (neg_nonneg.2 h)
    rw [Binary64.round_neg] at hneg
    rw [max_eq_right h, Binary64.round_zero, if_neg (by linarith)]

theorem debit_runLedger (b : ℚ) (ps : List MargAccountPosting) :
    (runLedger b ps).map LedgerTransaction.debit =
      ps.map fun p => Decimal.toDouble (max p.amount 0) := by
  induction ps generalizing b with
  | nil => rfl
  | cons p ps ih => rw [runLedger, List.map_cons, List.map_cons, ih, toDouble_side]

theorem credit_runLedger (b : ℚ) (ps : List MargAccountPosting) :
    (runLedger b ps).map LedgerTransaction.credit =
      ps.map fun p => Decimal.toDouble (max (-p.amount) 0) := by
  induction ps generalizing b with
  | nil => rfl
  | cons p ps ih =>
    have hneg : Decimal.toDouble (-p.amount) = -Decimal.toDouble p.amount :=
      Binary64.round_neg p.amount
    rw [runLedger, List.map_cons, List.map_cons, ih, ← toDouble_side, hneg]
    simp only [Left.neg_pos_iff]

theorem runLedger_take (b : ℚ) (ps : List MargAccountPosting) (n : ℕ) :
    (runLedger b ps).take n = runLedger b (ps.take n) := by
  induction ps generalizing b n with
  | nil => simp [runLedger]
  | cons p ps ih =>
    cases n with
    | zero => rfl
    | succ n => rw [runLedger, List.take_succ_cons, List.take_succ_cons, runLedger, ih]

theorem closing_runLedger (b : ℚ) (ps : List MargAccountPosting) :
    ((runLedger b ps).getLast?.map LedgerTransaction.runningBalance).getD b =
      (ps.map fun p => Decimal.toDouble p.amount).foldl Binary64.add b := by
  induction ps generalizing b with
  | nil => rfl
  | cons p ps ih =>
    rw [List.map_cons, List.foldl_cons, ← ih, runLedger, List.getLast?_cons]
    cases (runLedger (Binary64.add b (Decimal.toDouble p.amount)) ps).getLast? <;> rfl

theorem onScale_max {a : ℚ} (ha : OnScale 4 a) : OnScale 4 (max a 0) := by
  rcases max_choice a 0 with h | h <;> rw [h]
  · exact ha
  · exact .zero

theorem max_sub_max_neg (a : ℚ) : max a 0 - max (-a) 0 = a := by
  rcases le_total 0 a with h | h
  · rw [max_eq_left h, max_eq_right (neg_nonpos.2 h), sub_zero]
  · rw [max_eq_right h, max_eq_left (neg_nonneg.2 h)]
    ring

theorem abs_max_le (a : ℚ) : |max a 0| ≤ |a| := by
  rw [abs_of_nonneg (le_max_right a 0)]
  exact max_le (le_abs_self a) (abs_nonneg a)

/-- The window opens with what was posted before it, or with what is brought forward. -/
def windowOpening (db : LedgerTables) (code : String) (companyId : Option ℤ)
    (fromDate : Option Millis) : ℚ :=
  match fromDate with
  | some date => totalAmount (postingsBefore date (partyPostings db code companyId))
  | none => openingForward db code companyId

theorem sum_size_nonneg (ps : List MargAccountPosting) :
    0 ≤ (ps.map fun p => |p.amount|).sum :=
  List.sum_nonneg fun x hx => by
    obtain ⟨p, -, rfl⟩ := List.mem_map.1 hx
    exact abs_nonneg _

section Party

variable {db : LedgerTables} {code : String} {companyId : Option ℤ}

theorem openingBalance_eq (fromDate toDate : Option Millis) :
    (getMargPartyLedger db code companyId fromDate toDate).openingBalance =
      Decimal.toDouble (windowOpening db code companyId fromDate) := by
  cases fromDate with
  | some date => rfl
  | none =>
    simp only [getMargPartyLedger, windowOpening, openingForward]
    cases (partyBalanceRow db code companyId).bind MargPartyBalance.opening with
    | none => exact Binary64.round_zero.symm
    | some x => rfl

theorem onScale_sum {ps : List MargAccountPosting}
    (hps : ps.Sublist (partyPostings db code companyId)) {f : ℚ → ℚ}
    (hf : ∀ a, OnScale 4 a → OnScale 4 (f a)) : OnScale 4 (ps.map fun p => f p.amount).sum := by
  induction ps with
  | nil => exact .zero
  | cons p ps ih =>
    rw [List.map_cons, List.sum_cons]
    have hmem := List.mem_of_mem_filter (hps.subset List.mem_cons_self)
    exact (hf _ (db.amounts p hmem)).add (ih (List.sublist_of_cons_sublist hps))

theorem onScale_windowOpening (fromDate : Option Millis) :
    OnScale 4 (windowOpening db code companyId fromDate) := by
  cases fromDate with
  | some date => exact onScale_sum List.filter_sublist fun _ ha => ha
  | none =>
    rw [windowOpening, openingForward]
    cases hrow : partyBalanceRow db code companyId with
    | none => exact .zero
    | some b =>
      cases hopening : b.opening with
      | none => simpa [hopening] using OnScale.zero
      | some x => simpa [hopening] using db.openings b (List.mem_of_find?_eq_some hrow) x hopening

theorem abs_windowOpening_add_le (fromDate toDate : Option Millis) :
    |windowOpening db code companyId fromDate| +
      ((postingsWithin fromDate toDate (partyPostings db code companyId)).map
        fun p => |p.amount|).sum ≤ turnover db code companyId := by
  unfold turnover postingsWithin
  generalize hps : partyPostings db code companyId = ps
  rw [Grouping.sum_map_filter]
  cases fromDate with
  | none =>
    refine add_le_add le_rfl (List.sum_le_sum fun p _ => ?_)
    split_ifs
    · exact le_rfl
    · exact abs_nonneg _
  | some date =>
    have hbefore : |windowOpening db code companyId (some date)| ≤
        (ps.map fun p => if p.date < dateColumn date then |p.amount| else 0).sum := by
      rw [windowOpening, hps, totalAmount, postingsBefore]
      refine (Binary64.abs_sum_le _).trans_eq ?_
      rw [List.map_map, Grouping.sum_map_filter]
      simp only [decide_eq_true_eq, Function.comp_apply]
    refine (add_le_add hbefore le_rfl).trans ?_
    rw [← List.sum_map_add]
    refine (List.sum_le_sum fun p _ => ?_).trans (le_add_of_nonneg_left (abs_nonneg _))
    simp only [Option.all_some, Bool.and_eq_true, decide_eq_true_eq]
    by_cases hlt : p.date < dateColumn date
    · rw [if_pos hlt, if_neg fun h => absurd hlt (not_lt.2 h.1), add_zero]
    · rw [if_neg hlt, zero_add]
      split_ifs
      · exact le_rfl
      · exact abs_nonneg _

variable (hkeeps : KeepsDecimals db code companyId)
include hkeeps

theorem fourDecimals_foldl {ps : List MargAccountPosting}
    (hps : ps.Sublist (partyPostings db code companyId)) {f : ℚ → ℚ} (hle : ∀ a, |f a| ≤ |a|)
    (hf : ∀ a, OnScale 4 a → OnScale 4 (f a)) {c : ℚ} (hc : OnScale 4 c)
    (hsize : |c| + (ps.map fun p => |p.amount|).sum ≤ turnover db code companyId) :
    fourDecimals ((ps.map fun p => Decimal.toDouble (f p.amount)).foldl Binary64.add
      (Decimal.toDouble c)) = c + (ps.map fun p => f p.amount).sum := by
  have hsum : |c| + ((ps.map fun p => f p.amount).map (|·|)).sum ≤ turnover db code companyId := by
    refine (add_le_add le_rfl ?_).trans hsize
    rw [List.map_map]
    exact List.sum_le_sum fun p _ => hle p.amount
  have hcount : (((ps.map fun p => f p.amount).length : ℚ) + 1) *
      (turnover db code companyId + 1) ≤ 2 ^ 37 := by
    refine (mul_le_mul_of_nonneg_right ?_ ?_).trans hkeeps
    · rw [List.length_map]
      exact_mod_cast Nat.succ_le_succ hps.length_le
    · have hpos := (add_nonneg (abs_nonneg c) ((abs_nonneg _).trans (Binary64.abs_sum_le _))).trans
        hsum
      linarith
  have herror := Binary64.abs_foldl_add_round_sub_le hsum hcount
  rw [List.map_map] at herror
  exact (hc.add (onScale_sum hps hf)).roundToScale_eq (herror.trans_lt (by norm_num))

theorem fourDecimals_toDouble {c : ℚ} (hc : OnScale 4 c)
    (hsize : |c| ≤ turnover db code companyId) : fourDecimals (Decimal.toDouble c) = c := by
  have hone := fourDecimals_foldl hkeeps (List.nil_sublist _) (f := id) (fun _ => le_rfl)
    (fun _ ha => ha) hc (by simpa using hsize)
  simpa using hone

theorem fourDecimals_opening (fromDate toDate : Option Millis) :
    fourDecimals (getMargPartyLedger db code companyId fromDate toDate).openingBalance =
      windowOpening db code companyId fromDate := by
  rw [openingBalance_eq]
  refine fourDecimals_toDouble hkeeps (onScale_windowOpening fromDate) ?_
  exact (le_add_of_nonneg_right (sum_size_nonneg _)).trans (abs_windowOpening_add_le fromDate toDate)

theorem fourDecimals_closing (fromDate toDate : Option Millis) {ps : List MargAccountPosting}
    (hps : ps.Sublist (postingsWithin fromDate toDate (partyPostings db code companyId))) :
    fourDecimals (((runLedger (getMargPartyLedger db code companyId fromDate toDate).openingBalance
      ps).getLast?.map LedgerTransaction.runningBalance).getD
        (getMargPartyLedger db code companyId fromDate toDate).openingBalance) =
      windowOpening db code companyId fromDate + totalAmount ps := by
  rw [closing_runLedger, openingBalance_eq]
  refine fourDecimals_foldl hkeeps (hps.trans List.filter_sublist) (f := id) (fun _ => le_rfl)
    (fun _ ha => ha) (onScale_windowOpening fromDate) ?_
  refine (add_le_add le_rfl ?_).trans (abs_windowOpening_add_le fromDate toDate)
  refine (hps.map _).sum_le_sum fun x hx => ?_
  obtain ⟨p, -, rfl⟩ := List.mem_map.1 hx
  exact abs_nonneg _

/-- A side of the ledger, summed. -/
theorem fourDecimals_side {f : ℚ → ℚ} (hle : ∀ a, |f a| ≤ |a|)
    (hf : ∀ a, OnScale 4 a → OnScale 4 (f a)) {ps : List MargAccountPosting}
    (hps : ps.Sublist (partyPostings db code companyId)) :
    fourDecimals (Binary64.sum (ps.map fun p => Decimal.toDouble (f p.amount))) =
      (ps.map fun p => f p.amount).sum := by
  have hsize : |(0 : ℚ)| + (ps.map fun p => |p.amount|).sum ≤ turnover db code companyId := by
    rw [abs_zero, turnover]
    refine add_le_add (abs_nonneg _) ((hps.map _).sum_le_sum fun x hx => ?_)
    obtain ⟨p, -, rfl⟩ := List.mem_map.1 hx
    exact abs_nonneg _
  have hsum := fourDecimals_foldl hkeeps hps hle hf .zero hsize
  rwa [Decimal.toDouble, Binary64.round_zero, zero_add] at hsum

theorem sum_sides (b : ℚ) {ps : List MargAccountPosting}
    (hps : ps.Sublist (partyPostings db code companyId)) :
    ((runLedger b ps).map fun t => fourDecimals t.debit - fourDecimals t.credit).sum =
      totalAmount ps := by
  induction ps generalizing b with
  | nil => rfl
  | cons p ps ih =>
    have hmem := hps.subset List.mem_cons_self
    have hamount : |p.amount| ≤ turnover db code companyId := by
      have hle := List.single_le_sum (fun x hx => by
        obtain ⟨q, -, rfl⟩ := List.mem_map.1 hx
        exact abs_nonneg q.amount) _ (List.mem_map_of_mem (f := fun q => |q.amount|) hmem)
      exact hle.trans (le_add_of_nonneg_left (abs_nonneg _))
    have hscale := db.amounts p (List.mem_of_mem_filter hmem)
    have hdebit := fourDecimals_toDouble hkeeps (onScale_max hscale)
      ((abs_max_le p.amount).trans hamount)
    have hcredit := fourDecimals_toDouble hkeeps (onScale_max hscale.neg)
      (((abs_max_le _).trans (abs_neg p.amount).le).trans hamount)
    have hnumber : Decimal.toDouble (-p.amount) = -Decimal.toDouble p.amount :=
      Binary64.round_neg p.amount
    rw [← toDouble_side] at hdebit hcredit
    simp only [hnumber, Left.neg_pos_iff] at hcredit
    rw [runLedger, List.map_cons, List.sum_cons, ih _ (List.sublist_of_cons_sublist hps), hdebit,
      hcredit, max_sub_max_neg, totalAmount, totalAmount, List.map_cons, List.sum_cons]

theorem balances_getMargPartyLedger (fromDate toDate : Option Millis) :
    (getMargPartyLedger db code companyId fromDate toDate).Balances := by
  have hwithin : (postingsWithin fromDate toDate (partyPostings db code companyId)).Sublist
      (partyPostings db code companyId) := List.filter_sublist
  refine ⟨?_, fun i row hrow => ?_⟩
  · have hdebit := fourDecimals_side hkeeps abs_max_le (fun _ => onScale_max) hwithin
    have hcredit := fourDecimals_side hkeeps
      (fun a => (abs_max_le (-a)).trans (abs_neg a).le) (fun _ ha => onScale_max ha.neg) hwithin
    rw [← debit_runLedger (getMargPartyLedger db code companyId fromDate toDate).openingBalance]
      at hdebit
    rw [← credit_runLedger (getMargPartyLedger db code companyId fromDate toDate).openingBalance]
      at hcredit
    have hclosing := fourDecimals_closing hkeeps fromDate toDate (List.Sublist.refl _)
    have hsides : ((postingsWithin fromDate toDate (partyPostings db code companyId)).map
          fun p => max p.amount 0).sum -
        ((postingsWithin fromDate toDate (partyPostings db code companyId)).map
          fun p => max (-p.amount) 0).sum =
        totalAmount (postingsWithin fromDate toDate (partyPostings db code companyId)) := by
      rw [sub_eq_iff_eq_add, totalAmount, ← List.sum_map_add]
      exact congrArg List.sum (List.map_congr_left fun p _ => eq_add_of_sub_eq
        (max_sub_max_neg p.amount))
    rw [fourDecimals_opening hkeeps]
    refine Eq.trans ?_ hclosing.symm
    rw [← hsides, ← hdebit, ← hcredit, add_sub_assoc]
    rfl
  · have htake : (getMargPartyLedger db code companyId fromDate toDate).transactions.take (i + 1) =
        runLedger (getMargPartyLedger db code companyId fromDate toDate).openingBalance
          ((postingsWithin fromDate toDate (partyPostings db code companyId)).take (i + 1)) :=
      runLedger_take _ _ _
    have hlast : (runLedger (getMargPartyLedger db code companyId fromDate toDate).openingBalance
        ((postingsWithin fromDate toDate (partyPostings db code companyId)).take
          (i + 1))).getLast? = some row := by
      rw [← htake, List.getLast?_take, if_neg (Nat.succ_ne_zero i), Nat.add_sub_cancel, hrow]
      rfl
    have hclosing := fourDecimals_closing hkeeps fromDate toDate (List.take_sublist (i + 1) _)
    rw [hlast, Option.map_some, Option.getD_some] at hclosing
    rw [hclosing, fourDecimals_opening hkeeps, htake,
      sum_sides hkeeps _ ((List.take_sublist (i + 1) _).trans hwithin)]

theorem fourDecimals_closingBalance (fromDate toDate : Option Millis) :
    fourDecimals (getMargPartyLedger db code companyId fromDate toDate).closingBalance =
      windowOpening db code companyId fromDate +
        totalAmount (postingsWithin fromDate toDate (partyPostings db code companyId)) :=
  fourDecimals_closing hkeeps fromDate toDate (List.Sublist.refl _)

end Party

def nextDay (date : Millis) : Millis := date + 86400000

theorem lt_nextDay_iff {date b : Millis} (hdate : dateColumn date = date) :
    date < dateColumn (nextDay b) ↔ date ≤ dateColumn b := by
  unfold dateColumn nextDay at *
  have hnext : (b + 86400000) / (86400000 : ℤ) = b / 86400000 + 1 := by
    have hne : (86400000 : ℤ) ≠ 0 := by norm_num
    rw [Int.add_ediv_of_dvd_right (dvd_refl _), Int.ediv_self hne]
  rw [hnext]
  have hpos : (0 : ℤ) < 86400000 := by norm_num
  rw [← hdate, mul_lt_mul_iff_of_pos_right hpos, mul_le_mul_iff_of_pos_right hpos,
    Int.lt_add_one_iff]

/-- What was posted before the window and within it was posted up to its end. -/
theorem totalAmount_before_add_within (db : LedgerTables) (code : String) (companyId : Option ℤ)
    {a b : Millis} (hab : a ≤ b) :
    totalAmount (postingsBefore a (partyPostings db code companyId)) +
        totalAmount (postingsWithin (some a) (some b) (partyPostings db code companyId)) =
      totalAmount (postingsBefore (nextDay b) (partyPostings db code companyId)) := by
  have hcolumn : dateColumn a ≤ dateColumn b :=
    mul_le_mul_of_nonneg_right (Int.ediv_le_ediv (by norm_num) hab) (by norm_num)
  unfold totalAmount postingsBefore postingsWithin
  rw [Grouping.sum_map_filter, Grouping.sum_map_filter, Grouping.sum_map_filter,
    ← List.sum_map_add]
  refine congrArg List.sum (List.map_congr_left fun p hp => ?_)
  have hdate := db.dates p (List.mem_of_mem_filter hp)
  have hnext := lt_nextDay_iff (b := b) hdate
  simp only [Option.all_some, Bool.and_eq_true, decide_eq_true_eq, hnext]
  by_cases hbefore : p.date < dateColumn a
  · rw [if_pos hbefore, if_neg (fun h => absurd hbefore (not_lt.2 h.1)),
      if_pos (hbefore.le.trans hcolumn), add_zero]
  · simp only [if_neg hbefore, not_lt.1 hbefore, true_and, zero_add]

theorem postingsWithin_none (db : LedgerTables) (code : String) (companyId : Option ℤ)
    (b : Millis) : postingsWithin none (some b) (partyPostings db code companyId) =
      postingsBefore (nextDay b) (partyPostings db code companyId) := by
  refine List.filter_congr fun p hp => ?_
  have hnext := lt_nextDay_iff (b := b) (db.dates p (List.mem_of_mem_filter hp))
  simp only [Option.all_none, Option.all_some, Bool.true_and, hnext]

def broughtForward : LedgerTables where
  postings := []
  partyBalances := [⟨1, "C1", some 100, some 100⟩]
  dates _ h := absurd h List.not_mem_nil
  amounts _ h := absurd h List.not_mem_nil
  openings b hb x hx := by
    rw [List.mem_singleton.1 hb] at hx
    obtain rfl := Option.some.inj hx
    exact ⟨1000000, by norm_num⟩

end Forecast.MargOutstandings
