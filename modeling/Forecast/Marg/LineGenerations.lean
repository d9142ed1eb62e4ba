import Forecast.Marg.BillRollup

/-!
# Stale generations of voucher lines

A voucher that is issued again comes with new lines, and the old ones stay
staged. The sweep voids them in two passes over the live lines of each number:
exact duplicates, then the generations older than a prefix, newest first, whose
absolute amounts reconcile with the final amount. Each pass runs only where what
it leaves reconciles. A document is a number and a type, but the passes sum all
lines with a number, and a second run may find duplicates that the first one
could not void.
-/

open JsText

namespace Forecast

/-- Company and voucher number, which the sweep takes for a document. -/
abbrev VoucherNumber := ℤ × Trimmed

def MargTransaction.number (line : MargTransaction) : VoucherNumber := (line.companyId, line.voucher)

/-- The columns by which two lines count as one staged twice. -/
def MargTransaction.content (line : MargTransaction) :
    Trimmed × Trimmed × Option ℚ × Option ℚ × Option ℚ × Option ℚ :=
  (line.pid, line.batch, line.qty, line.rate, line.amount, line.gstAmount)

/-- `toleranceRupees` -/
def pruneTolerance : ℚ := 1

/-- Both amounts are cast to `float8`. -/
def reconcilesWith (finalAmt : Option ℚ) (sum : ℚ) : Bool :=
  finalAmt.any fun total => |Binary64.sub sum (Binary64.round total)| ≤ pruneTolerance

/-! ### The live lines of one number -/

section Live

variable (finalAmt : Option ℚ) (live : List MargTransaction)

def netSum : ℚ := (live.map MargTransaction.netAmount).sum

/-- `kept_sum`: each line is cast to `float8` before it is added. -/
def keptSum : ℚ := Binary64.sum (live.map fun line => Binary64.round line.netAmount)

/-- `cum_sum` at the oldest of the lines: the sums of the generations are cast and added, the
newest first. -/
def cumSum : ℚ :=
  Binary64.sum (((live.map MargTransaction.createdAt).dedup.insertionSort (· ≥ ·)).map
    fun createdAt =>
      Binary64.round (netSum (live.filter fun line => line.createdAt = createdAt)))

example : cumSum [{ invoiceLine "I;GST" with createdAt := 1 }, invoiceLine "I;GST"] = 236 := by
  decide +kernel

/-- The row that is numbered first: the highest id of Marg, and of those the highest row id, in
whose order the rows are listed. -/
def latestLine : Option MargTransaction :=
  live.foldl (fun best line =>
    if best.any fun b => line.margId < b.margId then best else some line) none

/-- Of the lines with one content only the latest is kept. -/
def isLatest (line : MargTransaction) : Bool :=
  latestLine (live.filter fun other => other.content = line.content) = some line

/-- What the first pass leaves of the lines of a number. -/
def collapsed : List MargTransaction :=
  if reconcilesWith finalAmt (keptSum (live.filter (isLatest live))) then live.filter (isLatest live)
  else live

/-- The lines of the generations from `cut` on. -/
def generationsFrom (cut : Millis) : List MargTransaction :=
  live.filter fun line => cut ≤ line.createdAt

end Live

section Generations

variable (reconciled : List MargTransaction → Bool) (live : List MargTransaction)

/-- The creation times from which on the lines reconcile. -/
def reconcilingCuts : List Millis :=
  (live.map MargTransaction.createdAt).filter fun cut => reconciled (generationsFrom live cut)

/-- The line belongs to the longest prefix that reconciles, if any does. -/
def survives (line : MargTransaction) : Bool :=
  (reconcilingCuts reconciled live).min?.all fun keepFrom => keepFrom ≤ line.createdAt

def superseded : List MargTransaction := live.filter (survives reconciled live)

end Generations

/-- A prefix of the generations reconciles. -/
def reconcilesFrom (finalAmt : Option ℚ) (lines : List MargTransaction) : Bool :=
  reconcilesWith finalAmt (cumSum lines)

/-! ### The sweep over the table -/

namespace MargDocuments

def headerTotal (docs : MargDocuments) (number : VoucherNumber) : Option ℚ :=
  ((docs.liveVouchers.filter fun v => (v.companyId, v.voucher) = number).filterMap
    MargVoucher.finalAmt).max?

end MargDocuments

def liveOf (lines : List MargTransaction) (number : VoucherNumber) : List MargTransaction :=
  lines.filter fun line => !line.isCancelled && line.number = number

def voidWhere (voids : MargTransaction → Bool) (lines : List MargTransaction) :
    List MargTransaction :=
  lines.map fun line => if voids line then { line with isCancelled := true } else line

section Sweep

variable (headerTotal : VoucherNumber → Option ℚ)

/-- The lines the first pass voids. -/
def isExactDuplicate (lines : List MargTransaction) (line : MargTransaction) : Bool :=
  let live := liveOf lines line.number
  reconcilesWith (headerTotal line.number) (keptSum (live.filter (isLatest live))) &&
    !isLatest live line

def collapseExactDuplicates (lines : List MargTransaction) : List MargTransaction :=
  voidWhere (isExactDuplicate headerTotal lines) lines

/-- The lines the second pass voids. -/
def isStaleGeneration (lines : List MargTransaction) (line : MargTransaction) : Bool :=
  !survives (reconcilesFrom (headerTotal line.number)) (liveOf lines line.number) line

def collapseGenerations (lines : List MargTransaction) : List MargTransaction :=
  voidWhere (isStaleGeneration headerTotal lines) lines

def pruneStaleVoucherLineGenerations (lines : List MargTransaction) : List MargTransaction :=
  collapseGenerations headerTotal (collapseExactDuplicates headerTotal lines)

end Sweep

/-! ### What a pass leaves -/

theorem liveOf_voidWhere (voids : MargTransaction → Bool) (lines : List MargTransaction)
    (number : VoucherNumber) :
    liveOf (voidWhere voids lines) number = (liveOf lines number).filter fun l => !voids l := by
  induction lines with
  | nil => rfl
  | cons line lines ih =>
    unfold liveOf voidWhere at ih ⊢
    by_cases hvoid : voids line
    · by_cases hlive : !line.isCancelled && line.number = number
      · simp [hvoid, hlive, ih]
      · simp [hvoid, hlive, ih]
    · by_cases hlive : !line.isCancelled && line.number = number
      · simp [hvoid, hlive, ih]
      · simp [hvoid, hlive, ih]

theorem number_of_mem_liveOf {lines : List MargTransaction} {number : VoucherNumber}
    {line : MargTransaction} (h : line ∈ liveOf lines number) : line.number = number := by
  have hlive := (List.mem_filter.1 h).2
  simp only [Bool.and_eq_true, decide_eq_true_eq] at hlive
  exact hlive.2

section Passes

variable {headerTotal : VoucherNumber → Option ℚ} {lines : List MargTransaction}
  {number : VoucherNumber}

theorem liveOf_collapseExactDuplicates :
    liveOf (collapseExactDuplicates headerTotal lines) number =
      collapsed (headerTotal number) (liveOf lines number) := by
  rw [collapseExactDuplicates, liveOf_voidWhere, collapsed]
  by_cases h : reconcilesWith (headerTotal number)
      (keptSum ((liveOf lines number).filter (isLatest (liveOf lines number))))
  · rw [if_pos h]
    apply List.filter_congr
    intro line hline
    rw [isExactDuplicate, number_of_mem_liveOf hline]
    simp [h]
  · rw [if_neg h]
    rw [List.filter_eq_self]
    intro line hline
    rw [isExactDuplicate, number_of_mem_liveOf hline]
    simp [h]

theorem liveOf_collapseGenerations :
    liveOf (collapseGenerations headerTotal lines) number =
      superseded (reconcilesFrom (headerTotal number)) (liveOf lines number) := by
  rw [collapseGenerations, liveOf_voidWhere, superseded]
  apply List.filter_congr
  intro line hline
  rw [isStaleGeneration, number_of_mem_liveOf hline, Bool.not_not]

/-- The sweep treats each number on its own. -/
theorem liveOf_prune :
    liveOf (pruneStaleVoucherLineGenerations headerTotal lines) number =
      superseded (reconcilesFrom (headerTotal number))
        (collapsed (headerTotal number) (liveOf lines number)) := by
  rw [pruneStaleVoucherLineGenerations, liveOf_collapseGenerations, liveOf_collapseExactDuplicates]

end Passes

/-! ### The lines of one number after a run -/

section Generations

variable {reconciled : List MargTransaction → Bool} {live : List MargTransaction}

theorem mem_reconcilingCuts {cut : Millis} :
    cut ∈ reconcilingCuts reconciled live ↔
      (∃ line ∈ live, line.createdAt = cut) ∧ reconciled (generationsFrom live cut) := by
  rw [reconcilingCuts, List.mem_filter, List.mem_map]

theorem mem_generationsFrom {cut : Millis} {line : MargTransaction} :
    line ∈ generationsFrom live cut ↔ line ∈ live ∧ cut ≤ line.createdAt := by
  rw [generationsFrom, List.mem_filter, decide_eq_true_eq]

variable (reconciled live) in
/-- The generations from `keepFrom` on are the longest prefix that reconciles. -/
def LongestPrefix (keepFrom : Millis) : Prop :=
  IsLeast {cut | cut ∈ reconcilingCuts reconciled live} keepFrom

theorem exists_longestPrefix (h : reconcilingCuts reconciled live ≠ []) :
    ∃ keepFrom, LongestPrefix reconciled live keepFrom := by
  cases hmin : (reconcilingCuts reconciled live).min? with
  | none =>
    rw [List.min?_eq_none_iff] at hmin
    exact absurd hmin h
  | some keepFrom => exact ⟨keepFrom, List.min?_eq_some_iff.1 hmin⟩

theorem superseded_of_longestPrefix {keepFrom : Millis}
    (h : LongestPrefix reconciled live keepFrom) :
    superseded reconciled live = generationsFrom live keepFrom := by
  have hmin : (reconcilingCuts reconciled live).min? = some keepFrom := List.min?_eq_some_iff.2 h
  rw [superseded, generationsFrom]
  exact List.filter_congr fun line _ => by rw [survives, hmin, Option.all_some]

theorem superseded_of_no_cut (h : reconcilingCuts reconciled live = []) :
    superseded reconciled live = live := by
  rw [superseded, List.filter_eq_self]
  intro line _
  rw [survives, h]
  rfl

theorem exists_oldest (h : live ≠ []) :
    ∃ first ∈ live, ∀ line ∈ live, first.createdAt ≤ line.createdAt := by
  cases hmin : (live.map MargTransaction.createdAt).min? with
  | none =>
    rw [List.min?_eq_none_iff, List.map_eq_nil_iff] at hmin
    exact absurd hmin h
  | some oldest =>
    obtain ⟨hmem, hle⟩ := List.min?_eq_some_iff.1 hmin
    obtain ⟨first, hfirst, rfl⟩ := List.mem_map.1 hmem
    exact ⟨first, hfirst, fun line hline => hle _ (List.mem_map_of_mem hline)⟩

/-- Generations that reconcile begin with a cut: the oldest of their lines. -/
theorem exists_cut_of_reconciles {keepFrom : Millis}
    (hrec : reconciled (generationsFrom live keepFrom))
    (hne : generationsFrom live keepFrom ≠ []) :
    ∃ cut ∈ reconcilingCuts reconciled live,
      ∀ line ∈ generationsFrom live keepFrom, cut ≤ line.createdAt := by
  obtain ⟨first, hfirst, hold⟩ := exists_oldest hne
  obtain ⟨hmem, hfrom⟩ := mem_generationsFrom.1 hfirst
  refine ⟨first.createdAt, ?_, hold⟩
  have hsame : generationsFrom live first.createdAt = generationsFrom live keepFrom := by
    apply List.filter_congr
    intro line hline
    rw [decide_eq_decide]
    exact ⟨hfrom.trans, fun hkeep => hold line (mem_generationsFrom.2 ⟨hline, hkeep⟩)⟩
  rw [mem_reconcilingCuts, hsame]
  exact ⟨⟨first, hmem, rfl⟩, hrec⟩

/-- Lines that reconcile together are all kept: their oldest generation begins the longest prefix. -/
theorem superseded_of_reconciles (h : reconciled live) : superseded reconciled live = live := by
  by_cases hcuts : reconcilingCuts reconciled live = []
  · exact superseded_of_no_cut hcuts
  obtain ⟨keepFrom, hkeep⟩ := exists_longestPrefix hcuts
  rw [superseded_of_longestPrefix hkeep, generationsFrom, List.filter_eq_self]
  intro line hline
  obtain ⟨first, hfirst, hold⟩ := exists_oldest (List.ne_nil_of_mem hline)
  have hall : generationsFrom live first.createdAt = live := by
    rw [generationsFrom, List.filter_eq_self]
    exact fun other hother => decide_eq_true (hold other hother)
  have hcut : first.createdAt ∈ reconcilingCuts reconciled live := by
    rw [mem_reconcilingCuts, hall]
    exact ⟨⟨first, hfirst, rfl⟩, h⟩
  exact decide_eq_true ((hkeep.2 hcut).trans (hold line hline))

theorem superseded_superseded :
    superseded reconciled (superseded reconciled live) = superseded reconciled live := by
  by_cases hcuts : reconcilingCuts reconciled live = []
  · rw [superseded_of_no_cut hcuts, superseded_of_no_cut hcuts]
  · obtain ⟨keepFrom, hkeep⟩ := exists_longestPrefix hcuts
    apply superseded_of_reconciles
    rw [superseded_of_longestPrefix hkeep]
    exact (mem_reconcilingCuts.1 hkeep.1).2

end Generations

section Live

variable {finalAmt : Option ℚ} {live : List MargTransaction}

variable (finalAmt live) in
/-- The latest line of each content reconciles, and some content is repeated. -/
def RepeatsVoided : Prop :=
  reconcilesWith finalAmt (keptSum (live.filter (isLatest live))) ∧
    ∃ line ∈ live, isLatest live line = false

theorem collapsed_eq_self_iff : collapsed finalAmt live = live ↔ ¬RepeatsVoided finalAmt live := by
  unfold collapsed RepeatsVoided
  split_ifs with hrec
  · rw [List.filter_eq_self]
    simp [hrec]
  · simp [hrec]

theorem collapsed_sublist : (collapsed finalAmt live).Sublist live := by
  unfold collapsed
  split_ifs
  · exact List.filter_sublist
  · exact .refl live

/-- A second run changes a number exactly when it finds repeats to void. -/
theorem superseded_collapsed_eq_iff :
    superseded (reconcilesFrom finalAmt)
        (collapsed finalAmt (superseded (reconcilesFrom finalAmt) live)) =
      superseded (reconcilesFrom finalAmt) live ↔
    ¬RepeatsVoided finalAmt (superseded (reconcilesFrom finalAmt) live) := by
  rw [← collapsed_eq_self_iff]
  constructor
  · intro h
    refine collapsed_sublist.antisymm ?_
    conv_lhs => rw [← h]
    exact List.filter_sublist
  · intro h
    rw [h, superseded_superseded]

theorem latestLine_mem {best : MargTransaction} :
    latestLine live = some best → best ∈ live := by
  suffices h : ∀ (lines : List MargTransaction) (start : Option MargTransaction),
      lines.foldl (fun best line =>
        if best.any fun b => line.margId < b.margId then best else some line) start = some best →
      start = some best ∨ best ∈ lines by
    intro hlatest
    obtain hstart | hmem := h live none hlatest
    · exact absurd hstart (Option.some_ne_none best).symm
    · exact hmem
  intro lines
  induction lines with
  | nil => exact fun start hstart => Or.inl hstart
  | cons line lines ih =>
    intro start hfold
    rw [List.foldl_cons] at hfold
    obtain hnext | hmem := ih _ hfold
    · split_ifs at hnext with hany
      · exact Or.inl hnext
      · rw [Option.some.injEq] at hnext
        exact Or.inr (List.mem_cons.2 (Or.inl hnext.symm))
    · exact Or.inr (List.mem_cons_of_mem _ hmem)

theorem exists_latestLine {line : MargTransaction} (hline : line ∈ live) :
    ∃ best, latestLine live = some best := by
  suffices h : ∀ (lines : List MargTransaction) (start : MargTransaction), ∃ best,
      lines.foldl (fun best line =>
        if best.any fun b => line.margId < b.margId then best else some line) (some start) =
          some best by
    cases live with
    | nil => exact absurd hline List.not_mem_nil
    | cons first rest => exact h rest first
  intro lines
  induction lines with
  | nil => exact fun start => ⟨start, rfl⟩
  | cons line lines ih =>
    intro start
    rw [List.foldl_cons]
    split_ifs
    · exact ih start
    · exact ih line

/-- Among latest lines of the contents none is repeated. -/
theorem isLatest_of_subset {kept : List MargTransaction}
    (hkept : ∀ line ∈ kept, isLatest live line) {line : MargTransaction} (hline : line ∈ kept) :
    isLatest kept line := by
  have hself : line ∈ kept.filter fun other => other.content = line.content :=
    List.mem_filter.2 ⟨hline, decide_eq_true rfl⟩
  obtain ⟨best, hbest⟩ := exists_latestLine hself
  obtain ⟨hmem, hcontent⟩ := List.mem_filter.1 (latestLine_mem hbest)
  rw [decide_eq_true_eq] at hcontent
  have hbestLatest := of_decide_eq_true (hkept best hmem)
  have hlineLatest := of_decide_eq_true (hkept line hline)
  rw [hcontent, hlineLatest, Option.some.injEq] at hbestLatest
  rw [isLatest, hbest, hbestLatest]
  exact decide_eq_true rfl

end Live

/-! ### One document -/

section Document

variable (finalAmt : Option ℚ) (live : List MargTransaction)

/-- The lines add up to the final amount, up to the tolerance and without rounding. -/
def addsUpTo (lines : List MargTransaction) : Bool :=
  finalAmt.any fun total => |netSum lines - total| ≤ pruneTolerance

/-- The lines of a document are voided by its own amount and generations, if at all. -/
structure DocumentLaw (remaining : List MargTransaction) : Prop where
  reconciled : remaining ≠ live → addsUpTo finalAmt remaining
  untouched : reconcilingCuts (addsUpTo finalAmt) live = [] → remaining = live
  fewest : ∀ cut ∈ reconcilingCuts (addsUpTo finalAmt) live, generationsFrom live cut ⊆ remaining

/-- All lines are kept, or lines that add up to the amount, the longest prefix that does so among
them. -/
def KeepsDocument (keeps : MargTransaction → Bool) : Prop :=
  (∀ line ∈ live, keeps line) ∨ addsUpTo finalAmt (live.filter keeps) ∧
    ∃ cut, LongestPrefix (addsUpTo finalAmt) live cut ∧
      ∀ line ∈ generationsFrom live cut, keeps line

variable {finalAmt live}

theorem documentLaw_iff {keeps : MargTransaction → Bool} :
    DocumentLaw finalAmt live (live.filter keeps) ↔ KeepsDocument finalAmt live keeps := by
  constructor
  · intro h
    by_cases hall : live.filter keeps = live
    · exact Or.inl (List.filter_eq_self.1 hall)
    · obtain ⟨cut, hcut⟩ := exists_longestPrefix fun hnil => hall (h.untouched hnil)
      refine Or.inr ⟨h.reconciled hall, cut, hcut, ?_⟩
      exact fun line hline => (List.mem_filter.1 (h.fewest cut hcut.1 hline)).2
  · rintro (hall | ⟨hrec, cut, hcut, hkept⟩)
    · rw [List.filter_eq_self.2 hall]
      exact ⟨fun hne => absurd rfl hne, fun _ => rfl, fun cut _ => List.filter_sublist.subset⟩
    · refine ⟨fun _ => hrec, fun hnil => ?_, fun other hother line hline => ?_⟩
      · have hmem : cut ∈ reconcilingCuts (addsUpTo finalAmt) live := hcut.1
        rw [hnil] at hmem
        exact absurd hmem List.not_mem_nil
      · obtain ⟨hmem, hfrom⟩ := mem_generationsFrom.1 hline
        have hprefix := mem_generationsFrom.2 ⟨hmem, (hcut.2 hother).trans hfrom⟩
        exact List.mem_filter.2 ⟨hmem, hkept line hprefix⟩

/-- Generations cut off elsewhere leave a document whole or with its own longest prefix. -/
theorem documentLaw_generationsFrom_iff {keepFrom : Millis} :
    DocumentLaw finalAmt live (generationsFrom live keepFrom) ↔
      generationsFrom live keepFrom = live ∨
        ∃ cut, LongestPrefix (addsUpTo finalAmt) live cut ∧
          generationsFrom live keepFrom = generationsFrom live cut := by
  rw [generationsFrom, documentLaw_iff, KeepsDocument, List.filter_eq_self, ← generationsFrom]
  apply or_congr_right
  constructor
  · rintro ⟨hrec, cut, hcut, hkept⟩
    refine ⟨cut, hcut, ?_⟩
    obtain ⟨line, hline, rfl⟩ := (mem_reconcilingCuts.1 hcut.1).1
    have hfirst := hkept line (mem_generationsFrom.2 ⟨hline, le_rfl⟩)
    rw [decide_eq_true_eq] at hfirst
    obtain ⟨other, hother, hold⟩ := exists_cut_of_reconciles hrec
      (List.ne_nil_of_mem (mem_generationsFrom.2 ⟨hline, hfirst⟩))
    apply List.filter_congr
    intro l hl
    rw [decide_eq_decide]
    refine ⟨fun hkeep => ?_, hfirst.trans⟩
    exact (hcut.2 hother).trans (hold l (mem_generationsFrom.2 ⟨hl, hkeep⟩))
  · rintro ⟨cut, hcut, hsame⟩
    rw [hsame]
    refine ⟨(mem_reconcilingCuts.1 hcut.1).2, cut, hcut, ?_⟩
    intro line hline
    rw [← hsame, mem_generationsFrom] at hline
    exact decide_eq_true hline.2

end Document

/-! ### The sweep of a tenant -/

namespace MargDocuments

variable (docs : MargDocuments)

/-- The lines after a run. -/
def prunedLines : List MargTransaction :=
  pruneStaleVoucherLineGenerations docs.headerTotal docs.lines

/-- The final amount of a document: its live header has the number and the type. -/
def finalOf (number : VoucherNumber) (type : Trimmed) : Option ℚ :=
  (docs.liveVouchers.find? fun v => (v.companyId, v.voucher) = number ∧ v.type = type).bind
    MargVoucher.finalAmt

/-- The lines of one type among those of a number. -/
def ofType (type : Trimmed) (lines : List MargTransaction) : List MargTransaction :=
  lines.filter fun line => line.type = type

/-- Each document is pruned by its own lines and final amount, and by its generations alone. -/
structure GenerationsLaw : Prop where
  documents : ∀ number type, DocumentLaw (docs.finalOf number type)
    (ofType type (liveOf docs.lines number)) (ofType type (liveOf docs.prunedLines number))
  again : ∀ number,
    liveOf (pruneStaleVoucherLineGenerations docs.headerTotal docs.prunedLines) number =
      liveOf docs.prunedLines number

/-- The repeats of a number are voided, or its generations older than the longest prefix that
reconciles with the largest amount, just where the documents with the number ask it. -/
structure FitsDocuments (number : VoucherNumber) (total : Option ℚ)
    (live : List MargTransaction) : Prop where
  repeats : RepeatsVoided total live → ∀ type,
    KeepsDocument (docs.finalOf number type) (ofType type live) fun line =>
      isLatest live line && survives (reconcilesFrom total) (live.filter (isLatest live)) line
  generations : ¬RepeatsVoided total live →
    ∀ keepFrom, LongestPrefix (reconcilesFrom total) live keepFrom →
    ∀ type, generationsFrom (ofType type live) keepFrom = ofType type live ∨
      ∃ cut, LongestPrefix (addsUpTo (docs.finalOf number type)) (ofType type live) cut ∧
        generationsFrom (ofType type live) keepFrom = generationsFrom (ofType type live) cut
  settled : ¬RepeatsVoided total live →
    ∀ keepFrom, LongestPrefix (reconcilesFrom total) live keepFrom →
      ¬RepeatsVoided total (generationsFrom live keepFrom)

variable {docs} {number : VoucherNumber}

theorem liveOf_prunedLines :
    liveOf docs.prunedLines number = superseded (reconcilesFrom (docs.headerTotal number))
      (collapsed (docs.headerTotal number) (liveOf docs.lines number)) :=
  liveOf_prune

theorem ofType_filter (type : Trimmed) (live : List MargTransaction)
    (keeps : MargTransaction → Bool) :
    ofType type (live.filter keeps) = (ofType type live).filter keeps := by
  rw [ofType, ofType, List.filter_filter, List.filter_filter]
  exact List.filter_congr fun line _ => Bool.and_comm _ _

theorem again_iff :
    liveOf (pruneStaleVoucherLineGenerations docs.headerTotal docs.prunedLines) number =
        liveOf docs.prunedLines number ↔
      ¬RepeatsVoided (docs.headerTotal number) (liveOf docs.prunedLines number) := by
  rw [liveOf_prune, liveOf_prunedLines, superseded_collapsed_eq_iff]

theorem fitsDocuments_iff_of_repeatsVoided {total : Option ℚ} {live : List MargTransaction}
    (h : RepeatsVoided total live) :
    docs.FitsDocuments number total live ↔
      (∀ type, DocumentLaw (docs.finalOf number type) (ofType type live)
        (ofType type (superseded (reconcilesFrom total) (collapsed total live)))) ∧
      ¬RepeatsVoided total (superseded (reconcilesFrom total) (collapsed total live)) := by
  have hleft : superseded (reconcilesFrom total) (collapsed total live) = live.filter fun line =>
      isLatest live line && survives (reconcilesFrom total) (live.filter (isLatest live)) line := by
    rw [collapsed, if_pos h.1, superseded, List.filter_filter]
    exact List.filter_congr fun line _ => Bool.and_comm _ _
  have hagain : ¬RepeatsVoided total
      (superseded (reconcilesFrom total) (collapsed total live)) := by
    rintro ⟨-, line, hline, hrepeat⟩
    have hlatest : ∀ l ∈ superseded (reconcilesFrom total) (collapsed total live),
        isLatest live l := by
      intro l hl
      rw [hleft] at hl
      exact (Bool.and_eq_true_iff.1 (List.mem_filter.1 hl).2).1
    rw [isLatest_of_subset hlatest hline] at hrepeat
    exact Bool.noConfusion hrepeat
  refine ⟨fun hfits => ⟨fun type => ?_, hagain⟩, fun hlaw => ⟨fun _ type => ?_, absurd h, absurd h⟩⟩
  · rw [hleft, ofType_filter, documentLaw_iff]
    exact hfits.repeats h type
  · have hdocument := hlaw.1 type
    rw [hleft, ofType_filter, documentLaw_iff] at hdocument
    exact hdocument

/-- The number is swept by its generations. -/
theorem fitsDocuments_iff_of_not_repeatsVoided {total : Option ℚ} {live : List MargTransaction}
    (h : ¬RepeatsVoided total live) :
    docs.FitsDocuments number total live ↔
      (∀ type, DocumentLaw (docs.finalOf number type) (ofType type live)
        (ofType type (superseded (reconcilesFrom total) (collapsed total live)))) ∧
      ¬RepeatsVoided total (superseded (reconcilesFrom total) (collapsed total live)) := by
  rw [collapsed_eq_self_iff.2 h]
  by_cases hcuts : reconcilingCuts (reconcilesFrom total) live = []
  · have hnone : ∀ keepFrom, ¬LongestPrefix (reconcilesFrom total) live keepFrom := by
      intro keepFrom hkeep
      have hmem : keepFrom ∈ reconcilingCuts (reconcilesFrom total) live := hkeep.1
      rw [hcuts] at hmem
      exact List.not_mem_nil hmem
    rw [superseded_of_no_cut hcuts]
    refine ⟨fun _ => ⟨fun type => ?_, h⟩, fun _ => ⟨fun hrep => absurd hrep h, ?_, ?_⟩⟩
    · exact ⟨fun hne => absurd rfl hne, fun _ => rfl, fun cut _ => List.filter_sublist.subset⟩
    · exact fun _ keepFrom hkeep => absurd hkeep (hnone keepFrom)
    · exact fun _ keepFrom hkeep => absurd hkeep (hnone keepFrom)
  · obtain ⟨keepFrom, hkeep⟩ := exists_longestPrefix hcuts
    have hunique : ∀ other, LongestPrefix (reconcilesFrom total) live other → other = keepFrom :=
      fun other hother => hother.unique hkeep
    rw [superseded_of_longestPrefix hkeep]
    have hofType : ∀ type, ofType type (generationsFrom live keepFrom) =
        generationsFrom (ofType type live) keepFrom := fun type => ofType_filter type live _
    simp only [hofType, documentLaw_generationsFrom_iff]
    refine ⟨fun hfits => ⟨hfits.generations h keepFrom hkeep, hfits.settled h keepFrom hkeep⟩,
      fun hlaw => ⟨fun hrep => absurd hrep h, ?_, ?_⟩⟩
    · rintro - other hother
      rw [hunique other hother]
      exact hlaw.1
    · rintro - other hother
      rw [hunique other hother]
      exact hlaw.2

end MargDocuments

/-- An invoice with two equal lines of nothing was issued again after one stale line. -/
def reissuedInvoice : MargDocuments where
  vouchers := [invoiceHeader "I;GST"]
  vouchers_nodup := nodup_invoiceHeader "I;GST"
  lines := [{ invoiceLine "I;GST" with amount := some 90, gstAmount := some 10 },
    { invoiceLine "I;GST" with sourceKey := "marg:1:11", margId := 11, createdAt := 1 },
    { invoiceLine "I;GST" with
      sourceKey := "marg:1:12", margId := 12, createdAt := 1, amount := some 0, gstAmount := none },
    { invoiceLine "I;GST" with
      sourceKey := "marg:1:13", margId := 13, createdAt := 1, amount := some 0, gstAmount := none }]
  lines_nodup := by decide +kernel

end Forecast
