import Forecast.Marg.JournalHistory

/-!
# The balance of journal lines

`normalizeMargJournalLines` rounds the amounts of some lines and adds a difference within the
tolerance to the largest line of the side that falls short. Lines that differ by more are left as
they are, and their group is skipped.
-/

namespace Forecast

/-! ### Lines with an amount on each side -/

/-- A `MargJournalLineDraft` with both of its amounts. -/
structure TwoSidedDraft where
  glAccountId : Id
  debitAmount : ℚ
  creditAmount : ℚ
  description : String
deriving DecidableEq

namespace TwoSidedDraft

def amount (side : JournalSide) (line : TwoSidedDraft) : ℚ :=
  match side with
  | .debit => line.debitAmount
  | .credit => line.creditAmount

def setAmount (side : JournalSide) (amount : ℚ) (line : TwoSidedDraft) : TwoSidedDraft :=
  match side with
  | .debit => { line with debitAmount := amount }
  | .credit => { line with creditAmount := amount }

@[simp]
theorem amount_setAmount (side : JournalSide) (amount : ℚ) (line : TwoSidedDraft) :
    (line.setAmount side amount).amount side = amount := by
  cases side <;> rfl

theorem amount_setAmount_of_ne {side other : JournalSide} (h : other ≠ side) (amount : ℚ)
    (line : TwoSidedDraft) : (line.setAmount side amount).amount other = line.amount other := by
  cases side <;> cases other <;> first | rfl | exact absurd rfl h

def normalized (line : TwoSidedDraft) : TwoSidedDraft :=
  { line with
    debitAmount := normalizeMargAccountingAmount line.debitAmount
    creditAmount := normalizeMargAccountingAmount line.creditAmount }

/-- A line with its place takes the place of a smaller one. -/
def keepLarger (side : JournalSide) (best : Option (TwoSidedDraft × ℕ))
    (line : TwoSidedDraft × ℕ) : Option (TwoSidedDraft × ℕ) :=
  match best with
  | none => some line
  | some other => if other.1.amount side < line.1.amount side then some line else some other

/-- The first of the largest positive amounts. -/
def largest (side : JournalSide) (lines : List TwoSidedDraft) : Option (TwoSidedDraft × ℕ) :=
  (lines.zipIdx.filter fun line => 0 < line.1.amount side).foldl (keepLarger side) none

/-- The difference is added to a line. -/
def raise (side : JournalSide) (delta : ℚ) (line : TwoSidedDraft) : TwoSidedDraft :=
  line.setAmount side (normalizeMargAccountingAmount (line.amount side + delta))

def normalizeMargJournalLines (lines : List TwoSidedDraft) : List TwoSidedDraft :=
  let normalizedLines := lines.map normalized
  let debitTotal := sideTotal (normalizedLines.map debitAmount)
  let creditTotal := sideTotal (normalizedLines.map creditAmount)
  if debitTotal = creditTotal ∨
      ¬isWithinTolerance debitTotal creditTotal accountingReconciliationTolerance then
    normalizedLines
  else
    let side : JournalSide := if debitTotal < creditTotal then .debit else .credit
    let delta := normalizeMargAccountingAmount |debitTotal - creditTotal|
    if delta = 0 then normalizedLines
    else
      match largest side normalizedLines with
      | none => normalizedLines
      | some (_, index) => normalizedLines.modify index (raise side delta)

end TwoSidedDraft

/-! ### Amounts of four places -/

/-- A decimal of four places. -/
def IsUnits (amount : ℚ) : Prop := ∃ units : ℤ, amount = units * (1 / 10 ^ 4)

namespace IsUnits

variable {x y : ℚ}

theorem zero : IsUnits 0 := ⟨0, by norm_num⟩

theorem add (hx : IsUnits x) (hy : IsUnits y) : IsUnits (x + y) := by
  obtain ⟨m, rfl⟩ := hx
  obtain ⟨n, rfl⟩ := hy
  exact ⟨m + n, by push_cast; ring⟩

theorem sub (hx : IsUnits x) (hy : IsUnits y) : IsUnits (x - y) := by
  obtain ⟨m, rfl⟩ := hx
  obtain ⟨n, rfl⟩ := hy
  exact ⟨m - n, by push_cast; ring⟩

theorem abs (hx : IsUnits x) : IsUnits |x| := by
  obtain ⟨m, rfl⟩ := hx
  exact ⟨|m|, by rw [abs_mul, Int.cast_abs]; norm_num⟩

theorem sum {amounts : List ℚ} (h : ∀ x ∈ amounts, IsUnits x) : IsUnits amounts.sum := by
  induction amounts with
  | nil => exact zero
  | cons x amounts ih =>
    rw [List.forall_mem_cons] at h
    rw [List.sum_cons]
    exact h.1.add (ih h.2)

theorem normalize (h : IsUnits x) : normalizeMargAccountingAmount x = x := by
  obtain ⟨units, rfl⟩ := h
  exact GridRounding.roundTo_intCast_mul (by norm_num) units

theorem of_normalize (x : ℚ) : IsUnits (normalizeMargAccountingAmount x) :=
  ⟨GridRounding.roundHalfAway (x / (1 / 10 ^ 4)), rfl⟩

/-- Exact amounts are summed exactly, whatever is rounded on the way. -/
theorem sideTotal_eq {amounts : List ℚ} (h : ∀ x ∈ amounts, IsUnits x) :
    sideTotal amounts = amounts.sum := by
  have hfrom : ∀ total, IsUnits total →
      amounts.foldl (fun total amount => normalizeMargAccountingAmount (total + amount)) total =
        total + amounts.sum := by
    induction amounts with
    | nil => simp
    | cons x amounts ih =>
      intro total htotal
      rw [List.forall_mem_cons] at h
      rw [List.foldl_cons, (htotal.add h.1).normalize, ih h.2 _ (htotal.add h.1), List.sum_cons]
      ring
  rw [sideTotal, hfrom 0 zero, zero_add]

end IsUnits

/-! ### The lines that come out -/

namespace TwoSidedDraft

/-- Both amounts of the line have four places. -/
structure IsExact (line : TwoSidedDraft) : Prop where
  debit : IsUnits line.debitAmount
  credit : IsUnits line.creditAmount

variable {lines : List TwoSidedDraft}

theorem normalized_eq {line : TwoSidedDraft} (h : line.IsExact) : line.normalized = line := by
  rw [normalized, h.debit.normalize, h.credit.normalize]

theorem map_normalized_eq (h : ∀ line ∈ lines, line.IsExact) : lines.map normalized = lines :=
  (List.map_congr_left fun line hline => normalized_eq (h line hline)).trans (List.map_id _)

theorem IsExact.amount {line : TwoSidedDraft} (h : line.IsExact) (side : JournalSide) :
    IsUnits (line.amount side) := by
  cases side
  · exact h.debit
  · exact h.credit

def total (side : JournalSide) (lines : List TwoSidedDraft) : ℚ := (lines.map (amount side)).sum

theorem isUnits_total (h : ∀ line ∈ lines, line.IsExact) (side : JournalSide) :
    IsUnits (total side lines) := by
  apply IsUnits.sum
  rw [List.forall_mem_map]
  exact fun line hline => (h line hline).amount side

/-- Raising the line at a place raises its side by the difference and leaves the other alone. -/
theorem total_modify {side : JournalSide} {delta : ℚ} {index : ℕ} {line : TwoSidedDraft}
    (hline : lines[index]? = some line) (hexact : line.IsExact) (hdelta : IsUnits delta)
    (other : JournalSide) :
    total other (lines.modify index (raise side delta)) =
      total other lines + if other = side then delta else 0 := by
  have htotal : ∀ ls : List TwoSidedDraft,
      total other ls = RowTable.total (fun _ => true) (amount other) ls := by
    intro ls
    rw [total, RowTable.total, List.filter_true]
  rw [htotal, htotal, RowTable.total_modify _ _ _ hline, if_pos rfl, if_pos rfl]
  by_cases hside : other = side
  · subst hside
    rw [raise, amount_setAmount, ((hexact.amount other).add hdelta).normalize, if_pos rfl]
    ring
  · rw [raise, amount_setAmount_of_ne hside, if_neg hside, sub_self]

theorem exists_of_foldl_keepLarger {side : JournalSide} {ls : List (TwoSidedDraft × ℕ)}
    {best : Option (TwoSidedDraft × ℕ)} (h : best.isSome = true ∨ ls ≠ []) :
    ∃ found, ls.foldl (keepLarger side) best = some found ∧ (found ∈ ls ∨ best = some found) := by
  induction ls generalizing best with
  | nil =>
    obtain ⟨found, rfl⟩ := Option.isSome_iff_exists.1 (h.resolve_right (absurd rfl))
    exact ⟨found, rfl, .inr rfl⟩
  | cons line ls ih =>
    have hstep : keepLarger side best line = some line ∨
        (keepLarger side best line = best ∧ best.isSome = true) := by
      unfold keepLarger
      cases best with
      | none => exact .inl rfl
      | some other =>
        dsimp only
        split_ifs
        · exact .inl rfl
        · exact .inr ⟨rfl, rfl⟩
    rw [List.foldl_cons]
    rcases hstep with hline | ⟨hbest, hsome⟩
    · have hsome : (some line).isSome = true ∨ ls ≠ [] := .inl rfl
      obtain ⟨found, hfound, hmem⟩ := ih hsome
      refine ⟨found, by rw [hline]; exact hfound, .inl ?_⟩
      rcases hmem with hmem | hmem
      · exact List.mem_cons_of_mem line hmem
      · exact Option.some.inj hmem ▸ List.mem_cons_self
    · have hkept : best.isSome = true ∨ ls ≠ [] := .inl hsome
      obtain ⟨found, hfound, hmem⟩ := ih hkept
      exact ⟨found, by rw [hbest]; exact hfound, hmem.imp_left (List.mem_cons_of_mem line)⟩

theorem of_largest {side : JournalSide} {line : TwoSidedDraft} {index : ℕ}
    (h : largest side lines = some (line, index)) :
    lines[index]? = some line ∧ 0 < line.amount side := by
  by_cases hnil : (lines.zipIdx.filter fun line => 0 < line.1.amount side) = []
  · rw [largest, hnil] at h
    cases h
  · have hsome : (none : Option (TwoSidedDraft × ℕ)).isSome = true ∨
        (lines.zipIdx.filter fun line => 0 < line.1.amount side) ≠ [] := .inr hnil
    obtain ⟨found, hfound, hin⟩ : ∃ found, largest side lines = some found ∧ _ :=
      exists_of_foldl_keepLarger hsome
    obtain rfl : found = (line, index) := Option.some.inj (hfound.symm.trans h)
    obtain ⟨hmem, hpos⟩ := List.mem_filter.1 (hin.resolve_right (by simp))
    exact ⟨List.mem_zipIdx_iff_getElem?.1 hmem, of_decide_eq_true hpos⟩

theorem exists_largest {side : JournalSide} (h : ∃ line ∈ lines, 0 < line.amount side) :
    ∃ line index, largest side lines = some (line, index) ∧ lines[index]? = some line := by
  obtain ⟨line, hline, hpos⟩ := h
  obtain ⟨index, hindex⟩ := List.mem_iff_getElem?.1 hline
  have hmem : (line, index) ∈ lines.zipIdx.filter fun line => 0 < line.1.amount side :=
    List.mem_filter.2 ⟨List.mem_zipIdx_iff_getElem?.2 hindex, decide_eq_true hpos⟩
  have hsome : (none : Option (TwoSidedDraft × ℕ)).isSome = true ∨
      (lines.zipIdx.filter fun line => 0 < line.1.amount side) ≠ [] :=
    .inr (List.ne_nil_of_mem hmem)
  obtain ⟨⟨found, place⟩, hfound, -⟩ : ∃ found, largest side lines = some found ∧ _ :=
    exists_of_foldl_keepLarger hsome
  exact ⟨found, place, hfound, (of_largest hfound).1⟩

theorem setAmount_amount (side : JournalSide) (line : TwoSidedDraft) :
    line.setAmount side (line.amount side) = line := by
  cases side <;> rfl

theorem modify_congr {f g : TwoSidedDraft → TwoSidedDraft} {index : ℕ} {line : TwoSidedDraft}
    (hline : lines[index]? = some line) (h : f line = g line) :
    lines.modify index f = lines.modify index g := by
  apply List.ext_getElem?
  intro place
  rw [List.getElem?_modify, List.getElem?_modify]
  by_cases hplace : index = place
  · subst hplace
    simp [hline, h]
  · simp [hplace]

def shortSide (lines : List TwoSidedDraft) : JournalSide :=
  if total .debit lines < total .credit lines then .debit else .credit

/-- The lines are balanced, and one of them at most was changed, by the difference. -/
def IsBalanced (lines out : List TwoSidedDraft) : Prop :=
  total .debit out = total .credit out ∧ ∃ index line, lines[index]? = some line ∧
    out = lines.modify index fun line => line.setAmount (shortSide lines)
      (line.amount (shortSide lines) + |total .debit lines - total .credit lines|)

/-- The totals differ by no more than the tolerance as binary64 numbers. -/
def AreWithinTolerance (lines : List TwoSidedDraft) : Prop :=
  isWithinTolerance (total .debit lines) (total .credit lines) accountingReconciliationTolerance

instance (lines : List TwoSidedDraft) : Decidable (AreWithinTolerance lines) :=
  inferInstanceAs (Decidable (_ = true))

theorem normalizeMargJournalLines_eq (hexact : ∀ line ∈ lines, line.IsExact) :
    normalizeMargJournalLines lines =
      if total .debit lines = total .credit lines ∨ ¬AreWithinTolerance lines then lines
      else
        match largest (shortSide lines) lines with
        | none => lines
        | some (_, index) => lines.modify index
            (raise (shortSide lines) |total .debit lines - total .credit lines|) := by
  have hdebit : sideTotal (lines.map debitAmount) = total .debit lines := by
    apply IsUnits.sideTotal_eq
    rw [List.forall_mem_map]
    exact fun line hline => (hexact line hline).debit
  have hcredit : sideTotal (lines.map creditAmount) = total .credit lines := by
    apply IsUnits.sideTotal_eq
    rw [List.forall_mem_map]
    exact fun line hline => (hexact line hline).credit
  have hdelta : IsUnits |total .debit lines - total .credit lines| :=
    ((isUnits_total hexact .debit).sub (isUnits_total hexact .credit)).abs
  unfold normalizeMargJournalLines AreWithinTolerance
  dsimp only
  rw [map_normalized_eq hexact, hdebit, hcredit, hdelta.normalize]
  by_cases hskip : total .debit lines = total .credit lines ∨
      ¬isWithinTolerance (total .debit lines) (total .credit lines) accountingReconciliationTolerance
  · rw [if_pos hskip, if_pos hskip]
  · have hne : |total .debit lines - total .credit lines| ≠ 0 :=
      abs_ne_zero.2 (sub_ne_zero.2 (not_or.1 hskip).1)
    rw [if_neg hskip, if_neg hskip, if_neg hne]
    rfl

theorem total_shortSide_add (lines : List TwoSidedDraft) (side : JournalSide) :
    total side lines + (if side = shortSide lines then
      |total .debit lines - total .credit lines| else 0) =
      max (total .debit lines) (total .credit lines) := by
  unfold shortSide
  rcases lt_or_ge (total .debit lines) (total .credit lines) with hlt | hle
  · rw [if_pos hlt, max_eq_right hlt.le, abs_of_neg (sub_neg.2 hlt)]
    cases side <;> simp
  · rw [if_neg (not_lt.2 hle), max_eq_left hle, abs_of_nonneg (sub_nonneg.2 hle)]
    cases side <;> simp

/-- A difference is spread where the binary64 numbers show it as tolerable. -/
theorem isBalanced_normalizeMargJournalLines_iff (hexact : ∀ line ∈ lines, line.IsExact)
    (hshort : ∃ line ∈ lines, 0 < line.amount (shortSide lines)) :
    IsBalanced lines (normalizeMargJournalLines lines) ↔
      total .debit lines = total .credit lines ∨ AreWithinTolerance lines := by
  have hdelta : IsUnits |total .debit lines - total .credit lines| :=
    ((isUnits_total hexact .debit).sub (isUnits_total hexact .credit)).abs
  obtain ⟨line, index, hlargest, hline⟩ := exists_largest hshort
  have hmem : line ∈ lines := List.mem_of_getElem? hline
  rw [normalizeMargJournalLines_eq hexact]
  by_cases hequal : total .debit lines = total .credit lines
  · rw [if_pos (.inl hequal)]
    refine ⟨fun _ => .inl hequal, fun _ => ⟨hequal, index, line, hline, ?_⟩⟩
    simp only [hequal, sub_self, abs_zero, add_zero, setAmount_amount]
    exact (List.modify_id index lines).symm
  by_cases hwithin : AreWithinTolerance lines
  · rw [if_neg (not_or.2 ⟨hequal, not_not.2 hwithin⟩), hlargest]
    refine ⟨fun _ => .inr hwithin, fun _ => ⟨?_, index, line, hline, ?_⟩⟩
    · rw [total_modify hline (hexact line hmem) hdelta,
        total_modify hline (hexact line hmem) hdelta, total_shortSide_add, total_shortSide_add]
    · apply modify_congr hline
      rw [raise, (((hexact line hmem).amount _).add hdelta).normalize]
  · rw [if_pos (.inr hwithin)]
    exact ⟨fun h => absurd h.1 hequal, fun h => absurd h (not_or.2 ⟨hequal, hwithin⟩)⟩

end TwoSidedDraft

/-! ### The lines of the drafts -/

namespace MargJournalLineDraft

def twoSided (line : MargJournalLineDraft) : TwoSidedDraft where
  glAccountId := line.glAccountId
  debitAmount := line.debitAmount
  creditAmount := line.creditAmount
  description := line.description

theorem amount_twoSided (side : JournalSide) (line : MargJournalLineDraft) :
    line.twoSided.amount side = if line.side = side then line.amount else 0 := by
  cases side <;> rfl

theorem normalized_twoSided (line : MargJournalLineDraft) :
    line.twoSided.normalized =
      twoSided { line with amount := normalizeMargAccountingAmount line.amount } := by
  obtain ⟨glAccountId, side, amount, description⟩ := line
  cases side <;>
    simp [twoSided, TwoSidedDraft.normalized, debitAmount, creditAmount, IsUnits.zero.normalize]

/-- Of lines on one side the larger ones are kept alike. -/
theorem foldl_keepLarger_twoSided {side : JournalSide} {ls : List (MargJournalLineDraft × ℕ)}
    {best : Option (TwoSidedDraft × ℕ)} {best' : Option MargJournalLineDraft}
    (hside : ∀ x ∈ ls, x.1.side = side) (hbest : best.map Prod.fst = best'.map twoSided)
    (hbest' : ∀ line ∈ best', line.side = side) :
    ((ls.map (Prod.map twoSided id)).foldl (TwoSidedDraft.keepLarger side) best).map Prod.fst =
      ((ls.map Prod.fst).foldl (fun best line =>
        match best with
        | none => some line
        | some other => if other.amount < line.amount then some line else some other) best').map
          twoSided := by
  induction ls generalizing best best' with
  | nil => exact hbest
  | cons x ls ih =>
    rw [List.forall_mem_cons] at hside
    rw [List.map_cons, List.map_cons, List.foldl_cons, List.foldl_cons]
    cases best' with
    | none =>
      obtain rfl : best = none := by simpa using hbest
      exact ih hside.2 rfl (by simpa using hside.1)
    | some other =>
      obtain ⟨⟨line, place⟩, rfl, rfl⟩ := Option.map_eq_some_iff.1 hbest
      have hother : other.side = side := hbest' other rfl
      have hless : (other.twoSided.amount side < x.1.twoSided.amount side) ↔
          other.amount < x.1.amount := by
        rw [amount_twoSided, amount_twoSided, if_pos hother, if_pos hside.1]
      dsimp only [TwoSidedDraft.keepLarger, Prod.map_fst]
      by_cases hlt : other.amount < x.1.amount
      · rw [if_pos (hless.2 hlt), if_pos hlt]
        exact ih hside.2 rfl (by simpa using hside.1)
      · rw [if_neg (mt hless.1 hlt), if_neg hlt]
        exact ih hside.2 rfl (by simpa using hother)

theorem largest_twoSided (side : JournalSide) (lines : List MargJournalLineDraft) :
    (TwoSidedDraft.largest side (lines.map twoSided)).map Prod.fst =
      (largestLine side lines).map twoSided := by
  have hfilter : (lines.map twoSided).zipIdx.filter (fun x => 0 < x.1.amount side) =
      (lines.zipIdx.filter fun x => x.1.side = side && 0 < x.1.amount).map
        (Prod.map twoSided id) := by
    rw [List.zipIdx_map, List.filter_map]
    congr 1
    apply List.filter_congr
    intro x _
    rw [Function.comp_apply, Prod.map_fst, amount_twoSided]
    by_cases hside : x.1.side = side
    · simp [hside]
    · simp [hside]
  have hlines : lines.filter (fun line => line.side = side && 0 < line.amount) =
      (lines.zipIdx.filter fun x => x.1.side = side && 0 < x.1.amount).map Prod.fst := by
    conv_lhs => rw [← List.zipIdx_map_fst 0 lines, List.filter_map]
    rfl
  rw [TwoSidedDraft.largest, hfilter, largestLine, hlines]
  apply foldl_keepLarger_twoSided
  · intro x hx
    simpa using (Bool.and_eq_true_iff.1 (List.mem_filter.1 hx).2).1
  · rfl
  · simp

theorem raise_twoSided {side : JournalSide} {line : MargJournalLineDraft} (h : line.side = side)
    (delta : ℚ) : line.twoSided.raise side delta =
      twoSided { line with amount := normalizeMargAccountingAmount (line.amount + delta) } := by
  obtain ⟨glAccountId, own, amount, description⟩ := line
  obtain rfl : own = side := h
  cases own <;> simp [twoSided, TwoSidedDraft.raise, TwoSidedDraft.setAmount,
    TwoSidedDraft.amount, debitAmount, creditAmount]

theorem map_raise_twoSided {lines : List MargJournalLineDraft} {candidate : MargJournalLineDraft}
    {index : ℕ} (delta : ℚ) (hkeys : (lines.map key).Nodup)
    (hcandidate : lines[index]? = some candidate) :
    (lines.map fun line =>
        if line.key = candidate.key then
          { line with amount := normalizeMargAccountingAmount (line.amount + delta) }
        else line).map twoSided =
      (lines.map twoSided).modify index (TwoSidedDraft.raise candidate.side delta) := by
  apply List.ext_getElem?
  intro place
  rw [List.getElem?_modify, List.map_map, List.getElem?_map, List.getElem?_map]
  cases hline : lines[place]? with
  | none => rfl
  | some line =>
    have hplace : line.key = candidate.key ↔ index = place := by
      constructor
      · intro hkey
        obtain ⟨hlt, -⟩ := List.getElem?_eq_some_iff.1 hcandidate
        rw [← List.length_map key] at hlt
        refine (List.getElem?_inj hlt hkeys).1 ?_
        rw [List.getElem?_map, List.getElem?_map, hcandidate, hline, Option.map_some,
          Option.map_some, hkey]
      · rintro rfl
        rw [Option.some.inj (hline.symm.trans hcandidate)]
    by_cases hindex : index = place
    · have hkey := hplace.2 hindex
      simp only [Option.map_some, Function.comp_apply, hkey, if_true, hindex, Option.map_eq_map]
      have hside : line.side = candidate.side := congrArg Prod.snd hkey
      rw [raise_twoSided hside]
    · simp [hindex, mt hplace.1 hindex]

theorem normalizeMargJournalLines_twoSided {lines : List MargJournalLineDraft}
    (hkeys : (lines.map key).Nodup) :
    (normalizeMargJournalLines lines).map twoSided =
      TwoSidedDraft.normalizeMargJournalLines (lines.map twoSided) := by
  unfold normalizeMargJournalLines TwoSidedDraft.normalizeMargJournalLines
  have hnormalized : (lines.map twoSided).map TwoSidedDraft.normalized =
      (lines.map fun line =>
        { line with amount := normalizeMargAccountingAmount line.amount }).map twoSided := by
    rw [List.map_map, List.map_map]
    exact List.map_congr_left fun line _ => normalized_twoSided line
  have hkeys' : ((lines.map fun line =>
      { line with amount := normalizeMargAccountingAmount line.amount }).map key).Nodup := by
    rw [List.map_map]
    exact hkeys
  dsimp only
  rw [hnormalized]
  generalize (lines.map fun line : MargJournalLineDraft =>
    { line with amount := normalizeMargAccountingAmount line.amount }) = ls at hkeys' ⊢
  have hdebit : (ls.map twoSided).map TwoSidedDraft.debitAmount = ls.map debitAmount :=
    List.map_map
  have hcredit : (ls.map twoSided).map TwoSidedDraft.creditAmount = ls.map creditAmount :=
    List.map_map
  rw [hdebit, hcredit]
  generalize sideTotal (ls.map debitAmount) = debitTotal
  generalize sideTotal (ls.map creditAmount) = creditTotal
  by_cases hskip : debitTotal = creditTotal ∨
      ¬isWithinTolerance debitTotal creditTotal accountingReconciliationTolerance
  · rw [if_pos hskip, if_pos (by rw [← or_assoc]; exact .inl hskip)]
  by_cases hzero : normalizeMargAccountingAmount |debitTotal - creditTotal| = 0
  · rw [if_neg hskip, if_pos hzero, if_pos (.inr (.inr hzero))]
  rw [if_neg hskip, if_neg hzero, if_neg (by rw [← or_assoc]; exact not_or.2 ⟨hskip, hzero⟩)]
  generalize hside : (if debitTotal < creditTotal then JournalSide.debit else .credit) = side
  have hlargest := largest_twoSided side ls
  cases hline : largestLine side ls with
  | none =>
    rw [hline, Option.map_none, Option.map_eq_none_iff] at hlargest
    rw [hlargest]
  | some candidate =>
    rw [hline, Option.map_some, Option.map_eq_some_iff] at hlargest
    obtain ⟨⟨line, index⟩, hfound, rfl⟩ := hlargest
    obtain ⟨hindex, hpos⟩ := TwoSidedDraft.of_largest hfound
    rw [List.getElem?_map, Option.map_eq_some_iff] at hindex
    obtain ⟨found, hplace, hsame⟩ := hindex
    -- a positive amount of the side is the amount of a line of the side
    have hpositive : ∀ line : MargJournalLineDraft, 0 < line.twoSided.amount side →
        line.side = side := by
      intro line hline
      by_contra hne
      rw [amount_twoSided, if_neg hne] at hline
      exact lt_irrefl 0 hline
    have hown : found.side = side := hpositive found (hsame ▸ hpos)
    have hkey : candidate.key = found.key :=
      Prod.ext (congrArg TwoSidedDraft.glAccountId hsame).symm
        ((hpositive candidate hpos).trans hown.symm)
    rw [hfound]
    dsimp only
    rw [hkey, map_raise_twoSided _ hkeys' hplace, hown]

/-! ### The lines of a group -/

/-- What `mergeLines` hands to `normalizeMargJournalLines`. -/
def linesOf (drafts : List MargJournalLineDraft) : List MargJournalLineDraft :=
  ((drafts.foldl (fun lines line => line.addTo lines) []).filter fun line =>
    0 < line.amount).insertionSort fun a b => a.glAccountId ≤ b.glAccountId

/-- Each line has an amount of four places that is not negative, and no two have one key. -/
structure AreMerged (lines : List MargJournalLineDraft) : Prop where
  exact_nonneg : ∀ line ∈ lines, IsUnits line.amount ∧ 0 ≤ line.amount
  nodup : (lines.map key).Nodup

def sum (side : JournalSide) (lines : List MargJournalLineDraft) : ℚ :=
  TwoSidedDraft.total side (lines.map twoSided)

theorem sum_cons (side : JournalSide) (line : MargJournalLineDraft)
    (lines : List MargJournalLineDraft) :
    sum side (line :: lines) = line.twoSided.amount side + sum side lines := by
  simp [sum, TwoSidedDraft.total]

theorem mem_map_key_addTo (line : MargJournalLineDraft) (lines : List MargJournalLineDraft)
    (k : Id × JournalSide) :
    k ∈ (line.addTo lines).map key ↔ k = line.key ∨ k ∈ lines.map key := by
  induction lines with
  | nil => simp [addTo]
  | cons other lines ih =>
    rw [addTo]
    split_ifs with hkey
    · have hsame : key { other with
          amount := normalizeMargAccountingAmount (other.amount + line.amount) } = line.key := hkey
      rw [List.map_cons, List.map_cons, hsame, hkey]
      simp
    · rw [List.map_cons, List.map_cons, List.mem_cons, List.mem_cons, ih]
      exact or_left_comm

theorem AreMerged.addTo {lines : List MargJournalLineDraft} (h : AreMerged lines)
    {line : MargJournalLineDraft} (hline : IsUnits line.amount ∧ 0 ≤ line.amount) :
    AreMerged (line.addTo lines) := by
  induction lines with
  | nil => exact ⟨by simpa [MargJournalLineDraft.addTo] using hline,
      by simp [MargJournalLineDraft.addTo]⟩
  | cons other lines ih =>
    obtain ⟨hexact, hnodup⟩ := h
    rw [List.forall_mem_cons] at hexact
    rw [List.map_cons, List.nodup_cons] at hnodup
    rw [MargJournalLineDraft.addTo]
    split_ifs with hkey
    · refine ⟨List.forall_mem_cons.2 ⟨?_, hexact.2⟩, List.nodup_cons.2 hnodup⟩
      rw [(hexact.1.1.add hline.1).normalize]
      exact ⟨hexact.1.1.add hline.1, add_nonneg hexact.1.2 hline.2⟩
    · have hrest := ih ⟨hexact.2, hnodup.2⟩
      refine ⟨List.forall_mem_cons.2 ⟨hexact.1, hrest.exact_nonneg⟩,
        List.nodup_cons.2 ⟨?_, hrest.nodup⟩⟩
      rw [mem_map_key_addTo]
      exact not_or.2 ⟨hkey, hnodup.1⟩

theorem sum_addTo {lines : List MargJournalLineDraft} (h : AreMerged lines)
    {line : MargJournalLineDraft} (hline : IsUnits line.amount ∧ 0 ≤ line.amount)
    (side : JournalSide) :
    sum side (line.addTo lines) = sum side lines + line.twoSided.amount side := by
  induction lines with
  | nil => rw [addTo, sum_cons, add_comm]
  | cons other lines ih =>
    obtain ⟨hexact, hnodup⟩ := h
    rw [List.forall_mem_cons] at hexact
    rw [List.map_cons, List.nodup_cons] at hnodup
    rw [addTo]
    split_ifs with hkey
    · have hside : other.side = line.side := congrArg Prod.snd hkey
      rw [sum_cons, sum_cons, (hexact.1.1.add hline.1).normalize, amount_twoSided,
        amount_twoSided, amount_twoSided, ← hside]
      dsimp only
      split_ifs <;> ring
    · rw [sum_cons, sum_cons, ih ⟨hexact.2, hnodup.2⟩]
      ring

theorem foldl_addTo {drafts : List MargJournalLineDraft}
    (hdrafts : ∀ line ∈ drafts, IsUnits line.amount ∧ 0 ≤ line.amount)
    {lines : List MargJournalLineDraft} (h : AreMerged lines) :
    AreMerged (drafts.foldl (fun lines line => line.addTo lines) lines) ∧
      ∀ side, sum side (drafts.foldl (fun lines line => line.addTo lines) lines) =
        sum side lines + sum side drafts := by
  induction drafts generalizing lines with
  | nil => exact ⟨h, fun side => (add_zero _).symm⟩
  | cons line drafts ih =>
    rw [List.forall_mem_cons] at hdrafts
    obtain ⟨hmerged, hsum⟩ := ih hdrafts.2 (h.addTo hdrafts.1)
    refine ⟨hmerged, fun side => ?_⟩
    rw [List.foldl_cons, hsum side, sum_addTo h hdrafts.1, sum_cons, add_assoc]

theorem sum_filter_pos {lines : List MargJournalLineDraft} (h : AreMerged lines)
    (side : JournalSide) :
    sum side (lines.filter fun line => 0 < line.amount) = sum side lines := by
  induction lines with
  | nil => rfl
  | cons line lines ih =>
    obtain ⟨hexact, hnodup⟩ := h
    rw [List.forall_mem_cons] at hexact
    rw [List.map_cons, List.nodup_cons] at hnodup
    have hrest := ih ⟨hexact.2, hnodup.2⟩
    by_cases hpos : 0 < line.amount
    · rw [List.filter_cons_of_pos (by simpa using hpos), sum_cons, sum_cons, hrest]
    · have hzero : line.amount = 0 := le_antisymm (not_lt.1 hpos) hexact.1.2
      rw [List.filter_cons_of_neg (by simpa using hpos), sum_cons, hrest, amount_twoSided, hzero,
        ite_self, zero_add]

theorem linesOf_spec {drafts : List MargJournalLineDraft}
    (hdrafts : ∀ line ∈ drafts, IsUnits line.amount ∧ 0 ≤ line.amount) :
    ((linesOf drafts).map key).Nodup ∧ ∀ side, sum side (linesOf drafts) = sum side drafts := by
  have hnil : AreMerged [] := ⟨by simp, List.nodup_nil⟩
  obtain ⟨hmerged, hsum⟩ := foldl_addTo hdrafts hnil
  have hperm := List.perm_insertionSort
    (fun a b : MargJournalLineDraft => a.glAccountId ≤ b.glAccountId)
    ((drafts.foldl (fun lines line => line.addTo lines) []).filter fun line => 0 < line.amount)
  constructor
  · exact ((hperm.map key).nodup_iff).2 (hmerged.nodup.sublist (List.filter_sublist.map key))
  · intro side
    have hsorted : sum side (linesOf drafts) = sum side _ :=
      ((hperm.map twoSided).map (TwoSidedDraft.amount side)).sum_eq
    rw [hsorted, sum_filter_pos hmerged, hsum]
    exact zero_add _

theorem exists_of_mapM_eq_some {α β : Type} {f : α → Option β} {xs : List α} {ys : List β}
    (h : xs.mapM f = some ys) {y : β} (hy : y ∈ ys) : ∃ x ∈ xs, f x = some y := by
  induction xs generalizing ys with
  | nil =>
    obtain rfl : ys = [] := (Option.some.inj h).symm
    cases hy
  | cons x xs ih =>
    rw [List.mapM_cons] at h
    obtain ⟨first, hfirst, h⟩ := Option.bind_eq_some_iff.1 h
    obtain ⟨rest, hrest, h⟩ := Option.bind_eq_some_iff.1 h
    obtain rfl : first :: rest = ys := Option.some.inj h
    rcases List.mem_cons.1 hy with rfl | hy
    · exact ⟨x, List.mem_cons_self, hfirst⟩
    · obtain ⟨z, hz, hfz⟩ := ih hrest hy
      exact ⟨z, List.mem_cons_of_mem x hz, hfz⟩

/-- The drafts of a group have amounts of four places, none of them negative. -/
theorem amount_draftLines {platform : Platform} {rules : List MargGLMappingRule}
    {rows : List MargAccountPosting} {drafts : List MargJournalLineDraft}
    (h : draftLines platform rules rows = some drafts) :
    ∀ line ∈ drafts, IsUnits line.amount ∧ 0 ≤ line.amount := by
  intro line hline
  obtain ⟨p, -, hp⟩ := exists_of_mapM_eq_some h hline
  obtain ⟨rule, -, rfl⟩ := Option.map_eq_some_iff.1 hp
  have hunits : IsUnits |p.normalizedAmount| := (IsUnits.of_normalize p.amount).abs
  rw [MargAccountPosting.lineDraft, hunits.normalize]
  exact ⟨hunits, abs_nonneg _⟩

theorem sideTotal_eq_sum {drafts : List MargJournalLineDraft}
    (hdrafts : ∀ line ∈ drafts, IsUnits line.amount ∧ 0 ≤ line.amount) :
    sideTotal (drafts.map debitAmount) = sum .debit drafts ∧
      sideTotal (drafts.map creditAmount) = sum .credit drafts := by
  have hunits : ∀ line ∈ drafts, ∀ side, IsUnits (line.twoSided.amount side) := by
    intro line hline side
    rw [amount_twoSided]
    split_ifs
    · exact (hdrafts line hline).1
    · exact .zero
  have hdebit : drafts.map debitAmount =
      (drafts.map twoSided).map (TwoSidedDraft.amount .debit) := by
    rw [List.map_map]
    rfl
  have hcredit : drafts.map creditAmount =
      (drafts.map twoSided).map (TwoSidedDraft.amount .credit) := by
    rw [List.map_map]
    rfl
  constructor
  · rw [hdebit]
    apply IsUnits.sideTotal_eq
    simpa using fun line hline => hunits line hline .debit
  · rw [hcredit]
    apply IsUnits.sideTotal_eq
    simpa using fun line hline => hunits line hline .credit

end MargJournalLineDraft

/-! ### The loop over the groups -/

section Group

open TwoSidedDraft MargJournalLineDraft

theorem length_mergeLines {drafts : List MargJournalLineDraft} :
    (mergeLines drafts).length = (linesOf drafts).length := by
  change (normalizeMargJournalLines (linesOf drafts)).length = _
  unfold normalizeMargJournalLines
  dsimp only
  split_ifs <;> (try split) <;> simp only [List.length_map]

/-- The group is reported for not being balanced, and the loop goes on with the books as they
were. -/
def ReportsUnbalanced (settings : ProjectionPlatform) (run : AccountingRun)
    (postings : List MargAccountPosting) (context : AccountingContext) (groupKey : String)
    (group : MargAccountPostingGroup) : Prop :=
  ∀ groups result,
    projectGroups settings run postings context ((groupKey, group) :: groups) result =
      projectGroups settings run postings context groups
        { result with skippedGroups := result.skippedGroups ++ [(groupKey, .unbalanced)] }

theorem reportsUnbalanced_iff {settings : ProjectionPlatform} {run : AccountingRun}
    {postings : List MargAccountPosting} {context : AccountingContext} {groupKey : String}
    {group : MargAccountPostingGroup} :
    ReportsUnbalanced settings run postings context groupKey group ↔
      groupLines settings run postings group = .error .unbalanced := by
  constructor
  · intro h
    have hskipped := congrArg AccountingProjectionResult.skippedGroups
      (h [] { books := ⟨[], []⟩ })
    rw [projectGroups, projectGroups] at hskipped
    cases hlines : groupLines settings run postings group with
    | error reason =>
      rw [hlines] at hskipped
      simpa [projectGroups] using hskipped
    | ok lines =>
      rw [hlines] at hskipped
      dsimp only at hskipped
      split_ifs at hskipped
      · simp at hskipped
      · cases hpost : postGroup settings context groupKey group lines ⟨[], []⟩ with
        | error e => simp [hpost] at hskipped
        | ok posted => simp [hpost, projectGroups] at hskipped
  · intro h groups result
    rw [projectGroups, h]

/-- The two sides of the claim on lines that differ by the tolerance at most and by more: the
totals are exact decimals, but their difference is taken in binary64. -/
theorem normalizeMargJournalLines_balances_iff (settings : ProjectionPlatform)
    (run : AccountingRun) (postings : List MargAccountPosting) (context : AccountingContext)
    (groupKey : String) (group : MargAccountPostingGroup) :
    (∀ lines : List TwoSidedDraft, (∀ line ∈ lines, line.IsExact) →
      (∃ line ∈ lines, 0 < line.amount (shortSide lines)) →
      |total .debit lines - total .credit lines| ≤ accountingReconciliationTolerance →
        (IsBalanced lines (TwoSidedDraft.normalizeMargJournalLines lines) ↔
          total .debit lines = total .credit lines ∨ AreWithinTolerance lines)) ∧
    ∀ drafts : List MargJournalLineDraft,
      ((groupRows postings group).map
        (MargAccountPosting.fingerprint settings.platform)).Nodup →
      draftLines settings.platform run.rules (groupRows postings group) = some drafts →
      (mergeLines drafts).map twoSided =
          TwoSidedDraft.normalizeMargJournalLines ((linesOf drafts).map twoSided) ∧
        (accountingReconciliationTolerance < |total .debit ((linesOf drafts).map twoSided) -
            total .credit ((linesOf drafts).map twoSided)| →
          (ReportsUnbalanced settings run postings context groupKey group ↔
            ¬AreWithinTolerance ((linesOf drafts).map twoSided) ∧
              2 ≤ (linesOf drafts).length)) := by
  refine ⟨fun lines hexact hshort _ => isBalanced_normalizeMargJournalLines_iff hexact hshort, ?_⟩
  intro drafts hdistinct hdrafts
  have hexact := amount_draftLines hdrafts
  obtain ⟨hkeys, hsum⟩ := linesOf_spec hexact
  refine ⟨normalizeMargJournalLines_twoSided hkeys, fun _ => ?_⟩
  obtain ⟨hdebit, hcredit⟩ := sideTotal_eq_sum hexact
  have hstaged : AreWithinTolerance ((linesOf drafts).map twoSided) ↔
      isWithinTolerance (sideTotal (drafts.map MargJournalLineDraft.debitAmount))
        (sideTotal (drafts.map MargJournalLineDraft.creditAmount))
        accountingReconciliationTolerance = true := by
    rw [hdebit, hcredit, ← hsum .debit, ← hsum .credit]
    exact Iff.rfl
  rw [reportsUnbalanced_iff, groupLines, draftGroup, if_neg (not_not.2 hdistinct), hdrafts, hstaged,
    ← length_mergeLines]
  dsimp only
  by_cases hlength : 2 ≤ (mergeLines drafts).length
  · rw [if_neg (not_lt.2 hlength)]
    split_ifs with hwithin <;> simp [hwithin, hlength]
  · rw [if_pos (not_le.1 hlength)]
    simp [hlength]

/-- A voucher of 100 with half a paisa less on the other side. -/
def halfPaisaShort : List TwoSidedDraft := [⟨1, 100, 0, "Cash"⟩, ⟨2, 0, 19999 / 200, "Sales"⟩]

/-- The voucher V1 with one rupee less on the other side. -/
def rupeeShort : List MargAccountPosting := [postingOf 1 "CASH" 100, postingOf 2 "SALES" (-99)]

def rupeeShortDrafts : List MargJournalLineDraft :=
  [⟨1, .debit, 100, "Book CB | Voucher V1 | Code CASH"⟩,
    ⟨2, .credit, 99, "Book CB | Voucher V1 | Code SALES"⟩]

theorem normalizeMargJournalLines_balances_voucher :
    IsBalanced halfPaisaShort (TwoSidedDraft.normalizeMargJournalLines halfPaisaShort) ∧
      ReportsUnbalanced voucherPlatform voucherRun rupeeShort ⟨0, fun _ => none, [], none⟩ "V1"
        (postingOf 1 "CASH" 100).group := by
  have hiff := normalizeMargJournalLines_balances_iff voucherPlatform voucherRun rupeeShort
    ⟨0, fun _ => none, [], none⟩ "V1" (postingOf 1 "CASH" 100).group
  constructor
  · apply (hiff.1 halfPaisaShort _ _ _).2
    · exact Or.inr (by decide +kernel)
    · rw [halfPaisaShort, List.forall_mem_cons, List.forall_mem_singleton]
      exact ⟨⟨⟨1000000, by norm_num⟩, ⟨0, by norm_num⟩⟩, ⟨⟨0, by norm_num⟩, ⟨999950, by norm_num⟩⟩⟩
    · decide +kernel
    · decide +kernel
  · refine ((hiff.2 rupeeShortDrafts (by decide +kernel) (by decide +kernel)).2
      (by decide +kernel)).2 ?_
    decide +kernel

/-- A voucher of 100 with one paisa less on the other side. -/
def paisaShort : List TwoSidedDraft := [⟨1, 100, 0, "Cash"⟩, ⟨2, 0, 9999 / 100, "Sales"⟩]

/-- In binary64 the difference of 100 and 99.99 is more than one paisa. -/
theorem not_balances_paisaShort :
    ¬∀ lines : List TwoSidedDraft, (∀ line ∈ lines, line.IsExact) →
      (∃ line ∈ lines, 0 < line.amount (shortSide lines)) →
      |total .debit lines - total .credit lines| ≤ accountingReconciliationTolerance →
        IsBalanced lines (TwoSidedDraft.normalizeMargJournalLines lines) := by
  intro h
  have hexact : ∀ line ∈ paisaShort, line.IsExact := by
    rw [paisaShort, List.forall_mem_cons, List.forall_mem_singleton]
    exact ⟨⟨⟨1000000, by norm_num⟩, ⟨0, by norm_num⟩⟩, ⟨⟨0, by norm_num⟩, ⟨999900, by norm_num⟩⟩⟩
  have hbalanced := (h paisaShort hexact (by decide +kernel) (by decide +kernel)).1
  revert hbalanced
  decide +kernel

end Group

end Forecast
