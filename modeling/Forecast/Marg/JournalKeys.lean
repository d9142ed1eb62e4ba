import Forecast.Marg.DocumentNumbers
import Forecast.Marg.JournalHistory

/-!
# The keys of journals

A group key shows the company, the day and what is left of the book and the voucher when they are
made plain. A posting key is a group key and a content hash, cut to 100 characters. No part holds
a colon, so the parts are read back as far as the key shows them.
-/

open JsText

namespace Forecast

open MargNumbers (IsCompanyId append_cons_inj length_companyId_le toString_companyId_inj)

/-! ### Joined parts, cut short -/

section Cut

variable {α : Type*} {sep : α} {xs ys s t : List α} {n : ℕ}

theorem take_append_cons_inj (hxs : sep ∉ xs) (hys : sep ∉ ys) :
    (xs ++ sep :: s).take n = (ys ++ sep :: t).take n ↔
      (n ≤ xs.length ∧ n ≤ ys.length ∧ xs.take n = ys.take n) ∨
        (xs = ys ∧ s.take (n - (xs.length + 1)) = t.take (n - (xs.length + 1))) := by
  induction n generalizing xs ys with
  | zero => simp
  | succ n ih =>
    cases xs with
    | nil =>
      cases ys with
      | nil => simp
      | cons y ys =>
        have hne : sep ≠ y := fun h => hys (h ▸ List.mem_cons_self)
        simp [hne]
    | cons x xs =>
      have hne : x ≠ sep := fun h => hxs (h ▸ List.mem_cons_self)
      cases ys with
      | nil => simp [hne]
      | cons y ys =>
        have hrest := @ih xs ys (fun h => hxs (List.mem_cons_of_mem _ h))
          fun h => hys (List.mem_cons_of_mem _ h)
        have hlength : n + 1 - ((x :: xs).length + 1) = n - (xs.length + 1) := by
          rw [List.length_cons]
          omega
        rw [List.cons_append, List.cons_append, List.take_succ_cons, List.take_succ_cons,
          List.cons.injEq, hrest, hlength, List.length_cons, List.length_cons,
          List.take_succ_cons, List.take_succ_cons, List.cons.injEq, List.cons.injEq]
        simp only [Nat.succ_le_succ_iff]
        tauto

theorem take_append_cons_inj_of_lt (hxs : sep ∉ xs) (hys : sep ∉ ys) (hn : xs.length < n) :
    (xs ++ sep :: s).take n = (ys ++ sep :: t).take n ↔
      xs = ys ∧ s.take (n - (xs.length + 1)) = t.take (n - (xs.length + 1)) := by
  rw [take_append_cons_inj hxs hys]
  exact or_iff_right fun h => absurd h.1 (not_le.2 hn)

end Cut

/-! ### Parts without colons -/

theorem isGroupPartChar_of_mem_replaceRuns {cs : List Char} {inRun : Bool} {c : Char}
    (h : c ∈ replaceRuns inRun cs) : isGroupPartChar c = true := by
  induction cs generalizing inRun with
  | nil => exact absurd h List.not_mem_nil
  | cons d ds ih =>
    rw [replaceRuns] at h
    split_ifs at h with hd hrun
    · rcases List.mem_cons.1 h with rfl | h
      · exact hd
      · exact ih h
    · exact ih h
    · rcases List.mem_cons.1 h with rfl | h
      · decide
      · exact ih h

theorem colon_notMem_sanitized (value : String) (n : ℕ) :
    ':' ∉ (sanitizeMargGroupPart value n).toList := by
  intro h
  unfold sanitizeMargGroupPart leftText at h
  rw [String.toList_ofList] at h
  have hmem := List.mem_of_mem_take h
  split_ifs at hmem with hempty
  · exact absurd hmem (by decide)
  · rw [String.toList_ofList] at hmem
    exact absurd (isGroupPartChar_of_mem_replaceRuns hmem) (by decide)

theorem colon_notMem_natural (n : ℕ) : ':' ∉ (toString n).toList := by
  intro h
  have htext : (toString n).toList = Nat.toDigits 10 n := Nat.toList_repr
  rw [htext] at h
  exact absurd (Nat.isDigit_of_mem_toDigits (by decide) (by decide) h) (by decide)

theorem colon_notMem_integer (n : ℤ) : ':' ∉ (toString n).toList := by
  cases n with
  | ofNat n => exact colon_notMem_natural n
  | negSucc n =>
    have htext : toString (Int.negSucc n) = "-" ++ toString (n + 1) := rfl
    rw [htext, String.toList_append, List.mem_append, not_or]
    exact ⟨by decide, colon_notMem_natural (n + 1)⟩

theorem colon_notMem_isoDate (date : Millis) : ':' ∉ (isoDate date).toList := by
  have hyear : ∀ year, ':' ∉ (isoYear year).toList := by
    intro year
    have hpadded : ∀ width, ':' ∉ (String.ofList (List.replicate width '0') ++
        toString year.natAbs).toList := by
      intro width
      rw [String.toList_append, String.toList_ofList, List.mem_append, not_or]
      exact ⟨fun h => absurd (List.eq_of_mem_replicate h) (by decide), colon_notMem_natural _⟩
    unfold isoYear
    split_ifs
    · exact hpadded _
    · rw [String.toList_append, List.mem_append, not_or]
      exact ⟨by decide, hpadded _⟩
    · rw [String.toList_append, List.mem_append, not_or]
      exact ⟨by decide, hpadded _⟩
  have htwo : ∀ n : ℤ, ':' ∉ ((if n < 10 then "0" else "") ++ toString n).toList := by
    intro n
    rw [String.toList_append, List.mem_append, not_or]
    exact ⟨by split_ifs <;> decide, colon_notMem_integer n⟩
  intro h
  unfold isoDate leftText at h
  rw [String.toList_ofList] at h
  have hmem := List.mem_of_mem_take h
  simp only [String.toList_append, List.mem_append] at hmem
  rcases hmem with ((((hmem | hmem) | hmem) | hmem) | hmem)
  · exact hyear _ hmem
  · exact absurd hmem (by decide)
  · exact htwo _ (by rw [String.toList_append, List.mem_append]; exact hmem)
  · exact absurd hmem (by decide)
  · exact htwo _ (by rw [String.toList_append, List.mem_append]; exact hmem)

/-! ### What the keys show -/

namespace MargAccountPosting

variable (platform : Platform) (p : MargAccountPosting)

def identity : ℤ × Millis × String × String := (p.companyId, p.date, p.book.text, p.voucher.text)

def bookPart : String := sanitizeMargGroupPart (normalizeCode platform p.book.text) 30

def voucherPart : String :=
  sanitizeMargGroupPart
    ((normalizeOptionalText p.voucher.text 50).getD ("ROW-" ++ toString p.margId)) 80

theorem colon_notMem_bookPart : ':' ∉ (p.bookPart platform).toList := colon_notMem_sanitized _ _

theorem colon_notMem_voucherPart : ':' ∉ p.voucherPart.toList := colon_notMem_sanitized _ _

/-- The company, the day and the book, as the keys show them. -/
def lead : ℤ × String × String := (p.companyId, isoDate p.date, p.bookPart platform)

/-- The characters that the lead leaves for the voucher and the hash. -/
def room : ℕ :=
  84 - ((toString p.companyId).length + (isoDate p.date).length + (p.bookPart platform).length)

theorem toList_groupKey (rest : List Char) :
    (p.groupKey platform).toList ++ rest = "acct:".toList ++ ((toString p.companyId).toList ++
      ':' :: ((isoDate p.date).toList ++ ':' :: ((p.bookPart platform).toList ++
        ':' :: (p.voucherPart.toList ++ rest)))) := by
  have hkey : p.groupKey platform = "acct:" ++ toString p.companyId ++ ":" ++ isoDate p.date ++
      ":" ++ p.bookPart platform ++ ":" ++ p.voucherPart := rfl
  have hcolon : ":".toList = [':'] := rfl
  rw [hkey]
  simp only [String.toList_append, List.append_assoc, hcolon, List.cons_append, List.nil_append]

variable {platform p} {q : MargAccountPosting}

theorem lead_inj (hp : IsCompanyId p.companyId) (hq : IsCompanyId q.companyId) :
    p.lead platform = q.lead platform ↔
      (toString p.companyId).toList = (toString q.companyId).toList ∧
        (isoDate p.date).toList = (isoDate q.date).toList ∧
          (p.bookPart platform).toList = (q.bookPart platform).toList := by
  have hcompany : p.companyId = q.companyId ↔
      (toString p.companyId).toList = (toString q.companyId).toList :=
    ⟨fun h => by rw [h], toString_companyId_inj hp.1 hq.1⟩
  rw [lead, lead, Prod.mk.injEq, Prod.mk.injEq]
  exact and_congr hcompany (and_congr String.toList_inj.symm String.toList_inj.symm)

/-- A group key is read back, but for what was made plain. -/
theorem groupKey_inj (hp : IsCompanyId p.companyId) (hq : IsCompanyId q.companyId) :
    p.groupKey platform = q.groupKey platform ↔
      p.lead platform = q.lead platform ∧ p.voucherPart = q.voucherPart := by
  have hparts := toList_groupKey platform p []
  have hparts' := toList_groupKey platform q []
  have hvoucher : p.voucherPart = q.voucherPart ↔ p.voucherPart.toList = q.voucherPart.toList :=
    String.toList_inj.symm
  rw [List.append_nil, List.append_nil] at hparts hparts'
  rw [← String.toList_inj, hparts, hparts', List.append_cancel_left_eq,
    append_cons_inj (colon_notMem_integer _) (colon_notMem_integer _),
    append_cons_inj (colon_notMem_isoDate _) (colon_notMem_isoDate _),
    append_cons_inj (colon_notMem_bookPart platform p) (colon_notMem_bookPart platform q),
    lead_inj hp hq, hvoucher, and_assoc, and_assoc]

end MargAccountPosting

section Keys

variable (settings : ProjectionPlatform) (p q : MargAccountPosting)
  (lines lines' : List MargJournalLineDraft)

def journalKey : String := postingKey settings (p.groupKey settings.platform) p.group lines

def journalHash : String := contentHash settings (p.groupKey settings.platform) p.group lines

/-- The accounts and the amounts of a group's journal. -/
def journalLines : List (Id × ℚ × ℚ) :=
  (journalPayload (p.groupKey settings.platform) p.group lines).lines

/-- The vouchers and the hashes agree as far as the key has room for them. -/
def CutAlike : Prop :=
  let room := p.room settings.platform
  (room ≤ p.voucherPart.length ∧ room ≤ q.voucherPart.length ∧
      leftText room p.voucherPart = leftText room q.voucherPart) ∨
    (p.voucherPart = q.voucherPart ∧
      leftText (room - (p.voucherPart.length + 1)) (journalHash settings p lines) =
        leftText (room - (p.voucherPart.length + 1)) (journalHash settings q lines'))

variable {settings p q lines lines'}

theorem leftText_inj {n : ℕ} {a b : String} :
    leftText n a = leftText n b ↔ a.toList.take n = b.toList.take n := by
  rw [leftText, leftText, String.ofList_inj]

theorem length_bookPart_le (platform : Platform) : (p.bookPart platform).length ≤ 30 := by
  unfold MargAccountPosting.bookPart sanitizeMargGroupPart leftText
  rw [String.length_ofList]
  exact List.length_take_le _ _

theorem length_isoDate_le (date : Millis) : (isoDate date).length ≤ 10 := by
  unfold isoDate leftText
  rw [String.length_ofList]
  exact List.length_take_le _ _

/-- Two posting keys agree when their leads do and the rest as far as there is room. -/
theorem journalKey_inj (hp : IsCompanyId p.companyId) (hq : IsCompanyId q.companyId) :
    journalKey settings p lines = journalKey settings q lines' ↔
      p.lead settings.platform = q.lead settings.platform ∧
        CutAlike settings p q lines lines' := by
  have hkey : ∀ (r : MargAccountPosting) (ls : List MargJournalLineDraft),
      journalKey settings r ls = leftText 100 ("MARG_JE:" ++ r.groupKey settings.platform ++ ":" ++
        journalHash settings r ls) := fun _ _ => rfl
  have htext : ∀ (r : MargAccountPosting) (ls : List MargJournalLineDraft),
      ("MARG_JE:" ++ r.groupKey settings.platform ++ ":" ++ journalHash settings r ls).toList =
        "MARG_JE:acct:".toList ++ ((toString r.companyId).toList ++ ':' ::
          ((isoDate r.date).toList ++ ':' :: ((r.bookPart settings.platform).toList ++ ':' ::
            (r.voucherPart.toList ++ ':' :: (journalHash settings r ls).toList)))) := by
    intro r ls
    have hhead : "MARG_JE:acct:".toList = "MARG_JE:".toList ++ "acct:".toList := rfl
    have hcolon : ":".toList = [':'] := rfl
    rw [String.toList_append, String.toList_append, String.toList_append, hcolon,
      List.append_assoc, List.append_assoc, MargAccountPosting.toList_groupKey, hhead,
      List.append_assoc]
    rfl
  have hcut : ∀ s : List Char, ("MARG_JE:acct:".toList ++ s).take 100 =
      "MARG_JE:acct:".toList ++ s.take 87 := by
    intro s
    rw [List.take_append]
    rfl
  have hcompany : (toString p.companyId).toList.length ≤ 10 := by
    rw [String.length_toList]
    exact length_companyId_le hp
  have hdate : (isoDate p.date).toList.length ≤ 10 := by
    rw [String.length_toList]
    exact length_isoDate_le p.date
  have hbook : (p.bookPart settings.platform).toList.length ≤ 30 := by
    rw [String.length_toList]
    exact length_bookPart_le settings.platform
  have hroom : 87 - ((toString p.companyId).toList.length + 1) -
      ((isoDate p.date).toList.length + 1) -
        ((p.bookPart settings.platform).toList.length + 1) = p.room settings.platform := by
    rw [MargAccountPosting.room, String.length_toList, String.length_toList, String.length_toList]
    omega
  rw [hkey, hkey, leftText_inj, htext, htext, hcut, hcut, List.append_cancel_left_eq,
    take_append_cons_inj_of_lt (colon_notMem_integer _) (colon_notMem_integer _) (by omega),
    take_append_cons_inj_of_lt (colon_notMem_isoDate _) (colon_notMem_isoDate _) (by omega),
    take_append_cons_inj_of_lt (p.colon_notMem_bookPart _) (q.colon_notMem_bookPart _) (by omega),
    take_append_cons_inj p.colon_notMem_voucherPart q.colon_notMem_voucherPart, hroom,
    MargAccountPosting.lead_inj hp hq, CutAlike, and_assoc, and_assoc]
  simp only [leftText_inj, String.length_toList, String.toList_inj]

/-! ### Keys that differ -/

variable (settings p q lines lines')

/-- Groups of different identity have different keys, and what differs in its group or in its
accounts and amounts is posted under different keys. -/
def KeysDiffer : Prop :=
  (p.identity ≠ q.identity → p.groupKey settings.platform ≠ q.groupKey settings.platform) ∧
    ((p.identity, journalLines settings p lines) ≠ (q.identity, journalLines settings q lines') →
      journalKey settings p lines ≠ journalKey settings q lines')

/-- Keys differ exactly where the difference is still seen in the parts: not in the characters
that sanitizing replaces, and not behind the hundredth character. -/
theorem keysDiffer_iff (hp : IsCompanyId p.companyId) (hq : IsCompanyId q.companyId) :
    KeysDiffer settings p q lines lines' ↔
      (p.identity = q.identity ∨ p.lead settings.platform ≠ q.lead settings.platform ∨
        p.voucherPart ≠ q.voucherPart) ∧
      ((p.identity, journalLines settings p lines) = (q.identity, journalLines settings q lines') ∨
        p.lead settings.platform ≠ q.lead settings.platform ∨
        ¬CutAlike settings p q lines lines') := by
  unfold KeysDiffer
  rw [ne_eq (p.groupKey _), ne_eq (journalKey _ _ _), MargAccountPosting.groupKey_inj hp hq,
    journalKey_inj hp hq, not_and_or, not_and_or, ne_eq, ne_eq, ← or_iff_not_imp_left,
    ← or_iff_not_imp_left]

end Keys

/-- A row of the book CB with this voucher. -/
def vouchered (voucher : String) : MargAccountPosting :=
  { postingOf 1 "CASH" 100 with voucher := .of voucher }

/-- A row whose voucher leaves the key no room for a hash. -/
def longVouchered : MargAccountPosting :=
  { postingOf 1 "CASH" 100 with
    companyId := 2000000000
    book := .of "SALES-BOOK-MUMBAI-01"
    voucher := .of "SALES/2024-2025/MUMBAI-CENTRAL/COUNTER-07/00012345"
    book_le := by decide +kernel }

theorem keysDiffer_twoVouchers :
    KeysDiffer voucherPlatform (vouchered "V1") (vouchered "V2") voucherLines voucherLines := by
  refine (keysDiffer_iff _ _ _ _ _ ⟨by decide, by decide⟩ ⟨by decide, by decide⟩).2 ⟨?_, ?_⟩
  · exact .inr (.inr (by decide +kernel))
  · refine .inr (.inr ?_)
    unfold CutAlike
    decide +kernel

/-- A slash becomes an underscore, and a long voucher takes the hash's place in the key. -/
theorem not_keysDiffer_slashAndLong :
    ¬KeysDiffer voucherPlatform (vouchered "A/1") (vouchered "A_1") voucherLines voucherLines ∧
      ¬KeysDiffer voucherPlatform longVouchered longVouchered voucherLines
        [⟨1, .debit, 120, ""⟩, ⟨2, .credit, 120, ""⟩] := by
  constructor
  · intro h
    have hidentity : (vouchered "A/1").identity ≠ (vouchered "A_1").identity := by decide +kernel
    have hkeys : (vouchered "A/1").groupKey voucherPlatform.platform =
        (vouchered "A_1").groupKey voucherPlatform.platform := by decide +kernel
    exact h.1 hidentity hkeys
  · intro h
    have hlines : journalLines voucherPlatform longVouchered voucherLines ≠
        journalLines voucherPlatform longVouchered
          [⟨1, .debit, 120, ""⟩, ⟨2, .credit, 120, ""⟩] := by decide +kernel
    have hroom : longVouchered.room voucherPlatform.platform ≤ longVouchered.voucherPart.length := by
      decide +kernel
    have hkeys : journalKey voucherPlatform longVouchered voucherLines =
        journalKey voucherPlatform longVouchered
          [⟨1, .debit, 120, ""⟩, ⟨2, .credit, 120, ""⟩] :=
      (journalKey_inj ⟨by decide, by decide⟩ ⟨by decide, by decide⟩).2
        ⟨rfl, .inl ⟨hroom, hroom, rfl⟩⟩
    exact h.2 (fun heq => hlines (congrArg Prod.snd heq)) hkeys

end Forecast
