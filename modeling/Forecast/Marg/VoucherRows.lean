import Forecast.Marg.Staging

/-!
# Staged vouchers and their lines

The columns of a voucher header and of a line. A text column holds a trimmed text,
the empty one standing for `null`; a numeric column holds an exact decimal.
-/

open JsText

namespace Forecast

/-! ### The cancellation marker -/

/-- What follows the word, whose letters may have either case. -/
def afterWord : List Char → List Char → Option (List Char)
  | [], cs => some cs
  | _ :: _, [] => none
  | w :: word, c :: cs => if c.toUpper = w then afterWord word cs else none

/-- What follows `\s*:\s*`. -/
def afterColon (cs : List Char) : Option (List Char) :=
  match cs.dropWhile isTrimmed with
  | ':' :: rest => some (rest.dropWhile isTrimmed)
  | _ => none

/-- The digits of a match of `/CANCELLED\s*:\s*(\d+)/i` that begins here. -/
def cancelledFlagAt (cs : List Char) : Option (List Char) := do
  let rest ← afterWord "CANCELLED".toList cs
  let digits := (← afterColon rest).takeWhile isDigit
  if digits = [] then none else some digits

def fixedNumber? (count : ℕ) (cs : List Char) : Option (ℕ × List Char) :=
  let digits := cs.take count
  if digits.length = count ∧ digits.all isDigit then
    (natural? 10 digits).map fun n => (n, cs.drop count)
  else none

def afterChar (c : Char) : List Char → Option (List Char)
  | d :: cs => if d = c then some cs else none
  | [] => none

/-- `\s+(\d{2}):(\d{2}):(\d{2})`; without it the time is midnight. -/
def clockTime (cs : List Char) : ℕ × ℕ × ℕ :=
  let time := do
    let (hour, rest) ← fixedNumber? 2 (cs.dropWhile isTrimmed)
    let (minute, rest) ← fixedNumber? 2 (← afterChar ':' rest)
    let (second, _) ← fixedNumber? 2 (← afterChar ':' rest)
    pure (hour, minute, second)
  match cs with
  | c :: _ => if isTrimmed c then time.getD (0, 0, 0) else (0, 0, 0)
  | [] => (0, 0, 0)

/-- The time of a match of `/CANCELLEDON\s*:\s*(\d{2})-(\d{2})-(\d{4})…/i` that begins here. -/
def cancelledOnAt (cs : List Char) : Option (Option Millis) := do
  let rest ← afterWord "CANCELLEDON".toList cs
  let (day, rest) ← fixedNumber? 2 (← afterColon rest)
  let (month, rest) ← fixedNumber? 2 (← afterChar '-' rest)
  let (year, rest) ← fixedNumber? 4 (← afterChar '-' rest)
  let (hour, minute, second) := clockTime rest
  pure (MargDate.utc year (month - 1) day hour minute second)

structure MargCancellation where
  isCancelled : Bool
  cancelledOn : Option Millis
deriving DecidableEq

def parseMargCancellation (addField : String) : MargCancellation :=
  let normalized := trimChars addField.toList
  match normalized.tails.findSome? cancelledFlagAt with
  | some ['1'] => ⟨true, (normalized.tails.findSome? cancelledOnAt).join⟩
  | _ => ⟨false, none⟩

/-! ### The columns -/

/-- A row of `marg_vouchers`. -/
structure MargVoucher where
  companyId : ℤ
  voucher : Trimmed
  type : Trimmed
  vcn : Trimmed
  date : Millis
  cid : Trimmed
  finalAmt : Option ℚ
  orn : Trimmed
  addField : Trimmed
  oDate : Option Millis
deriving DecidableEq

/-- The cancellation column, which the staging code computes from the add field. -/
def MargVoucher.isCancelled (v : MargVoucher) : Bool :=
  (parseMargCancellation v.addField.text).isCancelled

/-- A row of `marg_transactions`. -/
structure MargTransaction where
  companyId : ℤ
  sourceKey : String
  margId : ℤ
  voucher : Trimmed
  type : Trimmed
  vcn : Trimmed
  date : Millis
  cid : Trimmed
  pid : Trimmed
  batch : Trimmed
  qty : Option ℚ
  free : Option ℚ
  rate : Option ℚ
  amount : Option ℚ
  gstAmount : Option ℚ
  addField : Trimmed
  isCancelled : Bool
  createdAt : Millis
deriving DecidableEq

/-- The staged documents of a tenant, each table with its unique columns. -/
structure MargDocuments where
  vouchers : List MargVoucher
  vouchers_nodup : (vouchers.map fun v => (v.companyId, v.voucher, v.type)).Nodup
  lines : List MargTransaction
  lines_nodup : (lines.map fun l => (l.companyId, l.sourceKey)).Nodup

/-- The line carries the company and the number of the voucher, and nothing else ties the two. -/
def MargVoucher.sharesNumber (v : MargVoucher) (line : MargTransaction) : Bool :=
  line.companyId = v.companyId ∧ line.voucher = v.voucher

namespace MargDocuments

def liveVouchers (docs : MargDocuments) : List MargVoucher :=
  docs.vouchers.filter fun v => !v.isCancelled

def liveLines (docs : MargDocuments) : List MargTransaction :=
  docs.lines.filter fun line => !line.isCancelled

theorem nodup_vouchers (docs : MargDocuments) : docs.vouchers.Nodup :=
  List.Nodup.of_map _ docs.vouchers_nodup

theorem nodup_liveVouchers (docs : MargDocuments) : docs.liveVouchers.Nodup :=
  docs.nodup_vouchers.filter _

end MargDocuments

example : (parseMargCancellation "I;x;Cancelled : 1; CANCELLEDON : 02-01-1970 00:00:01").cancelledOn =
    some 86401000 := by decide +kernel

end Forecast
