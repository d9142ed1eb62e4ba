import Forecast.Billing.RefundActors

/-!
# Reversals of usage charges

`DisputeService.adminAction` with `REVERSE_CHARGE`, one database operation a step. It looks for
an earlier reversal in one query and posts its own in a later transaction, so that two actions on
one charge can both find none. A reversal is always the negated charge.
-/

namespace Forecast

open RowTable ThreadPool Runs

inductive AiDisputeStatus where
  | open
  | underInvestigation
  | awaitingCustomer
  | resolved
  | closed
deriving DecidableEq

structure AiDispute where
  tenantId : Id
  status : AiDisputeStatus
deriving DecidableEq

structure DisputeState where
  db : Db
  disputes : List AiDispute

/-- `adminAction(admin, disputeId, { action: 'REVERSE_CHARGE', transactionId })` -/
structure ReverseCharge where
  adminId : Id
  disputeId : Id
  transactionId : Id

/-- Where an action stands between two operations. -/
inductive ReversalThread where
  | readDispute (call : ReverseCharge)
  | findOriginal (call : ReverseCharge) (tenantId : Id)
  | findReversal (call : ReverseCharge) (tenantId : Id) (original : AiWalletTransaction)
  | post (call : ReverseCharge) (tenantId : Id) (original : AiWalletTransaction)
  | resolve (call : ReverseCharge) (reversalId : Id)
  | returned (reversalId : Id)
  | thrown (error : Thrown)

def AiWalletTransaction.reverses (row : AiWalletTransaction) (chargeId : Id) : Bool :=
  row.type == .chargeReversal && row.relatedEntityType == some "ai_wallet_transaction" &&
    row.relatedEntityId == some chargeId

def alreadyReversed (db : Db) (tenantId chargeId : Id) : Option (Id × AiWalletTransaction) :=
  findRow? (fun row => row.tenantId == tenantId && row.reverses chargeId) db.transactions

def reversalInput (call : ReverseCharge) (tenantId : Id) (original : AiWalletTransaction) :
    PostTransactionInput where
  tenantId := tenantId
  type := .chargeReversal
  amount := -original.amount.toDecimal
  createdById := some call.adminId
  relatedEntityType := some "ai_wallet_transaction"
  relatedEntityId := some call.transactionId

/-- An operation that takes the state to `s'` and the action to `next`. -/
def DisputeState.attempt (fault : Fault) (s s' : DisputeState) (next : ReversalThread) :
    DisputeState × ReversalThread :=
  match fault with
  | .ok => (s', next)
  | .failed => (s, .thrown lostConnection)
  | .lost => (s', .thrown lostConnection)

def checkDispute (s : DisputeState) (call : ReverseCharge) : ReversalThread :=
  match s.disputes[call.disputeId]? with
  | none => .thrown (.billing (billingNotFoundError "Dispute not found"))
  | some dispute =>
    if dispute.status = .closed then
      .thrown (.billing (billingValidationError "Dispute is closed"))
    else .findOriginal call dispute.tenantId

def checkOriginal (s : DisputeState) (call : ReverseCharge) (tenantId : Id) : ReversalThread :=
  match s.db.transactions[call.transactionId]?.filter fun row =>
      row.tenantId == tenantId && row.type == .usageCharge with
  | none => .thrown (.billing
      (billingNotFoundError "Original usage charge not found for this tenant"))
  | some original => .findReversal call tenantId original

/-- The message names both rows by their reference numbers, for which the ids stand here. -/
def checkReversal (s : DisputeState) (call : ReverseCharge) (tenantId : Id)
    (original : AiWalletTransaction) : ReversalThread :=
  match alreadyReversed s.db tenantId call.transactionId with
  | some (reversalId, _) => .thrown (.billing (billingValidationError
      s!"Charge {call.transactionId} was already reversed ({reversalId})"))
  | none => .post call tenantId original

def resolveDispute (s : DisputeState) (disputeId : Id) : DisputeState :=
  { s with disputes := s.disputes.modify disputeId fun row => { row with status := .resolved } }

def ReversalThread.advance (s : DisputeState) (thread : ReversalThread) (fault : Fault) :
    DisputeState × ReversalThread :=
  match thread with
  | readDispute call => s.attempt fault s (checkDispute s call)
  | findOriginal call tenantId => s.attempt fault s (checkOriginal s call tenantId)
  | findReversal call tenantId original =>
    s.attempt fault s (checkReversal s call tenantId original)
  | post call tenantId original =>
    match postTransaction s.db (reversalInput call tenantId original) with
    | .error e => (s, .thrown e)
    | .ok (reversalId, db) => s.attempt fault { s with db := db } (.resolve call reversalId)
  | resolve call reversalId =>
    s.attempt fault (resolveDispute s call.disputeId) (.returned reversalId)
  | returned reversalId => (s, .returned reversalId)
  | thrown e => (s, .thrown e)

/-- What else happens to the disputes and to the ledger. -/
inductive DisputeEvent where
  | create (tenantId : Id)
  | updateStatus (disputeId : Id) (status : AiDisputeStatus)
  | wallet (call : WalletCall)

/-- An entry that names a charge as reversed, which only dispute actions post. -/
def WalletCall.postsReversal : WalletCall → Bool
  | postTransaction input =>
    input.type == .chargeReversal && input.relatedEntityType == some "ai_wallet_transaction"
  | _ => false

def DisputeEvent.apply (s : DisputeState) : DisputeEvent → DisputeState
  | create tenantId => { s with disputes := s.disputes ++ [⟨tenantId, .open⟩] }
  | updateStatus disputeId status =>
    { s with disputes := s.disputes.modify disputeId fun row => { row with status := status } }
  | wallet call => if call.postsReversal then s else { s with db := WalletCall.next s.db call }

def disputeProgram : Program DisputeState ReversalThread ReverseCharge Fault DisputeEvent where
  start _ _ call := some (.readDispute call)
  advance := ReversalThread.advance
  env := DisputeEvent.apply

abbrev DisputeConfig := Config DisputeState ReversalThread

abbrev DisputeAction := Action ReverseCharge Fault DisputeEvent

def disputeInit : DisputeConfig := ⟨⟨Db.empty, []⟩, []⟩

/-! ### What the ledger keeps -/

/-- The reversal gives back what the charge of its own tenant took. -/
structure Negates (db : Db) (chargeId : Id) (reversal : AiWalletTransaction) : Prop where
  original : ∃ row, db.transactions[chargeId]? = some row ∧ row.type = .usageCharge ∧
    row.tenantId = reversal.tenantId ∧ reversal.amount.micros = -row.amount.micros

/-- Each charge has one reversal at most, which negates it. -/
structure ReversalLaw (db : Db) : Prop where
  negated : ∀ (i chargeId : Id) (row : AiWalletTransaction), db.transactions[i]? = some row →
    row.reverses chargeId = true → Negates db chargeId row
  once : ∀ (i j chargeId : Id) (row row' : AiWalletTransaction), db.transactions[i]? = some row →
    db.transactions[j]? = some row' → row.reverses chargeId = true →
    row'.reverses chargeId = true → i = j

def ReversesNothing (row : AiWalletTransaction) : Prop := ∀ chargeId, row.reverses chargeId = false

section Ledger

variable {db db' : Db}

theorem Negates.of_grown {chargeId : Id} {row : AiWalletTransaction}
    (hgrown : db.transactions <+: db'.transactions) (h : Negates db chargeId row) :
    Negates db' chargeId row := by
  obtain ⟨original, horiginal, hrest⟩ := h.original
  refine ⟨original, ?_, hrest⟩
  obtain ⟨rows, hrows⟩ := hgrown
  rw [← hrows, List.getElem?_append_left (List.getElem?_eq_some_iff.1 horiginal).1]
  exact horiginal

theorem ReversalLaw.appends (h : ReversalLaw db) (happends : Appends ReversesNothing db db') :
    ReversalLaw db' := by
  have hold : ∀ (i chargeId : Id) (row : AiWalletTransaction), db'.transactions[i]? = some row →
      row.reverses chargeId = true → db.transactions[i]? = some row := by
    intro i chargeId row hrow hreverses
    apply happends.getElem?_of_not hrow
    intro hnothing
    rw [hnothing chargeId] at hreverses
    cases hreverses
  refine ⟨fun i chargeId row hrow hreverses => ?_, fun i j chargeId row row' hi hj hri hrj => ?_⟩
  · have hnegates := h.negated i chargeId row (hold i chargeId row hrow hreverses) hreverses
    exact hnegates.of_grown happends.prefix
  · exact h.once i j chargeId row row' (hold i chargeId row hi hri) (hold j chargeId row' hj hrj)
      hri hrj

theorem reversesNothing_of_type {row : AiWalletTransaction} (htype : row.type ≠ .chargeReversal) :
    ReversesNothing row := by
  intro chargeId
  simp [AiWalletTransaction.reverses, htype]

theorem appends_reversesNothing (db : Db) {call : WalletCall} (hcall : call.postsReversal = false) :
    Appends ReversesNothing db (WalletCall.next db call) := by
  apply appends_next
  intro input row hposts hrow
  rcases hposts.cases with rfl | htype | ⟨htype, -⟩
  · intro chargeId
    have hinput : (input.type == .chargeReversal &&
        input.relatedEntityType == some "ai_wallet_transaction") = false := hcall
    unfold AiWalletTransaction.reverses
    rw [hrow.type, hrow.relatedEntityType, hinput, Bool.false_and]
  all_goals
    apply reversesNothing_of_type
    rw [hrow.type, htype]
    decide

end Ledger

/-! ### What an action knows, and posts -/

/-- The original that an action found is a charge of the dispute's tenant. -/
def ReversalThread.Asserts (db : Db) : ReversalThread → Prop
  | findReversal call tenantId original | post call tenantId original =>
    db.transactions[call.transactionId]? = some original ∧ original.type = .usageCharge ∧
      original.tenantId = tenantId
  | _ => True

theorem ReversalThread.Asserts.of_grown {db db' : Db}
    (hgrown : db.transactions <+: db'.transactions) {thread : ReversalThread}
    (h : thread.Asserts db) : thread.Asserts db' := by
  obtain ⟨rows, hrows⟩ := hgrown
  have hget : ∀ {i : Id} {row : AiWalletTransaction}, db.transactions[i]? = some row →
      db'.transactions[i]? = some row := by
    intro i row hrow
    rw [← hrows, List.getElem?_append_left (List.getElem?_eq_some_iff.1 hrow).1]
    exact hrow
  cases thread with
  | findReversal call tenantId original => exact ⟨hget h.1, h.2⟩
  | post call tenantId original => exact ⟨hget h.1, h.2⟩
  | readDispute call => trivial
  | findOriginal call tenantId => trivial
  | resolve call reversalId => trivial
  | returned reversalId => trivial
  | thrown e => trivial

/-- The check that an action made before it posts. -/
def ReversalThread.checkStillHolds (db : Db) : ReversalThread → Bool
  | post call tenantId _ => (alreadyReversed db tenantId call.transactionId).isNone
  | _ => true

section Post

variable {db db' : Db} {call : ReverseCharge} {tenantId : Id} {original : AiWalletTransaction}

theorem store_neg_toDecimal {n m : Numeric} (h : Numeric.store (-n.toDecimal) = some m) :
    m.micros = -n.micros := by
  rw [Numeric.store_eq_some_iff.1 h, neg_mul, Numeric.toDecimal_mul_micros,
    GridRounding.roundHalfAway_neg, GridRounding.roundHalfAway_intCast]

theorem ReversalLaw.post (hlaw : ReversalLaw db) {reversalId : Id}
    (horiginal : db.transactions[call.transactionId]? = some original ∧
      original.type = .usageCharge ∧ original.tenantId = tenantId)
    (hnone : alreadyReversed db tenantId call.transactionId = none)
    (h : postTransaction db (reversalInput call tenantId original) = .ok (reversalId, db')) :
    ReversalLaw db' ∧ db.transactions <+: db'.transactions := by
  obtain ⟨row, hrow, -, htransactions, -⟩ := postTransaction_appends h
  have hgrown : db.transactions <+: db'.transactions := ⟨[row], htransactions.symm⟩
  have hnew : ∀ chargeId, row.reverses chargeId = true → chargeId = call.transactionId := by
    intro chargeId hreverses
    simp only [AiWalletTransaction.reverses, hrow.relatedEntityId, Bool.and_eq_true,
      beq_iff_eq] at hreverses
    exact (Option.some.inj hreverses.2).symm
  have hnegates : Negates db call.transactionId row := by
    refine ⟨original, horiginal.1, horiginal.2.1, ?_, store_neg_toDecimal hrow.amount⟩
    rw [hrow.tenantId]
    exact horiginal.2.2
  -- every reversal of the charge is its tenant's, so that the check would have found it
  have hfree : ∀ (i : Id) (other : AiWalletTransaction), db.transactions[i]? = some other →
      other.reverses call.transactionId = false := by
    intro i other hother
    by_contra hreverses
    rw [Bool.not_eq_false] at hreverses
    obtain ⟨charge, hcharge, -, htenant, -⟩ := (hlaw.negated i _ other hother hreverses).original
    rw [horiginal.1] at hcharge
    obtain rfl := Option.some.inj hcharge
    have hmissed := findRow?_eq_none.1 hnone other (List.mem_of_getElem? hother)
    rw [← htenant, horiginal.2.2, hreverses] at hmissed
    simp at hmissed
  refine ⟨⟨fun i chargeId other hother hreverses => ?_, ?_⟩, hgrown⟩
  · rw [htransactions] at hother
    rcases (getElem?_append_row_iff _ _).1 hother with hold | ⟨-, rfl⟩
    · exact (hlaw.negated i chargeId other hold hreverses).of_grown hgrown
    · rw [hnew chargeId hreverses]
      exact hnegates.of_grown hgrown
  · intro i j chargeId other other' hi hj hri hrj
    rw [htransactions] at hi hj
    rcases (getElem?_append_row_iff _ _).1 hi with hiold | ⟨hilast, rfl⟩ <;>
      rcases (getElem?_append_row_iff _ _).1 hj with hjold | ⟨hjlast, rfl⟩
    · exact hlaw.once i j chargeId other other' hiold hjold hri hrj
    · rw [hnew chargeId hrj, hfree i other hiold] at hri
      cases hri
    · rw [hnew chargeId hri, hfree j other' hjold] at hrj
      cases hrj
    · exact hilast.trans hjlast.symm

end Post

/-! ### The steps -/

/-- What a step owes: the law, its own assertion, and that the ledger only grows. -/
structure ReversalStep (s s' : DisputeState) (thread' : ReversalThread) : Prop where
  law : ReversalLaw s'.db
  grows : s.db.transactions <+: s'.db.transactions
  asserts : thread'.Asserts s'.db

theorem reversalStep_attempt {s s' : DisputeState} {next : ReversalThread} (fault : Fault)
    (hlaw : ReversalLaw s.db) (h : ReversalStep s s' next) :
    ReversalStep s (s.attempt fault s' next).1 (s.attempt fault s' next).2 := by
  cases fault with
  | ok => exact h
  | failed => exact ⟨hlaw, List.prefix_refl _, trivial⟩
  | lost => exact ⟨h.law, h.grows, trivial⟩

theorem asserts_checkDispute (s : DisputeState) (call : ReverseCharge) :
    (checkDispute s call).Asserts s.db := by
  unfold checkDispute
  split
  · trivial
  · split_ifs <;> trivial

theorem asserts_checkOriginal (s : DisputeState) (call : ReverseCharge) (tenantId : Id) :
    (checkOriginal s call tenantId).Asserts s.db := by
  unfold checkOriginal
  split
  · trivial
  · rename_i original hfound
    rw [Option.filter_eq_some_iff, Bool.and_eq_true, beq_iff_eq, beq_iff_eq] at hfound
    exact ⟨hfound.1, hfound.2.2, hfound.2.1⟩

theorem asserts_checkReversal {s : DisputeState} {call : ReverseCharge} {tenantId : Id}
    {original : AiWalletTransaction}
    (h : (ReversalThread.findReversal call tenantId original).Asserts s.db) :
    (checkReversal s call tenantId original).Asserts s.db := by
  unfold checkReversal
  split
  · trivial
  · exact h

theorem reversalStep_advance {s : DisputeState} {thread : ReversalThread} (fault : Fault)
    (hlaw : ReversalLaw s.db) (hasserts : thread.Asserts s.db)
    (hcheck : fault ≠ .failed → thread.checkStillHolds s.db = true) :
    ReversalStep s (thread.advance s fault).1 (thread.advance s fault).2 := by
  have hread : ∀ next : ReversalThread, next.Asserts s.db →
      ReversalStep s (s.attempt fault s next).1 (s.attempt fault s next).2 := fun next hnext =>
    reversalStep_attempt fault hlaw ⟨hlaw, List.prefix_refl _, hnext⟩
  cases thread with
  | readDispute call => exact hread _ (asserts_checkDispute s call)
  | findOriginal call tenantId => exact hread _ (asserts_checkOriginal s call tenantId)
  | findReversal call tenantId original => exact hread _ (asserts_checkReversal hasserts)
  | post call tenantId original =>
    cases hpost : postTransaction s.db (reversalInput call tenantId original) with
    | error e =>
      simp only [ReversalThread.advance, hpost]
      exact ⟨hlaw, List.prefix_refl _, trivial⟩
    | ok posted =>
      obtain ⟨reversalId, db⟩ := posted
      simp only [ReversalThread.advance, hpost]
      by_cases hfault : fault = .failed
      · subst hfault
        exact ⟨hlaw, List.prefix_refl _, trivial⟩
      · have hnone := Option.isNone_iff_eq_none.1 (hcheck hfault)
        obtain ⟨hlaw', hgrows⟩ := hlaw.post hasserts hnone hpost
        exact reversalStep_attempt fault hlaw ⟨hlaw', hgrows, trivial⟩
  | resolve call reversalId =>
    exact reversalStep_attempt fault hlaw ⟨hlaw, List.prefix_refl _, trivial⟩
  | returned reversalId => exact ⟨hlaw, List.prefix_refl _, trivial⟩
  | thrown e => exact ⟨hlaw, List.prefix_refl _, trivial⟩

theorem appends_apply (s : DisputeState) (event : DisputeEvent) :
    Appends ReversesNothing s.db (event.apply s).db := by
  cases event with
  | create tenantId => exact appends_of_same rfl
  | updateStatus disputeId status => exact appends_of_same rfl
  | wallet call =>
    unfold DisputeEvent.apply
    dsimp only
    split_ifs with hposts
    · exact appends_of_same rfl
    · exact appends_reversesNothing s.db (by simpa using hposts)

/-! ### Runs -/

def reversalOutline : Outline DisputeState ReversalThread where
  inv s := ReversalLaw s.db
  asserts s t := t.Asserts s.db
  pair _ _ := True
  symm _ _ _ := trivial

/-- Whenever an action posts, the check that it made earlier passes again. -/
def CheckStillHolds (cfg : DisputeConfig) : DisputeAction → Prop
  | .step i fault =>
    fault ≠ .failed → cfg.threads[i]?.all (fun t => t.checkStillHolds cfg.shared.db) = true
  | _ => True

instance (cfg : DisputeConfig) : (action : DisputeAction) → Decidable (CheckStillHolds cfg action)
  | .spawn _ => inferInstanceAs (Decidable True)
  | .step i fault => inferInstanceAs (Decidable (fault ≠ .failed →
      cfg.threads[i]?.all (fun t => t.checkStillHolds cfg.shared.db) = true))
  | .env _ => inferInstanceAs (Decidable True)

theorem reversalOutline_next {cfg : DisputeConfig} {action : DisputeAction}
    (h : reversalOutline.Holds cfg) (hcheck : CheckStillHolds cfg action) :
    reversalOutline.Holds (disputeProgram.next cfg action) := by
  apply Outline.Holds.next (G := CheckStillHolds) _ _ _ h hcheck
  · intro cfg call thread _ _ hstart
    obtain rfl := Option.some.inj hstart
    exact ⟨trivial, fun _ _ _ => trivial⟩
  · intro cfg i fault thread hholds hgood hthread
    have hown : fault ≠ .failed → thread.checkStillHolds cfg.shared.db = true := by
      intro hfault
      have hall := hgood hfault
      rwa [hthread, Option.all_some] at hall
    have hstep := reversalStep_advance fault hholds.inv (hholds.asserts i thread hthread) hown
    exact ⟨hstep.law, hstep.asserts, fun j other _ hother =>
      ⟨(hholds.asserts j other hother).of_grown hstep.grows, trivial⟩⟩
  · intro cfg event hholds _
    have happends := appends_apply cfg.shared event
    refine ⟨hholds.inv.appends happends, fun i thread hthread => ?_⟩
    exact (hholds.asserts i thread hthread).of_grown happends.prefix

theorem reversalLaw_empty : ReversalLaw Db.empty := by
  refine ⟨fun i chargeId row hrow => ?_, fun i j chargeId row row' hrow => ?_⟩
  · simp [Db.empty] at hrow
  · simp [Db.empty] at hrow

theorem reversalOutline_init : reversalOutline.Holds disputeInit :=
  Outline.holds_initial (O := reversalOutline) reversalLaw_empty

/-- The law holds in every state of every interleaving in which each post still passes its
check. -/
theorem reversalLaw_of_checkStillHolds {actions : List DisputeAction}
    (h : Always disputeProgram.next CheckStillHolds disputeInit actions) (k : ℕ) :
    ReversalLaw (stateAt disputeProgram.next disputeInit actions k).shared.db :=
  (h.invariant_at (I := reversalOutline.Holds) (fun _ _ => reversalOutline_next)
    reversalOutline_init k).inv

/-! ### Two actions on one charge -/

def disputedCharge : List DisputeAction :=
  [.env (.wallet (.postTransaction { tenantId := 3, type := .manualCredit, amount := 20 })),
    .env (.wallet (.postTransaction { tenantId := 3, type := .usageCharge, amount := -5 })),
    .env (.create 3)]

def reverseIt : DisputeAction := .spawn ⟨9, 0, 1⟩

def oneReversalAfterAnother : List DisputeAction :=
  disputedCharge ++
    [reverseIt, .step 0 .ok, .step 0 .ok, .step 0 .ok, .step 0 .ok, .step 0 .ok,
      reverseIt, .step 1 .ok, .step 1 .ok, .step 1 .ok, .step 1 .ok, .step 1 .ok]

theorem reversalLaw_oneReversalAfterAnother :
    ReversalLaw (stateAt disputeProgram.next disputeInit oneReversalAfterAnother 15).shared.db :=
  reversalLaw_of_checkStillHolds (by decide +kernel) 15

/-- Both actions look for an earlier reversal before either posts its own. -/
def bothFindNoReversal : List DisputeAction :=
  disputedCharge ++
    [reverseIt, .step 0 .ok, .step 0 .ok, .step 0 .ok,
      reverseIt, .step 1 .ok, .step 1 .ok, .step 1 .ok,
      .step 0 .ok, .step 1 .ok]

theorem not_reversalLaw_bothFindNoReversal :
    ¬ ReversalLaw (stateAt disputeProgram.next disputeInit bothFindNoReversal 13).shared.db := by
  intro h
  have hrows : (stateAt disputeProgram.next disputeInit bothFindNoReversal 13).shared.db.transactions.map
      (fun row => row.reverses 1) = [false, false, true, true] := by decide +kernel
  have hget : ∀ i < 4, ∃ row, (stateAt disputeProgram.next disputeInit bothFindNoReversal
      13).shared.db.transactions[i]? = some row ∧
        [false, false, true, true][i]? = some (row.reverses 1) := by
    intro i hi
    rw [← hrows, List.getElem?_map]
    have hlength := congrArg List.length hrows
    rw [List.length_map] at hlength
    have hlt : i < (stateAt disputeProgram.next disputeInit bothFindNoReversal
        13).shared.db.transactions.length := hlength ▸ hi
    exact ⟨_, List.getElem?_eq_getElem hlt, by rw [List.getElem?_eq_getElem hlt]; rfl⟩
  obtain ⟨first, hfirst, hr⟩ := hget 2 (by decide)
  obtain ⟨second, hsecond, hr'⟩ := hget 3 (by decide)
  have hsame := h.once 2 3 1 first second hfirst hsecond (Option.some.inj hr).symm
    (Option.some.inj hr').symm
  exact absurd hsame (by decide)

end Forecast
