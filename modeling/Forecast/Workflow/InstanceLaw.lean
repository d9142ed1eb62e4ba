import Forecast.Workflow.WorkflowService

/-!
# Final instances, current steps and active instances

A call checks the instance when it reads it and writes it later without a check. While the checks
would still pass at the write, an instance that is approved or rejected stays so, its current step
never goes back, and an entity has one active instance at most. Two calls that overlap break each
of these.
-/

namespace Forecast.Workflow

open RowTable ThreadPool Transactions Runs

def isFinal (status : WorkflowStatus) : Bool := status == .approved || status == .rejected

/-- What may become of an instance. -/
structure Continues (row row' : WorkflowInstance) : Prop where
  final : isFinal row.status = true → row'.status = row.status
  forward : row.currentStep ≤ row'.currentStep

theorem Continues.refl (row : WorkflowInstance) : Continues row row := ⟨fun _ => rfl, Int.le_refl _⟩

theorem Continues.trans {a b c : WorkflowInstance} (hab : Continues a b) (hbc : Continues b c) :
    Continues a c := by
  refine ⟨fun h => ?_, Int.le_trans hab.forward hbc.forward⟩
  have hb := hab.final h
  exact (hbc.final (hb ▸ h)).trans hb

/-- No instance is lost, and each becomes what it may. -/
def Progress (db db' : WorkflowDb) : Prop :=
  ∀ (id : Id) (row : WorkflowInstance), db.instances[id]? = some row →
    ∃ row', db'.instances[id]? = some row' ∧ Continues row row'

theorem Progress.refl (db : WorkflowDb) : Progress db db :=
  fun _ row h => ⟨row, h, Continues.refl row⟩

theorem Progress.trans {a b c : WorkflowDb} (hab : Progress a b) (hbc : Progress b c) :
    Progress a c := by
  intro id row hrow
  obtain ⟨row', hrow', hstep⟩ := hab id row hrow
  obtain ⟨row'', hrow'', hstep'⟩ := hbc id row' hrow'
  exact ⟨row'', hrow'', hstep.trans hstep'⟩

def OneActive (db : WorkflowDb) : Prop :=
  ∀ (id id' : Id) (row row' : WorkflowInstance), db.instances[id]? = some row →
    db.instances[id']? = some row' → row.isActive = true → row'.isActive = true →
      row'.isOf row.tenantId row.entityType row.entityId = true → id = id'

/-! ### Writes that come in time -/

/-- The checks that a review made still pass. -/
def StillPending (row : WorkflowInstance) (pending : PendingReview) : Prop :=
  row.status = .inProgress ∧ row.currentStep = pending.step.sequence
deriving Decidable

/-- When a call writes, its checks still pass, or the row has already what it writes. -/
def WritesInTime (db : WorkflowDb) : WorkflowThread → Prop
  | .createInstance request _ _ => hasActiveInstance db request = false
  | .writeApproved pending => ∀ row ∈ db.instances[pending.instanceId]?,
    StillPending row pending ∨ row.status = .approved
  | .writeNextStep pending => ∀ row ∈ db.instances[pending.instanceId]?,
    StillPending row pending ∨ row.currentStep = pending.step.sequence + 1
  | .writeRejected pending => ∀ row ∈ db.instances[pending.instanceId]?,
    StillPending row pending ∨ row.status = .rejected
  | _ => True

def Timely (cfg : WorkflowConfig) : WorkflowStepAction → Prop
  | .step i (some _) => ∀ thread ∈ cfg.threads[i]?, WritesInTime cfg.shared thread
  | _ => True

instance (db : WorkflowDb) : (thread : WorkflowThread) → Decidable (WritesInTime db thread)
  | .createInstance request _ _ => inferInstanceAs (Decidable (hasActiveInstance db request = false))
  | .writeApproved pending => inferInstanceAs (Decidable (∀ row ∈ db.instances[pending.instanceId]?,
      StillPending row pending ∨ row.status = .approved))
  | .writeNextStep pending => inferInstanceAs (Decidable (∀ row ∈ db.instances[pending.instanceId]?,
      StillPending row pending ∨ row.currentStep = pending.step.sequence + 1))
  | .writeRejected pending => inferInstanceAs (Decidable (∀ row ∈ db.instances[pending.instanceId]?,
      StillPending row pending ∨ row.status = .rejected))
  | .readTemplate _ | .checkActive .. | .recordSubmit .. | .readForApproval _ | .checkApprover _
  | .checkExisting _ | .recordApproval _ | .countApprovals _ | .readForRejection _
  | .checkRejecter _ | .recordRejection _ | .returned _ | .thrown _ =>
    inferInstanceAs (Decidable True)

instance (cfg : WorkflowConfig) : (action : WorkflowStepAction) → Decidable (Timely cfg action)
  | .step i (some _) => inferInstanceAs
      (Decidable (∀ thread ∈ cfg.threads[i]?, WritesInTime cfg.shared thread))
  | .step _ none | .spawn _ | .env _ => inferInstanceAs (Decidable True)

theorem continues_setApproved {row : WorkflowInstance} {pending : PendingReview}
    (h : StillPending row pending ∨ row.status = .approved) (now : Time) :
    Continues row (setApproved now row) := by
  refine ⟨fun hfinal => ?_, Int.le_refl _⟩
  rcases h with ⟨hstatus, -⟩ | hstatus
  · rw [hstatus] at hfinal
    cases hfinal
  · exact hstatus.symm

theorem continues_setRejected {row : WorkflowInstance} {pending : PendingReview}
    (h : StillPending row pending ∨ row.status = .rejected) (now : Time) :
    Continues row (setRejected now row) := by
  refine ⟨fun hfinal => ?_, Int.le_refl _⟩
  rcases h with ⟨hstatus, -⟩ | hstatus
  · rw [hstatus] at hfinal
    cases hfinal
  · exact hstatus.symm

theorem continues_setNextStep {row : WorkflowInstance} {pending : PendingReview}
    (h : StillPending row pending ∨ row.currentStep = pending.step.sequence + 1) :
    Continues row (setNextStep pending row) := by
  refine ⟨fun _ => rfl, ?_⟩
  change row.currentStep ≤ pending.step.sequence + 1
  rcases h with ⟨-, hstep⟩ | hstep
  · rw [hstep]
    exact Int.le_of_lt (Int.lt_add_one_iff.2 (Int.le_refl _))
  · exact Int.le_of_eq hstep

section Steps

variable {db : WorkflowDb} {pending : PendingReview} {f : WorkflowInstance → WorkflowInstance}

theorem Progress.updated (h : ∀ row, db.instances[pending.instanceId]? = some row →
    Continues row (f row)) : Progress db (updated db pending f).1 := by
  unfold Workflow.updated
  cases hrow : db.instances[pending.instanceId]? with
  | none => exact Progress.refl db
  | some row =>
    intro id other hother
    refine ⟨_, getElem?_modify_some _ _ hother, ?_⟩
    split_ifs with hid
    · subst hid
      exact h other hother
    · exact Continues.refl other

/-- No update makes an instance active or changes whose it is. -/
theorem OneActive.updated (hone : OneActive db)
    (hactive : ∀ row, (f row).isActive = true → row.isActive = true)
    (hkey : ∀ row, (f row).tenantId = row.tenantId ∧ (f row).entityType = row.entityType ∧
      (f row).entityId = row.entityId) : OneActive (Workflow.updated db pending f).1 := by
  unfold Workflow.updated
  cases hrow : db.instances[pending.instanceId]? with
  | none => exact hone
  | some row =>
    have hrows : ∀ (id : Id) (y : WorkflowInstance),
        (db.instances.modify pending.instanceId f)[id]? = some y → ∃ x, db.instances[id]? = some x ∧
          (y.isActive = true → x.isActive = true) ∧ y.tenantId = x.tenantId ∧
          y.entityType = x.entityType ∧ y.entityId = x.entityId := by
      intro id y hy
      obtain ⟨x, hx, rfl⟩ := exists_of_getElem?_modify _ _ hy
      refine ⟨x, hx, ?_⟩
      split_ifs
      · exact ⟨hactive x, hkey x⟩
      · exact ⟨fun h => h, rfl, rfl, rfl⟩
    intro id id' y y' hy hy' hyactive hyactive' hof
    obtain ⟨x, hx, hxactive, ht, he, hi⟩ := hrows id y hy
    obtain ⟨x', hx', hxactive', ht', he', hi'⟩ := hrows id' y' hy'
    apply hone id id' x x' hx hx' (hxactive hyactive) (hxactive' hyactive')
    unfold WorkflowInstance.isOf at hof ⊢
    rwa [ht, he, hi, ht', he', hi'] at hof

theorem Progress.createInstance (row : WorkflowInstance) :
    Progress db { db with instances := db.instances ++ [row] } :=
  fun _ other h => ⟨other, getElem?_append_row _ _ h, Continues.refl other⟩

theorem OneActive.createInstance (hone : OneActive db) {request : StartRequest}
    (hnone : hasActiveInstance db request = false) (templateId : Id) (firstStep : WorkflowStep)
    (now : Time) : OneActive { db with
      instances := db.instances ++ [newInstance request templateId firstStep now] } := by
  have hfree : ∀ (id : Id) (row : WorkflowInstance), db.instances[id]? = some row →
      row.isOf request.tenantId request.entityType request.entityId = true →
      row.isActive = false := by
    intro id row hrow hof
    have hall := List.any_eq_false.1 hnone row (List.mem_of_getElem? hrow)
    simpa [hof] using hall
  intro id id' row row' hrow hrow' hactive hactive' hof
  rcases (getElem?_append_row_iff _ _).1 hrow with hold | ⟨hid, rfl⟩ <;>
    rcases (getElem?_append_row_iff _ _).1 hrow' with hold' | ⟨hid', rfl⟩
  · exact hone id id' row row' hold hold' hactive hactive' hof
  · have hkey : row.isOf request.tenantId request.entityType request.entityId = true := by
      simp only [WorkflowInstance.isOf, newInstance, Bool.and_eq_true, beq_iff_eq] at hof ⊢
      exact ⟨⟨hof.1.1.symm, hof.1.2.symm⟩, hof.2.symm⟩
    rw [hfree id row hold hkey] at hactive
    cases hactive
  · rw [hfree id' row' hold' hof] at hactive'
    cases hactive'
  · exact hid.trans hid'.symm

end Steps

/-- What a step owes when it comes in time. -/
def Steady (db db' : WorkflowDb) : Prop := Progress db db' ∧ (OneActive db → OneActive db')

theorem Steady.refl (db : WorkflowDb) : Steady db db := ⟨Progress.refl db, id⟩

theorem steady_updated {db : WorkflowDb} {pending : PendingReview}
    {f : WorkflowInstance → WorkflowInstance}
    (h : ∀ row, db.instances[pending.instanceId]? = some row → Continues row (f row))
    (hactive : ∀ row, (f row).isActive = true → row.isActive = true)
    (hkey : ∀ row, (f row).tenantId = row.tenantId ∧ (f row).entityType = row.entityType ∧
      (f row).entityId = row.entityId) : Steady db (updated db pending f).1 :=
  ⟨Progress.updated h, fun hone => hone.updated hactive hkey⟩

theorem steady_perform {cfg : WorkflowConfig} {i : ℕ} {now : Time} {thread : WorkflowThread}
    (hthread : cfg.threads[i]? = some thread) (hin : Timely cfg (.step i (some now))) :
    Steady cfg.shared (thread.perform cfg.shared now).1 := by
  have h : WritesInTime cfg.shared thread := hin thread hthread
  cases thread with
  | createInstance request templateId firstStep =>
    exact ⟨Progress.createInstance _, fun hone =>
      hone.createInstance h templateId firstStep now⟩
  | writeApproved pending =>
    apply steady_updated (fun row hrow => continues_setApproved (h row hrow) now)
    · intro row hactive
      cases hactive
    · exact fun row => ⟨rfl, rfl, rfl⟩
  | writeNextStep pending =>
    apply steady_updated (fun row hrow => continues_setNextStep (h row hrow))
    · exact fun row hactive => hactive
    · exact fun row => ⟨rfl, rfl, rfl⟩
  | writeRejected pending =>
    apply steady_updated (fun row hrow => continues_setRejected (h row hrow) now)
    · intro row hactive
      cases hactive
    · exact fun row => ⟨rfl, rfl, rfl⟩
  | recordSubmit request instanceId row => exact Steady.refl cfg.shared
  | recordApproval pending => exact Steady.refl cfg.shared
  | recordRejection pending => exact Steady.refl cfg.shared
  | readTemplate request => exact Steady.refl cfg.shared
  | checkActive request templateId firstStep => exact Steady.refl cfg.shared
  | readForApproval review => exact Steady.refl cfg.shared
  | checkApprover pending => exact Steady.refl cfg.shared
  | checkExisting pending => exact Steady.refl cfg.shared
  | countApprovals pending => exact Steady.refl cfg.shared
  | readForRejection review => exact Steady.refl cfg.shared
  | checkRejecter pending => exact Steady.refl cfg.shared
  | returned row => exact Steady.refl cfg.shared
  | thrown e => exact Steady.refl cfg.shared

theorem steady_next {cfg : WorkflowConfig} {action : WorkflowStepAction}
    (h : Timely cfg action) : Steady cfg.shared (workflowProgram.next cfg action).shared := by
  cases action with
  | spawn call => exact Steady.refl cfg.shared
  | env event => exact event.elim
  | step i answer =>
    cases hthread : cfg.threads[i]? with
    | none =>
      simp only [Program.next, hthread]
      exact Steady.refl cfg.shared
    | some thread =>
      rw [workflowProgram.next_step hthread]
      cases answer with
      | none => exact Steady.refl cfg.shared
      | some now => exact steady_perform hthread h

/-! ### Runs -/

/-- The tables before action number `k`. -/
def tablesAt (db : WorkflowDb) (actions : List WorkflowStepAction) (k : ℕ) : WorkflowDb :=
  (stateAt workflowProgram.next ⟨db, []⟩ actions k).shared

structure InstanceLaw (db : WorkflowDb) (actions : List WorkflowStepAction) : Prop where
  final : ∀ (j k : ℕ) (id : Id) (row row' : WorkflowInstance), j ≤ k →
    (tablesAt db actions j).instances[id]? = some row →
    (tablesAt db actions k).instances[id]? = some row' →
    isFinal row.status = true → row'.status = row.status
  forward : ∀ (j k : ℕ) (id : Id) (row row' : WorkflowInstance), j ≤ k →
    (tablesAt db actions j).instances[id]? = some row →
    (tablesAt db actions k).instances[id]? = some row' → row.currentStep ≤ row'.currentStep
  oneActive : ∀ k, OneActive (tablesAt db actions k)

/-- In a run whose writes come in time the law holds in every state. -/
theorem instanceLaw_of_timely {db : WorkflowDb} (hone : OneActive db)
    {actions : List WorkflowStepAction} (h : Always workflowProgram.next Timely ⟨db, []⟩ actions) :
    InstanceLaw db actions := by
  have hprogress : ∀ {j k : ℕ}, j ≤ k → Progress (tablesAt db actions j) (tablesAt db actions k) := by
    intro j k hjk
    exact h.related (R := fun cfg cfg' : WorkflowConfig => Progress cfg.shared cfg'.shared)
      (fun cfg => Progress.refl cfg.shared) Progress.trans (fun _ _ hin => (steady_next hin).1) hjk
  refine ⟨?_, ?_, fun k => ?_⟩
  · intro j k id row row' hjk hrow hrow' hfinal
    obtain ⟨later, hlater, hcontinues⟩ := hprogress hjk id row hrow
    rw [hrow'] at hlater
    obtain rfl := Option.some.inj hlater
    exact hcontinues.final hfinal
  · intro j k id row row' hjk hrow hrow'
    obtain ⟨later, hlater, hcontinues⟩ := hprogress hjk id row hrow
    rw [hrow'] at hlater
    obtain rfl := Option.some.inj hlater
    exact hcontinues.forward
  · exact h.invariant_at (I := fun cfg : WorkflowConfig => OneActive cfg.shared)
      (fun _ _ hcfg hin => (steady_next hin).2 hcfg) hone k

/-! ### Calls that overlap -/

/-- Three steps that any user but a viewer may approve. -/
def threeSteps : WorkflowTemplate where
  tenantId := 1
  entityType := .bom
  isActive := true
  steps := [1, 2, 3].map fun sequence => ⟨sequence, .dynamic, none, none, 1, true⟩
  ordered := by decide +kernel

def oneTemplate : WorkflowDb where
  users := [⟨7, 1, .planner⟩]
  templates := [threeSteps]
  instances := []
  actions := []

def startBom : WorkflowCall := .startWorkflow ⟨1, .bom, 40, 7⟩

def approveFirst : WorkflowCall := .approve ⟨0, 7, some 1⟩

def rejectFirst : WorkflowCall := .reject ⟨0, 7, some 1⟩

/-- So many steps of a call. -/
def stepsOf (i count : ℕ) : List WorkflowStepAction := List.replicate count (.step i (some 0))

theorem oneActive_oneTemplate : OneActive oneTemplate := by
  intro id id' row row' hrow
  simp [oneTemplate] at hrow

def inTurn : List WorkflowStepAction :=
  .spawn startBom :: stepsOf 0 4 ++ .spawn approveFirst :: stepsOf 1 6

theorem instanceLaw_inTurn : InstanceLaw oneTemplate inTurn :=
  instanceLaw_of_timely oneActive_oneTemplate (by decide +kernel)

/-- Two starts that both look for an active instance before either creates one. -/
def twoStarts : List WorkflowStepAction :=
  [.spawn startBom, .spawn startBom] ++ stepsOf 0 2 ++ stepsOf 1 3 ++ stepsOf 0 1

/-- The last approval has been counted when a rejection goes through; then it is written. -/
def approvalAfterRejection : List WorkflowStepAction :=
  .spawn startBom :: stepsOf 0 4 ++ .spawn approveFirst :: stepsOf 1 6 ++
    .spawn approveFirst :: stepsOf 2 6 ++ .spawn approveFirst :: stepsOf 3 5 ++
    .spawn rejectFirst :: stepsOf 4 4 ++ stepsOf 3 1

def bomInstance (status : WorkflowStatus) (currentStep : ℤ) (completedAt : Option Time) :
    WorkflowInstance :=
  ⟨1, 0, .bom, 40, status, currentStep, 7, 0, completedAt⟩

theorem not_instanceLaw_overlapping :
    ¬ InstanceLaw oneTemplate twoStarts ∧ ¬ InstanceLaw oneTemplate approvalAfterRejection := by
  constructor
  · intro h
    have htwo : (tablesAt oneTemplate twoStarts 8).instances =
        [bomInstance .inProgress 1 none, bomInstance .inProgress 1 none] := by decide +kernel
    have hsame := h.oneActive 8 0 1 _ _ (by rw [htwo]; rfl) (by rw [htwo]; rfl) rfl rfl rfl
    exact absurd hsame (by decide)
  · intro h
    have hrejected : (tablesAt oneTemplate approvalAfterRejection 30).instances =
        [bomInstance .rejected 3 (some 0)] := by decide +kernel
    have happroved : (tablesAt oneTemplate approvalAfterRejection 31).instances =
        [bomInstance .approved 3 (some 0)] := by decide +kernel
    have hkept := h.final 30 31 0 _ _ (by decide) (by rw [hrejected]; rfl)
      (by rw [happroved]; rfl) rfl
    exact absurd hkept (by decide)

end Forecast.Workflow
