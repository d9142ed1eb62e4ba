import Forecast.Workflow.WorkflowService

/-!
# An approved instance has its approvals

Actions are only ever added, so a step whose approvals were counted keeps them. An instance is
past the steps below its current one, and approved past the last, only when their approvals were
counted, whatever calls interleave and however often a late write sets the current step back.
-/

namespace Forecast.Workflow

open RowTable ThreadPool Transactions Runs

/-- Enough users have approved the step. -/
def Reached (db : WorkflowDb) (instanceId : Id) (step : WorkflowStep) : Prop :=
  step.requiredApprovals ≤ ((uniqueApprovals db instanceId step).card : ℤ)

theorem mem_uniqueApprovals {db : WorkflowDb} {instanceId userId : Id} {step : WorkflowStep} :
    userId ∈ uniqueApprovals db instanceId step ↔
      (⟨instanceId, step.sequence, .approve, userId⟩ : WorkflowAction) ∈ db.actions := by
  unfold uniqueApprovals approvalsOf
  rw [List.mem_toFinset, List.mem_map]
  constructor
  · rintro ⟨⟨i, n, a, u⟩, haction, rfl⟩
    rw [List.mem_filter] at haction
    obtain ⟨hmem, hmatch⟩ := haction
    simp only [Bool.and_eq_true, beq_iff_eq] at hmatch
    obtain ⟨⟨rfl, rfl⟩, rfl⟩ := hmatch
    exact hmem
  · intro h
    exact ⟨_, List.mem_filter.2 ⟨h, by simp⟩, rfl⟩

/-! ### What no step undoes -/

structure Later (db db' : WorkflowDb) : Prop where
  users : db'.users = db.users
  templates : db'.templates = db.templates
  instances : ∀ {id : Id} {row : WorkflowInstance}, db.instances[id]? = some row → ∃ row',
    db'.instances[id]? = some row' ∧ row'.templateId = row.templateId ∧
      row'.tenantId = row.tenantId
  actions : db.actions ⊆ db'.actions

namespace Later

variable {db db' : WorkflowDb}

theorem refl (db : WorkflowDb) : Later db db :=
  ⟨rfl, rfl, fun h => ⟨_, h, rfl, rfl⟩, List.Subset.refl _⟩

theorem createAction (db : WorkflowDb) (action : WorkflowAction) :
    Later db (db.createAction action) :=
  ⟨rfl, rfl, fun h => ⟨_, h, rfl, rfl⟩, List.subset_append_left _ _⟩

theorem createInstance (db : WorkflowDb) (row : WorkflowInstance) :
    Later db { db with instances := db.instances ++ [row] } :=
  ⟨rfl, rfl, fun h => ⟨_, getElem?_append_row _ _ h, rfl, rfl⟩, List.Subset.refl _⟩

theorem updated (db : WorkflowDb) (pending : PendingReview)
    {f : WorkflowInstance → WorkflowInstance}
    (hf : ∀ row, (f row).templateId = row.templateId ∧ (f row).tenantId = row.tenantId) :
    Later db (updated db pending f).1 := by
  unfold Workflow.updated
  cases hrow : db.instances[pending.instanceId]? with
  | none => exact refl db
  | some row =>
    refine ⟨rfl, rfl, ?_, List.Subset.refl _⟩
    intro id other hother
    refine ⟨_, getElem?_modify_some _ _ hother, ?_⟩
    split_ifs
    · exact hf other
    · exact ⟨rfl, rfl⟩

theorem reached (h : Later db db') {instanceId : Id} {step : WorkflowStep}
    (hr : Reached db instanceId step) : Reached db' instanceId step := by
  refine Int.le_trans hr (Int.ofNat_le.2 (Finset.card_le_card fun userId hu => ?_))
  rw [mem_uniqueApprovals] at hu ⊢
  exact h.actions hu

theorem assertApprover_eq (h : Later db db') (tenantId : Id) (step : WorkflowStep) (userId : Id) :
    assertApprover db' tenantId step userId = assertApprover db tenantId step userId := by
  unfold assertApprover
  rw [h.users]

end Later

theorem later_perform (db : WorkflowDb) (thread : WorkflowThread) (now : Time) :
    Later db (thread.perform db now).1 := by
  cases thread with
  | createInstance request templateId firstStep => exact Later.createInstance db _
  | recordSubmit request instanceId row => exact Later.createAction db _
  | recordApproval pending => exact Later.createAction db _
  | recordRejection pending => exact Later.createAction db _
  | writeApproved pending => exact Later.updated db pending fun _ => ⟨rfl, rfl⟩
  | writeNextStep pending => exact Later.updated db pending fun _ => ⟨rfl, rfl⟩
  | writeRejected pending => exact Later.updated db pending fun _ => ⟨rfl, rfl⟩
  | readTemplate request => exact Later.refl db
  | checkActive request templateId firstStep => exact Later.refl db
  | readForApproval review => exact Later.refl db
  | checkApprover pending => exact Later.refl db
  | checkExisting pending => exact Later.refl db
  | countApprovals pending => exact Later.refl db
  | readForRejection review => exact Later.refl db
  | checkRejecter pending => exact Later.refl db
  | returned row => exact Later.refl db
  | thrown e => exact Later.refl db

theorem later_advance (db : WorkflowDb) (thread : WorkflowThread) (answer : Option Time) :
    Later db (thread.advance db answer).1 := by
  cases answer with
  | none => exact Later.refl db
  | some now => exact later_perform db thread now

/-! ### What every step keeps -/

/-- An instance of a template, all of whose steps that satisfy `p` are reached. -/
def Covered (db : WorkflowDb) (id : Id) (row : WorkflowInstance) (p : WorkflowStep → Prop) : Prop :=
  ∃ template, db.templates[row.templateId]? = some template ∧
    ∀ step ∈ template.steps, p step → Reached db id step

theorem Covered.later {db db' : WorkflowDb} (h : Later db db') {id : Id}
    {row row' : WorkflowInstance} (hrow : row'.templateId = row.templateId)
    {p : WorkflowStep → Prop} (hc : Covered db id row p) : Covered db' id row' p := by
  obtain ⟨template, htemplate, hsteps⟩ := hc
  refine ⟨template, ?_, fun step hs hp => h.reached (hsteps step hs hp)⟩
  rw [hrow, h.templates]
  exact htemplate

/-- A recorded approval is one by an authorised user of a step of the instance's template. -/
def Authorised (db : WorkflowDb) (action : WorkflowAction) : Prop :=
  ∃ row template step, db.instances[action.instanceId]? = some row ∧
    db.templates[row.templateId]? = some template ∧ step ∈ template.steps ∧
    step.sequence = action.stepNumber ∧
    assertApprover db row.tenantId step action.performedBy = .ok ()

theorem Authorised.later {db db' : WorkflowDb} (h : Later db db') {action : WorkflowAction}
    (ha : Authorised db action) : Authorised db' action := by
  obtain ⟨row, template, step, hrow, htemplate, hstep, hsequence, hassert⟩ := ha
  obtain ⟨row', hrow', hid, htenant⟩ := h.instances hrow
  refine ⟨row', template, step, hrow', ?_, hstep, hsequence, ?_⟩
  · rw [hid, h.templates]
    exact htemplate
  · rw [h.assertApprover_eq, htenant]
    exact hassert

structure Approvals (db : WorkflowDb) : Prop where
  passed : ∀ id row, db.instances[id]? = some row →
    Covered db id row fun step => step.sequence < row.currentStep
  approved : ∀ id row, db.instances[id]? = some row → row.status = .approved →
    Covered db id row fun _ => True
  authorised : ∀ action ∈ db.actions, action.action = .approve → Authorised db action

theorem Approvals.later {db db' : WorkflowDb} (h : Later db db') (hdb : Approvals db)
    (hinstances : ∀ id row, db'.instances[id]? = some row → db.instances[id]? = some row ∨
      Covered db id row (fun step => step.sequence < row.currentStep) ∧
        (row.status = .approved → Covered db id row fun _ => True))
    (hactions : ∀ action ∈ db'.actions, action.action = .approve →
      action ∈ db.actions ∨ Authorised db action) : Approvals db' := by
  refine ⟨?_, ?_, ?_⟩
  · intro id row hrow
    rcases hinstances id row hrow with hold | hnew
    · exact (hdb.passed id row hold).later h rfl
    · exact hnew.1.later h rfl
  · intro id row hrow hstatus
    rcases hinstances id row hrow with hold | hnew
    · exact (hdb.approved id row hold hstatus).later h rfl
    · exact (hnew.2 hstatus).later h rfl
  · intro action hmem hkind
    rcases hactions action hmem hkind with hold | hnew
    · exact (hdb.authorised action hold hkind).later h
    · exact hnew.later h

section Updates

variable {db : WorkflowDb}

theorem Approvals.createAction (hdb : Approvals db) {action : WorkflowAction}
    (h : action.action = .approve → Authorised db action) :
    Approvals (db.createAction action) := by
  apply Approvals.later (Later.createAction db action) hdb
  · exact fun id row hrow => Or.inl hrow
  · intro other hmem hkind
    rcases List.mem_append.1 hmem with hmem | hmem
    · exact Or.inl hmem
    · rw [List.mem_singleton.1 hmem] at hkind ⊢
      exact Or.inr (h hkind)

theorem WorkflowTemplate.sequence_head_le (template : WorkflowTemplate) {first step : WorkflowStep}
    (hfirst : template.steps.head? = some first) (hstep : step ∈ template.steps) :
    first.sequence ≤ step.sequence := by
  have hordered := template.ordered
  cases hsteps : template.steps with
  | nil =>
    rw [hsteps] at hstep
    cases hstep
  | cons s rest =>
    rw [hsteps] at hfirst hstep hordered
    obtain rfl : s = first := by simpa using hfirst
    rw [List.map_cons, List.pairwise_cons] at hordered
    rcases List.mem_cons.1 hstep with rfl | hrest
    · exact Int.le_refl _
    · exact Int.le_of_lt (hordered.1 _ (List.mem_map_of_mem hrest))

theorem Approvals.createInstance (hdb : Approvals db) {request : StartRequest} {templateId : Id}
    {firstStep : WorkflowStep} {now : Time}
    (h : ∃ template, db.templates[templateId]? = some template ∧
      template.steps.head? = some firstStep) :
    Approvals { db with
      instances := db.instances ++ [newInstance request templateId firstStep now] } := by
  obtain ⟨template, htemplate, hfirst⟩ := h
  apply Approvals.later (Later.createInstance db _) hdb
  · intro id row hrow
    rcases (getElem?_append_row_iff _ _).1 hrow with hold | ⟨-, rfl⟩
    · exact Or.inl hold
    · refine Or.inr ⟨⟨template, htemplate, fun step hstep hlt => ?_⟩, fun hstatus => ?_⟩
      · have hle := template.sequence_head_le hfirst hstep
        exact absurd hlt (Int.not_lt.2 hle)
      · cases hstatus
  · exact fun action hmem _ => Or.inl hmem

theorem Approvals.update (hdb : Approvals db) {pending : PendingReview}
    {f : WorkflowInstance → WorkflowInstance}
    (hf : ∀ row, (f row).templateId = row.templateId ∧ (f row).tenantId = row.tenantId)
    (h : ∀ row, db.instances[pending.instanceId]? = some row →
      Covered db pending.instanceId row (fun step => step.sequence < (f row).currentStep) ∧
        ((f row).status = .approved → Covered db pending.instanceId row fun _ => True)) :
    Approvals (updated db pending f).1 := by
  unfold updated
  cases hrow : db.instances[pending.instanceId]? with
  | none => exact hdb
  | some row =>
    have hlater := Later.updated db pending hf
    unfold updated at hlater
    rw [hrow] at hlater
    apply Approvals.later hlater hdb
    · intro id other hother
      obtain ⟨old, hold, rfl⟩ := exists_of_getElem?_modify _ _ hother
      by_cases hid : pending.instanceId = id
      · subst hid
        rw [if_pos rfl]
        obtain ⟨hpassed, happroved⟩ := h old hold
        refine Or.inr ⟨hpassed.later (Later.refl db) (hf old).1, fun hstatus => ?_⟩
        exact (happroved hstatus).later (Later.refl db) (hf old).1
      · rw [if_neg hid]
        exact Or.inl hold
    · exact fun action hmem _ => Or.inl hmem

end Updates

/-! ### What a call knows -/

/-- The review reads an instance whose lower steps are reached. -/
structure Sound (db : WorkflowDb) (pending : PendingReview) : Prop where
  row : ∃ row, db.instances[pending.instanceId]? = some row ∧
    row.templateId = pending.row.templateId ∧ row.tenantId = pending.row.tenantId
  template : db.templates[pending.row.templateId]? = some pending.template
  step : pending.step ∈ pending.template.steps
  below : ∀ step ∈ pending.template.steps, step.sequence < pending.step.sequence →
    Reached db pending.instanceId step

theorem Sound.later {db db' : WorkflowDb} (h : Later db db') {pending : PendingReview}
    (hs : Sound db pending) : Sound db' pending := by
  obtain ⟨row, hrow, htemplate, htenant⟩ := hs.row
  obtain ⟨row', hrow', htemplate', htenant'⟩ := h.instances hrow
  refine ⟨⟨row', hrow', htemplate'.trans htemplate, htenant'.trans htenant⟩, ?_, hs.step, ?_⟩
  · rw [h.templates]
    exact hs.template
  · exact fun step hstep hlt => h.reached (hs.below step hstep hlt)

def CallOk (db : WorkflowDb) : WorkflowThread → Prop
  | .checkActive _ templateId firstStep | .createInstance _ templateId firstStep =>
    ∃ template, db.templates[templateId]? = some template ∧
      template.steps.head? = some firstStep
  | .checkApprover pending | .countApprovals pending => Sound db pending
  | .checkExisting pending | .recordApproval pending => Sound db pending ∧
    assertApprover db pending.row.tenantId pending.step pending.userId = .ok ()
  | .writeNextStep pending => Sound db pending ∧ Reached db pending.instanceId pending.step
  | .writeApproved pending => Sound db pending ∧ Reached db pending.instanceId pending.step ∧
    isLastStep pending = true
  | _ => True

theorem CallOk.later {db db' : WorkflowDb} (h : Later db db') {thread : WorkflowThread}
    (hc : CallOk db thread) : CallOk db' thread := by
  cases thread with
  | checkActive request templateId firstStep =>
    rw [CallOk, h.templates]
    exact hc
  | createInstance request templateId firstStep =>
    rw [CallOk, h.templates]
    exact hc
  | checkApprover pending => exact Sound.later h hc
  | countApprovals pending => exact Sound.later h hc
  | checkExisting pending => exact ⟨hc.1.later h, (h.assertApprover_eq _ _ _).trans hc.2⟩
  | recordApproval pending => exact ⟨hc.1.later h, (h.assertApprover_eq _ _ _).trans hc.2⟩
  | writeNextStep pending => exact ⟨hc.1.later h, h.reached hc.2⟩
  | writeApproved pending => exact ⟨hc.1.later h, h.reached hc.2.1, hc.2.2⟩
  | readTemplate request => trivial
  | recordSubmit request instanceId row => trivial
  | readForApproval review => trivial
  | readForRejection review => trivial
  | checkRejecter pending => trivial
  | recordRejection pending => trivial
  | writeRejected pending => trivial
  | returned row => trivial
  | thrown e => trivial

/-! ### The reads -/

section Reads

variable {db : WorkflowDb}

theorem findTemplate_eq_ok {request : StartRequest} {templateId : Id} {firstStep : WorkflowStep}
    (h : findTemplate db request = .ok (templateId, firstStep)) :
    ∃ template, db.templates[templateId]? = some template ∧
      template.steps.head? = some firstStep := by
  simp only [findTemplate, bind_eq_ok, pure_eq_ok, found_eq_ok] at h
  obtain ⟨⟨id, template⟩, hfind, -, -, -, -, first, hfirst, heq⟩ := h
  obtain ⟨rfl, rfl⟩ := Prod.mk.inj heq
  exact ⟨template, (findRow?_eq_some hfind).1, hfirst⟩

theorem getInstanceWithTemplate_eq_ok {instanceId : Id} {tenantId : Option Id}
    {row : WorkflowInstance} {template : WorkflowTemplate}
    (h : getInstanceWithTemplate db instanceId tenantId = .ok (row, template)) :
    db.instances[instanceId]? = some row ∧ db.templates[row.templateId]? = some template := by
  simp only [getInstanceWithTemplate, bind_eq_ok, pure_eq_ok, found_eq_ok] at h
  obtain ⟨row', hrow, template', htemplate, heq⟩ := h
  obtain ⟨rfl, rfl⟩ := Prod.mk.inj heq
  rw [Option.filter_eq_some_iff] at hrow
  exact ⟨hrow.1, htemplate⟩

/-- The review that a call starts with. -/
structure ReadsPending (db : WorkflowDb) (review : Review) (pending : PendingReview) : Prop where
  instanceId : pending.instanceId = review.instanceId
  userId : pending.userId = review.userId
  row : db.instances[pending.instanceId]? = some pending.row
  template : db.templates[pending.row.templateId]? = some pending.template
  status : pending.row.status = .inProgress
  step : pending.step ∈ pending.template.steps
  sequence : pending.step.sequence = pending.row.currentStep

theorem readPending_eq_ok {review : Review} {pending : PendingReview}
    (h : readPending db review = .ok pending) : ReadsPending db review pending := by
  simp only [readPending, bind_eq_ok, pure_eq_ok, found_eq_ok, throwWhen_eq_ok, not_not] at h
  obtain ⟨⟨row, template⟩, hget, -, hstatus, step, hstep, rfl⟩ := h
  obtain ⟨hrow, htemplate⟩ := getInstanceWithTemplate_eq_ok hget
  have hsequence := List.find?_some hstep
  rw [beq_iff_eq] at hsequence
  exact ⟨rfl, rfl, hrow, htemplate, hstatus, List.mem_of_find?_eq_some hstep, hsequence⟩

theorem ReadsPending.sound (hdb : Approvals db) {review : Review} {pending : PendingReview}
    (h : ReadsPending db review pending) : Sound db pending := by
  refine ⟨⟨pending.row, h.row, rfl, rfl⟩, h.template, h.step, ?_⟩
  obtain ⟨template, htemplate, hpassed⟩ := hdb.passed _ _ h.row
  rw [h.template] at htemplate
  obtain rfl := Option.some.inj htemplate
  intro step hstep hlt
  exact hpassed step hstep (h.sequence ▸ hlt)

end Reads

/-! ### The writes -/

theorem WorkflowTemplate.eq_of_sequence_eq (template : WorkflowTemplate) {s t : WorkflowStep}
    (hs : s ∈ template.steps) (ht : t ∈ template.steps) (h : s.sequence = t.sequence) : s = t := by
  have hnodup : (template.steps.map WorkflowStep.sequence).Nodup :=
    template.ordered.imp fun hlt => Int.ne_of_lt hlt
  exact List.inj_on_of_nodup_map hnodup hs ht h

theorem WorkflowTemplate.sequence_le_getLast (template : WorkflowTemplate)
    {last step : WorkflowStep} (hlast : template.steps.getLast? = some last)
    (hstep : step ∈ template.steps) : step.sequence ≤ last.sequence := by
  have hordered := template.ordered
  obtain ⟨front, hsteps⟩ := List.getLast?_eq_some_iff.1 hlast
  rw [hsteps] at hstep hordered
  rcases List.mem_append.1 hstep with hfront | hlast
  · rw [List.map_append, List.pairwise_append] at hordered
    exact Int.le_of_lt (hordered.2.2 _ (List.mem_map_of_mem hfront) _ (by simp))
  · rw [List.mem_singleton.1 hlast]

section Writes

variable {db : WorkflowDb} {pending : PendingReview}

theorem Sound.upTo (hs : Sound db pending) (hr : Reached db pending.instanceId pending.step)
    {step : WorkflowStep} (hstep : step ∈ pending.template.steps)
    (hle : step.sequence ≤ pending.step.sequence) : Reached db pending.instanceId step := by
  rcases Int.lt_or_eq_of_le hle with hlt | heq
  · exact hs.below step hstep hlt
  · rw [pending.template.eq_of_sequence_eq hstep hs.step heq]
    exact hr

theorem Sound.covered (hs : Sound db pending) {row : WorkflowInstance}
    (hrow : db.instances[pending.instanceId]? = some row) {p : WorkflowStep → Prop}
    (h : ∀ step ∈ pending.template.steps, p step → Reached db pending.instanceId step) :
    Covered db pending.instanceId row p := by
  obtain ⟨row', hrow', htemplate, -⟩ := hs.row
  rw [hrow] at hrow'
  obtain rfl := Option.some.inj hrow'
  refine ⟨pending.template, ?_, h⟩
  rw [htemplate]
  exact hs.template

theorem Approvals.writeNextStep (hdb : Approvals db) (hs : Sound db pending)
    (hr : Reached db pending.instanceId pending.step) :
    Approvals (updated db pending (setNextStep pending)).1 := by
  refine hdb.update (fun row => ⟨rfl, rfl⟩) fun row hrow => ?_
  refine ⟨hs.covered hrow fun step hstep hlt => ?_, fun hstatus => hdb.approved _ _ hrow hstatus⟩
  exact hs.upTo hr hstep (Int.lt_add_one_iff.1 hlt)

theorem Approvals.writeApproved (hdb : Approvals db) (hs : Sound db pending)
    (hr : Reached db pending.instanceId pending.step) (hlast : isLastStep pending = true)
    (now : Time) : Approvals (updated db pending (setApproved now)).1 := by
  refine hdb.update (fun row => ⟨rfl, rfl⟩) fun row hrow => ?_
  refine ⟨hdb.passed _ _ hrow, fun _ => hs.covered hrow fun step hstep _ => ?_⟩
  obtain ⟨last, hsome, heq⟩ := (Option.any_eq_true _ _).1 hlast
  rw [beq_iff_eq] at heq
  exact hs.upTo hr hstep (heq ▸ pending.template.sequence_le_getLast hsome hstep)

theorem Approvals.writeRejected (hdb : Approvals db) (now : Time) :
    Approvals (updated db pending (setRejected now)).1 := by
  refine hdb.update (fun row => ⟨rfl, rfl⟩) fun row hrow => ?_
  refine ⟨hdb.passed _ _ hrow, fun hstatus => ?_⟩
  cases hstatus

theorem Sound.authorised (hs : Sound db pending)
    (hassert : assertApprover db pending.row.tenantId pending.step pending.userId = .ok ()) :
    Authorised db (pending.action .approve) := by
  obtain ⟨row, hrow, htemplate, htenant⟩ := hs.row
  refine ⟨row, pending.template, pending.step, hrow, ?_, hs.step, rfl, ?_⟩
  · rw [htemplate]
    exact hs.template
  · rw [htenant]
    exact hassert

end Writes

/-! ### Runs -/

theorem callOk_proceed {α : Type} {db : WorkflowDb} {outcome : Except WorkflowError α}
    {next : α → WorkflowThread} (h : ∀ a, outcome = .ok a → CallOk db (next a)) :
    CallOk db (proceed outcome next) := by
  cases outcome with
  | error e => trivial
  | ok a => exact h a rfl

theorem callOk_updated (db : WorkflowDb) (pending : PendingReview)
    (f : WorkflowInstance → WorkflowInstance) :
    CallOk (updated db pending f).1 (updated db pending f).2 := by
  unfold updated
  cases db.instances[pending.instanceId]? <;> trivial

theorem callOk_afterCount {db : WorkflowDb} {pending : PendingReview} (hs : Sound db pending) :
    CallOk db (afterCount db pending) := by
  unfold afterCount
  split_ifs with hcount hlast
  · exact ⟨hs, hcount, hlast⟩
  · exact ⟨hs, hcount⟩
  · trivial

theorem perform_ok {db : WorkflowDb} {thread : WorkflowThread} (now : Time)
    (hdb : Approvals db) (hc : CallOk db thread) :
    Approvals (thread.perform db now).1 ∧
      CallOk (thread.perform db now).1 (thread.perform db now).2 := by
  cases thread with
  | readTemplate request =>
    exact ⟨hdb, callOk_proceed fun _ h => findTemplate_eq_ok h⟩
  | checkActive request templateId firstStep =>
    exact ⟨hdb, callOk_proceed fun _ _ => hc⟩
  | createInstance request templateId firstStep => exact ⟨hdb.createInstance hc, trivial⟩
  | recordSubmit request instanceId row =>
    refine ⟨hdb.createAction fun hkind => ?_, trivial⟩
    cases hkind
  | readForApproval review =>
    exact ⟨hdb, callOk_proceed fun _ h => (readPending_eq_ok h).sound hdb⟩
  | checkApprover pending =>
    exact ⟨hdb, callOk_proceed fun _ h => ⟨hc, h⟩⟩
  | checkExisting pending => exact ⟨hdb, callOk_proceed fun _ _ => hc⟩
  | recordApproval pending =>
    refine ⟨hdb.createAction fun _ => hc.1.authorised hc.2, ?_⟩
    exact hc.1.later (Later.createAction db _)
  | countApprovals pending => exact ⟨hdb, callOk_afterCount hc⟩
  | writeApproved pending =>
    exact ⟨hdb.writeApproved hc.1 hc.2.1 hc.2.2 now, callOk_updated db pending _⟩
  | writeNextStep pending =>
    exact ⟨hdb.writeNextStep hc.1 hc.2, callOk_updated db pending _⟩
  | readForRejection review => exact ⟨hdb, callOk_proceed fun _ _ => trivial⟩
  | checkRejecter pending => exact ⟨hdb, callOk_proceed fun _ _ => trivial⟩
  | recordRejection pending =>
    refine ⟨hdb.createAction fun hkind => ?_, trivial⟩
    cases hkind
  | writeRejected pending => exact ⟨hdb.writeRejected now, callOk_updated db pending _⟩
  | returned row => exact ⟨hdb, trivial⟩
  | thrown e => exact ⟨hdb, trivial⟩

theorem advance_ok {db : WorkflowDb} {thread : WorkflowThread} (answer : Option Time)
    (hdb : Approvals db) (hc : CallOk db thread) :
    Approvals (thread.advance db answer).1 ∧
      CallOk (thread.advance db answer).1 (thread.advance db answer).2 := by
  cases answer with
  | some now => exact perform_ok now hdb hc
  | none =>
    unfold WorkflowThread.advance
    dsimp only
    split_ifs
    · exact ⟨hdb, hc⟩
    · exact ⟨hdb, trivial⟩

def approvalOutline : Outline WorkflowDb WorkflowThread where
  inv := Approvals
  asserts := CallOk
  pair _ _ := True
  symm _ _ _ := trivial

theorem approvalOutline_next {cfg : WorkflowConfig} {action : WorkflowStepAction}
    (h : approvalOutline.Holds cfg) : approvalOutline.Holds (workflowProgram.next cfg action) := by
  apply Outline.Holds.next (G := fun _ _ => True) _ _ _ h trivial
  · intro cfg call thread _ _ hstart
    obtain rfl := Option.some.inj hstart
    exact ⟨by cases call <;> trivial, fun _ _ _ => trivial⟩
  · intro cfg i answer thread hholds _ hthread
    obtain ⟨hdb, hc⟩ := advance_ok answer hholds.inv (hholds.asserts i thread hthread)
    refine ⟨hdb, hc, fun j other _ hother => ⟨?_, trivial⟩⟩
    exact (hholds.asserts j other hother).later (later_advance _ _ _)
  · intro _ event
    exact event.elim

/-- The tables before the first workflow is started. -/
def noWorkflows (users : List User) (templates : List WorkflowTemplate) : WorkflowDb where
  users := users
  templates := templates
  instances := []
  actions := []

/-- The tables after some steps of some calls. -/
def workflowsAfter (users : List User) (templates : List WorkflowTemplate)
    (actions : List WorkflowStepAction) : WorkflowDb :=
  (run workflowProgram.next ⟨noWorkflows users templates, []⟩ actions).shared

theorem approvals_workflowsAfter (users : List User) (templates : List WorkflowTemplate)
    (actions : List WorkflowStepAction) : Approvals (workflowsAfter users templates actions) := by
  have hstart : Approvals (noWorkflows users templates) := by
    refine ⟨?_, ?_, ?_⟩
    · intro id row hrow
      simp [noWorkflows] at hrow
    · intro id row hrow
      simp [noWorkflows] at hrow
    · intro action haction
      cases haction
  exact (run_invariant (fun _ _ h => approvalOutline_next h)
    (Outline.holds_initial hstart) actions).inv

/-- Each step of an approved instance has enough distinct users, authorised for it, who have an
approval of it on record. -/
def ApprovedLaw (db : WorkflowDb) : Prop :=
  ∀ id row, db.instances[id]? = some row → row.status = .approved →
    ∃ template, db.templates[row.templateId]? = some template ∧
      ∀ step ∈ template.steps, ∃ users : Finset Id,
        step.requiredApprovals ≤ (users.card : ℤ) ∧ ∀ userId ∈ users,
          assertApprover db row.tenantId step userId = .ok () ∧
            (⟨id, step.sequence, .approve, userId⟩ : WorkflowAction) ∈ db.actions

theorem Approvals.exists_users {db : WorkflowDb} (hdb : Approvals db) {id : Id}
    {row : WorkflowInstance} (hrow : db.instances[id]? = some row) {template : WorkflowTemplate}
    (htemplate : db.templates[row.templateId]? = some template) {step : WorkflowStep}
    (hstep : step ∈ template.steps) (hreached : Reached db id step) :
    ∃ users : Finset Id, step.requiredApprovals ≤ (users.card : ℤ) ∧ ∀ userId ∈ users,
      assertApprover db row.tenantId step userId = .ok () ∧
        (⟨id, step.sequence, .approve, userId⟩ : WorkflowAction) ∈ db.actions := by
  refine ⟨uniqueApprovals db id step, hreached, fun userId huser => ?_⟩
  have haction := mem_uniqueApprovals.1 huser
  refine ⟨?_, haction⟩
  obtain ⟨row', template', step', hrow', htemplate', hstep', hsequence, hassert⟩ :=
    hdb.authorised _ haction rfl
  rw [hrow] at hrow'
  obtain rfl := Option.some.inj hrow'
  rw [htemplate] at htemplate'
  obtain rfl := Option.some.inj htemplate'
  rwa [template.eq_of_sequence_eq hstep hstep' hsequence.symm]

theorem Approvals.approvedLaw {db : WorkflowDb} (hdb : Approvals db) : ApprovedLaw db := by
  intro id row hrow hstatus
  obtain ⟨template, htemplate, hreached⟩ := hdb.approved id row hrow hstatus
  exact ⟨template, htemplate, fun step hstep =>
    hdb.exists_users hrow htemplate hstep (hreached step hstep trivial)⟩

/-- Whatever starts, approvals and rejections interleave, what is approved was approved at every
step. -/
theorem approvedLaw_workflowsAfter (users : List User) (templates : List WorkflowTemplate)
    (actions : List WorkflowStepAction) : ApprovedLaw (workflowsAfter users templates actions) :=
  (approvals_workflowsAfter users templates actions).approvedLaw

/-- Each step below the current one of an instance was approved in the same way. -/
def PassedLaw (db : WorkflowDb) : Prop :=
  ∀ id row, db.instances[id]? = some row → ∃ template, db.templates[row.templateId]? = some template ∧
    ∀ step ∈ template.steps, step.sequence < row.currentStep → ∃ users : Finset Id,
      step.requiredApprovals ≤ (users.card : ℤ) ∧ ∀ userId ∈ users,
        assertApprover db row.tenantId step userId = .ok () ∧
          (⟨id, step.sequence, .approve, userId⟩ : WorkflowAction) ∈ db.actions

/-- Whatever calls interleave, no instance gets past a step without the step's approvals. -/
theorem passedLaw_workflowsAfter (users : List User) (templates : List WorkflowTemplate)
    (actions : List WorkflowStepAction) : PassedLaw (workflowsAfter users templates actions) := by
  have happrovals := approvals_workflowsAfter users templates actions
  intro id row hrow
  obtain ⟨template, htemplate, hreached⟩ := happrovals.passed id row hrow
  exact ⟨template, htemplate, fun step hstep hpassed =>
    happrovals.exists_users hrow htemplate hstep (hreached step hstep hpassed)⟩

end Forecast.Workflow
