import Forecast.Auth.SessionLaw

/-!
# Password resets by one-time codes

A request marks the user's unused codes as used in one statement and inserts a new code in the
next. A reset finds its code in one statement and changes the password in a later one, which does
not ask whether the code is still unused. As long as no request inserts a code beside an unused
one and no reset spends a code that was used since it was found, a code is good from its issue to
the next issue or change of the user's password, and for one change.
-/

open KeyedTable ThreadPool Runs

namespace Forecast.Auth

structure ForgotPasswordDto where
  tenantSlug : Option String
  email : String

inductive ResetEvent where
  | issued (userId tokenId : Id)
  /-- A password was changed with a code. -/
  | changed (userId tokenId : Id)
deriving DecidableEq

structure ResetState where
  auth : AuthState
  /-- What has happened, the latest first. -/
  history : List ResetEvent := []

/-- `otp` is the code that a request will draw. -/
inductive ResetCall where
  | requestPasswordReset (dto : ForgotPasswordDto) (otp : String)
  | resetPassword (dto : ResetPasswordDto)

inductive ResetThread where
  | requestTenant (dto : ForgotPasswordDto) (otp : String)
  | requestUser (dto : ForgotPasswordDto) (tenantId : Id) (otp : String)
  | requestInvalidate (userId : Id) (otpHash : String) (expiresAt : Millis)
  | requestCreate (userId : Id) (otpHash : String) (expiresAt : Millis)
  | reset (thread : AuthThread)

def ResetCall.start (config : AuthConfig) : ResetCall → ResetThread
  | .requestPasswordReset dto otp =>
    if (dto.tenantSlug.filter (· ≠ "")).isSome then .requestTenant dto otp else .reset .returned
  | .resetPassword dto => .reset ((AuthCall.resetPassword dto).start config)

namespace AuthState

variable (s : AuthState)

def freshResetId : Id := freshId (s.passwordResetTokens.map PasswordResetToken.id)

/-- Invalidates the unused codes of the user. -/
def invalidateResets (userId : Id) : AuthState :=
  { s with
    passwordResetTokens := s.passwordResetTokens.map fun row =>
      if row.userId = userId ∧ row.usedAt = none then { row with usedAt := some s.now } else row }

/-- The insert of a code, none when the hash is taken. -/
def createReset (userId : Id) (otpHash : String) (expiresAt : Millis) : Option AuthState :=
  if otpHash ∈ s.passwordResetTokens.map PasswordResetToken.tokenHash then none
  else some
    { s with
      passwordResetTokens := s.passwordResetTokens ++
        [{ id := s.freshResetId
           userId := userId
           tokenHash := otpHash
           expiresAt := expiresAt }] }

end AuthState

/-- What the write of a reset adds to the history. -/
def AuthThread.resetEvents : AuthThread → List ResetEvent
  | resetWrite _ userId tokenRecordId => [.changed userId tokenRecordId]
  | _ => []

namespace ResetThread

variable (config : AuthConfig) (expiresInMinutes : ℕ) (s : ResetState)

/-- The statement of a thread that the process survives. -/
def succeed : ResetThread → ResetState × ResetThread
  | requestTenant dto otp =>
    match s.auth.findTenantByWorkspace config dto.tenantSlug with
    | none => (s, .reset .returned)
    | some tenant => (s, .requestUser dto tenant.id otp)
  | requestUser dto tenantId otp =>
    match s.auth.findUser tenantId (config.toLowerCase dto.email) with
    | none => (s, .reset .returned)
    | some user =>
      if user.status ≠ .active then (s, .reset .returned)
      else (s, .requestInvalidate user.id (config.sha256 otp)
        (s.auth.now + expiresInMinutes * 60000))
  | requestInvalidate userId otpHash expiresAt =>
    ({ s with auth := s.auth.invalidateResets userId }, .requestCreate userId otpHash expiresAt)
  | requestCreate userId otpHash expiresAt =>
    match s.auth.createReset userId otpHash expiresAt with
    | none => (s, .reset (.thrown .refused))
    | some auth => (⟨auth, .issued userId s.auth.freshResetId :: s.history⟩, .reset .returned)
  | reset thread =>
    (⟨(thread.succeed config s.auth).1, thread.resetEvents ++ s.history⟩,
      .reset (thread.succeed config s.auth).2)

def advance (s : ResetState) (t : ResetThread) : AuthFault → ResetState × ResetThread
  | .none => t.succeed config expiresInMinutes s
  | .crash => (s, .reset (.thrown .crashed))

end ResetThread

/-- The surroundings let time pass. -/
def resetProgram (config : AuthConfig) (expiresInMinutes : ℕ) :
    Program ResetState ResetThread ResetCall AuthFault ℕ where
  start _ _ call := some (call.start config)
  advance := ResetThread.advance config expiresInMinutes
  env s elapsed := { s with auth := { s.auth with now := s.auth.now + elapsed } }

abbrev ResetPool := Config ResetState ResetThread

abbrev ResetAction := Action ResetCall AuthFault ℕ

/-! ### The law -/

/-- The code of the user that a reset may use: the one issued last, unless the password was
changed since. -/
def openCode : List ResetEvent → Id → Option Id
  | [], _ => none
  | .issued v tokenId :: past, userId => if userId = v then some tokenId else openCode past userId
  | .changed v _ :: past, userId => if userId = v then none else openCode past userId

/-- Every change of a password was made with the code that was open. -/
def Accepted : List ResetEvent → Prop
  | [] => True
  | .issued _ _ :: past => Accepted past
  | .changed userId tokenId :: past => openCode past userId = some tokenId ∧ Accepted past

structure ResetLaw (history : List ResetEvent) : Prop where
  once : ∀ userId tokenId, history.count (.changed userId tokenId) ≤ 1
  latest : Accepted history

/-- What a thread must find before its next statement. -/
def ResetThread.FindsCode (s : AuthState) : ResetThread → Prop
  | requestCreate userId _ _ =>
    ∀ row ∈ s.passwordResetTokens, row.userId = userId → row.usedAt ≠ none
  | reset (.resetWrite _ userId tokenRecordId) =>
    ∃ row ∈ s.passwordResetTokens,
      row.id = tokenRecordId ∧ row.userId = userId ∧ row.usedAt = none
  | _ => True

/-- A request inserts its code when no other is unused, and a reset writes while the code that it
found is unused. -/
def ResetsFindCodes (pool : ResetPool) : ResetAction → Prop
  | .step i .none => ∀ t ∈ pool.threads[i]?, t.FindsCode pool.shared.auth
  | _ => True

instance (s : AuthState) (t : ResetThread) : Decidable (t.FindsCode s) := by
  unfold ResetThread.FindsCode
  split <;> infer_instance

instance (pool : ResetPool) : DecidablePred (ResetsFindCodes pool)
  | .step i .none => inferInstanceAs (Decidable (∀ t ∈ pool.threads[i]?, _))
  | .step _ .crash | .spawn _ | .env _ => isTrue trivial

/-! ### Histories -/

def ResetEvent.issuedId : ResetEvent → Option Id
  | issued _ tokenId => some tokenId
  | changed _ _ => none

section History

variable {past : List ResetEvent} {userId tokenId : Id}

theorem filterMap_issued :
    (.issued userId tokenId :: past).filterMap ResetEvent.issuedId =
      tokenId :: past.filterMap ResetEvent.issuedId :=
  rfl

theorem issued_mem_of_openCode (h : openCode past userId = some tokenId) :
    .issued userId tokenId ∈ past := by
  induction past with
  | nil => cases h
  | cons e past ih =>
    cases e with
    | issued v t =>
      rw [openCode] at h
      split_ifs at h with hv
      · obtain rfl := Option.some.inj h
        rw [hv]
        exact List.mem_cons_self
      · exact List.mem_cons_of_mem _ (ih h)
    | changed v t =>
      rw [openCode] at h
      split_ifs at h
      exact List.mem_cons_of_mem _ (ih h)

theorem Accepted.issued_mem (h : Accepted past) (hchanged : .changed userId tokenId ∈ past) :
    .issued userId tokenId ∈ past := by
  induction past with
  | nil => cases hchanged
  | cons e past ih =>
    cases e with
    | issued v t =>
      rcases List.mem_cons.1 hchanged with heq | hchanged
      · cases heq
      · exact List.mem_cons_of_mem _ (ih h hchanged)
    | changed v t =>
      rcases List.mem_cons.1 hchanged with heq | hchanged
      · cases heq
        exact List.mem_cons_of_mem _ (issued_mem_of_openCode h.1)
      · exact List.mem_cons_of_mem _ (ih h.2 hchanged)

theorem Accepted.changed_notMem (h : Accepted past)
    (hnodup : (past.filterMap ResetEvent.issuedId).Nodup)
    (hopen : openCode past userId = some tokenId) : .changed userId tokenId ∉ past := by
  induction past with
  | nil => exact List.not_mem_nil
  | cons e past ih =>
    intro hchanged
    cases e with
    | issued v t =>
      rw [filterMap_issued, List.nodup_cons] at hnodup
      have hpast : .changed userId tokenId ∈ past := by
        rcases List.mem_cons.1 hchanged with heq | hpast
        · cases heq
        · exact hpast
      rw [openCode] at hopen
      split_ifs at hopen with hv
      · obtain rfl := Option.some.inj hopen
        exact hnodup.1 (List.mem_filterMap.2 ⟨_, Accepted.issued_mem h hpast, rfl⟩)
      · exact ih h hnodup.2 hopen hpast
    | changed v t =>
      rw [openCode] at hopen
      split_ifs at hopen with hv
      rcases List.mem_cons.1 hchanged with heq | hpast
      · cases heq
        exact hv rfl
      · exact ih h.2 hnodup hopen hpast

theorem Accepted.count_le_one (h : Accepted past)
    (hnodup : (past.filterMap ResetEvent.issuedId).Nodup) :
    past.count (.changed userId tokenId) ≤ 1 := by
  induction past with
  | nil => exact Nat.zero_le _
  | cons e past ih =>
    cases e with
    | issued v t =>
      rw [filterMap_issued, List.nodup_cons] at hnodup
      rw [List.count_cons_of_ne (by simp)]
      exact ih h hnodup.2
    | changed v t =>
      by_cases heq : (⟨v, t⟩ : Id × Id) = ⟨userId, tokenId⟩
      · obtain ⟨rfl, rfl⟩ := Prod.mk.injEq _ _ _ _ ▸ heq
        rw [List.count_cons_self, List.count_eq_zero.2 (h.2.changed_notMem hnodup h.1)]
      · rw [List.count_cons_of_ne (by rintro h'; cases h'; exact heq rfl)]
        exact ih h.2 hnodup

end History

/-! ### The states of a run -/

structure ResetState.InOrder (s : ResetState) : Prop where
  keyed : (s.auth.passwordResetTokens.map PasswordResetToken.id).Nodup
  /-- An unused code is the open one of its user. -/
  opened : ∀ row ∈ s.auth.passwordResetTokens, row.usedAt = none →
    openCode s.history row.userId = some row.id
  known : ∀ tokenId ∈ s.history.filterMap ResetEvent.issuedId,
    tokenId ∈ s.auth.passwordResetTokens.map PasswordResetToken.id
  issuedOnce : (s.history.filterMap ResetEvent.issuedId).Nodup
  accepted : Accepted s.history

namespace ResetState

variable {s : ResetState}

theorem InOrder.resetLaw (h : s.InOrder) : ResetLaw s.history :=
  ⟨fun _ _ => h.accepted.count_le_one h.issuedOnce, h.accepted⟩

/-- Codes that are marked as used, and whose history stays as it was. -/
theorem InOrder.mark (h : s.InOrder) {auth : AuthState} {p : PasswordResetToken → Prop}
    [DecidablePred p] {now : Millis} (htokens : auth.passwordResetTokens =
      s.auth.passwordResetTokens.map fun row =>
        if p row then { row with usedAt := some now } else row) :
    InOrder ⟨auth, s.history⟩ := by
  have hids : auth.passwordResetTokens.map PasswordResetToken.id =
      s.auth.passwordResetTokens.map PasswordResetToken.id := by
    rw [htokens, List.map_map]
    refine List.map_congr_left fun row _ => ?_
    by_cases hp : p row
    · simp [hp]
    · simp [hp]
  refine ⟨hids ▸ h.keyed, fun row hrow hunused => ?_, fun t ht => hids ▸ h.known t ht,
    h.issuedOnce, h.accepted⟩
  rw [htokens] at hrow
  obtain ⟨old, hold, rfl⟩ := List.mem_map.1 hrow
  by_cases hp : p old
  · simp [hp] at hunused
  · rw [if_neg hp] at hunused ⊢
    exact h.opened old hold hunused

/-- What leaves the codes and the history alone. -/
theorem InOrder.of_tokens_eq (h : s.InOrder) {auth : AuthState}
    (htokens : auth.passwordResetTokens = s.auth.passwordResetTokens) :
    InOrder ⟨auth, s.history⟩ :=
  ⟨htokens ▸ h.keyed, htokens ▸ h.opened, htokens ▸ h.known, h.issuedOnce, h.accepted⟩

theorem InOrder.issue (h : s.InOrder) {auth : AuthState} {userId : Id} {otpHash : String}
    {expiresAt : Millis} (hcreate : s.auth.createReset userId otpHash expiresAt = some auth)
    (hnone : ∀ row ∈ s.auth.passwordResetTokens, row.userId = userId → row.usedAt ≠ none) :
    InOrder ⟨auth, .issued userId s.auth.freshResetId :: s.history⟩ := by
  unfold AuthState.createReset at hcreate
  split_ifs at hcreate
  rw [← Option.some.inj hcreate]
  have hfresh : s.auth.freshResetId ∉ s.auth.passwordResetTokens.map PasswordResetToken.id :=
    KeyedTable.freshId_not_mem _
  constructor
  · rw [List.map_append, List.map_singleton, ← List.concat_eq_append]
    exact h.keyed.concat hfresh
  · intro row hrow hunused
    rw [openCode]
    rcases List.mem_append.1 hrow with hrow | hrow
    · rw [if_neg fun huser => hnone row hrow huser hunused]
      exact h.opened row hrow hunused
    · rw [List.mem_singleton.1 hrow, if_pos rfl]
  · intro tokenId ht
    rw [filterMap_issued] at ht
    rw [List.map_append, List.map_singleton, List.mem_append, List.mem_singleton]
    rcases List.mem_cons.1 ht with rfl | ht
    · exact .inr rfl
    · exact .inl (h.known tokenId ht)
  · rw [filterMap_issued]
    exact List.nodup_cons.2 ⟨fun hmem => hfresh (h.known _ hmem), h.issuedOnce⟩
  · exact h.accepted

/-- The write of a reset whose code is unused. -/
theorem InOrder.change (h : s.InOrder) (config : AuthConfig) {dto : ResetPasswordDto}
    {userId tokenRecordId : Id} (hfound : ∃ row ∈ s.auth.passwordResetTokens,
      row.id = tokenRecordId ∧ row.userId = userId ∧ row.usedAt = none) :
    InOrder ⟨((AuthThread.resetWrite dto userId tokenRecordId).succeed config s.auth).1,
      .changed userId tokenRecordId :: s.history⟩ := by
  obtain ⟨row, hrow, rfl, rfl, hunused⟩ := hfound
  have hmarked := @InOrder.mark s h
    ((AuthThread.resetWrite dto row.userId row.id).succeed config s.auth).1
    (fun other => other.id = row.id) _ s.auth.now rfl
  refine ⟨hmarked.keyed, fun other hother hotherUnused => ?_, hmarked.known, h.issuedOnce,
    h.opened row hrow hunused, h.accepted⟩
  have hopen := hmarked.opened other hother hotherUnused
  have hid : other.id ≠ row.id := by
    intro hid
    obtain ⟨old, -, rfl⟩ := List.mem_map.1 hother
    by_cases hold : old.id = row.id
    · simp [hold] at hotherUnused
    · simp [hold] at hid
  rw [openCode]
  split_ifs with huser
  · -- the open code of the user is the one that is spent
    rw [huser, h.opened row hrow hunused] at hopen
    exact absurd (Option.some.inj hopen).symm hid
  · exact hopen

end ResetState

theorem passwordResetTokens_createToken {config : AuthConfig} {s s' : AuthState}
    {tenantId userId : Id} {text : String}
    (h : s.createToken config tenantId userId text = some s') :
    s'.passwordResetTokens = s.passwordResetTokens := by
  simp only [AuthState.createToken] at h
  split_ifs at h
  rw [← Option.some.inj h]

/-- Only the write of a reset touches the codes. -/
theorem passwordResetTokens_succeed (config : AuthConfig) (s : AuthState) (t : AuthThread)
    (h : t.resetEvents = []) :
    (t.succeed config s).1.passwordResetTokens = s.passwordResetTokens := by
  cases t with
  | resetWrite dto userId tokenRecordId => cases h
  | loginCreate user random =>
    simp only [AuthThread.succeed]
    split
    · rfl
    · rename_i s' hcreate
      exact (passwordResetTokens_createToken hcreate :)
  | refreshCreate tokenRecord random =>
    simp only [AuthThread.succeed]
    split
    · rfl
    · rename_i s' hcreate
      exact (passwordResetTokens_createToken hcreate :)
  | logout userId text => cases text <;> rfl
  | loginTenant dto random =>
    simp only [AuthThread.succeed]
    repeat' split
    all_goals rfl
  | loginUser dto tenantId random =>
    simp only [AuthThread.succeed]
    split <;> rfl
  | failedLogin userId =>
    simp only [AuthThread.succeed]
    split <;> rfl
  | refreshFind refreshToken random =>
    simp only [AuthThread.succeed]
    split <;> rfl
  | changeFind userId currentPassword newPassword =>
    simp only [AuthThread.succeed]
    repeat' split
    all_goals rfl
  | resetTenant dto =>
    simp only [AuthThread.succeed]
    split <;> rfl
  | resetUser dto tenantId =>
    simp only [AuthThread.succeed]
    split <;> rfl
  | resetOtp dto userId =>
    simp only [AuthThread.succeed]
    split <;> rfl
  | countFailure userId newFailedCount => rfl
  | loginUpdate user random => rfl
  | loginRevoke user random => rfl
  | refreshRevoke tokenRecord random => rfl
  | changeUpdate userId newPassword => rfl
  | changeRevoke userId => rfl
  | returned => rfl
  | thrown error => rfl

theorem inOrder_succeed (config : AuthConfig) (expiresInMinutes : ℕ) {s : ResetState}
    (h : s.InOrder) {t : ResetThread} (hfinds : t.FindsCode s.auth) :
    (t.succeed config expiresInMinutes s).1.InOrder := by
  cases t with
  | requestTenant dto otp =>
    simp only [ResetThread.succeed]
    split <;> exact h
  | requestUser dto tenantId otp =>
    simp only [ResetThread.succeed]
    repeat' split
    all_goals exact h
  | requestInvalidate userId otpHash expiresAt => exact h.mark rfl
  | requestCreate userId otpHash expiresAt =>
    simp only [ResetThread.succeed]
    split
    · exact h
    · exact h.issue (by assumption) hfinds
  | reset thread =>
    by_cases hwrite : thread.resetEvents = []
    · simp only [ResetThread.succeed, hwrite, List.nil_append]
      exact h.of_tokens_eq (passwordResetTokens_succeed config s.auth thread hwrite)
    · cases thread with
      | resetWrite dto userId tokenRecordId => exact h.change config hfinds
      | _ => exact absurd rfl hwrite

/-- From a state without codes, a run in which requests and resets find what they must keeps the
law in every state that it reaches. -/
theorem resetLaw_of_resetsFindCodes (config : AuthConfig) (expiresInMinutes : ℕ) (now : Millis)
    (tenants : List Tenant) (users : List User) (actions : List ResetAction)
    (h : Always (resetProgram config expiresInMinutes).next ResetsFindCodes
      ⟨⟨{ now := now, tenants := tenants, users := users }, []⟩, []⟩ actions) (k : ℕ) :
    ResetLaw (stateAt (resetProgram config expiresInMinutes).next
      ⟨⟨{ now := now, tenants := tenants, users := users }, []⟩, []⟩ actions k).shared.history := by
  have hstart : ResetState.InOrder ⟨{ now := now, tenants := tenants, users := users }, []⟩ :=
    ⟨List.nodup_nil, by simp, by simp, List.nodup_nil, trivial⟩
  have hinv := h.invariant_at (I := fun pool : ResetPool => pool.shared.InOrder)
    (fun pool action hpool hgood => Program.shared_next _
      (fun cfg i fault t hs hgood ht => ?_) (fun cfg elapsed hs _ => hs.of_tokens_eq rfl)
      hpool hgood) hstart k
  · exact hinv.resetLaw
  · cases fault with
    | none => exact inOrder_succeed config expiresInMinutes hs (hgood t ht)
    | crash => exact hs

/-- The code that is drawn is `otp`. -/
def annAsks (otp : String) : ResetAction :=
  .spawn (.requestPasswordReset ⟨some "acme", "ann"⟩ otp)

def annResets (otp newPassword : String) : ResetAction :=
  .spawn (.resetPassword ⟨some "acme", "ann", otp, newPassword⟩)

def resetSteps (i n : ℕ) : List ResetAction := List.replicate n (.step i .none)

def oneAccount : ResetPool := ⟨⟨{ now := 0, tenants := oneTenant, users := oneUser }, []⟩, []⟩

theorem resetLaw_askedAndReset :
    (stateAt (resetProgram plainConfig 10).next oneAccount
      (annAsks "123" :: resetSteps 0 4 ++ annResets "123" "new" :: resetSteps 1 4)
      10).shared.history = [.changed 7 1, .issued 7 1] ∧
    ResetLaw (stateAt (resetProgram plainConfig 10).next oneAccount
      (annAsks "123" :: resetSteps 0 4 ++ annResets "123" "new" :: resetSteps 1 4)
      10).shared.history :=
  ⟨by decide +kernel, resetLaw_of_resetsFindCodes plainConfig 10 0 oneTenant oneUser _
    (by decide +kernel) 10⟩

/-- Two resets find the same code before either changes the password. -/
theorem not_resetLaw_resetTwice :
    ¬ResetLaw (stateAt (resetProgram plainConfig 10).next oneAccount
      (annAsks "123" :: resetSteps 0 4 ++ annResets "123" "new" :: annResets "123" "newer" ::
        resetSteps 1 3 ++ resetSteps 2 4 ++ resetSteps 1 1) 15).shared.history := by
  intro h
  have honce := h.once 7 1
  revert honce
  decide +kernel

end Forecast.Auth
