import Mathlib.Order.Interval.Finset.Nat
import Forecast.Auth.SessionLaw

/-!
# Wrong passwords and locked accounts

A login evaluates the password in one step and counts a failure, or clears the count, in
later ones. The fifth failure sets a deadline and the status `LOCKED`; a later login and a
password reset clear the deadline only. As long as the logins of an account take turns, no
deadline passes and no locked account is reset, five failures lock the account and an
account that is not locked can be entered.
-/

open ThreadPool Runs

namespace Forecast.Auth

namespace AuthThread

/-- The user whose password was found wrong and whose failure is not written yet. -/
def failing : AuthThread → Option Id
  | failedLogin userId => some userId
  | countFailure userId _ => some userId
  | _ => none

/-- The user whose password was accepted and whose login is not written yet. -/
def accepting : AuthThread → Option Id
  | loginUpdate user _ => some user.id
  | _ => none

/-- The user whose failures the next step forgets. -/
def clearing : AuthThread → Option Id
  | loginUpdate user _ => some user.id
  | resetWrite _ userId _ => some userId
  | _ => none

/-- The user whose password has just been found wrong. -/
def foundWrong : AuthThread → Option Id
  | failedLogin userId => some userId
  | _ => none

def Attempting (t : AuthThread) (userId : Id) : Prop :=
  t.failing = some userId ∨ t.accepting = some userId

instance (t : AuthThread) (userId : Id) : Decidable (t.Attempting userId) :=
  inferInstanceAs (Decidable (_ ∨ _))

/-- No failure of one of the two is written while the other attempts the same account. -/
def Apart (t u : AuthThread) : Prop :=
  (∀ userId ∈ t.failing, ¬u.Attempting userId) ∧ ∀ userId ∈ u.failing, ¬t.Attempting userId

instance (t u : AuthThread) : Decidable (t.Apart u) := inferInstanceAs (Decidable (_ ∧ _))

/-- What a thread must find before its next step. -/
def TakesLoginTurn (config : AuthConfig) (pool : AuthPool) : AuthThread → Prop
  | loginUser dto tenantId random =>
    ∀ u ∈ pool.threads, ((loginUser dto tenantId random).succeed config pool.shared).2.Apart u
  | resetWrite _ userId _ =>
    ∀ user ∈ pool.shared.users, user.id = userId → user.status ≠ .locked
  | _ => True

instance (config : AuthConfig) (pool : AuthPool) :
    DecidablePred (TakesLoginTurn config pool)
  | loginUser _ _ _ => inferInstanceAs (Decidable (∀ u ∈ pool.threads, _))
  | resetWrite _ _ _ => inferInstanceAs (Decidable (∀ user ∈ pool.shared.users, _))
  | loginTenant _ _ => isTrue trivial
  | failedLogin _ => isTrue trivial
  | countFailure _ _ => isTrue trivial
  | loginUpdate _ _ => isTrue trivial
  | loginRevoke _ _ => isTrue trivial
  | loginCreate _ _ => isTrue trivial
  | refreshFind _ _ => isTrue trivial
  | refreshRevoke _ _ => isTrue trivial
  | refreshCreate _ _ => isTrue trivial
  | logout _ _ => isTrue trivial
  | changeFind _ _ _ => isTrue trivial
  | changeUpdate _ _ => isTrue trivial
  | changeRevoke _ => isTrue trivial
  | resetTenant _ => isTrue trivial
  | resetUser _ _ => isTrue trivial
  | resetOtp _ _ => isTrue trivial
  | returned => isTrue trivial
  | thrown _ => isTrue trivial

end AuthThread

/-- The logins of an account take turns, a failure that was found is written, no locked account
is reset and no deadline passes. -/
def LoginsTakeTurns (config : AuthConfig) (pool : AuthPool) : AuthAction → Prop
  | .step i .none => ∀ t ∈ pool.threads[i]?, t.TakesLoginTurn config pool
  | .step i .crash => ∀ t ∈ pool.threads[i]?, t.failing = none
  | .env (.pass elapsed) => ∀ user ∈ pool.shared.users, ∀ deadline ∈ user.lockedUntil,
      pool.shared.now < deadline → pool.shared.now + elapsed < deadline
  | .env (.requestPasswordReset _ _ _) => True
  | .spawn _ => True

instance (config : AuthConfig) (pool : AuthPool) : DecidablePred (LoginsTakeTurns config pool)
  | .step i .none => inferInstanceAs (Decidable (∀ t ∈ pool.threads[i]?, _))
  | .step i .crash => inferInstanceAs (Decidable (∀ t ∈ pool.threads[i]?, _))
  | .env (.pass _) =>
    inferInstanceAs (Decidable (∀ user ∈ pool.shared.users, ∀ deadline ∈ user.lockedUntil, _))
  | .env (.requestPasswordReset _ _ _) => isTrue trivial
  | .spawn _ => isTrue trivial

/-! ### The accounts of a state -/

/-- The account is open with fewer than five failures, or locked until a time to come. -/
def User.InOrder (now : Millis) (user : User) : Prop :=
  user.lockedUntil = none ∧ user.failedLoginCount < 5 ∧ user.status ≠ .locked ∨
    user.status = .locked ∧ ∃ deadline, user.lockedUntil = some deadline ∧ now < deadline

namespace AuthState

structure AccountsInOrder (s : AuthState) : Prop where
  keyed : (s.users.map User.id).Nodup
  rows : ∀ user ∈ s.users, user.InOrder s.now

/-- The account is locked at the time. -/
def Locked (s : AuthState) (userId : Id) : Prop :=
  ∃ user ∈ s.users, user.id = userId ∧ user.lockedUntil.any (s.now < ·)

instance (s : AuthState) (userId : Id) : Decidable (s.Locked userId) :=
  inferInstanceAs (Decidable (∃ user ∈ s.users, _))

/-- The accounts with the id are open. -/
def Open (s : AuthState) (userId : Id) : Prop :=
  ∀ user ∈ s.users, user.id = userId → user.lockedUntil = none

variable {s s' : AuthState} {userId : Id}

theorem mem_updateUser {f : User → User} {user' : User} :
    user' ∈ (s.updateUser userId f).users ↔
      (∃ user ∈ s.users, user.id = userId ∧ user' = f user) ∨
        user' ∈ s.users ∧ user'.id ≠ userId := by
  simp only [updateUser, List.mem_map]
  constructor
  · rintro ⟨user, hmem, rfl⟩
    by_cases hid : user.id = userId
    · rw [if_pos hid]
      exact Or.inl ⟨user, hmem, hid, rfl⟩
    · rw [if_neg hid]
      exact Or.inr ⟨hmem, hid⟩
  · rintro (⟨user, hmem, hid, rfl⟩ | ⟨hmem, hid⟩)
    · exact ⟨user, hmem, if_pos hid⟩
    · exact ⟨user', hmem, if_neg hid⟩

theorem ids_updateUser {f : User → User} (hf : ∀ user, (f user).id = user.id) :
    (s.updateUser userId f).users.map User.id = s.users.map User.id := by
  simp only [updateUser, List.map_map]
  refine List.map_congr_left fun user _ => ?_
  by_cases hid : user.id = userId <;> simp [hid, hf]

theorem AccountsInOrder.updateUser (h : s.AccountsInOrder) {f : User → User}
    (hf : ∀ user, (f user).id = user.id)
    (hrow : ∀ user ∈ s.users, user.id = userId → (f user).InOrder s.now) :
    (s.updateUser userId f).AccountsInOrder where
  keyed := by
    rw [ids_updateUser hf]
    exact h.keyed
  rows user' hmem := by
    rcases mem_updateUser.1 hmem with ⟨user, huser, hid, rfl⟩ | ⟨huser, -⟩
    · exact hrow user huser hid
    · exact h.rows user' huser

/-- A step keeps the account unlocked and adds no failure. -/
def Spares (s s' : AuthState) (userId : Id) : Prop :=
  ∀ user' ∈ s'.users, user'.id = userId → ∃ user ∈ s.users, user.id = userId ∧
    (user.lockedUntil = none → user'.lockedUntil = none) ∧
      user'.failedLoginCount ≤ user.failedLoginCount

theorem spares_of_eq (h : s'.users = s.users) : s.Spares s' userId := by
  intro user' huser' hid
  rw [h] at huser'
  exact ⟨user', huser', hid, id, le_rfl⟩

theorem spares_updateUser {f : User → User} (hf : ∀ user, (f user).id = user.id) {other : Id}
    (hspares : other = userId → ∀ user,
      (user.lockedUntil = none → (f user).lockedUntil = none) ∧
        (f user).failedLoginCount ≤ user.failedLoginCount) :
    s.Spares (s.updateUser userId f) other := by
  intro user' huser' hother
  rcases mem_updateUser.1 huser' with ⟨user, huser, hid, rfl⟩ | ⟨huser, -⟩
  · have heq : other = userId := by rw [← hother, hf, hid]
    exact ⟨user, huser, hid.trans heq.symm, hspares heq user⟩
  · exact ⟨user', huser, hother, id, le_rfl⟩

theorem Open.spares (h : s.Open userId) (hspares : s.Spares s' userId) : s'.Open userId := by
  intro user' huser' hid
  obtain ⟨user, huser, hid', hopen, -⟩ := hspares user' huser' hid
  exact hopen (h user huser hid')

end AuthState

/-- What a thread knows of the account that it attempts. -/
def AuthThread.KnowsAccount (s : AuthState) : AuthThread → Prop
  | failedLogin userId => s.Open userId
  | countFailure userId newFailedCount => s.Open userId ∧
      ∀ user ∈ s.users, user.id = userId → user.failedLoginCount < newFailedCount
  | loginUpdate user _ => s.Open user.id
  | _ => True

namespace AuthThread

variable {s s' : AuthState} {t u : AuthThread}

theorem knowsAccount_of_idle (h : ∀ userId, ¬t.Attempting userId) : t.KnowsAccount s := by
  cases t with
  | failedLogin userId => exact absurd (Or.inl rfl) (h userId)
  | countFailure userId n => exact absurd (Or.inl rfl) (h userId)
  | loginUpdate user random => exact absurd (Or.inr rfl) (h user.id)
  | _ => trivial

theorem KnowsAccount.spares (h : t.KnowsAccount s)
    (hspares : ∀ userId, t.Attempting userId → s.Spares s' userId) : t.KnowsAccount s' := by
  cases t with
  | failedLogin userId => exact h.spares (hspares userId (Or.inl rfl))
  | countFailure userId n =>
    have hsame := hspares userId (Or.inl rfl)
    refine ⟨h.1.spares hsame, fun user' huser' hid => ?_⟩
    obtain ⟨user, huser, hid', -, hle⟩ := hsame user' huser' hid
    exact hle.trans_lt (h.2 user huser hid')
  | loginUpdate user random => exact h.spares (hspares user.id (Or.inr rfl))
  | _ => trivial

theorem Apart.symm (h : t.Apart u) : u.Apart t := ⟨h.2, h.1⟩

theorem apart_of_idle (h : ∀ userId, ¬t.Attempting userId) : t.Apart u :=
  ⟨fun userId hfailing => absurd (Or.inl hfailing) (h userId), fun userId _ => h userId⟩

/-- A thread that goes on with its attempt stays apart from the others. -/
theorem Apart.goOn {t' : AuthThread} (h : t.Apart u)
    (hfailing : ∀ userId, t'.failing = some userId → t.failing = some userId)
    (haccepting : ∀ userId, t'.accepting = some userId → t.accepting = some userId) :
    t'.Apart u := by
  refine ⟨fun userId huser => h.1 userId (hfailing userId huser), fun userId huser => ?_⟩
  rintro (hfail | haccept)
  · exact h.2 userId huser (Or.inl (hfailing userId hfail))
  · exact h.2 userId huser (Or.inr (haccepting userId haccept))

end AuthThread

def lockoutOutline : Outline AuthState AuthThread where
  inv := AuthState.AccountsInOrder
  asserts s t := t.KnowsAccount s
  pair := AuthThread.Apart
  symm _ _ h := h.symm

/-! ### One step -/

section Steps

variable {config : AuthConfig} {pool : AuthPool} {i : ℕ} {t t' : AuthThread} {s s' : AuthState}

theorem checkUser_cases (config : AuthConfig) (s : AuthState) (dto : LoginDto) (user : User)
    (random : String) :
    (∀ userId, ¬(AuthThread.checkUser config s dto user random).Attempting userId) ∨
      (user.status = .active ∨ user.status = .pending) ∧
        (AuthThread.checkUser config s dto user random = .loginUpdate user random ∨
          AuthThread.checkUser config s dto user random = .failedLogin user.id) := by
  unfold AuthThread.checkUser
  by_cases hstatus : user.status ≠ .active ∧ user.status ≠ .pending
  · rw [if_pos hstatus]
    exact Or.inl fun userId h => by rcases h with h | h <;> cases h
  rw [if_neg hstatus]
  by_cases hlocked : user.lockedUntil.any (s.now < ·)
  · rw [if_pos hlocked]
    exact Or.inl fun userId h => by rcases h with h | h <;> cases h
  rw [if_neg hlocked]
  refine Or.inr ⟨by tauto, ?_⟩
  by_cases hpassword : config.bcryptCompare dto.password user.passwordHash
  · rw [if_pos hpassword]
    exact Or.inl rfl
  · rw [if_neg hpassword]
    exact Or.inr rfl

theorem User.InOrder.lockedUntil_eq_none {now : Millis} {user : User} (h : user.InOrder now)
    (hstatus : user.status ≠ .locked) : user.lockedUntil = none := by
  rcases h with h | h
  · exact h.1
  · exact absurd h.1 hstatus

/-- What the step of a thread owes the outline. -/
def KeepsAccounts (pool : AuthPool) (i : ℕ) (s' : AuthState) (t' : AuthThread) : Prop :=
  s'.AccountsInOrder ∧ t'.KnowsAccount s' ∧ ∀ (j : ℕ) (u : AuthThread), j ≠ i →
    pool.threads[j]? = some u → u.KnowsAccount s' ∧ t'.Apart u

theorem keepsAccounts_of_eq (hholds : lockoutOutline.Holds pool) (hnow : s'.now = pool.shared.now)
    (husers : s'.users = pool.shared.users) (hknows : t'.KnowsAccount pool.shared)
    (hapart : ∀ (j : ℕ) (u : AuthThread), j ≠ i → pool.threads[j]? = some u → t'.Apart u) :
    KeepsAccounts pool i s' t' := by
  have hinv : pool.shared.AccountsInOrder := hholds.inv
  refine ⟨⟨?_, ?_⟩, hknows.spares fun _ _ => AuthState.spares_of_eq husers,
    fun j u hj hu => ⟨?_, hapart j u hj hu⟩⟩
  · rw [husers]
    exact hinv.keyed
  · rw [husers, hnow]
    exact hinv.rows
  · have hknown : u.KnowsAccount pool.shared := hholds.asserts j u hu
    exact hknown.spares fun _ _ => AuthState.spares_of_eq husers

/-- A step that leaves the users as they are and attempts nothing. -/
theorem keepsAccounts_of_idle (hholds : lockoutOutline.Holds pool)
    (hnow : s'.now = pool.shared.now) (husers : s'.users = pool.shared.users)
    (hidle : ∀ userId, ¬t'.Attempting userId) : KeepsAccounts pool i s' t' :=
  keepsAccounts_of_eq hholds hnow husers (AuthThread.knowsAccount_of_idle hidle)
    fun _ _ _ _ => AuthThread.apart_of_idle hidle

/-- A step that writes a user and attempts nothing more. -/
theorem keepsAccounts_of_update (hholds : lockoutOutline.Holds pool) {userId : Id}
    {f : User → User} (hf : ∀ user, (f user).id = user.id) (hnow : s'.now = pool.shared.now)
    (husers : s'.users = (pool.shared.updateUser userId f).users)
    (hrow : ∀ user ∈ pool.shared.users, user.id = userId → (f user).InOrder pool.shared.now)
    (hspares : ∀ (j : ℕ) (u : AuthThread), j ≠ i → pool.threads[j]? = some u →
      u.Attempting userId → ∀ user : User,
        (user.lockedUntil = none → (f user).lockedUntil = none) ∧
          (f user).failedLoginCount ≤ user.failedLoginCount)
    (hidle : ∀ userId, ¬t'.Attempting userId) : KeepsAccounts pool i s' t' := by
  have hinv : pool.shared.AccountsInOrder := hholds.inv
  have hwritten := hinv.updateUser hf hrow
  refine ⟨⟨?_, ?_⟩, AuthThread.knowsAccount_of_idle hidle, fun j u hj hu =>
    ⟨?_, AuthThread.apart_of_idle hidle⟩⟩
  · rw [husers]
    exact hwritten.keyed
  · rw [husers, hnow]
    exact hwritten.rows
  · have hknown : u.KnowsAccount pool.shared := hholds.asserts j u hu
    refine hknown.spares fun other hother => ?_
    have hsame : pool.shared.Spares (pool.shared.updateUser userId f) other :=
      AuthState.spares_updateUser hf fun heq => hspares j u hj hu (heq ▸ hother)
    intro user' huser'
    rw [husers] at huser'
    exact hsame user' huser'

theorem keepsAccounts_succeed (hholds : lockoutOutline.Holds pool)
    (ht : pool.threads[i]? = some t) (hturn : t.TakesLoginTurn config pool) :
    KeepsAccounts pool i (t.succeed config pool.shared).1 (t.succeed config pool.shared).2 := by
  have hknown : t.KnowsAccount pool.shared := hholds.asserts i t ht
  have hapart : ∀ (j : ℕ) (u : AuthThread), j ≠ i → pool.threads[j]? = some u → t.Apart u :=
    fun j u hj hu => hholds.pair i j t u (Ne.symm hj) ht hu
  have hinv : pool.shared.AccountsInOrder := hholds.inv
  have idle : ∀ {t' : AuthThread}, t'.failing = none → t'.accepting = none →
      ∀ userId, ¬t'.Attempting userId := by
    rintro t' hfailing haccepting userId (h | h)
    · rw [hfailing] at h
      cases h
    · rw [haccepting] at h
      cases h
  cases t with
  | loginTenant dto random =>
    simp only [AuthThread.succeed]
    split
    · exact keepsAccounts_of_idle hholds rfl rfl (idle rfl rfl)
    · split <;> exact keepsAccounts_of_idle hholds rfl rfl (idle rfl rfl)
  | loginUser dto tenantId random =>
    have hothers : ∀ (j : ℕ) (u : AuthThread), j ≠ i → pool.threads[j]? = some u →
        ((AuthThread.loginUser dto tenantId random).succeed config pool.shared).2.Apart u :=
      fun j u _ hu => hturn u (List.mem_of_getElem? hu)
    simp only [AuthThread.succeed] at hothers ⊢
    cases hfound : pool.shared.findUser tenantId (config.toLowerCase dto.email) with
    | none => exact keepsAccounts_of_idle hholds rfl rfl (idle rfl rfl)
    | some user =>
      simp only [hfound] at hothers ⊢
      have hmem : user ∈ pool.shared.users := List.mem_of_find?_eq_some hfound
      rcases checkUser_cases config pool.shared dto user random with hnone | ⟨hstatus, hcheck⟩
      · exact keepsAccounts_of_idle hholds rfl rfl hnone
      · -- the row that was read is open, and it is the only one with its id
        have hopen : pool.shared.Open user.id := by
          intro row hrow hid
          obtain rfl := List.inj_on_of_nodup_map hinv.keyed hrow hmem hid
          refine (hinv.rows row hrow).lockedUntil_eq_none fun hlocked => ?_
          rw [hlocked] at hstatus
          rcases hstatus with h | h <;> cases h
        refine keepsAccounts_of_eq hholds rfl rfl ?_ hothers
        rcases hcheck with hcheck | hcheck <;> rw [hcheck] <;> exact hopen
  | failedLogin userId =>
    simp only [AuthThread.succeed]
    cases hfound : pool.shared.users.find? fun user => user.id = userId with
    | none => exact keepsAccounts_of_idle hholds rfl rfl (idle rfl rfl)
    | some user =>
      have hid : user.id = userId := by simpa using List.find?_some hfound
      refine keepsAccounts_of_eq hholds rfl rfl ⟨hknown, fun row hrow hrowId => ?_⟩
        fun j u hj hu => (hapart j u hj hu).goOn (fun _ h => h) fun _ h => h
      rw [List.inj_on_of_nodup_map hinv.keyed hrow (List.mem_of_find?_eq_some hfound)
        (hrowId.trans hid.symm)]
      exact Nat.lt_succ_self _
  | countFailure userId newFailedCount =>
    refine keepsAccounts_of_update hholds (fun user => by split_ifs <;> rfl) rfl rfl
      (fun user huser hid => ?_) (fun j u hj hu hattempt => ?_) (idle rfl rfl)
    · by_cases hfive : 5 ≤ newFailedCount
      · rw [if_pos hfive]
        exact Or.inr ⟨rfl, _, rfl, by simp⟩
      · rw [if_neg hfive]
        have hopen := hknown.1 user huser hid
        rcases hinv.rows user huser with hrow | ⟨-, deadline, hdeadline, -⟩
        · exact Or.inl ⟨hopen, not_le.1 hfive, hrow.2.2⟩
        · rw [hopen] at hdeadline
          cases hdeadline
    · exact absurd hattempt ((hapart j u hj hu).1 userId rfl)
  | loginUpdate user random =>
    refine keepsAccounts_of_update hholds (f := fun row : User =>
        { row with
          failedLoginCount := 0
          lockedUntil := none
          lastLoginAt := some pool.shared.now
          status := if user.status = .pending then .active else row.status })
      (fun _ => rfl) rfl rfl (fun row hrow hid => ?_)
      (fun _ _ _ _ _ _ => ⟨fun _ => rfl, Nat.zero_le _⟩) (idle rfl rfl)
    refine Or.inl ⟨rfl, Nat.succ_pos 4, ?_⟩
    rcases hinv.rows row hrow with hopen | ⟨-, deadline, hdeadline, -⟩
    · by_cases hpending : user.status = .pending
      · simp [hpending]
      · simpa [hpending] using hopen.2.2
    · rw [hknown row hrow hid] at hdeadline
      cases hdeadline
  | loginRevoke user random => exact keepsAccounts_of_idle hholds rfl rfl (idle rfl rfl)
  | loginCreate user random =>
    simp only [AuthThread.succeed, AuthState.createToken]
    split
    · exact keepsAccounts_of_idle hholds rfl rfl (idle rfl rfl)
    · rename_i s' hcreated
      split_ifs at hcreated
      obtain rfl := Option.some.inj hcreated
      exact keepsAccounts_of_idle hholds rfl rfl (idle rfl rfl)
  | refreshFind refreshToken random =>
    simp only [AuthThread.succeed]
    split
    · exact keepsAccounts_of_idle hholds rfl rfl (idle rfl rfl)
    · refine keepsAccounts_of_idle hholds rfl rfl ?_
      unfold AuthThread.checkRecord
      repeat' split
      all_goals exact idle rfl rfl
  | refreshRevoke record random => exact keepsAccounts_of_idle hholds rfl rfl (idle rfl rfl)
  | refreshCreate record random =>
    simp only [AuthThread.succeed, AuthState.createToken]
    split
    · exact keepsAccounts_of_idle hholds rfl rfl (idle rfl rfl)
    · rename_i s' hcreated
      split_ifs at hcreated
      obtain rfl := Option.some.inj hcreated
      exact keepsAccounts_of_idle hholds rfl rfl (idle rfl rfl)
  | logout userId refreshToken =>
    cases refreshToken <;> exact keepsAccounts_of_idle hholds rfl rfl (idle rfl rfl)
  | changeFind userId currentPassword newPassword =>
    simp only [AuthThread.succeed]
    split
    · exact keepsAccounts_of_idle hholds rfl rfl (idle rfl rfl)
    · split <;> exact keepsAccounts_of_idle hholds rfl rfl (idle rfl rfl)
  | changeUpdate userId newPassword =>
    exact keepsAccounts_of_update hholds (f := fun user : User =>
        { user with
          passwordHash := config.bcryptHash newPassword
          passwordChangedAt := some pool.shared.now
          mustResetPassword := false })
      (fun _ => rfl) rfl rfl (fun row hrow _ => hinv.rows row hrow)
      (fun _ _ _ _ _ _ => ⟨id, le_rfl⟩) (idle rfl rfl)
  | changeRevoke userId => exact keepsAccounts_of_idle hholds rfl rfl (idle rfl rfl)
  | resetTenant dto =>
    simp only [AuthThread.succeed]
    split <;> exact keepsAccounts_of_idle hholds rfl rfl (idle rfl rfl)
  | resetUser dto tenantId =>
    simp only [AuthThread.succeed]
    split <;> exact keepsAccounts_of_idle hholds rfl rfl (idle rfl rfl)
  | resetOtp dto userId =>
    simp only [AuthThread.succeed]
    split <;> exact keepsAccounts_of_idle hholds rfl rfl (idle rfl rfl)
  | resetWrite dto userId tokenRecordId =>
    exact keepsAccounts_of_update hholds (f := fun user : User =>
        { user with
          passwordHash := config.bcryptHash dto.password
          passwordChangedAt := some pool.shared.now
          failedLoginCount := 0
          lockedUntil := none
          mustResetPassword := false })
      (fun _ => rfl) rfl rfl
      (fun row hrow hid => Or.inl ⟨rfl, Nat.succ_pos 4, hturn row hrow hid⟩)
      (fun _ _ _ _ _ _ => ⟨fun _ => rfl, Nat.zero_le _⟩) (idle rfl rfl)
  | returned => exact keepsAccounts_of_idle hholds rfl rfl (idle rfl rfl)
  | thrown error => exact keepsAccounts_of_idle hholds rfl rfl (idle rfl rfl)

end Steps

theorem not_attempting_start (config : AuthConfig) (call : AuthCall) (userId : Id) :
    ¬(call.start config).Attempting userId := by
  have hidle : (call.start config).failing = none ∧ (call.start config).accepting = none := by
    cases call with
    | login dto random =>
      simp only [AuthCall.start]
      split_ifs <;> exact ⟨rfl, rfl⟩
    | refreshToken text random =>
      simp only [AuthCall.start]
      split_ifs <;> exact ⟨rfl, rfl⟩
    | logout userId refreshToken => cases userId <;> exact ⟨rfl, rfl⟩
    | changePassword userId currentPassword newPassword => cases userId <;> exact ⟨rfl, rfl⟩
    | resetPassword dto =>
      simp only [AuthCall.start]
      split_ifs <;> exact ⟨rfl, rfl⟩
  rintro (h | h)
  · rw [hidle.1] at h
    cases h
  · rw [hidle.2] at h
    cases h

theorem lockoutOutline_startOk (config : AuthConfig) :
    lockoutOutline.StartOk (authProgram config) (LoginsTakeTurns config) := by
  intro pool call t _ _ hstart
  obtain rfl := Option.some.inj hstart
  exact ⟨AuthThread.knowsAccount_of_idle (not_attempting_start config call),
    fun _ _ _ => AuthThread.apart_of_idle (not_attempting_start config call)⟩

theorem lockoutOutline_stepOk (config : AuthConfig) :
    lockoutOutline.StepOk (authProgram config) (LoginsTakeTurns config) := by
  intro pool i fault t hholds hgood ht
  cases fault with
  | none => exact keepsAccounts_succeed hholds ht (hgood t ht)
  | crash =>
    change KeepsAccounts pool i pool.shared (.thrown .crashed)
    refine keepsAccounts_of_idle hholds rfl rfl fun userId h => ?_
    rcases h with h | h <;> cases h

theorem lockoutOutline_envOk (config : AuthConfig) :
    lockoutOutline.EnvOk (authProgram config) (LoginsTakeTurns config) := by
  intro pool event hholds hgood
  have hinv : pool.shared.AccountsInOrder := hholds.inv
  cases event with
  | pass elapsed =>
    refine ⟨⟨hinv.keyed, fun user huser => ?_⟩, fun i t ht => ?_⟩
    · rcases hinv.rows user huser with hopen | ⟨hstatus, deadline, hdeadline, hlater⟩
      · exact Or.inl hopen
      · exact Or.inr ⟨hstatus, deadline, hdeadline, hgood user huser deadline hdeadline hlater⟩
    · have hknown : t.KnowsAccount pool.shared := hholds.asserts i t ht
      exact hknown.spares fun _ _ => AuthState.spares_of_eq rfl
  | requestPasswordReset userId otp expiresInMinutes =>
    refine ⟨⟨hinv.keyed, hinv.rows⟩, fun i t ht => ?_⟩
    have hknown : t.KnowsAccount pool.shared := hholds.asserts i t ht
    exact hknown.spares fun _ _ => AuthState.spares_of_eq rfl

/-! ### Counting wrong passwords -/

/-- The account whose password an action finds wrong. -/
def foundWrongBy (config : AuthConfig) (pool : AuthPool) : AuthAction → Option Id
  | .step i .none =>
    pool.threads[i]?.bind fun t => (t.succeed config pool.shared).2.foundWrong
  | _ => none

/-- The account whose login an action writes. -/
def acceptedBy (pool : AuthPool) : AuthAction → Option Id
  | .step i .none => pool.threads[i]?.bind AuthThread.accepting
  | _ => none

/-- The account whose failures an action forgets. -/
def clearedBy (pool : AuthPool) : AuthAction → Option Id
  | .step i .none => pool.threads[i]?.bind AuthThread.clearing
  | _ => none

/-- One for a wrong password that is not counted yet. -/
def uncounted (pool : AuthPool) (userId : Id) : ℕ :=
  if ∃ t ∈ pool.threads, t.failing = some userId then 1 else 0

section Counting

variable {config : AuthConfig} {pool : AuthPool} {i : ℕ} {t : AuthThread} {s : AuthState}
  {userId : Id}

/-- The account whose failure the next step counts. -/
def AuthThread.counting : AuthThread → Option Id
  | countFailure userId _ => some userId
  | _ => none

/-- The steps that write a row of a user. -/
def AuthThread.writesUser : AuthThread → Bool
  | countFailure _ _ | loginUpdate _ _ | changeUpdate _ _ | resetWrite _ _ _ => true
  | _ => false

theorem users_succeed (config : AuthConfig) (s : AuthState) (h : t.writesUser = false) :
    (t.succeed config s).1.users = s.users := by
  cases t with
  | loginTenant dto random =>
    simp only [AuthThread.succeed]
    split
    · rfl
    · split <;> rfl
  | loginUser dto tenantId random =>
    simp only [AuthThread.succeed]
    split <;> rfl
  | failedLogin userId =>
    simp only [AuthThread.succeed]
    split <;> rfl
  | loginCreate user random =>
    simp only [AuthThread.succeed, AuthState.createToken]
    split_ifs <;> rfl
  | refreshFind refreshToken random =>
    simp only [AuthThread.succeed]
    split <;> rfl
  | refreshCreate record random =>
    simp only [AuthThread.succeed, AuthState.createToken]
    split_ifs <;> rfl
  | logout userId refreshToken => cases refreshToken <;> rfl
  | changeFind userId currentPassword newPassword =>
    simp only [AuthThread.succeed]
    split
    · rfl
    · split_ifs <;> rfl
  | resetTenant dto =>
    simp only [AuthThread.succeed]
    split <;> rfl
  | resetUser dto tenantId =>
    simp only [AuthThread.succeed]
    split <;> rfl
  | resetOtp dto userId =>
    simp only [AuthThread.succeed]
    split <;> rfl
  | countFailure _ _ => cases h
  | loginUpdate _ _ => cases h
  | changeUpdate _ _ => cases h
  | resetWrite _ _ _ => cases h
  | loginRevoke user random => rfl
  | refreshRevoke record random => rfl
  | changeRevoke userId => rfl
  | returned => rfl
  | thrown error => rfl

/-- A step lowers the failures of no account but one that it clears, and counts what it is there
to count. -/
theorem failures_succeed (hknown : t.KnowsAccount s) (hclear : t.clearing ≠ some userId)
    {user' : User} (huser' : user' ∈ (t.succeed config s).1.users) (hid : user'.id = userId) :
    ∃ user ∈ s.users, user.id = userId ∧
      user.failedLoginCount + (if t.counting = some userId then 1 else 0) ≤
        user'.failedLoginCount := by
  have same : ∀ {s' : AuthState}, s'.users = s.users → user' ∈ s'.users →
      t.counting = none → ∃ user ∈ s.users, user.id = userId ∧
        user.failedLoginCount + (if t.counting = some userId then 1 else 0) ≤
          user'.failedLoginCount := by
    intro s' husers hmem hcounting
    rw [husers] at hmem
    exact ⟨user', hmem, hid, by simp [hcounting]⟩
  cases t with
  | countFailure other n =>
    rcases AuthState.mem_updateUser.1 huser' with ⟨user, huser, huserId, rfl⟩ | ⟨hmem, hne⟩
    · have hother : other = userId := by
        rw [← hid, ← huserId]
        split_ifs <;> rfl
      refine ⟨user, huser, huserId.trans hother, ?_⟩
      have hlt := hknown.2 user huser huserId
      have hcounting : (AuthThread.countFailure other n).counting = some userId :=
        congrArg some hother
      rw [if_pos hcounting]
      split_ifs <;> exact hlt
    · have hother : other ≠ userId := fun h => hne (hid.trans h.symm)
      have hcounting : (AuthThread.countFailure other n).counting ≠ some userId := fun h =>
        hother (Option.some.inj h)
      refine ⟨user', hmem, hid, ?_⟩
      rw [if_neg hcounting, add_zero]
  | loginUpdate user random =>
    rcases AuthState.mem_updateUser.1 huser' with ⟨row, hrow, hrowId, rfl⟩ | ⟨hmem, -⟩
    · exact absurd (congrArg some (hrowId.symm.trans hid)) hclear
    · exact same rfl hmem rfl
  | changeUpdate other newPassword =>
    rcases AuthState.mem_updateUser.1 huser' with ⟨row, hrow, hrowId, rfl⟩ | ⟨hmem, -⟩
    · exact ⟨row, hrow, hid, le_rfl⟩
    · exact same rfl hmem rfl
  | resetWrite dto other tokenRecordId =>
    rcases AuthState.mem_updateUser.1 huser' with ⟨row, hrow, hrowId, rfl⟩ | ⟨hmem, -⟩
    · exact absurd (congrArg some (hrowId.symm.trans hid)) hclear
    · exact same rfl hmem rfl
  | _ => exact same (users_succeed config s rfl) huser' rfl

/-- The step that evaluates a password. -/
def AuthThread.evaluates : AuthThread → Bool
  | loginUser _ _ _ => true
  | _ => false

theorem foundWrong_succeed (config : AuthConfig) (s : AuthState) (h : t.evaluates = false) :
    (t.succeed config s).2.foundWrong = none := by
  cases t with
  | loginUser dto tenantId random => cases h
  | logout userId refreshToken => cases refreshToken <;> rfl
  | _ =>
    simp only [AuthThread.succeed, AuthThread.checkRecord]
    repeat' split
    all_goals rfl

/-- A password is found wrong only when no other failure of the account is under way. -/
theorem takesTurn_of_foundWrong
    (hwrong : (t.succeed config pool.shared).2.foundWrong = some userId)
    (hturn : t.TakesLoginTurn config pool) :
    t.failing = none ∧ ∀ u ∈ pool.threads, u.failing ≠ some userId := by
  cases t with
  | loginUser dto tenantId random =>
    refine ⟨rfl, fun u hu hfailing => ?_⟩
    have hapart := hturn u hu
    cases hafter : ((AuthThread.loginUser dto tenantId random).succeed config pool.shared).2 with
    | failedLogin other =>
      rw [hafter] at hwrong hapart
      exact hapart.2 userId hfailing (Or.inl hwrong)
    | _ => rw [hafter] at hwrong; cases hwrong
  | _ => rw [foundWrong_succeed config pool.shared rfl] at hwrong; cases hwrong

theorem uncounted_eq_one {u : AuthThread} (hu : u ∈ pool.threads)
    (hfailing : u.failing = some userId) : uncounted pool userId = 1 :=
  if_pos ⟨u, hu, hfailing⟩

theorem uncounted_le_one (pool : AuthPool) (userId : Id) : uncounted pool userId ≤ 1 := by
  unfold uncounted
  split_ifs <;> omega

theorem uncounted_mono {pool' : AuthPool}
    (h : ∀ u ∈ pool.threads, u.failing = some userId → u ∈ pool'.threads) :
    uncounted pool userId ≤ uncounted pool' userId := by
  by_cases hpending : ∃ u ∈ pool.threads, u.failing = some userId
  · obtain ⟨u, hu, hfailing⟩ := hpending
    rw [uncounted_eq_one (h u hu hfailing) hfailing]
    exact uncounted_le_one pool userId
  · rw [uncounted, if_neg hpending]
    exact Nat.zero_le _

/-- A step of another thread leaves an uncounted failure where it is. -/
theorem uncounted_le_set {s' : AuthState} {t' : AuthThread} (ht : pool.threads[i]? = some t)
    (hother : t.failing ≠ some userId) :
    uncounted pool userId ≤ uncounted ⟨s', pool.threads.set i t'⟩ userId := by
  refine uncounted_mono fun u hu hfailing => ?_
  obtain ⟨j, hj⟩ := List.mem_iff_getElem?.1 hu
  have hne : i ≠ j := by
    rintro rfl
    rw [ht, Option.some_inj] at hj
    exact hother (hj ▸ hfailing)
  refine List.mem_iff_getElem?.2 ⟨j, ?_⟩
  rw [List.getElem?_set_ne hne]
  exact hj

theorem uncounted_set {s' : AuthState} {t' : AuthThread} (ht : pool.threads[i]? = some t)
    (hfailing : t'.failing = some userId) :
    uncounted ⟨s', pool.threads.set i t'⟩ userId = 1 :=
  uncounted_eq_one (List.mem_set (List.getElem?_eq_some_iff.1 ht).1 t') hfailing

/-- What the failures of the account and the one that is not counted yet make up. -/
def Covers (pool : AuthPool) (userId : Id) (n : ℕ) : Prop :=
  ∀ user ∈ pool.shared.users, user.id = userId → n ≤ user.failedLoginCount + uncounted pool userId

theorem covers_succeed (hholds : lockoutOutline.Holds pool) (ht : pool.threads[i]? = some t)
    (hturn : t.TakesLoginTurn config pool) (hclear : t.clearing ≠ some userId) {n : ℕ}
    (hcovers : Covers pool userId n) :
    Covers ⟨(t.succeed config pool.shared).1,
        pool.threads.set i (t.succeed config pool.shared).2⟩ userId
      (n + if (t.succeed config pool.shared).2.foundWrong = some userId then 1 else 0) := by
  intro user' huser' hid
  have hknown : t.KnowsAccount pool.shared := hholds.asserts i t ht
  obtain ⟨user, huser, huserId, hle⟩ := failures_succeed hknown hclear huser' hid
  have hbefore := hcovers user huser huserId
  by_cases hwrong : (t.succeed config pool.shared).2.foundWrong = some userId
  · -- a wrong password: nothing was uncounted before, and its failure is afterwards
    obtain ⟨hnone, hothers⟩ := takesTurn_of_foundWrong hwrong hturn
    have hzero : uncounted pool userId = 0 :=
      if_neg fun ⟨u, hu, hfailing⟩ => hothers u hu hfailing
    have hone : (t.succeed config pool.shared).2.failing = some userId := by
      cases hafter : (t.succeed config pool.shared).2 with
      | failedLogin other =>
        rw [hafter] at hwrong
        exact hwrong
      | _ => rw [hafter] at hwrong; cases hwrong
    rw [uncounted_set ht hone, if_pos hwrong]
    omega
  rw [if_neg hwrong, add_zero]
  by_cases hfailing : t.failing = some userId
  · cases t with
    | failedLogin other =>
      obtain rfl := Option.some.inj hfailing
      have hafter : ((AuthThread.failedLogin other).succeed config pool.shared).2.failing =
          some other := by
        simp only [AuthThread.succeed]
        cases hfound : pool.shared.users.find? fun user => user.id = other with
        | none => exact absurd huserId (by simpa using List.find?_eq_none.1 hfound user huser)
        | some row => rfl
      rw [uncounted_set ht hafter]
      have hone := uncounted_le_one pool other
      omega
    | countFailure other n =>
      have hcounting : (AuthThread.countFailure other n).counting = some userId := hfailing
      rw [if_pos hcounting] at hle
      have hone := uncounted_le_one pool userId
      omega
    | _ => cases hfailing
  · have hmono : uncounted pool userId ≤ uncounted ⟨(t.succeed config pool.shared).1,
        pool.threads.set i (t.succeed config pool.shared).2⟩ userId :=
      uncounted_le_set ht hfailing
    omega

theorem covers_next (hholds : lockoutOutline.Holds pool) {a : AuthAction}
    (hgood : LoginsTakeTurns config pool a) (hclear : clearedBy pool a ≠ some userId) {n : ℕ}
    (hcovers : Covers pool userId n) :
    Covers ((authProgram config).next pool a) userId
      (n + if foundWrongBy config pool a = some userId then 1 else 0) := by
  cases a with
  | spawn call =>
    intro user huser hid
    have hbefore := hcovers user huser hid
    have hmono : uncounted pool userId ≤
        uncounted ((authProgram config).next pool (.spawn call)) userId :=
      uncounted_mono fun u hu _ => List.mem_append_left _ hu
    exact hbefore.trans (Nat.add_le_add_left hmono _)
  | step i fault =>
    cases ht : pool.threads[i]? with
    | none =>
      have hsame : (authProgram config).next pool (.step i fault) = pool := by
        simp only [Program.next, ht]
      have hnone : foundWrongBy config pool (.step i fault) = none := by
        cases fault
        · simp only [foundWrongBy, ht, Option.bind_none]
        · rfl
      rw [hsame, hnone]
      exact hcovers
    | some t =>
      rw [(authProgram config).next_step ht]
      cases fault with
      | none =>
        have hwrong : foundWrongBy config pool (.step i .none) =
            (t.succeed config pool.shared).2.foundWrong := by
          rw [foundWrongBy, ht, Option.bind_some]
        rw [hwrong]
        refine covers_succeed hholds ht (hgood t ht) ?_ hcovers
        rwa [clearedBy, ht, Option.bind_some] at hclear
      | crash =>
        intro user huser hid
        have hmono : uncounted pool userId ≤
            uncounted ⟨pool.shared, pool.threads.set i (.thrown .crashed)⟩ userId := by
          refine uncounted_le_set ht ?_
          rw [hgood t ht]
          exact fun h => by cases h
        exact (hcovers user huser hid).trans (Nat.add_le_add_left hmono _)
  | env event =>
    intro user huser hid
    cases event <;> exact hcovers user huser hid

theorem mem_of_foundWrongBy {a : AuthAction} (h : foundWrongBy config pool a = some userId) :
    userId ∈ pool.shared.users.map User.id := by
  cases a with
  | step i fault =>
    cases fault with
    | crash => cases h
    | none =>
      obtain ⟨t, -, hwrong⟩ := Option.bind_eq_some_iff.1 h
      cases t with
      | loginUser dto tenantId random =>
        simp only [AuthThread.succeed] at hwrong
        cases hfound : pool.shared.findUser tenantId (config.toLowerCase dto.email) with
        | none =>
          rw [hfound] at hwrong
          cases hwrong
        | some user =>
          simp only [hfound] at hwrong
          rcases checkUser_cases config pool.shared dto user random with hnone | ⟨-, hcheck⟩
          · cases hafter : AuthThread.checkUser config pool.shared dto user random with
            | failedLogin other =>
              rw [hafter] at hnone
              exact absurd (Or.inl rfl) (hnone other)
            | _ => rw [hafter] at hwrong; cases hwrong
          · rcases hcheck with hcheck | hcheck <;> rw [hcheck] at hwrong
            · cases hwrong
            · obtain rfl := Option.some.inj hwrong
              exact List.mem_map_of_mem (List.mem_of_find?_eq_some hfound)
      | _ => rw [foundWrong_succeed config pool.shared rfl] at hwrong; cases hwrong
  | spawn call => cases h
  | env event => cases h

theorem ids_succeed (config : AuthConfig) (s : AuthState) (t : AuthThread) :
    (t.succeed config s).1.users.map User.id = s.users.map User.id := by
  cases t with
  | countFailure other n => exact AuthState.ids_updateUser fun user => by split_ifs <;> rfl
  | loginUpdate user random => exact AuthState.ids_updateUser fun _ => rfl
  | changeUpdate other newPassword => exact AuthState.ids_updateUser fun _ => rfl
  | resetWrite dto other tokenRecordId => exact AuthState.ids_updateUser fun _ => rfl
  | _ => rw [users_succeed config s rfl]

theorem ids_next (config : AuthConfig) (pool : AuthPool) (a : AuthAction) :
    ((authProgram config).next pool a).shared.users.map User.id =
      pool.shared.users.map User.id := by
  cases a with
  | spawn call => rfl
  | step i fault =>
    cases ht : pool.threads[i]? with
    | none => simp only [Program.next, ht]
    | some t =>
      rw [(authProgram config).next_step ht]
      cases fault with
      | none => exact ids_succeed config pool.shared t
      | crash => rfl
  | env event => cases event <;> rfl

end Counting

/-! ### The law -/

/-- A thread that nobody interrupts, for some steps. -/
def AuthThread.alone (config : AuthConfig) (s : AuthState) (t : AuthThread) :
    ℕ → AuthState × AuthThread
  | 0 => (s, t)
  | n + 1 => (t.succeed config s).2.alone config (t.succeed config s).1 n

/-- A login with the right password gets in, unless the account is locked or was deactivated. -/
def AuthState.Unlocks (config : AuthConfig) (s : AuthState) : Prop :=
  ∀ user ∈ s.users, user.status ≠ .inactive → ¬s.Locked user.id →
    ∀ (dto : LoginDto) (tenantId : Id) (random : String),
      s.findUser tenantId (config.toLowerCase dto.email) = some user →
      config.bcryptCompare dto.password user.passwordHash →
      config.sha256 random ∉ s.refreshTokens.map RefreshToken.token →
      ((AuthThread.loginUser dto tenantId random).alone config s 4).2 = .returned

section Law

variable (config : AuthConfig) (start : AuthState) (actions : List AuthAction)

/-- The service before action number `k`. -/
def poolAt (k : ℕ) : AuthPool := stateAt (authProgram config).next ⟨start, []⟩ actions k

def wrongPasswords (userId : Id) (i j : ℕ) : ℕ :=
  ((Finset.Ico i j).filter fun k =>
    actions[k]?.bind (foundWrongBy config (poolAt config start actions k)) = some userId).card

/-- The lockout along a run of steps of the calls. -/
structure LockoutLaw : Prop where
  fiveAttempts : ∀ userId i j, i ≤ j →
    (∀ k, i ≤ k → k ≤ j → ¬(poolAt config start actions k).shared.Locked userId) →
    (∀ k a, i ≤ k → k < j → actions[k]? = some a →
      clearedBy (poolAt config start actions k) a ≠ some userId) →
    wrongPasswords config start actions userId i j ≤ 5
  acceptsUnlocked : ∀ k a userId, actions[k]? = some a →
    acceptedBy (poolAt config start actions k) a = some userId →
      ¬(poolAt config start actions k).shared.Locked userId
  unlocks : ∀ k, (poolAt config start actions k).shared.Unlocks config

end Law

theorem tokens_revokeWhere (s : AuthState) (p : RefreshToken → Bool) :
    (s.revokeWhere p).refreshTokens.map RefreshToken.token =
      s.refreshTokens.map RefreshToken.token := by
  simp only [AuthState.revokeWhere, List.map_map]
  refine List.map_congr_left fun row _ => ?_
  cases hp : p row <;> simp [hp]

theorem succeed_loginCreate {config : AuthConfig} {s : AuthState} (user : User) {random : String}
    (hfresh : config.sha256 random ∉ s.refreshTokens.map RefreshToken.token) :
    ((AuthThread.loginCreate user random).succeed config s).2 = .returned := by
  simp only [AuthThread.succeed, AuthState.createToken]
  rw [if_neg hfresh]

theorem AuthState.AccountsInOrder.unlocks {config : AuthConfig} {s : AuthState}
    (h : s.AccountsInOrder) : s.Unlocks config := by
  intro user huser hactive hunlocked dto tenantId random hfound hpassword hfresh
  rcases h.rows user huser with ⟨hopen, -, hstatus⟩ | ⟨-, deadline, hdeadline, hlater⟩
  · have hcheck : AuthThread.checkUser config s dto user random = .loginUpdate user random := by
      have hstands : ¬(user.status ≠ .active ∧ user.status ≠ .pending) := by
        cases hs : user.status <;> simp_all
      rw [AuthThread.checkUser, if_neg hstands, if_neg (by simp [hopen]), if_pos hpassword]
    have hread : (AuthThread.loginUser dto tenantId random).succeed config s =
        (s, .loginUpdate user random) := by
      simp only [AuthThread.succeed, hfound, hcheck]
    simp only [AuthThread.alone, hread]
    refine succeed_loginCreate user ?_
    simp only [AuthThread.succeed, tokens_revokeWhere]
    exact hfresh
  · exact absurd ⟨user, huser, rfl, by simpa [hdeadline] using hlater⟩ hunlocked

section Runs

variable {config : AuthConfig} {start : AuthState} {actions : List AuthAction}

theorem holds_poolAt (hstart : start.AccountsInOrder)
    (h : Always (authProgram config).next (LoginsTakeTurns config) ⟨start, []⟩ actions) (k : ℕ) :
    lockoutOutline.Holds (poolAt config start actions k) :=
  h.invariant_at (I := lockoutOutline.Holds)
    (fun _ _ hholds hgood => hholds.next (lockoutOutline_startOk config)
      (lockoutOutline_stepOk config) (lockoutOutline_envOk config) hgood)
    (Outline.holds_initial hstart) k

theorem ids_poolAt (k : ℕ) :
    (poolAt config start actions k).shared.users.map User.id = start.users.map User.id :=
  run_invariant (I := fun pool : AuthPool => pool.shared.users.map User.id =
      start.users.map User.id)
    (fun pool a h => (ids_next config pool a).trans h) rfl _

theorem poolAt_succ {k : ℕ} {a : AuthAction} (ha : actions[k]? = some a) :
    poolAt config start actions (k + 1) =
      (authProgram config).next (poolAt config start actions k) a :=
  stateAt_succ (authProgram config).next _ ha

theorem poolAt_succ_of_end {k : ℕ} (ha : actions[k]? = none) :
    poolAt config start actions (k + 1) = poolAt config start actions k := by
  rw [poolAt, poolAt, stateAt, stateAt, List.take_add_one, ha, Option.toList_none,
    List.append_nil]

theorem wrongPasswords_succ {userId : Id} {i j : ℕ} (hij : i ≤ j) :
    wrongPasswords config start actions userId i (j + 1) =
      wrongPasswords config start actions userId i j +
        if actions[j]?.bind (foundWrongBy config (poolAt config start actions j)) = some userId
        then 1 else 0 := by
  unfold wrongPasswords
  rw [Nat.Ico_succ_right_eq_insert_Ico hij, Finset.filter_insert]
  split_ifs with hwrong
  · rw [Finset.card_insert_of_notMem]
    simp
  · rfl

/-- Every wrong password since the failures were last forgotten is counted or about to be. -/
theorem covers_wrongPasswords (hstart : start.AccountsInOrder)
    (h : Always (authProgram config).next (LoginsTakeTurns config) ⟨start, []⟩ actions)
    {userId : Id} {i j : ℕ} (hij : i ≤ j)
    (hclear : ∀ k a, i ≤ k → k < j → actions[k]? = some a →
      clearedBy (poolAt config start actions k) a ≠ some userId) :
    Covers (poolAt config start actions j) userId
      (wrongPasswords config start actions userId i j) := by
  induction j, hij using Nat.le_induction with
  | base =>
    intro user _ _
    simp [wrongPasswords]
  | succ j hij ih =>
    have hbefore := ih fun k a hik hkj => hclear k a hik (Nat.lt_succ_of_lt hkj)
    rw [wrongPasswords_succ hij]
    cases ha : actions[j]? with
    | none =>
      rw [poolAt_succ_of_end ha, Option.bind_none, if_neg (by simp), add_zero]
      exact hbefore
    | some a =>
      rw [poolAt_succ ha, Option.bind_some]
      exact covers_next (holds_poolAt hstart h j) (h.at ha)
        (hclear j a hij (Nat.lt_succ_self j) ha) hbefore

theorem wrongPasswords_eq_zero {userId : Id} (hnone : userId ∉ start.users.map User.id)
    (i j : ℕ) : wrongPasswords config start actions userId i j = 0 := by
  rw [wrongPasswords, Finset.card_eq_zero, Finset.filter_eq_empty_iff]
  intro k _ hwrong
  obtain ⟨a, -, hfound⟩ := Option.bind_eq_some_iff.1 hwrong
  have hmem := mem_of_foundWrongBy hfound
  rw [ids_poolAt] at hmem
  exact hnone hmem

end Runs

theorem lockoutLaw_of_loginsTakeTurns (config : AuthConfig) (start : AuthState)
    (actions : List AuthAction) (hstart : start.AccountsInOrder)
    (h : Always (authProgram config).next (LoginsTakeTurns config) ⟨start, []⟩ actions) :
    LockoutLaw config start actions where
  fiveAttempts := by
    intro userId i j hij hunlocked hclear
    by_cases hthere : userId ∈ start.users.map User.id
    · rw [← @ids_poolAt config start actions j] at hthere
      obtain ⟨user, huser, hid⟩ := List.mem_map.1 hthere
      have hcovers := covers_wrongPasswords hstart h hij hclear user huser hid
      have hone := uncounted_le_one (poolAt config start actions j) userId
      have hinv : (poolAt config start actions j).shared.AccountsInOrder :=
        (holds_poolAt hstart h j).inv
      rcases hinv.rows user huser with ⟨-, hfew, -⟩ | ⟨-, deadline, hdeadline, hlater⟩
      · omega
      · exact absurd ⟨user, huser, hid, by simpa [hdeadline] using hlater⟩
          (hunlocked j hij le_rfl)
    · rw [wrongPasswords_eq_zero hthere]
      exact Nat.zero_le 5
  acceptsUnlocked := by
    rintro k a userId ha haccepted ⟨user, huser, hid, hlocked⟩
    cases a with
    | step i fault =>
      cases fault with
      | crash => cases haccepted
      | none =>
        obtain ⟨t, ht, haccepting⟩ := Option.bind_eq_some_iff.1 haccepted
        have hknown : t.KnowsAccount (poolAt config start actions k).shared :=
          (holds_poolAt hstart h k).asserts i t ht
        cases t with
        | loginUpdate reading random =>
          obtain rfl := Option.some.inj haccepting
          rw [hknown user huser hid] at hlocked
          cases hlocked
        | _ => cases haccepting
    | spawn call => cases haccepted
    | env event => cases haccepted
  unlocks k := by
    have hinv : (poolAt config start actions k).shared.AccountsInOrder :=
      (holds_poolAt hstart h k).inv
    exact hinv.unlocks

def annAlone : AuthState := { now := 0, tenants := oneTenant, users := oneUser }

/-- Login number `i`, from its call to its end. -/
def loginOf (i : ℕ) (password : String) : List AuthAction :=
  .spawn (.login ⟨some "acme", "ann", password⟩ "r") :: steps i 5

/-- Two wrong passwords, the right one, and a clock that goes on. -/
def rightAtLast : List AuthAction :=
  loginOf 0 "no" ++ loginOf 1 "no" ++ loginOf 2 "pw" ++ [.env (.pass 900000)]

theorem lockoutLaw_rightAtLast : LockoutLaw plainConfig annAlone rightAtLast :=
  lockoutLaw_of_loginsTakeTurns plainConfig annAlone rightAtLast
    ⟨by decide, fun user huser => by
      obtain rfl := List.mem_singleton.1 huser
      exact Or.inl ⟨rfl, by decide, by decide⟩⟩
    (by decide +kernel)

/-- Five wrong passwords and the time of the lock. -/
def lockedOut : List AuthAction :=
  loginOf 0 "no" ++ loginOf 1 "no" ++ loginOf 2 "no" ++ loginOf 3 "no" ++ loginOf 4 "no" ++
    [.env (.pass 900000)]

def AuthThread.isReturned : AuthThread → Bool
  | returned => true
  | _ => false

/-- The lock has passed, but its status keeps the right password out. -/
theorem not_lockoutLaw_lockedOut : ¬LockoutLaw plainConfig annAlone lockedOut := by
  intro h
  have hlogin := h.unlocks 31
    { id := 7, tenantId := 1, email := "ann", passwordHash := "pw", status := .locked,
      failedLoginCount := 5, lockedUntil := some 900000 }
    (by decide +kernel) (by decide +kernel) (by decide +kernel) ⟨some "acme", "ann", "pw"⟩ 1 "r"
    (by decide +kernel) (by decide +kernel) (by decide +kernel)
  have hthrown : ((AuthThread.loginUser ⟨some "acme", "ann", "pw"⟩ 1 "r").alone plainConfig
      (poolAt plainConfig annAlone lockedOut 31).shared 4).2.isReturned = false := by
    decide +kernel
  rw [hlogin] at hthrown
  cases hthrown

end Forecast.Auth
