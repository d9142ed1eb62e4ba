import Forecast.Reporting.UsageGuard

/-!
# Counters and leases

Both counters of the guard count its outstanding leases, whatever acquires, releases and changes
of configuration interleave. The key of a user's counter tells the tenant and the user apart
because a tenant that is a uuid has no colon.
-/

namespace Forecast.AiUsage

open ThreadPool Runs

/-! ### Keys -/

theorem isXDigit_ne_colon {c : Char} (h : isXDigit c = true) : c ≠ ':' := by
  rintro rfl
  revert h
  decide

theorem colon_not_mem_of_skipHyphen {left : ℕ} {cs : List Char} (h : ':' ∉ skipHyphen left cs) :
    ':' ∉ cs := by
  unfold skipHyphen at h
  split at h
  · split_ifs at h
    · exact List.not_mem_cons_of_ne_of_not_mem (by decide) h
    · exact h
  · exact h

theorem colon_not_mem_of_uuidBytes {left : ℕ} {cs rest : List Char}
    (h : uuidBytes left cs = some rest) (hrest : ':' ∉ rest) : ':' ∉ cs := by
  induction left generalizing cs with
  | zero =>
    obtain rfl : cs = rest := Option.some.inj h
    exact hrest
  | succ left ih =>
    match cs, h with
    | a :: b :: after, h =>
      by_cases hd : (isXDigit a && isXDigit b) = true
      · simp only [uuidBytes, hd, if_true] at h
        rw [Bool.and_eq_true] at hd
        have hafter : ':' ∉ after := colon_not_mem_of_skipHyphen (ih h)
        apply List.not_mem_cons_of_ne_of_not_mem (isXDigit_ne_colon hd.1).symm
        exact List.not_mem_cons_of_ne_of_not_mem (isXDigit_ne_colon hd.2).symm hafter
      · simp only [uuidBytes, hd] at h
        cases h

theorem colon_not_mem_of_isUuid {text : String} (h : isUuid text = true) : ':' ∉ text.toList := by
  unfold isUuid at h
  split at h
  · rename_i digits heq
    rw [heq]
    apply List.not_mem_cons_of_ne_of_not_mem (by decide)
    exact colon_not_mem_of_uuidBytes (eq_of_beq h) (by decide)
  · exact colon_not_mem_of_uuidBytes (eq_of_beq h) (by decide)

theorem eq_of_append_colon {as bs cs ds : List Char} (ha : ':' ∉ as) (hb : ':' ∉ bs)
    (h : as ++ ':' :: cs = bs ++ ':' :: ds) : as = bs ∧ cs = ds := by
  induction as generalizing bs with
  | nil =>
    cases bs with
    | nil => exact ⟨rfl, (List.cons.inj h).2⟩
    | cons b bs => exact absurd ((List.cons.inj h).1 ▸ List.mem_cons_self) hb
  | cons a as ih =>
    cases bs with
    | nil => exact absurd ((List.cons.inj h).1 ▸ List.mem_cons_self) ha
    | cons b bs =>
      obtain ⟨hab, htail⟩ := List.cons.inj h
      obtain ⟨hs, hcd⟩ := ih (fun hm => ha (List.mem_cons_of_mem _ hm))
        (fun hm => hb (List.mem_cons_of_mem _ hm)) htail
      exact ⟨by rw [hab, hs], hcd⟩

theorem userKey_injective {s t : SecurityContext} (hs : isUuid s.tenantId = true)
    (ht : isUuid t.tenantId = true) (h : userKey s = userKey t) : s = t := by
  have htexts : s.tenantId.toList ++ ':' :: s.userId.toList =
      t.tenantId.toList ++ ':' :: t.userId.toList := by
    have htext := congrArg String.toList h
    have hcolon : (toString ":").toList = [':'] := by decide
    simp only [userKey, String.toList_append, hcolon, List.append_assoc] at htext
    exact htext
  obtain ⟨htenant, huser⟩ := eq_of_append_colon (colon_not_mem_of_isUuid hs)
    (colon_not_mem_of_isUuid ht) htexts
  have hid : s.tenantId = t.tenantId := String.toList_injective htenant
  have hname : s.userId = t.userId := String.toList_injective huser
  cases s
  cases t
  simp only at hid hname
  rw [hid, hname]

/-! ### Outstanding leases -/

/-- The outstanding leases under a key. -/
def held (leases : List UsageLease) (key : SecurityContext → String) (k : String) : ℕ :=
  leases.countP fun lease => !lease.released && key lease.security = k

section Held

variable {leases : List UsageLease} (key : SecurityContext → String)

theorem held_append (security : SecurityContext) (k : String) :
    held (leases ++ [⟨security, false⟩]) key k =
      held leases key k + if k = key security then 1 else 0 := by
  unfold held
  rw [List.countP_append, List.countP_singleton]
  by_cases hk : k = key security
  · simp [hk]
  · simp [hk, Ne.symm hk]

theorem held_set_released {i : ℕ} {lease : UsageLease} (h : leases[i]? = some lease)
    (hout : lease.released = false) (k : String) :
    held leases key k = held (leases.set i { lease with released := true }) key k +
      if k = key lease.security then 1 else 0 := by
  obtain ⟨hi, hlease⟩ := List.getElem?_eq_some_iff.1 h
  unfold held
  rw [List.countP_set hi, hlease]
  by_cases hk : k = key lease.security
  · have hpos : 0 < leases.countP fun l => !l.released && key l.security = k := by
      rw [List.countP_pos_iff]
      exact ⟨lease, List.mem_of_getElem? h, by simp [hout, hk]⟩
    simp only [hout, hk, Bool.not_false, Bool.true_and, decide_true, if_true, Bool.not_true,
      Bool.false_and, Bool.false_eq_true, if_false, Nat.add_zero]
    rw [hk] at hpos
    omega
  · simp [hout, hk, Ne.symm hk]

end Held

/-- What every step keeps; `allowed` are the configurations that a tenant has had. -/
structure Coherent (allowed : String → OperationalConfig → Prop) (guard : GuardState) : Prop where
  configs : ∀ tenantId, allowed tenantId (getTenantOperationalConfig guard tenantId)
  identified : ∀ lease ∈ guard.leases, isUuid lease.security.tenantId = true
  users : Tally.Counts guard.activeByUser (held guard.leases userKey)
  tenants : Tally.Counts guard.activeByTenant (held guard.leases SecurityContext.tenantId)
  userLimit : ∀ security, isUuid security.tenantId = true → ∃ config,
    allowed security.tenantId config ∧
      (held guard.leases userKey (userKey security) : ℤ) ≤ config.maxConcurrentPerUser
  tenantLimit : ∀ tenantId, ∃ config, allowed tenantId config ∧
    (held guard.leases SecurityContext.tenantId tenantId : ℤ) ≤ config.maxConcurrentPerTenant

section Steps

variable {allowed : String → OperationalConfig → Prop} {guard guard' : GuardState}

theorem coherent_started {providerConfigs : String → Option OperationalConfig}
    (h : ∀ tenantId, allowed tenantId
      (getTenantOperationalConfig (started providerConfigs) tenantId)) :
    Coherent allowed (started providerConfigs) where
  configs := h
  identified _ hl := absurd hl List.not_mem_nil
  users := Tally.counts_empty
  tenants := Tally.counts_empty
  userLimit security _ := by
    refine ⟨_, h security.tenantId, ?_⟩
    exact Int.le_trans (by decide : (0 : ℤ) ≤ 1) (OperationalConfig.user_check _).1
  tenantLimit tenantId := by
    refine ⟨_, h tenantId, ?_⟩
    exact Int.le_trans (by decide : (0 : ℤ) ≤ 1) (OperationalConfig.tenant_check _).1

/-- `countCall` counts one more for the user and for the tenant, both below their limits. -/
theorem countCall_eq_ok {security : SecurityContext} {config : OperationalConfig}
    (h : countCall guard security config = .ok guard') :
    Tally.count guard.activeByUser (userKey security) < config.maxConcurrentPerUser ∧
      Tally.count guard.activeByTenant security.tenantId < config.maxConcurrentPerTenant ∧
      guard' = { guard with
        activeByUser := Tally.increment guard.activeByUser (userKey security)
        activeByTenant := Tally.increment guard.activeByTenant security.tenantId
        leases := guard.leases ++ [⟨security, false⟩] } := by
  unfold countCall at h
  split_ifs at h with hfull
  rw [not_or, not_le, not_le] at hfull
  exact ⟨hfull.1, hfull.2, (Except.ok.inj h).symm⟩

theorem Coherent.countCall {security : SecurityContext} {config : OperationalConfig}
    (hc : Coherent allowed guard) (hconfig : allowed security.tenantId config)
    (hid : isUuid security.tenantId = true) (h : countCall guard security config = .ok guard') :
    Coherent allowed guard' := by
  obtain ⟨huser, htenant, rfl⟩ := countCall_eq_ok h
  rw [hc.users.count_eq] at huser
  rw [hc.tenants.count_eq] at htenant
  refine ⟨hc.configs, ?_, ?_, ?_, ?_, ?_⟩
  · intro lease hl
    rcases List.mem_append.1 hl with hl | hl
    · exact hc.identified lease hl
    · rw [List.mem_singleton.1 hl]
      exact hid
  · exact hc.users.increment (held_append userKey security)
  · exact hc.tenants.increment (held_append SecurityContext.tenantId security)
  · intro other hother
    dsimp only
    rw [held_append]
    by_cases hkey : userKey other = userKey security
    · obtain rfl := userKey_injective hother hid hkey
      refine ⟨config, hconfig, ?_⟩
      rw [if_pos rfl]
      omega
    · rw [if_neg hkey]
      exact hc.userLimit other hother
  · intro tenantId
    dsimp only
    rw [held_append]
    by_cases hkey : tenantId = security.tenantId
    · subst hkey
      refine ⟨config, hconfig, ?_⟩
      rw [if_pos rfl]
      omega
    · rw [if_neg hkey]
      exact hc.tenantLimit tenantId

theorem Coherent.release (hc : Coherent allowed guard) (i : ℕ) :
    Coherent allowed (release guard i) := by
  unfold AiUsage.release
  cases hlease : guard.leases[i]? with
  | none => exact hc
  | some lease =>
    dsimp only
    split_ifs with hreleased
    · exact hc
    · have hout : lease.released = false := by simpa using hreleased
      have hheld := fun key => held_set_released key hlease hout
      refine ⟨hc.configs, ?_, ?_, ?_, ?_, ?_⟩
      · intro other hother
        rcases List.mem_or_eq_of_mem_set hother with hother | rfl
        · exact hc.identified other hother
        · exact hc.identified lease (List.mem_of_getElem? hlease)
      · exact hc.users.decrement (hheld userKey)
      · exact hc.tenants.decrement (hheld SecurityContext.tenantId)
      · intro security hid
        obtain ⟨config, hconfig, hle⟩ := hc.userLimit security hid
        refine ⟨config, hconfig, le_trans ?_ hle⟩
        rw [Int.ofNat_le, hheld userKey]
        exact Nat.le_add_right _ _
      · intro tenantId
        obtain ⟨config, hconfig, hle⟩ := hc.tenantLimit tenantId
        refine ⟨config, hconfig, le_trans ?_ hle⟩
        rw [Int.ofNat_le, hheld SecurityContext.tenantId]
        exact Nat.le_add_right _ _

theorem Coherent.saveConfig (hc : Coherent allowed guard) {tenantId : String}
    {row : OperationalConfig} (hrow : allowed tenantId row) :
    Coherent allowed (handle guard (.saveConfig tenantId row)) := by
  refine ⟨?_, hc.identified, hc.users, hc.tenants, hc.userLimit, hc.tenantLimit⟩
  intro other
  have hother := hc.configs other
  unfold handle getTenantOperationalConfig at *
  by_cases hempty : other = ""
  · rwa [if_pos hempty] at hother ⊢
  · rw [if_neg hempty] at hother ⊢
    by_cases hsame : other = tenantId
    · subst hsame
      dsimp only
      rwa [Function.update_self]
    · dsimp only
      rwa [Function.update_of_ne hsame]

end Steps

/-! ### Runs -/

/-- A call that has read a configuration read one that its tenant has had; it goes on to `countCall`
only for a tenant that is a uuid. -/
def CallOk (allowed : String → OperationalConfig → Prop) : AcquireThread → Prop
  | .checkRates security _ config => allowed security.tenantId config
  | .admitting security config =>
    allowed security.tenantId config ∧ isUuid security.tenantId = true
  | _ => True

theorem isUuid_of_countAudits {security : SecurityContext} {answer : Option AuditCounts}
    {companyId : Option ℤ} {config : OperationalConfig} {u : Unit}
    (h : (countAudits security answer >>= assertRateLimits companyId config) = .ok u) :
    isUuid security.tenantId = true := by
  unfold countAudits at h
  cases answer with
  | none => cases h
  | some counts =>
    by_cases hids : (isUuid security.tenantId && isUuid security.userId) = true
    · rw [Bool.and_eq_true] at hids
      exact hids.1
    · simp only [hids] at h
      cases h

def outline (allowed : String → OperationalConfig → Prop) : Outline GuardState AcquireThread where
  inv := Coherent allowed
  asserts _ := CallOk allowed
  pair _ _ := True
  symm _ _ _ := trivial

def Saves (allowed : String → OperationalConfig → Prop)
    (_ : Config GuardState AcquireThread) (action : GuardAction) : Prop :=
  ∀ tenantId row, action = .env (.saveConfig tenantId row) → allowed tenantId row

section Run

variable {allowed : String → OperationalConfig → Prop}

theorem advance_ok {guard : GuardState} {thread : AcquireThread} (answer : Option AuditCounts)
    (hc : Coherent allowed guard) (ht : CallOk allowed thread) :
    Coherent allowed (advance guard thread answer).1 ∧
      CallOk allowed (advance guard thread answer).2 := by
  cases thread with
  | readConfig security companyId =>
    cases answer with
    | none => exact ⟨hc, trivial⟩
    | some counts => exact ⟨hc, hc.configs security.tenantId⟩
  | checkRates security companyId config =>
    cases hrates : countAudits security answer >>= assertRateLimits companyId config with
    | error e =>
      simp only [advance, hrates]
      exact ⟨hc, trivial⟩
    | ok u =>
      simp only [advance, hrates]
      exact ⟨hc, ht, isUuid_of_countAudits hrates⟩
  | admitting security config =>
    cases hadmit : countCall guard security config with
    | error e =>
      simp only [advance, hadmit]
      exact ⟨hc, trivial⟩
    | ok guard' =>
      simp only [advance, hadmit]
      exact ⟨hc.countCall ht.1 ht.2 hadmit, trivial⟩
  | returned lease => exact ⟨hc, trivial⟩
  | thrown e => exact ⟨hc, trivial⟩

theorem outline_next {cfg : Config GuardState AcquireThread} {action : GuardAction}
    (h : (outline allowed).Holds cfg) (hsaves : Saves allowed cfg action) :
    (outline allowed).Holds (guardProgram.next cfg action) := by
  apply Outline.Holds.next (G := Saves allowed) _ _ _ h hsaves
  · intro cfg call t _ _ hstart
    obtain rfl := Option.some.inj hstart
    exact ⟨trivial, fun _ _ _ => trivial⟩
  · intro cfg i answer t hholds _ ht
    obtain ⟨hinv, hthread⟩ := advance_ok answer hholds.inv (hholds.asserts i t ht)
    exact ⟨hinv, hthread, fun j u _ hu => ⟨hholds.asserts j u hu, trivial⟩⟩
  · intro cfg event hholds hgood
    refine ⟨?_, fun i t ht => hholds.asserts i t ht⟩
    cases event with
    | saveConfig tenantId row => exact hholds.inv.saveConfig (hgood tenantId row rfl)
    | release lease => exact hholds.inv.release lease

end Run

/-- The configurations that a tenant has had: the one at the start and those saved since. -/
def configured (providerConfigs : String → Option OperationalConfig)
    (actions : List GuardAction) (tenantId : String) : List OperationalConfig :=
  getTenantOperationalConfig (started providerConfigs) tenantId ::
    actions.filterMap fun
      | .env (.saveConfig tenant row) => if tenant = tenantId then some row else none
      | _ => none

def guardAt (providerConfigs : String → Option OperationalConfig) (actions : List GuardAction) :
    GuardState :=
  (run guardProgram.next ⟨started providerConfigs, []⟩ actions).shared

theorem coherent_guardAt (providerConfigs : String → Option OperationalConfig)
    (actions : List GuardAction) :
    Coherent (fun tenantId config => config ∈ configured providerConfigs actions tenantId)
      (guardAt providerConfigs actions) := by
  have hsaves : Always guardProgram.next
      (Saves fun tenantId config => config ∈ configured providerConfigs actions tenantId)
      ⟨started providerConfigs, []⟩ actions := by
    rw [always_iff]
    rintro k action hk tenantId row rfl
    apply List.mem_cons_of_mem
    rw [List.mem_filterMap]
    exact ⟨_, List.mem_of_getElem? hk, if_pos rfl⟩
  have hstart : Coherent
      (fun tenantId config => config ∈ configured providerConfigs actions tenantId)
      (started providerConfigs) := coherent_started fun tenantId => List.mem_cons_self
  exact (Always.invariant (fun _ _ h hs => outline_next h hs)
    (Outline.holds_initial hstart) hsaves).inv

/-! ### A lease that is released stays released -/

def IsReleased (i : ℕ) (guard : GuardState) : Prop :=
  ∃ lease, guard.leases[i]? = some lease ∧ lease.released = true

theorem release_of_isReleased {guard : GuardState} {i : ℕ} (h : IsReleased i guard) :
    release guard i = guard := by
  obtain ⟨lease, hlease, hreleased⟩ := h
  simp only [release, hlease, hreleased, if_true]

theorem isReleased_release_iff {guard : GuardState} {i j : ℕ} :
    IsReleased i (release guard j) ↔ IsReleased i guard ∨ j = i ∧ i < guard.leases.length := by
  by_cases hij : j = i
  · subst hij
    unfold release
    cases hlease : guard.leases[j]? with
    | none => simp [List.getElem?_eq_none_iff.1 hlease, IsReleased]
    | some lease =>
      have hlt := (List.getElem?_eq_some_iff.1 hlease).1
      dsimp only
      split_ifs with hreleased
      · exact ⟨Or.inl, fun _ => ⟨lease, hlease, hreleased⟩⟩
      · exact ⟨fun _ => Or.inr ⟨rfl, hlt⟩, fun _ => ⟨_, List.getElem?_set_self hlt, rfl⟩⟩
  · unfold release
    cases guard.leases[j]? with
    | none => simp [hij]
    | some other =>
      dsimp only
      split_ifs <;> simp [IsReleased, List.getElem?_set_ne hij, hij]

theorem isReleased_advance_iff {guard : GuardState} {i : ℕ} (thread : AcquireThread)
    (answer : Option AuditCounts) :
    IsReleased i (advance guard thread answer).1 ↔ IsReleased i guard := by
  cases thread with
  | readConfig security companyId => cases answer <;> exact Iff.rfl
  | checkRates security companyId config =>
    cases hrates : countAudits security answer >>= assertRateLimits companyId config <;>
      simp only [AiUsage.advance, hrates]
  | admitting security config =>
    cases hadmit : countCall guard security config with
    | error e => simp only [AiUsage.advance, hadmit]
    | ok guard' =>
      obtain ⟨-, -, rfl⟩ := countCall_eq_ok hadmit
      simp only [AiUsage.advance, hadmit, IsReleased, List.getElem?_append]
      split_ifs with hi
      · exact Iff.rfl
      · rw [List.getElem?_eq_none (not_lt.1 hi), List.getElem?_singleton]
        split_ifs <;> simp
  | returned lease => exact Iff.rfl
  | thrown e => exact Iff.rfl

/-- Only the release of a lease that was given out sets its flag, and nothing takes it back. -/
theorem isReleased_next_iff {i : ℕ} {cfg : Config GuardState AcquireThread}
    {action : GuardAction} :
    IsReleased i (guardProgram.next cfg action).shared ↔
      IsReleased i cfg.shared ∨ action = .env (.release i) ∧ i < cfg.shared.leases.length := by
  cases action with
  | spawn call => simp [Program.next, guardProgram]
  | step j answer =>
    cases ht : cfg.threads[j]? with
    | none => simp [Program.next, ht]
    | some thread =>
      rw [guardProgram.next_step ht]
      simpa [guardProgram] using isReleased_advance_iff thread answer
  | env event =>
    cases event with
    | saveConfig tenantId row => simp [Program.next, guardProgram, handle, IsReleased]
    | release j => simpa [Program.next, guardProgram, handle] using isReleased_release_iff

/-! ### The law -/

def userActive (guard : GuardState) (tenant user : Uuid) : ℤ :=
  Tally.count guard.activeByUser (userKey ⟨tenant.val, user.val⟩)

def tenantActive (guard : GuardState) (tenant : Uuid) : ℤ :=
  Tally.count guard.activeByTenant tenant.val

def namesLease (lease : ℕ) : GuardAction → Bool
  | .env (.release i) => i = lease
  | _ => false

def givenBack (providerConfigs : String → Option OperationalConfig) (actions : List GuardAction)
    (lease : ℕ) : Bool :=
  (List.range actions.length).any fun k =>
    actions[k]?.any (namesLease lease) &&
      decide (lease < (guardAt providerConfigs (actions.take k)).leases.length)

def outstanding (providerConfigs : String → Option OperationalConfig)
    (actions : List GuardAction) : List SecurityContext :=
  (guardAt providerConfigs actions).leases.zipIdx.filterMap fun (lease, i) =>
    if givenBack providerConfigs actions i then none else some lease.security

def outstandingOfUser (providerConfigs : String → Option OperationalConfig)
    (actions : List GuardAction) (tenant user : Uuid) : ℕ :=
  (outstanding providerConfigs actions).countP fun security => security = ⟨tenant.val, user.val⟩

def outstandingOfTenant (providerConfigs : String → Option OperationalConfig)
    (actions : List GuardAction) (tenant : Uuid) : ℕ :=
  (outstanding providerConfigs actions).countP fun security => security.tenantId = tenant.val

theorem eq_release_of_namesLease {lease : ℕ} {action : GuardAction}
    (h : namesLease lease action = true) : action = .env (.release lease) := by
  unfold namesLease at h
  split at h
  · rw [of_decide_eq_true h]
  · cases h

/-- What holds after the actions: a limit is one that the tenant has had, so the configured one
where nobody changes it. -/
structure LeaseLaw (providerConfigs : String → Option OperationalConfig)
    (actions : List GuardAction) : Prop where
  userCount : ∀ tenant user, userActive (guardAt providerConfigs actions) tenant user =
    outstandingOfUser providerConfigs actions tenant user
  tenantCount : ∀ tenant, tenantActive (guardAt providerConfigs actions) tenant =
    outstandingOfTenant providerConfigs actions tenant
  userLimit : ∀ tenant user, ∃ config ∈ configured providerConfigs actions tenant.val,
    userActive (guardAt providerConfigs actions) tenant user ≤ config.maxConcurrentPerUser
  tenantLimit : ∀ tenant, ∃ config ∈ configured providerConfigs actions tenant.val,
    tenantActive (guardAt providerConfigs actions) tenant ≤ config.maxConcurrentPerTenant
  /-- Every number in the two maps, under whatever key, is positive. -/
  positive : ∀ key number, (guardAt providerConfigs actions).activeByUser key = some number ∨
    (guardAt providerConfigs actions).activeByTenant key = some number → 0 < number
  /-- A release of a lease that was given out and released before changes nothing. -/
  releasedTwice : ∀ j k lease, j < k → actions[j]? = some (.env (.release lease)) →
    lease < (guardAt providerConfigs (actions.take j)).leases.length →
    actions[k]? = some (.env (.release lease)) →
    guardAt providerConfigs (actions.take (k + 1)) = guardAt providerConfigs (actions.take k)

theorem guardAt_release {providerConfigs : String → Option OperationalConfig}
    {actions : List GuardAction} {k lease : ℕ} (h : actions[k]? = some (.env (.release lease))) :
    guardAt providerConfigs (actions.take (k + 1)) =
      release (guardAt providerConfigs (actions.take k)) lease := by
  have hnext := stateAt_succ guardProgram.next ⟨started providerConfigs, []⟩ h
  exact congrArg Config.shared hnext

theorem isReleased_guardAt {providerConfigs : String → Option OperationalConfig}
    {actions : List GuardAction} {j k lease : ℕ} (hjk : j < k)
    (hj : actions[j]? = some (.env (.release lease)))
    (hgiven : lease < (guardAt providerConfigs (actions.take j)).leases.length) :
    IsReleased lease (guardAt providerConfigs (actions.take k)) := by
  have hfirst : IsReleased lease (guardAt providerConfigs (actions.take (j + 1))) := by
    rw [guardAt_release hj, isReleased_release_iff]
    exact Or.inr ⟨rfl, hgiven⟩
  exact stateAt_stable (I := fun cfg : Config GuardState AcquireThread =>
    IsReleased lease cfg.shared) (fun _ _ h => isReleased_next_iff.2 (Or.inl h)) hjk hfirst

theorem givenBack_eq_true_iff {providerConfigs : String → Option OperationalConfig}
    {actions : List GuardAction} {lease : ℕ} :
    givenBack providerConfigs actions lease = true ↔
      IsReleased lease (guardAt providerConfigs actions) := by
  unfold givenBack
  rw [List.any_eq_true]
  constructor
  · rintro ⟨k, hk, hnamed⟩
    rw [Bool.and_eq_true, Option.any_eq_true, decide_eq_true_eq] at hnamed
    obtain ⟨⟨action, haction, hname⟩, hgiven⟩ := hnamed
    obtain rfl := eq_release_of_namesLease hname
    have hreleased := isReleased_guardAt (List.mem_range.1 hk) haction hgiven
    rwa [List.take_length] at hreleased
  · intro h
    obtain ⟨k, action, haction, hbefore, hafter⟩ := exists_step_of_run
      (I := fun cfg : Config GuardState AcquireThread => IsReleased lease cfg.shared)
      (by simp [IsReleased, started]) h
    obtain ⟨rfl, hgiven⟩ := (isReleased_next_iff.1 hafter).resolve_left hbefore
    refine ⟨k, List.mem_range.2 (List.getElem?_eq_some_iff.1 haction).1, ?_⟩
    rw [haction, Bool.and_eq_true]
    exact ⟨decide_eq_true rfl, decide_eq_true hgiven⟩

theorem outstanding_eq (providerConfigs : String → Option OperationalConfig)
    (actions : List GuardAction) :
    outstanding providerConfigs actions =
      ((guardAt providerConfigs actions).leases.filter fun lease => !lease.released).map
        UsageLease.security := by
  have hflag : ∀ p ∈ (guardAt providerConfigs actions).leases.zipIdx,
      (if givenBack providerConfigs actions p.2 then none else some p.1.security) =
        if p.1.released then none else some p.1.security := by
    intro p hp
    have hlease := List.mem_zipIdx_iff_getElem?.1 hp
    have hiff : givenBack providerConfigs actions p.2 = p.1.released := by
      rw [Bool.eq_iff_iff, givenBack_eq_true_iff]
      constructor
      · rintro ⟨lease, hlease', hreleased⟩
        obtain rfl := Option.some.inj (hlease.symm.trans hlease')
        exact hreleased
      · exact fun hreleased => ⟨p.1, hlease, hreleased⟩
    rw [hiff]
  unfold outstanding
  rw [List.filterMap_congr hflag]
  conv_rhs => rw [← List.zipIdx_map_fst 0 (guardAt providerConfigs actions).leases]
  rw [List.filter_map, List.map_map, ← List.filterMap_eq_map, List.filterMap_filter]
  apply List.filterMap_congr
  intro p _
  cases hreleased : p.1.released <;> simp [hreleased]

theorem held_eq_countP (providerConfigs : String → Option OperationalConfig)
    (actions : List GuardAction) (key : SecurityContext → String) (k : String) :
    held (guardAt providerConfigs actions).leases key k =
      (outstanding providerConfigs actions).countP fun security => key security = k := by
  rw [outstanding_eq, List.countP_map, List.countP_filter]
  apply List.countP_congr
  intro lease _
  simp [and_comm]

theorem held_userKey (providerConfigs : String → Option OperationalConfig)
    (actions : List GuardAction) (tenant user : Uuid) :
    held (guardAt providerConfigs actions).leases userKey (userKey ⟨tenant.val, user.val⟩) =
      outstandingOfUser providerConfigs actions tenant user := by
  rw [held_eq_countP, outstandingOfUser, outstanding_eq]
  apply List.countP_congr
  intro security hsecurity
  obtain ⟨lease, hlease, rfl⟩ := List.mem_map.1 hsecurity
  have hid := (coherent_guardAt providerConfigs actions).identified lease (List.mem_filter.1 hlease).1
  have hkey : userKey lease.security = userKey ⟨tenant.val, user.val⟩ ↔
      lease.security = ⟨tenant.val, user.val⟩ :=
    ⟨userKey_injective hid tenant.property, congrArg userKey⟩
  simp only [hkey]

/-- The counters of the guard count its outstanding leases within their limits, in every state of
every run. -/
theorem usageGuard_leaseLaw (providerConfigs : String → Option OperationalConfig)
    (actions : List GuardAction) : LeaseLaw providerConfigs actions := by
  have hc := coherent_guardAt providerConfigs actions
  have huser : ∀ tenant user, userActive (guardAt providerConfigs actions) tenant user =
      outstandingOfUser providerConfigs actions tenant user := by
    intro tenant user
    rw [userActive, hc.users.count_eq, held_userKey]
  have htenant : ∀ tenant, tenantActive (guardAt providerConfigs actions) tenant =
      outstandingOfTenant providerConfigs actions tenant := by
    intro tenant
    rw [tenantActive, hc.tenants.count_eq, held_eq_countP, outstandingOfTenant]
  refine ⟨huser, htenant, ?_, ?_, ?_, ?_⟩
  · intro tenant user
    obtain ⟨config, hconfig, hle⟩ := hc.userLimit ⟨tenant.val, user.val⟩ tenant.property
    rw [held_userKey] at hle
    exact ⟨config, hconfig, (huser tenant user).trans_le hle⟩
  · intro tenant
    obtain ⟨config, hconfig, hle⟩ := hc.tenantLimit tenant.val
    rw [held_eq_countP] at hle
    exact ⟨config, hconfig, (htenant tenant).trans_le hle⟩
  · rintro key number (h | h)
    · exact hc.users.pos h
    · exact hc.tenants.pos h
  · intro j k lease hjk hj hgiven hk
    rw [guardAt_release hk, release_of_isReleased (isReleased_guardAt hjk hj hgiven)]

end Forecast.AiUsage
