import Mathlib.Logic.Relation
import Forecast.Auth.AuthCalls

/-!
# Single use and revocation of refresh tokens

A token has one successor, a user one session, and a bulk revocation the last word, as
long as no refresh or login is under way for the user when another call of the same
user takes its token or revokes its tokens.
-/

open KeyedTable ThreadPool Runs Relation

namespace Forecast.Auth

def AuthThread.exchanging : AuthThread → Option RefreshToken
  | refreshRevoke tokenRecord _ => some tokenRecord
  | _ => none

def AuthThread.opening : AuthThread → Option Id
  | loginCreate user _ => some user.id
  | refreshRevoke tokenRecord _ => some tokenRecord.userId
  | refreshCreate tokenRecord _ => some tokenRecord.userId
  | _ => none

/-- The user whose tokens a thread revokes next, for good. -/
def AuthThread.revokingAll : AuthThread → Option Id
  | logout userId none => some userId
  | changeRevoke userId => some userId
  | resetWrite _ userId _ => some userId
  | _ => none

/-- What a thread must find the others not to be doing. -/
def AuthThread.TakesTurn (config : AuthConfig) (threads : List AuthThread) : AuthThread → Prop
  | refreshFind refreshToken _ =>
    ∀ t ∈ threads, ∀ row ∈ t.exchanging, row.token ≠ config.sha256 refreshToken
  | loginRevoke user _ => ∀ t ∈ threads, t.opening ≠ some user.id
  | t => ∀ userId ∈ t.revokingAll, ∀ u ∈ threads, ∀ row ∈ u.exchanging, row.userId ≠ userId

def TakesTurns (config : AuthConfig) (pool : AuthPool) : AuthAction → Prop
  | .step i .none => ∀ t ∈ pool.threads[i]?, t.TakesTurn config pool.threads
  | _ => True

instance (config : AuthConfig) (threads : List AuthThread) :
    DecidablePred (AuthThread.TakesTurn config threads)
  | .refreshFind _ _ => inferInstanceAs (Decidable (∀ t ∈ threads, ∀ row ∈ t.exchanging, _))
  | .loginRevoke _ _ => inferInstanceAs (Decidable (∀ t ∈ threads, _))
  | t => by
    unfold AuthThread.TakesTurn
    cases t <;> infer_instance

instance (config : AuthConfig) (pool : AuthPool) : DecidablePred (TakesTurns config pool)
  | .step i .none =>
    inferInstanceAs (Decidable (∀ t ∈ pool.threads[i]?, t.TakesTurn config pool.threads))
  | .step _ .crash => isTrue trivial
  | .spawn _ => isTrue trivial
  | .env _ => isTrue trivial

/-! ### The tokens of a state -/

namespace AuthState

variable {s : AuthState}

def Live (s : AuthState) (row : RefreshToken) : Prop :=
  row ∈ s.refreshTokens ∧ row.revokedAt = none

def Spent (s : AuthState) (id : Id) : Prop :=
  ∃ row ∈ s.refreshTokens, row.id = id ∧ row.revokedAt ≠ none

/-- The row of a token that was read before. -/
def Holds (s : AuthState) (record : RefreshToken) : Prop :=
  ∃ row ∈ s.refreshTokens,
    row.id = record.id ∧ row.userId = record.userId ∧ row.token = record.token

structure TokensInOrder (s : AuthState) : Prop where
  keyed : (s.refreshTokens.map RefreshToken.id).Nodup
  oneSession : ∀ a b, s.Live a → s.Live b → a.userId = b.userId → a.id = b.id
  exchangedSpent : ∀ e ∈ s.exchanged, s.Spent e.1
  exchangedOnce : ∀ e ∈ s.exchanged, ∀ e' ∈ s.exchanged, e.1 = e'.1 → e.2 = e'.2
  revokedSpent : ∀ id ∈ s.revokedInBulk, s.Spent id
  revokedLast : ∀ id ∈ s.revokedInBulk, ∀ e ∈ s.exchanged, e.1 ≠ id

/-- A token that nobody exchanged and no bulk revocation took. -/
def Unused (s : AuthState) (id : Id) : Prop :=
  (∀ e ∈ s.exchanged, e.1 ≠ id) ∧ id ∉ s.revokedInBulk

theorem row_unique (h : s.TokensInOrder) {a b : RefreshToken} (ha : a ∈ s.refreshTokens)
    (hb : b ∈ s.refreshTokens) (hid : a.id = b.id) : a = b := by
  have hfound := lookup_of_mem h.keyed ha
  rw [hid, lookup_of_mem h.keyed hb] at hfound
  exact (Option.some.inj hfound).symm

theorem Live.not_spent (h : s.TokensInOrder) {row : RefreshToken} (hlive : s.Live row) :
    ¬s.Spent row.id := by
  rintro ⟨row', hmem, hid, hrevoked⟩
  rw [row_unique h hmem hlive.1 hid] at hrevoked
  exact hrevoked hlive.2

theorem Live.unused (h : s.TokensInOrder) {row : RefreshToken} (hlive : s.Live row) :
    s.Unused row.id := by
  refine ⟨fun e he hid => hlive.not_spent h ?_, fun hmem => hlive.not_spent h ?_⟩
  · rw [← hid]
    exact h.exchangedSpent e he
  · exact h.revokedSpent _ hmem

/-! ### Revocations -/

/-- Some rows are revoked, nothing is exchanged, and only tokens that were live are listed as
revoked in bulk. -/
structure Revokes (s s' : AuthState) (revoked : List Id) : Prop where
  rows : ∃ p : RefreshToken → Bool, s'.refreshTokens = (s.revokeWhere p).refreshTokens ∧
    ∀ id ∈ revoked, ∃ row, s.Live row ∧ row.id = id ∧ p row
  exchanged : s'.exchanged = s.exchanged
  revokedInBulk : s'.revokedInBulk = s.revokedInBulk ++ revoked

variable {s' : AuthState} {revoked : List Id}

theorem ids_revokeWhere (s : AuthState) (p : RefreshToken → Bool) :
    (s.revokeWhere p).refreshTokens.map RefreshToken.id =
      s.refreshTokens.map RefreshToken.id := by
  unfold revokeWhere
  rw [List.map_map]
  refine List.map_congr_left fun row _ => ?_
  rw [Function.comp_apply]
  split_ifs <;> rfl

theorem Live.of_revokeWhere {p : RefreshToken → Bool} {row : RefreshToken}
    (h : (s.revokeWhere p).Live row) : s.Live row ∧ p row = false := by
  obtain ⟨hmem, hlive⟩ := h
  obtain ⟨old, hold, rfl⟩ := List.mem_map.1 hmem
  split_ifs at hlive ⊢ with hp
  exact ⟨⟨hold, hlive⟩, by simpa using hp⟩

theorem mem_revokeWhere (p : RefreshToken → Bool) {row : RefreshToken}
    (h : row ∈ s.refreshTokens) : ∃ row' ∈ (s.revokeWhere p).refreshTokens,
      row'.id = row.id ∧ row'.userId = row.userId ∧ row'.token = row.token ∧
        (row.revokedAt ≠ none ∨ p row → row'.revokedAt ≠ none) := by
  refine ⟨_, List.mem_map_of_mem h, ?_⟩
  split_ifs with hp
  · exact ⟨rfl, rfl, rfl, fun _ => by simp⟩
  · exact ⟨rfl, rfl, rfl, fun h => h.elim (fun h => h) fun h => absurd h hp⟩

namespace Revokes

theorem live (h : Revokes s s' revoked) {row : RefreshToken} (hlive : s'.Live row) :
    s.Live row := by
  obtain ⟨p, hrows, -⟩ := h.rows
  rw [Live, hrows] at hlive
  exact (Live.of_revokeWhere hlive).1

theorem spent (h : Revokes s s' revoked) {id : Id} (hspent : s.Spent id) : s'.Spent id := by
  obtain ⟨p, hrows, -⟩ := h.rows
  obtain ⟨row, hmem, rfl, hrevoked⟩ := hspent
  obtain ⟨row', hmem', hid, -, -, hkeeps⟩ := mem_revokeWhere p hmem
  exact ⟨row', hrows ▸ hmem', hid, hkeeps (Or.inl hrevoked)⟩

theorem holds (h : Revokes s s' revoked) {record : RefreshToken} (hholds : s.Holds record) :
    s'.Holds record := by
  obtain ⟨p, hrows, -⟩ := h.rows
  obtain ⟨row, hmem, hid, huser, htoken⟩ := hholds
  obtain ⟨row', hmem', hid', huser', htoken', -⟩ := mem_revokeWhere p hmem
  exact ⟨row', hrows ▸ hmem', hid'.trans hid, huser'.trans huser, htoken'.trans htoken⟩

theorem unused (h : Revokes s s' revoked) {id : Id} (hunused : s.Unused id)
    (hnot : id ∉ revoked) : s'.Unused id := by
  refine ⟨h.exchanged ▸ hunused.1, ?_⟩
  rw [h.revokedInBulk, List.mem_append]
  exact fun hmem => hmem.elim hunused.2 hnot

theorem inOrder (h : Revokes s s' revoked) (hs : s.TokensInOrder) : s'.TokensInOrder := by
  obtain ⟨p, hrows, hrevoked⟩ := h.rows
  refine ⟨?_, fun a b ha hb => hs.oneSession a b (h.live ha) (h.live hb), fun e he => ?_, ?_,
    fun id hid => ?_, fun id hid e he => ?_⟩
  · rw [hrows, ids_revokeWhere]
    exact hs.keyed
  · rw [h.exchanged] at he
    exact h.spent (hs.exchangedSpent e he)
  · rw [h.exchanged]
    exact hs.exchangedOnce
  · rw [h.revokedInBulk] at hid
    rcases List.mem_append.1 hid with hold | hnew
    · exact h.spent (hs.revokedSpent id hold)
    · obtain ⟨row, hlive, rfl, hp⟩ := hrevoked id hnew
      obtain ⟨row', hmem', hid', -, -, hkeeps⟩ := mem_revokeWhere p hlive.1
      exact ⟨row', hrows ▸ hmem', hid', hkeeps (Or.inr hp)⟩
  · rw [h.exchanged] at he
    rw [h.revokedInBulk] at hid
    rcases List.mem_append.1 hid with hold | hnew
    · exact hs.revokedLast id hold e he
    · obtain ⟨row, hlive, rfl, -⟩ := hrevoked id hnew
      exact (hlive.unused hs).1 e he

end Revokes

theorem revokes_of_eq (htokens : s'.refreshTokens = s.refreshTokens)
    (hexchanged : s'.exchanged = s.exchanged) (hbulk : s'.revokedInBulk = s.revokedInBulk) :
    Revokes s s' [] := by
  refine ⟨⟨fun _ => false, ?_, fun id hid => by cases hid⟩, hexchanged, by simp [hbulk]⟩
  rw [htokens]
  simp [revokeWhere]

theorem revokes_where (s : AuthState) (p : RefreshToken → Bool) :
    Revokes s (s.revokeWhere p) [] :=
  ⟨⟨p, rfl, fun id hid => by cases hid⟩, rfl, (List.append_nil _).symm⟩

theorem revokes_inBulk (s : AuthState) (userId : Id) :
    Revokes s (s.revokeInBulk userId)
      ((s.refreshTokens.filter (isLiveOf userId)).map RefreshToken.id) := by
  refine ⟨⟨isLiveOf userId, rfl, fun id hid => ?_⟩, rfl, rfl⟩
  obtain ⟨row, hrow, rfl⟩ := List.mem_map.1 hid
  obtain ⟨hmem, hlive⟩ := List.mem_filter.1 hrow
  have hparts : row.userId = userId ∧ row.revokedAt = none := by simpa [isLiveOf] using hlive
  exact ⟨row, ⟨hmem, hparts.2⟩, rfl, hlive⟩

/-! ### New tokens -/

/-- A token of the user is created, perhaps in exchange for another. -/
structure Creates (s s' : AuthState) (userId : Id) (exchange : Option (Id × Id)) : Prop where
  rows : ∃ row : RefreshToken, s'.refreshTokens = s.refreshTokens ++ [row] ∧
    row.id = s.freshTokenId ∧ row.userId = userId
  exchanged : s'.exchanged = s.exchanged ++ exchange.toList
  revokedInBulk : s'.revokedInBulk = s.revokedInBulk

namespace Creates

variable {userId : Id} {exchange : Option (Id × Id)}

theorem live (h : Creates s s' userId exchange) {row : RefreshToken} (hlive : s'.Live row) :
    s.Live row ∨ (row.userId = userId ∧ row.id = s.freshTokenId) := by
  obtain ⟨new, hrows, hid, huser⟩ := h.rows
  obtain ⟨hmem, hnull⟩ := hlive
  rw [hrows] at hmem
  rcases List.mem_append.1 hmem with hold | hnew
  · exact Or.inl ⟨hold, hnull⟩
  · rw [List.mem_singleton] at hnew
    subst hnew
    exact Or.inr ⟨huser, hid⟩

theorem mem (h : Creates s s' userId exchange) {row : RefreshToken}
    (hmem : row ∈ s.refreshTokens) : row ∈ s'.refreshTokens := by
  obtain ⟨new, hrows, -⟩ := h.rows
  rw [hrows]
  exact List.mem_append_left _ hmem

theorem spent (h : Creates s s' userId exchange) {id : Id} (hspent : s.Spent id) :
    s'.Spent id := by
  obtain ⟨row, hmem, hrow⟩ := hspent
  exact ⟨row, h.mem hmem, hrow⟩

theorem holds (h : Creates s s' userId exchange) {record : RefreshToken}
    (hholds : s.Holds record) : s'.Holds record := by
  obtain ⟨row, hmem, hrow⟩ := hholds
  exact ⟨row, h.mem hmem, hrow⟩

theorem mem_exchanged (h : Creates s s' userId exchange) {e : Id × Id} :
    e ∈ s'.exchanged ↔ e ∈ s.exchanged ∨ exchange = some e := by
  rw [h.exchanged, List.mem_append, Option.mem_toList]

theorem unused (h : Creates s s' userId exchange) {id : Id} (hunused : s.Unused id)
    (hnot : ∀ e ∈ exchange, e.1 ≠ id) : s'.Unused id := by
  refine ⟨fun e he => ?_, h.revokedInBulk ▸ hunused.2⟩
  rcases h.mem_exchanged.1 he with hold | hnew
  · exact hunused.1 e hold
  · exact hnot e hnew

theorem inOrder (h : Creates s s' userId exchange) (hs : s.TokensInOrder)
    (hnone : ∀ row, s.Live row → row.userId ≠ userId)
    (hexchange : ∀ e ∈ exchange, s.Spent e.1 ∧ s.Unused e.1) : s'.TokensInOrder := by
  refine ⟨?_, fun a b ha hb huser => ?_, fun e he => ?_, fun e he e' he' hold => ?_,
    fun id hid => ?_, fun id hid e he => ?_⟩
  · obtain ⟨new, hrows, hid, -⟩ := h.rows
    rw [hrows, List.map_append]
    refine hs.keyed.append (List.nodup_singleton _) fun id hmem hnew => ?_
    rw [List.map_singleton, List.mem_singleton] at hnew
    subst hnew
    rw [hid] at hmem
    exact freshId_not_mem _ hmem
  · rcases h.live ha with ha | ⟨hauser, haid⟩ <;> rcases h.live hb with hb | ⟨hbuser, hbid⟩
    · exact hs.oneSession a b ha hb huser
    · exact absurd (huser.trans hbuser) (hnone a ha)
    · exact absurd (huser.symm.trans hauser) (hnone b hb)
    · exact haid.trans hbid.symm
  · rcases h.mem_exchanged.1 he with hold | hnew
    · exact h.spent (hs.exchangedSpent e hold)
    · exact h.spent (hexchange e hnew).1
  · rcases h.mem_exchanged.1 he with hmem | hnew <;>
      rcases h.mem_exchanged.1 he' with hmem' | hnew'
    · exact hs.exchangedOnce e hmem e' hmem' hold
    · exact absurd hold ((hexchange e' hnew').2.1 e hmem)
    · exact absurd hold.symm ((hexchange e hnew).2.1 e' hmem')
    · rw [Option.some.inj (hnew.symm.trans hnew')]
  · rw [h.revokedInBulk] at hid
    exact h.spent (hs.revokedSpent id hid)
  · rw [h.revokedInBulk] at hid
    rcases h.mem_exchanged.1 he with hold | hnew
    · exact hs.revokedLast id hid e hold
    · rintro rfl
      exact (hexchange e hnew).2.2 hid

end Creates

theorem creates_of_createToken {config : AuthConfig} {tenantId userId : Id} {refreshToken : String}
    (h : s.createToken config tenantId userId refreshToken = some s') :
    Creates s s' userId none := by
  unfold createToken at h
  dsimp only at h
  split_ifs at h
  obtain rfl := Option.some.inj h
  exact ⟨⟨_, rfl, rfl, rfl⟩, (List.append_nil _).symm, rfl⟩

theorem holds_unique (hs : s.TokensInOrder) {a b : RefreshToken} (ha : s.Holds a)
    (hb : s.Holds b) (hid : a.id = b.id) : a.userId = b.userId := by
  obtain ⟨row, hmem, hrowId, huser, -⟩ := ha
  obtain ⟨row', hmem', hrowId', huser', -⟩ := hb
  rw [← huser, ← huser', row_unique hs hmem hmem' (hrowId.trans (hid.trans hrowId'.symm))]

theorem Live.holds {row : RefreshToken} (h : s.Live row) : s.Holds row :=
  ⟨row, h.1, rfl, rfl, rfl⟩

end AuthState

/-! ### What a thread knows -/

open AuthState

/-- What a thread that is about to create a token knows of the tokens. -/
def AuthThread.Knows (s : AuthState) : AuthThread → Prop
  | loginCreate user _ => ∀ row, s.Live row → row.userId ≠ user.id
  | refreshRevoke record _ => s.Holds record ∧ s.Unused record.id ∧
      ∀ row, s.Live row → row.userId = record.userId → row.id = record.id
  | refreshCreate record _ => s.Holds record ∧ s.Unused record.id ∧ s.Spent record.id ∧
      ∀ row, s.Live row → row.userId ≠ record.userId
  | _ => True

theorem AuthThread.knows_of_opening_eq_none {s : AuthState} {t : AuthThread}
    (h : t.opening = none) : t.Knows s := by
  cases t <;> trivial

theorem AuthThread.Knows.revokes {s s' : AuthState} {revoked : List Id} {t : AuthThread}
    (ht : t.Knows s) (hs : s.TokensInOrder) (h : Revokes s s' revoked)
    (hnot : ∀ record ∈ t.exchanging, record.id ∉ revoked) : t.Knows s' := by
  cases t with
  | loginCreate user random => exact fun row hlive => ht row (h.live hlive)
  | refreshRevoke record random =>
    obtain ⟨hholds, hunused, honly⟩ := ht
    exact ⟨h.holds hholds, h.unused hunused (hnot record rfl),
      fun row hlive => honly row (h.live hlive)⟩
  | refreshCreate record random =>
    obtain ⟨hholds, hunused, hspent, hnone⟩ := ht
    refine ⟨h.holds hholds, h.unused hunused fun hmem => ?_, h.spent hspent,
      fun row hlive => hnone row (h.live hlive)⟩
    obtain ⟨p, -, hrevoked⟩ := h.rows
    obtain ⟨row, hlive, hid, -⟩ := hrevoked record.id hmem
    exact hlive.not_spent hs (hid ▸ hspent)
  | _ => trivial

theorem AuthThread.Knows.creates {s s' : AuthState} {userId : Id} {exchange : Option (Id × Id)}
    {t : AuthThread} (ht : t.Knows s) (hs : s.TokensInOrder) (h : Creates s s' userId exchange)
    (hexchange : ∀ e ∈ exchange, ∃ record, s.Holds record ∧ record.id = e.1 ∧
      record.userId = userId) (hother : t.opening ≠ some userId) : t.Knows s' := by
  have hlive : ∀ {other : Id}, other ≠ userId → ∀ row, s'.Live row → row.userId = other →
      s.Live row := by
    intro other hne row hrow huser
    rcases h.live hrow with hold | ⟨hnew, -⟩
    · exact hold
    · exact absurd (huser.symm.trans hnew) hne
  have hunused : ∀ {record : RefreshToken}, s.Holds record → record.userId ≠ userId →
      s.Unused record.id → s'.Unused record.id := by
    intro record hholds hne hunused
    refine h.unused hunused fun e he hid => hne ?_
    obtain ⟨record', hholds', hid', huser'⟩ := hexchange e he
    rw [← huser']
    exact holds_unique hs hholds hholds' (hid.symm.trans hid'.symm)
  cases t with
  | loginCreate user random =>
    have hne : user.id ≠ userId := fun heq => hother (congrArg some heq)
    exact fun row hrow huser => ht row (hlive hne row hrow huser) huser
  | refreshRevoke record random =>
    have hne : record.userId ≠ userId := fun heq => hother (congrArg some heq)
    obtain ⟨hholds, hold, honly⟩ := ht
    exact ⟨h.holds hholds, hunused hholds hne hold,
      fun row hrow huser => honly row (hlive hne row hrow huser) huser⟩
  | refreshCreate record random =>
    have hne : record.userId ≠ userId := fun heq => hother (congrArg some heq)
    obtain ⟨hholds, hold, hspent, hnone⟩ := ht
    exact ⟨h.holds hholds, hunused hholds hne hold, h.spent hspent,
      fun row hrow huser => hnone row (hlive hne row hrow huser) huser⟩
  | _ => trivial

def sessionOutline : Outline AuthState AuthThread where
  inv := TokensInOrder
  asserts s t := t.Knows s
  pair t u := ∀ userId, t.opening = some userId → u.opening ≠ some userId
  symm _ _ h userId hu ht := h userId ht hu

/-! ### One step -/

section Steps

variable {config : AuthConfig} {pool : AuthPool} {i : ℕ} {t t' : AuthThread} {s' : AuthState}

/-- What the step of a thread owes the outline. -/
def StepKeeps (pool : AuthPool) (i : ℕ) (s' : AuthState) (t' : AuthThread) : Prop :=
  s'.TokensInOrder ∧ t'.Knows s' ∧ ∀ (j : ℕ) (u : AuthThread), j ≠ i →
    pool.threads[j]? = some u →
      u.Knows s' ∧ ∀ userId, t'.opening = some userId → u.opening ≠ some userId

theorem stepKeeps_of_revokes (hholds : sessionOutline.Holds pool) {revoked : List Id}
    (h : Revokes pool.shared s' revoked)
    (hnot : ∀ u ∈ pool.threads, ∀ record ∈ u.exchanging, record.id ∉ revoked)
    (hknows : t'.Knows s')
    (hopening : ∀ (j : ℕ) (u : AuthThread), j ≠ i → pool.threads[j]? = some u →
      ∀ userId, t'.opening = some userId → u.opening ≠ some userId) :
    StepKeeps pool i s' t' := by
  refine ⟨h.inOrder hholds.inv, hknows, fun j u hj hu => ⟨?_, hopening j u hj hu⟩⟩
  have hknown : u.Knows pool.shared := hholds.asserts j u hu
  exact hknown.revokes hholds.inv h (hnot u (List.mem_of_getElem? hu))

/-- A statement that leaves the tokens as they are, and after which nobody is about to create
one. -/
theorem stepKeeps_of_eq (hholds : sessionOutline.Holds pool)
    (htokens : s'.refreshTokens = pool.shared.refreshTokens)
    (hexchanged : s'.exchanged = pool.shared.exchanged)
    (hbulk : s'.revokedInBulk = pool.shared.revokedInBulk) (hopening : t'.opening = none) :
    StepKeeps pool i s' t' := by
  refine stepKeeps_of_revokes hholds (revokes_of_eq htokens hexchanged hbulk)
    (fun _ _ _ _ hid => by cases hid) (AuthThread.knows_of_opening_eq_none hopening)
    fun j u _ _ userId huser => ?_
  rw [hopening] at huser
  cases huser

theorem stepKeeps_of_creates (hholds : sessionOutline.Holds pool)
    (ht : pool.threads[i]? = some t) {userId : Id} (hopening : t.opening = some userId)
    {exchange : Option (Id × Id)} (h : Creates pool.shared s' userId exchange)
    (hnone : ∀ row, pool.shared.Live row → row.userId ≠ userId)
    (hexchange : ∀ e ∈ exchange, ∃ record : RefreshToken, pool.shared.Holds record ∧
      record.id = e.1 ∧ record.userId = userId ∧ pool.shared.Spent record.id ∧
        pool.shared.Unused record.id) :
    StepKeeps pool i s' .returned := by
  refine ⟨h.inOrder hholds.inv hnone fun e he => ?_, trivial, fun j u hj hu => ⟨?_, ?_⟩⟩
  · obtain ⟨record, -, hid, -, hspent, hunused⟩ := hexchange e he
    rw [← hid]
    exact ⟨hspent, hunused⟩
  · have hknown : u.Knows pool.shared := hholds.asserts j u hu
    refine hknown.creates hholds.inv h (fun e he => ?_)
      (hholds.pair i j t u (Ne.symm hj) ht hu userId hopening)
    obtain ⟨record, hrecord, hid, huser, -⟩ := hexchange e he
    exact ⟨record, hrecord, hid, huser⟩
  · rintro userId ⟨⟩

theorem stepKeeps_of_bulk (hholds : sessionOutline.Holds pool) {userId : Id}
    (hturn : ∀ u ∈ pool.threads, ∀ record ∈ u.exchanging, record.userId ≠ userId)
    (h : Revokes pool.shared s'
      ((pool.shared.refreshTokens.filter (isLiveOf userId)).map RefreshToken.id)) :
    StepKeeps pool i s' .returned := by
  refine stepKeeps_of_revokes hholds h (fun u hu record hrecord hmem => ?_) trivial
    fun j u _ _ userId huser => by cases huser
  obtain ⟨row, hrow, hid⟩ := List.mem_map.1 hmem
  obtain ⟨hrow, hlive⟩ := List.mem_filter.1 hrow
  have huser : row.userId = userId ∧ row.revokedAt = none := by simpa [isLiveOf] using hlive
  obtain ⟨j, hj⟩ := List.mem_iff_getElem?.1 hu
  have hknown : u.Knows pool.shared := hholds.asserts j u hj
  cases u with
  | refreshRevoke record' random =>
    obtain rfl := Option.some.inj hrecord
    refine hturn _ hu _ rfl ?_
    rw [← huser.1]
    exact (holds_unique hholds.inv ⟨row, hrow, rfl, rfl, rfl⟩ hknown.1 hid).symm
  | _ => cases hrecord

theorem stepKeeps_of_found (hholds : sessionOutline.Holds pool) {record : RefreshToken}
    {random : String} (hlive : pool.shared.Live record)
    (hturn : ∀ u ∈ pool.threads, ∀ row ∈ u.exchanging, row.token ≠ record.token) :
    StepKeeps pool i pool.shared (.refreshRevoke record random) := by
  refine stepKeeps_of_revokes hholds (revokes_of_eq rfl rfl rfl)
    (fun _ _ _ _ hid => by cases hid)
    ⟨hlive.holds, hlive.unused hholds.inv,
      fun row hrow huser => hholds.inv.oneSession row record hrow hlive huser⟩ ?_
  intro j u _ hu userId huser hopening
  obtain rfl := Option.some.inj huser
  have hknown : u.Knows pool.shared := hholds.asserts j u hu
  cases u with
  | loginCreate user random => exact hknown record hlive (Option.some.inj hopening).symm
  | refreshRevoke record' random =>
    obtain ⟨hholds', -, honly⟩ := hknown
    have hid := honly record hlive (Option.some.inj hopening).symm
    obtain ⟨row, hmem, hrowId, -, htoken⟩ := hholds'
    refine hturn _ (List.mem_of_getElem? hu) record' rfl ?_
    rw [← htoken, row_unique hholds.inv hmem hlive.1 (hrowId.trans hid.symm)]
  | refreshCreate record' random =>
    exact hknown.2.2.2 record hlive (Option.some.inj hopening).symm
  | _ => cases hopening

theorem checkRecord_cases (s : AuthState) (record : RefreshToken) (random : String) :
    (AuthThread.checkRecord s record random).opening = none ∨
      AuthThread.checkRecord s record random = .refreshRevoke record random := by
  unfold AuthThread.checkRecord
  repeat' split
  all_goals first | exact Or.inr rfl | exact Or.inl rfl

theorem opening_checkUser (s : AuthState) (dto : LoginDto) (user : User) (random : String) :
    (AuthThread.checkUser config s dto user random).opening = none := by
  unfold AuthThread.checkUser
  split_ifs <;> rfl

theorem stepKeeps_succeed (hholds : sessionOutline.Holds pool) (ht : pool.threads[i]? = some t)
    (hturn : t.TakesTurn config pool.threads) :
    StepKeeps pool i (t.succeed config pool.shared).1 (t.succeed config pool.shared).2 := by
  have hknown : t.Knows pool.shared := hholds.asserts i t ht
  cases t with
  | loginTenant dto random =>
    simp only [AuthThread.succeed]
    split
    · exact stepKeeps_of_eq hholds rfl rfl rfl rfl
    · split <;> exact stepKeeps_of_eq hholds rfl rfl rfl rfl
  | loginUser dto tenantId random =>
    simp only [AuthThread.succeed]
    split
    · exact stepKeeps_of_eq hholds rfl rfl rfl rfl
    · exact stepKeeps_of_eq hholds rfl rfl rfl (opening_checkUser _ _ _ _)
  | failedLogin userId =>
    simp only [AuthThread.succeed]
    split <;> exact stepKeeps_of_eq hholds rfl rfl rfl rfl
  | countFailure userId newFailedCount => exact stepKeeps_of_eq hholds rfl rfl rfl rfl
  | loginUpdate user random => exact stepKeeps_of_eq hholds rfl rfl rfl rfl
  | loginRevoke user random =>
    refine stepKeeps_of_revokes hholds (revokes_where _ _) (fun _ _ _ _ hid => by cases hid)
      (fun row hlive huser => ?_) fun j u _ hu userId huser => ?_
    · obtain ⟨hbefore, hnot⟩ := Live.of_revokeWhere hlive
      simp [isLiveOf, huser, hbefore.2] at hnot
    · obtain rfl := Option.some.inj huser
      exact hturn u (List.mem_of_getElem? hu)
  | loginCreate user random =>
    simp only [AuthThread.succeed]
    split
    · exact stepKeeps_of_eq hholds rfl rfl rfl rfl
    · rename_i s' hcreated
      have hcreates := creates_of_createToken hcreated
      exact stepKeeps_of_creates hholds ht rfl
        ⟨hcreates.rows, hcreates.exchanged, hcreates.revokedInBulk⟩ hknown fun e he => by cases he
  | refreshFind refreshToken random =>
    simp only [AuthThread.succeed]
    split
    · exact stepKeeps_of_eq hholds rfl rfl rfl rfl
    · rename_i record hfound
      have hrecord := List.find?_some hfound
      rw [decide_eq_true_iff] at hrecord
      rcases checkRecord_cases pool.shared record random with hnone | hfine
      · exact stepKeeps_of_eq hholds rfl rfl rfl hnone
      · rw [hfine]
        refine stepKeeps_of_found hholds ⟨List.mem_of_find?_eq_some hfound, hrecord.2⟩ ?_
        rw [hrecord.1]
        exact hturn
  | refreshRevoke record random =>
    obtain ⟨hrecord, hunused, honly⟩ := hknown
    have hrevokes := revokes_where pool.shared fun row => row.id = record.id
    refine stepKeeps_of_revokes hholds hrevokes (fun _ _ _ _ hid => by cases hid)
      ⟨hrevokes.holds hrecord, hrevokes.unused hunused (by simp), ?_, fun row hlive huser => ?_⟩
      fun j u hj hu => hholds.pair i j (.refreshRevoke record random) u (Ne.symm hj) ht hu
    · obtain ⟨row, hmem, hid, -⟩ := hrecord
      obtain ⟨row', hmem', hid', -, -, hkeeps⟩ :=
        mem_revokeWhere (s := pool.shared) (fun row => row.id = record.id) hmem
      exact ⟨row', hmem', hid'.trans hid, hkeeps (Or.inr (by simpa using hid))⟩
    · obtain ⟨hbefore, hnot⟩ := Live.of_revokeWhere hlive
      simp [honly row hbefore huser] at hnot
  | refreshCreate record random =>
    obtain ⟨hrecord, hunused, hspent, hnone⟩ := hknown
    simp only [AuthThread.succeed]
    split
    · exact stepKeeps_of_eq hholds rfl rfl rfl rfl
    · rename_i s' hcreated
      have hcreates := creates_of_createToken hcreated
      have hexchange : ∀ e ∈ some (record.id, pool.shared.freshTokenId),
          ∃ row : RefreshToken, pool.shared.Holds row ∧ row.id = e.1 ∧
            row.userId = record.userId ∧ pool.shared.Spent row.id ∧ pool.shared.Unused row.id := by
        intro e he
        obtain rfl := Option.some.inj he
        exact ⟨record, hrecord, rfl, rfl, hspent, hunused⟩
      exact stepKeeps_of_creates hholds ht rfl
        ⟨hcreates.rows, rfl, hcreates.revokedInBulk⟩ hnone hexchange
  | logout userId refreshToken =>
    cases refreshToken with
    | none => exact stepKeeps_of_bulk hholds (hturn userId rfl) (revokes_inBulk _ _)
    | some refreshToken =>
      exact stepKeeps_of_revokes hholds (revokes_where _ _) (fun _ _ _ _ hid => by cases hid)
        trivial fun j u _ _ userId huser => by cases huser
  | changeFind userId currentPassword newPassword =>
    simp only [AuthThread.succeed]
    split
    · exact stepKeeps_of_eq hholds rfl rfl rfl rfl
    · split <;> exact stepKeeps_of_eq hholds rfl rfl rfl rfl
  | changeUpdate userId newPassword => exact stepKeeps_of_eq hholds rfl rfl rfl rfl
  | changeRevoke userId => exact stepKeeps_of_bulk hholds (hturn userId rfl) (revokes_inBulk _ _)
  | resetTenant dto =>
    simp only [AuthThread.succeed]
    split <;> exact stepKeeps_of_eq hholds rfl rfl rfl rfl
  | resetUser dto tenantId =>
    simp only [AuthThread.succeed]
    split <;> exact stepKeeps_of_eq hholds rfl rfl rfl rfl
  | resetOtp dto userId =>
    simp only [AuthThread.succeed]
    split <;> exact stepKeeps_of_eq hholds rfl rfl rfl rfl
  | resetWrite dto userId tokenRecordId =>
    have hrevokes := revokes_inBulk pool.shared userId
    exact stepKeeps_of_bulk hholds (hturn userId rfl)
      ⟨hrevokes.rows, hrevokes.exchanged, hrevokes.revokedInBulk⟩
  | returned => exact stepKeeps_of_eq hholds rfl rfl rfl rfl
  | thrown error => exact stepKeeps_of_eq hholds rfl rfl rfl rfl

end Steps

theorem opening_start (config : AuthConfig) (call : AuthCall) :
    (call.start config).opening = none := by
  cases call with
  | login dto random =>
    simp only [AuthCall.start]
    split_ifs <;> rfl
  | refreshToken text random =>
    simp only [AuthCall.start]
    split_ifs <;> rfl
  | logout userId refreshToken => cases userId <;> rfl
  | changePassword userId currentPassword newPassword => cases userId <;> rfl
  | resetPassword dto =>
    simp only [AuthCall.start]
    split_ifs <;> rfl

theorem sessionOutline_startOk (config : AuthConfig) :
    sessionOutline.StartOk (authProgram config) (TakesTurns config) := by
  intro pool call t _ _ hstart
  obtain rfl := Option.some.inj hstart
  have hnone := opening_start config call
  refine ⟨AuthThread.knows_of_opening_eq_none hnone, fun _ _ _ userId huser => ?_⟩
  rw [hnone] at huser
  cases huser

theorem sessionOutline_stepOk (config : AuthConfig) :
    sessionOutline.StepOk (authProgram config) (TakesTurns config) := by
  intro pool i fault t hholds hgood ht
  cases fault with
  | none => exact stepKeeps_succeed hholds ht (hgood t ht)
  | crash =>
    change StepKeeps pool i pool.shared (.thrown .crashed)
    exact stepKeeps_of_eq hholds rfl rfl rfl rfl

theorem sessionOutline_envOk (config : AuthConfig) :
    sessionOutline.EnvOk (authProgram config) (TakesTurns config) := by
  intro pool event hholds _
  have hrevokes : Revokes pool.shared (event.apply config pool.shared) [] := by
    cases event <;> exact revokes_of_eq rfl rfl rfl
  refine ⟨hrevokes.inOrder hholds.inv, fun i t ht => ?_⟩
  have hknown : t.Knows pool.shared := hholds.asserts i t ht
  exact hknown.revokes hholds.inv hrevokes fun _ _ hid => by cases hid

/-- The tokens along a run of steps of the calls. -/
structure SessionLaw (config : AuthConfig) (start : AuthState) (actions : List AuthAction) :
    Prop where
  exchangedOnce : ∀ k old new new',
    (old, new) ∈ (stateAt (authProgram config).next ⟨start, []⟩ actions k).shared.exchanged →
      (old, new') ∈ (stateAt (authProgram config).next ⟨start, []⟩ actions k).shared.exchanged →
        new = new'
  oneSession : ∀ k,
    ∀ userId ∈ (stateAt (authProgram config).next ⟨start, []⟩ actions k).shared.loggedIn,
      ∀ a ∈ (stateAt (authProgram config).next ⟨start, []⟩ actions k).shared.refreshTokens,
        ∀ b ∈ (stateAt (authProgram config).next ⟨start, []⟩ actions k).shared.refreshTokens,
          a.userId = userId → b.userId = userId → a.revokedAt = none → b.revokedAt = none →
            a.id = b.id
  /-- No token descends from a revoked one and is still good. -/
  revokedForGood : ∀ k,
    ∀ id ∈ (stateAt (authProgram config).next ⟨start, []⟩ actions k).shared.revokedInBulk,
      ∀ row ∈ (stateAt (authProgram config).next ⟨start, []⟩ actions k).shared.refreshTokens,
        ReflTransGen (fun old new =>
          (old, new) ∈
            (stateAt (authProgram config).next ⟨start, []⟩ actions k).shared.exchanged) id row.id →
          row.revokedAt ≠ none

theorem sessionLaw_of_takesTurns (config : AuthConfig) (now : Millis) (tenants : List Tenant)
    (users : List User) (actions : List AuthAction)
    (h : Always (authProgram config).next (TakesTurns config)
      ⟨{ now := now, tenants := tenants, users := users }, []⟩ actions) :
    SessionLaw config { now := now, tenants := tenants, users := users } actions := by
  have hstart : AuthState.TokensInOrder { now := now, tenants := tenants, users := users } :=
    ⟨List.nodup_nil, fun a b ha => absurd ha.1 (by simp), by simp, by simp, by simp, by simp⟩
  have hinv : ∀ k, (stateAt (authProgram config).next
      ⟨{ now := now, tenants := tenants, users := users }, []⟩ actions k).shared.TokensInOrder :=
    fun k => (h.invariant_at (I := sessionOutline.Holds)
      (fun pool action hholds hgood => hholds.next (sessionOutline_startOk config)
        (sessionOutline_stepOk config) (sessionOutline_envOk config) hgood)
      (Outline.holds_initial hstart) k).inv
  constructor
  · intro k old new new' hnew hnew'
    exact (hinv k).exchangedOnce _ hnew _ hnew' rfl
  · intro k userId _ a ha b hb hauser hbuser halive hblive
    exact (hinv k).oneSession a b ⟨ha, halive⟩ ⟨hb, hblive⟩ (hauser.trans hbuser.symm)
  · intro k id hid row hrow hpath hlive
    -- a token revoked in bulk has no successor
    rcases ReflTransGen.cases_head hpath with rfl | ⟨new, hexchanged, -⟩
    · exact Live.not_spent (hinv k) ⟨hrow, hlive⟩ ((hinv k).revokedSpent _ hid)
    · exact (hinv k).revokedLast id hid _ hexchanged rfl

def plainConfig : AuthConfig where
  toLowerCase text := text
  sha256 text := text
  bcryptHash text := text
  bcryptCompare password hash := password = hash
  superAdminEmail := "root"
  superAdminPassword _ := false
  isStaticSuperAdminRefreshToken _ := false

def oneTenant : List Tenant := [{ id := 1, slug := "acme" }]

def oneUser : List User := [{ id := 7, tenantId := 1, email := "ann", passwordHash := "pw" }]

/-- The steps of thread `i`, one after the other. -/
def steps (i n : ℕ) : List AuthAction := List.replicate n (.step i .none)

def annLogsIn : List AuthAction :=
  .spawn (.login ⟨some "acme", "ann", "pw"⟩ "r1") :: steps 0 5

def oneCallAfterAnother : List AuthAction :=
  annLogsIn ++ .spawn (.refreshToken "r1" "r2") :: steps 1 3 ++
    .spawn (.changePassword (some 7) "pw" "new") :: steps 2 3

theorem sessionLaw_oneCallAfterAnother :
    SessionLaw plainConfig { now := 0, tenants := oneTenant, users := oneUser }
      oneCallAfterAnother :=
  sessionLaw_of_takesTurns plainConfig 0 oneTenant oneUser oneCallAfterAnother
    (by decide +kernel)

/-- Two refreshes read the same token before either revokes it. -/
theorem not_sessionLaw_refreshedTwice :
    ¬SessionLaw plainConfig { now := 0, tenants := oneTenant, users := oneUser }
      (annLogsIn ++ .spawn (.refreshToken "r1" "r2") :: .spawn (.refreshToken "r1" "r3") ::
        steps 1 1 ++ steps 2 3 ++ steps 1 2) := by
  intro h
  have honce := h.exchangedOnce 14 1 2 3 (by decide +kernel) (by decide +kernel)
  revert honce
  decide

end Forecast.Auth
