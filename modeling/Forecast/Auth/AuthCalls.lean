import Forecast.Auth.AuthTables
import Forecast.Lib.ThreadPool

/-!
# Login, refresh, logout and password changes as threads

A thread does one database statement a step, with the checks that follow it. The
steps that read roles and write the audit log touch no session and are left out.
-/

open KeyedTable ThreadPool

namespace Forecast.Auth

structure LoginDto where
  tenantSlug : Option String
  email : String
  password : String

structure ResetPasswordDto where
  tenantSlug : Option String
  email : String
  otp : String
  password : String

/-- `random` is the refresh token that a call will draw; the static super admin has no user id
here. -/
inductive AuthCall where
  | login (dto : LoginDto) (random : String)
  | refreshToken (refreshToken : String) (random : String)
  | logout (userId : Option Id) (refreshToken : Option String)
  | changePassword (userId : Option Id) (currentPassword newPassword : String)
  | resetPassword (dto : ResetPasswordDto)

/-- Where a call stands between two statements. -/
inductive AuthThread where
  | loginTenant (dto : LoginDto) (random : String)
  | loginUser (dto : LoginDto) (tenantId : Id) (random : String)
  | failedLogin (userId : Id)
  | countFailure (userId : Id) (newFailedCount : ℕ)
  | loginUpdate (user : User) (random : String)
  | loginRevoke (user : User) (random : String)
  | loginCreate (user : User) (random : String)
  | refreshFind (refreshToken : String) (random : String)
  | refreshRevoke (tokenRecord : RefreshToken) (random : String)
  | refreshCreate (tokenRecord : RefreshToken) (random : String)
  | logout (userId : Id) (refreshToken : Option String)
  | changeFind (userId : Id) (currentPassword newPassword : String)
  | changeUpdate (userId : Id) (newPassword : String)
  | changeRevoke (userId : Id)
  | resetTenant (dto : ResetPasswordDto)
  | resetUser (dto : ResetPasswordDto) (tenantId : Option Id)
  | resetOtp (dto : ResetPasswordDto) (userId : Id)
  | resetWrite (dto : ResetPasswordDto) (userId tokenRecordId : Id)
  | returned
  | thrown (error : AuthError)

def AuthCall.start (config : AuthConfig) : AuthCall → AuthThread
  | .login dto random =>
    if config.toLowerCase dto.email = config.superAdminEmail then
      if config.superAdminPassword dto.password then .returned else .thrown .invalidCredentials
    else .loginTenant dto random
  | .refreshToken text random =>
    let refreshToken := JsText.trim text
    if refreshToken = "" then .thrown .invalidRefreshToken
    else if config.isStaticSuperAdminRefreshToken refreshToken then .returned
    else .refreshFind refreshToken random
  | .logout none _ => .returned
  | .logout (some userId) text => .logout userId (text.filter (· ≠ ""))
  | .changePassword none _ _ => .thrown .staticPassword
  | .changePassword (some userId) currentPassword newPassword =>
    .changeFind userId currentPassword newPassword
  | .resetPassword dto =>
    if (dto.tenantSlug.filter (· ≠ "")).isSome then .resetTenant dto else .resetUser dto none

namespace AuthThread

variable (config : AuthConfig) (s : AuthState)

def checkUser (dto : LoginDto) (user : User) (random : String) : AuthThread :=
  if user.status ≠ .active ∧ user.status ≠ .pending then .thrown .accountNotActive
  else if user.lockedUntil.any (s.now < ·) then .thrown .accountLocked
  else if config.bcryptCompare dto.password user.passwordHash then .loginUpdate user random
  else .failedLogin user.id

def checkRecord (tokenRecord : RefreshToken) (random : String) : AuthThread :=
  if tokenRecord.expiresAt < s.now then .thrown .refreshTokenExpired
  else
    match s.users.find? fun user => user.id = tokenRecord.userId with
    | none => .thrown .refused
    | some user =>
      if user.status ≠ .active then .thrown .accountNotActive
      else
        match s.tenants.find? fun tenant => tenant.id = user.tenantId with
        | none => .thrown (.tenantBlocked "Tenant not found")
        | some tenant =>
          match tenant.accessBlockMessage s.now with
          | some message => .thrown (.tenantBlocked message)
          | none => .refreshRevoke tokenRecord random

/-- The statement of a thread that the process survives. -/
def succeed : AuthThread → AuthState × AuthThread
  | loginTenant dto random =>
    match s.findTenantByWorkspace config dto.tenantSlug with
    | none => (s, .thrown .invalidCredentials)
    | some tenant =>
      match tenant.accessBlockMessage s.now with
      | some message => (s, .thrown (.tenantBlocked message))
      | none => (s, .loginUser dto tenant.id random)
  | loginUser dto tenantId random =>
    match s.findUser tenantId (config.toLowerCase dto.email) with
    | none => (s, .thrown .invalidCredentials)
    | some user => (s, checkUser config s dto user random)
  | failedLogin userId =>
    match s.users.find? fun user => user.id = userId with
    | none => (s, .thrown .invalidCredentials)
    | some user => (s, .countFailure userId (user.failedLoginCount + 1))
  | countFailure userId newFailedCount =>
    (s.updateUser userId fun user =>
        if 5 ≤ newFailedCount then
          { user with
            failedLoginCount := newFailedCount
            lockedUntil := some (s.now + 900000)
            status := .locked }
        else { user with failedLoginCount := newFailedCount },
      .thrown .invalidCredentials)
  | loginUpdate user random =>
    (s.updateUser user.id fun row =>
        { row with
          failedLoginCount := 0
          lockedUntil := none
          lastLoginAt := some s.now
          status := if user.status = .pending then .active else row.status },
      .loginRevoke user random)
  | loginRevoke user random =>
    (s.revokeWhere (AuthState.isLiveOf user.id), .loginCreate user random)
  | loginCreate user random =>
    match s.createToken config user.tenantId user.id random with
    | none => (s, .thrown .refused)
    | some s' => ({ s' with loggedIn := s.loggedIn ++ [user.id] }, .returned)
  | refreshFind refreshToken random =>
    match s.refreshTokens.find? fun row =>
        row.token = config.sha256 refreshToken ∧ row.revokedAt = none with
    | none => (s, .thrown .invalidRefreshToken)
    | some tokenRecord => (s, checkRecord s tokenRecord random)
  | refreshRevoke tokenRecord random =>
    (s.revokeWhere fun row => row.id = tokenRecord.id, .refreshCreate tokenRecord random)
  | refreshCreate tokenRecord random =>
    match s.createToken config tokenRecord.tenantId tokenRecord.userId random with
    | none => (s, .thrown .refused)
    | some s' =>
      ({ s' with exchanged := s.exchanged ++ [(tokenRecord.id, s.freshTokenId)] }, .returned)
  | logout userId (some refreshToken) =>
    (s.revokeWhere fun row =>
      row.userId = userId ∧ row.token = config.sha256 refreshToken, .returned)
  | logout userId none => (s.revokeInBulk userId, .returned)
  | changeFind userId currentPassword newPassword =>
    match s.users.find? fun user => user.id = userId with
    | none => (s, .thrown .userNotFound)
    | some user =>
      if config.bcryptCompare currentPassword user.passwordHash then
        (s, .changeUpdate userId newPassword)
      else (s, .thrown .wrongPassword)
  | changeUpdate userId newPassword =>
    (s.updateUser userId fun user =>
        { user with
          passwordHash := config.bcryptHash newPassword
          passwordChangedAt := some s.now
          mustResetPassword := false },
      .changeRevoke userId)
  | changeRevoke userId => (s.revokeInBulk userId, .returned)
  | resetTenant dto =>
    match s.findTenantByWorkspace config dto.tenantSlug with
    | none => (s, .thrown .invalidWorkspace)
    | some tenant => (s, .resetUser dto (some tenant.id))
  | resetUser dto tenantId =>
    match s.users.find? fun user =>
        tenantId.all (user.tenantId = ·) ∧ user.email = config.toLowerCase dto.email with
    | none => (s, .thrown .invalidOtpOrEmail)
    | some user => (s, .resetOtp dto user.id)
  | resetOtp dto userId =>
    match s.passwordResetTokens.find? fun row =>
        row.userId = userId ∧ row.tokenHash = config.sha256 (JsText.trim dto.otp) ∧
          row.usedAt = none ∧ s.now < row.expiresAt with
    | none => (s, .thrown .invalidOtp)
    | some tokenRecord => (s, .resetWrite dto userId tokenRecord.id)
  | resetWrite dto userId tokenRecordId =>
    -- one transaction
    let changed := s.updateUser userId fun user =>
      { user with
        passwordHash := config.bcryptHash dto.password
        passwordChangedAt := some s.now
        failedLoginCount := 0
        lockedUntil := none
        mustResetPassword := false }
    ({ changed.revokeInBulk userId with
        passwordResetTokens := s.passwordResetTokens.map fun row =>
          if row.id = tokenRecordId then { row with usedAt := some s.now } else row },
      .returned)
  | returned => (s, .returned)
  | thrown error => (s, .thrown error)

end AuthThread

/-- Whether the process survives a step. -/
inductive AuthFault where
  | none
  | crash
deriving DecidableEq

inductive AuthEvent where
  | pass (elapsed : ℕ)
  /-- `requestPasswordReset` for a user who was found. -/
  | requestPasswordReset (userId : Id) (otp : String) (expiresInMinutes : ℕ)

def AuthThread.advance (config : AuthConfig) (s : AuthState) (t : AuthThread) :
    AuthFault → AuthState × AuthThread
  | .none => t.succeed config s
  | .crash => (s, .thrown .crashed)

def AuthEvent.apply (config : AuthConfig) (s : AuthState) : AuthEvent → AuthState
  | pass elapsed => { s with now := s.now + elapsed }
  | requestPasswordReset userId otp expiresInMinutes =>
    let invalidated := s.passwordResetTokens.map fun row =>
      if row.userId = userId ∧ row.usedAt = none then { row with usedAt := some s.now } else row
    { s with
      passwordResetTokens := invalidated ++
        [{ id := freshId (s.passwordResetTokens.map PasswordResetToken.id)
           userId := userId
           tokenHash := config.sha256 otp
           expiresAt := s.now + expiresInMinutes * 60000 }] }

def authProgram (config : AuthConfig) :
    Program AuthState AuthThread AuthCall AuthFault AuthEvent where
  start _ _ call := some (call.start config)
  advance := AuthThread.advance config
  env := AuthEvent.apply config

abbrev AuthPool := Config AuthState AuthThread

abbrev AuthAction := Action AuthCall AuthFault AuthEvent

end Forecast.Auth
