import Forecast.Billing.Schema
import Forecast.Lib.KeyedTable
import Forecast.Marg.Values

/-!
# Users, refresh tokens and password resets

The tables that the sessions of the users rest on, and their single statements.
-/

open KeyedTable

namespace Forecast.Auth

inductive TenantStatus where
  | active
  | suspended
  | trial
  | cancelled
deriving DecidableEq

inductive TenantLicenseStatus where
  | active
  | suspended
deriving DecidableEq

structure Tenant where
  id : Id
  slug : String
  subdomain : Option String := none
  domain : Option String := none
  /-- The verified domain mappings. -/
  verifiedDomains : List String := []
  status : TenantStatus := .active
  licenseStatus : TenantLicenseStatus := .active
  licenseExpiresAt : Option Millis := none
deriving DecidableEq

inductive UserStatus where
  | active
  | inactive
  | pending
  | locked
deriving DecidableEq

structure User where
  id : Id
  tenantId : Id
  email : String
  passwordHash : String
  status : UserStatus := .active
  failedLoginCount : ℕ := 0
  lockedUntil : Option Millis := none
  lastLoginAt : Option Millis := none
  passwordChangedAt : Option Millis := none
  mustResetPassword : Bool := false
deriving DecidableEq

/-- A row of `refresh_tokens`; `token` is the hash of what the client holds. -/
structure RefreshToken where
  id : Id
  tenantId : Id
  userId : Id
  token : String
  expiresAt : Millis
  revokedAt : Option Millis := none
deriving DecidableEq

structure PasswordResetToken where
  id : Id
  userId : Id
  tokenHash : String
  expiresAt : Millis
  usedAt : Option Millis := none
deriving DecidableEq

structure AuthState where
  now : Millis
  tenants : List Tenant
  users : List User
  refreshTokens : List RefreshToken := []
  passwordResetTokens : List PasswordResetToken := []
  /-- The exchanges so far, old token and successor; no table holds them. -/
  exchanged : List (Id × Id) := []
  /-- The tokens revoked by a password change or by a logout of every session. -/
  revokedInBulk : List Id := []
  /-- The users of the completed logins. -/
  loggedIn : List Id := []
deriving DecidableEq

inductive AuthError where
  | invalidCredentials
  | tenantBlocked (message : String)
  | accountNotActive
  | accountLocked
  | invalidRefreshToken
  | refreshTokenExpired
  | staticPassword
  | userNotFound
  | wrongPassword
  | invalidWorkspace
  | invalidOtpOrEmail
  | invalidOtp
  /-- A constraint of the database refuses the row, or the row is gone. -/
  | refused
  /-- The process stopped. -/
  | crashed
deriving DecidableEq

def AuthError.text : AuthError → Option String
  | invalidCredentials => some "Invalid credentials"
  | tenantBlocked message => some message
  | accountNotActive => some "Account is not active"
  | accountLocked => some "Account is locked. Please try again later."
  | invalidRefreshToken => some "Invalid refresh token"
  | refreshTokenExpired => some "Refresh token expired or revoked"
  | staticPassword =>
    some "Static super admin password is managed via environment configuration"
  | userNotFound => some "User not found"
  | wrongPassword => some "Current password is incorrect"
  | invalidWorkspace => some "Invalid workspace"
  | invalidOtpOrEmail => some "Invalid OTP or email"
  | invalidOtp => some "Invalid or expired OTP"
  | refused => none
  | crashed => none

/-- The libraries and the environment that the service is given. -/
structure AuthConfig where
  toLowerCase : String → String
  /-- SHA-256, in hexadecimal. -/
  sha256 : String → String
  bcryptHash : String → String
  /-- The password against a hash. -/
  bcryptCompare : String → String → Bool
  superAdminEmail : String
  superAdminPassword : String → Bool
  isStaticSuperAdminRefreshToken : String → Bool
  refreshTokenDays : ℕ := 7

/-- `getAccessBlockMessage` -/
def Tenant.accessBlockMessage (tenant : Tenant) (now : Millis) : Option String :=
  if tenant.status ≠ .active ∧ tenant.status ≠ .trial then some "Tenant is not active"
  else if tenant.licenseStatus ≠ .active then some "Tenant license is suspended"
  else if tenant.licenseExpiresAt.any (· ≤ now) then some "Tenant license has expired"
  else none

namespace AuthState

variable (s : AuthState)

def findTenantByWorkspace (config : AuthConfig) (workspace : Option String) : Option Tenant :=
  match (workspace.map fun w => config.toLowerCase (JsText.trim w)).filter (· ≠ "") with
  | none => none
  | some normalized => s.tenants.find? fun tenant =>
    tenant.slug = normalized ∨ tenant.subdomain = some normalized ∨
      tenant.domain = some normalized ∨ normalized ∈ tenant.verifiedDomains

/-- The user of the unique key `tenantId_email`. -/
def findUser (tenantId : Id) (email : String) : Option User :=
  s.users.find? fun user => user.tenantId = tenantId ∧ user.email = email

def updateUser (userId : Id) (f : User → User) : AuthState :=
  { s with users := s.users.map fun user => if user.id = userId then f user else user }

/-- Sets `revokedAt` in the rows that a statement selects. -/
def revokeWhere (p : RefreshToken → Bool) : AuthState :=
  { s with
    refreshTokens := s.refreshTokens.map fun row =>
      if p row then { row with revokedAt := some s.now } else row }

def isLiveOf (userId : Id) (row : RefreshToken) : Bool :=
  row.userId = userId ∧ row.revokedAt = none

/-- The revocation of every token of the user by a password change or a logout. -/
def revokeInBulk (userId : Id) : AuthState :=
  { s.revokeWhere (isLiveOf userId) with
    revokedInBulk :=
      s.revokedInBulk ++ (s.refreshTokens.filter (isLiveOf userId)).map RefreshToken.id }

def freshTokenId : Id := freshId (s.refreshTokens.map RefreshToken.id)

/-- The insert of `generateTokens`, none when the hash is taken. -/
def createToken (config : AuthConfig) (tenantId userId : Id) (refreshToken : String) :
    Option AuthState :=
  let token := config.sha256 refreshToken
  if token ∈ s.refreshTokens.map RefreshToken.token then none
  else some
    { s with
      refreshTokens := s.refreshTokens ++
        [{ id := s.freshTokenId
           tenantId := tenantId
           userId := userId
           token := token
           expiresAt := s.now + config.refreshTokenDays * 86400000 }] }

end AuthState

end Forecast.Auth
