import BridgeOS.Notifications.Types

/-! # Which notifications are mirrored

The privacy gate looks for words in the lower-cased title and text and in the
lower-cased application id. Lower-casing follows Unicode and is a parameter.
-/

namespace BridgeOS.Notifications

def sensitiveTitleKeywords : List String :=
  [ -- one-time codes
    "verification code", "one-time password", "otp:", "2fa", "two-factor", "authentication code",
    "login code", "security code",
    -- banking
    "transaction alert", "payment received", "payment sent", "low balance", "account balance",
    "bank alert", "credit card", "debit card", "wire transfer",
    -- password managers
    "1password", "lastpass", "bitwarden", "dashlane", "keepass", "keychain",
    -- health
    "medical record", "prescription", "lab result", "health record"]

def sensitiveAppIds : List String :=
  [ -- banking
    "com.chase.sig.android", "com.bankofamerica.mobile", "com.wellsfargo.mobile",
    "com.barclays.android", "uk.co.hsbc", "com.ing.mobile",
    -- authenticators
    "com.google.android.apps.authenticator2", "com.authy.authy", "com.microsoft.authenticator",
    "com.lastpass.lastpassauthenticator",
    -- password managers
    "com.agilebits.onepassword", "com.lastpass.lpandroid", "com.bitwarden.mobile", "com.dashlane",
    "org.keepass2android",
    -- health
    "com.apple.health", "com.google.android.apps.fitness"]

structure NotificationPolicy where
  blockSensitive : Bool
  minUrgency : NotificationUrgency
  maxPayloadBytes : Nat
  blockOngoing : Bool
  deriving DecidableEq

namespace NotificationPolicy

def default : NotificationPolicy :=
  { blockSensitive := true
    minUrgency := .low
    maxPayloadBytes := 128 * 1024
    blockOngoing := false }

def strict : NotificationPolicy :=
  { blockSensitive := true
    minUrgency := .normal
    maxPayloadBytes := 64 * 1024
    blockOngoing := true }

def permissive : NotificationPolicy :=
  { blockSensitive := true
    minUrgency := .low
    maxPayloadBytes := 256 * 1024
    blockOngoing := false }

variable (lowercase : String → String)

def isSensitiveApp (appId : String) : Bool :=
  sensitiveAppIds.any fun s => Text.contains (lowercase appId) s

def hasSensitiveKeywords (entry : NotificationEntry) : Bool :=
  sensitiveTitleKeywords.any fun keyword =>
    Text.contains (lowercase entry.title) keyword || Text.contains (lowercase entry.text) keyword

/-- `maxPayloadBytes` is not consulted. -/
def shouldBlock (policy : NotificationPolicy) (entry : NotificationEntry) : Bool :=
  if entry.urgency.rank < policy.minUrgency.rank then true
  else if policy.blockOngoing && entry.isOngoing then true
  else if policy.blockSensitive && isSensitiveApp lowercase entry.appId then true
  else if policy.blockSensitive && hasSensitiveKeywords lowercase entry then true
  else false

end NotificationPolicy

end BridgeOS.Notifications
