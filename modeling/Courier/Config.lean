/-
# Courier.Config -- settings from named variables

A `Config` is read from variables looked up by name.  What is unset has a default;
what is set and wrong is a `ConfigError` that names the variable.  Variables are
looked at in a fixed order, so of several wrong ones the first in that order is
told:

`DATABASE_MAX_CONNECTIONS`, `SMTP_PORT`, `SMTP_SECURITY`,
`RATE_LIMIT_WINDOW_MINUTES`, `RATE_LIMIT_SWEEP_SECS`, `RATE_LIMIT_REQUESTS`,
`SMTP_CB_FAILURE_THRESHOLD`, `SMTP_CB_SUCCESS_THRESHOLD`, `SMTP_CB_TIMEOUT_SECS`,
`SMTP_RETRY_MAX_ATTEMPTS`, `SMTP_ATTEMPT_TIMEOUT_SECS`.

`Resilience.pipeline` lays the settings that concern the sending of email over the
defaults for an SMTP server.
-/
import Courier.Pipeline
import Courier.Text.Scan

namespace Courier

set_option autoImplicit false

/-- How a connection to an SMTP server is secured. -/
inductive SmtpSecurity where
  /-- Encrypted from the first byte. -/
  | tls
  /-- Begun in the clear and then encrypted. -/
  | startTls
  /-- Not encrypted. -/
  | plain
  deriving DecidableEq

namespace SmtpSecurity

def all : List SmtpSecurity := [.tls, .startTls, .plain]

/-- The name in data. -/
def name : SmtpSecurity → String
  | .tls => "tls"
  | .startTls => "starttls"
  | .plain => "plain"

/-- The name in log lines. -/
def label : SmtpSecurity → String
  | .tls => "Tls"
  | .startTls => "StartTls"
  | .plain => "Plain"

def ofName? (text : String) : Option SmtpSecurity := all.find? (·.name == text)

/-- What is usual on a port. -/
def forPort (port : UInt16) : SmtpSecurity :=
  if port = 465 then .tls else if port = 587 then .startTls else .plain

/-- A mode as someone would type it: blanks around it and ASCII capitals do not
matter, and two modes have a second name.  A wrong one is told as it was understood. -/
def read (text : String) : Except String SmtpSecurity :=
  let mode := String.ofList ((Text.trim text.toList).map Char.toLower)
  if mode = "tls" ∨ mode = "ssl" then .ok .tls
  else if mode = "starttls" then .ok .startTls
  else if mode = "plain" ∨ mode = "none" then .ok .plain
  else .error
    ("unknown SMTP security mode '" ++ mode ++ "' (expected tls, starttls or plain)")

end SmtpSecurity

/-- What is wrong with a variable. -/
inductive ConfigError where
  /-- It is no number in range. -/
  | number (key : String) (error : Text.Integer.ReadError)
  /-- It names no security mode. -/
  | security (key : String) (message : String)
  /-- Its value in seconds does not fit. -/
  | tooLarge (key : String)
  /-- It is zero. -/
  | zero (key : String)

namespace ConfigError

/-- The variable that is wrong. -/
def key : ConfigError → String
  | .number key _ => key
  | .security key _ => key
  | .tooLarge key => key
  | .zero key => key

def message : ConfigError → String
  | .number key _ => "Invalid " ++ key
  | .security key _ => "Invalid " ++ key
  | .tooLarge key => key ++ " too large"
  | .zero key => key ++ " must be > 0"

/-- What lies behind the message. -/
def causes : ConfigError → List String
  | .number _ error => [error.message]
  | .security _ message => [message]
  | _ => []

end ConfigError

namespace Config

/-- Looks a variable up; `none` when it is unset. -/
abbrev Lookup := String → Option String

structure App where
  environment : String
  logLevel : String

structure Database where
  /-- Records are kept in memory when there is none. -/
  url : Option String
  maxConnections : UInt32

structure Smtp where
  /-- Nothing is sent when the host is blank. -/
  host : String
  port : UInt16
  username : Option String
  password : Option String
  sender : String
  security : SmtpSecurity

/-- What can be set about the sending of email. -/
structure Resilience where
  rateLimitRequests : UInt64
  rateLimitWindow : Duration
  sweepInterval : Duration
  failureThreshold : UInt32
  successThreshold : UInt32
  openTimeout : Duration
  retryMaxAttempts : UInt32
  attemptTimeout : Duration

end Config

/-- All settings. -/
structure Config where
  app : Config.App
  database : Config.Database
  smtp : Config.Smtp
  resilience : Config.Resilience

namespace Config

/-- A number from zero to `bound`, read from a text. -/
def number (key : String) (bound : Nat) (text : List Char) : Except ConfigError Nat :=
  (Text.Integer.read bound text).mapError (.number key)

/-- A number that may have blanks around it, or a default when it is unset. -/
def numberOr (lookup : Lookup) (key : String) (bound standard : Nat) : Except ConfigError Nat :=
  match lookup key with
  | some raw => number key bound (Text.trim raw.toList)
  | none => .ok standard

namespace App

def read (lookup : Lookup) : App where
  environment := (lookup "APP_ENV").getD "development"
  logLevel := (lookup "LOG_LEVEL").getD "info"

def isDevelopment (a : App) : Bool := a.environment == "development"

end App

def Database.read (lookup : Lookup) : Except ConfigError Database := do
  let raw := (lookup "DATABASE_MAX_CONNECTIONS").getD "10"
  let connections ← number "DATABASE_MAX_CONNECTIONS" (UInt32.size - 1) raw.toList
  pure
    { url := (lookup "DATABASE_URL").filter fun url => !(Text.trim url.toList).isEmpty
      maxConnections := .ofNat connections }

/-- How the connection is secured: as set, or as is usual on the port. -/
def Smtp.mode (lookup : Lookup) (port : UInt16) : Except ConfigError SmtpSecurity :=
  match lookup "SMTP_SECURITY" with
  | some mode => (SmtpSecurity.read mode).mapError (.security "SMTP_SECURITY")
  | none => .ok (.forPort port)

def Smtp.read (lookup : Lookup) : Except ConfigError Smtp := do
  let raw := (lookup "SMTP_PORT").getD "587"
  let port := UInt16.ofNat (← number "SMTP_PORT" (UInt16.size - 1) raw.toList)
  let security ← mode lookup port
  pure
    { host := (lookup "SMTP_HOST").getD "smtp.gmail.com"
      port := port
      username := (lookup "SMTP_USERNAME").filter (· ≠ "")
      password := (lookup "SMTP_PASSWORD").filter (· ≠ "")
      sender := (lookup "FROM_EMAIL").getD "noreply@example.com"
      security := security }

namespace Resilience

/-- The window in minutes; in seconds it has to fit 64 bits. -/
def windowMinutes (lookup : Lookup) : Except ConfigError Nat := do
  let minutes ← numberOr lookup "RATE_LIMIT_WINDOW_MINUTES" (UInt64.size - 1)
    (Pipeline.Config.smtp.rate.window.seconds / 60)
  if UInt64.size ≤ minutes * 60 then .error (.tooLarge "RATE_LIMIT_WINDOW_MINUTES")
  else .ok minutes

/-- Seconds between two sweeps, which are not zero. -/
def sweepSeconds (lookup : Lookup) : Except ConfigError Nat := do
  let seconds ← numberOr lookup "RATE_LIMIT_SWEEP_SECS" (UInt64.size - 1) 60
  if seconds = 0 then .error (.zero "RATE_LIMIT_SWEEP_SECS") else .ok seconds

def read (lookup : Lookup) : Except ConfigError Resilience := do
  let preset := Pipeline.Config.smtp
  let word32 := UInt32.size - 1
  let word64 := UInt64.size - 1
  let minutes ← windowMinutes lookup
  let sweep ← sweepSeconds lookup
  let requests ← numberOr lookup "RATE_LIMIT_REQUESTS" word64 preset.rate.maxRequests.toNat
  let failures ← numberOr lookup "SMTP_CB_FAILURE_THRESHOLD" word32
    preset.circuit.failureThreshold.toNat
  let successes ← numberOr lookup "SMTP_CB_SUCCESS_THRESHOLD" word32
    preset.circuit.successThreshold.toNat
  let cooldown ← numberOr lookup "SMTP_CB_TIMEOUT_SECS" word64 preset.circuit.cooldown.seconds
  let attempts ← numberOr lookup "SMTP_RETRY_MAX_ATTEMPTS" word32 preset.policy.maxAttempts.toNat
  let timeout ← numberOr lookup "SMTP_ATTEMPT_TIMEOUT_SECS" word64 preset.timeout.seconds
  pure
    { rateLimitRequests := .ofNat requests
      rateLimitWindow := .ofSeconds (minutes * 60)
      sweepInterval := .ofSeconds sweep
      failureThreshold := .ofNat failures
      successThreshold := .ofNat successes
      openTimeout := .ofSeconds cooldown
      retryMaxAttempts := .ofNat attempts
      attemptTimeout := .ofSeconds timeout }

/-- The settings laid over the defaults for an SMTP server. -/
def pipeline (r : Resilience) : Pipeline.Config :=
  let preset := Pipeline.Config.smtp
  { timeout := r.attemptTimeout
    circuit :=
      { preset.circuit with
        failureThreshold := r.failureThreshold
        successThreshold := r.successThreshold
        cooldown := r.openTimeout }
    retry := preset.retry.map fun policy => { policy with maxAttempts := r.retryMaxAttempts }
    rate := { maxRequests := r.rateLimitRequests, window := r.rateLimitWindow } }

end Resilience

/-- Reads all settings. -/
def read (lookup : Lookup) : Except ConfigError Config := do
  let app := App.read lookup
  let database ← Database.read lookup
  let smtp ← Smtp.read lookup
  let resilience ← Resilience.read lookup
  pure ⟨app, database, smtp, resilience⟩

end Config

end Courier
