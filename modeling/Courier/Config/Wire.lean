/-
# Courier.Config.Wire -- settings as JSON

Durations are objects of whole seconds and nanoseconds.
-/
import Courier.Config
import Courier.Notification.Wire

namespace Courier

set_option autoImplicit false

open Json (Decoder)
open Notification (word32 word64)

/-! ## Durations -/

def Duration.toJson (d : Duration) : Json :=
  .object [("secs", .ofNat d.seconds), ("nanos", .ofNat d.subsecond)]

def Duration.shape : Decoder.Shape where
  expected := "struct Duration"
  arrayExpected := "struct Duration"
  members := [Decoder.member "secs" (word64 "u64"), Decoder.member "nanos" word32]
  strict := true

/-- A duration; nanoseconds carry over into seconds as long as they fit. -/
def Duration.decoder : Decoder Duration := fun source d => do
  let slots ← Decoder.slots Duration.shape source d
  let seconds ← Decoder.required source slots "secs" (word64 "u64")
  let nanos ← Decoder.required source slots "nanos" word32
  match Duration.ofParts? seconds.toNat nanos.toNat with
  | some duration => pure duration
  | none => .error (.data (.custom "overflow deserializing Duration"))

/-! ## Security modes -/

def SmtpSecurity.toJson (s : SmtpSecurity) : Json := .string s.name

def SmtpSecurity.decoder : Decoder SmtpSecurity :=
  Decoder.variant (SmtpSecurity.all.map SmtpSecurity.name) SmtpSecurity.ofName?

namespace Config

/-! ## Parts -/

def App.toJson (a : App) : Json := .object
  [("env", .string a.environment), ("log_level", .string a.logLevel)]

def App.shape : Decoder.Shape := .struct "AppConfig"
  [Decoder.member "env" Decoder.string, Decoder.member "log_level" Decoder.string]

def App.decoder : Decoder App := fun source d => do
  let slots ← Decoder.slots App.shape source d
  pure
    { environment := ← Decoder.required source slots "env" Decoder.string
      logLevel := ← Decoder.required source slots "log_level" Decoder.string }

def Database.toJson (d : Database) : Json := .object
  [("url", .ofOption .string d.url), ("max_connections", .ofNat d.maxConnections.toNat)]

def Database.shape : Decoder.Shape := .struct "DatabaseConfig"
  [Decoder.member "url" (Decoder.optional Decoder.string), Decoder.member "max_connections" word32]

def Database.decoder : Decoder Database := fun source d => do
  let slots ← Decoder.slots Database.shape source d
  pure
    { url := ← Decoder.lenient source slots "url" Decoder.string
      maxConnections := ← Decoder.required source slots "max_connections" word32 }

/-- A number of 16 bits. -/
def word16 : Decoder UInt16 := fun source d =>
  (Decoder.natural (UInt16.size - 1) "u16" source d).map UInt16.ofNat

def Smtp.toJson (s : Smtp) : Json := .object
  [("host", .string s.host), ("port", .ofNat s.port.toNat),
    ("username", .ofOption .string s.username), ("password", .ofOption .string s.password),
    ("from_email", .string s.sender), ("security", s.security.toJson)]

def Smtp.shape : Decoder.Shape := .struct "SmtpConfig"
  [Decoder.member "host" Decoder.string, Decoder.member "port" word16,
    Decoder.member "username" (Decoder.optional Decoder.string),
    Decoder.member "password" (Decoder.optional Decoder.string),
    Decoder.member "from_email" Decoder.string, Decoder.member "security" SmtpSecurity.decoder]

def Smtp.decoder : Decoder Smtp := fun source d => do
  let slots ← Decoder.slots Smtp.shape source d
  pure
    { host := ← Decoder.required source slots "host" Decoder.string
      port := ← Decoder.required source slots "port" word16
      username := ← Decoder.lenient source slots "username" Decoder.string
      password := ← Decoder.lenient source slots "password" Decoder.string
      sender := ← Decoder.required source slots "from_email" Decoder.string
      security := ← Decoder.required source slots "security" SmtpSecurity.decoder }

def Resilience.toJson (r : Resilience) : Json := .object
  [("rate_limit_requests", .ofNat r.rateLimitRequests.toNat),
    ("rate_limit_window", r.rateLimitWindow.toJson), ("sweep_interval", r.sweepInterval.toJson),
    ("failure_threshold", .ofNat r.failureThreshold.toNat),
    ("success_threshold", .ofNat r.successThreshold.toNat),
    ("open_timeout", r.openTimeout.toJson),
    ("retry_max_attempts", .ofNat r.retryMaxAttempts.toNat),
    ("attempt_timeout", r.attemptTimeout.toJson)]

def Resilience.shape : Decoder.Shape := .struct "ResilienceSettings"
  [Decoder.member "rate_limit_requests" (word64 "usize"),
    Decoder.member "rate_limit_window" Duration.decoder,
    Decoder.member "sweep_interval" Duration.decoder,
    Decoder.member "failure_threshold" word32, Decoder.member "success_threshold" word32,
    Decoder.member "open_timeout" Duration.decoder,
    Decoder.member "retry_max_attempts" word32,
    Decoder.member "attempt_timeout" Duration.decoder]

def Resilience.decoder : Decoder Resilience := fun source d => do
  let slots ← Decoder.slots Resilience.shape source d
  pure
    { rateLimitRequests := ← Decoder.required source slots "rate_limit_requests" (word64 "usize")
      rateLimitWindow := ← Decoder.required source slots "rate_limit_window" Duration.decoder
      sweepInterval := ← Decoder.required source slots "sweep_interval" Duration.decoder
      failureThreshold := ← Decoder.required source slots "failure_threshold" word32
      successThreshold := ← Decoder.required source slots "success_threshold" word32
      openTimeout := ← Decoder.required source slots "open_timeout" Duration.decoder
      retryMaxAttempts := ← Decoder.required source slots "retry_max_attempts" word32
      attemptTimeout := ← Decoder.required source slots "attempt_timeout" Duration.decoder }

/-! ## All settings -/

def toJson (c : Config) : Json := .object
  [("app", c.app.toJson), ("database", c.database.toJson), ("smtp", c.smtp.toJson),
    ("resilience", c.resilience.toJson)]

def shape : Decoder.Shape := .struct "Config"
  [Decoder.member "app" App.decoder, Decoder.member "database" Database.decoder,
    Decoder.member "smtp" Smtp.decoder, Decoder.member "resilience" Resilience.decoder]

def decoder : Decoder Config := fun source d => do
  let slots ← Decoder.slots shape source d
  pure
    { app := ← Decoder.required source slots "app" App.decoder
      database := ← Decoder.required source slots "database" Database.decoder
      smtp := ← Decoder.required source slots "smtp" Smtp.decoder
      resilience := ← Decoder.required source slots "resilience" Resilience.decoder }

end Config

end Courier
