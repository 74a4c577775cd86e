/-
# Courier.Worker -- the process around the service

The worker reads its settings, opens the store, sets the transport up, checks that
everything is there, keeps the limiter swept, and waits until it is told to stop.
What it writes is `Run`: lines of its log, and on failure what it says on its way
out.  Lines are kept or dropped by a filter from the variable `RUST_LOG`, or else by
the configured level.

Settings that are wrong, a sender that is no mailbox and a database that cannot be
opened end the process; a failed health check only shows in the log.
-/
import Courier.Health
import Courier.Log.Filter
import Courier.Metric.Exposition
import Courier.Store.Connection

namespace Courier.Worker

set_option autoImplicit false

/-- What surrounds the process. -/
structure Surroundings where
  lookup : Config.Lookup
  /-- The way to the mail server. -/
  server : Mail.Server
  /-- The way to the database. -/
  reach : Store.Location → Except Store.Fault Store.Ledger
  now : Timestamp

/-- What the process writes, and how it exits. -/
structure Run where
  format : Log.Format
  log : List Log.Line
  /-- Lines for whoever started it. -/
  complaints : List String
  exitCode : Nat

/-! ## Lines -/

def service : String := "notification_service"

def line (level : Log.Level) (message : String) (fields : List (String × Json)) : Log.Line :=
  ⟨level, service, message, fields⟩

def starting (c : Config) : Log.Line :=
  line .info "Starting notification service" [("env", .string c.app.environment)]

def storeInMemory : Log.Line :=
  line .warn "DATABASE_URL not set; using in-memory notification storage" []

def databaseLine (level : Log.Level) (message : String) (fields : List (String × Json)) :
    Log.Line :=
  ⟨level, service ++ "::repository::postgres", message, fields⟩

def transportLine (c : Config.Smtp) (t : Mail.Transport) : Log.Line :=
  let target := service ++ "::services::email_transport"
  if t.enabled then
    ⟨.info, target, "SMTP transport configured",
      [("host", .string c.host), ("port", .ofNat c.port.toNat),
        ("security", .string c.security.label)]⟩
  else
    ⟨.warn, target, "SMTP host not configured; email transport will operate in no-op mode", []⟩

def checkFailed (name error : String) : Log.Line :=
  ⟨.warn, service ++ "::health", "Health check failed",
    [("check", .string name), ("error", .string error)]⟩

/-- What the log says of a health report. -/
def healthLines (now : Timestamp) (r : Health.Report) : List Log.Line :=
  (r.results.filterMap fun c => c.error.map fun e => checkFailed c.name e) ++
    [if r.isHealthy then line .info "Startup health check passed" []
      else line .warn "Startup health check reported failures"
        [("checks", .string (r.checksJson now).render)]]

def ready (c : Pipeline.Config) (b : Circuit.Breaker) : Log.Line :=
  line .info "Notification service ready"
    [("circuit_state", .string b.state.name), ("max_requests", .ofNat c.rate.maxRequests.toNat),
      ("attempt_timeout_secs", .ofNat c.timeout.seconds)]

/-- What is written from the signal to stop until the end. -/
def stopping : List Log.Line :=
  [line .info "Shutdown signal received" [],
    ⟨.info, "resilience::rate_limiter", "Rate limiter sweeper stopped", []⟩,
    line .debug "Final metrics snapshot" [("metrics", .string "")],
    line .info "Notification service stopped" []]

/-! ## Failures -/

/-- The lines of a text behind what stands before the first and before all others. -/
def indented (first further text : String) : List String :=
  match (Text.pieces '\n' text.toList).map String.ofList with
  | [] => []
  | line :: lines => (first ++ line) :: lines.map (further ++ ·)

/-- A failure and what is behind it, as it is told on the way out. -/
def complaint (message : String) (causes : List String) : List String :=
  let numbered := (List.range causes.length).zip causes |>.flatMap fun (i, cause) =>
    indented ("    " ++ toString i ++ ": ") "       " cause
  match causes with
  | [] => ["Error: " ++ message]
  | [cause] => ["Error: " ++ message, "", "Caused by:"] ++ indented "    " "    " cause
  | _ => ["Error: " ++ message, "", "Caused by:"] ++ numbered

/-! ## Running -/

/-- Why the process cannot go on, and the lines written until then. -/
structure Failure where
  log : List Log.Line
  message : String
  cause : String

/-- The lines about the store, which has to be there. -/
def openStore (s : Surroundings) (c : Config.Database) : Except Failure (List Log.Line) :=
  match c.url with
  | none => .ok [storeInMemory]
  | some url =>
      match Store.Connection.establish url c.maxConnections s.reach with
      | (.ok _, _) => .ok
          [databaseLine .info "Connected to PostgreSQL"
            [("max_connections", .ofNat c.maxConnections.toNat)],
            databaseLine .info "Database migrations completed successfully" []]
      | (.error e, _) =>
          .error ⟨[⟨.error, service ++ "::error", e.message, []⟩], "Failed to connect to database",
            e.message⟩

/-- Everything from the store to the end. -/
def work (s : Surroundings) (c : Config) : Except Failure (List Log.Line) := do
  let store ← openStore s c.database
  match Mail.Transport.ofConfig c.smtp with
  | .error e => .error ⟨store, "Failed to configure SMTP transport", e.describe⟩
  | .ok transport =>
      let pipeline := c.resilience.pipeline
      let breaker := Circuit.Breaker.initial
      let report := Health.run
        [Health.database "database" (.ok ()),
          Health.smtp "smtp" (transport.testConnection s.server),
          Health.circuit "email_circuit_breaker" breaker.state]
      .ok (store ++ [transportLine c.smtp transport] ++ healthLines s.now report
        ++ [ready pipeline breaker] ++ stopping)

/-- What is said of a directive that was left out. -/
def ignoring (i : Log.Filter.Ignored) : List String :=
  indented "" "" ("ignoring `" ++ i.piece ++ "`: " ++ i.fault.message)

/-- The filter in force, and the directives that were left out of it. -/
def filter (s : Surroundings) (c : Config.App) : Log.Filter × List Log.Filter.Ignored :=
  match (s.lookup "RUST_LOG").bind Log.Filter.read? with
  | some f => (f, [])
  | none =>
      let level := c.logLevel
      Log.Filter.readLossy (service ++ "=" ++ level ++ ",resilience=" ++ level ++ "," ++ level)

/-- A run from start to end, stopped once it is ready. -/
def run (s : Surroundings) : Run :=
  match Config.read s.lookup with
  | .error e =>
      ⟨.text, [], complaint "Failed to load configuration" (e.message :: e.causes), 1⟩
  | .ok c =>
      let format := if c.app.isDevelopment then Log.Format.text else .json
      let (filter, ignored) := filter s c.app
      let ignored := ignored.flatMap ignoring
      match work s c with
      | .ok log => ⟨format, (starting c :: log).filter filter.keeps, ignored, 0⟩
      | .error failure =>
          ⟨format, (starting c :: failure.log).filter filter.keeps,
            ignored ++ complaint failure.message [failure.cause], 1⟩

end Courier.Worker
