/-
# Courier.Main -- the worker as a program

Settings come from the environment.  The log goes to standard output line by line;
the lines that follow the signal to stop are written when standard input ends.
There is no network: whoever embeds the library brings the ways to the mail server
and to the database.
-/
import Courier.Worker

namespace Courier.Program

set_option autoImplicit false

/-- The variables of the environment that are looked at. -/
def variableNames : List String :=
  ["APP_ENV", "LOG_LEVEL", "DATABASE_URL", "DATABASE_MAX_CONNECTIONS", "SMTP_HOST", "SMTP_PORT",
    "SMTP_USERNAME", "SMTP_PASSWORD", "SMTP_SECURITY", "FROM_EMAIL", "RATE_LIMIT_REQUESTS",
    "RATE_LIMIT_WINDOW_MINUTES", "RATE_LIMIT_SWEEP_SECS", "SMTP_CB_FAILURE_THRESHOLD",
    "SMTP_CB_SUCCESS_THRESHOLD", "SMTP_CB_TIMEOUT_SECS", "SMTP_RETRY_MAX_ATTEMPTS",
    "SMTP_ATTEMPT_TIMEOUT_SECS", "RUST_LOG"]

/-- Why nothing can be reached. -/
def noNetwork : String := "Network is unreachable (os error 101)"

/-- Whether a line is written only after the signal to stop. -/
def isFarewell (l : Log.Line) : Bool := Worker.stopping.any (·.message == l.message)

/-- The worker with the variables that are set. -/
def run (values : List (String × String)) : Worker.Run :=
  Worker.run
    { lookup := fun name => (values.find? (·.1 == name)).map (·.2)
      server := .unreachable noNetwork
      reach := fun l => .error (l.unreachable noNetwork)
      now := ⟨0, 0⟩ }

end Courier.Program

open Courier in
def main : IO UInt32 := do
  let values ← Program.variableNames.filterMapM fun name => do
    return (← IO.getEnv name).map fun value => (name, value)
  let run := Program.run values
  for line in run.log.filter fun l => !Program.isFarewell l do
    IO.println (line.render run.format)
  for complaint in run.complaints do
    IO.eprintln complaint
  if run.exitCode = 0 then
    let _ ← (← IO.getStdin).readToEnd
    for line in run.log.filter Program.isFarewell do
      IO.println (line.render run.format)
  return .ofNat run.exitCode
