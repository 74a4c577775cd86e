/-
# Courier.Metric.Exposition -- metrics as named samples

Every metric belongs to a `Family`, a counter or a histogram, and adds to samples
that are written as the family's name with labels in braces.  A histogram has a
cumulative sample for each bucket a value falls into, one for the sum of all values
and one for their count.

`increases` adds up what a list of metrics contributes, by sample, and `about` says
what the families concerned are.
-/
import Courier.Metric

namespace Courier.Metric

set_option autoImplicit false

/-- What is counted under one name. -/
structure Family where
  name : String
  help : String
  /-- Upper bounds of a histogram's buckets; `none` for a counter. -/
  buckets : Option (List Nat)

namespace Family

def transitions : Family :=
  ⟨"resilience_circuit_breaker_state_transitions_total",
    "Total number of circuit breaker state transitions", none⟩

def calls : Family :=
  ⟨"resilience_circuit_breaker_calls_total", "Total number of circuit breaker calls", none⟩

def decisions : Family :=
  ⟨"resilience_rate_limiter_decisions_total", "Rate limiter admission decisions", none⟩

def evictions : Family :=
  ⟨"resilience_rate_limiter_evicted_identifiers_total",
    "Identifiers removed from the rate limiter by the sweeper", none⟩

def timeouts : Family :=
  ⟨"resilience_timeout_operations_total", "Total number of timeout operations", none⟩

def retries : Family :=
  ⟨"resilience_retry_attempts", "Number of attempts before success or failure",
    some [1, 2, 3, 4, 5, 8, 13]⟩

def emails : Family :=
  ⟨"notification_service_emails_total", "Email send requests handled by notification-service",
    none⟩

def emailAttempts : Family :=
  ⟨"notification_service_email_attempts", "SMTP attempts needed per email",
    some [1, 2, 3, 4, 5, 8]⟩

/-- The lines that describe a family. -/
def about (f : Family) : List String :=
  ["# HELP " ++ f.name ++ " " ++ f.help,
    "# TYPE " ++ f.name ++ " " ++ (if f.buckets.isSome then "histogram" else "counter")]

end Family

/-- One recorded number: its family, its labels by name, and the number. -/
structure Observation where
  family : Family
  labels : List (String × String)
  value : Nat

/-- A metric as a recorded number. -/
def observation : Metric → Observation
  | .transition source target =>
      ⟨.transitions, [("from", source.name), ("to", target.name)], 1⟩
  | .call state result => ⟨.calls, [("result", result.name), ("state", state.name)], 1⟩
  | .decision allowed => ⟨.decisions, [("decision", if allowed then "allowed" else "denied")], 1⟩
  | .evicted count => ⟨.evictions, [], count⟩
  | .timed completed =>
      ⟨.timeouts, [("result", if completed then "completed" else "elapsed")], 1⟩
  | .retried ending attempts => ⟨.retries, [("result", ending.name)], attempts⟩
  | .email kind status => ⟨.emails, [("status", status.name), ("type", kind.name)], 1⟩
  | .emailAttempts sent attempts =>
      ⟨.emailAttempts, [("status", if sent then "sent" else "failed")], attempts⟩

/-- A sample's name with its labels. -/
def sampleName (name : String) (labels : List (String × String)) : String :=
  match labels with
  | [] => name
  | labels =>
      name ++ "\x7b" ++
        ",".intercalate (labels.map fun (key, value) => key ++ "=\"" ++ value ++ "\"")
        ++ "\x7d"

/-- What an observation adds to each sample. -/
def Observation.samples (o : Observation) : List (String × Nat) :=
  match o.family.buckets with
  | none => [(sampleName o.family.name o.labels, o.value)]
  | some bounds =>
      let bucket (bound : String) :=
        sampleName (o.family.name ++ "_bucket") (o.labels ++ [("le", bound)])
      (bounds.filter (o.value ≤ ·)).map (fun bound => (bucket (toString bound), 1))
        ++ [(bucket "+Inf", 1), (sampleName (o.family.name ++ "_sum") o.labels, o.value),
          (sampleName (o.family.name ++ "_count") o.labels, 1)]

/-- Adds an amount to the sample of that name. -/
def addTo (totals : List (String × Nat)) (sample : String × Nat) : List (String × Nat) :=
  if totals.any (·.1 == sample.1) then
    totals.map fun total => if total.1 == sample.1 then (total.1, total.2 + sample.2) else total
  else totals ++ [sample]

/-- What a list of metrics adds to each sample, samples that stay the same left out. -/
def increases (metrics : List Metric) : List (String × Nat) :=
  ((metrics.flatMap fun m => m.observation.samples).foldl addTo []).filter (0 < ·.2)

/-- The lines that describe the families of a list of metrics, sorted. -/
def about (metrics : List Metric) : List String :=
  ((metrics.flatMap fun m => m.observation.family.about).eraseDups).mergeSort
    fun a b => decide (a ≤ b)

end Courier.Metric
