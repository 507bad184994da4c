/-
LintMend.Service.Health — whether the service is up and has its model.

The model is only looked for when the service answers. A service that does not answer, or lacks
the model, is unhealthy; one whose models cannot be listed is degraded.

  `HealthStatus`, `HealthCheck`, `HealthReport` — the findings
  `HealthReport.run`     — all checks
  `HealthReport.toJson`  — the report as data
-/
import LintMend.Service.Client
import LintMend.Service.Deadline

namespace LintMend

/-- How something is. -/
inductive HealthStatus where
  | healthy
  | degraded
  | unhealthy
  deriving DecidableEq, Repr

namespace HealthStatus

/-- All states. -/
def all : List HealthStatus := [healthy, degraded, unhealthy]

/-- The word for a state. -/
def name : HealthStatus → Text
  | healthy => "healthy"
  | degraded => "degraded"
  | unhealthy => "unhealthy"

/-- The state that a word stands for. -/
def ofName? (t : Text) : Option HealthStatus :=
  all.find? (·.name == t)

end HealthStatus

/-- The finding of one check. -/
structure HealthCheck where
  name : Text
  status : HealthStatus
  message : Text
  /-- How long the service took to answer, in milliseconds, if that was measured. -/
  latency : Option Float := none
  details : List (Text × Json) := []
  deriving Repr

/-- The findings of all checks. -/
structure HealthReport where
  healthy : Bool
  status : HealthStatus
  /-- When the checks began, in seconds since the start of 1970. -/
  time : Int
  checks : List HealthCheck
  deriving Repr

namespace HealthCheck

/-- The finding as data. -/
def toJson (c : HealthCheck) : Json :=
  .object [("name", .string c.name), ("status", .string c.status.name),
    ("message", .string c.message),
    ("latency_ms", match c.latency with
      | some x => .float x
      | none => .null),
    ("details", .object c.details)]

/-- Check that the service answers, given how long that took. -/
def ofService (c : ServiceClient) (elapsed : Float) (l : Link) :
    Link × Except Failure HealthCheck :=
  let name : Text := "generation_service"
  let (l, answer) := c.version l
  let limit := c.settings.healthTimeout + 1.0
  let (events, result) := withDeadline limit (floatText limit) none (some answer)
  let l := events.foldl Link.emit l
  match result with
  | .ok v =>
    (l, .ok { name, status := .healthy, message := "Ollama reachable", latency := some elapsed,
              details := [("base_url", .string c.settings.address), ("version", .string v)] })
  | .error failure =>
    if failure.isForeseen then
      (l, .ok { name, status := .unhealthy,
                message := "Ollama not reachable at " ++ c.settings.address ++ ": " ++
                  failure.message })
    else (l, .error failure)

/-- Check that the model is installed. -/
def ofModel (c : ServiceClient) (l : Link) : Link × Except Failure HealthCheck :=
  let name : Text := "model"
  let model := c.settings.model
  let details : List (Text × Json) := [("model", .string model)]
  match c.hasModel l (some model) with
  | (l, .ok true) =>
    (l, .ok { name, status := .healthy, message := "Model " ++ model ++ " available", details })
  | (l, .ok false) =>
    (l, .ok { name, status := .unhealthy, details,
              message := "Model " ++ model ++ " is not installed (run: ollama pull " ++ model ++
                ")" })
  | (l, .error failure) =>
    if failure.isForeseen then
      (l, .ok { name, status := .degraded, details,
                message := "Could not list models: " ++ failure.message })
    else (l, .error failure)

end HealthCheck

namespace HealthReport

/-- The state that findings amount to: healthy if all are, unhealthy if one is. -/
def overall (checks : List HealthCheck) : HealthStatus :=
  if checks.all (·.status == .healthy) then .healthy
  else if checks.any (·.status == .unhealthy) then .unhealthy
  else .degraded

/-- The report of findings. A degraded service still counts as healthy. -/
def ofChecks (time : Int) (checks : List HealthCheck) : HealthReport :=
  ⟨overall checks != .unhealthy, overall checks, time, checks⟩

/-- The checks: that of the service, and if it is healthy, that of the model. -/
def runChecks (c : ServiceClient) (elapsed : Float) (l : Link) :
    Link × Except Failure (List HealthCheck) :=
  match HealthCheck.ofService c elapsed l with
  | (l, .error failure) => (l, .error failure)
  | (l, .ok first) =>
    if first.status = .healthy then
      match HealthCheck.ofModel c l with
      | (l, .error failure) => (l, .error failure)
      | (l, .ok second) => (l, .ok [first, second])
    else (l, .ok [first])

/-- Make all checks, given when they begin and how long the service takes. -/
def run (c : ServiceClient) (time : Int) (elapsed : Float) (l : Link) :
    Link × Except Failure HealthReport :=
  match runChecks c elapsed (l.emit (.healthCheckStarted c.settings.address)) with
  | (l, .error failure) => (l, .error failure)
  | (l, .ok checks) =>
    let r := ofChecks time checks
    (l.emit (.healthCheckCompleted r.healthy r.status.name checks.length), .ok r)

/-- Two digits. -/
def twoDigits (n : Nat) : Text := Text.ofNatBase 10 2 n

/-- Year, month and day of a day, counted from the first of January 1970. The count goes over
periods of 400 years, within which years begin in March. -/
def civilDay (day : Int) : Int × Nat × Nat :=
  let z := day + 719468
  let era := Int.fdiv z 146097
  let dayOfEra := (z - era * 146097).toNat
  let yearOfEra := (dayOfEra - dayOfEra / 1460 + dayOfEra / 36524 - dayOfEra / 146096) / 365
  let dayOfYear := dayOfEra - (365 * yearOfEra + yearOfEra / 4 - yearOfEra / 100)
  let m := (5 * dayOfYear + 2) / 153
  let month := if m < 10 then m + 3 else m - 9
  let year := (yearOfEra : Int) + era * 400 + (if month ≤ 2 then 1 else 0)
  (year, month, dayOfYear - (153 * m + 2) / 5 + 1)

/-- A time as day and clock, in universal time. -/
def timeText (seconds : Int) : Text :=
  let (year, month, day) := civilDay (Int.fdiv seconds 86400)
  let clock := (Int.fmod seconds 86400).toNat
  Text.ofNatBase 10 4 year.toNat ++ "-" ++ twoDigits month ++ "-" ++ twoDigits day ++ "T" ++
    twoDigits (clock / 3600) ++ ":" ++ twoDigits (clock / 60 % 60) ++ ":" ++
    twoDigits (clock % 60) ++ "+00:00"

/-- The report as data. -/
def toJson (r : HealthReport) : Json :=
  .object [("healthy", .bool r.healthy), ("status", .string r.status.name),
    ("timestamp", .string (timeText r.time)), ("checks", .array (r.checks.map (·.toJson)))]

end HealthReport

end LintMend
