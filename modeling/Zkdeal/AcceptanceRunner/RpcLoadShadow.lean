import Zkdeal.FaultControl.Load
import Zkdeal.Python.JsonStrict

/-!
# The load scenario of the acceptance runner

`validate_rpc_load_shadow` and what it takes from the fault controller.  The fault controller measures
the 99th percentile of its latencies as a float, and `integer` refuses every float, so no load run is
accepted.
-/

namespace Zkdeal.AcceptanceRunner

open Python FaultControl

/-- The message of an `AcceptanceError`. -/
abbrev AcceptanceError := String

/-- `0|[1-9][0-9]*` -/
def isDecimal : List Char → Bool
  | ['0'] => true
  | c :: cs => isDigit09 c && c != '0' && cs.all isDigit09
  | [] => false

def notInteger (field : String) (minimum : ℤ) : AcceptanceError :=
  field ++ " must be an integer >= " ++ toString minimum

/-- `integer(value, field, minimum)`; Python reads at most 4300 digits. -/
def integer (value : Json) (field : String) (minimum : ℤ) : Except AcceptanceError ℤ :=
  let result : Option ℤ :=
    match value with
    | .int n => some n
    | .str s => if isDecimal s.toList then intOfStr s else none
    | _ => none
  match result with
  | some n => if n < minimum then .error (notInteger field minimum) else .ok n
  | none => .error (notInteger field minimum)

/-- The evidence of the scenario. -/
structure Evidence where
  requests : Json
  durationSeconds : Json
  p99LatencyMs : Json
  rpcAMatchedResponses : Json
  rpcBMatchedResponses : Json
  mismatches : Json
  criticalFailOpen : Json

/-- What the validator returns; its other fields are constants. -/
structure Accepted where
  requests : ℤ
  durationSeconds : ℤ
  p99LatencyMs : ℤ
  latencyBudgetMs : ℤ
  rpcAMatchedResponses : ℤ
  rpcBMatchedResponses : ℤ

def raiseWhen (c : Prop) [Decidable c] (e : AcceptanceError) : Except AcceptanceError Unit :=
  if c then .error e else .ok ()

/-- `validate_rpc_load_shadow(e, latency_limit_ms, mismatch_limit)` -/
def validateRpcLoadShadow (e : Evidence) (latencyLimitMs mismatchLimit : ℤ) : Except AcceptanceError Accepted := do
  raiseWhen (¬(1 ≤ latencyLimitMs ∧ latencyLimitMs ≤ 500)) "RPC p99 latency assertion must be within 1..500ms"
  raiseWhen (mismatchLimit ≠ 0) "RPC shadow mismatch limit must remain zero"
  let requests ← integer e.requests "requests" 1000
  let duration ← integer e.durationSeconds "durationSeconds" 60
  let p99 ← integer e.p99LatencyMs "p99LatencyMs" 0
  raiseWhen (latencyLimitMs < p99)
    ("RPC p99 latency " ++ toString p99 ++ "ms exceeds " ++ toString latencyLimitMs ++ "ms")
  let matchedA ← integer e.rpcAMatchedResponses "rpcAMatchedResponses" requests
  let matchedB ← integer e.rpcBMatchedResponses "rpcBMatchedResponses" requests
  let mismatches ← integer e.mismatches "mismatches" 0
  let failOpen ← integer e.criticalFailOpen "criticalFailOpen" 0
  raiseWhen (matchedA < requests ∨ matchedB < requests ∨ mismatches ≠ 0 ∨ failOpen ≠ 0)
    "RPC load/shadow run lost comparisons, mismatched, or failed open"
  return {
    requests, durationSeconds := duration, p99LatencyMs := p99, latencyBudgetMs := latencyLimitMs,
    rpcAMatchedResponses := matchedA, rpcBMatchedResponses := matchedB }

/-! ## From the fault controller -/

/-- What a value is after it was sent as JSON: the text of a float is read as a float. -/
def Received : Json → Json → Prop
  | .float _, w => ∃ y, w = .float y
  | v, w => w = v

/-- The evidence has the values of the load run. -/
structure Takes (run : LoadRun) (e : Evidence) : Prop where
  requests : ∃ v, run.result.get "requests" = some v ∧ Received v e.requests
  durationSeconds : ∃ v, run.result.get "configuredDurationSeconds" = some v ∧ Received v e.durationSeconds
  p99LatencyMs : ∃ v, run.result.get "p99LatencyMs" = some v ∧ Received v e.p99LatencyMs
  mismatches : ∃ v, run.result.get "mismatches" = some v ∧ Received v e.mismatches

/-- `integer` takes the value, possibly as too small a number. -/
def Parses (value : Json) : Prop := ∃ n field minimum, integer value field minimum = .ok n

/-- The run stays within the limits, and the other endpoints saw every request of it. -/
structure WithinLimits (run : LoadRun) (e : Evidence) (latencyLimitMs : ℤ) : Prop where
  requests : 1000 ≤ run.rounds.length
  durationSeconds : 60 ≤ run.durationSeconds
  limit : 1 ≤ latencyLimitMs ∧ latencyLimitMs ≤ 500
  latency : run.p99 ≤ Float.ofInt latencyLimitMs
  mismatches : run.mismatches = 0
  matchedA : e.rpcAMatchedResponses = .int run.rounds.length
  matchedB : e.rpcBMatchedResponses = .int run.rounds.length
  criticalFailOpen : e.criticalFailOpen = .int 0

/-- What the validator takes from the run are integers, and a run within the limits is accepted. -/
structure Fits (run : LoadRun) : Prop where
  requests : ∀ e, Takes run e → Parses e.requests
  durationSeconds : ∀ e, Takes run e → Parses e.durationSeconds
  p99LatencyMs : ∀ e, Takes run e → Parses e.p99LatencyMs
  mismatches : ∀ e, Takes run e → Parses e.mismatches
  accepted : ∀ e latencyLimitMs, Takes run e → WithinLimits run e latencyLimitMs →
    ∃ a, validateRpcLoadShadow e latencyLimitMs 0 = .ok a

theorem integer_float (y : Float) (field : String) (minimum : ℤ) :
    integer (.float y) field minimum = .error (notInteger field minimum) := rfl

theorem not_parses_float (y : Float) : ¬Parses (.float y) := by
  rintro ⟨n, field, minimum, h⟩
  rw [integer_float] at h
  cases h

/-- The 99th percentile arrives as a float. -/
theorem p99_float {run : LoadRun} {e : Evidence} (h : Takes run e) : ∃ y, e.p99LatencyMs = .float y := by
  obtain ⟨v, hv, received⟩ := h.p99LatencyMs
  obtain rfl := Option.some.inj (show some (Json.float run.p99) = some v from hv)
  exact received

/-- No evidence of a load run is accepted, whatever the limits are. -/
theorem validate_ne_ok {run : LoadRun} {e : Evidence} (h : Takes run e) (latencyLimitMs mismatchLimit : ℤ)
    (a : Accepted) : validateRpcLoadShadow e latencyLimitMs mismatchLimit ≠ .ok a := by
  obtain ⟨y, hy⟩ := p99_float h
  intro accepted
  obtain ⟨_, -, accepted⟩ := bind_eq_ok.1 accepted
  obtain ⟨_, -, accepted⟩ := bind_eq_ok.1 accepted
  obtain ⟨_, -, accepted⟩ := bind_eq_ok.1 accepted
  obtain ⟨_, -, accepted⟩ := bind_eq_ok.1 accepted
  obtain ⟨_, hp99, -⟩ := bind_eq_ok.1 accepted
  rw [hy, integer_float] at hp99
  cases hp99

/-- The evidence that has exactly the values of the run. -/
def evidenceOf (run : LoadRun) : Evidence where
  requests := .int run.rounds.length
  durationSeconds := .int run.durationSeconds
  p99LatencyMs := .float run.p99
  rpcAMatchedResponses := .int run.rounds.length
  rpcBMatchedResponses := .int run.rounds.length
  mismatches := .int run.mismatches
  criticalFailOpen := .int 0

theorem takes_evidenceOf (run : LoadRun) : Takes run (evidenceOf run) where
  requests := ⟨_, rfl, rfl⟩
  durationSeconds := ⟨_, rfl, rfl⟩
  p99LatencyMs := ⟨_, rfl, _, rfl⟩
  mismatches := ⟨_, rfl, rfl⟩

/-- No load run fits the acceptance runner, and none is ever accepted: the 99th percentile is a float. -/
theorem never_fits (run : LoadRun) :
    ¬Fits run ∧ ∀ e, Takes run e → ∀ latencyLimitMs mismatchLimit a,
      validateRpcLoadShadow e latencyLimitMs mismatchLimit ≠ .ok a := by
  refine ⟨fun fits => ?_, fun e takes => validate_ne_ok takes⟩
  have parses : Parses (.float run.p99) := fits.p99LatencyMs _ (takes_evidenceOf run)
  exact not_parses_float _ parses

/-- One round whose two endpoints answered alike, the slower one in 12.5 milliseconds. -/
def oneRound : LoadRun where
  profile := "rpc-shadow"
  candidateId := "candidate-1"
  rounds := [[⟨200, "aa", 12.5⟩, ⟨200, "aa", 7.25⟩]]
  concurrency := 1
  durationSeconds := 60
  elapsedSeconds := 0.5

theorem not_fits_oneRound : ¬Fits oneRound := by
  intro fits
  have parses : Parses (.float oneRound.p99) := fits.p99LatencyMs _ (takes_evidenceOf oneRound)
  exact not_parses_float _ parses

end Zkdeal.AcceptanceRunner
