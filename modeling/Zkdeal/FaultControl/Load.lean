import Mathlib.Data.List.Sort
import Zkdeal.Python.Json

/-!
# Load runs of the fault controller

The result that `Controller._load` computes from what its probes measured.
-/

namespace Zkdeal.FaultControl

open Python

/-- What one request to an endpoint of the profile gave: its status, the digest of its body, and how long
it took in milliseconds. -/
structure Probe where
  status : ℕ
  digest : String
  elapsed : Float

/-- A load run that ended without an exception: the probes of each completed round, in the order in which
the rounds completed, and the time that `time.monotonic` measured. -/
structure LoadRun where
  profile : String
  candidateId : String
  rounds : List (List Probe)
  concurrency : ℤ
  durationSeconds : ℤ
  elapsedSeconds : Float

namespace LoadRun

variable (run : LoadRun)

def probes : List Probe := run.rounds.flatten

def latencies : List Float := run.probes.map Probe.elapsed

/-- The rounds whose endpoints answered differently. -/
def mismatches : ℕ :=
  run.rounds.countP fun round => 1 < ((round.map fun p => (p.status, p.digest)).dedup).length

/-- `status_counts`, sorted by its keys. -/
def statusCounts : Dict :=
  let statuses := run.probes.map fun p => toString p.status
  (statuses.dedup.insertionSort (· ≤ ·)).map fun status => (status, .int (statuses.count status))

/-- `min(len(ordered) - 1, max(0, int(len(ordered) * 0.99)))` for a nonempty list. -/
def p99Index (n : ℕ) : ℕ := min (n - 1) ((intOfFloat (Float.ofNat n * 0.99)).getD 0).toNat

def p99 : Float :=
  let ordered := run.latencies.insertionSort (· ≤ ·)
  match ordered[p99Index ordered.length]? with
  | some latency => roundFloat latency 3
  | none => 0.0

/-- The public result of `_load`. -/
def result : Dict := [
  ("profile", .str run.profile),
  ("requests", .int run.rounds.length),
  ("durationSeconds", .float (roundFloat (max 0.001 run.elapsedSeconds) 3)),
  ("configuredDurationSeconds", .int run.durationSeconds),
  ("concurrency", .int run.concurrency),
  ("p99LatencyMs", .float run.p99),
  ("mismatches", .int run.mismatches),
  ("statusCounts", .obj run.statusCounts),
  ("backpressureObserved", .bool (run.probes.any fun p => p.status == 429 || p.status == 503)),
  ("candidateId", .str run.candidateId)]

end LoadRun

end Zkdeal.FaultControl
