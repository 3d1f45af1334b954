import Zkdeal.Interaction.Service
import Zkdeal.OwnerSoak.JournalRuns

/-!
# Workers of the owner soak driver

A worker keeps its journal and its state in memory and on disk, and talks to the services over HTTP.  It
can be killed at each of its operations (`Op`); the next worker starts with `boot`, from what is on disk.
-/

namespace Zkdeal.OwnerSoak

open Python Json Soak Interaction

/-- `int(x)` of a number that is neither infinite nor not-a-number -/
def truncate (q : ℚ) : ℤ := q.num.tdiv q.den

/-! ## State -/

/-- The value of a `DriverState`. -/
structure DriverState where
  manifestSha256 : String
  runId : String
  steps : List (String × ℤ × Dict)
  attempts : List (String × ℤ)
  elapsedSeconds : ℤ
  ledgerCursor : ℤ
  resumeVerified : Bool
  workerBoots : ℕ
  data : Dict

namespace DriverState

/-- The state of a run that starts. -/
def fresh (manifestSha256 runId : String) : DriverState :=
  ⟨manifestSha256, runId, [], [], 0, 0, false, 0, []⟩

/-- `state.step_done(key)` -/
def stepDone (s : DriverState) (key : String) : Bool := s.steps.any fun step => step.1 = key

/-- `state.mark_done(key, elapsed_seconds, result)`, before it is saved -/
def markDone (s : DriverState) (key : String) (elapsedSeconds : ℤ) (result : Dict) : DriverState :=
  { s with
    steps := (s.steps.filter fun step => step.1 ≠ key) ++ [(key, elapsedSeconds, result)]
    elapsedSeconds := max s.elapsedSeconds elapsedSeconds }

/-- `state.attempt(purpose)` -/
def attempt (s : DriverState) (purpose : String) : ℤ := (s.attempts.lookup purpose).getD 1

/-- `state.bump_attempt(purpose)`, before it is saved -/
def bumpAttempt (s : DriverState) (purpose : String) : DriverState :=
  { s with attempts := (purpose, s.attempt purpose + 1) :: s.attempts }

/-- `state.put(key, value)`, before it is saved -/
def put (s : DriverState) (key : String) (value : Json) : DriverState := { s with data := s.data.set key value }

end DriverState

/-! ## Operations -/

/-- A request to a service. -/
structure Request where
  endpoint : String
  method : String
  path : String
  body : Option Json
  auth : Option String
  headers : List (String × String)
  label : String

/-- What one attempt at a request comes to: an answer, or an exception with its text.  The body is what
`parse_json` makes of the bytes; that it raises is one of the exceptions. -/
inductive Reply : Type where
  | answered (status : ℕ) (body : Option Json) (raw : Bytes)
  | failed (error : String)

/-- The operations of a worker. -/
inductive Op : Type where
  /-- The journal file, when a worker starts. -/
  | readJournal
  /-- The state file, when a worker starts. -/
  | readState
  /-- `sha256_hex(os.urandom(32))[:16]` -/
  | newRunId
  /-- `state.save()` -/
  | save (state : DriverState)
  /-- `journal._write(event)` -/
  | write (event : Event)
  /-- `clock.monotonic()` -/
  | monotonic
  /-- `clock.sleep(seconds)` -/
  | sleep (seconds : ℚ)
  /-- `clock.sleep(wait)` between two attempts at a request -/
  | backoff (wait : ℚ)
  /-- The checks of a request and of its token, before it is sent; they may raise. -/
  | prepare (request : Request)
  /-- One attempt at a request. -/
  | send (request : Request)
  /-- A file other than the journal and the state, and what else a slot does to its surroundings. -/
  | outside (effect : String)
  /-- The call of `slot.run()`, with the second that the slot is scheduled at and the elapsed seconds. -/
  | runSlot (key : String) (second : ℤ) (elapsed : ℚ)

/-- What an operation is answered. -/
abbrev Answer : Op → Type
  | .readJournal => Option Bytes
  | .readState => Option DriverState
  | .newRunId => String
  | .monotonic => ℚ
  | .prepare _ => Option String
  | .send _ => Reply
  | .outside _ => String
  | _ => Unit

/-- The memory of a worker. -/
structure Worker where
  state : DriverState
  journal : Journal
  /-- `http.max_wait_ms` -/
  maxWaitMs : ℤ

/-- A program of a worker. -/
abbrev Driver (α : Type) := Stateful Raised Worker Op Answer α

/-! ## State and journal -/

open Stateful

/-- Change the state, and save it. -/
def update (f : DriverState → DriverState) : Driver Unit := do
  modify fun w => { w with state := f w.state }
  let w ← get
  perform (Op.save w.state)

/-- A call of the journal. -/
def record (call : Call) : Driver (Option Event) := do
  match call.perform Sha256.sha256 ⟨(← get).journal, none⟩ with
  | .error e => throw e
  | .ok (none, _) => return none
  | .ok (some event, s) =>
    perform (Op.write event)
    modify fun w => { w with journal := s.journal }
    return some event

/-- `DriverState(path, manifest_sha256)` -/
def loadState (manifestSha256 : String) : Driver DriverState := do
  let file : Option DriverState ← perform Op.readState
  match file with
  | some state =>
    raiseIf (state.manifestSha256 ≠ manifestSha256)
      (Raised.driverError "resume manifest does not match the persisted owner driver state")
    return state
  | none =>
    let runId ← perform Op.newRunId
    let state := DriverState.fresh manifestSha256 runId
    perform (Op.save state)
    return state

/-- The start of a worker, up to its clients; `False` when the journal is closed. -/
def boot (manifestSha256 : String) : Driver Bool := do
  let file ← perform Op.readJournal
  match Journal.load file with
  | .error e => throw e
  | .ok journal =>
    if journal.closed then return false
    let state ← loadState manifestSha256
    set (Worker.mk state journal 0)
    update fun s => { s with workerBoots := s.workerBoots + 1 }
    return true

/-! ## Requests -/

/-- Python's texts of values that are not texts themselves. -/
structure Texts where
  /-- `str(value)` -/
  str : Json → String
  /-- `sorted(expect)` -/
  statuses : List ℕ → String
  /-- `raw.decode("utf-8", "replace").strip()` -/
  decoded : Bytes → String

/-- `text[:ERROR_DETAIL_LIMIT]` -/
def detailLimit (text : String) : String := .ofList (text.toList.take 400)

/-- `describe_error_body(parsed, raw)` -/
def describeErrorBody (texts : Texts) (parsed : Option Json) (raw : Bytes) : String :=
  let named (d : Dict) (key : String) : Option String :=
    match d.get key with
    | some (.str value) => if value = "" then none else some value
    | _ => none
  match parsed with
  | some (.obj d) =>
    match ["message", "error", "detail", "reason", "title"].findSome? (named d) with
    | some value =>
      match named d "code" with
      | some code => detailLimit (if code = value then value else code ++ ": " ++ value)
      | none => detailLimit value
    | none => detailLimit (dumps true (.obj d))
  | some .null | none => if raw.isEmpty then "" else detailLimit (texts.decoded raw)
  | some value => detailLimit (texts.str value)

/-- One turn of the loop of `Http.request`: the answer, or the error to report. -/
def judge (texts : Texts) (expect : List ℕ) : Reply → Except String (ℕ × Option Json × Bytes)
  | .answered status body raw =>
    if status ∈ expect then .ok (status, body, raw)
    else
      let refused := "HTTP " ++ toString status ++ " not in " ++ texts.statuses expect
      let detail := describeErrorBody texts body raw
      .error (if detail = "" then refused else refused ++ ": " ++ detail)
  | .failed error => .error error

/-- `min(interval * (2 ** min(attempt - 1, 4)), 5.0)` -/
def backoffWait (interval : ℚ) (attempt : ℕ) : ℚ := min (interval * 2 ^ min (attempt - 1) 4) 5

/-- `name` in `Http.request` -/
def Request.name (r : Request) : String :=
  if r.label = "" then r.method ++ " " ++ r.endpoint ++ r.path else r.label

/-- The wait after an attempt that failed. -/
def backOff (wait : ℚ) : Driver Unit := do
  modify fun w => { w with maxWaitMs := max w.maxWaitMs (truncate (wait * 1000)) }
  perform (Op.backoff wait)

/-- The attempts that are left of a request. -/
def attemptsFrom (texts : Texts) (r : Request) (expect : List ℕ) (attempts : ℕ) (interval : ℚ) :
    ℕ → String → Driver (ℕ × Option Json × Bytes)
  | 0, lastError =>
    throw (.driverError (r.name ++ " failed after " ++ toString attempts ++ " attempts: " ++ lastError))
  | left + 1, _ => do
    let reply ← perform (Op.send r)
    match judge texts expect reply with
    | .ok answer => return answer
    | .error lastError =>
      if 0 < left ∧ 0 < interval then backOff (backoffWait interval (attempts - left))
      attemptsFrom texts r expect attempts interval left lastError

/-- `http.request(...)` -/
def request (texts : Texts) (r : Request) (expect : List ℕ) (attempts : ℕ) (interval : ℚ) :
    Driver (ℕ × Option Json × Bytes) := do
  raiseIf (attempts < 1 ∨ 600 < attempts) (Raised.driverError "request attempts are outside 1..600")
  raiseIf (interval < 0 ∨ 60 < interval) (Raised.driverError "request interval is outside 0..60 seconds")
  let refused : Option String ← perform (Op.prepare r)
  match refused with
  | some error => throw (.driverError error)
  | none => attemptsFrom texts r expect attempts interval attempts "request was not attempted"

end Zkdeal.OwnerSoak
