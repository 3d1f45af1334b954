import Mathlib.Logic.Function.Basic
import Mathlib.Tactic.Common
import Zkdeal.Interaction.Raising
import Zkdeal.Python.Json

/-!
# The fault-control journal

`Journal.execute` writes an intent addressed by the hash of the idempotency key, runs the fault
(the callback), and writes a closure addressed by the operation id, which is a prefix of the
digest of the request.  Both files are created exclusively.  A file whose write was interrupted
stays behind as `torn`: it either does not parse, or lacks only its final newline.
-/

namespace Zkdeal.FaultControl

open Interaction Python

/-- An exception: a `ControlError`, or any other one. -/
inductive Raised : Type where
  | control (message : String) (status : ℕ) (code : String)
  | other
  deriving DecidableEq

/-- `ControlError(message)` with its default status and code. -/
def invalidRequest (message : String) : Raised := .control message 400 "INVALID_REQUEST"

def maxResponseBytes : ℕ := 1024 * 1024

/-- `canonical_bytes(value)`, as text. -/
def canonicalBytes (value : Json) : String := Json.dumps false value ++ "\n"

/-! ## Records -/

/-- The record of a started operation. -/
structure Intent where
  operationId : String
  action : String
  bindingDigest : String
  idempotencyKeySha256 : String
  requestDigest : String
  correlationId : String
  startedAt : String

/-- The record of a completed operation. -/
structure Closure where
  operationId : String
  action : String
  bindingDigest : String
  requestDigest : String
  correlationId : String
  intentSha256 : String
  completedAt : String
  publicResult : Dict
  privateResult : Dict

def Intent.record (i : Intent) : Json := .obj [
  ("schemaVersion", .int 1),
  ("service", .str "zkdeal-fault-control"),
  ("operationId", .str i.operationId),
  ("action", .str i.action),
  ("bindingDigest", .str i.bindingDigest),
  ("idempotencyKeySha256", .str i.idempotencyKeySha256),
  ("requestDigest", .str i.requestDigest),
  ("correlationId", .str i.correlationId),
  ("startedAt", .str i.startedAt)]

def Closure.record (c : Closure) : Json := .obj [
  ("schemaVersion", .int 1),
  ("service", .str "zkdeal-fault-control"),
  ("operationId", .str c.operationId),
  ("action", .str c.action),
  ("bindingDigest", .str c.bindingDigest),
  ("requestDigest", .str c.requestDigest),
  ("correlationId", .str c.correlationId),
  ("intentSha256", .str c.intentSha256),
  ("completedAt", .str c.completedAt),
  ("publicResult", .obj c.publicResult),
  ("privateResult", .obj c.privateResult)]

/-- The files of the journal directory. -/
inductive Path : Type where
  | intent (keyHash : String)
  | closure (operationId : String)
  deriving DecidableEq

/-- What a file of the journal records. -/
abbrev Path.Record : Path → Type
  | .intent _ => Intent
  | .closure _ => Closure

def Path.json : (p : Path) → p.Record → Json
  | .intent _, i => i.record
  | .closure _, c => c.record

/-- `path.name`. -/
def Path.name : Path → String
  | .intent keyHash => keyHash ++ ".intent.json"
  | .closure operationId => operationId ++ ".closure.json"

/-- A file: written in full, or left behind by an interrupted write of `r`. -/
inductive File (α : Type) : Type where
  | torn (r : α)
  | whole (r : α)

/-- The journal directory. -/
abbrev Directory := (p : Path) → Option (File p.Record)

/-- Create, overwrite or remove a file. -/
def Directory.set (d : Directory) (p : Path) (f : Option (File p.Record)) : Directory :=
  Function.update d p f

section Set

variable {d : Directory} {keyHash operationId : String} {i : Option (File Intent)}
  {c : Option (File Closure)}

@[simp] theorem Directory.set_self {p : Path} {f : Option (File p.Record)} : d.set p f p = f :=
  Function.update_self _ _ _

theorem Directory.set_of_ne {p p' : Path} {f : Option (File p.Record)} (h : p' ≠ p) :
    d.set p f p' = d p' := Function.update_of_ne h _ _

@[simp] theorem Directory.set_set {p : Path} {f g : Option (File p.Record)} :
    (d.set p f).set p g = d.set p g := Function.update_idem _ _ _

@[simp] theorem Directory.set_intent_closure :
    d.set (.intent keyHash) i (.closure operationId) = d (.closure operationId) :=
  set_of_ne (by simp)

@[simp] theorem Directory.set_closure_intent :
    d.set (.closure operationId) c (.intent keyHash) = d (.intent keyHash) :=
  set_of_ne (by simp)

end Set

/-! ## Operations -/

/-- How an exclusive `os.open` ends. -/
inductive Opened : Type where
  | opened
  | fileExists
  | failed

/-- What `Journal.execute` does to its environment. -/
inductive Op : Type where
  | exists (p : Path)
  | readRecord (p : Path)
  | readBytes (p : Path)
  | openExclusive (p : Path) (r : p.Record)
  | write (p : Path) (r : p.Record)
  | unlink (p : Path)
  | utcNow
  | callback (operationId : String)

abbrev Answer : Op → Type
  | .exists _ => Bool
  | .readRecord p => Except Raised p.Record
  | .readBytes _ => Except Raised String
  | .openExclusive _ _ => Opened
  | .write _ _ => Except Raised Unit
  | .unlink _ => Unit
  | .utcNow => String
  | .callback _ => Except Raised (Dict × Dict)

abbrev Journaling := Raising Raised Op Answer

/-- What `read_record` finds. -/
def Readable (d : Directory) (p : Path) (r : Except Raised p.Record) : Prop :=
  match d p with
  | none => r = .error (.control "journal record is absent or unsafe" 409 "INCOMPLETE_OPERATION")
  | some (.torn a) =>
    r = .error (invalidRequest "journal record is not strict UTF-8 JSON") ∨ r = .ok a
  | some (.whole a) =>
    r = if maxResponseBytes < (canonicalBytes (p.json a)).utf8ByteSize then
        .error (.control "journal record exceeds 1048576 bytes" 413 "DOCUMENT_TOO_LARGE")
      else .ok a

/-- The journal directory answers: reading and the callback leave it alone, an exclusive open
creates an empty file, a write fills it or fails.  Only `durable_create` raises
`JOURNAL_CONFLICT`; the callback does not. -/
def disk : Env Op Answer Directory := fun d o r d' =>
  match o, r with
  | .exists p, r => r = (d p).isSome ∧ d' = d
  | .readRecord p, r => Readable d p r ∧ d' = d
  | .readBytes p, .ok text => (∀ a, d p = some (.whole a) → text = canonicalBytes (p.json a)) ∧ d' = d
  | .readBytes _, .error e => e = .other ∧ d' = d
  | .openExclusive p a, .opened => d p = none ∧ d' = d.set p (some (.torn a))
  | .openExclusive p _, .fileExists => d p ≠ none ∧ d' = d
  | .openExclusive _ _, .failed => d' = d
  | .write p a, .ok () => d' = d.set p (some (.whole a))
  | .write _ _, .error e => e = .other ∧ d' = d
  | .unlink p, () => d' = d.set p none
  | .utcNow, _ => d' = d
  | .callback _, .ok _ => d' = d
  | .callback _, .error e => (∀ m s, e ≠ .control m s "JOURNAL_CONFLICT") ∧ d' = d

def openExclusive (p : Path) (r : p.Record) : Journaling Opened := Raising.perform (Op.openExclusive p r)

def write (p : Path) (r : p.Record) : Journaling (Except Raised Unit) := Raising.perform (Op.write p r)

def unlink (p : Path) : Journaling Unit := Raising.perform (Op.unlink p)

/-- `path.exists()` -/
def pathExists (p : Path) : Journaling Bool := Raising.perform (Op.exists p)

def readRecord (p : Path) : Journaling p.Record := Raising.attempt (Op.readRecord p) id

def readBytes (p : Path) : Journaling String := Raising.attempt (Op.readBytes p) id

def utcNow : Journaling String := Raising.perform Op.utcNow

/-- Run the fault itself. -/
def callback (operationId : String) : Journaling (Dict × Dict) :=
  Raising.attempt (Op.callback operationId) id

/-! ## Execution -/

section Execute

variable (sha256 : String → String)

/-- `durable_create(path, value)`; flushing the directory entry is best effort and cannot fail. -/
def durableCreate (p : Path) (r : p.Record) : Journaling String := do
  match ← openExclusive p r with
  | .fileExists =>
    throw (.control ("write-once journal record already exists: " ++ p.name) 409 "JOURNAL_CONFLICT")
  | .failed => throw .other
  | .opened =>
    match ← write p r with
    | .error e =>
      unlink p
      throw e
    | .ok () => return sha256 (canonicalBytes (p.json r))

/-- The arguments of `Journal.execute`, with the binding digest of the journal it is called on. -/
structure Request where
  action : String
  bindingDigest : String
  body : Dict
  idempotencyKey : String
  correlationId : String

/-- `IDEMPOTENCY`: `^[A-Za-z0-9._:-]{8,200}$` -/
def isIdempotencyKey (key : String) : Bool :=
  between (fun c => isUpper c || isLower c || isDigit09 c || c == '.' || c == '_' || c == ':' ||
    c == '-') 8 200 key.toList

namespace Request

variable (q : Request)

def digest : String := sha256 (canonicalBytes (.obj [
  ("action", .str q.action),
  ("bindingDigest", .str q.bindingDigest),
  ("body", .obj q.body),
  ("correlationId", .str q.correlationId)]))

def operationId : String := "fc-" ++ take (q.digest sha256) 40

def keyHash : String := sha256 q.idempotencyKey

/-- The intent a request writes when it starts. -/
def intent (startedAt : String) : Intent where
  operationId := q.operationId sha256
  action := q.action
  bindingDigest := q.bindingDigest
  idempotencyKeySha256 := q.keyHash sha256
  requestDigest := q.digest sha256
  correlationId := q.correlationId
  startedAt := startedAt

/-- The closure a request writes when its callback returned. -/
def closure (intentSha256 completedAt : String) (publicResult privateResult : Dict) : Closure where
  operationId := q.operationId sha256
  action := q.action
  bindingDigest := q.bindingDigest
  requestDigest := q.digest sha256
  correlationId := q.correlationId
  intentSha256 := intentSha256
  completedAt := completedAt
  publicResult := publicResult
  privateResult := privateResult

end Request

/-- `d.update({...})` on a copy of the public result. -/
def answerWith (publicResult : Dict) (operationId closureSha256 correlationId : String) : Dict :=
  let fields : Dict := [("operationId", .str operationId), ("closureSha256", .str closureSha256),
    ("correlationId", .str correlationId)]
  publicResult.map (fun kv => (kv.1, (fields.get kv.1).getD kv.2)) ++
    fields.filter fun kv => (publicResult.get kv.1).isNone

/-- The branch of `Journal.execute` for a key that has an intent. -/
def replay (q : Request) : Journaling (Dict × Bool) := do
  let intent ← readRecord (.intent (q.keyHash sha256))
  raiseIf (intent.requestDigest ≠ q.digest sha256 ∨ intent.operationId ≠ q.operationId sha256)
    (Raised.control "idempotency key was already used with changed input" 409 "IDEMPOTENCY_CONFLICT")
  raiseIf ((← pathExists (.closure (q.operationId sha256))) = false)
    (Raised.control "prior operation stopped after durable intent" 409 "INCOMPLETE_OPERATION")
  let closure ← readRecord (.closure (q.operationId sha256))
  return (answerWith closure.publicResult (q.operationId sha256)
    (sha256 (canonicalBytes closure.record)) closure.correlationId, true)

/-- The branch of `Journal.execute` for a key that has no intent. -/
def start (q : Request) : Journaling (Dict × Bool) := do
  let intentPath : Path := .intent (q.keyHash sha256)
  let startedAt ← utcNow
  let _ ← durableCreate sha256 intentPath (q.intent sha256 startedAt)
  let (publicResult, privateResult) ← callback (q.operationId sha256)
  let intentBytes ← readBytes intentPath
  let completedAt ← utcNow
  let closureDigest ← durableCreate sha256 (.closure (q.operationId sha256))
    (q.closure sha256 (sha256 intentBytes) completedAt publicResult privateResult)
  return (answerWith publicResult (q.operationId sha256) closureDigest q.correlationId, false)

/-- `Journal.execute`; the second component of the result tells a replay. -/
def execute (q : Request) : Journaling (Dict × Bool) := do
  raiseIf (isIdempotencyKey q.idempotencyKey = false) (invalidRequest "Idempotency-Key is malformed")
  if (← pathExists (.intent (q.keyHash sha256))) = true then replay sha256 q
  else start sha256 q

end Execute

end Zkdeal.FaultControl
