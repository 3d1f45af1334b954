import Zkdeal.FailoverProvider.DockerDriver
import Zkdeal.FailoverProvider.KubernetesDriver
import Zkdeal.Interaction.Service
import Zkdeal.Python.Sha256

/-!
# The failover provider

`Provider.prepare` and `Provider.commit` keep one record for each candidate, in memory and in the
state file.  They change the record in memory first and then save the whole state, and they answer a
request that is known already from memory.  The calls of one provider are serialized by a lock.
-/

namespace Zkdeal.FailoverProvider

open Interaction Python

/-- `canonical_hash(value)` -/
def canonicalHash (value : Json) : String := Sha256.hexdigest (Json.dumps true value)

/-! ## Drivers -/

/-- `build_driver(config)` -/
inductive Driver : Type where
  | docker (settings : DockerSettings)
  | kubernetes (settings : KubernetesSettings)

namespace Driver

variable (config : Config) (rounds : ℕ)

def prepare : Driver → Dict → Option String → Platform Dict
  | docker settings => DockerDriver.prepare config settings rounds
  | kubernetes settings => KubernetesDriver.prepare config settings rounds

def commit : Driver → String → Platform Dict
  | docker settings => DockerDriver.commit config settings rounds
  | kubernetes settings => KubernetesDriver.commit config settings rounds

end Driver

/-! ## Changes of a record -/

namespace Operation

/-- The record of a new operation. -/
def opened (candidateId : Json) (keySha256 requestSha256 : String) (createdAt : ℤ) : Operation where
  candidateId := candidateId
  prepareKeySha256 := keySha256
  prepareRequestSha256 := requestSha256
  phase := .preparing
  createdAtUnixMs := createdAt
  primaryTargetLsn := none
  targetCapturedAtUnixMs := none
  prepareResponse := none
  prepareResponseSha256 := none
  commitKeySha256 := none
  commitRequestSha256 := none
  ownerResponseSha256 := none
  commitResponse := none
  commitResponseSha256 := none
  committedAtUnixMs := none

def captured (target : String) (capturedAt : ℤ) (operation : Operation) : Operation :=
  { operation with primaryTargetLsn := some target, targetCapturedAtUnixMs := some capturedAt }

def prepared (response : Dict) (operation : Operation) : Operation :=
  { operation with
    prepareResponse := some response
    prepareResponseSha256 := some (canonicalHash (.obj response))
    phase := .prepared }

def bound (keySha256 requestSha256 : String) (owner : Json) (operation : Operation) : Operation :=
  { operation with
    commitKeySha256 := some keySha256
    commitRequestSha256 := some requestSha256
    ownerResponseSha256 := some owner }

def committed (response : Dict) (committedAt : ℤ) (operation : Operation) : Operation :=
  { operation with
    commitResponse := some response
    commitResponseSha256 := some (canonicalHash (.obj response))
    phase := .committed
    committedAtUnixMs := some committedAt }

end Operation

/-- A stored response, if it is one that Python takes for true. -/
def stored (response : Option Dict) : Option Dict := response.filter fun r => !r.isEmpty

namespace Provider

/-- A program of the provider, with `self.state["operations"]` as its memory. -/
abbrev Serving := Stateful Raised State Op Answer

/-- `load_json(path)`, of a file that is absent or was saved by a provider. -/
def loadJson (file : Option State) : State := file.getD []

/-- `self.save()` -/
def save : Serving Unit := do
  let s ← get
  Stateful.attempt (Op.save s) orRaise

/-- `int(time.time() * 1000)` -/
def now : Serving ℤ := Stateful.perform Op.unixMs

/-- `checkpoint(target)` -/
def recordTarget (k : OpKey) (target : String) : Serving Unit := do
  let capturedAt ← now
  modify fun s => s.modify k (Operation.captured target capturedAt)
  save

/-- A driver's operations are the provider's, except for its callback. -/
def carry (k : OpKey) : (o : Op) → Serving (Answer o)
  | .checkpoint target => recordTarget k target
  | o => Stateful.perform o

/-- Call the driver for the operation `k`. -/
def enter (k : OpKey) (call : DriverCall) (x : Platform Dict) : Serving Dict := do
  Stateful.perform (Op.enter call)
  Stateful.interpret (carry k) x.run

variable (config : Config) (driver : Driver) (rounds : ℕ)

/-! ## Prepare -/

def prepareFields : List String :=
  ["candidateId", "activeCoordinatorId", "standbyCoordinatorId", "failedWitnessCount"]

/-- The candidate id, if its text is a safe id.  The text of a dictionary, a list, a truth value or
`None` never is. -/
def candidate (request : Dict) : Option OpKey := do
  let value ← request.get "candidateId"
  let text ← value.text
  if isSafeId text then
    match value with
    | .str s => some (.text s)
    | .int n => some (.int n)
    | .float x => some (.float x)
    | _ => none
  else none

/-- From the checks of the platform on. -/
def perform (k : OpKey) (request : Dict) : Serving Dict := do
  Stateful.lift (verifyWitnessFailures config request)
  -- `request["standbyCoordinatorId"]`, which was compared with the configured one.
  Stateful.lift (verifyStandby config config.standbyCoordinatorId)
  let existing := ((← get).find k).bind Operation.primaryTargetLsn
  let response ← enter k (.prepare request existing) (driver.prepare config rounds request existing)
  raiseIf ((response.get "operationId").any (Json.eq k.json) = false) (Raised.provider 503
    "driver-contract-error" "platform driver returned the wrong operation ID")
  modify fun s => s.modify k (Operation.prepared response)
  save
  return response

/-- The operation is new. -/
def begin_ (k : OpKey) (keySha256 requestSha256 : String) : Serving Unit := do
  let createdAt ← now
  modify fun s => s.insert k (Operation.opened k.json keySha256 requestSha256 createdAt)
  save

/-- `prepare(key, request)`, its loops observed for a number of rounds. -/
def prepare (key : String) (request : Dict) : Serving Dict := do
  raiseIf (isSafeId key = false) (Raised.provider 400 "invalid-idempotency-key"
    "Idempotency-Key must be a safe 8-200 character value")
  raiseIf (request.hasKeys prepareFields = false) (Raised.provider 400 "invalid-request"
    "prepare request fields differ from the provider contract")
  match candidate request with
  | none => throw (Raised.provider 400 "invalid-request" "candidateId is invalid")
  | some k =>
    raiseIf (fieldIs request "activeCoordinatorId" config.activeCoordinatorId = false ∨
        fieldIs request "standbyCoordinatorId" config.standbyCoordinatorId = false)
      (Raised.provider 409 "topology-mismatch"
        "request coordinator IDs differ from the fixed topology")
    raiseIf ((request.get "failedWitnessCount").any Json.isInt = false)
      (Raised.provider 400 "invalid-request" "failedWitnessCount must be an integer")
    let requestSha256 := canonicalHash (.obj request)
    let keySha256 := Sha256.hexdigest key
    match (← get).find k with
    | some operation =>
      raiseIf (operation.prepareKeySha256 ≠ keySha256 ∨ operation.prepareRequestSha256 ≠ requestSha256)
        (Raised.provider 409 "idempotency-conflict" "candidate or key was reused with changed input")
      match stored operation.prepareResponse with
      | some response => return response
      | none => perform config driver rounds k request
    | none =>
      begin_ k keySha256 requestSha256
      perform config driver rounds k request

/-! ## Commit -/

/-- `-(-max(0, committed_at - captured_at) // 1000)` -/
def rtoSeconds (capturedAt committedAt : ℤ) : ℤ := -(-max 0 (committedAt - capturedAt) / 1000)

/-- The response of a driver, with the measured duration. -/
def measured (response : Dict) (capturedAt committedAt : ℤ) : Dict :=
  ((response.set "rtoSeconds" (.int (rtoSeconds capturedAt committedAt))).set
    "targetCapturedAtUnixMs" (.int capturedAt)).set "committedAtUnixMs" (.int committedAt)

/-- From the call of the driver on. -/
def finish (operationId : String) (owner : Json) : Serving Dict := do
  let response ← enter (.text operationId) (.commit operationId owner)
    (driver.commit config rounds operationId)
  raiseIf ((response.get "operationId").any (Json.eqStr operationId) = false) (Raised.provider 503
    "driver-contract-error" "platform driver returned the wrong operation ID")
  let committedAt ← now
  match ((← get).find (.text operationId)).bind Operation.targetCapturedAtUnixMs with
  | none =>
    throw (Raised.provider 503 "checkpoint-missing"
      "prepared operation has no durable target capture time")
  | some capturedAt =>
    let response := measured response capturedAt committedAt
    modify fun s => s.modify (.text operationId) (Operation.committed response committedAt)
    save
    return response

/-- The owner hash of a commit request, if its text is one. -/
def ownerHash (request : Dict) : Option Json := do
  let value ← request.get "ownerResponseSha256"
  let text ← value.text
  if isHex64 text then some value else none

/-- The key that an operation is committed under, if there is one. -/
def boundKey (operation : Operation) : Option String := operation.commitKeySha256.filter (· ≠ "")

/-- `commit(operation_id, key, request)`, its loops observed for a number of rounds. -/
def commit (operationId key : String) (request : Dict) : Serving Dict := do
  raiseIf (isSafeId operationId = false ∨ isSafeId key = false) (Raised.provider 400
    "invalid-idempotency-key" "operation and idempotency key must be safe IDs")
  raiseIf (request.hasKeys ["ownerResponseSha256"] = false) (Raised.provider 400 "invalid-request"
    "commit requires the exact ownerResponseSha256")
  match ownerHash request with
  | none =>
    throw (Raised.provider 400 "invalid-request" "commit requires the exact ownerResponseSha256")
  | some owner =>
    match (← get).find (.text operationId) with
    | none =>
      throw (Raised.provider 409 "not-prepared" "operation has no durable prepared boundary")
    | some operation =>
      raiseIf (operation.phase = .preparing) (Raised.provider 409 "not-prepared"
        "operation has no durable prepared boundary")
      let keySha256 := Sha256.hexdigest key
      let requestSha256 := canonicalHash (.obj request)
      match boundKey operation with
      | some commitKey =>
        raiseIf (commitKey ≠ keySha256 ∨ operation.commitRequestSha256 ≠ some requestSha256)
          (Raised.provider 409 "idempotency-conflict" "commit key was reused with changed input")
        match stored operation.commitResponse with
        | some response => return response
        | none => finish config driver rounds operationId owner
      | none =>
        modify fun s => s.modify (.text operationId) (Operation.bound keySha256 requestSha256 owner)
        save
        finish config driver rounds operationId owner

/-! ## Status -/

/-- `status(operation_id)` -/
def status (operationId : String) : Serving Dict := do
  raiseIf (isSafeId operationId = false) (Raised.provider 400 "invalid-request"
    "operation ID must be a safe 8-200 character value")
  match (← get).find (.text operationId) with
  | none => throw (Raised.provider 404 "not-found" "failover operation is unknown")
  | some operation =>
    return [
      ("operationId", .str operationId),
      ("phase", operation.phase.json),
      ("createdAtUnixMs", .int operation.createdAtUnixMs),
      ("targetCapturedAtUnixMs", (operation.targetCapturedAtUnixMs.map .int).getD .null),
      ("committedAtUnixMs", (operation.committedAtUnixMs.map .int).getD .null),
      ("rtoSeconds", ((stored operation.commitResponse).bind (·.get "rtoSeconds")).getD .null)]

/-! ## The service -/

/-- A request that reaches the provider. -/
inductive Request : Type where
  | prepare (key : String) (request : Dict)
  | commit (operationId key : String) (request : Dict)

def serve : Request → Serving Dict
  | .prepare key request => prepare config driver rounds key request
  | .commit operationId key request => commit config driver rounds operationId key request

/-- The state file.  A save that raises leaves the old file; everything else leaves it alone. -/
def disk : Env Op Answer (Option State) := fun d o r d' =>
  match o, r with
  | .save s, some () => s.dumpable = true ∧ d' = some s.saved
  | .save _, none => d' = d
  | _, _ => d' = d

/-- The provider, started without a state file. -/
def service : Service Request Raised State Op Answer Dict (Option State) where
  serve := serve config driver rounds
  env := disk
  load := loadJson
  initial := (· = none)
  drift := (· = ·)

end Provider

end Zkdeal.FailoverProvider
