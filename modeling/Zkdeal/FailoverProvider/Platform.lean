import Zkdeal.Interaction.Raising
import Zkdeal.Python.Json
import Zkdeal.Python.Url

/-!
# The failover provider and its platform

What the provider asks of its environment (`Op`), its state record, and the checks it makes on
what it is told: health documents, witness networks and PostgreSQL positions.  `checkpoint` is the
callback a driver is given, and `enter` marks where a driver is called; it does nothing.
-/

namespace Zkdeal.FailoverProvider

open Interaction Python

/-- An exception: a `ProviderError`, or any other one. -/
inductive Raised : Type where
  | provider (status : ℕ) (code message : String)
  | other
  deriving DecidableEq

/-! ## Configuration -/

/-- The fields of `Config` that serving a request reads. -/
structure Config where
  activeHealthUrls : List String
  standbyHealthUrl : String
  indexerFreshnessUrl : String
  signerAuthorityHealthUrls : List String
  activeCoordinatorId : String
  standbyCoordinatorId : String
  providerToken : String
  approvalToken : String
  requestTimeoutSeconds : ℕ
  platformTimeoutSeconds : ℕ
  allowHttp : Bool

/-- The characters `[a-z0-9._:-]`. -/
def isSafeIdChar (c : Char) : Bool :=
  isLower c || isDigit09 c || c == '.' || c == '_' || c == ':' || c == '-'

/-- `SAFE_ID`: `^[a-z0-9][a-z0-9._:-]{7,199}$` -/
def isSafeId (s : String) : Bool :=
  headed (fun c => isLower c || isDigit09 c) isSafeIdChar 7 199 s.toList

/-- `LSN`: `^[0-9A-Fa-f]+/[0-9A-Fa-f]+$` -/
def splitLsn (s : String) : Option (List Char × List Char) :=
  match partition '/' s.toList with
  | (high, some low) =>
    if !high.isEmpty && !low.isEmpty && high.all isHex && low.all isHex then some (high, low) else none
  | _ => none

/-- `HEX64`: `^[0-9a-f]{64}$` -/
def isHex64 (s : String) : Bool := between isLowerHex 64 64 s.toList

/-- `lsn_value(value)`, where it does not raise. -/
def lsnNumber (value : String) : Option ℕ :=
  (splitLsn value).map fun (high, low) => hexValue high * 2 ^ 32 + hexValue low

/-! ## State -/

inductive Phase : Type where
  | preparing
  | prepared
  | committed
  deriving DecidableEq

def Phase.json : Phase → Json
  | .preparing => .str "PREPARING"
  | .prepared => .str "PREPARED"
  | .committed => .str "COMMITTED"

/-- The record of a failover. -/
structure Operation where
  candidateId : Json
  prepareKeySha256 : String
  prepareRequestSha256 : String
  phase : Phase
  createdAtUnixMs : ℤ
  primaryTargetLsn : Option String
  targetCapturedAtUnixMs : Option ℤ
  prepareResponse : Option Dict
  prepareResponseSha256 : Option String
  commitKeySha256 : Option String
  commitRequestSha256 : Option String
  ownerResponseSha256 : Option Json
  commitResponse : Option Dict
  commitResponseSha256 : Option String
  committedAtUnixMs : Option ℤ

/-- A key of the `operations` dictionary: a candidate id that is a text or a number. -/
inductive OpKey : Type where
  | text (s : String)
  | int (n : ℤ)
  | float (x : Float)
  deriving DecidableEq

namespace OpKey

def json : OpKey → Json
  | .text s => .str s
  | .int n => .int n
  | .float x => .float x

/-- Two keys that a dictionary does not tell apart. -/
def same (k l : OpKey) : Bool := k = l || k.json.eq l.json

/-- The text that `json.dumps` writes for a key. -/
def dumped : OpKey → String
  | .text s => s
  | .int n => toString n
  | .float x => reprFloat x

def isText : OpKey → Bool
  | .text _ => true
  | _ => false

end OpKey

/-- The dictionary `self.state["operations"]`. -/
abbrev State := List (OpKey × Operation)

namespace State

/-- `operations.get(key)` -/
def find (s : State) (k : OpKey) : Option Operation :=
  (List.find? (fun entry => entry.1.same k) s).map Prod.snd

/-- Change the record of a key. -/
def modify : State → OpKey → (Operation → Operation) → State
  | [], _, _ => []
  | (l, operation) :: s, k, f =>
    if l.same k then (l, f operation) :: s else (l, operation) :: modify s k f

/-- `operations[key] = operation` for a new key. -/
def insert (s : State) (k : OpKey) (operation : Operation) : State := s ++ [(k, operation)]

end State

/-- The dictionary of a record. -/
def Operation.document (operation : Operation) : Dict :=
  let field (key : String) (value : Option Json) : Dict := (value.map fun v => (key, v)).toList
  [("candidateId", operation.candidateId), ("prepareKeySha256", .str operation.prepareKeySha256),
    ("prepareRequestSha256", .str operation.prepareRequestSha256), ("phase", operation.phase.json),
    ("createdAtUnixMs", .int operation.createdAtUnixMs)] ++
  field "primaryTargetLsn" (operation.primaryTargetLsn.map .str) ++
  field "targetCapturedAtUnixMs" (operation.targetCapturedAtUnixMs.map .int) ++
  field "prepareResponse" (operation.prepareResponse.map .obj) ++
  field "prepareResponseSha256" (operation.prepareResponseSha256.map .str) ++
  field "commitKeySha256" (operation.commitKeySha256.map .str) ++
  field "commitRequestSha256" (operation.commitRequestSha256.map .str) ++
  field "ownerResponseSha256" operation.ownerResponseSha256 ++
  field "commitResponse" (operation.commitResponse.map .obj) ++
  field "commitResponseSha256" (operation.commitResponseSha256.map .str) ++
  field "committedAtUnixMs" (operation.committedAtUnixMs.map .int)

namespace State

/-- The keys are all texts or all numbers. -/
def uniform (s : State) : Bool :=
  s.all (fun entry => entry.1.isText) || s.all fun entry => !entry.1.isText

/-- `json.dumps(sort_keys=True)` raises when it has to compare a text with a number, and for integers
of more than 4300 digits. -/
def dumpable (s : State) : Bool := s.uniform && s.all fun entry => Json.printableFields entry.2.document

/-- The state, `self.state`, as `json.dumps` writes it. -/
def document (s : State) : Json :=
  .obj [("schemaVersion", .int 1),
    ("operations", .obj (s.map fun entry => (entry.1.dumped, .obj entry.2.document)))]

/-- The state file that `atomic_json` writes. -/
def stateFile (s : State) : String := Json.dumps true s.document ++ "\n"

end State

/-- What is read back of a record: the keys of its responses are sorted. -/
def Operation.saved (operation : Operation) : Operation :=
  { operation with
    prepareResponse := operation.prepareResponse.map Dict.sorted
    commitResponse := operation.commitResponse.map Dict.sorted }

/-- What is read back of a saved state: its keys are texts. -/
def State.saved (s : State) : State := s.map fun entry => (.text entry.1.dumped, entry.2.saved)

/-! ## Operations -/

/-- `subprocess.CompletedProcess` -/
structure CompletedProcess where
  returncode : ℤ
  stdout : String
  stderr : String

/-- The answer of a name resolution. -/
inductive Resolved : Type where
  | gaierror
  | failed
  | addresses (rows : List String)

/-- A call of a driver. -/
inductive DriverCall : Type where
  | prepare (request : Dict) (existingTarget : Option String)
  | commit (operationId : String) (ownerHash : Json)

/-- What the provider and its drivers do to their environment. -/
inductive Op : Type where
  | run (command : List String) (timeout : ℕ)
  | requestJson (url : String) (timeout : ℕ) (allowHttp : Bool)
  | getaddrinfo (hostname : String) (port : ℕ)
  | monotonic
  | unixMs
  | sleep (seconds : ℕ)
  | checkpoint (target : String)
  | save (state : State)
  | enter (call : DriverCall)

abbrev Answer : Op → Type
  | .run _ _ => Option CompletedProcess
  | .requestJson _ _ _ => Option (ℤ × Dict)
  | .getaddrinfo _ _ => Resolved
  | .monotonic => ℚ
  | .unixMs => ℤ
  | .sleep _ => Unit
  | .checkpoint _ => Unit
  | .save _ => Option Unit
  | .enter _ => Unit

/-- An answer that may be an exception, which is none of the provider's. -/
def orRaise {α : Type} : Option α → Except Raised α
  | some a => .ok a
  | none => .error .other

theorem orRaise_eq_ok {α : Type} {r : Option α} {a : α} (h : orRaise r = .ok a) : r = some a := by
  cases r with
  | none => cases h
  | some b => rw [Except.ok.inj h]

/-- A program of the provider or of a driver. -/
abbrev Platform := Raising Raised Op Answer

def runCommand (command : List String) (timeout : ℕ) : Platform CompletedProcess :=
  Raising.attempt (Op.run command timeout) orRaise

/-- `request_json(url, timeout, allow_http)` -/
def requestJson (url : String) (timeout : ℕ) (allowHttp : Bool) : Platform (ℤ × Dict) :=
  Raising.attempt (Op.requestJson url timeout allowHttp) orRaise

/-- `time.monotonic()` -/
def monotonic : Platform ℚ := Raising.perform Op.monotonic

/-- `int(time.time() * 1000)` -/
def unixMs : Platform ℤ := Raising.perform Op.unixMs

/-- `time.sleep(seconds)` -/
def sleep (seconds : ℕ) : Platform Unit := Raising.perform (Op.sleep seconds)

/-- The callback of a driver; where it raises, so does the driver. -/
def checkpoint (target : String) : Platform Unit := Raising.perform (Op.checkpoint target)

/-! ## Checks -/

/-- `lsn_value(value)` -/
def lsnValue (value : String) : Platform ℕ :=
  match lsnNumber value with
  | some n => pure n
  | none => throw (.provider 503 "invalid-lsn" "platform returned a malformed PostgreSQL LSN")

/-- The addresses of one witness. -/
def witnessNetwork (url : String) : Platform (List String) := do
  match urlparse url with
  | none => throw .other
  | some parsed =>
    match parsed.port with
    | none => throw .other
    | some port =>
      -- `parsed.port or 443`
      let effective := if port.getD 0 = 0 then 443 else port.getD 0
      match ← Raising.perform (Op.getaddrinfo parsed.hostname effective) with
      | .gaierror =>
        throw (.provider 503 "witness-dns-failed"
          ("witness DNS resolution failed: " ++ parsed.hostname))
      | .failed => throw .other
      | .addresses [] =>
        throw (.provider 503 "witness-dns-failed"
          ("witness has no network address: " ++ parsed.hostname))
      | .addresses rows => return rows

/-- Some two of the address sets have an address in common. -/
def overlapping : List (List String) → Bool
  | [] => false
  | left :: rest => rest.any (fun right => left.any right.contains) || overlapping rest

def witnessNetworks (urls : List String) : Platform (List (List String)) := do
  let identities ← urls.mapM witnessNetwork
  raiseIf (overlapping identities = true) (Raised.provider 503 "witnesses-not-independent"
    "active witnesses resolve to an overlapping network identity")
  return identities

/-- `value.get(key) == text` -/
def fieldIs (value : Dict) (key text : String) : Bool := (value.get key).any (Json.eqStr text)

/-- `value.get(key) is b` -/
def fieldIsBool (value : Dict) (key : String) (b : Bool) : Bool := (value.get key).any (Json.isBool b)

def activeHealthy (value : Dict) (coordinatorId : String) : Bool :=
  fieldIs value "coordinatorId" coordinatorId && fieldIs value "effectiveRole" "active" &&
    fieldIsBool value "acceptingWrites" true && fieldIsBool value "fenceFresh" true

variable (config : Config)

/-- Ask every active witness; the result is the number of them that failed. -/
def countFailedWitnesses (coordinatorId : String) : List String → ℕ → Platform ℕ
  | [], failed => return failed
  | url :: urls, failed => do
    let (status, value) ← requestJson url config.requestTimeoutSeconds config.allowHttp
    raiseIf (status = 200 ∧ activeHealthy value coordinatorId = true) (Raised.provider 409
      "active-witness-veto" "an independent witness still observes a fresh active writer")
    countFailedWitnesses coordinatorId urls (failed + 1)

/-- `verify_witness_failures(config, request)`; the coordinator ids of the request were compared
with the configured ones before. -/
def verifyWitnessFailures (request : Dict) : Platform Unit := do
  let _ ← witnessNetworks config.activeHealthUrls
  let failed ← countFailedWitnesses config config.activeCoordinatorId config.activeHealthUrls 0
  raiseIf (failed < 2 ∨ (request.get "failedWitnessCount").any (Json.eq (.int failed)) = false)
    (Raised.provider 409 "witness-count-mismatch"
      "provider witness observations do not match the request")

/-- `verify_standby(config, coordinator_id)` -/
def verifyStandby (coordinatorId : String) : Platform Unit := do
  let (status, value) ←
    requestJson config.standbyHealthUrl config.requestTimeoutSeconds config.allowHttp
  raiseIf (status ≠ 200 ∨ (fieldIs value "coordinatorId" coordinatorId &&
      fieldIs value "configuredRole" "standby" && fieldIs value "effectiveRole" "standby" &&
      fieldIsBool value "acceptingWrites" false) = false)
    (Raised.provider 503 "standby-not-safe" "standby is not healthy, signerless and fenced")

/-- `verify_indexer(config)` -/
def verifyIndexer : Platform Unit := do
  let (status, value) ←
    requestJson config.indexerFreshnessUrl config.requestTimeoutSeconds config.allowHttp
  raiseIf (status ≠ 200 ∨ fieldIsBool value "indexerHeadMatchesL1" true = false ∨
      (value.get "unresolvedSafetyEvents").any (Json.eq (.int 0)) = false)
    (Raised.provider 503 "indexer-not-fresh" "canonical indexer freshness/safety gate failed")

/-- One observation pass over the signer roles: the statuses in order. -/
def signerStatuses : List String → Platform (List (String × ℤ))
  | [] => return []
  | url :: urls => do
    let (status, _) ← requestJson url config.requestTimeoutSeconds config.allowHttp
    return (url, status) :: (← signerStatuses urls)

/-- `verify_signer_authority(config)` from its loop on; `last` are the last statuses seen. -/
def awaitSigners (deadline : ℚ) : ℕ → List (String × ℤ) → Platform Unit
  | 0, _ => Raising.halt
  | rounds + 1, last => do
    if (← monotonic) < deadline then
      let statuses ← signerStatuses config config.signerAuthorityHealthUrls
      if statuses.all (fun entry => entry.2 = 200) then return ()
      else
        sleep 1
        awaitSigners deadline rounds statuses
    else
      let failed := (last.map Prod.fst).dedup.countP fun url =>
        last.reverse.lookup url ≠ some 200
      let count := if failed = 0 then config.signerAuthorityHealthUrls.length else failed
      throw (.provider 503 "signer-activation-failed"
        (toString count ++ " post-fence signer role(s) did not become healthy"))

/-- `verify_signer_authority(config)`, observed for a number of rounds. -/
def verifySignerAuthority (rounds : ℕ) : Platform Unit := do
  let now ← monotonic
  awaitSigners config (now + config.platformTimeoutSeconds) rounds []

/-! ## What both drivers share -/

def synchronousQuery : String :=
  "select count(*) from pg_stat_replication where state='streaming' and sync_state in ('sync','quorum')"

def flushQuery : String := "select pg_current_wal_flush_lsn()"

def recoveryQuery : String := "select pg_is_in_recovery()"

def replayQuery : String := "select coalesce(pg_last_wal_replay_lsn()::text,'')"

/-- The standby reported a replay position at or after the target. -/
def reached (recovery replay target : String) : Platform Bool :=
  if (recovery = "t" ∨ recovery = "f") ∧ replay ≠ "" then do
    let observed ← lsnValue replay
    let wanted ← lsnValue target
    return wanted ≤ observed
  else return false

/-- The response of `prepare`, of either driver. -/
def prepareResponse (candidateId : Json) (target replay : String) : Dict := [
  ("operationId", candidateId),
  ("status", .str "READY_FOR_APPLICATION_PROMOTION"),
  ("activeFenced", .bool true),
  ("oldWriterTerminated", .bool true),
  ("targetCapturedByProvider", .bool true),
  ("databasePromoted", .bool true),
  ("standbyReplayAtOrAfterTarget", .bool true),
  ("indexerHeadMatchesL1", .bool true),
  ("stableDatabaseEndpointRouted", .bool true),
  ("standbySignerAuthorityActive", .bool false),
  ("primaryTargetSource", .str "durable-fenced-wal-checkpoint"),
  ("primaryTargetLsn", .str target),
  ("standbyReplayLsn", .str replay),
  ("checkpointAgeSeconds", .int 0)]

/-- The response of `commit`, of either driver. -/
def commitResponse (operationId : String) : Dict := [
  ("operationId", .str operationId),
  ("writerRouteCommitted", .bool true),
  ("writerCoordinatorId", .str config.standbyCoordinatorId),
  ("oldWriterRouteRemoved", .bool true),
  ("stableDatabaseEndpointRouted", .bool true),
  ("signerAuthorityActivatedAfterFence", .bool true)]

end Zkdeal.FailoverProvider
