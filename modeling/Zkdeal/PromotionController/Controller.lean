import Zkdeal.FailoverProvider.Provider

/-!
# The promotion controller

The controller watches the active coordinator through its witnesses.  After enough consecutive cycles
without a healthy witness it asks the failover provider to prepare, the owner to promote and the
provider to commit, and it checks every response before it goes on.  Its environment answers HTTP
requests, reads the clocks, and stores and prints what it notes.
-/

namespace Zkdeal.PromotionController

open Interaction Python
open FailoverProvider (isSafeId lsnNumber fieldIs fieldIsBool activeHealthy canonicalHash)

/-- An exception: a `ControllerError`, or any other one. -/
inductive Raised : Type where
  | controller (message : String)
  | other
  deriving DecidableEq

/-! ## Configuration -/

/-- A text that matches `SAFE_ID`, the pattern of the provider. -/
abbrev SafeId := { s : String // isSafeId s = true }

/-- An integer within bounds. -/
abbrev Bounded (minimum maximum : ℕ) := { n : ℕ // minimum ≤ n ∧ n ≤ maximum }

/-- The content of a file, if it is a regular file that can be read. -/
inductive FileRead : Type where
  | notRegular
  | failed
  | content (text : String)

/-- The environment of the process: its variables and the files they name. -/
structure Environment where
  get : String → Option String
  file : String → FileRead

/-- `checked_url(value, name, allow_http, allow_cluster_http=...)` -/
def checkedUrl (value name : String) (allowHttp allowClusterHttp : Bool) : Except Raised String :=
  match urlparse value with
  | none => .error .other
  | some parsed =>
    let host := parsed.hostname
    let clusterHttp := allowClusterHttp && parsed.scheme = "http".toList && host ≠ "" &&
      (!host.toList.contains '.' || endsWith host.toList ".svc".toList ||
        endsWith host.toList ".svc.cluster.local".toList)
    let allowed := parsed.scheme = "https".toList || (allowHttp && parsed.scheme = "http".toList)
    if !allowed && !clusterHttp then
      .error (.controller (name ++ " must use " ++ if allowHttp then "HTTP(S)" else "HTTPS"))
    else if host = "" || parsed.hasCredentials || !parsed.fragment.isEmpty then
      .error (.controller (name ++ " is not an acceptable service URL"))
    else .ok (rstripSlash value)

/-- `secret(name)` -/
def secret (env : Environment) (name : String) : Except Raised String := do
  let direct := (env.get name).filter (· ≠ "")
  let fileName := (env.get (name ++ "_FILE")).filter (· ≠ "")
  if direct.isSome && fileName.isSome then
    throw (.controller (name ++ " and " ++ name ++ "_FILE are mutually exclusive"))
  let direct ← match fileName with
    | none => pure direct
    | some path =>
      match env.file path with
      | .notRegular => throw (.controller (name ++ "_FILE must be a regular file"))
      | .failed => throw .other
      | .content text => pure (some (strip text))
  match direct with
  | some value =>
    if 16 ≤ value.length then pure value
    else throw (.controller (name ++ " must be supplied as a scoped secret of at least 16 characters"))
  | none => throw (.controller (name ++ " must be supplied as a scoped secret of at least 16 characters"))

/-- `integer(name, default, minimum, maximum)` -/
def integer (env : Environment) (name : String) (default minimum maximum : ℕ) :
    Except Raised (Bounded minimum maximum) :=
  match intOfStr ((env.get name).getD (toString default)) with
  | none => .error (.controller (name ++ " must be an integer"))
  | some value =>
    if h : 0 ≤ value ∧ minimum ≤ value.toNat ∧ value.toNat ≤ maximum then .ok ⟨value.toNat, h.2⟩
    else .error (.controller
      (name ++ " must be between " ++ toString minimum ++ " and " ++ toString maximum))

/-- `Config`, with what `from_environment` checks of it. -/
structure Config where
  activeHealthUrls : List String
  standbyHealthUrl : String
  failoverProviderUrl : String
  promotionEndpoint : String
  activeCoordinatorId : SafeId
  standbyCoordinatorId : SafeId
  candidateId : SafeId
  providerToken : String
  approvalToken : String
  principalToken : String
  failureThreshold : Bounded 3 20
  pollSeconds : Bounded 1 60
  maxMonitorCycles : Bounded 0 1000000
  maxRtoSeconds : Bounded 30 300
  maxCheckpointAgeSeconds : Bounded 1 300
  requestTimeoutSeconds : Bounded 1 30
  armed : Bool
  allowHttp : Bool
  witnesses : 2 ≤ activeHealthUrls.length
  identities : activeCoordinatorId ≠ standbyCoordinatorId
  providerUrl : ∃ value, checkedUrl value "FAILOVER_PROVIDER_URL" allowHttp false = .ok failoverProviderUrl

/-- The value of a check, with the check. -/
def checked {α : Type} (x : Except Raised α) : Except Raised { a // x = .ok a } :=
  match x with
  | .ok a => .ok ⟨a, rfl⟩
  | .error e => .error e

/-- `(urlparse(item).hostname, urlparse(item).port)` -/
def identity (url : String) : Except Raised (String × Option ℕ) :=
  match urlparse url with
  | none => .error .other
  | some parsed =>
    match parsed.port with
    | none => .error .other
    | some port => .ok (parsed.hostname, port)

def safeId (name value : String) : Except Raised SafeId :=
  if h : isSafeId value = true then .ok ⟨value, h⟩
  else .error (.controller (name ++ " must be 8-200 lowercase safe characters"))

/-- `Config.from_environment()` -/
def Config.fromEnvironment (env : Environment) : Except Raised Config := do
  let variable_ (name : String) := (env.get name).getD ""
  let allowHttp := env.get "PROMOTION_ALLOW_INSECURE_HTTP" = some "acceptance-only"
  let items := ((split ',' (variable_ "ACTIVE_HEALTH_URLS")).map strip).filter (· ≠ "")
  let urls ← items.mapM fun item => checkedUrl item "ACTIVE_HEALTH_URLS" allowHttp false
  if few : urls.length < 2 then
    throw (.controller "ACTIVE_HEALTH_URLS requires at least two independent witnesses")
  else
    let identities ← urls.mapM identity
    if identities.dedup.length ≠ urls.length then
      throw (.controller "active health witnesses must use distinct network identities")
    let activeId ← safeId "ACTIVE_COORDINATOR_ID" (variable_ "ACTIVE_COORDINATOR_ID")
    let standbyId ← safeId "STANDBY_COORDINATOR_ID" (variable_ "STANDBY_COORDINATOR_ID")
    let candidate ← safeId "PROMOTION_CANDIDATE_ID" (variable_ "PROMOTION_CANDIDATE_ID")
    if same : activeId = standbyId then
      throw (.controller "active and standby coordinator identities must differ")
    else
      let standbyHealthUrl ←
        checkedUrl (variable_ "STANDBY_HEALTH_URL") "STANDBY_HEALTH_URL" allowHttp true
      let providerUrl ← checked
        (checkedUrl (variable_ "FAILOVER_PROVIDER_URL") "FAILOVER_PROVIDER_URL" allowHttp false)
      let promotionEndpoint ←
        checkedUrl (variable_ "PROMOTION_ENDPOINT") "PROMOTION_ENDPOINT" allowHttp true
      return {
        activeHealthUrls := urls
        standbyHealthUrl := standbyHealthUrl
        failoverProviderUrl := providerUrl.1
        promotionEndpoint := promotionEndpoint
        activeCoordinatorId := activeId
        standbyCoordinatorId := standbyId
        candidateId := candidate
        providerToken := ← secret env "FAILOVER_PROVIDER_TOKEN"
        approvalToken := ← secret env "FAILOVER_APPROVAL_TOKEN"
        principalToken := ← secret env "PROMOTION_PRINCIPAL_TOKEN"
        failureThreshold := ← integer env "FAILURE_THRESHOLD" 3 3 20
        pollSeconds := ← integer env "POLL_SECONDS" 10 1 60
        maxMonitorCycles := ← integer env "MAX_MONITOR_CYCLES" 0 0 1000000
        maxRtoSeconds := ← integer env "MAX_RTO_SECONDS" 300 30 300
        maxCheckpointAgeSeconds := ← integer env "MAX_CHECKPOINT_AGE_SECONDS" 30 1 300
        requestTimeoutSeconds := ← integer env "REQUEST_TIMEOUT_SECONDS" 10 1 30
        armed := env.get "PROMOTION_CONTROLLER_ARMED" = some "true"
        allowHttp := allowHttp
        witnesses := not_lt.1 few
        identities := same
        providerUrl := ⟨_, providerUrl.2⟩ }

/-! ## Operations -/

inductive Method : Type where
  | get
  | post
  deriving DecidableEq

/-- The arguments of `request_json`. -/
structure HttpRequest where
  url : String
  timeout : ℕ
  method : Method
  token : Option String
  idempotencyKey : Option String
  approvalToken : Option String
  body : Option Dict
  deriving DecidableEq

/-- What `request_json` comes to: an object, a `ControllerError`, or another exception. -/
inductive Received : Type where
  | object (value : Dict)
  | refused (message : String)
  | failed

/-- What the controller does to its environment. -/
inductive Op : Type where
  | requestJson (request : HttpRequest)
  | monotonic
  | unixMs
  | sleep (seconds : ℕ)
  | atomicJson (value : Dict)
  | print (value : Dict)

abbrev Answer : Op → Type
  | .requestJson _ => Received
  | .monotonic => Float
  | .unixMs => ℤ
  | .sleep _ => Unit
  | .atomicJson _ => Option Unit
  | .print _ => Option Unit

/-- A program of the controller. -/
abbrev Controller := Raising Raised Op Answer

/-- An answer that may be an exception, which is none of the controller's. -/
def orRaise {α : Type} : Option α → Except Raised α
  | some a => .ok a
  | none => .error .other

/-- `request_json(...)` -/
def requestJson (request : HttpRequest) : Controller Dict :=
  Raising.attempt (Op.requestJson request) fun
    | .object value => .ok value
    | .refused message => .error (.controller message)
    | .failed => .error .other

variable (config : Config)

/-- `emit(config, status, **fields)` -/
def emit (status : String) (fields : Dict) : Controller Unit := do
  let now ← Raising.perform Op.unixMs
  let value : Dict := [
    ("schemaVersion", .int 1),
    ("status", .str status),
    ("candidateId", .str config.candidateId),
    ("activeCoordinatorId", .str config.activeCoordinatorId),
    ("standbyCoordinatorId", .str config.standbyCoordinatorId),
    ("observedAtUnixMs", .int now)] ++ fields
  Raising.attempt (Op.atomicJson value) orRaise
  Raising.attempt (Op.print value) orRaise

/-! ## Checks of the responses -/

/-- `standby_ready(value, standby_id)` -/
def standbyReady (value : Dict) (standbyId : String) : Bool :=
  fieldIs value "coordinatorId" standbyId && fieldIs value "configuredRole" "standby" &&
    fieldIs value "effectiveRole" "standby" && fieldIsBool value "acceptingWrites" false

/-- `value.get(field) is not True` for some field raises. -/
def proved (value : Dict) (fields : List String) (who : String) : Except Raised Unit :=
  match fields.find? fun field => !fieldIsBool value field true with
  | some field => .error (.controller (who ++ " did not prove " ++ field))
  | none => .ok ()

/-- `str(value.get(key, ""))`, where it can be a position: the text of a container never is. -/
def textField (value : Dict) (key : String) : String := ((value.get key).map fun v => v.text.getD "[").getD ""

/-- `lsn_value(value)` -/
def lsnValue (value : String) : Except Raised ℕ :=
  match lsnNumber value with
  | some n => .ok n
  | none => .error (.controller ("invalid PostgreSQL LSN: '" ++ value ++ "'"))

/-- `isinstance(age, int)` and within the configured age. -/
def freshAge (maximum : ℕ) (age : Option Json) : Bool :=
  match age with
  | some (.int n) => 0 ≤ n && n ≤ maximum
  | some (.bool _) => true
  | _ => false

/-- `validate_prepare(config, value)` -/
def validatePrepare (value : Dict) : Except Raised String := do
  if fieldIs value "operationId" config.candidateId = false then
    throw (.controller "failover provider operation ID differs from the candidate ID")
  proved value ["activeFenced", "oldWriterTerminated", "targetCapturedByProvider", "databasePromoted",
    "standbyReplayAtOrAfterTarget", "indexerHeadMatchesL1", "stableDatabaseEndpointRouted"]
    "failover provider"
  if fieldIs value "status" "READY_FOR_APPLICATION_PROMOTION" = false then
    throw (.controller "failover provider is not ready for application promotion")
  if fieldIs value "primaryTargetSource" "durable-fenced-wal-checkpoint" = false then
    throw (.controller "failover provider did not use the durable fenced primary target")
  if fieldIsBool value "standbySignerAuthorityActive" false = false then
    throw (.controller "standby signer authority became active before fence promotion")
  let replay ← lsnValue (textField value "standbyReplayLsn")
  let target ← lsnValue (textField value "primaryTargetLsn")
  if replay < target then
    throw (.controller "standby replay LSN is behind the fenced primary target")
  if freshAge config.maxCheckpointAgeSeconds (value.get "checkpointAgeSeconds") = false then
    throw (.controller "failover provider checkpoint is stale")
  return config.candidateId

/-- `validate_owner_promotion(value)` -/
def validateOwnerPromotion (value : Dict) : Except Raised Unit := do
  proved value ["promoted", "indexerHeadMatchesL1"] "owner promotion"
  if fieldIs value "effectiveRole" "active" = false then
    throw (.controller "owner promotion did not activate the standby coordinator")
  match value.get "promotionReplication" with
  | some (.obj _) => return ()
  | _ => throw (.controller "owner promotion omitted replication evidence")

/-- The fields that `validate_commit` expects. -/
def expectedCommit (operationId : String) : Dict := [
  ("operationId", .str operationId),
  ("writerRouteCommitted", .bool true),
  ("writerCoordinatorId", .str config.standbyCoordinatorId),
  ("oldWriterRouteRemoved", .bool true),
  ("stableDatabaseEndpointRouted", .bool true),
  ("signerAuthorityActivatedAfterFence", .bool true)]

/-- `validate_commit(config, operation_id, value)` -/
def validateCommit (operationId : String) (value : Dict) : Except Raised Unit :=
  match (expectedCommit config operationId).find? fun (field, wanted) =>
    !(value.get field).any fun got => got.eq wanted with
  | some (field, _) => .error (.controller ("failover provider commit differs: " ++ field))
  | none => .ok ()

/-! ## Requests -/

def getRequest (url : String) : HttpRequest where
  url := url
  timeout := config.requestTimeoutSeconds
  method := .get
  token := none
  idempotencyKey := none
  approvalToken := none
  body := none

def prepareBody : Dict := [
  ("candidateId", .str config.candidateId),
  ("activeCoordinatorId", .str config.activeCoordinatorId),
  ("standbyCoordinatorId", .str config.standbyCoordinatorId),
  ("failedWitnessCount", .int config.activeHealthUrls.length)]

def prepareRequest : HttpRequest where
  url := config.failoverProviderUrl
  timeout := config.requestTimeoutSeconds
  method := .post
  token := some config.providerToken
  idempotencyKey := some config.candidateId
  approvalToken := some config.approvalToken
  body := some (prepareBody config)

def ownerRequest : HttpRequest where
  url := config.promotionEndpoint
  timeout := config.requestTimeoutSeconds
  method := .post
  token := some config.principalToken
  idempotencyKey := some (config.candidateId ++ ":owner")
  approvalToken := none
  body := some []

def commitUrl (operationId : String) : String :=
  config.failoverProviderUrl ++ "/" ++ quote operationId ++ "/commit"

def commitBody (ownerHash : String) : Dict := [("ownerResponseSha256", .str ownerHash)]

def commitRequest (operationId ownerHash : String) : HttpRequest where
  url := commitUrl config operationId
  timeout := config.requestTimeoutSeconds
  method := .post
  token := some config.providerToken
  idempotencyKey := some (config.candidateId ++ ":commit")
  approvalToken := some config.approvalToken
  body := some (commitBody ownerHash)

/-! ## Monitoring -/

/-- Ask one witness; a `ControllerError` counts as a failure. -/
def witnessHealthy (url : String) : Controller Bool :=
  Raising.attempt (Op.requestJson (getRequest config url)) fun
    | .object value => .ok (activeHealthy value config.activeCoordinatorId)
    | .refused _ => .ok false
    | .failed => .error .other

/-- Ask the witnesses, in order. -/
def askWitnesses : List String → Controller (List Bool)
  | [] => return []
  | url :: urls => do
    let healthy ← witnessHealthy config url
    return healthy :: (← askWitnesses urls)

/-- `first_failure`, read off the clock at the first failure. -/
def streakStart (consecutive : ℕ) (firstFailure : Float) : Controller Float :=
  if consecutive = 0 then Raising.perform Op.monotonic else return firstFailure

/-- One cycle: the number of consecutive failures, when the first one was, and whether they suffice. -/
def observe (cycle consecutive : ℕ) (firstFailure : Float) : Controller (ℕ × Float × Bool) := do
  let verdicts ← askWitnesses config config.activeHealthUrls
  if true ∈ verdicts then
    emit config "active-healthy" [("cycle", .int cycle), ("healthyWitnesses", .int (verdicts.count true))]
    return (0, 0.0, false)
  else
    let firstFailure ← streakStart consecutive firstFailure
    emit config "active-unhealthy" [("cycle", .int cycle),
      ("consecutiveFailures", .int (consecutive + 1 : ℕ)), ("failedWitnesses", .int (verdicts.count false))]
    return (consecutive + 1, firstFailure, decide (config.failureThreshold ≤ consecutive + 1))

/-- The loop of `run`, for a number of rounds: the time of the first failure, unless the window of
monitoring is over. -/
def monitor : ℕ → ℕ → ℕ → Float → Controller (Option Float)
  | 0, _, _, _ => Raising.halt
  | rounds + 1, cycle, consecutive, firstFailure => do
    let (consecutive, firstFailure, met) ← observe config cycle consecutive firstFailure
    if met then return some firstFailure
    else if config.maxMonitorCycles.1 ≠ 0 ∧ config.maxMonitorCycles ≤ cycle then
      emit config "monitor-window-complete" [("promoted", .bool false)]
      return none
    else
      Raising.perform (Op.sleep config.pollSeconds)
      monitor rounds (cycle + 1) consecutive firstFailure

/-! ## Promotion -/

/-- `round(now - first_failure, 3)` -/
def rtoSeconds (firstFailure now : Float) : Float := roundFloat (now - firstFailure) 3

/-- `rto > maximum` -/
def exceeds (rto : Float) (maximum : ℕ) : Bool :=
  match exact rto with
  | some q => maximum < q
  | none => match rto.toModel.unpack with
    | .infinity .positive => true
    | _ => false

def result (operationId : String) (rto : Float) : Dict := [
  ("promoted", .bool true),
  ("operationId", .str operationId),
  ("rtoSeconds", .float rto),
  ("oldWriterFenced", .bool true),
  ("databasePromoted", .bool true),
  ("ownerPromoted", .bool true),
  ("writerRouteCommitted", .bool true),
  ("signerActivatedOnlyAfterFence", .bool true)]

/-- A check that is no operation. -/
def validated {α : Type} (x : Except Raised α) : Controller α :=
  match x with
  | .ok a => pure a
  | .error e => throw e

/-- `run(config)` from the end of its loop on. -/
def promote (firstFailure : Float) : Controller Dict := do
  raiseIf (config.armed = false)
    (Raised.controller "failure threshold reached but promotion controller is not armed")
  let standby ← requestJson (getRequest config config.standbyHealthUrl)
  raiseIf (standbyReady standby config.standbyCoordinatorId = false)
    (Raised.controller "standby coordinator is not signerless standby-ready")
  let prepare ← requestJson (prepareRequest config)
  let operationId ← validated (validatePrepare config prepare)
  emit config "provider-fenced-and-promoted" [("operationId", .str operationId)]
  let owner ← requestJson (ownerRequest config)
  validated (validateOwnerPromotion owner)
  let ownerHash := canonicalHash (.obj owner)
  emit config "owner-promoted" [("operationId", .str operationId), ("ownerResponseSha256", .str ownerHash)]
  let commit ← requestJson (commitRequest config operationId ownerHash)
  validated (validateCommit config operationId commit)
  let now ← Raising.perform Op.monotonic
  let rto := rtoSeconds firstFailure now
  raiseIf (exceeds rto config.maxRtoSeconds = true)
    (Raised.controller ("promotion exceeded configured RTO: " ++ reprFloat rto ++ "s"))
  emit config "promotion-complete" (result operationId rto)
  return result operationId rto

/-- `run(config)`, its loop observed for a number of rounds. -/
def run (rounds : ℕ) : Controller (Option Dict) := do
  emit config "monitoring"
    [("armed", .bool config.armed), ("witnessCount", .int config.activeHealthUrls.length)]
  match ← monitor config rounds 1 0 0.0 with
  | none => return none
  | some firstFailure => return some (← promote config firstFailure)

end Zkdeal.PromotionController
