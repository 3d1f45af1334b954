import Zkdeal.FaultControl.JournalRuns
import Zkdeal.Python.JsonRoundTrip
import Zkdeal.Python.Keys

/-!
# The fault controller

What `do_POST` makes of a request for a fault: `Controller.execute` checks it and hands it to the journal.
-/

namespace Zkdeal.FaultControl

open Interaction Python Json

/-! ## Documents -/

/-- `value[key]` for a key that the value has. -/
def item (value : Dict) (key : String) : Json := (value.get key).getD .null

def maxRequestBytes : ℕ := 64 * 1024

/-- `strict_object(raw, label)` of the bytes of a text -/
def strictObject (text label : String) : Except Raised Dict :=
  if maxRequestBytes < text.utf8ByteSize then
    .error (.control (label ++ " exceeds " ++ toString maxRequestBytes ++ " bytes") 413 "DOCUMENT_TOO_LARGE")
  else
    match strictLoads text with
    | .error .malformed => .error (invalidRequest (label ++ " is not strict UTF-8 JSON"))
    | .error (.duplicate key) => .error (invalidRequest (label ++ " contains duplicate key " ++ Python.reprStr key))
    | .ok (.obj value) => .ok value
    | .ok _ => .error (invalidRequest (label ++ " must contain an object"))

/-- `exact_keys(value, expected, label)` -/
def exactKeys (value : Dict) (expected : List String) (label : String) : Except Raised Unit :=
  if value.hasKeys expected then .ok ()
  else .error (invalidRequest (label ++ " keys differ; missing=" ++
    reprSorted (expected.filter fun key => (value.get key).isNone) ++ ", extra=" ++
    reprSorted ((value.map Prod.fst).filter fun key => !expected.contains key)))

/-- `bounded_int(value, label, minimum, maximum)` -/
def boundedInt (value : Json) (label : String) (minimum maximum : ℤ) : Except Raised ℤ :=
  let refused := .error (invalidRequest (label ++ " must be an integer from " ++ toString minimum ++ " through " ++
    toString maximum))
  match value with
  | .int n => if minimum ≤ n ∧ n ≤ maximum then .ok n else refused
  | _ => refused

/-- `value in {...}` for a set of texts; a value without a hash raises. -/
def isOneOf (value : Json) (texts : List String) : Except Raised Bool :=
  match value with
  | .str s => .ok (texts.contains s)
  | value => if value.key.isSome then .ok false else .error .other

/-! ## Faults -/

/-- The actions in `capabilities()`. -/
def faultActions : List String :=
  ["l1-reorg", "rpc-disagreement", "rpc-provider-control", "coordinator-terminate", "service-pause", "headless-restart",
    "prover-restart", "indexer-rollback", "object-store-restart", "database-restart", "network-partition", "sse-disconnect"]

/-- `ALLOWED_PAUSE_TARGETS` -/
def allowedPauseTargets : List String :=
  ["coordinator-active", "indexer", "reconciler", "publisher", "headless-node", "prover", "prover-agent"]

/-- `isinstance(value, str)` -/
def isStr : Json → Bool
  | .str _ => true
  | _ => false

/-- A check that raises `ControlError(message)` unless it holds. -/
def require (c : Bool) (message : String) : Except Raised Unit :=
  if c then .ok () else .error (invalidRequest message)

/-- The checks of the parameters that have a phase and a prepared operation. -/
def checkPrepared (parameters : Dict) (first second message : String) : Except Raised Unit :=
  let prepared := item parameters "preparedOperationId"
  require (!((item parameters "phase").eq (.str first) && !prepared.eq .null ||
    (item parameters "phase").eq (.str second) && !isStr prepared)) message

/-- The checks of `_fault_callback(action, parameters)`; the callback itself is an operation of the journal. -/
def faultCallback (action : String) (parameters : Dict) : Except Raised Unit :=
  if action = "l1-reorg" then do
    exactKeys parameters ["phase", "depth", "preparedOperationId"] "l1-reorg parameters"
    require (← isOneOf (item parameters "phase") ["prepare", "replace"]) "l1-reorg phase is invalid"
    let _ ← boundedInt (item parameters "depth") "reorg depth" 1 64
    checkPrepared parameters "prepare" "replace" "preparedOperationId does not match the l1-reorg phase"
  else if action = "rpc-disagreement" then do
    exactKeys parameters ["phase", "preparedOperationId"] "rpc-disagreement parameters"
    require (← isOneOf (item parameters "phase") ["start", "restore"]) "rpc-disagreement phase is invalid"
    checkPrepared parameters "start" "restore" "preparedOperationId does not match the disagreement phase"
  else if action = "rpc-provider-control" then do
    exactKeys parameters ["provider", "phase"] "rpc-provider-control parameters"
    require (← isOneOf (item parameters "provider") ["rpc-a", "rpc-b"]) "rpc-provider-control provider must be rpc-a or rpc-b"
    require (← isOneOf (item parameters "phase") ["stop", "start"]) "rpc-provider-control phase must be stop or start"
  else if action = "service-pause" then do
    exactKeys parameters ["target", "phase"] "service-pause parameters"
    require (← isOneOf (item parameters "target") allowedPauseTargets)
      "service-pause target is not a reviewed pausable service"
    require (← isOneOf (item parameters "phase") ["pause", "unpause"]) "service-pause phase must be pause or unpause"
  else do
    exactKeys parameters (if action = "indexer-rollback" then ["preparedOperationId"]
      else if action = "network-partition" then ["phase"] else []) (action ++ " parameters")
    if action ∈ ["coordinator-terminate", "headless-restart", "prover-restart", "object-store-restart", "database-restart",
        "sse-disconnect", "indexer-rollback"] then return ()
    else if action = "network-partition" then
      require (← isOneOf (item parameters "phase") ["start", "restore"]) "network-partition phase is invalid"
    else .error (.control "fault action is not implemented" 503 "CONTROL_DISABLED")

/-! ## The controller -/

/-- `topology.binding` -/
structure Binding where
  candidateId : String
  planSha256 : String
  hostedIntegrationToken : String
  deriving DecidableEq

def Binding.dict (b : Binding) : Dict := [
  ("candidateId", .str b.candidateId),
  ("planSha256", .str b.planSha256),
  ("hostedIntegrationToken", .str b.hostedIntegrationToken)]

/-- What a controller is configured with. -/
structure Controller where
  binding : Binding
  /-- `journal.binding_digest` -/
  bindingDigest : String
  receiptBinding : Dict

/-- `CORRELATION`: `^[A-Za-z0-9._:-]{8,128}$` -/
def isCorrelation (s : String) : Bool :=
  between (fun c => isUpper c || isLower c || isDigit09 c || c == '.' || c == '_' || c == ':' || c == '-') 8 128 s.toList

/-- `{**a, **b}` -/
def merge (a b : Dict) : Dict := b.foldl (fun d kv => d.set kv.1 kv.2) a

namespace Controller

variable (c : Controller)

/-- The checks of `controller.execute("fault", ...)`, with the action of the fault. -/
def checkFault (body : Dict) (correlationId : String) : Except Raised String := do
  require (isCorrelation correlationId) "X-Correlation-Id is malformed"
  if (item body "binding").eq (.obj c.binding.dict) = false then
    .error (.control "request binding differs from the exact candidate plan" 409 "CANDIDATE_BINDING_MISMATCH")
  else
    exactKeys body ["schemaVersion", "binding", "action", "parameters"] "fault request"
    match item body "action", item body "parameters" with
    | .str action, .obj parameters =>
      require ((item body "schemaVersion").eq (.int 1) && faultActions.contains action)
        "fault action is not in the reviewed enum"
      faultCallback action parameters
      return action
    | .str action, _ =>
      require ((item body "schemaVersion").eq (.int 1) && faultActions.contains action)
        "fault action is not in the reviewed enum"
      .error (invalidRequest "fault parameters must be an object")
    | _, _ => .error (invalidRequest "fault action is not in the reviewed enum")

/-- The journal's request for a fault. -/
def request (action : String) (body : Dict) (idempotencyKey correlationId : String) : Request where
  action := "fault:" ++ action
  bindingDigest := c.bindingDigest
  body := body
  idempotencyKey := idempotencyKey
  correlationId := correlationId

/-- `receipt(result)` -/
def receipt (result : Dict) : Dict := merge result c.receiptBinding

/-- `do_POST` of `/v1/faults` with a token that is right, up to its answer. -/
def post (sha256 : String → String) (text idempotencyKey correlationId : String) : Journaling Dict := do
  let body ← liftExcept (strictObject text "request")
  let action ← liftExcept (c.checkFault body correlationId)
  let (result, _) ← execute sha256 (c.request action body idempotencyKey correlationId)
  return c.receipt result

end Controller

/-- An answer over HTTP: its status and its document. -/
structure Response where
  status : ℕ
  document : Json

/-- `send_json` of the result, or `handle_error` -/
def respond (result : Except Raised Dict) : Response :=
  let response : Response :=
    match result with
    | .ok value => ⟨200, .obj value⟩
    | .error (.control message status code) =>
      ⟨status, .obj [("error", .obj [("code", .str code), ("message", .str message)])]⟩
    | .error .other =>
      ⟨500, .obj [("error", .obj [("code", .str "INTERNAL_ERROR"), ("message", .str "control operation failed")])]⟩
  if maxResponseBytes < (canonicalBytes response.document).utf8ByteSize then
    ⟨500, .obj [("error", .obj [("code", .str "RESPONSE_TOO_LARGE"), ("message", .str "response exceeded 1 MiB")])]⟩
  else response

end Zkdeal.FaultControl
