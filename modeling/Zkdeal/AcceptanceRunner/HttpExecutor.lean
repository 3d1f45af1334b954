import Zkdeal.AcceptanceRunner.Scenario
import Zkdeal.Python.UrlBase

/-!
# The HTTP executor of the acceptance runner

`HttpExecutor` binds the endpoint aliases of a scenario to base URLs, reads the token files and sends the
steps.  The files and the variables of the process do not change while it runs; what the services answer is
arbitrary.  The texts of the exceptions of the JSON decoder are left out of the errors.
-/

namespace Zkdeal.AcceptanceRunner

open Interaction Python Json Python.Sha256
open BackupRestore (Files canonicalBytes isSha256 isEphemeralToken)

def maxDocumentBytes : ℕ := 4 * 1024 * 1024

/-! ## Tables -/

/-- `ENDPOINT_ENV` -/
def endpointEnv : List (String × String) :=
  [("coordinator", "COORDINATOR_URL"), ("indexer", "INDEXER_URL"), ("queue", "QUEUE_URL"),
    ("headless", "HEADLESS_URL"), ("rpc_a", "L1_RPC_A"), ("rpc_b", "L1_RPC_B"), ("fault", "ACCEPTANCE_FAULT_URL"),
    ("backup", "ACCEPTANCE_BACKUP_URL"), ("failover", "FAILOVER_PROVIDER_URL"), ("prover", "PROVER_URL"),
    ("logs", "LOG_QUERY_URL")]

/-- `TOKEN_FILE_ENV` -/
def tokenFileEnv : List (String × String) :=
  [("admin", "ACCEPTANCE_ADMIN_TOKEN_FILE"), ("tenant_a", "ACCEPTANCE_TENANT_A_TOKEN_FILE"),
    ("tenant_b", "ACCEPTANCE_TENANT_B_TOKEN_FILE"), ("node_a", "ACCEPTANCE_NODE_A_TOKEN_FILE"),
    ("node_b", "ACCEPTANCE_NODE_B_TOKEN_FILE"), ("l1_liveness", "ACCEPTANCE_L1_LIVENESS_TOKEN_FILE"),
    ("l1_room", "ACCEPTANCE_L1_ROOM_TOKEN_FILE"), ("l1_aggregate", "ACCEPTANCE_L1_AGGREGATE_TOKEN_FILE"),
    ("l1_sponsor", "ACCEPTANCE_L1_SPONSOR_TOKEN_FILE"), ("withdrawal", "ACCEPTANCE_WITHDRAWAL_TOKEN_FILE"),
    ("fault_control", "ACCEPTANCE_FAULT_CONTROL_TOKEN_FILE"),
    ("backup_restore", "ACCEPTANCE_BACKUP_RESTORE_TOKEN_FILE"),
    ("failover_control", "ACCEPTANCE_FAILOVER_CONTROL_TOKEN_FILE"),
    ("failover_approval", "ACCEPTANCE_FAILOVER_APPROVAL_TOKEN_FILE")]

/-- `ALLOWED_HEADERS` -/
def allowedHeaders : List String := ["accept-schema-version", "idempotency-key", "x-correlation-id", "last-event-id"]

/-! ## Endpoints -/

/-- `normalized_base(value, label)` -/
def normalizedBase (value label : String) : Except Raised String :=
  match urlsplit value with
  | none => .error (.acceptance (label ++ " is malformed"))
  | some parsed => do
    raiseIf (parsed.isHttp = false ∨ parsed.hostname = "" ∨ parsed.hasCredentials = true)
      (Raised.acceptance (label ++ " must be an HTTP(S) URL without user info"))
    raiseIf (parsed.query ≠ [] ∨ parsed.fragment ≠ [])
      (Raised.acceptance (label ++ " must not contain query or fragment data"))
    return parsed.base

/-- A part is looked for among the parts of a path one by one. -/
local instance decidableMemParts (part : List Char) (parts : List (List Char)) : Decidable (part ∈ parts) :=
  decidable_of_iff (parts.any (· = part) = true) (by simp)

/-- `safe_path(value)` -/
def safePath : Json → Except Raised String
  | .str value => do
    raiseIf (value.toList.head? ≠ some '/' ∨ '\\' ∈ value.toList)
      (Raised.acceptance "step path must be an absolute URL path")
    match urlsplit value with
    | none => .error .other
    | some parsed =>
      raiseIf (parsed.scheme ≠ [] ∨ parsed.netloc ≠ [] ∨ parsed.fragment ≠ [] ∨
          ['.', '.'] ∈ splitChars '/' parsed.path)
        (Raised.acceptance "step path escaped its endpoint or contains a fragment")
      return value
  | _ => .error (.acceptance "step path must be an absolute URL path")

/-- The process that runs the scenario: its variables, its files, and the timeout of a request, which is none
where `float` raises. -/
structure Environment where
  get : String → Option String
  files : Files
  timeout : Option ℚ

/-- `os.environ.get(name)` where an empty value counts as none -/
def Environment.nonempty (environment : Environment) (name : String) : Option String :=
  (environment.get name).filter (· ≠ "")

/-- An `HttpExecutor`, without the tokens that it has read. -/
structure Executor where
  endpoints : List (String × String)
  authHashes : List (String × String)
  environment : Environment

/-- The base URL of one endpoint. -/
def bindEndpoint (environment : Environment) (name : String) : Except Raised (String × String) :=
  match endpointEnv.lookup name with
  | none => .error (.acceptance ("unknown endpoint alias " ++ name))
  | some envName =>
    match environment.nonempty envName with
    | none => .error (.acceptance (envName ++ " is required by this scenario"))
    | some raw => (normalizedBase raw envName).map ((name, ·))

/-- `HttpExecutor(endpoint_names, auth_hashes)` -/
def newExecutor (environment : Environment) (endpointNames : List String) (authHashes : List (String × String)) :
    Except Raised Executor := do
  let endpoints ← (endpointNames.dedup.insertionSort (· ≤ ·)).mapM (bindEndpoint environment)
  raiseIf ((endpoints.lookup "rpc_a").isSome = true ∧ endpoints.lookup "rpc_a" = endpoints.lookup "rpc_b")
    (Raised.acceptance "L1_RPC_A and L1_RPC_B must be distinct provider URLs")
  return { endpoints, authHashes, environment }

/-! ## Tokens -/

/-- `regular_secret(path_value, label)` on a POSIX platform -/
def regularSecret (files : Files) (path label : String) : Except Raised String :=
  match files path with
  | none => .error (.acceptance (label ++ " is absent, not regular, or a symlink"))
  | some file => do
    raiseIf (file.mode % 64 ≠ 0) (Raised.acceptance (label ++ " must be private to its owning user"))
    match file.contents with
    | none => .error .other
    | some raw =>
      raiseIf (4096 < raw.length) (Raised.acceptance (label ++ " is unexpectedly large"))
      match decodeUtf8 raw with
      | none => .error (.acceptance (label ++ " is not UTF-8"))
      | some text =>
        let value := strip text
        raiseIf (value.length < 16 ∨ value.toList.any isSpace = true)
          (Raised.acceptance (label ++ " is too short or contains whitespace"))
        return value

/-- The part of `token(alias)` that reads the token. -/
def Executor.readToken (e : Executor) (authority : String) : Except Raised String :=
  let unconfigured := Raised.acceptance ("token file for auth alias " ++ authority ++ " is not configured")
  match tokenFileEnv.lookup authority, (e.authHashes.lookup authority).filter (· ≠ "") with
  | some envName, some expected =>
    match e.environment.nonempty envName with
    | none => .error unconfigured
    | some path => do
      let value ← regularSecret e.environment.files path envName
      raiseIf (isEphemeralToken value = false)
        (Raised.acceptance ("token for auth alias " ++ authority ++ " is not enclave-scoped"))
      raiseIf (sha256 (encodeUtf8 value) ≠ expected)
        (Raised.acceptance ("token file for auth alias " ++ authority ++ " differs from the candidate plan"))
      return value
  | _, _ => .error unconfigured

/-! ## Requests -/

/-- The dictionary of the headers of a request. -/
abbrev Headers := List (String × String)

/-- `headers[name] = value` -/
def Headers.set (headers : Headers) (name value : String) : Headers :=
  if (headers.lookup name).isSome then headers.map fun kv => if kv.1 = name then (name, value) else kv
  else headers ++ [(name, value)]

structure Request where
  url : String
  method : String
  data : Option Bytes
  headers : Headers
  deriving DecidableEq

/-- What `opener.open` and the reading of the body come to: an answer, with the bytes read; an `OSError` or
`URLError` with its text; or any other exception. -/
inductive Opened : Type where
  | answered (status : ℤ) (raw : Bytes)
  | failed (message : String)
  | raised

/-- The operations of the executor. -/
inductive Op : Type where
  | send (request : Request) (timeout : ℚ)
  /-- `time.sleep(interval_ms / 1000)` -/
  | sleep (intervalMs : ℤ)

abbrev Answer : Op → Type
  | .send _ _ => Opened
  | .sleep _ => Unit

/-- The tokens that the executor has read. -/
abbrev Tokens := List (String × String)

abbrev Exec := Stateful Raised Tokens Op Answer

/-- `token(alias)` -/
def Executor.token (e : Executor) (authority : String) : Exec String := do
  match (← get).lookup authority with
  | some value => return value
  | none =>
    let value ← liftExcept (e.readToken authority)
    modify ((authority, value) :: ·)
    return value

/-- What the executor makes of a step before it reads tokens. -/
structure Draft where
  stepId : String
  endpoint : String
  method : String
  base : String
  path : String
  data : Option Bytes
  expected : List ℤ
  headers : Headers

/-- `[a-z][a-z0-9-]{2,63}` -/
def isStepId (s : String) : Bool :=
  headed isLower (fun c => isLower c || isDigit09 c || c == '-') 2 63 s.toList

/-- The statuses of `expectStatus`. -/
def expectedStatuses : Json → Option (List ℤ)
  | .arr (status :: statuses) => (status :: statuses).mapM fun
      | .int n => if 100 ≤ n ∧ n ≤ 599 then some n else none
      | _ => none
  | _ => none

/-- Add the headers that a step supplies. -/
def supplyHeaders (stepId : String) : Headers → List (String × Json) → Except Raised Headers
  | headers, [] => .ok headers
  | headers, (rawName, rawValue) :: supplied => do
    let name := String.ofList (lower rawName.toList)
    let value := strOf rawValue
    raiseIf (name ∉ allowedHeaders ∨ '\r' ∈ value.toList ∨ '\n' ∈ value.toList ∨ 256 < value.length)
      (Raised.acceptance ("step " ++ stepId ++ " contains a forbidden header"))
    supplyHeaders stepId (headers.set name value) supplied

/-- The bytes of a body, if there is one. -/
def requestData (body : Json) : Option Bytes := if body = .null then none else some (canonicalBytes body)

/-- The part of `run` that builds the request, without its tokens. -/
def Executor.draft (e : Executor) (step : Dict) : Except Raised Draft := do
  let stepId := strAt step "id"
  let endpoint := strAt step "endpoint"
  let method := strAt step "method"
  let about := "step " ++ stepId
  raiseIf (isStepId stepId = false) (Raised.acceptance "step id is malformed")
  match e.endpoints.lookup endpoint with
  | none => .error (.acceptance (about ++ " uses an unavailable endpoint"))
  | some base =>
    raiseIf (method ∉ ["GET", "POST", "PUT", "DELETE"]) (Raised.acceptance (about ++ " uses a forbidden method"))
    let path ← safePath (optional step "path")
    let body := optional step "body"
    raiseIf (method = "GET" ∧ body ≠ .null) (Raised.acceptance ("GET " ++ about ++ " must not include a body"))
    raiseIf (maxDocumentBytes < ((requestData body).getD []).length)
      (Raised.acceptance (about ++ " request exceeds the byte limit"))
    match expectedStatuses (optional step "expectStatus") with
    | none => .error (.acceptance (about ++ " has invalid expected statuses"))
    | some expected =>
      let own : Headers := ("accept", "application/json") ::
        if body = .null then [] else [("content-type", "application/json")]
      let supplied ← asObject ((step.get "headers").getD (.obj [])) (about ++ " headers must be an object")
      let headers ← supplyHeaders stepId own supplied
      return { stepId, endpoint, method, base, path, data := requestData body, expected, headers }

/-- The request of a step with the tokens that it gets. -/
def Draft.request (d : Draft) (bearer approval : Option String) : Request :=
  let headers := match bearer with
    | some token => d.headers.set "authorization" ("Bearer " ++ token)
    | none => d.headers
  let headers := match approval with
    | some token => headers.set "x-zkdeal-failover-approval" token
    | none => headers
  { url := d.base ++ d.path, method := d.method, data := d.data, headers }

/-- The token that a step sends as a bearer. -/
def Executor.bearer (e : Executor) (auth : Json) : Exec (Option String) :=
  if auth = .null then pure none else some <$> e.token (strOf auth)

/-- The token that a step sends as an approval. -/
def Executor.approval (e : Executor) (d : Draft) (approvalAuth : Json) : Exec (Option String) :=
  if approvalAuth = .null then pure none
  else do
    raiseIf (d.endpoint ≠ "failover" ∨ approvalAuth.eqStr "failover_approval" = false)
      (Raised.acceptance ("step " ++ d.stepId ++ " contains a forbidden approval authority"))
    some <$> e.token "failover_approval"

/-- `isinstance(value, int) and minimum <= value <= maximum` -/
def intWithin (value : Json) (minimum maximum : ℤ) (message : String) : Except Raised ℤ :=
  match value with
  | .int n => if minimum ≤ n ∧ n ≤ maximum then .ok n else .error (.acceptance message)
  | .bool b => if minimum ≤ b.toInt ∧ b.toInt ≤ maximum then .ok b.toInt else .error (.acceptance message)
  | _ => .error (.acceptance message)

/-! ## Answers -/

structure StepResult where
  stepId : String
  endpoint : String
  method : String
  path : String
  status : ℤ
  body : Json
  requestSha256 : String
  responseSha256 : String
  attempts : ℕ

/-- `result.pointer_document()` -/
def StepResult.pointerDocument (r : StepResult) : Json :=
  .obj [("status", .int r.status), ("body", r.body), ("requestSha256", .str r.requestSha256),
    ("responseSha256", .str r.responseSha256)]

/-- `text.replace(a + b, c)` for single characters -/
def replacePair (a b c : Char) : List Char → List Char
  | x :: y :: rest => if x = a ∧ y = b then c :: replacePair a b c rest else x :: replacePair a b c (y :: rest)
  | cs => cs

/-- One step of `pointer`. -/
def pointerStep (path : String) (current : Json) (rawPart : List Char) : Except Raised Json :=
  let part := String.ofList (replacePair '~' '0' '~' (replacePair '~' '1' '/' rawPart))
  let absent := Raised.acceptance ("JSON pointer " ++ Python.reprStr path ++ " is absent")
  match current with
  | .obj fields =>
    match Dict.get fields part with
    | some value => .ok value
    | none => .error absent
  | .arr items =>
    if isdigit part then
      match intOfStr part with
      | none => .error .other
      | some n =>
        match items[n.toNat]? with
        | some value => .ok value
        | none => .error absent
    else .error absent
  | _ => .error absent

/-- `pointer(value, path)` -/
def pointer (value : Json) (path : String) : Except Raised Json :=
  match path.toList with
  | [] => .ok value
  | '/' :: cs => (splitChars '/' cs).foldlM (pointerStep path) value
  | _ => .error (.acceptance ("invalid JSON pointer " ++ Python.reprStr path))

/-- `parse_json(raw, label)` -/
def parseJson (raw : Bytes) (label : String) : Except Raised Json := do
  raiseIf (maxDocumentBytes < raw.length)
    (Raised.acceptance (label ++ " exceeds " ++ toString maxDocumentBytes ++ " bytes"))
  match decodeUtf8 raw with
  | none => .error (.acceptance (label ++ " is not strict UTF-8 JSON"))
  | some text =>
    match strictLoads text with
    | .error .malformed => .error (.acceptance (label ++ " is not strict UTF-8 JSON"))
    | .error (.duplicate key) => .error (.acceptance ("JSON contains duplicate key " ++ Python.reprStr key))
    | .ok value => .ok value

/-- What the executor makes of an answer. -/
def judge (d : Draft) (requiredPointers : List String) (attempt : ℕ) : Opened → Except Raised StepResult
  | .failed message => .error (.acceptance message)
  | .raised => .error .other
  | .answered status raw => do
    raiseIf (maxDocumentBytes < raw.length)
      (Raised.acceptance ("step " ++ d.stepId ++ " response exceeds the byte limit"))
    let parsed ← if raw = [] then .ok .null else parseJson raw ("step " ++ d.stepId ++ " response")
    let result : StepResult := {
      stepId := d.stepId, endpoint := d.endpoint, method := d.method, path := d.path, status, body := parsed,
      requestSha256 := sha256 (d.data.getD []), responseSha256 := sha256 raw, attempts := attempt }
    raiseIf (status ∉ d.expected)
      (Raised.acceptance ("HTTP " ++ toString status ++ " not in " ++ Json.repr (.arr (d.expected.map .int))))
    let _ ← requiredPointers.mapM (pointer result.pointerDocument)
    return result

/-- The loop of `run`, before the given number of attempts and after an error. -/
def attemptLoop (d : Draft) (request : Request) (timeout : ℚ) (requiredPointers : List String)
    (attempts intervalMs : ℤ) : ℕ → String → Exec StepResult
  | 0, lastError => throw (.acceptance
      ("step " ++ d.stepId ++ " failed after " ++ toString attempts ++ " attempts: " ++ lastError))
  | left + 1, _ => do
    let attempt := attempts.toNat - left
    let opened ← Stateful.perform (Op.send request timeout)
    match judge d requiredPointers attempt opened with
    | .ok result => return result
    | .error .other => throw .other
    | .error (.acceptance message) =>
      whenTrue ((attempt : ℤ) < attempts ∧ intervalMs ≠ 0) (Stateful.perform (Op.sleep intervalMs))
      attemptLoop d request timeout requiredPointers attempts intervalMs left message

/-- `run(step, required_pointers)` -/
def Executor.run (e : Executor) (step : Dict) (requiredPointers : List String) : Exec StepResult := do
  let d ← liftExcept (e.draft step)
  let bearer ← e.bearer (optional step "auth")
  let approval ← e.approval d (optional step "approvalAuth")
  let attempts ← liftExcept (intWithin ((step.get "attempts").getD (.int 1)) 1 600
    ("step " ++ d.stepId ++ " attempts are outside 1..600"))
  let intervalMs ← liftExcept (intWithin ((step.get "intervalMs").getD (.int 0)) 0 10000
    ("step " ++ d.stepId ++ " intervalMs is outside 0..10000"))
  match e.environment.timeout with
  | none => throw .other
  | some timeout =>
    attemptLoop d (d.request bearer approval) timeout requiredPointers attempts intervalMs attempts.toNat
      "request was not attempted"

/-- The steps of a scenario, each with the pointers into its answer. -/
def Executor.runSteps (e : Executor) (pointersByStep : List (String × List String)) : List Dict → Exec (List StepResult)
  | [] => return []
  | step :: steps => do
    let result ← e.run step ((pointersByStep.lookup (strAt step "id")).getD [])
    let results ← e.runSteps pointersByStep steps
    return result :: results

end Zkdeal.AcceptanceRunner
