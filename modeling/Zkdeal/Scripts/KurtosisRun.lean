import Zkdeal.Scripts.Common

/-!
# The Kurtosis launcher

`kurtosis_run.load_topology_verification` reads the receipt of a candidate topology that its arguments bind
by a SHA-256, and decides whether it is eligible for a release.
-/

namespace Zkdeal.Scripts

open Interaction Python Json Python.Sha256
open BackupRestore (item follow isSha256)

/-- What is at a path: no regular file, or a symlink; a file that cannot be read; or a file. -/
inductive InputFile : Type where
  | notRegular
  | unreadable
  | contents (raw : Bytes)

/-- `read_regular(path, label, maximum)` -/
def readRegular (file : InputFile) (label : String) (maximum : ℕ) : Except Raised Bytes :=
  match file with
  | .notRegular => .error (.deployment (label ++ " must be an existing regular non-symlink file"))
  | .unreadable => .error (.deployment ("cannot read " ++ label))
  | .contents raw => do
    raiseIf (raw = [] ∨ maximum < raw.length)
      (Raised.deployment (label ++ " must contain 1.." ++ toString maximum ++ " bytes"))
    return raw

/-- `json.loads(raw.decode("utf-8"), object_pairs_hook=strict_object)`, as an object -/
def strictDocument (raw : Bytes) (label : String) : Except Raised Dict :=
  match decodeUtf8 raw with
  | none => .error (.deployment (label ++ " is not strict UTF-8 JSON"))
  | some text =>
    match strictLoads text with
    | .error .malformed => .error (.deployment (label ++ " is not strict UTF-8 JSON"))
    | .error (.duplicate key) => .error (.deployment ("JSON contains duplicate key " ++ Python.reprStr key))
    | .ok value => asObject value (label ++ " must contain a JSON object")

/-- `bound_json_document(args_path, path_value, expected_hash, label, maximum)`, where `inputs` has the files
that are named relative to `args_path` -/
def boundJsonDocument (inputs : String → InputFile) (path expectedHash : Json) (label : String) (maximum : ℕ) :
    Except Raised Dict := do
  match expectedHash with
  | .str expectedHash =>
    raiseIf (isSha256 expectedHash = false) (Raised.deployment (label ++ " SHA-256 is malformed"))
    match path with
    | .str path =>
      raiseIf (path = "") (Raised.deployment (label ++ " must be a file path"))
      let raw ← readRegular (inputs path) label maximum
      raiseIf (sha256 raw ≠ expectedHash) (Raised.deployment (label ++ " bytes differ from their SHA-256 binding"))
      strictDocument raw label
    | _ => .error (.deployment (label ++ " must be a file path"))
  | _ => .error (.deployment (label ++ " SHA-256 is malformed"))

/-- `normalized_endpoint(value, label)` -/
def normalizedEndpoint (value : Json) (label : String) : Except Raised String :=
  match value with
  | .str url =>
    match urlsplit url with
    | none => .error (.deployment (label ++ " is malformed"))
    | some parsed => do
      raiseIf (parsed.isHttp = false ∨ parsed.hostname = "" ∨ parsed.hasCredentials = true)
        (Raised.deployment (label ++ " must be an HTTP(S) URL without user information"))
      raiseIf (parsed.query ≠ [] ∨ parsed.fragment ≠ [])
        (Raised.deployment (label ++ " must not contain a query or fragment"))
      return parsed.base
  | _ => .error (.deployment (label ++ " must be an HTTP(S) URL"))

/-- `ACCEPTANCE_ENDPOINTS` -/
def acceptanceEndpoints : List String :=
  ["coordinator", "indexer", "queue", "headless", "l1_rpc_a", "l1_rpc_b", "fault", "backup", "failover", "prover", "logs"]

/-- The fields that make a receipt eligible. -/
def isEligible (value : Dict) (candidateId hostedToken : String) : Bool :=
  (item value "schema").eqStr "zkdeal/candidate-private-topology-verification/v1" &&
    (item value "passed").isBool true && (item value "candidateId").eqStr candidateId &&
    (item value "hostedIntegrationToken").eqStr hostedToken && (item value "fixtureEndpointsAccepted").isBool false &&
    (item value "standaloneQueueAccepted").isBool false && (item value "sharedSinglePostgresAccepted").isBool false &&
    (item value "credentialValuesRecorded").isBool false

/-- The `ownerDatabaseSchema`: a `bool` is an `int`. -/
def ownerSchema (value : Json) : Except Raised ℤ :=
  let lacks := Raised.deployment "candidate topology verification lacks ownerDatabaseSchema"
  match value with
  | .int n => if n < 1 then .error lacks else .ok n
  | .bool true => .ok 1
  | _ => .error lacks

/-- One endpoint of a receipt. -/
def loadEndpoint (endpoint : String × Json) : Except Raised (String × String) :=
  (normalizedEndpoint endpoint.2 ("topology endpoints." ++ endpoint.1)).map ((endpoint.1, ·))

/-- The endpoints of a receipt. -/
def loadEndpoints (value : Json) : Except Raised (List (String × String)) := do
  let endpoints ← asObject value "candidate topology verification endpoint set differs"
  raiseIf (endpoints.hasKeys acceptanceEndpoints = false)
    (Raised.deployment "candidate topology verification endpoint set differs")
  let normalized ← endpoints.mapM loadEndpoint
  raiseIf (normalized.lookup "queue" ≠ normalized.lookup "coordinator")
    (Raised.deployment "candidate topology verification uses a standalone queue")
  return normalized

def requiredControl : List String :=
  ["activeCoordinatorId", "standbyCoordinatorId", "activeWitnesses", "standbyHealth", "promotionEndpoint",
    "failureThreshold", "maxRtoSeconds", "independentWitnesses", "scopedApprovalRequired", "standbySignerlessBeforeFence"]

/-- A URL with its workload. -/
def isBinding (value : Json) : Bool :=
  match value with
  | .obj fields => Dict.hasKeys fields ["url", "workload"]
  | _ => false

/-- One witness: its URL and the text of its workload. -/
def loadWitness (witness : Json × ℕ) : Except Raised (String × String) := do
  raiseIf (isBinding witness.1 = false)
    (Raised.deployment "candidate topology active witness binding is malformed")
  let url ← normalizedEndpoint (follow witness.1 ["url"]) ("activeWitnesses[" ++ toString witness.2 ++ "].url")
  return (url, strOf (follow witness.1 ["workload"]))

/-- The URLs of the two witnesses. -/
def loadWitnesses (value : Json) : Except Raised (List String) := do
  match value with
  | .arr [first, second] =>
    let witnesses ← [(first, 0), (second, 1)].mapM loadWitness
    let urls := witnesses.map Prod.fst
    let origins ← urls.mapM authority
    raiseIf ((witnesses.map Prod.snd).dedup.length ≠ 2 ∨ origins.dedup.length ≠ 2)
      (Raised.deployment "candidate topology active witnesses are not independent")
    return urls
  | _ => .error (.deployment "candidate topology requires exactly two active witnesses")

/-- `isinstance(value, int)` without a `bool`, within bounds -/
def boundedNumber (value : Json) (minimum maximum : ℤ) : Except Raised ℤ :=
  let outside := Raised.deployment "candidate topology failover threshold/RTO is out of bounds"
  match value with
  | .int n => if minimum ≤ n ∧ n ≤ maximum then .ok n else .error outside
  | _ => .error outside

/-- The failover control that the launcher passes on. -/
structure FailoverControl where
  activeCoordinatorId : Json
  standbyCoordinatorId : Json
  activeWitnessUrls : List String
  standbyHealthUrl : String
  promotionEndpoint : String
  providerOperationUrl : String
  failureThreshold : ℤ
  maxRtoSeconds : ℤ

/-- The failover control of a receipt. -/
def loadControl (value : Json) (normalized : List (String × String)) : Except Raised FailoverControl := do
  let control ← asObject value "candidate topology verification lacks failoverControl"
  raiseIf (control.hasKeys requiredControl = false)
    (Raised.deployment "candidate topology failoverControl fields differ")
  raiseIf ((item control "independentWitnesses").isBool true = false ∨
      (item control "scopedApprovalRequired").isBool true = false ∨
      (item control "standbySignerlessBeforeFence").isBool true = false)
    (Raised.deployment "candidate topology failover safety controls are not enabled")
  let witnessUrls ← loadWitnesses (item control "activeWitnesses")
  let standby := item control "standbyHealth"
  let promotion := item control "promotionEndpoint"
  raiseIf (isBinding standby = false ∨ isBinding promotion = false ∨
      (follow standby ["workload"]).eq (follow promotion ["workload"]) = false)
    (Raised.deployment "candidate topology standby health/promotion binding is malformed")
  let standbyUrl ← normalizedEndpoint (follow standby ["url"]) "failoverControl.standbyHealth.url"
  let promotionUrl ← normalizedEndpoint (follow promotion ["url"]) "failoverControl.promotionEndpoint.url"
  let failureThreshold ← boundedNumber (item control "failureThreshold") 3 20
  let maxRto ← boundedNumber (item control "maxRtoSeconds") 30 300
  return {
    activeCoordinatorId := item control "activeCoordinatorId"
    standbyCoordinatorId := item control "standbyCoordinatorId"
    activeWitnessUrls := witnessUrls, standbyHealthUrl := standbyUrl, promotionEndpoint := promotionUrl
    providerOperationUrl := (normalized.lookup "failover").getD "" ++ "/v1/failovers"
    failureThreshold := failureThreshold, maxRtoSeconds := maxRto }

/-- What `load_topology_verification` returns. -/
structure Verification where
  endpoints : List (String × String)
  failoverControl : FailoverControl
  sha256 : String
  ownerDatabaseSchema : ℤ

def maxVerificationBytes : ℕ := 4 * 1024 * 1024

/-- What `load_topology_verification` makes of the document. -/
def verification (value : Dict) (candidateId hostedToken sha256 : String) : Except Raised Verification := do
  raiseIf (isEligible value candidateId hostedToken = false)
    (Raised.deployment "candidate topology verification is not a release-eligible exact-stack receipt")
  let ownerDatabaseSchema ← ownerSchema (item value "ownerDatabaseSchema")
  let endpoints ← loadEndpoints (item value "endpoints")
  let failoverControl ← loadControl (item value "failoverControl") endpoints
  return { endpoints, failoverControl, sha256, ownerDatabaseSchema }

/-- `load_topology_verification(payload, args_path, candidate_id, hosted_token)` -/
def loadTopologyVerification (inputs : String → InputFile) (payload : Dict) (candidateId hostedToken : String) :
    Except Raised Verification := do
  let value ← boundJsonDocument inputs (item payload "topology_verification_file")
    (item payload "topology_verification_sha256") "candidate topology verification" maxVerificationBytes
  verification value candidateId hostedToken (strOf (item payload "topology_verification_sha256"))

end Zkdeal.Scripts
