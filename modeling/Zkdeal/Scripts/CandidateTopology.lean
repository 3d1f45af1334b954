import Zkdeal.Python.JsonSchema
import Zkdeal.Scripts.Common

/-!
# The private topology of a candidate

`candidate_topology.validate` checks a topology document against its schema, against the candidate
descriptor and against itself.  This module has the checks that need no running workload: they give the
parts of the receipt that `validate` returns.
-/

namespace Zkdeal.Scripts

open Interaction Python Json Python.Sha256
open BackupRestore (item follow isSha256 isToken)

/-! ## Tables -/

/-- `ENDPOINTS` -/
def endpointNames : List String :=
  ["coordinator", "indexer", "queue", "headless", "l1_rpc_a", "l1_rpc_b", "fault", "backup", "failover", "prover", "logs"]

/-- `EXPECTED_IMAGE_KEYS` -/
def expectedImageKeys : List (String × String) :=
  [("coordinator", "coordinator"), ("indexer", "coordinator"), ("queue", "coordinator"), ("headless", "headlessNode"),
    ("fault", "faultController"), ("backup", "backupRestoreController"), ("failover", "failoverProvider"),
    ("prover", "prover"), ("logs", "loki")]

/-- `REQUIRED_WORKLOADS` -/
def requiredWorkloads : List String :=
  ["coordinator-active", "coordinator-standby", "indexer", "headless-node", "active-witness-a", "active-witness-b",
    "l1-rpc-a", "l1-rpc-b", "fault-control", "backup-restore-control", "failover-provider", "prover", "logs",
    "postgres-primary", "postgres-standby"]

/-- An entry of `CAPABILITIES`, without the label that nothing reads. -/
structure Contract where
  name : String
  service : String
  protocol : String
  authRole : String
  imageKey : String

/-- `CAPABILITIES` -/
def capabilityContracts : List Contract :=
  [⟨"faultControl", "zkdeal-fault-control-adapter", "fault-control-v1", "fault_control", "faultController"⟩,
    ⟨"backupRestore", "zkdeal-backup-restore-control-adapter", "backup-restore-control-v1", "backup_restore",
      "backupRestoreController"⟩]

/-- The images that every candidate needs. -/
def requiredImages : List String :=
  (expectedImageKeys.map Prod.snd).dedup ++ ["postgres", "frontDoor"]

/-! ## The schema -/

/-- `^[a-z0-9]` followed by characters of a class that also has letters and digits, `{lo,hi}$` -/
def identifier (more : List Char) (lo hi : ℕ) (s : String) : Bool :=
  headed isReferenceStart (fun c => isReferenceStart c || more.contains c) lo hi s.toList

/-- The patterns `^[0-9A-F]+`, a slash and `[0-9A-F]+$` of an LSN. -/
def isLsn (s : String) : Bool :=
  match partition '/' s.toList with
  | (high, some low) =>
    let digits (cs : List Char) : Bool := !cs.isEmpty && cs.all fun c => isDigit09 c || ('A' ≤ c && c ≤ 'F')
    digits high && digits low
  | _ => false

/-- The text has the given start, and more. -/
def startsWith (start : String) (s : String) : Bool := start.toList.isPrefixOf s.toList

/-- A dot does not match a line feed. -/
def noLineFeed (cs : List Char) : Bool := !cs.contains '\n'

/-- `^[^/].*\.json$` -/
def isJsonPath (s : String) : Bool :=
  match s.toList with
  | c :: cs => c != '/' && ".json".toList.isSuffixOf cs && noLineFeed (cs.take (cs.length - 5))
  | [] => false

/-- `^[^@]+@sha256:[0-9a-f]{64}$` -/
def isPinned (s : String) : Bool :=
  match partition '@' s.toList with
  | (repository, some digest) => !repository.isEmpty && isToken (.ofList digest)
  | _ => false

def anyText (_ : String) : Bool := true

open Schema in
/-- `$defs.bridge` -/
def bridgeSchema : Schema :=
  object ["mode", "networkIdentity", "privateOnly", "lanExposed", "removeAfterRun", "candidateStackShared"]
    [("mode", enum [.str "docker-desktop-host-gateway", .str "kurtosis-network-attach", .str "kubernetes-private-gateway"]),
      ("networkIdentity", text 3 (some 200) anyText), ("privateOnly", const (.bool true)),
      ("lanExposed", const (.bool false)), ("removeAfterRun", const (.bool true)),
      ("candidateStackShared", const (.bool true))] none 0 none

open Schema in
/-- `$defs.capabilityBinding` -/
def capabilityBindingSchema : Schema :=
  object ["path", "sha256", "sourceSha256", "image"]
    [("path", text 0 none (searched isJsonPath)), ("sha256", text 0 none (searched isSha256)),
      ("sourceSha256", text 0 none (searched isSha256)), ("image", text 0 none (searched isPinned))] none 0 none

open Schema in
/-- `$defs.endpoint` -/
def endpointSchema : Schema :=
  object ["url", "workload"]
    [("url", text 0 none fun s => startsWith "http://" s || startsWith "https://" s),
      ("workload", text 0 none (searched (identifier ['.', '-'] 2 79)))] none 0 none

open Schema in
/-- `$defs.workload` -/
def workloadSchema : Schema :=
  object ["kind", "imageKey", "imageRef", "runtimeId", "identity", "ready", "private", "chainId"]
    [("kind", enum [.str "docker", .str "kubernetes", .str "external"]), ("imageKey", textOrNull),
      ("imageRef", textOrNull), ("runtimeId", textOrNull), ("identity", text 1 (some 300) anyText),
      ("ready", const (.bool true)), ("private", const (.bool true)), ("chainId", integer true 1 none)] none 0 none

open Schema in
/-- `$defs.databaseHa` -/
def databaseHaSchema : Schema :=
  object ["primaryWorkload", "standbyWorkload", "independentInstances", "targetLsn", "replayLsn", "caughtUp",
      "formerPrimaryFenced"]
    [("primaryWorkload", text 0 none anyText), ("standbyWorkload", text 0 none anyText),
      ("independentInstances", const (.bool true)), ("targetLsn", text 0 none (searched isLsn)),
      ("replayLsn", text 0 none (searched isLsn)), ("caughtUp", const (.bool true)),
      ("formerPrimaryFenced", const (.bool true))] none 0 none

def failoverControlKeys : List String :=
  ["activeCoordinatorId", "standbyCoordinatorId", "activeWitnesses", "standbyHealth", "promotionEndpoint",
    "failureThreshold", "maxRtoSeconds", "independentWitnesses", "scopedApprovalRequired", "standbySignerlessBeforeFence"]

open Schema in
/-- The properties of `$defs.failoverControl`. -/
def failoverControlProperties : List (String × Schema) :=
  [("activeCoordinatorId", text 0 none (searched (identifier ['.', '_', ':', '-'] 7 199))),
    ("standbyCoordinatorId", text 0 none (searched (identifier ['.', '_', ':', '-'] 7 199))),
    ("activeWitnesses", array endpointSchema 2 2), ("standbyHealth", endpointSchema),
    ("promotionEndpoint", endpointSchema), ("failureThreshold", integer false 3 (some 20)),
    ("maxRtoSeconds", integer false 30 (some 300)), ("independentWitnesses", const (.bool true)),
    ("scopedApprovalRequired", const (.bool true)), ("standbySignerlessBeforeFence", const (.bool true))]

def topologyKeys : List String :=
  ["schemaVersion", "candidateId", "candidateDescriptorSha256", "hostedIntegrationToken", "ownerDatabaseSchema",
    "platform", "bridge", "adapterCapabilities", "endpoints", "workloads", "databaseHa", "failoverControl"]

open Schema in
/-- The properties of the schema. -/
def topologyProperties : List (String × Schema) :=
  [("schemaVersion", const (.int 1)), ("candidateId", text 0 none (searched (identifier ['.', '_', '-'] 7 79))),
    ("candidateDescriptorSha256", text 0 none (searched isSha256)),
    ("hostedIntegrationToken", text 0 none (searched isToken)), ("ownerDatabaseSchema", integer false 1 none),
    ("platform", enum [.str "compose", .str "kubernetes"]), ("bridge", bridgeSchema),
    ("adapterCapabilities", object ["faultControl", "backupRestore"]
      [("faultControl", capabilityBindingSchema), ("backupRestore", capabilityBindingSchema)] none 0 none),
    ("endpoints", object [] [] (some endpointSchema) 11 (some 11)),
    ("workloads", object [] [] (some workloadSchema) 15 none), ("databaseHa", databaseHaSchema),
    ("failoverControl", object failoverControlKeys failoverControlProperties none 0 none)]

/-- `config/schemas/candidate-private-topology.schema.json` -/
def topologySchema : Schema := .object topologyKeys topologyProperties none 0 none

/-! ## Surroundings -/

/-- What the resolved path of a deployment-relative name is. -/
inductive ProjectFile : Type where
  | outside
  | notRegular
  | regular (contents : Bytes)
  | raises

/-- What the checks read: the files of the project, and whether `ipaddress` takes a host for an address and
then for a private one that is neither a loopback nor unspecified. -/
structure Surroundings where
  projectFile : String → ProjectFile
  address : String → Option Bool

/-- `project_file(value, label)`, with the contents of the file -/
def readProjectFile (w : Surroundings) (value : Json) (label : String) : Except Raised Bytes :=
  match value with
  | .str path => do
    raiseIf (path = "") (Raised.deployment (label ++ " path is absent"))
    raiseIf (path.toList.head? = some '/' ∨ ['.', '.'] ∈ splitChars '/' path.toList)
      (Raised.deployment (label ++ " path must be deployment-relative"))
    match w.projectFile path with
    | .outside => .error (.deployment (label ++ " escaped the deployment project"))
    | .notRegular => .error (.deployment (label ++ " is absent, not regular, or a symlink"))
    | .regular contents => .ok contents
    | .raises => .error .other
  | _ => .error (.deployment (label ++ " path is absent"))

/-- The host of a private URL. -/
def allowedHost (w : Surroundings) (host : String) : Bool :=
  (w.address host).getD (host = "host.docker.internal" || endsWith host.toList ".internal".toList ||
    endsWith host.toList ".svc".toList || endsWith host.toList ".local".toList)

/-- `private_url(value, label)` -/
def privateUrl (w : Surroundings) (value : Json) (label : String) : Except Raised String :=
  match value with
  | .str url =>
    match urlsplit url with
    | none => .error (.deployment (label ++ " is malformed"))
    | some parsed => do
      raiseIf (parsed.isHttp = false ∨ parsed.hostname = "" ∨ parsed.hasCredentials = true ∨ parsed.query ≠ [] ∨
          parsed.fragment ≠ [])
        (Raised.deployment (label ++ " must be an HTTP(S) URL without user info/query/fragment"))
      raiseIf (allowedHost w (.ofList (lower parsed.hostname.toList)) = false)
        (Raised.deployment (label ++ " is not a private candidate bridge URL"))
      return parsed.base
  | _ => .error (.deployment (label ++ " must be an HTTP(S) URL"))

/-- `lsn_value(value)` of a text that matches `LSN` -/
def lsnValue (value : String) : ℕ :=
  let (high, low) := partition '/' value.toList
  hexValue high * 2 ^ 32 + hexValue (low.getD [])

/-! ## The descriptor -/

/-- The checks that bind a topology to the descriptor of its candidate. -/
def checkBinding (candidate topology : Dict) (candidateSha256 : String) : Except Raised Unit := do
  raiseIf ((item topology "candidateId").eq (item candidate "candidateId") = false)
    (Raised.deployment "candidate topology names another candidate")
  raiseIf ((item topology "candidateDescriptorSha256").eqStr candidateSha256 = false)
    (Raised.deployment "candidate topology descriptor SHA-256 differs")
  let owner ← asObject (item candidate "ownerBroadSeal") "candidate topology hostedIntegration token differs"
  raiseIf ((item topology "hostedIntegrationToken").eq (item owner "hostedIntegrationAcceptanceToken") = false)
    (Raised.deployment "candidate topology hostedIntegration token differs")

/-- The images of a descriptor. -/
def checkImages (candidate : Dict) : Except Raised Dict := do
  let images ← asObject (item candidate "images") "candidate descriptor lacks images"
  let _ ← requiredImages.mapM fun key => validateReference (item images key) ("candidate images." ++ key)
  return images

/-- What a capability file has to say. -/
def Contract.required (contract : Contract) (sourceSha256 : Json) : List (String × Json) :=
  [("schemaVersion", .int 1), ("service", .str contract.service), ("protocol", .str contract.protocol),
    ("productionReady", .bool true), ("authRole", .str contract.authRole), ("sourceSha256", sourceSha256),
    ("imageSourceLabelSha256", sourceSha256), ("candidateBindingRequired", .bool true),
    ("arbitraryTargetsAccepted", .bool false)]

/-- The check of one capability. -/
def checkCapability (w : Surroundings) (bindings : Json) (images : Dict) (contract : Contract) :
    Except Raised (String × Json) := do
  let name := contract.name
  let binding := follow bindings [name]
  raiseIf ((follow binding ["image"]).eq (item images contract.imageKey) = false)
    (Raised.deployment (name ++ " capability image differs from the candidate descriptor"))
  let raw ← readProjectFile w (follow binding ["path"]) (name ++ " capability")
  raiseIf ((follow binding ["sha256"]).eqStr (sha256 raw) = false)
    (Raised.deployment (name ++ " capability SHA-256 differs"))
  let value ← strictJson (some raw) (name ++ " capability")
  let _ ← (contract.required (follow binding ["sourceSha256"])).mapM fun (field, expected) =>
    raiseIf ((item value field).eq expected = false) (Raised.deployment (name ++ " capability differs: " ++ field))
  raiseIf (isSha256 (strAt value "openapiSha256") = false)
    (Raised.deployment (name ++ " capability lacks a concrete OpenAPI SHA-256"))
  return (name, .obj [("path", follow binding ["path"]), ("sha256", follow binding ["sha256"]),
    ("sourceSha256", follow binding ["sourceSha256"]), ("image", item images contract.imageKey),
    ("authRole", .str contract.authRole), ("protocol", .str contract.protocol)])

/-! ## Endpoints and workloads -/

/-- No endpoint but the queue shares its authority with an earlier one. -/
def checkOrigins : List (List Char × String) → List (String × String) → Except Raised Unit
  | _, [] => .ok ()
  | origins, (name, url) :: normalized =>
    if name = "queue" then checkOrigins origins normalized
    else do
      let origin ← authority url
      match origins.lookup origin with
      | some first => .error (.deployment ("candidate endpoint " ++ name ++ " shares authority with " ++ first))
      | none => checkOrigins ((origin, name) :: origins) normalized

/-- The URL of one endpoint. -/
def normalizedUrl (w : Surroundings) (endpoint : String × Json) : Except Raised (String × String) :=
  (privateUrl w (follow endpoint.2 ["url"]) ("endpoints." ++ endpoint.1)).map ((endpoint.1, ·))

/-- The normalized URLs of the endpoints. -/
def checkEndpoints (w : Surroundings) (endpoints : Dict) : Except Raised (List (String × String)) := do
  raiseIf (endpoints.hasKeys endpointNames = false) (Raised.deployment "candidate topology endpoint set differs")
  let normalized ← endpoints.mapM (normalizedUrl w)
  raiseIf (normalized.lookup "queue" ≠ normalized.lookup "coordinator" ∨
      (follow (.obj endpoints) ["queue", "workload"]).eq (follow (.obj endpoints) ["coordinator", "workload"]) = false)
    (Raised.deployment "candidate queue must be the hosted coordinator authority")
  checkOrigins [] normalized
  return normalized

/-- `workload["kind"] in {"docker", "kubernetes"}` -/
def isInspected (workload : Json) : Bool :=
  (follow workload ["kind"]).eqStr "docker" || (follow workload ["kind"]).eqStr "kubernetes"

/-- The workload has a candidate image and a runtime image. -/
def bindsImage (images : Dict) (workload : Json) : Bool :=
  match follow workload ["imageKey"] with
  | .str imageKey =>
    (Dict.get images imageKey).isSome && (follow workload ["imageRef"]).eq (item images imageKey) &&
      isToken (strOf (follow workload ["runtimeId"]))
  | _ => false

/-- The check of one workload. -/
def checkWorkload (images : Dict) (entry : String × Json) : Except Raised Unit :=
  if isInspected entry.2 then
    raiseIf (bindsImage images entry.2 = false)
      (Raised.deployment ("candidate workload " ++ entry.1 ++ " lacks an exact candidate image/runtime binding"))
  else
    raiseIf (∃ field ∈ ["imageKey", "imageRef", "runtimeId"], follow entry.2 [field] ≠ .null)
      (Raised.deployment ("external workload " ++ entry.1 ++ " must not claim a candidate image binding"))

/-- `workloads[name]` -/
def workloadAt (workloads : Dict) (name : Json) : Except Raised Json :=
  match name with
  | .str name => subscript (.obj workloads) name
  | _ => .error .other

/-- The workload runs an image of the candidate on the platform. -/
def runsImage (images : Dict) (platformKind imageKey : String) (workload : Json) : Bool :=
  (follow workload ["kind"]).eqStr platformKind && (follow workload ["imageKey"]).eqStr imageKey &&
    (follow workload ["imageRef"]).eq (item images imageKey)

/-- The check of the image behind one endpoint. -/
def checkEndpointImage (endpoints workloads images : Dict) (platformKind : String) (expected : String × String) :
    Except Raised Unit := do
  let workload ← workloadAt workloads (follow (.obj endpoints) [expected.1, "workload"])
  raiseIf (runsImage images platformKind expected.2 workload = false)
    (Raised.deployment ("candidate endpoint " ++ expected.1 ++ " is not bound to images." ++ expected.2))

/-- The check of one L1 provider. -/
def checkProvider (endpoints workloads : Dict) (endpoint : String) : Except Raised Json := do
  let workload ← workloadAt workloads (follow (.obj endpoints) [endpoint, "workload"])
  raiseIf ((follow workload ["kind"]).eqStr "external" = false ∨ follow workload ["chainId"] = .null)
    (Raised.deployment ("candidate endpoint " ++ endpoint ++ " lacks an external chain identity"))
  return follow workload ["identity"]

/-- The checks of the workloads. -/
def checkWorkloads (endpoints workloads images : Dict) (platformKind : String) : Except Raised Unit := do
  raiseIf (workloads.hasKeys requiredWorkloads = false) (Raised.deployment "candidate topology workload set differs")
  let _ ← workloads.mapM (checkWorkload images)
  let _ ← expectedImageKeys.mapM (checkEndpointImage endpoints workloads images platformKind)
  let providerA ← checkProvider endpoints workloads "l1_rpc_a"
  let providerB ← checkProvider endpoints workloads "l1_rpc_b"
  raiseIf (providerA.eq providerB = true)
    (Raised.deployment "candidate L1 RPC providers are not independently identified")

/-! ## Failover -/

/-- The URLs of the failover control. -/
structure FailoverUrls where
  witnesses : List String
  standbyHealth : String
  promotionEndpoint : String
  deriving DecidableEq

/-- The witnesses are two, and run the front door. -/
def checkWitnesses (w : Surroundings) (witnesses : List Json) (workloads images : Dict) (platformKind : String) :
    Except Raised (List String) := do
  let urls ← witnesses.zipIdx.mapM fun witness =>
    privateUrl w (follow witness.1 ["url"]) ("failoverControl.activeWitnesses[" ++ toString witness.2 ++ "]")
  let authorities ← urls.mapM authority
  raiseIf (authorities.dedup.length ≠ 2)
    (Raised.deployment "candidate active witnesses must use distinct private authorities")
  let names := witnesses.map fun witness => follow witness ["workload"]
  raiseIf (names.dedup.length ≠ 2) (Raised.deployment "candidate active witnesses must use distinct workloads")
  let _ ← names.mapM fun name => do
    let workload ← workloadAt workloads name
    raiseIf (runsImage images platformKind "frontDoor" workload = false)
      (Raised.deployment "candidate active witness is not bound to the exact front-door image")
  return urls

/-- The checks of the failover control. -/
def checkFailover (w : Surroundings) (failover workloads images : Dict) (platformKind : String) :
    Except Raised FailoverUrls := do
  raiseIf ((item failover "activeCoordinatorId").eq (item failover "standbyCoordinatorId") = true)
    (Raised.deployment "candidate failover coordinator identities must differ")
  let witnesses := match item failover "activeWitnesses" with
    | .arr witnesses => witnesses
    | _ => []
  let urls ← checkWitnesses w witnesses workloads images platformKind
  let health := item failover "standbyHealth"
  let promotion := item failover "promotionEndpoint"
  let standbyHealth ← privateUrl w (follow health ["url"]) "failoverControl.standbyHealth"
  let promotionEndpoint ← privateUrl w (follow promotion ["url"]) "failoverControl.promotionEndpoint"
  let standbyWorkload ← workloadAt workloads (follow health ["workload"])
  let _ ← workloadAt workloads (follow promotion ["workload"])
  -- Two names of one workload are one object.
  raiseIf ((follow health ["workload"]).eqStr "coordinator-standby" = false ∨
      (follow promotion ["workload"]).eqStr "coordinator-standby" = false ∨
      runsImage images platformKind "coordinator" standbyWorkload = false)
    (Raised.deployment "candidate standby health/promotion is not bound to the standby owner image")
  raiseIf ((← urlPath standbyHealth) ≠ "/hosting/v1/health".toList)
    (Raised.deployment "candidate standby health path differs from the owner contract")
  raiseIf ((← urlPath promotionEndpoint) ≠ "/hosting/v1/admin/promote".toList)
    (Raised.deployment "candidate promotion path differs from the owner contract")
  let paths ← urls.mapM urlPath
  raiseIf (∃ path ∈ paths, path ≠ "/hosting/v1/ready".toList)
    (Raised.deployment "candidate active witness path differs from the owner readiness contract")
  return ⟨urls, standbyHealth, promotionEndpoint⟩

/-! ## Database -/

/-- The primary and the standby of the database. -/
structure DatabasePair where
  primary : Json
  standby : Json
  deriving DecidableEq

/-- `isinstance(value, str) and LSN.fullmatch(value)`, with the value -/
def lsnField (value : Json) : Except Raised String :=
  match value with
  | .str s => if isLsn s then .ok s else .error (.deployment "candidate database HA LSN is malformed")
  | _ => .error .other

/-- The checks of the database. -/
def checkDatabase (database workloads images : Dict) (platformKind : String) : Except Raised DatabasePair := do
  let target ← lsnField (item database "targetLsn")
  let replay ← lsnField (item database "replayLsn")
  raiseIf (lsnValue replay < lsnValue target)
    (Raised.deployment "candidate PostgreSQL standby replay is behind the persisted target")
  let primary ← workloadAt workloads (item database "primaryWorkload")
  let standby ← workloadAt workloads (item database "standbyWorkload")
  let _ ← [("primary", primary), ("standby", standby)].mapM fun (label, workload) =>
    raiseIf (runsImage images platformKind "postgres" workload = false)
      (Raised.deployment ("candidate PostgreSQL " ++ label ++ " is not bound to images.postgres"))
  raiseIf ((follow primary ["identity"]).eq (follow standby ["identity"]) = true)
    (Raised.deployment "candidate PostgreSQL primary and standby are the same instance")
  return ⟨primary, standby⟩

/-! ## All checks -/

/-- What the checks give for the receipt. -/
structure Checked where
  capabilities : List (String × Json)
  normalized : List (String × String)
  failover : FailoverUrls
  database : DatabasePair

/-- The object that a key of a checked document has. -/
def sectionOf (document : Dict) (key : String) : Dict :=
  match item document key with
  | .obj fields => fields
  | _ => []

/-- `"docker" if topology["platform"] == "compose" else "kubernetes"` -/
def platformKind (topology : Dict) : String :=
  if (item topology "platform").eqStr "compose" then "docker" else "kubernetes"

/-- The part of `validate` that comes before the inspections. -/
def checkTopology (w : Surroundings) (candidate topology : Dict) (candidateSha256 : String) : Except Raised Checked := do
  raiseIf (topologySchema.valid (.obj topology) = false) (Raised.deployment "candidate topology schema")
  checkBinding candidate topology candidateSha256
  let images ← checkImages candidate
  let capabilities ← capabilityContracts.mapM (checkCapability w (item topology "adapterCapabilities") images)
  let endpoints := sectionOf topology "endpoints"
  let normalized ← checkEndpoints w endpoints
  let workloads := sectionOf topology "workloads"
  checkWorkloads endpoints workloads images (platformKind topology)
  let failover ← checkFailover w (sectionOf topology "failoverControl") workloads images (platformKind topology)
  let database ← checkDatabase (sectionOf topology "databaseHa") workloads images (platformKind topology)
  return ⟨capabilities, normalized, failover, database⟩

/-- The `failoverControl` of a receipt. -/
def receiptControl (failover : Dict) (urls : FailoverUrls) : Dict :=
  let withUrl (value : Json) (url : String) : Json :=
    match value with
    | .obj fields => .obj (Dict.set fields "url" (.str url))
    | value => value
  let witnesses := match item failover "activeWitnesses" with
    | .arr witnesses => List.zipWith withUrl witnesses urls.witnesses
    | _ => []
  ((failover.set "activeWitnesses" (.arr witnesses)).set "standbyHealth"
    (withUrl (item failover "standbyHealth") urls.standbyHealth)).set "promotionEndpoint"
    (withUrl (item failover "promotionEndpoint") urls.promotionEndpoint)

/-- The receipt that `validate` returns. -/
def receipt (candidate topology : Dict) (candidateSha256 topologySha256 : String) (c : Checked)
    (workloads : List (String × Json)) (replication : Option Json) : Dict :=
  [("schema", .str "zkdeal/candidate-private-topology-verification/v1"), ("passed", .bool true),
    ("candidateId", item candidate "candidateId"), ("candidateDescriptorSha256", .str candidateSha256),
    ("topologySha256", .str topologySha256), ("hostedIntegrationToken", item topology "hostedIntegrationToken"),
    ("ownerDatabaseSchema", item topology "ownerDatabaseSchema"), ("platform", item topology "platform"),
    ("bridge", item topology "bridge"),
    ("endpoints", .obj (c.normalized.map fun (name, url) => (name, .str url))),
    ("failoverControl", .obj (receiptControl (sectionOf topology "failoverControl") c.failover)),
    ("adapterCapabilities", .obj c.capabilities), ("workloads", .obj workloads),
    ("databaseHa", item topology "databaseHa"), ("replicationInspection", replication.getD .null),
    ("liveReplicationInspected", .bool replication.isSome), ("fixtureEndpointsAccepted", .bool false),
    ("standaloneQueueAccepted", .bool false), ("sharedSinglePostgresAccepted", .bool false),
    ("credentialValuesRecorded", .bool false)]

end Zkdeal.Scripts
