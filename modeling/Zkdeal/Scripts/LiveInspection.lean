import Zkdeal.Scripts.CandidateTopology
import Zkdeal.Interaction.Raising

/-!
# Inspections of a candidate topology

`validate` either inspects every workload and the PostgreSQL pair with `docker`, `kubectl` and `psql`
commands, or it does not run any command and only names the workloads in its receipt.
-/

namespace Zkdeal.Scripts

open Interaction Raising Python Json Python.Sha256
open BackupRestore (item follow isToken)

/-! ## Commands -/

/-- The operations of `validate`. -/
inductive Op : Type where
  /-- `subprocess.run` of a command -/
  | command (argv : List String)
  /-- `dt.datetime.now(dt.timezone.utc).isoformat()` -/
  | now

/-- How a command ended: with a return code and its output, or with an exception of `subprocess.run`. -/
inductive Completed : Type where
  | exited (returncode : ℤ) (stdout stderr : String)
  | raised

abbrev Answer : Op → Type
  | .command _ => Completed
  | .now => String

abbrev Exec := Raising Raised Op Answer

/-- `text[-n:]` -/
def lastChars (n : ℕ) (s : String) : String := .ofList (s.toList.drop (s.toList.length - n))

/-- What `run_json` makes of a completed command. -/
def jsonOutput (label : String) : Completed → Except Raised Dict
  | .raised => .error .other
  | .exited returncode stdout stderr => do
    raiseIf (returncode ≠ 0) (Raised.deployment (label ++ " failed: " ++ lastChars 1000 (strip stderr)))
    match loads stdout with
    | none => .error (.deployment (label ++ " returned non-JSON"))
    | some value => asObject value (label ++ " returned a non-object")

/-- `run_json(command, label)` -/
def runJson (argv : List String) (label : String) : Exec Dict := attempt (Op.command argv) (jsonOutput label)

/-- What `run_workload_command` makes of a completed command. -/
def textOutput (label : String) : Completed → Except Raised String
  | .raised => .error .other
  | .exited returncode stdout stderr => do
    raiseIf (returncode ≠ 0) (Raised.deployment
      (label ++ " failed: " ++ lastChars 1000 (strip (if stderr = "" then stdout else stderr))))
    return stdout

/-- `run_workload_command(command, label)` -/
def runWorkloadCommand (argv : List String) (label : String) : Exec String :=
  attempt (Op.command argv) (textOutput label)

/-- `SAFE_IDENTITY`: a letter or digit, then up to 299 of these and `._/@:-` -/
def isSafeIdentity (s : String) : Bool :=
  let first (c : Char) : Bool := isUpper c || isLower c || isDigit09 c
  headed first (fun c => first c || ['.', '_', '/', '@', ':', '-'].contains c) 1 299 s.toList

/-- `str(workload["identity"])` -/
def identityOf (workload : Json) : String := strOf (follow workload ["identity"])

/-- The identity names one container. -/
def checkDockerIdentity (identity : String) : Except Raised Unit :=
  raiseIf (isSafeIdentity identity = false ∨ '/' ∈ identity.toList ∨ '@' ∈ identity.toList)
    (Raised.deployment "Docker workload identity must be one exact safe container name")

/-- The namespace, the pod and the container of an identity. -/
def kubernetesParts (identity : String) : Except Raised (String × String × String) :=
  match split '/' identity with
  | [namespace_, pod, container] =>
    if isSafeIdentity namespace_ && isSafeIdentity pod && isSafeIdentity container then .ok (namespace_, pod, container)
    else .error (.deployment "Kubernetes workload identity must be namespace/pod/container")
  | _ => .error (.deployment "Kubernetes workload identity must be namespace/pod/container")

/-! ## Docker -/

def containerInspect (identity : String) : List String :=
  ["docker", "container", "inspect", identity, "--format", "\x7b\x7bjson .\x7d\x7d"]

def imageInspect (imageRef : String) : List String :=
  ["docker", "image", "inspect", imageRef, "--format", "\x7b\x7bjson .\x7d\x7d"]

/-- What the container of a workload has to be. -/
def checkContainer (workload : Json) (network : String) (container : Dict) : Except Raised Unit := do
  let identity := identityOf workload
  let state ← asObject (item container "State") ("Docker workload is not running: " ++ identity)
  raiseIf ((item state "Running").isBool true = false) (Raised.deployment ("Docker workload is not running: " ++ identity))
  match item state "Health" with
  | .obj health =>
    raiseIf ((item health "Status").eqStr "healthy" = false)
      (Raised.deployment ("Docker workload is not healthy: " ++ identity))
  | _ => .ok ()
  let offBridge := "Docker workload is not on the candidate bridge: " ++ identity
  let networks ← asObject (follow (item container "NetworkSettings") ["Networks"]) offBridge
  raiseIf ((networks.get network).isNone = true) (Raised.deployment offBridge)
  let differs := "Docker workload image reference differs: " ++ identity
  let config ← asObject (item container "Config") differs
  raiseIf ((item config "Image").eq (follow workload ["imageRef"]) = false) (Raised.deployment differs)
  raiseIf ((item container "Image").eq (follow workload ["runtimeId"]) = false)
    (Raised.deployment ("Docker workload runtime image ID differs: " ++ identity))

/-- `imageRef in image.get("RepoDigests", [])` for a text -/
def inDigests (imageRef : String) : Option Json → Except Raised Bool
  | none => .ok false
  | some (.arr digests) => .ok (digests.any (eqStr imageRef))
  | some (.obj digests) => .ok (Dict.get digests imageRef).isSome
  | some (.str digests) => .ok (decide (imageRef.toList <:+: digests.toList))
  | some _ => .error .other

/-- What the image of a workload has to be. -/
def checkImage (workload : Json) (image : Dict) : Except Raised Unit := do
  let unbound := Raised.deployment ("Docker daemon did not bind exact digest identity: " ++ identityOf workload)
  raiseIf ((item image "Id").eq (follow workload ["runtimeId"]) = false) unbound
  let listed ← inDigests (strOf (follow workload ["imageRef"])) (image.get "RepoDigests")
  raiseIf (listed = false) unbound

/-- `inspect_docker(workload, network)` -/
def inspectDocker (workload : Json) (network : String) : Exec Json := do
  let identity := identityOf workload
  liftExcept (checkDockerIdentity identity)
  let container ← runJson (containerInspect identity) ("inspect " ++ identity)
  liftExcept (checkContainer workload network container)
  let image ← runJson (imageInspect (strOf (follow workload ["imageRef"]))) ("inspect image for " ++ identity)
  liftExcept (checkImage workload image)
  return .obj [("kind", .str "docker"), ("identity", .str identity), ("runtimeId", item container "Image"),
    ("imageRef", follow (item container "Config") ["Image"]), ("networkIdentity", .str network),
    ("containerId", item container "Id"), ("ready", .bool true)]

/-! ## Kubernetes -/

def podInspect (namespace_ pod : String) : List String := ["kubectl", "get", "pod", pod, "-n", namespace_, "-o", "json"]

/-- `[item for item in value if item.get("name") == name]` -/
def namedItems (value : Json) (name : String) : Except Raised (List Dict) :=
  match value with
  | .arr items => do
    let objects ← items.mapM fun
      | .obj fields => .ok fields
      | _ => .error Raised.other
    return objects.filter fun fields => (Dict.get fields "name").any (eqStr name)
  | .obj [] | .str "" => .ok []
  | _ => .error .other

/-- `imageRef.rsplit("@", 1)[-1]` -/
def digestOf (imageRef : String) : List Char := (rpartition '@' imageRef.toList).2

/-- `text.removeprefix(start)` -/
def removePrefix (start : String) (s : String) : List Char :=
  if startsWith start s then s.toList.drop start.toList.length else s.toList

/-- What the pod of a workload has to be, and the image that it names. -/
def checkPod (workload : Json) (containerName : String) (pod : Dict) : Except Raised Json := do
  let identity := identityOf workload
  let incomplete := "Kubernetes pod response is incomplete"
  let _ ← asObject (item pod "metadata") incomplete
  let spec ← asObject (item pod "spec") incomplete
  let status ← asObject (item pod "status") incomplete
  let specs ← namedItems ((spec.get "containers").getD (.arr [])) containerName
  let statuses ← namedItems ((status.get "containerStatuses").getD (.arr [])) containerName
  match specs, statuses with
  | [spec], [status] =>
    raiseIf ((item status "ready").isBool true = false)
      (Raised.deployment ("Kubernetes workload is absent or not ready: " ++ identity))
    raiseIf ((item spec "image").eq (follow workload ["imageRef"]) = false)
      (Raised.deployment ("Kubernetes workload image reference differs: " ++ identity))
    let observed := removePrefix "docker-pullable://" (strAt status "imageID")
    raiseIf (endsWith observed ('@' :: digestOf (strOf (follow workload ["imageRef"]))) = false)
      (Raised.deployment ("Kubernetes workload image digest differs: " ++ identity))
    return item spec "image"
  | _, _ => .error (.deployment ("Kubernetes workload is absent or not ready: " ++ identity))

/-- `inspect_kubernetes(workload)` -/
def inspectKubernetes (workload : Json) : Exec Json := do
  let (namespace_, podName, containerName) ← liftExcept (kubernetesParts (identityOf workload))
  let pod ← runJson (podInspect namespace_ podName) ("inspect Kubernetes pod " ++ namespace_ ++ "/" ++ podName)
  let image ← liftExcept (checkPod workload containerName pod)
  return .obj [("kind", .str "kubernetes"), ("identity", .str (identityOf workload)),
    ("runtimeId", follow workload ["runtimeId"]), ("imageRef", image),
    ("podUid", follow (item pod "metadata") ["uid"]), ("ready", .bool true)]

/-! ## Replication -/

def recoverySql : String := "SELECT pg_is_in_recovery()"

def primaryReplicationSql : String := "SELECT state, sync_state, replay_lsn FROM pg_stat_replication"

def standbyWalReceiverSql : String :=
  "SELECT status, written_lsn, flushed_lsn, pg_last_wal_replay_lsn() FROM pg_stat_wal_receiver"

/-- `STREAMING_STATES` -/
def streamingStates : List String := ["streaming", "active"]

/-- `replication_exec_command(platform, identity, sql)` -/
def replicationExecCommand (platform identity sql : String) : Except Raised (List String) :=
  let shell := "psql --no-psqlrc --tuples-only --no-align --username \"$POSTGRES_USER\" --dbname \"$POSTGRES_DB\" " ++
    "--command \"" ++ sql ++ "\""
  if platform = "compose" then do
    checkDockerIdentity identity
    return ["docker", "exec", identity, "sh", "-c", shell]
  else if platform = "kubernetes" then do
    let (namespace_, podName, containerName) ← kubernetesParts identity
    return ["kubectl", "exec", "-n", namespace_, podName, "-c", containerName, "--", "sh", "-c", shell]
  else .error (.deployment ("replication inspection does not support platform: " ++ platform))

/-- `parse_recovery_flag(output, label)` -/
def parseRecoveryFlag (output label : String) : Except Raised Bool :=
  let value := strip output
  if value = "t" ∨ value = "true" then .ok true
  else if value = "f" ∨ value = "false" then .ok false
  else .error (.deployment (label ++ " returned an unexpected pg_is_in_recovery value: " ++ take value 100))

/-- One line of `parse_query_rows`. -/
def parseRow (columns : ℕ) (label line : String) : Except Raised (List String) :=
  let parts := (split '|' line).map strip
  if parts.length = columns then .ok parts
  else .error (.deployment (label ++ " returned a malformed row: " ++ take line 200))

/-- `parse_query_rows(output, columns, label)` -/
def parseQueryRows (output : String) (columns : ℕ) (label : String) : Except Raised (List (List String)) :=
  (((splitlines output).map strip).filter (· ≠ "")).mapM (parseRow columns label)

/-- `observed_lsn(value, label)` -/
def observedLsn (value label : String) : Except Raised String :=
  if isLsn value then .ok value else .error (.deployment (label ++ " observed a malformed LSN: " ++ take value 100))

/-- The column of a row. -/
def column (row : List String) (i : ℕ) : String := row.getD i ""

/-- What the primary has to answer: it is not in recovery. -/
def checkPrimaryRecovery (identity output : String) : Except Raised Unit := do
  let inRecovery ← parseRecoveryFlag output ("candidate PostgreSQL primary " ++ identity)
  raiseIf (inRecovery = true)
    (Raised.deployment ("candidate PostgreSQL primary reports pg_is_in_recovery()=true: " ++ identity))

/-- What the primary has to answer: the rows of its replication, of which one is streaming. -/
def checkPrimaryReplication (identity output : String) : Except Raised (List (List String) × List String) := do
  let rows ← parseQueryRows output 3 ("candidate PostgreSQL primary " ++ identity)
  match rows.find? fun row => streamingStates.contains (column row 0) with
  | some row => .ok (rows, row)
  | none => .error (.deployment
      ("candidate PostgreSQL primary shows no streaming standby in pg_stat_replication: " ++ identity))

/-- What the standby has to answer: it is in recovery. -/
def checkStandbyRecovery (identity output : String) : Except Raised Unit := do
  let inRecovery ← parseRecoveryFlag output ("candidate PostgreSQL standby " ++ identity)
  raiseIf (inRecovery = false) (Raised.deployment
    ("candidate PostgreSQL standby is not in recovery (pg_is_in_recovery()=false): " ++ identity))

/-- What the standby has to answer: one receiver, which is streaming and has replayed the target. -/
def checkStandbyReceiver (identity target output : String) : Except Raised (List String) := do
  let label := "candidate PostgreSQL standby " ++ identity
  let rows ← parseQueryRows output 4 label
  match rows with
  | [row] =>
    raiseIf (streamingStates.contains (column row 0) = false) (Raised.deployment
      ("candidate PostgreSQL standby WAL receiver is not streaming (" ++ column row 0 ++ "): " ++ identity))
    let replay ← observedLsn (column row 3) label
    raiseIf (lsnValue replay < lsnValue target)
      (Raised.deployment "candidate PostgreSQL standby observed replay is behind the persisted target")
    let _ ← observedLsn (column row 1) label
    let _ ← observedLsn (column row 2) label
    return row
  | _ => .error (.deployment ("candidate PostgreSQL standby WAL receiver is absent or ambiguous: " ++ identity))

/-- The commands of the replication inspection. -/
structure ReplicationCommands where
  primaryRecovery : List String
  primaryReplication : List String
  standbyRecovery : List String
  standbyWalReceiver : List String

def replicationCommands (platform primary standby : String) : Except Raised ReplicationCommands := do
  let primaryRecovery ← replicationExecCommand platform primary recoverySql
  let primaryReplication ← replicationExecCommand platform primary primaryReplicationSql
  let standbyRecovery ← replicationExecCommand platform standby recoverySql
  let standbyWalReceiver ← replicationExecCommand platform standby standbyWalReceiverSql
  return { primaryRecovery, primaryReplication, standbyRecovery, standbyWalReceiver }

/-- The `replicationInspection` of a receipt. -/
def replicationSection (database : Dict) (platform primary standby : String) (commands : ReplicationCommands)
    (rows : List (List String)) (streaming receiver : List String) (primaryCaptured standbyCaptured : String) : Json :=
  let texts (argv : List String) : Json := .arr (argv.map .str)
  .obj [("schema", .str "zkdeal/replication-inspection/v1"), ("platform", .str platform),
    ("primaryWorkload", item database "primaryWorkload"), ("standbyWorkload", item database "standbyWorkload"),
    ("primaryIdentity", .str primary), ("standbyIdentity", .str standby), ("primaryInRecovery", .bool false),
    ("standbyInRecovery", .bool true), ("streamingState", .str (column streaming 0)),
    ("syncState", .str (column streaming 1)), ("replayLsn", .str (column receiver 3)),
    ("primaryStandbys", .arr (rows.map fun row => .obj [("state", .str (column row 0)),
      ("syncState", .str (column row 1)), ("replayLsn", .str (column row 2))])),
    ("standbyWalReceiver", .obj [("status", .str (column receiver 0)), ("writtenLsn", .str (column receiver 1)),
      ("flushedLsn", .str (column receiver 2)), ("replayLsn", .str (column receiver 3))]),
    ("commands", .obj [("primaryRecovery", texts commands.primaryRecovery),
      ("primaryReplication", texts commands.primaryReplication), ("standbyRecovery", texts commands.standbyRecovery),
      ("standbyWalReceiver", texts commands.standbyWalReceiver)]),
    ("queries", .obj [("recovery", .str recoverySql), ("primaryReplication", .str primaryReplicationSql),
      ("standbyWalReceiver", .str standbyWalReceiverSql)]),
    ("capturedAt", .obj [("primary", .str primaryCaptured), ("standby", .str standbyCaptured)]),
    ("staticClaimsAccepted", .bool false)]

/-- `inspect_replication(database, primary, standby, platform)` -/
def inspectReplication (database : Dict) (pair : DatabasePair) (platform : String) : Exec Json := do
  let primary := identityOf pair.primary
  let standby := identityOf pair.standby
  let commands ← liftExcept (replicationCommands platform primary standby)
  let primaryCaptured ← perform Op.now
  let output ← runWorkloadCommand commands.primaryRecovery ("pg_is_in_recovery on " ++ primary)
  liftExcept (checkPrimaryRecovery primary output)
  let output ← runWorkloadCommand commands.primaryReplication ("pg_stat_replication on " ++ primary)
  let (rows, streaming) ← liftExcept (checkPrimaryReplication primary output)
  let standbyCaptured ← perform Op.now
  let output ← runWorkloadCommand commands.standbyRecovery ("pg_is_in_recovery on " ++ standby)
  liftExcept (checkStandbyRecovery standby output)
  let output ← runWorkloadCommand commands.standbyWalReceiver ("pg_stat_wal_receiver on " ++ standby)
  let receiver ← liftExcept (checkStandbyReceiver standby (strOf (item database "targetLsn")) output)
  return replicationSection database platform primary standby commands rows streaming receiver primaryCaptured
    standbyCaptured

/-! ## Validation -/

/-- The inspection of one workload. -/
def inspectWorkload (network : String) (workload : Json) : Exec Json :=
  if (follow workload ["kind"]).eqStr "docker" then inspectDocker workload network
  else if (follow workload ["kind"]).eqStr "kubernetes" then inspectKubernetes workload
  else return .obj [("kind", .str "external"), ("identity", follow workload ["identity"]),
    ("chainId", follow workload ["chainId"]), ("ready", .bool true)]

/-- The inspections of workloads, in order. -/
def inspectWorkloads (network : String) : List (String × Json) → Exec (List (String × Json))
  | [] => return []
  | (name, workload) :: workloads => do
    let inspection ← inspectWorkload network workload
    let inspections ← inspectWorkloads network workloads
    return (name, inspection) :: inspections

/-- What `validate` checks of a replication inspection once more. -/
def provesPair (replication : Json) : Bool :=
  (follow replication ["primaryInRecovery"]).isBool false && (follow replication ["standbyInRecovery"]).isBool true &&
    streamingStates.any fun state => (follow replication ["streamingState"]).eqStr state

/-- `validate(candidate_path, topology_path, inspect_live)`, for the contents of the two files if they are
regular and no symlinks -/
def validate (w : Surroundings) (candidateFile topologyFile : Option Bytes) (inspectLive : Bool) : Exec Dict := do
  let candidate ← liftExcept (strictJson candidateFile "candidate descriptor")
  let topology ← liftExcept (strictJson topologyFile "candidate topology")
  let candidateSha256 := sha256 (candidateFile.getD [])
  let topologySha256 := sha256 (topologyFile.getD [])
  let checked ← liftExcept (checkTopology w candidate topology candidateSha256)
  let workloads := sectionOf topology "workloads"
  if inspectLive then do
    let network := strOf (follow (item topology "bridge") ["networkIdentity"])
    let inspections ← inspectWorkloads network workloads.sorted
    let replication ← inspectReplication (sectionOf topology "databaseHa") checked.database
      (strOf (item topology "platform"))
    raiseIf (provesPair replication = false) (Raised.deployment
      ("candidate claims databaseHA but the live replicationInspection section " ++
        "is absent or does not prove a streaming primary/standby pair"))
    return receipt candidate topology candidateSha256 topologySha256 checked inspections (some replication)
  else
    let named := workloads.map fun (name, workload) =>
      (name, Json.obj [("kind", follow workload ["kind"]), ("identity", follow workload ["identity"])])
    return receipt candidate topology candidateSha256 topologySha256 checked named none

end Zkdeal.Scripts
