import Zkdeal.FailoverProvider.DockerDriver
import Zkdeal.FailoverProvider.KubernetesDriver

/-!
# Platforms that do what they are told

Executable platforms for runs of the drivers and of the provider.  Containers run or are stopped,
pods exist and are ready or not, the standby database recovers or is promoted, and every service but
the active coordinator is healthy.
-/

namespace Zkdeal.FailoverProvider

open Interaction Python

/-- The two databases: whether the standby recovers, and their positions. -/
structure Databases where
  recovering : Bool
  flushed : String
  replayed : String

/-- What `psql` prints for a query. -/
def Databases.query (d : Databases) (text : String) : String :=
  if text = synchronousQuery then "1"
  else if text = flushQuery then d.flushed
  else if text = recoveryQuery then (if d.recovering then "t" else "f")
  else if text = replayQuery then d.replayed
  else ""

/-- What a command in a database container prints: `promote -w`, or a query. -/
def Databases.exec (d : Databases) (command : List String) : String × Databases :=
  if command.getLast? = some "-w" then ("server promoted", { d with recovering := false })
  else (d.query (command.getLast?.getD ""), d)

/-- The document that every health endpoint serves. -/
def health (standbyCoordinatorId : String) : Dict := [
  ("coordinatorId", .str standbyCoordinatorId),
  ("configuredRole", .str "standby"),
  ("effectiveRole", .str "standby"),
  ("acceptingWrites", .bool false),
  ("indexerHeadMatchesL1", .bool true),
  ("unresolvedSafetyEvents", .int 0)]

/-- The answers of a platform whose commands `command` carries out. -/
def platformAnswer {W : Type} (command : W → List String → String × W) (config : Config) (w : W) :
    (o : Op) → Answer o × W
  | .run arguments _ =>
    let (output, w') := command w arguments
    (some { returncode := 0, stdout := output, stderr := "" }, w')
  | .requestJson _ _ _ => (some (200, health config.standbyCoordinatorId), w)
  | .getaddrinfo hostname _ => (.addresses [hostname], w)
  | .monotonic => (0, w)
  | .unixMs => (1700000000000, w)
  | .sleep _ => ((), w)
  | .checkpoint _ => ((), w)
  | .save _ => (some (), w)
  | .enter _ => ((), w)

/-- A platform beside a state file.  The next saves succeed as the list says, and then all do. -/
structure Hosted (W : Type) where
  platform : W
  file : Option State
  saves : List Bool

/-- The answers of a platform beside a state file. -/
def Hosted.answer {W : Type} (command : W → List String → String × W) (config : Config) (w : Hosted W) :
    (o : Op) → Option (Answer o × Hosted W)
  | .save s =>
    if w.saves.headD true = true ∧ s.dumpable = true then
      some (some (), { w with file := some s.saved, saves := w.saves.tail })
    else some (none, { w with saves := w.saves.tail })
  | o =>
    let (r, platform) := platformAnswer command config w.platform o
    some (r, { w with platform := platform })

/-! ## Docker -/

/-- The container of each service, and the containers that run. -/
structure DockerWorld where
  containers : List (String × String)
  running : List String
  databases : Databases

/-- What a `docker` command prints, and what it leaves. -/
def DockerWorld.command (w : DockerWorld) : List String → String × DockerWorld
  | ["docker", "ps", _, _, _, _, label] =>
    let found := w.containers.filter fun entry =>
      "label=com.docker.compose.service=" ++ entry.1 = label
    ("\n".intercalate (found.map Prod.snd), w)
  | ["docker", "inspect", _, _, container] =>
    (if container ∈ w.running then "true" else "false", w)
  | ["docker", "stop", _, _, container] =>
    (container, { w with running := w.running.filter (· ≠ container) })
  | ["docker", "start", container] => (container, { w with running := container :: w.running })
  | "docker" :: "exec" :: rest =>
    let (output, databases) := w.databases.exec rest
    (output, { w with databases := databases })
  | _ => ("", w)

/-! ## Kubernetes -/

/-- The pod of a workload that asks for one replica at most. -/
inductive Pod : Type where
  | ready
  | terminating
  | gone

/-- The document of a workload, of either kind; zero counts are left out of a status. -/
def Pod.document : Pod → String
  | ready => "\x7b\"spec\":\x7b\"replicas\":1\x7d,\"status\":\x7b\"replicas\":1,\"readyReplicas\":1,\"availableReplicas\":1\x7d\x7d"
  | terminating => "\x7b\"spec\":\x7b\"replicas\":0\x7d,\"status\":\x7b\"replicas\":1\x7d\x7d"
  | gone => "\x7b\"spec\":\x7b\"replicas\":0\x7d,\"status\":\x7b\x7d\x7d"

/-- The workloads and the documents of the services, by the names `kubectl` has for them. -/
structure KubernetesWorld where
  workloads : List (String × Pod)
  services : List (String × String)
  /-- What is left of a ready pod when its workload is scaled to zero. -/
  drained : Pod
  databases : Databases

/-- What a `kubectl` command prints, and what it leaves. -/
def KubernetesWorld.command (w : KubernetesWorld) : List String → String × KubernetesWorld
  | ["kubectl", "--namespace", _, "get", name, "-o", "json"] =>
    let document := ((w.workloads.lookup name).map Pod.document).or (w.services.lookup name)
    (document.getD "", w)
  | ["kubectl", "--namespace", _, "scale", name, replicas] =>
    let scaled (pod : Pod) : Pod :=
      match pod, replicas with
      | .ready, "--replicas=0" => w.drained
      | pod, "--replicas=0" => pod
      | _, _ => .ready
    let workloads := w.workloads.map fun (key, pod) => (key, if key = name then scaled pod else pod)
    ("", { w with workloads := workloads })
  | ["kubectl", "--namespace", _, "patch", name, "--type=merge", "-p", patch] =>
    -- Merged, the patch is the part of the document that is read back.
    let services := w.services.map fun (key, old) => (key, if key = name then patch else old)
    ("", { w with services := services })
  | "kubectl" :: "--namespace" :: _ :: "exec" :: rest =>
    let (output, databases) := w.databases.exec rest
    (output, { w with databases := databases })
  | _ => ("", w)

/-! ## A deployment -/

namespace Deployment

def config : Config where
  activeHealthUrls := ["https://witness-a.example/health", "https://witness-b.example/health"]
  standbyHealthUrl := "https://standby.example/health"
  indexerFreshnessUrl := "https://indexer.example/freshness"
  signerAuthorityHealthUrls := ["https://signer-authority.example/health"]
  activeCoordinatorId := "active-region-a"
  standbyCoordinatorId := "standby-region-b"
  providerToken := "provider-token-0001"
  approvalToken := "approval-token-0001"
  requestTimeoutSeconds := 2
  platformTimeoutSeconds := 10
  allowHttp := false

def prepareRequest : Dict := [
  ("candidateId", .str "candidate-20260821-001"),
  ("activeCoordinatorId", .str "active-region-a"),
  ("standbyCoordinatorId", .str "standby-region-b"),
  ("failedWitnessCount", .int 2)]

/-- The hash of an owner's response. -/
def ownerResponseSha256 : String :=
  "6f1d2c3b4a5968778695a4b3c2d1e0f00f1e2d3c4b5a69788796a5b4c3d2e1f0"

def commitRequest : Dict := [("ownerResponseSha256", .str ownerResponseSha256)]

def databases : Databases where
  recovering := true
  flushed := "0/16B6C50"
  replayed := "0/16B6C50"

def dockerSettings : DockerSettings where
  project := "zkdeal-hosting"
  network := "zkdeal-hosting_internal"
  activeService := "coordinator"
  standbyService := "coordinator-standby"
  primaryDbService := "postgres-primary"
  standbyDbService := "postgres-standby"
  signerService := "standby-signer"
  databaseAlias := "postgres-writer"
  applicationAlias := "coordinator-writer"
  pgUser := "zkdeal"
  pgDatabase := "zkdeal"
  pgData := "/var/lib/postgresql/data"

/-- Before the failover: everything runs except the signer. -/
def dockerWorld : DockerWorld where
  containers := [("coordinator", "c00000000001"), ("coordinator-standby", "c00000000002"),
    ("postgres-primary", "d00000000001"), ("postgres-standby", "d00000000002"),
    ("standby-signer", "5e0000000001")]
  running := ["c00000000001", "c00000000002", "d00000000001", "d00000000002"]
  databases := databases

def kubernetesSettings : KubernetesSettings where
  namespaceName := "zkdeal-prod"
  activeDeployment := "coordinator-active"
  primaryDbPod := "postgres-primary-0"
  standbyDbPod := "postgres-standby-0"
  primaryDbStatefulset := "postgres-primary"
  postgresContainer := "postgres"
  databaseService := "postgres-writer"
  applicationService := "coordinator-writer"
  signerDeployment := "standby-signer"
  routeScopeLabelKey := "app"
  routeScopeLabelValue := "zkdeal"
  routeLabelKey := "role"
  standbyRouteValue := "standby"
  pgUser := "zkdeal"
  pgDatabase := "zkdeal"
  pgData := "/var/lib/postgresql/data"

/-- Before the failover: the active deployment and the primary have a pod each. -/
def kubernetesWorld (drained : Pod) : KubernetesWorld where
  workloads := [("deployment/coordinator-active", .ready), ("statefulset/postgres-primary", .ready),
    ("deployment/standby-signer", .gone)]
  services := [("service/postgres-writer", ""), ("service/coordinator-writer", "")]
  drained := drained
  databases := databases

end Deployment

end Zkdeal.FailoverProvider
