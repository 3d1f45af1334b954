import Zkdeal.FailoverProvider.Platform

/-!
# The Kubernetes driver

`KubernetesDriver.prepare` and `commit` follow the Docker driver, with workloads scaled to zero in
place of stopped containers.  A scaling is awaited on the `availableReplicas` of a deployment or
the `readyReplicas` of a stateful set.
-/

namespace Zkdeal.FailoverProvider

open Interaction Python

structure KubernetesSettings where
  namespaceName : String
  activeDeployment : String
  primaryDbPod : String
  standbyDbPod : String
  primaryDbStatefulset : String
  postgresContainer : String
  databaseService : String
  applicationService : String
  signerDeployment : String
  routeScopeLabelKey : String
  routeScopeLabelValue : String
  routeLabelKey : String
  standbyRouteValue : String
  pgUser : String
  pgDatabase : String
  pgData : String

/-! ## Documents -/

/-- `value.get(key, {})`, of which a field is read next. -/
def dictField (value : Dict) (key : String) : Option Dict :=
  match value.get key with
  | none => some []
  | some (.obj d) => some d
  | some _ => none

/-- `int(value.get(key, 0) or 0)` -/
def countField (value : Dict) (key : String) : Option ℤ :=
  match value.get key with
  | none => some 0
  | some v => if v.truthy then v.toInt else some 0

/-- A count under a section of a document, where reading it does not raise. -/
def count (value : Dict) (section_ key : String) : Option ℤ := do
  countField (← dictField value section_) key

def readCount (value : Dict) (section_ key : String) : Platform ℤ :=
  match count value section_ key with
  | some n => pure n
  | none => throw .other

namespace KubernetesDriver

variable (config : Config) (settings : KubernetesSettings)

/-! ## Commands -/

/-- `["kubectl", "--namespace", namespace, *args]` -/
def kubectl (args : List String) : List String :=
  "kubectl" :: "--namespace" :: settings.namespaceName :: args

/-- `run(*args)` -/
def run (args : List String) : Platform String := do
  let completed ← runCommand (kubectl settings args) 30
  let output := if completed.stderr = "" then completed.stdout else completed.stderr
  raiseIf (completed.returncode ≠ 0) (Raised.provider 503 "kubernetes-operation-failed"
    ("fixed Kubernetes operation failed: " ++ take (strip output) 500))
  return strip completed.stdout

def getArgs (kindName : String) : List String := ["get", kindName, "-o", "json"]

/-- `get_json(kind_name)` -/
def getJson (kindName : String) : Platform Dict := do
  match Json.loads (← run settings (getArgs kindName)) with
  | none => throw .other
  | some (.obj d) => return d
  | some _ =>
    throw (.provider 503 "kubernetes-response-invalid" "Kubernetes returned a non-object")

/-- The field of its status on which the scaling of a workload is awaited. -/
def readyField (kind : String) : String :=
  if kind = "deployment" then "availableReplicas" else "readyReplicas"

/-- The polling loop of `scale_workload`. -/
def awaitScale (kind name : String) (replicas : ℕ) (deadline : ℚ) : ℕ → Platform Unit
  | 0 => Raising.halt
  | rounds + 1 => do
    if (← monotonic) < deadline then
      let value ← getJson settings (kind ++ "/" ++ name)
      let observed ← readCount value "status" (readyField kind)
      if observed = replicas then return ()
      else
        sleep 1
        awaitScale kind name replicas deadline rounds
    else
      throw (.provider 503 "kubernetes-scale-timeout"
        (kind ++ " did not reach " ++ toString replicas ++ " replicas"))

def scaleArgs (kind name : String) (replicas : ℕ) : List String :=
  ["scale", kind ++ "/" ++ name, "--replicas=" ++ toString replicas]

/-- `scale_workload(kind, name, replicas)`, its loop observed for a number of rounds. -/
def scaleWorkload (rounds : ℕ) (kind name : String) (replicas : ℕ) : Platform Unit := do
  raiseIf (kind ≠ "deployment" ∧ kind ≠ "statefulset") (Raised.provider 500 "invalid-config"
    "provider attempted to scale an unapproved workload kind")
  let _ ← run settings (scaleArgs kind name replicas)
  let now ← monotonic
  awaitScale settings kind name replicas (now + config.platformTimeoutSeconds) rounds

/-- `exec_pg(pod, *command)` -/
def execPg (pod : String) (command : List String) : Platform String :=
  run settings ("exec" :: ("pod/" ++ pod) :: "-c" :: settings.postgresContainer :: "--" :: command)

def psqlCommand (query : String) : List String :=
  ["psql", "-U", settings.pgUser, "-d", settings.pgDatabase, "--set", "ON_ERROR_STOP=1", "-tAc", query]

/-- `psql(pod, query)` -/
def psql (pod query : String) : Platform String := do
  return strip (← execPg settings pod (psqlCommand settings query))

/-- The selector of the route to the standby. -/
def selector : Dict := Dict.ofItems [
  (settings.routeScopeLabelKey, .str settings.routeScopeLabelValue),
  (settings.routeLabelKey, .str settings.standbyRouteValue)]

def patchArgs (service : String) : List String :=
  ["patch", "service/" ++ service, "--type=merge", "-p",
    Json.dumpsUnsorted (.obj [("spec", .obj [("selector", .obj (selector settings))])])]

/-- `patch_route(service)` -/
def patchRoute (service : String) : Platform Unit := do
  let _ ← run settings (patchArgs settings service)
  let value ← getJson settings ("service/" ++ service)
  match dictField value "spec" with
  | none => throw .other
  | some spec =>
    raiseIf ((spec.get "selector").any (Json.eq (.obj (selector settings))) = false)
      (Raised.provider 503 "kubernetes-route-failed"
        "stable Service selector did not switch exactly")

def promoteCommand : List String := ["pg_ctl", "-D", settings.pgData, "promote", "-w"]

/-! ## Prepare -/

/-- The part of `prepare` for an operation without a target: capture one and record it. -/
def captureTarget : Platform String := do
  let synchronous ← psql settings settings.primaryDbPod synchronousQuery
  -- `isdigit` accepts superscripts, for which `int` raises.
  raiseIf (isdigit synchronous = true ∧ intOfStr synchronous = none) Raised.other
  raiseIf (isdigit synchronous = false ∨ (intOfStr synchronous).getD 0 < 1) (Raised.provider 503
    "standby-not-synchronous" "standby was not synchronously streaming at the fence")
  let target ← psql settings settings.primaryDbPod flushQuery
  let _ ← lsnValue target
  checkpoint target
  return target

/-- The target that was given, or else a new one. -/
def fencedTarget (existingTarget : Option String) : Platform String :=
  if existingTarget.getD "" = "" then captureTarget settings else pure (existingTarget.getD "")

/-- The polling loop of `prepare`: the replay position that reached the target. -/
def awaitReplay (target : String) (deadline : ℚ) : ℕ → Platform String
  | 0 => Raising.halt
  | rounds + 1 => do
    if (← monotonic) < deadline then
      let recovery ← psql settings settings.standbyDbPod recoveryQuery
      let replay ← psql settings settings.standbyDbPod replayQuery
      if ← reached recovery replay target then return replay
      else
        sleep 1
        awaitReplay target deadline rounds
    else
      throw (.provider 503 "standby-replay-stale" "standby did not replay the fenced primary target")

/-- The part of `prepare` after the promotion. -/
def routePromoted : Platform Unit := do
  raiseIf ((← psql settings settings.standbyDbPod recoveryQuery) ≠ "f")
    (Raised.provider 503 "database-promotion-failed" "standby remained in recovery")
  patchRoute settings settings.databaseService
  verifyIndexer config

/-- `prepare(request, existing_target, checkpoint)`, its loops observed for a number of rounds. -/
def prepare (rounds : ℕ) (request : Dict) (existingTarget : Option String) : Platform Dict := do
  scaleWorkload config settings rounds "deployment" settings.activeDeployment 0
  let signer ← getJson settings ("deployment/" ++ settings.signerDeployment)
  let replicas ← readCount signer "spec" "replicas"
  raiseIf (replicas ≠ 0) (Raised.provider 503 "signer-enabled-too-early"
    "standby signer authority is active before fencing")
  let target ← fencedTarget settings existingTarget
  let now ← monotonic
  let replay ← awaitReplay settings target (now + config.platformTimeoutSeconds) rounds
  scaleWorkload config settings rounds "statefulset" settings.primaryDbStatefulset 0
  whenTrue ((← psql settings settings.standbyDbPod recoveryQuery) = "t") do
    let _ ← execPg settings settings.standbyDbPod (promoteCommand settings)
  routePromoted config settings
  -- `request["candidateId"]`; the caller has checked that the key is there.
  return prepareResponse ((request.get "candidateId").getD .null) target replay

/-! ## Commit -/

/-- `commit(operation_id, owner_hash)`, its loops observed for a number of rounds. -/
def commit (rounds : ℕ) (operationId : String) : Platform Dict := do
  scaleWorkload config settings rounds "deployment" settings.activeDeployment 0
  patchRoute settings settings.applicationService
  scaleWorkload config settings rounds "deployment" settings.signerDeployment 1
  verifySignerAuthority config rounds
  return commitResponse config operationId

end KubernetesDriver

end Zkdeal.FailoverProvider
