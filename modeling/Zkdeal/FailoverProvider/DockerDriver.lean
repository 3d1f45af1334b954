import Zkdeal.FailoverProvider.Platform

/-!
# The Docker driver

`DockerDriver.prepare` stops the active coordinator, captures the write position of the primary
database when it is not given one, waits until the standby database has replayed it, stops the
primary and promotes the standby.  `DockerDriver.commit` stops the active coordinator again, moves
the application alias to the standby coordinator and starts the signer.
-/

namespace Zkdeal.FailoverProvider

open Interaction Python

structure DockerSettings where
  project : String
  network : String
  activeService : String
  standbyService : String
  primaryDbService : String
  standbyDbService : String
  signerService : String
  databaseAlias : String
  applicationAlias : String
  pgUser : String
  pgDatabase : String
  pgData : String

namespace DockerDriver

variable (config : Config) (settings : DockerSettings)

/-! ## Commands -/

/-- `run(*args, tolerate=tolerate, timeout=timeout)` -/
def run (args : List String) (tolerate : Bool) (timeout : ℕ) : Platform String := do
  let completed ← runCommand ("docker" :: args) timeout
  let output := if completed.stderr = "" then completed.stdout else completed.stderr
  raiseIf (completed.returncode ≠ 0 ∧ tolerate = false) (Raised.provider 503
    "docker-operation-failed" ("fixed Docker operation failed: " ++ take (strip output) 500))
  return strip completed.stdout

def psArgs (service : String) : List String :=
  ["ps", "-aq", "--filter", "label=com.docker.compose.project=" ++ settings.project,
    "--filter", "label=com.docker.compose.service=" ++ service]

/-- `[0-9a-f]{12,64}` -/
def isContainerId (s : String) : Bool := between isLowerHex 12 64 s.toList

/-- `container(service)` -/
def container (service : String) : Platform String := do
  match splitlines (← run (psArgs settings service) false 30) with
  | [value] =>
    raiseIf (isContainerId value = false) (Raised.provider 503 "docker-target-ambiguous"
      ("expected exactly one fixed Compose service: " ++ service))
    return value
  | _ =>
    throw (.provider 503 "docker-target-ambiguous"
      ("expected exactly one fixed Compose service: " ++ service))

def inspectArgs (container : String) : List String :=
  ["inspect", "--format", "\x7b\x7b.State.Running\x7d\x7d", container]

/-- `running(container)` -/
def running (container : String) : Platform Bool := do
  return (← run (inspectArgs container) false 30) = "true"

def stopArgs (container : String) : List String := ["stop", "--time", "10", container]

/-- `stop(container)` -/
def stop (container : String) : Platform Unit := do
  whenTrue ((← running container) = true) do
    let _ ← run (stopArgs container) false 20
  raiseIf ((← running container) = true)
    (Raised.provider 503 "docker-fence-failed" "container remained running after fence")

/-- `exec(container, *command, user=user)` -/
def exec (container : String) (command : List String) (user : Option String) : Platform String :=
  run ("exec" :: (match user with
    | some user => ["--user", user]
    | none => []) ++ container :: command) false 30

def psqlCommand (query : String) : List String :=
  ["psql", "-U", settings.pgUser, "-d", settings.pgDatabase, "--set", "ON_ERROR_STOP=1", "-tAc", query]

/-- `psql(container, query)` -/
def psql (container query : String) : Platform String := do
  return strip (← exec container (psqlCommand settings query) none)

/-- `network disconnect`, whose failure is tolerated -/
def disconnect (container : String) : Platform String :=
  run ["network", "disconnect", "-f", settings.network, container] true 30

def connectArgs (container aliasName : String) : List String :=
  ["network", "connect", "--alias", aliasName, settings.network, container]

/-- `route_alias(container, alias)` -/
def routeAlias (container aliasName : String) : Platform Unit := do
  let _ ← disconnect settings container
  let _ ← run (connectArgs settings container aliasName) false 30

def promoteCommand : List String := ["pg_ctl", "-D", settings.pgData, "promote", "-w"]

/-! ## Prepare -/

/-- The part of `prepare` for an operation without a target: capture one and record it. -/
def captureTarget (primary : String) : Platform String := do
  raiseIf ((← running primary) = false) (Raised.provider 503 "primary-target-unavailable"
    "primary stopped before its durable target was captured")
  let synchronous ← psql settings primary synchronousQuery
  -- `isdigit` accepts superscripts, for which `int` raises.
  raiseIf (isdigit synchronous = true ∧ intOfStr synchronous = none) Raised.other
  raiseIf (isdigit synchronous = false ∨ (intOfStr synchronous).getD 0 < 1) (Raised.provider 503
    "standby-not-synchronous" "standby was not synchronously streaming at the fence")
  let target ← psql settings primary flushQuery
  let _ ← lsnValue target
  checkpoint target
  return target

/-- The polling loop of `prepare`: the replay position that reached the target. -/
def awaitReplay (standbyDb target : String) (deadline : ℚ) : ℕ → Platform String
  | 0 => Raising.halt
  | rounds + 1 => do
    if (← monotonic) < deadline then
      let recovery ← psql settings standbyDb recoveryQuery
      let replay ← psql settings standbyDb replayQuery
      if ← reached recovery replay target then return replay
      else
        sleep 1
        awaitReplay standbyDb target deadline rounds
    else
      throw (.provider 503 "standby-replay-stale" "standby did not replay the fenced primary target")

/-- The target that was given, or else a new one. -/
def fencedTarget (primary : String) (existingTarget : Option String) : Platform String :=
  if existingTarget.getD "" = "" then captureTarget settings primary
  else pure (existingTarget.getD "")

/-- The part of `prepare` after the promotion. -/
def routePromoted (primary standbyDb : String) : Platform Unit := do
  raiseIf ((← psql settings standbyDb recoveryQuery) ≠ "f")
    (Raised.provider 503 "database-promotion-failed" "standby remained in recovery")
  let _ ← disconnect settings primary
  routeAlias settings standbyDb settings.databaseAlias
  verifyIndexer config

/-- `prepare(request, existing_target, checkpoint)`, its loop observed for a number of rounds. -/
def prepare (rounds : ℕ) (request : Dict) (existingTarget : Option String) : Platform Dict := do
  let active ← container settings settings.activeService
  let _ ← container settings settings.standbyService
  let primary ← container settings settings.primaryDbService
  let standbyDb ← container settings settings.standbyDbService
  let signer ← container settings settings.signerService
  stop active
  raiseIf ((← running signer) = true) (Raised.provider 503 "signer-enabled-too-early"
    "standby signer authority is active before fencing")
  let target ← fencedTarget settings primary existingTarget
  let now ← monotonic
  let replay ← awaitReplay settings standbyDb target (now + config.platformTimeoutSeconds) rounds
  stop primary
  whenTrue ((← psql settings standbyDb recoveryQuery) = "t") do
    let _ ← exec standbyDb (promoteCommand settings) (some "postgres")
  routePromoted config settings primary standbyDb
  -- `request["candidateId"]`; the caller has checked that the key is there.
  return prepareResponse ((request.get "candidateId").getD .null) target replay

/-! ## Commit -/

def startArgs (container : String) : List String := ["start", container]

/-- The part of `commit` after the signer was started. -/
def awaitSigner (rounds : ℕ) (signer : String) : Platform Unit := do
  raiseIf ((← running signer) = false) (Raised.provider 503 "signer-activation-failed"
    "post-fence signer boundary did not activate")
  verifySignerAuthority config rounds

/-- `commit(operation_id, owner_hash)`, its loop observed for a number of rounds. -/
def commit (rounds : ℕ) (operationId : String) : Platform Dict := do
  let active ← container settings settings.activeService
  let standby ← container settings settings.standbyService
  let signer ← container settings settings.signerService
  stop active
  let _ ← disconnect settings active
  routeAlias settings standby settings.applicationAlias
  whenTrue ((← running signer) = false) do
    let _ ← run (startArgs signer) false 30
  awaitSigner config rounds signer
  return commitResponse config operationId

end DockerDriver

end Zkdeal.FailoverProvider
