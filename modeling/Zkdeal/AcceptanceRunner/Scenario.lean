import Zkdeal.BackupRestore.Control
import Zkdeal.Python.JsonText

/-!
# Scenarios of the acceptance runner

A plan has a value for each scenario: the steps to send, and for each field of the evidence the step and
the JSON pointer that it is taken from.  `validate_scenario_shape` checks it before anything is sent.
-/

namespace Zkdeal.AcceptanceRunner

open Interaction Python Json
open BackupRestore (item)

/-- An exception: an `AcceptanceError`, or any other one. -/
inductive Raised : Type where
  | acceptance (message : String)
  | other
  deriving DecidableEq

/-! ## Tables -/

/-- `CONTROL_ENDPOINT_AUTH` -/
def controlEndpointAuth : List (String × String) :=
  [("fault", "fault_control"), ("backup", "backup_restore"), ("failover", "failover_control")]

/-- `CONTROL_AUTH_ENDPOINT` -/
def controlAuthEndpoint : List (String × String) := controlEndpointAuth.map Prod.swap

/-- `SOURCE_RULES`: the fields of the evidence of each scenario, with the endpoints that they may come from. -/
def sourceRules : List (String × List (String × List String)) := [
  ("reorg",
    [("previousBlockHash", ["indexer"]), ("canonicalBlockHash", ["indexer"]), ("rpcABlockHash", ["rpc_a"]),
      ("rpcBBlockHash", ["rpc_b"]), ("rollbackDepth", ["indexer", "fault"]),
      ("retractionPreviousState", ["indexer"]), ("retractionReason", ["indexer"]),
      ("reconciliationReady", ["indexer", "coordinator"])]),
  ("rpc-disagreement",
    [("agreedBeforeA", ["rpc_a"]), ("agreedBeforeB", ["rpc_b"]), ("disagreeA", ["rpc_a"]),
      ("disagreeB", ["rpc_b"]), ("criticalStatus", ["coordinator"]), ("restoredA", ["rpc_a"]),
      ("restoredB", ["rpc_b"]), ("readyAfterRestore", ["coordinator"])]),
  ("split-brain-promotion",
    [("activeTerminated", ["failover"]), ("staleWriterRejected", ["coordinator", "failover"]),
      ("promotedReady", ["coordinator"]), ("signerAfterFence", ["failover"]), ("targetLsn", ["failover"]),
      ("replayLsn", ["failover"]), ("rtoSeconds", ["failover"])]),
  ("database-object-restore",
    [("sourceDatabaseDigest", ["backup"]), ("restoredDatabaseDigest", ["backup"]),
      ("sourceObjectDigest", ["backup"]), ("restoredObjectDigest", ["backup"]),
      ("freshDatabase", ["backup"]), ("freshObjectStore", ["backup"]), ("serviceReady", ["coordinator"])]),
  ("sponsorship",
    [("tenantIsolationDenied", ["coordinator"]), ("firstOperationId", ["coordinator"]),
      ("replayOperationId", ["coordinator"]), ("conflictingReplayDenied", ["coordinator"]),
      ("reservedQuantity", ["coordinator"]), ("chargedQuantity", ["indexer", "coordinator"]),
      ("refundedQuantity", ["indexer", "coordinator"]), ("doubleBilled", ["indexer", "coordinator"])]),
  ("queue-congestion",
    [("tenantACompleted", ["queue"]), ("tenantBCompleted", ["queue"]), ("starvedJobs", ["queue"]),
      ("leaseRecovered", ["queue"]), ("backoffObserved", ["queue"]), ("withinCaps", ["queue"]),
      ("edfViolations", ["queue", "indexer"])]),
  ("headless-restart",
    [("stateDigestBefore", ["headless"]), ("stateDigestAfter", ["headless"]),
      ("admissionJournalBefore", ["headless"]), ("admissionJournalAfter", ["headless"]),
      ("restartCount", ["fault"]), ("lockRecovered", ["headless"]), ("roomReady", ["headless"]),
      ("queueJobPreserved", ["queue"]), ("duplicateSequences", ["headless", "indexer"])]),
  ("blob",
    [("manifestDigest", ["coordinator"]), ("archiveDigest", ["indexer"]),
      ("rawTransactionHash", ["coordinator"]), ("rebroadcastRawTransactionHash", ["coordinator"]),
      ("signerCalls", ["coordinator"]), ("finalized", ["indexer", "coordinator"]),
      ("sidecarVerified", ["indexer"])]),
  ("partial-aggregate",
    [("memberCount", ["coordinator"]), ("uniqueRooms", ["coordinator"]), ("appliedMembers", ["indexer"]),
      ("failedMembers", ["indexer"]), ("chargedMembers", ["indexer", "coordinator"]),
      ("failedMemberCharges", ["indexer", "coordinator"]), ("retryApplied", ["indexer"]),
      ("operationId", ["coordinator"]), ("finalized", ["indexer"])]),
  ("renewal",
    [("checkpointFinalized", ["indexer"]), ("freshPriceBound", ["coordinator", "indexer"]),
      ("maximumChargeEnforced", ["coordinator", "indexer"]),
      ("refundQuantity", ["coordinator", "indexer"]), ("duplicateCharge", ["coordinator", "indexer"]),
      ("handoffNoOverlap", ["indexer"])]),
  ("withdrawal",
    [("proofRootValid", ["coordinator"]), ("operationId", ["coordinator"]), ("finalized", ["indexer"]),
      ("replayDenied", ["coordinator", "indexer"]), ("externalRaceCanonical", ["indexer"]),
      ("sponsoredGas", ["coordinator"])]),
  ("load-shadow",
    [("requests", ["coordinator", "fault"]), ("durationSeconds", ["fault"]),
      ("rpcMismatches", ["rpc_a", "rpc_b", "fault"]), ("sseLostEvents", ["coordinator", "fault"]),
      ("indexerMismatches", ["indexer", "fault"]), ("admissionFailOpen", ["coordinator", "fault"]),
      ("schedulerStarvation", ["queue", "fault"]), ("projectionMismatches", ["indexer", "fault"]),
      ("capsEnforced", ["coordinator", "queue", "fault"]),
      ("backpressureObserved", ["coordinator", "queue", "fault"])]),
  ("rpc-load-shadow",
    [("requests", ["fault"]), ("durationSeconds", ["fault"]), ("p99LatencyMs", ["fault"]),
      ("rpcAMatchedResponses", ["rpc_a"]), ("rpcBMatchedResponses", ["rpc_b"]), ("mismatches", ["fault"]),
      ("criticalFailOpen", ["coordinator", "fault"])]),
  ("sse-load-shadow",
    [("eventsPublished", ["coordinator"]), ("eventsObserved", ["fault"]), ("lostEvents", ["fault"]),
      ("duplicateEventIds", ["fault"]), ("reconnectResumed", ["fault"]),
      ("backpressureObserved", ["fault"]), ("subscriberCapEnforced", ["coordinator", "fault"]),
      ("eventIdsMonotonic", ["fault"])]),
  ("indexer-load-shadow",
    [("indexerHeadHash", ["indexer"]), ("rpcAHeadHash", ["rpc_a"]), ("rpcBHeadHash", ["rpc_b"]),
      ("lagBlocks", ["indexer"]), ("comparedBlocks", ["fault"]), ("retractionsObserved", ["indexer"]),
      ("canonicalMismatches", ["fault"]), ("rollbackApplied", ["indexer"]),
      ("reconciliationReady", ["indexer"])]),
  ("admission-load-shadow",
    [("submittedAdmissions", ["fault"]), ("walCommittedAdmissions", ["coordinator"]),
      ("recoveredAdmissions", ["coordinator"]), ("lostAdmissions", ["fault"]),
      ("failOpenAdmissions", ["fault"]), ("backpressureObserved", ["fault"]),
      ("tenantCapEnforced", ["coordinator", "fault"])]),
  ("scheduler-load-shadow",
    [("tenantACompleted", ["queue"]), ("tenantBCompleted", ["queue"]),
      ("minimumTenantServiceShareBps", ["fault"]), ("starvedJobs", ["queue", "fault"]),
      ("deadlineMisses", ["queue", "indexer", "fault"]), ("edfViolations", ["queue", "fault"]),
      ("canonicalUrgentPreemptions", ["queue", "indexer"]), ("agingRecoveries", ["queue"]),
      ("capacityCapsEnforced", ["queue", "coordinator"])]),
  ("projection-parity-shadow",
    [("primaryProjectionDigest", ["indexer"]), ("shadowProjectionDigest", ["fault"]),
      ("comparedRooms", ["fault"]), ("comparedEvents", ["fault"]), ("mismatchCount", ["fault"]),
      ("reorgCompared", ["fault"]), ("finalityFloorMatched", ["indexer", "fault"])]),
  ("prover-agent-trace-join",
    [("queueCorrelationId", ["queue"]), ("queueTenantId", ["queue"]), ("queueRoomId", ["queue"]),
      ("queueJobId", ["queue"]), ("agentCorrelationId", ["logs"]), ("agentTenantId", ["logs"]),
      ("agentRoomId", ["logs"]), ("agentJobId", ["logs"]), ("proverCorrelationId", ["prover"]),
      ("proverJobId", ["prover"]), ("heartbeatCorrelationId", ["coordinator"]),
      ("heartbeatFinalized", ["coordinator"]), ("completionCorrelationId", ["logs"]),
      ("finalJobId", ["queue", "coordinator"]), ("finalStatus", ["queue", "coordinator"]),
      ("directSignerConfigured", ["coordinator", "logs"]),
      ("directRpcConfigured", ["coordinator", "logs"]), ("traceRecordCount", ["logs"])])]

/-! ## Validation -/

/-- An object, or an `AcceptanceError`. -/
def asObject (value : Json) (message : String) : Except Raised Dict :=
  match value with
  | .obj fields => .ok fields
  | _ => .error (.acceptance message)

/-- `raw.get("auth")` and the other values that a step may lack -/
def optional (step : Dict) (key : String) : Json := (step.get key).getD .null

/-- A control endpoint gets its own authority. -/
def checkRequiredAuth (about endpoint : String) (suppliedAuth : Json) : Except Raised Unit :=
  match controlEndpointAuth.lookup endpoint with
  | some requiredAuth =>
    raiseIf (suppliedAuth.eqStr requiredAuth = false)
      (Raised.acceptance (about ++ " must use a scoped " ++ endpoint ++ " authority"))
  | none => .ok ()

/-- A control authority goes to its own endpoint. -/
def checkScopedEndpoint (about endpoint : String) (suppliedAuth : Json) : Except Raised Unit :=
  match controlAuthEndpoint.lookup (strOf suppliedAuth) with
  | some scopedEndpoint =>
    raiseIf (endpoint ≠ scopedEndpoint)
      (Raised.acceptance (about ++ " cannot send " ++ strOf suppliedAuth ++ " to " ++ endpoint))
  | none => .ok ()

/-- The checks of the authority that a step names. -/
def checkAuth (about endpoint : String) (suppliedAuth : Json) : Except Raised Unit := do
  checkRequiredAuth about endpoint suppliedAuth
  checkScopedEndpoint about endpoint suppliedAuth
  raiseIf (suppliedAuth.eqStr "failover_approval" = true)
    (Raised.acceptance (about ++ " cannot use failover approval as a bearer"))

/-- The checks of the approval authority that a step names. -/
def checkApproval (about endpoint : String) (method approvalAuth : Json) : Except Raised Unit :=
  if endpoint = "failover" ∧ method.eqStr "GET" = false then
    raiseIf (approvalAuth.eqStr "failover_approval" = false)
      (Raised.acceptance (about ++ " must use a separate failover approval authority"))
  else
    raiseIf (approvalAuth ≠ .null) (Raised.acceptance (about ++ " contains an inapplicable approval authority"))

/-- The checks of one step, after steps with the given ids. -/
def checkStep (name : String) (ids : List String) (raw : Json) : Except Raised Dict := do
  let raw ← asObject raw ("scenario " ++ name ++ " contains a non-object step")
  let stepId := strAt raw "id"
  raiseIf (stepId ∈ ids) (Raised.acceptance ("scenario " ++ name ++ " repeats step id " ++ stepId))
  let endpoint := strAt raw "endpoint"
  let about := "scenario " ++ name ++ " step " ++ stepId
  checkAuth about endpoint (optional raw "auth")
  checkApproval about endpoint (optional raw "method") (optional raw "approvalAuth")
  return raw

/-- The checks of the steps, after steps with the given ids. -/
def checkSteps (name : String) : List String → List Json → Except Raised (List Dict)
  | _, [] => .ok []
  | ids, raw :: raws => do
    let step ← checkStep name ids raw
    let steps ← checkSteps name (strAt step "id" :: ids) raws
    return step :: steps

/-- Where a field of the evidence is taken from. -/
structure Ref where
  field : String
  step : String
  pointer : String

/-- The check of where one field of the evidence is taken from. -/
def checkRef (name : String) (rules : List (String × List String)) (steps : List Dict) (ref : String × Json) :
    Except Raised Ref := do
  let field := ref.1
  let about := "scenario " ++ name ++ " evidence ref " ++ field
  let raw ← asObject ref.2 (about ++ " is malformed")
  raiseIf (raw.hasKeys ["step", "pointer"] = false) (Raised.acceptance (about ++ " is malformed"))
  let stepId := strOf (item raw "step")
  let path := strOf (item raw "pointer")
  match steps.find? fun step => strAt step "id" = stepId with
  | none => .error (.acceptance (about ++ " names an absent step"))
  | some step =>
    let endpoint := strAt step "endpoint"
    raiseIf (endpoint ∉ (rules.lookup field).getD [])
      (Raised.acceptance ("scenario " ++ name ++ " field " ++ field ++ " cannot trust endpoint " ++ endpoint))
    raiseIf (path.toList.head? ≠ some '/') (Raised.acceptance (about ++ " must point into a response wrapper"))
    return ⟨field, stepId, path⟩

/-- `validate_scenario_shape(name, value)` -/
def validateScenarioShape (name : String) (value : Json) : Except Raised (List Dict × List Ref) := do
  let exact := "scenario " ++ name ++ " must contain exactly steps and evidence"
  let value ← asObject value exact
  raiseIf (value.hasKeys ["steps", "evidence"] = false) (Raised.acceptance exact)
  match item value "steps", item value "evidence" with
  | .arr (step :: steps), .obj refs =>
    match sourceRules.lookup name with
    | none => .error .other
    | some rules =>
      raiseIf (Dict.hasKeys refs (rules.map Prod.fst) = false)
        (Raised.acceptance ("scenario " ++ name ++ " evidence keys differ: missing=" ++
          reprSorted ((rules.map Prod.fst).filter fun key => (Dict.get refs key).isNone) ++ " extra=" ++
          reprSorted ((refs.map Prod.fst).filter fun key => !(rules.map Prod.fst).contains key)))
      let steps ← checkSteps name [] (step :: steps)
      let checked ← refs.mapM (checkRef name rules steps)
      return (steps, checked)
  | _, _ => .error (.acceptance ("scenario " ++ name ++ " steps/evidence are malformed"))

/-! ## What is left of an accepted scenario -/

/-- What the checks leave of the authorities of a step. -/
structure Scoped (step : Dict) : Prop where
  /-- A control endpoint gets its own authority. -/
  required : ∀ auth, controlEndpointAuth.lookup (strAt step "endpoint") = some auth → optional step "auth" = .str auth
  /-- A control authority goes to its own endpoint. -/
  own : ∀ endpoint, controlAuthEndpoint.lookup (strOf (optional step "auth")) = some endpoint →
    strAt step "endpoint" = endpoint
  bearer : optional step "auth" ≠ .str "failover_approval"
  approval : optional step "approvalAuth" ≠ .null →
    optional step "approvalAuth" = .str "failover_approval" ∧ strAt step "endpoint" = "failover" ∧
      optional step "method" ≠ .str "GET"

theorem checkAuth_eq_ok {about endpoint : String} {auth : Json} {u : Unit}
    (h : checkAuth about endpoint auth = .ok u) :
    (∀ requiredAuth, controlEndpointAuth.lookup endpoint = some requiredAuth → auth = .str requiredAuth) ∧
      (∀ own, controlAuthEndpoint.lookup (strOf auth) = some own → endpoint = own) ∧
      auth ≠ .str "failover_approval" := by
  unfold checkAuth at h
  obtain ⟨_, required, h⟩ := bind_eq_ok.1 h
  obtain ⟨_, own, h⟩ := bind_eq_ok.1 h
  refine ⟨fun requiredAuth hr => ?_, fun endpoint' hs => ?_, fun he => ?_⟩
  · rw [checkRequiredAuth, hr] at required
    have := raiseIf_eq_ok.1 required
    rw [Bool.not_eq_false] at this
    exact eqStr_iff.1 this
  · rw [checkScopedEndpoint, hs] at own
    exact not_not.1 (raiseIf_eq_ok.1 own)
  · exact raiseIf_eq_ok.1 h (eqStr_iff.2 he)

theorem checkApproval_eq_ok {about endpoint : String} {method approvalAuth : Json} {u : Unit}
    (h : checkApproval about endpoint method approvalAuth = .ok u) (present : approvalAuth ≠ .null) :
    approvalAuth = .str "failover_approval" ∧ endpoint = "failover" ∧ method ≠ .str "GET" := by
  unfold checkApproval at h
  split at h
  · rename_i control
    have := raiseIf_eq_ok.1 h
    rw [Bool.not_eq_false] at this
    refine ⟨eqStr_iff.1 this, control.1, fun he => ?_⟩
    rw [eqStr_iff.2 he] at control
    exact absurd control.2 (by decide)
  · exact absurd present (raiseIf_eq_ok.1 h)

theorem scoped_of_checkStep {name : String} {ids : List String} {raw : Json} {step : Dict}
    (h : checkStep name ids raw = .ok step) : Scoped step := by
  unfold checkStep at h
  obtain ⟨raw, -, h⟩ := bind_eq_ok.1 h
  obtain ⟨_, -, h⟩ := bind_eq_ok.1 h
  obtain ⟨_, auth, h⟩ := bind_eq_ok.1 h
  obtain ⟨_, approval, h⟩ := bind_eq_ok.1 h
  obtain rfl := Except.ok.inj h
  obtain ⟨required, own, bearer⟩ := checkAuth_eq_ok auth
  exact ⟨required, own, bearer, checkApproval_eq_ok approval⟩

theorem scoped_of_checkSteps {name : String} {ids : List String} {raws : List Json} {steps : List Dict}
    (h : checkSteps name ids raws = .ok steps) : ∀ step ∈ steps, Scoped step := by
  induction raws generalizing ids steps with
  | nil =>
    obtain rfl := Except.ok.inj h
    exact nofun
  | cons raw raws ih =>
    unfold checkSteps at h
    obtain ⟨first, hfirst, h⟩ := bind_eq_ok.1 h
    obtain ⟨rest, hrest, h⟩ := bind_eq_ok.1 h
    obtain rfl := Except.ok.inj h
    exact List.forall_mem_cons.2 ⟨scoped_of_checkStep hfirst, ih hrest⟩

/-- Every step of an accepted scenario is scoped. -/
theorem scoped_of_validateScenarioShape {name : String} {value : Json} {steps : List Dict} {refs : List Ref}
    (h : validateScenarioShape name value = .ok (steps, refs)) : ∀ step ∈ steps, Scoped step := by
  unfold validateScenarioShape at h
  obtain ⟨value, -, h⟩ := bind_eq_ok.1 h
  obtain ⟨_, -, h⟩ := bind_eq_ok.1 h
  split at h
  · split at h
    · cases h
    · obtain ⟨_, -, h⟩ := bind_eq_ok.1 h
      obtain ⟨checked, hsteps, h⟩ := bind_eq_ok.1 h
      obtain ⟨_, -, h⟩ := bind_eq_ok.1 h
      obtain ⟨rfl, -⟩ := Prod.mk.inj (Except.ok.inj h)
      exact scoped_of_checkSteps hsteps
  · cases h

end Zkdeal.AcceptanceRunner
