import Zkdeal.Soak.Manifest

/-!
# The verifier of a release soak

`verify_closure` accepts a manifest and a journal, or raises.
-/

namespace Zkdeal.Soak

open Python Json

/-- `if c: raise DeploymentError(message)` -/
def refuseIf (c : Bool) (message : String) : Except Raised Unit :=
  if c then .error (.deploymentError message) else .ok ()

/-- `event.get("kind") == kind` -/
def isKind (kind : String) (event : Event) : Bool := eqStr kind (item event "kind")

/-- `event.get(name) == expected` -/
def has (event : Event) (name : String) (expected : Json) : Bool := (item event name).eq expected

/-- `isinstance(value, str) and value` -/
def isName : Json → Bool
  | .str s => s != ""
  | _ => false

def requiredLifecycle : List String :=
  ["room-create", "submit", "lease", "live-prepare", "prove", "verify", "blob-archive", "aggregate-settle", "sponsor",
    "reorg", "finalize", "withdraw", "reconcile"]

/-- The last event of a kind. -/
def one (body : List Event) (kind : String) : Except Raised Event :=
  match (body.filter (isKind kind)).getLast? with
  | some event => .ok event
  | none => .error (.deploymentError ("journal is missing " ++ kind ++ " evidence"))

def checkLifecycle (body : List Event) : Except Raised Unit := do
  let kinds ← body.mapM fun event => hashed (item event "kind")
  let missing := requiredLifecycle.filter fun kind => !kinds.contains (.str kind)
  refuseIf (!missing.isEmpty) ("journal is missing lifecycle events: " ++ listText missing)

/-- The selectors of the sponsor operations. -/
def sponsorSelectors : Json := .obj [
  ("reserve", .str "0x827ac259"),
  ("renew", .str "0xf180fe5d"),
  ("checkpoint", .str "0xe19bc67e"),
  ("dispose", .str "0xed97f11a")]

def checkProofs (body : List Event) : Except Raised Unit := do
  let prepared ← one body "live-prepare"
  refuseIf (!has prepared "preparedFrom" (.str "live-room-engine-state") || !has prepared "batchInput" (.str "BatchInputV5") ||
      !isBool false (item prepared "fixture"))
    "live preparation is not a non-fixture BatchInputV5 artifact"
  let proved ← one body "prove"
  refuseIf (!isBool true (item proved "realCuda") || !has proved "proofMode" (.str "groth16"))
    "prove event is not a real CUDA Groth16 proof"
  let verified ← one body "verify"
  refuseIf (!isBool true (item verified "realReceipt")) "verify event does not cover the real receipt"

def checkAggregate (body : List Event) : Except Raised Unit := do
  let aggregate ← one body "aggregate-settle"
  refuseIf (!has aggregate "members" (.int 8) || !has aggregate "transactionBlobs" (.int 6) ||
      !has aggregate "applied" (.int 7) || !has aggregate "failed" (.int 1) || !has aggregate "successfulCharges" (.int 7) ||
      !has aggregate "failedCharges" (.int 0))
    "aggregate event is not the six-blob 7+1 partial-success case"
  refuseIf (!has aggregate "publisher" (.str "owner-durable-operation") || !isName (item aggregate "ownerOperationId") ||
      !has aggregate "selector" (.str "0x5e8b37ac") || !has aggregate "transactionType" (.int 3) ||
      !isBool true (item aggregate "finalizedCanonical") || !isBool false (item aggregate "castBroadcast"))
    "aggregate event bypasses the finalized owner durable type-3 operation"

def checkSponsor (body : List Event) : Except Raised Unit := do
  let sponsored ← one body "sponsor"
  refuseIf ((match item sponsored "payer" with
        | .str _ => false
        | _ => true) || has sponsored "payer" (item sponsored "beneficiary") ||
      !has sponsored "refundRecipient" (item sponsored "payer") || !isBool false (item sponsored "doubleBilled"))
    "sponsorship event does not prove payer refund ownership and no double billing"
  refuseIf (!has sponsored "publisher" (.str "owner-durable-operation") ||
      !isBool true (item sponsored "senderAuthoritySplit") ||
      (match item sponsored "ownerOperations" with
        | .obj operations => ["reserve", "renew", "checkpoint", "dispose"].any fun name => !isName (item operations name)
        | _ => true) ||
      !has sponsored "selectors" sponsorSelectors || !isBool true (item sponsored "finalizedCanonical"))
    "sponsorship event lacks the split finalized owner durable pool operations"

def checkRecovery (body : List Event) : Except Raised Unit := do
  let reorg ← one body "reorg"
  refuseIf (!isBool true (item reorg "preFinalityOrphaned") || !isBool true (item reorg "canonicalRecovery") ||
      !isBool false (item reorg "duplicateNonce") || !isBool false (item reorg "duplicateCharge"))
    "reorg event does not prove canonical duplicate-free recovery"
  let withdrawal ← one body "withdraw"
  refuseIf (!isBool true (item withdrawal "realProof") || !isBool true (item withdrawal "claimed") ||
      !isBool true (item withdrawal "replayRejected"))
    "withdrawal event does not prove a real claim and rejected replay"
  refuseIf (!has withdrawal "publisher" (.str "owner-durable-operation") || !isName (item withdrawal "ownerOperationId") ||
      !has withdrawal "selector" (.str "0xb051a9f8") || !isBool true (item withdrawal "finalizedCanonical"))
    "withdrawal event bypasses the finalized owner durable claim operation"

/-! ## Faults -/

/-- `d[key]` -/
def required (d : Dict) (key : String) : Except Raised Json :=
  match d.get key with
  | some value => .ok value
  | none => .error .keyError

theorem required_eq_ok {d : Dict} {key : String} {v : Json} : required d key = .ok v ↔ d.get key = some v := by
  unfold required
  cases d.get key <;> simp

theorem item_of_get {d : Dict} {key : String} {v : Json} (h : d.get key = some v) : item d key = v := by
  rw [item, h, Option.getD_some]

/-- The objects of `manifest["scheduledFaults"]`. -/
def scheduledFaults (manifest : Dict) : List Dict :=
  match item manifest "scheduledFaults" with
  | .arr faults => objects faults
  | _ => []

/-- The item of an entry of the manifest in `scheduled`. -/
def scheduledItem (entry : Dict) : Except Raised (Key × Json × Json) := do
  let kind ← required entry "kind"
  let second ← required entry "atSecond"
  return (← hashed kind, kind, second)

/-- The item of a fault event in `fault_events`. -/
def faultItem (event : Event) : Except Raised (Key × Json × Event) := do
  return (← hashed (item event "fault"), item event "fault", event)

/-- The check of one item of `scheduled`. -/
def checkFault (faultEvents : KeyDict Event) (recovered : List Key) (fault : Key × Json × Json) : Except Raised Unit := do
  let name := (fault.2.1.text).getD ""
  let missed := "fault " ++ name ++ " was not executed at its scheduled offset"
  match faultEvents.get fault.1 with
  | none => .error (.deploymentError missed)
  | some event =>
    refuseIf (!has event "scheduledAtSecond" fault.2.2) missed
    refuseIf (!recovered.contains fault.1) ("fault " ++ name ++ " has no recovery assertion")

/-- The fault events that were found. -/
def checkFaults (manifest : Dict) (body : List Event) : Except Raised (KeyDict Event) := do
  let scheduled ← (scheduledFaults manifest).mapM scheduledItem
  let faultEvents ← (body.filter (isKind "fault")).mapM faultItem
  let recovered ← (body.filter (isKind "recovered")).mapM fun event => hashed (item event "fault")
  let _ ← (KeyDict.ofItems scheduled).mapM (checkFault (KeyDict.ofItems faultEvents) recovered)
  return KeyDict.ofItems faultEvents

/-! ## Identifiers and charges -/

def checkDurableFields (body : List Event) : Except Raised Unit := do
  let _ ← ["roomId", "jobId", "nonceId", "txHash", "eventId", "cursor"].mapM fun field =>
    refuseIf (!body.any fun event =>
        match item event field with
        | .str s => s != ""
        | value => value.isInt)
      ("journal does not persist any " ++ field)

/-- The keys of a field, for the events that have it. -/
def keysOf (field : String) (events : List Event) : Except Raised (List Key) :=
  (events.filterMap (·.get field)).mapM hashed

def checkBroadcasts (body : List Event) : Except Raised Unit := do
  let broadcasts := body.filter (isKind "tx-broadcast")
  refuseIf (broadcasts.any fun event =>
      !has event "publisher" (.str "owner-durable-operation") || !isName (item event "operationId"))
    "transaction broadcast bypasses the owner durable-operation boundary"
  let nonces ← keysOf "nonceId" broadcasts
  refuseIf (!decide nonces.Nodup) "duplicate transaction nonce detected in journal"

/-- `sum(int(event.get(field, 0)) for event in ...)` -/
def total (field : String) (events : List Event) : Except Raised ℤ := do
  return (← events.mapM fun event => int (itemOr event field (.int 0))).sum

/-- The charge events. -/
def chargeEvents (body : List Event) : List Event := body.filter (isKind "charge")

/-- The usage and the wei of the charges. -/
def checkCharges (manifest : Dict) (body : List Event) : Except Raised (ℤ × ℤ) := do
  let charges ← keysOf "chargeId" (chargeEvents body)
  refuseIf (charges.isEmpty || !decide charges.Nodup) "missing or duplicate charge ID detected in journal"
  let usage ← total "usageUnits" (chargeEvents body)
  let chargeWei ← total "chargeWei" (chargeEvents body)
  let expected := match item manifest "expected" with
    | .obj expected => expected
    | _ => []
  let usageUnits ← required expected "usageUnits"
  let chargesWei ← if (Json.int usage).eq usageUnits then int (← required expected "chargesWei") else .ok 0
  refuseIf (!(Json.int usage).eq usageUnits || chargeWei ≠ chargesWei) "observed usage/charges do not match the manifest"
  return (usage, chargeWei)

/-! ## Sealed outputs -/

/-- One turn of the loop over the events. -/
def sealOutput (seals : List (String × Json)) (event : Event) : Except Raised (List (String × Json)) :=
  match item event "outputId", item event "sealedOutputSha256" with
  | .null, .null => .ok seals
  | .str outputId, digest => do
    refuseIf (!fullmatch isSha256 digest) "sealed output events require outputId and SHA-256"
    match seals.lookup outputId with
    | none => return seals ++ [(outputId, digest)]
    | some previous =>
      refuseIf (!previous.eq digest) ("sealed output changed after restart: " ++ outputId)
      return seals
  | _, _ => .error (.deploymentError "sealed output events require outputId and SHA-256")

def checkSeals (body : List Event) : Except Raised (List (String × Json)) := do
  let seals ← body.foldlM sealOutput []
  refuseIf (seals.isEmpty || !body.any fun event => isKind "finalize" event &&
      match item event "outputId" with
      | .str outputId => (seals.lookup outputId).isSome
      | _ => false)
    "no finalized sealed output was re-verified"
  return seals

/-! ## The closure -/

/-- `sorted(faultEvents)`: the required kinds are texts, and nothing else can be compared with them. -/
def sortedNames (faultEvents : KeyDict Event) : Except Raised (List String) := do
  let names ← faultEvents.mapM fun e => match e.1 with
    | .str name => .ok name
    | _ => .error Raised.typeError
  return names.insertionSort (· ≤ ·)

/-- The checks of the events before the closure. -/
def verifyBody (manifest : Dict) (body : List Event) : Except Raised (KeyDict Event × (ℤ × ℤ) × List (String × Json)) := do
  checkLifecycle body
  checkProofs body
  checkAggregate body
  checkSponsor body
  checkRecovery body
  let faultEvents ← checkFaults manifest body
  checkDurableFields body
  checkBroadcasts body
  let totals ← checkCharges manifest body
  let seals ← checkSeals body
  return (faultEvents, totals, seals)

end Zkdeal.Soak
