import Zkdeal.Soak.Verifier

/-!
# The faults of an accepted soak

`verify_closure` looks at the last entry of each fault kind and at the last fault event of it, and does not
look at the order of events (`covers_iff`).
-/

namespace Zkdeal.Soak

open Python Json

variable {manifest : Dict} {body : List Event}

/-- A fault event of the entry: its kind, at its offset. -/
structure IsFault (entry : Dict) (event : Event) : Prop where
  kind : isKind "fault" event = true
  fault : item event "fault" = item entry "kind"
  offset : has event "scheduledAtSecond" (item entry "atSecond") = true

/-- A recovered event of the kind of the entry. -/
structure IsRecovery (entry : Dict) (event : Event) : Prop where
  kind : isKind "recovered" event = true
  fault : item event "fault" = item entry "kind"

/-- The journal has a fault event of the entry, and later a recovered event. -/
def Covered (body : List Event) (entry : Dict) : Prop :=
  ∃ pre event post, body = pre ++ event :: post ∧ IsFault entry event ∧ ∃ later ∈ post, IsRecovery entry later

instance (entry : Dict) (event : Event) : Decidable (IsFault entry event) :=
  decidable_of_iff (isKind "fault" event = true ∧ item event "fault" = item entry "kind" ∧
      has event "scheduledAtSecond" (item entry "atSecond") = true)
    ⟨fun ⟨kind, fault, offset⟩ => ⟨kind, fault, offset⟩, fun h => ⟨h.kind, h.fault, h.offset⟩⟩

instance (entry : Dict) (event : Event) : Decidable (IsRecovery entry event) :=
  decidable_of_iff (isKind "recovered" event = true ∧ item event "fault" = item entry "kind")
    ⟨fun ⟨kind, fault⟩ => ⟨kind, fault⟩, fun h => ⟨h.kind, h.fault⟩⟩

theorem not_covered_nil (entry : Dict) : ¬Covered [] entry := by
  rintro ⟨pre, event, post, split, -⟩
  simp at split

theorem covered_cons {event : Event} {entry : Dict} : Covered (event :: body) entry ↔
    (IsFault entry event ∧ ∃ later ∈ body, IsRecovery entry later) ∨ Covered body entry := by
  constructor
  · rintro ⟨pre, e, post, split, h⟩
    cases pre with
    | nil =>
      obtain ⟨rfl, rfl⟩ := List.cons.inj split
      exact .inl h
    | cons d pre =>
      obtain ⟨rfl, rfl⟩ := List.cons.inj split
      exact .inr ⟨pre, e, post, rfl, h⟩
  · rintro (h | ⟨pre, e, post, rfl, h⟩)
    · exact ⟨[], event, body, rfl, h⟩
    · exact ⟨event :: pre, e, post, rfl, h⟩

instance decidableCovered (entry : Dict) : (body : List Event) → Decidable (Covered body entry)
  | [] => .isFalse (not_covered_nil entry)
  | _ :: body =>
    have := decidableCovered entry body
    decidable_of_iff _ covered_cons.symm

theorem number_of_intOf {v : Json} {n : ℤ} (h : intOf v = some n) : v.number = some (n : ℚ) := by
  cases v with
  | int m =>
    cases h
    rfl
  | bool b =>
    cases h
    cases b <;> rfl
  | _ => cases h

/-- An integer equals the numbers with its value. -/
theorem eq_intOf {v w : Json} {n : ℤ} (h : intOf w = some n) : v.eq w = true ↔ v.number = some (n : ℚ) := by
  have compare : v.eq w = v.number.any fun p => w.number.any fun q => decide (p = q) := by
    cases w with
    | int m =>
      cases v with
      | float x =>
        simp only [Json.eq, number]
        cases exact x <;> rfl
      | _ => simp [Json.eq, number]
    | bool b =>
      cases v with
      | float x =>
        simp only [Json.eq, number]
        cases exact x <;> rfl
      | _ => simp [Json.eq, number]
    | _ => cases h
  rw [compare, number_of_intOf h]
  cases v.number <;> simp

/-- A fault event of one entry is one of every entry of the kind with the same offset. -/
theorem IsFault.of_eq {entry last : Dict} {event : Event} (h : IsFault last event)
    (kind : item last "kind" = item entry "kind") (int : ∃ n, intOf (item last "atSecond") = some n)
    (int' : ∃ n, intOf (item entry "atSecond") = some n)
    (same : (item last "atSecond").eq (item entry "atSecond") = true) : IsFault entry event := by
  obtain ⟨n, hn⟩ := int
  obtain ⟨m, hm⟩ := int'
  have hoffset := (eq_intOf hn).1 h.offset
  have hsame := (eq_intOf hm).1 same
  rw [number_of_intOf hn] at hsame
  exact ⟨h.kind, h.fault.trans kind, (eq_intOf hm).2 (hoffset.trans hsame)⟩

namespace Example

def digest : String := "aaaaaaaaaaaaaaaaaaaaaaaaaaaaaaaaaaaaaaaaaaaaaaaaaaaaaaaaaaaaaaaa"

/-- A manifest, with its scheduled faults. -/
def manifestWith (faults : List (String × ℤ)) : Dict := [
  ("schemaVersion", .int 1),
  ("kind", .str "zkdeal-release-soak"),
  ("durationSeconds", .int 43200),
  ("umbrellaSourceManifestSha256", .str digest),
  ("sourceBundleArchiveSha256", .str digest),
  ("sourceClosureSha256", .str digest),
  ("physicalScenario", .obj ([("settlementScenarioSha256", .str digest),
    ("deploymentAddressesSha256", .str digest), ("ownerDurableCapabilitiesSha256", .str digest),
    ("ownerAcceptanceToken", .str ("sha256:" ++ digest))] ++ exactScenario.map fun e => (e.1, e.2.1))),
  ("images", .obj (requiredImages.map fun name => (name, .str ("registry.invalid/zkdeal/" ++ name ++ "@sha256:" ++ digest)))),
  ("trustRoots", .obj (requiredTrustRoots.map fun name => (name, .str digest))),
  ("chainSeed", .obj [("chainId", .int 31337), ("genesisHash", .str ("0x" ++ digest)), ("seedSha256", .str digest),
    ("rpcEndpoints", .arr [.str "http://rpc-a:8545", .str "http://rpc-b:8545"])]),
  ("expected", .obj [("usageUnits", .int 7), ("chargesWei", .str "11")]),
  ("budgets", .obj [("maxUnresolvedSafetyEvents", .int 0), ("maxUnresolvedClaims", .int 0),
    ("maxDuplicateNonces", .int 0), ("maxDuplicateCharges", .int 0), ("maxFairnessWaitMs", .int 5000),
    ("maxDeadlineMisses", .int 0)]),
  ("scheduledFaults", .arr (faults.map fun (kind, second) => .obj [("kind", .str kind), ("atSecond", .int second)]))]

/-- The events of a soak but for its charges and faults. -/
def lifecycle : List Event := [
  [("kind", .str "room-create"), ("roomId", .str "room-1")],
  [("kind", .str "submit"), ("jobId", .str "job-1"), ("eventId", .str "event-1"), ("cursor", .int 1)],
  [("kind", .str "lease")],
  [("kind", .str "tx-broadcast"), ("nonceId", .str "signer:1"), ("txHash", .str "0xdd"), ("publisher", .str
    "owner-durable-operation"), ("operationId", .str "operation-aggregate")],
  [("kind", .str "live-prepare"), ("preparedFrom", .str "live-room-engine-state"), ("batchInput", .str
    "BatchInputV5"), ("fixture", .bool false)],
  [("kind", .str "prove"), ("outputId", .str "proof-1"), ("sealedOutputSha256", .str digest), ("realCuda", .bool
    true), ("proofMode", .str "groth16")],
  [("kind", .str "verify"), ("realReceipt", .bool true)],
  [("kind", .str "blob-archive")],
  [("kind", .str "aggregate-settle"), ("members", .int 8), ("transactionBlobs", .int 6), ("applied", .int 7),
    ("failed", .int 1), ("successfulCharges", .int 7), ("failedCharges", .int 0), ("publisher", .str
    "owner-durable-operation"), ("ownerOperationId", .str "operation-aggregate"), ("selector", .str
    "0x5e8b37ac"), ("transactionType", .int 3), ("finalizedCanonical", .bool true), ("castBroadcast", .bool
    false)],
  [("kind", .str "sponsor"), ("payer", .str "payer-1"), ("beneficiary", .str "beneficiary-1"),
    ("refundRecipient", .str "payer-1"), ("doubleBilled", .bool false), ("publisher", .str
    "owner-durable-operation"), ("senderAuthoritySplit", .bool true), ("ownerOperations", .obj [("reserve", .str
    "operation-reserve"), ("renew", .str "operation-renew"), ("checkpoint", .str "operation-checkpoint"),
    ("dispose", .str "operation-dispose")]), ("selectors", sponsorSelectors), ("finalizedCanonical", .bool
    true)],
  [("kind", .str "reorg"), ("preFinalityOrphaned", .bool true), ("canonicalRecovery", .bool true),
    ("duplicateNonce", .bool false), ("duplicateCharge", .bool false)],
  [("kind", .str "finalize"), ("outputId", .str "proof-1"), ("sealedOutputSha256", .str digest)],
  [("kind", .str "withdraw"), ("realProof", .bool true), ("claimed", .bool true), ("replayRejected", .bool
    true), ("publisher", .str "owner-durable-operation"), ("ownerOperationId", .str "operation-withdrawal"),
    ("selector", .str "0xb051a9f8"), ("finalizedCanonical", .bool true)],
  [("kind", .str "reconcile")]]

def charge : Event := [("kind", .str "charge"), ("chargeId", .str "charge-1"), ("usageUnits", .int 7), ("chargeWei", .str "11")]

def fault (kind : String) (second : ℤ) : Event :=
  [("kind", .str "fault"), ("fault", .str kind), ("scheduledAtSecond", .int second)]

def recovered (kind : String) : Event := [("kind", .str "recovered"), ("fault", .str kind)]

/-- Number events from one. -/
def number (events : List Event) : List Event := events.zipIdx.map fun (event, i) => ("seq", .int (i + 1 : ℕ)) :: event

def closure (n : ℕ) (manifestHash priorHash : String) : Event := [
  ("seq", .int n),
  ("kind", .str "closure"),
  ("manifestSha256", .str manifestHash),
  ("priorEventsSha256", .str priorHash),
  ("durationSeconds", .int 43200),
  ("sealedOutputsUnchanged", .bool true),
  ("resumeVerified", .bool true),
  ("unresolvedSafetyEvents", .int 0),
  ("unresolvedClaims", .int 0),
  ("duplicateNonces", .int 0),
  ("duplicateCharges", .int 0),
  ("fairnessBudgetMet", .bool true),
  ("deadlineBudgetMet", .bool true)]

/-- Every required fault, after 100 seconds. -/
def plan : List (String × ℤ) := requiredFaults.map fun kind => (kind, 100)

def manifestFile : Bytes := encodeChars (eventLine (manifestWith plan))

/-- The events of a soak, with its charges and faults. -/
def bodyWith (rest : List Event) : List Event := number (lifecycle ++ rest)

/-- The checks of the events with these charges and faults. -/
def passes (rest : List Event) : Bool :=
  (bodyWith rest).all (fun e => decide (Writable e)) && plain (.int ((bodyWith rest).length + 1 : ℕ)) &&
    match verifyBody (reread (manifestWith plan)) ((bodyWith rest).map reread) with
    | .ok r => (sortedNames r.1).isOk
    | .error _ => false

/-- Every fault is executed, then recovered. -/
def ordered : List Event := charge :: plan.flatMap fun (kind, second) => [fault kind second, recovered kind]

/-- Every fault is recovered, then executed. -/
def reversed : List Event := charge :: plan.flatMap fun (kind, second) => [recovered kind, fault kind second]

end Example

end Zkdeal.Soak
