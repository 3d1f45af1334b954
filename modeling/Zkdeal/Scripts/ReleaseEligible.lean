import Zkdeal.Python.JsonSize
import Zkdeal.Scripts.Receipts

/-!
# Release eligibility

A receipt of a live run stands for inspected workloads and a streaming pair.  The launcher accepts every
receipt that fits its arguments, also one of a run that inspected nothing.
-/

namespace Zkdeal.Scripts

open Interaction Raising Python Json Python.Sha256
open BackupRestore (item follow)

/-! ## What an inspection has seen -/

/-- A command that ended well, with its output. -/
def Printed (tr : Trace Op Answer) (argv : List String) (stdout : String) : Prop :=
  ∃ stderr, (⟨.command argv, .exited 0 stdout stderr⟩ : Event Op Answer) ∈ tr

/-- A command that ended well, with the object that it printed. -/
def PrintedObject (tr : Trace Op Answer) (argv : List String) (value : Dict) : Prop :=
  ∃ stdout, Printed tr argv stdout ∧ loads stdout = some (.obj value)

/-- A workload that was inspected. -/
inductive Inspected (network : String) (workload : Json) (tr : Trace Op Answer) : Prop where
  | docker {container image : Dict} (kind : (follow workload ["kind"]).eqStr "docker" = true)
      (seen : PrintedObject tr (containerInspect (identityOf workload)) container)
      (good : checkContainer workload network container = .ok ())
      (seen' : PrintedObject tr (imageInspect (strOf (follow workload ["imageRef"]))) image)
      (good' : checkImage workload image = .ok ())
  | kubernetes {namespace_ pod container : String} {value : Dict} {image : Json}
      (kind : (follow workload ["kind"]).eqStr "kubernetes" = true)
      (parts : kubernetesParts (identityOf workload) = .ok (namespace_, pod, container))
      (seen : PrintedObject tr (podInspect namespace_ pod) value) (good : checkPod workload container value = .ok image)
  | external (kind : isInspected workload = false)

/-- A primary that serves a streaming standby, and the standby that replays from it. -/
structure StreamingPair (database workloads : Dict) (platform : String) (tr : Trace Op Answer) : Prop where
  pair : ∃ primary standby commands, workloadAt workloads (item database "primaryWorkload") = .ok primary ∧
    workloadAt workloads (item database "standbyWorkload") = .ok standby ∧
    replicationCommands platform (identityOf primary) (identityOf standby) = .ok commands ∧
    (∃ output, Printed tr commands.primaryRecovery output ∧ checkPrimaryRecovery (identityOf primary) output = .ok ()) ∧
    (∃ output rows, Printed tr commands.primaryReplication output ∧
      checkPrimaryReplication (identityOf primary) output = .ok rows) ∧
    (∃ output, Printed tr commands.standbyRecovery output ∧ checkStandbyRecovery (identityOf standby) output = .ok ()) ∧
    ∃ output row, Printed tr commands.standbyWalReceiver output ∧
      checkStandbyReceiver (identityOf standby) (strOf (item database "targetLsn")) output = .ok row

/-- The workloads of a topology were inspected, and its database is a streaming pair. -/
structure LiveInspected (topology : Dict) (tr : Trace Op Answer) : Prop where
  workloads : ∀ kv ∈ sectionOf topology "workloads",
    Inspected (strOf (follow (item topology "bridge") ["networkIdentity"])) kv.2 tr
  replication : StreamingPair (sectionOf topology "databaseHa") (sectionOf topology "workloads")
    (strOf (item topology "platform")) tr

theorem Printed.mono {tr tr' : Trace Op Answer} {argv : List String} {stdout : String} (h : Printed tr argv stdout)
    (pre : tr <+: tr') : Printed tr' argv stdout := by
  obtain ⟨stderr, mem⟩ := h
  exact ⟨stderr, pre.subset mem⟩

theorem PrintedObject.mono {tr tr' : Trace Op Answer} {argv : List String} {value : Dict}
    (h : PrintedObject tr argv value) (pre : tr <+: tr') : PrintedObject tr' argv value := by
  obtain ⟨stdout, printed_, parsed⟩ := h
  exact ⟨stdout, printed_.mono pre, parsed⟩

theorem Inspected.mono {network : String} {workload : Json} {tr tr' : Trace Op Answer}
    (h : Inspected network workload tr) (pre : tr <+: tr') : Inspected network workload tr' := by
  cases h with
  | docker kind seen good seen' good' => exact .docker kind (seen.mono pre) good (seen'.mono pre) good'
  | kubernetes kind parts seen good => exact .kubernetes kind parts (seen.mono pre) good
  | external kind => exact .external kind

/-! ## Live runs -/

variable {tr : Trace Op Answer}

theorem ensures_runJson {argv : List String} {label : String} {Q : Dict → Trace Op Answer → Prop}
    (h : ∀ value tr', tr <+: tr' → PrintedObject tr' argv value → Q value tr') :
    Ensures (fun _ _ => True) (runJson argv label) Q tr := by
  refine ensures_attempt trivial fun r value hr => h value _ (List.prefix_append ..) ?_
  cases r with
  | raised => cases hr
  | exited returncode stdout stderr =>
    obtain ⟨_, zero, parsed⟩ := bind_eq_ok.1 hr
    obtain rfl := not_not.1 (raiseIf_eq_ok.1 zero)
    split at parsed
    · cases parsed
    · rename_i hloads
      unfold asObject at parsed
      split at parsed
      · obtain rfl := Except.ok.inj parsed
        exact ⟨stdout, ⟨stderr, by simp⟩, hloads⟩
      · cases parsed

theorem ensures_runWorkloadCommand {argv : List String} {label : String} {Q : String → Trace Op Answer → Prop}
    (h : ∀ output tr', tr <+: tr' → Printed tr' argv output → Q output tr') :
    Ensures (fun _ _ => True) (runWorkloadCommand argv label) Q tr := by
  refine ensures_attempt trivial fun r output hr => h output _ (List.prefix_append ..) ?_
  cases r with
  | raised => cases hr
  | exited returncode stdout stderr =>
    obtain ⟨_, zero, same⟩ := bind_eq_ok.1 hr
    obtain rfl := not_not.1 (raiseIf_eq_ok.1 zero)
    obtain rfl := Except.ok.inj same
    exact ⟨stderr, by simp⟩

theorem ensures_liftExcept {α : Type} {x : Except Raised α} {Q : α → Trace Op Answer → Prop}
    (h : ∀ a, x = .ok a → Q a tr) : Ensures (fun _ _ => True) (liftExcept x : Exec α) Q tr := by
  refine meets_liftExcept_iff.2 ?_
  cases x with
  | ok a => exact h a rfl
  | error e => trivial

theorem inspectDocker_ensures {network : String} {workload : Json}
    (kind : (follow workload ["kind"]).eqStr "docker" = true) :
    Ensures (fun _ _ => True) (inspectDocker workload network) (fun _ tr' => Inspected network workload tr') tr := by
  unfold inspectDocker
  refine ensures_bind_iff.2 (ensures_liftExcept fun _ _ => ?_)
  refine ensures_bind_iff.2 (ensures_runJson fun container tr₁ _ seen => ?_)
  refine ensures_bind_iff.2 (ensures_liftExcept fun _ good => ?_)
  refine ensures_bind_iff.2 (ensures_runJson fun image tr₂ later seen' => ?_)
  refine ensures_bind_iff.2 (ensures_liftExcept fun _ good' => ?_)
  exact Inspected.docker kind (seen.mono later) good seen' good'

theorem inspectKubernetes_ensures {network : String} {workload : Json}
    (kind : (follow workload ["kind"]).eqStr "kubernetes" = true) :
    Ensures (fun _ _ => True) (inspectKubernetes workload) (fun _ tr' => Inspected network workload tr') tr := by
  unfold inspectKubernetes
  refine ensures_bind_iff.2 (ensures_liftExcept fun parts hparts => ?_)
  obtain ⟨namespace_, pod, container⟩ := parts
  refine ensures_bind_iff.2 (ensures_runJson fun value tr₁ _ seen => ?_)
  refine ensures_bind_iff.2 (ensures_liftExcept fun image good => ?_)
  exact Inspected.kubernetes kind hparts seen good

theorem inspectWorkload_ensures (network : String) (workload : Json) :
    Ensures (fun _ _ => True) (inspectWorkload network workload)
      (fun _ tr' => Inspected network workload tr') tr := by
  unfold inspectWorkload
  by_cases docker : (follow workload ["kind"]).eqStr "docker" = true
  · rw [if_pos docker]
    exact inspectDocker_ensures docker
  · rw [if_neg docker]
    by_cases kubernetes : (follow workload ["kind"]).eqStr "kubernetes" = true
    · rw [if_pos kubernetes]
      exact inspectKubernetes_ensures kubernetes
    · rw [if_neg kubernetes]
      refine Inspected.external ?_
      rw [Bool.not_eq_true] at docker kubernetes
      rw [isInspected, docker, kubernetes]
      rfl

/-- Every workload is inspected, in the order of their names. -/
theorem inspectWorkloads_ensures (network : String) (workloads : List (String × Json)) :
    Ensures (fun _ _ => True) (inspectWorkloads network workloads)
      (fun _ tr' => ∀ kv ∈ workloads, Inspected network kv.2 tr') tr := by
  induction workloads generalizing tr with
  | nil => exact nofun
  | cons kv workloads ih =>
    obtain ⟨name, workload⟩ := kv
    unfold inspectWorkloads
    refine ensures_bind_iff.2 ((inspectWorkload_ensures network workload).mono fun _ tr₁ first => ?_)
    refine ensures_bind_iff.2 (ih.grows.mono fun _ tr₂ rest => ?_)
    exact List.forall_mem_cons.2 ⟨first.mono rest.1, rest.2⟩

theorem inspectReplication_ensures {database workloads : Dict} {pair : DatabasePair} {platform : String}
    (hprimary : workloadAt workloads (item database "primaryWorkload") = .ok pair.primary)
    (hstandby : workloadAt workloads (item database "standbyWorkload") = .ok pair.standby) :
    Ensures (fun _ _ => True) (inspectReplication database pair platform)
      (fun _ tr' => StreamingPair database workloads platform tr') tr := by
  unfold inspectReplication
  refine ensures_bind_iff.2 (ensures_liftExcept fun commands hcommands => ?_)
  refine ensures_bind_iff.2 (ensures_perform trivial fun _ => ?_)
  refine ensures_bind_iff.2 (ensures_runWorkloadCommand fun recovery tr₁ _ seen₁ => ?_)
  refine ensures_bind_iff.2 ?_
  refine ensures_liftExcept fun _ good₁ => ?_
  refine ensures_bind_iff.2 (ensures_runWorkloadCommand fun replication tr₂ later₂ seen₂ => ?_)
  refine ensures_bind_iff.2 (ensures_liftExcept fun rows good₂ => ?_)
  refine ensures_bind_iff.2 (ensures_perform trivial fun r => ?_)
  refine ensures_bind_iff.2 (ensures_runWorkloadCommand fun standby tr₃ later₃ seen₃ => ?_)
  refine ensures_bind_iff.2 ?_
  refine ensures_liftExcept fun _ good₃ => ?_
  refine ensures_bind_iff.2 (ensures_runWorkloadCommand fun receiver tr₄ later₄ seen₄ => ?_)
  refine ensures_bind_iff.2 (ensures_liftExcept fun row good₄ => ?_)
  have last₂ : tr₂ <+: tr₄ := ((List.prefix_append ..).trans later₃).trans later₄
  exact ⟨⟨pair.primary, pair.standby, commands, hprimary, hstandby, hcommands,
    ⟨recovery, seen₁.mono (later₂.trans last₂), good₁⟩, ⟨replication, rows, seen₂.mono last₂, good₂⟩,
    ⟨standby, seen₃.mono later₄, good₃⟩, receiver, row, seen₄, good₄⟩⟩

theorem pair_of_checkDatabase {database workloads images : Dict} {kind : String} {pair : DatabasePair}
    (h : checkDatabase database workloads images kind = .ok pair) :
    workloadAt workloads (item database "primaryWorkload") = .ok pair.primary ∧
      workloadAt workloads (item database "standbyWorkload") = .ok pair.standby := by
  unfold checkDatabase at h
  obtain ⟨target, -, h⟩ := bind_eq_ok.1 h
  obtain ⟨replay, -, h⟩ := bind_eq_ok.1 h
  obtain ⟨_, -, h⟩ := bind_eq_ok.1 h
  obtain ⟨primary, hprimary, h⟩ := bind_eq_ok.1 h
  obtain ⟨standby, hstandby, h⟩ := bind_eq_ok.1 h
  obtain ⟨_, -, h⟩ := bind_eq_ok.1 h
  obtain ⟨_, -, h⟩ := bind_eq_ok.1 h
  obtain rfl := Except.ok.inj h
  exact ⟨hprimary, hstandby⟩

theorem pair_of_checkTopology {w : Surroundings} {candidate topology : Dict} {candidateSha256 : String} {c : Checked}
    (h : checkTopology w candidate topology candidateSha256 = .ok c) :
    workloadAt (sectionOf topology "workloads") (item (sectionOf topology "databaseHa") "primaryWorkload") =
        .ok c.database.primary ∧
      workloadAt (sectionOf topology "workloads") (item (sectionOf topology "databaseHa") "standbyWorkload") =
        .ok c.database.standby := by
  unfold checkTopology at h
  obtain ⟨_, -, h⟩ := bind_eq_ok.1 h
  obtain ⟨_, -, h⟩ := bind_eq_ok.1 h
  obtain ⟨images, -, h⟩ := bind_eq_ok.1 h
  obtain ⟨capabilities, -, h⟩ := bind_eq_ok.1 h
  obtain ⟨normalized, -, h⟩ := bind_eq_ok.1 h
  obtain ⟨_, -, h⟩ := bind_eq_ok.1 h
  obtain ⟨urls, -, h⟩ := bind_eq_ok.1 h
  obtain ⟨database, hdatabase, h⟩ := bind_eq_ok.1 h
  obtain rfl := Except.ok.inj h
  exact pair_of_checkDatabase hdatabase

/-- What a run that returned a receipt has done. -/
structure Validated (w : Surroundings) (candidateFile topologyFile : Option Bytes) (inspectLive : Bool)
    (candidate topology document : Dict) (tr : Trace Op Answer) : Prop where
  receipt : ∃ c workloads replication,
    checkTopology w candidate topology (sha256 (candidateFile.getD [])) = .ok c ∧
      document = receipt candidate topology (sha256 (candidateFile.getD [])) (sha256 (topologyFile.getD [])) c workloads
        replication
  live : inspectLive = true → LiveInspected topology tr
  static : inspectLive = false → tr = []

theorem validate_ensures {w : Surroundings} {candidateFile topologyFile : Option Bytes} (inspectLive : Bool)
    {candidate topology : Dict} (hcandidate : strictJson candidateFile "candidate descriptor" = .ok candidate)
    (htopology : strictJson topologyFile "candidate topology" = .ok topology) :
    Ensures (fun _ _ => True) (validate w candidateFile topologyFile inspectLive)
      (fun document tr => Validated w candidateFile topologyFile inspectLive candidate topology document tr) [] := by
  unfold validate
  rw [hcandidate, htopology]
  refine ensures_bind_iff.2 (ensures_liftExcept fun _ same => ?_)
  obtain rfl := Except.ok.inj same
  refine ensures_bind_iff.2 (ensures_liftExcept fun _ same => ?_)
  obtain rfl := Except.ok.inj same
  refine ensures_bind_iff.2 (ensures_liftExcept fun c hc => ?_)
  obtain ⟨hprimary, hstandby⟩ := pair_of_checkTopology hc
  cases inspectLive with
  | false => exact ⟨⟨c, _, none, hc, rfl⟩, nofun, fun _ => rfl⟩
  | true =>
    refine ensures_bind_iff.2 ((inspectWorkloads_ensures _ _).mono fun inspections tr₁ inspected => ?_)
    refine ensures_bind_iff.2 ((inspectReplication_ensures hprimary hstandby).grows.mono fun replication tr₂ h => ?_)
    obtain ⟨later, streaming⟩ := h
    refine ensures_bind_iff.2 (ensures_raiseIf fun _ => ?_)
    refine ⟨⟨c, inspections, some replication, hc, rfl⟩, fun _ => ⟨fun kv hkv => ?_, streaming⟩, nofun⟩
    exact (inspected kv ((List.mem_insertionSort _).2 hkv)).mono later

theorem not_liveInspected_nil (topology : Dict) : ¬LiveInspected topology [] := by
  intro h
  obtain ⟨primary, standby, commands, -, -, -, ⟨output, ⟨stderr, never⟩, -⟩, -⟩ := h.replication.pair
  exact absurd never List.not_mem_nil

/-- The acceptance of a receipt shows a live inspection exactly if the run inspected, or the receipt does not fit. -/
theorem live_inspection_iff {w : Surroundings} {candidateFile topologyFile : Option Bytes} {inspectLive : Bool}
    {candidate topology document payload : Dict} {tr : Trace Op Answer} {inputs : String → InputFile} {raw : Bytes}
    {candidateId hostedToken : String} (hcandidate : strictJson candidateFile "candidate descriptor" = .ok candidate)
    (htopology : strictJson topologyFile "candidate topology" = .ok topology)
    (run : (validate w candidateFile topologyFile inspectLive).run.Runs tr (.returned (.ok document)))
    (given : Presents inputs payload raw document) :
    ((∃ v, loadTopologyVerification inputs payload candidateId hostedToken = .ok v) → LiveInspected topology tr) ↔
      inspectLive = true ∨
        ¬(Fits candidate topology candidateId hostedToken ∧ raw.length ≤ maxVerificationBytes) := by
  have validated := (validate_ensures inspectLive hcandidate htopology).returned run
  obtain ⟨c, workloads, replication, hc, rfl⟩ := validated.receipt
  have described := describes_receipt candidate topology (sha256 (candidateFile.getD []))
    (sha256 (topologyFile.getD [])) c workloads replication
  rw [load_iff given, verification_iff hc described]
  constructor
  · intro live
    cases inspectLive with
    | true => exact .inl rfl
    | false =>
      refine .inr fun fits => not_liveInspected_nil topology ?_
      have seen := live ⟨fits.2, fits.1⟩
      rwa [validated.static rfl] at seen
  · rintro (rfl | unfit) accepted
    · exact validated.live rfl
    · exact absurd ⟨accepted.2, accepted.1⟩ unfit

/-! ## A static receipt -/

/-- A file that was printed with sorted keys. -/
def fileOf (d : Dict) : Bytes := encodeUtf8 (dumps true (.obj d))

theorem strictJson_fileOf {d : Dict} (h : plain (.obj d) = true) (label : String) :
    strictJson (some (fileOf d)) label = .ok (printed d) := by
  have text := loads_dumps true h
  rw [strictJson, fileOf, decodeUtf8_encodeUtf8]
  dsimp only
  rw [text]
  rfl

theorem strictDocument_fileOf {d : Dict} (h : plain (.obj d) = true) (label : String) :
    strictDocument (fileOf d) label = .ok (printed d) := by
  have text := strictLoads_dumps_append true h "" stops_nil rfl
  rw [String.append_empty] at text
  rw [strictDocument, fileOf, decodeUtf8_encodeUtf8]
  dsimp only
  rw [text]
  rfl

theorem liftExcept_ok_bind {α β : Type} (a : α) (f : α → Exec β) :
    (liftExcept (.ok a : Except Raised α) : Exec α) >>= f = f a := rfl

/-- The receipt of a run that inspects nothing. -/
theorem validate_static {w : Surroundings} {candidateFile topologyFile : Option Bytes} {candidate topology : Dict}
    {c : Checked} (hcandidate : strictJson candidateFile "candidate descriptor" = .ok candidate)
    (htopology : strictJson topologyFile "candidate topology" = .ok topology)
    (hc : checkTopology w candidate topology (sha256 (candidateFile.getD [])) = .ok c) :
    (validate w candidateFile topologyFile false).run.Runs [] (.returned (.ok
      (receipt candidate topology (sha256 (candidateFile.getD [])) (sha256 (topologyFile.getD [])) c
        ((sectionOf topology "workloads").map fun entry =>
          (entry.1, .obj [("kind", follow entry.2 ["kind"]), ("identity", follow entry.2 ["identity"])])) none))) := by
  unfold validate
  rw [hcandidate, liftExcept_ok_bind, htopology, liftExcept_ok_bind]
  dsimp only
  rw [hc, liftExcept_ok_bind]
  exact Prog.Runs.returned _

namespace StaticOnly

/-- 64 times the same digit -/
def digits (c : Char) : String := .ofList (List.replicate 64 c)

/-- The repository of an image. -/
def repository (key : String) : List Char := "registry/".toList ++ lower key.toList

/-- An image of the candidate. -/
def image (key : String) : String :=
  .ofList (repository key ++ '@' :: ("sha256:".toList ++ List.replicate 64 '1'))

def token : String := "sha256:" ++ digits '2'

def imageKeys : List String :=
  ["coordinator", "faultController", "backupRestoreController", "failoverProvider", "prover", "loki", "postgres",
    "headlessNode", "frontDoor"]

def candidate : Dict :=
  [("candidateId", .str "candidate-topology-001"),
    ("ownerBroadSeal", .obj [("hostedIntegrationAcceptanceToken", .str token)]),
    ("images", .obj (imageKeys.map fun key => (key, .str (image key))))]

/-- The capability file of one service. -/
def capability (service protocol authRole : String) (source : Char) : Dict :=
  [("schemaVersion", .int 1), ("service", .str service), ("protocol", .str protocol), ("productionReady", .bool true),
    ("authRole", .str authRole), ("sourceSha256", .str (digits source)), ("imageSourceLabelSha256", .str (digits source)),
    ("openapiSha256", .str (digits '5')), ("candidateBindingRequired", .bool true),
    ("arbitraryTargetsAccepted", .bool false)]

def faultCapability : Dict := capability "zkdeal-fault-control-adapter" "fault-control-v1" "fault_control" '3'

def backupCapability : Dict :=
  capability "zkdeal-backup-restore-control-adapter" "backup-restore-control-v1" "backup_restore" '4'

/-- The binding of a capability file. -/
def binding (path : String) (raw : Bytes) (source : Char) (imageKey : String) : Json :=
  .obj [("path", .str path), ("sha256", .str (sha256 raw)), ("sourceSha256", .str (digits source)),
    ("image", .str (image imageKey))]

def bindings : Dict :=
  [("faultControl", binding "faultControl.json" (fileOf faultCapability) '3' "faultController"),
    ("backupRestore", binding "backupRestore.json" (fileOf backupCapability) '4' "backupRestoreController")]

/-- A workload that runs an image of the candidate. -/
def running (entry : String × String) : String × Json :=
  (entry.1, .obj [("kind", .str "docker"), ("imageKey", .str entry.2), ("imageRef", .str (image entry.2)),
    ("runtimeId", .str ("sha256:" ++ digits '6')), ("identity", .str entry.1), ("ready", .bool true),
    ("private", .bool true), ("chainId", .null)])

/-- An L1 provider. -/
def provider (name : String) : String × Json :=
  (name, .obj [("kind", .str "external"), ("imageKey", .null), ("imageRef", .null), ("runtimeId", .null),
    ("identity", .str ("independent-" ++ name)), ("ready", .bool true), ("private", .bool true), ("chainId", .int 1)])

/-- The workloads, with the keys of their images. -/
def workloadImages : List (String × String) :=
  [("coordinator-active", "coordinator"), ("coordinator-standby", "coordinator"), ("indexer", "coordinator"),
    ("headless-node", "headlessNode"), ("active-witness-a", "frontDoor"), ("active-witness-b", "frontDoor"),
    ("fault-control", "faultController"), ("backup-restore-control", "backupRestoreController"),
    ("failover-provider", "failoverProvider"), ("prover", "prover"), ("logs", "loki"), ("postgres-primary", "postgres"),
    ("postgres-standby", "postgres")]

def workloads : Dict := workloadImages.map running ++ [provider "l1-rpc-a", provider "l1-rpc-b"]

/-- A URL with its workload. -/
def endpoint (url workload : String) : Json := .obj [("url", .str url), ("workload", .str workload)]

def endpoints : Dict :=
  [("coordinator", "a", "coordinator-active"), ("indexer", "b", "indexer"), ("queue", "a", "coordinator-active"),
    ("headless", "c", "headless-node"), ("l1_rpc_a", "d", "l1-rpc-a"), ("l1_rpc_b", "e", "l1-rpc-b"),
    ("fault", "f", "fault-control"), ("backup", "g", "backup-restore-control"), ("failover", "h", "failover-provider"),
    ("prover", "i", "prover"), ("logs", "j", "logs")].map fun e => (e.1, endpoint ("http://" ++ e.2.1 ++ ".svc") e.2.2)

def failoverControl : Dict :=
  [("activeCoordinatorId", .str "coordinator-active-001"), ("standbyCoordinatorId", .str "coordinator-standby-001"),
    ("activeWitnesses", .arr [endpoint "http://a.svc/hosting/v1/ready" "active-witness-a",
      endpoint "http://b.svc/hosting/v1/ready" "active-witness-b"]),
    ("standbyHealth", endpoint "http://s.svc/hosting/v1/health" "coordinator-standby"),
    ("promotionEndpoint", endpoint "http://s.svc/hosting/v1/admin/promote" "coordinator-standby"),
    ("failureThreshold", .int 3), ("maxRtoSeconds", .int 300), ("independentWitnesses", .bool true),
    ("scopedApprovalRequired", .bool true), ("standbySignerlessBeforeFence", .bool true)]

def topology : Dict :=
  [("schemaVersion", .int 1), ("candidateId", .str "candidate-topology-001"),
    ("candidateDescriptorSha256", .str (sha256 (fileOf candidate))), ("hostedIntegrationToken", .str token),
    ("ownerDatabaseSchema", .int 26), ("platform", .str "compose"),
    ("bridge", .obj [("mode", .str "docker-desktop-host-gateway"), ("networkIdentity", .str "candidate-private"),
      ("privateOnly", .bool true), ("lanExposed", .bool false), ("removeAfterRun", .bool true),
      ("candidateStackShared", .bool true)]),
    ("adapterCapabilities", .obj bindings),
    ("endpoints", .obj endpoints), ("workloads", .obj workloads),
    ("databaseHa", .obj [("primaryWorkload", .str "postgres-primary"), ("standbyWorkload", .str "postgres-standby"),
      ("independentInstances", .bool true), ("targetLsn", .str "0/100"), ("replayLsn", .str "0/101"),
      ("caughtUp", .bool true), ("formerPrimaryFenced", .bool true)]),
    ("failoverControl", .obj failoverControl)]

/-- The project has the two capability files. -/
def surroundings : Surroundings where
  projectFile path :=
    if path = "faultControl.json" then .regular (fileOf faultCapability)
    else if path = "backupRestore.json" then .regular (fileOf backupCapability)
    else .notRegular
  address _ := none

def images : Dict := sectionOf (printed candidate) "images"

def urls : FailoverUrls where
  witnesses := ["http://a.svc/hosting/v1/ready", "http://b.svc/hosting/v1/ready"]
  standbyHealth := "http://s.svc/hosting/v1/health"
  promotionEndpoint := "http://s.svc/hosting/v1/admin/promote"

/-- The URLs of the endpoints, in the order of their names. -/
def normalized : List (String × String) :=
  [("backup", "g"), ("coordinator", "a"), ("failover", "h"), ("fault", "f"), ("headless", "c"), ("indexer", "b"),
    ("l1_rpc_a", "d"), ("l1_rpc_b", "e"), ("logs", "j"), ("prover", "i"), ("queue", "a")].map
    fun e => (e.1, "http://" ++ e.2 ++ ".svc")

def database : DatabasePair where
  primary := canonical (item workloads "postgres-primary")
  standby := canonical (item workloads "postgres-standby")

/-- The entry of a capability in the receipt. -/
def checkedBinding (contract : Contract) (path : String) (raw : Bytes) (source : Char) : String × Json :=
  (contract.name, .obj [("path", .str path), ("sha256", .str (sha256 raw)), ("sourceSha256", .str (digits source)),
    ("image", .str (image contract.imageKey)), ("authRole", .str contract.authRole), ("protocol", .str contract.protocol)])

def faultContract : Contract :=
  ⟨"faultControl", "zkdeal-fault-control-adapter", "fault-control-v1", "fault_control", "faultController"⟩

def backupContract : Contract :=
  ⟨"backupRestore", "zkdeal-backup-restore-control-adapter", "backup-restore-control-v1", "backup_restore",
    "backupRestoreController"⟩

def checked : Checked where
  capabilities := [checkedBinding faultContract "faultControl.json" (fileOf faultCapability) '3',
    checkedBinding backupContract "backupRestore.json" (fileOf backupCapability) '4']
  normalized := normalized
  failover := urls
  database := database

/-- The receipt that `--static-only` writes. -/
def document : Dict :=
  receipt (printed candidate) (printed topology) (sha256 (fileOf candidate)) (sha256 (fileOf topology)) checked
    ((sectionOf (printed topology) "workloads").map fun entry =>
      (entry.1, .obj [("kind", follow entry.2 ["kind"]), ("identity", follow entry.2 ["identity"])])) none

/-- The arguments of the launcher name the receipt by its hash. -/
def payload : Dict :=
  [("topology_verification_file", .str "topology-verification.json"),
    ("topology_verification_sha256", .str (sha256 (fileOf document)))]

theorem between_digits {c : Char} (h : isLowerHex c = true) : between isLowerHex 64 64 (List.replicate 64 c) = true := by
  refine between_iff.2 ⟨fun d hd => ?_, ?_⟩
  · rw [List.eq_of_mem_replicate hd]
    exact h
  · rw [List.length_replicate]
    exact ⟨le_rfl, le_rfl⟩

theorem partition_image {key : String} (h : '@' ∉ repository key) :
    partition '@' (image key).toList = (repository key, some ("sha256:".toList ++ List.replicate 64 '1')) := by
  rw [image, String.toList_ofList]
  exact partition_at h _

/-- What the images have in common. -/
theorem images_spec :
    (∀ key ∈ imageKeys, '@' ∉ repository key ∧
      (repository key).all (fun c => isReferenceStart c || c == '/') = true ∧ (repository key).head? = some 'r' ∧
      splitChars '/' (repository key) = ["registry".toList, lower key.toList] ∧ ':' ∉ lower key.toList) ∧
    (∀ key ∈ imageKeys, item images key = .str (image key)) ∧ (∀ key ∈ requiredImages, key ∈ imageKeys) ∧
    (∀ entry ∈ workloadImages, entry.2 ∈ imageKeys) ∧
    ¬(String.ofList "registry".toList ∈ reservedRegistries ∨ endsWith "registry".toList ".invalid".toList = true ∨
      endsWith "registry".toList ".example".toList = true) := by
  decide

theorem validateReference_image {key : String} (hkey : key ∈ imageKeys) (label : String) :
    validateReference (.str (image key)) label = .ok (image key) := by
  obtain ⟨noAt, chars, start, segments, tagless⟩ := images_spec.1 key hkey
  have hpartition := partition_image noAt
  have reference : isReference (image key) = true := by
    cases hr : repository key with
    | nil =>
      rw [hr] at start
      cases start
    | cons c cs =>
      rw [hr] at chars hpartition start
      have seven : ("sha256:".toList ++ List.replicate 64 '1').take 7 = "sha256:".toList := List.take_left' (by decide)
      have rest : ("sha256:".toList ++ List.replicate 64 '1').drop 7 = List.replicate 64 '1' :=
        List.drop_left' (by decide)
      obtain rfl := Option.some.inj start
      simp only [List.all_cons, Bool.and_eq_true] at chars
      have more : cs.all (fun c => isReferenceStart c || ['.', '_', ':', '/', '-'].contains c) = true := by
        refine List.all_eq_true.2 fun c hc => ?_
        rcases Bool.or_eq_true _ _ ▸ List.all_eq_true.1 chars.2 c hc with letter | slash
        · simp [letter]
        · simp [beq_iff_eq.1 slash]
      rw [isReference, hpartition]
      dsimp only
      rw [more, seven, rest, between_digits (by decide)]
      decide
  unfold validateReference
  dsimp only
  rw [if_pos reference, hpartition]
  dsimp only
  rw [segments]
  exact bind_eq_ok.2 ⟨(), raiseIf_eq_ok.2 tagless, bind_eq_ok.2 ⟨(), raiseIf_eq_ok.2 images_spec.2.2.2.2, rfl⟩⟩

theorem item_images {key : String} (hkey : key ∈ imageKeys) : item images key = .str (image key) :=
  images_spec.2.1 key hkey

theorem checkImages_eq : checkImages (printed candidate) = .ok images := by
  have each : ∀ key ∈ requiredImages, ∃ s, validateReference (item images key) ("candidate images." ++ key) = .ok s := by
    intro key hkey
    have known := images_spec.2.2.1 key hkey
    refine ⟨image key, ?_⟩
    rw [item_images known]
    exact validateReference_image known _
  obtain ⟨_, all⟩ := exists_mapM_eq_ok each
  unfold checkImages
  exact bind_eq_ok.2 ⟨images, by rfl, bind_eq_ok.2 ⟨_, all, rfl⟩⟩

theorem isToken_digits {c : Char} (h : isLowerHex c = true) : BackupRestore.isToken ("sha256:" ++ digits c) = true := by
  have text : ("sha256:" ++ digits c).toList = "sha256:".toList ++ List.replicate 64 c := by
    have body : (digits c).toList = List.replicate 64 c := String.toList_ofList
    rw [String.toList_append, body]
  have seven : ("sha256:".toList ++ List.replicate 64 c).take 7 = "sha256:".toList := List.take_left' (by decide)
  have rest : ("sha256:".toList ++ List.replicate 64 c).drop 7 = List.replicate 64 c := List.drop_left' (by decide)
  rw [BackupRestore.isToken, text, seven, rest, between_digits h]
  decide

theorem valid_text {pattern : String → Bool} {s : String} (h : pattern s = true) :
    (Schema.text 0 none pattern).valid (.str s) = true := by
  simp [Schema.valid, h]

theorem valid_sha256 (raw : Bytes) :
    (Schema.text 0 none (Schema.searched BackupRestore.isSha256)).valid (.str (sha256 raw)) = true := by
  refine valid_text ?_
  rw [Schema.searched, BackupRestore.isSha256_sha256]
  rfl

theorem valid_digits {c : Char} (h : isLowerHex c = true) :
    (Schema.text 0 none (Schema.searched BackupRestore.isSha256)).valid (.str (digits c)) = true := by
  refine valid_text ?_
  rw [Schema.searched, BackupRestore.isSha256, digits, String.toList_ofList, between_digits h]
  rfl

/-- An object of a closed schema, from its items. -/
theorem valid_of_properties {required : List String} {properties : List (String × Schema)} {d : Dict}
    (keys : d.hasKeys required = true) (names : ∀ key ∈ required, (properties.lookup key).isSome = true)
    (h : ∀ p ∈ properties, p.2.valid (item d p.1) = true) :
    (Schema.object required properties none 0 none).valid (.obj d) = true := by
  have all : Schema.validProperties properties d = true := by
    clear names
    induction properties with
    | nil => rfl
    | cons p properties ih =>
      obtain ⟨first, rest⟩ := List.forall_mem_cons.1 h
      rw [Schema.validProperties, ih rest, Bool.and_true]
      rw [item] at first
      cases hget : d.get p.1 with
      | none => rfl
      | some v =>
        rw [hget] at first
        exact first
  obtain ⟨closed, present⟩ := Dict.hasKeys_iff.1 keys
  simp only [Schema.valid, all, Bool.and_eq_true, List.all_eq_true]
  exact ⟨⟨⟨⟨present, trivial⟩, fun kv hkv => names kv.1 (closed kv hkv)⟩, by simp⟩, rfl⟩

/-- The parts of the topology whose values have no hash. -/
theorem schema_spec :
    (∀ path ∈ ["faultControl.json", "backupRestore.json"],
      (Schema.text 0 none (Schema.searched isJsonPath)).valid (.str path) = true) ∧
    Dict.hasKeys (printed bindings) ["faultControl", "backupRestore"] = true ∧
    Dict.hasKeys (printed topology) topologyKeys = true ∧
    (∀ key ∈ topologyKeys, (topologyProperties.lookup key).isSome = true) ∧
    ∀ p ∈ topologyProperties, p.1 ≠ "candidateDescriptorSha256" → p.1 ≠ "adapterCapabilities" →
      p.2.valid (item (printed topology) p.1) = true := by
  decide

theorem valid_binding {path : String} {raw : Bytes} {source : Char} {imageKey : String} (hsource : isLowerHex source = true)
    (hpath : (Schema.text 0 none (Schema.searched isJsonPath)).valid (.str path) = true) (hkey : imageKey ∈ imageKeys) :
    capabilityBindingSchema.valid (canonical (binding path raw source imageKey)) = true := by
  obtain ⟨noAt, -, start, -⟩ := images_spec.1 imageKey hkey
  have hpinned : (Schema.text 0 none (Schema.searched isPinned)).valid (.str (image imageKey)) = true := by
    refine valid_text ?_
    have pinned : isPinned (image imageKey) = true := by
      rw [isPinned, partition_image noAt]
      dsimp only
      have digest : String.ofList ("sha256:".toList ++ List.replicate 64 '1') = "sha256:" ++ digits '1' := by
        rw [String.ofList_append, String.ofList_toList, digits]
      rw [digest, isToken_digits (by decide), Bool.and_true]
      cases hr : repository imageKey with
      | nil =>
        rw [hr] at start
        cases start
      | cons c cs => rfl
    rw [Schema.searched, pinned]
    rfl
  unfold capabilityBindingSchema binding
  rw [canonical_obj]
  refine valid_of_properties ?_ (by decide) ?_
  · rw [hasKeys_printed]
    rfl
  · simp only [List.forall_mem_cons, item_printed]
    exact ⟨hpath, valid_sha256 raw, valid_digits hsource, hpinned, nofun⟩

theorem valid_topology : topologySchema.valid (.obj (printed topology)) = true := by
  obtain ⟨paths, bindingKeys, keys, names, values⟩ := schema_spec
  have capabilities : (Schema.object ["faultControl", "backupRestore"]
      [("faultControl", capabilityBindingSchema), ("backupRestore", capabilityBindingSchema)] none 0 none).valid
      (.obj (printed bindings)) = true := by
    have fault : capabilityBindingSchema.valid (canonical (item bindings "faultControl")) = true :=
      valid_binding (by decide) (paths _ (by decide)) (by decide)
    have backup : capabilityBindingSchema.valid (canonical (item bindings "backupRestore")) = true :=
      valid_binding (by decide) (paths _ (by decide)) (by decide)
    refine valid_of_properties bindingKeys (by decide) ?_
    simp only [List.forall_mem_cons, item_printed]
    exact ⟨fault, backup, nofun⟩
  have value {key : String} {schema : Schema} (hp : (key, schema) ∈ topologyProperties)
      (h : key ≠ "candidateDescriptorSha256" ∧ key ≠ "adapterCapabilities") :
      schema.valid (item (printed topology) key) = true := values (key, schema) hp h.1 h.2
  refine valid_of_properties keys names ?_
  have all := fun key schema => @value key schema
  unfold topologyProperties at all ⊢
  simp only [List.forall_mem_cons]
  exact ⟨all _ _ (by simp) (by decide), all _ _ (by simp) (by decide), valid_sha256 _, all _ _ (by simp) (by decide),
    all _ _ (by simp) (by decide), all _ _ (by simp) (by decide), all _ _ (by simp) (by decide), capabilities,
    all _ _ (by simp) (by decide), all _ _ (by simp) (by decide), all _ _ (by simp) (by decide),
    all _ _ (by simp) (by decide), nofun⟩

theorem eq_str (s : String) : Json.eq (.str s) (.str s) = true := by simp [Json.eq]

theorem checkWorkload_running {entry : String × String} (h : entry.2 ∈ imageKeys) :
    checkWorkload images ((running entry).1, canonical (running entry).2) = .ok () := by
  have fields (key : String) (v : Json) (hv : follow (running entry).2 [key] = v) :
      follow (canonical (running entry).2) [key] = canonical v := by
    rw [← hv]
    exact item_printed _ key
  have bound : bindsImage images (canonical (running entry).2) = true := by
    have present : (Dict.get images entry.2).isSome = true := by
      have some_ := item_images h
      cases hget : Dict.get images entry.2 with
      | none =>
        rw [item, hget] at some_
        cases some_
      | some v => rfl
    have named : follow (canonical (running entry).2) ["imageKey"] = .str entry.2 := fields _ (.str entry.2) rfl
    have ref : follow (canonical (running entry).2) ["imageRef"] = .str (image entry.2) :=
      fields _ (.str (image entry.2)) rfl
    have runtime : follow (canonical (running entry).2) ["runtimeId"] = .str ("sha256:" ++ digits '6') :=
      fields _ (.str ("sha256:" ++ digits '6')) rfl
    rw [bindsImage, named, ref, runtime]
    dsimp only
    rw [item_images h, present, eq_str, strOf, isToken_digits (by decide)]
    rfl
  unfold checkWorkload
  rw [bound]
  have inspected : isInspected (canonical (running entry).2) = true := by
    rw [isInspected, fields "kind" _ rfl]
    rfl
  rw [if_pos inspected]
  rfl

theorem checkCapability_eq {contract : Contract} {path : String} {d : Dict} {source : Char}
    (hkey : contract.imageKey ∈ imageKeys)
    (bound : follow (canonical (.obj bindings)) [contract.name] = canonical (binding path (fileOf d) source contract.imageKey))
    (hpath : path ≠ "" ∧ ¬(path.toList.head? = some '/' ∨ ['.', '.'] ∈ splitChars '/' path.toList))
    (file : surroundings.projectFile path = .regular (fileOf d)) (hd : plain (.obj d) = true)
    (fields : ∀ field ∈ contract.required (.str (digits source)),
      (item (printed d) field.1).eq field.2 = true)
    (openapi : BackupRestore.isSha256 (strAt (printed d) "openapiSha256") = true) :
    checkCapability surroundings (canonical (.obj bindings)) images contract =
      .ok (checkedBinding contract path (fileOf d) source) := by
  have part (key : String) (v : Json)
      (hv : follow (binding path (fileOf d) source contract.imageKey) [key] = v) :
      follow (follow (canonical (.obj bindings)) [contract.name]) [key] = canonical v := by
    rw [bound, ← hv]
    exact item_printed _ key
  have himage := part "image" (.str (image contract.imageKey)) rfl
  have hpath' := part "path" (.str path) rfl
  have hhash := part "sha256" (.str (sha256 (fileOf d))) rfl
  have hsource := part "sourceSha256" (.str (digits source)) rfl
  have each : ∀ field ∈ contract.required (.str (digits source)), ∃ u,
      (raiseIf ((item (printed d) field.1).eq field.2 = false)
        (Raised.deployment (contract.name ++ " capability differs: " ++ field.1)) : Except Raised Unit) = .ok u := by
    intro field hfield
    refine ⟨(), raiseIf_eq_ok.2 ?_⟩
    rw [fields field hfield]
    decide
  obtain ⟨_, all⟩ := exists_mapM_eq_ok each
  unfold checkCapability
  dsimp only
  rw [himage, hpath', hhash, hsource, item_images hkey]
  refine bind_eq_ok.2 ⟨(), raiseIf_eq_ok.2 ?_, bind_eq_ok.2 ⟨fileOf d, ?_, bind_eq_ok.2 ⟨(), raiseIf_eq_ok.2 ?_,
    bind_eq_ok.2 ⟨_, strictJson_fileOf hd _, bind_eq_ok.2 ⟨_, all, bind_eq_ok.2 ⟨(), raiseIf_eq_ok.2 ?_, rfl⟩⟩⟩⟩⟩⟩
  · rw [canonical, eq_str]
    · decide
    all_goals simp
  · unfold readProjectFile
    rw [canonical]
    dsimp only
    · refine bind_eq_ok.2 ⟨(), raiseIf_eq_ok.2 hpath.1, bind_eq_ok.2 ⟨(), raiseIf_eq_ok.2 hpath.2, ?_⟩⟩
      rw [file]
    all_goals simp
  · have same : (canonical (.str (sha256 (fileOf d)))).eqStr (sha256 (fileOf d)) = true := eqStr_iff.2 rfl
    rw [same]
    decide
  · rw [openapi]
    decide

/-- The checks that see no hash. -/
theorem checks_eq :
    checkEndpoints surroundings (sectionOf (printed topology) "endpoints") = .ok normalized ∧
      (sectionOf (printed topology) "workloads").hasKeys requiredWorkloads = true ∧
      expectedImageKeys.mapM (checkEndpointImage (sectionOf (printed topology) "endpoints")
        (sectionOf (printed topology) "workloads") images (platformKind (printed topology))) =
        .ok (List.replicate 9 ()) ∧
      checkProvider (sectionOf (printed topology) "endpoints") (sectionOf (printed topology) "workloads") "l1_rpc_a" =
        .ok (.str "independent-l1-rpc-a") ∧
      checkProvider (sectionOf (printed topology) "endpoints") (sectionOf (printed topology) "workloads") "l1_rpc_b" =
        .ok (.str "independent-l1-rpc-b") ∧
      checkFailover surroundings (sectionOf (printed topology) "failoverControl")
        (sectionOf (printed topology) "workloads") images (platformKind (printed topology)) = .ok urls ∧
      checkDatabase (sectionOf (printed topology) "databaseHa")
        (sectionOf (printed topology) "workloads") images (platformKind (printed topology)) = .ok database ∧
      (item (printed topology) "candidateId").eq (item (printed candidate) "candidateId") = true ∧
      asObject (item (printed candidate) "ownerBroadSeal") "candidate topology hostedIntegration token differs" =
        .ok (sectionOf (printed candidate) "ownerBroadSeal") ∧
      (item (printed topology) "hostedIntegrationToken").eq
        (item (sectionOf (printed candidate) "ownerBroadSeal") "hostedIntegrationAcceptanceToken") = true ∧
      Json.eq (.str "independent-l1-rpc-a") (.str "independent-l1-rpc-b") = false ∧
      ∀ e ∈ [provider "l1-rpc-a", provider "l1-rpc-b"], checkWorkload images (e.1, canonical e.2) = .ok () := by
  decide

/-- The files are printed as they are read, and the capability files say what they have to. -/
theorem files_spec :
    plain (.obj candidate) = true ∧ plain (.obj topology) = true ∧ plain (.obj document) = true ∧
      (∀ d ∈ [faultCapability, backupCapability], plain (.obj d) = true ∧
        BackupRestore.isSha256 (strAt (printed d) "openapiSha256") = true) ∧
      (∀ path ∈ ["faultControl.json", "backupRestore.json"],
        path ≠ "" ∧ ¬(path.toList.head? = some '/' ∨ ['.', '.'] ∈ splitChars '/' path.toList)) ∧
      (∀ field ∈ faultContract.required (.str (digits '3')), (item (printed faultCapability) field.1).eq field.2 = true) ∧
      ∀ field ∈ backupContract.required (.str (digits '4')), (item (printed backupCapability) field.1).eq field.2 = true := by
  decide

theorem checkBinding_eq : checkBinding (printed candidate) (printed topology) (sha256 (fileOf candidate)) = .ok () := by
  obtain ⟨-, -, -, -, -, -, -, ids, owner, token_, -⟩ := checks_eq
  unfold checkBinding
  refine bind_eq_ok.2 ⟨(), raiseIf_eq_ok.2 ?_, bind_eq_ok.2 ⟨(), raiseIf_eq_ok.2 ?_, bind_eq_ok.2 ⟨_, owner,
    raiseIf_eq_ok.2 ?_⟩⟩⟩
  · rw [ids]
    decide
  · have named : item (printed topology) "candidateDescriptorSha256" = .str (sha256 (fileOf candidate)) := by
      rw [item_printed]
      rfl
    rw [named, eqStr_iff.2 rfl]
    decide
  · rw [token_]
    decide

theorem checkWorkloads_eq : checkWorkloads (sectionOf (printed topology) "endpoints")
    (sectionOf (printed topology) "workloads") images (platformKind (printed topology)) = .ok () := by
  obtain ⟨-, keys, endpointImages, providerA, providerB, -, -, -, -, -, differ, providers⟩ := checks_eq
  have each : ∀ kv ∈ sectionOf (printed topology) "workloads", ∃ u, checkWorkload images kv = .ok u := by
    have hworkloads : sectionOf (printed topology) "workloads" = printed workloads := by
      rw [sectionOf, item_printed]
      rfl
    intro kv hkv
    rw [hworkloads, printed, canonicalFields_eq_map, Dict.sorted, List.mem_insertionSort, List.mem_map] at hkv
    obtain ⟨e, he, rfl⟩ := hkv
    rcases List.mem_append.1 he with ran | external
    · obtain ⟨entry, hentry, rfl⟩ := List.mem_map.1 ran
      exact ⟨(), checkWorkload_running (images_spec.2.2.2.1 entry hentry)⟩
    · exact ⟨(), providers e external⟩
  obtain ⟨_, all⟩ := exists_mapM_eq_ok each
  unfold checkWorkloads
  refine bind_eq_ok.2 ⟨(), raiseIf_eq_ok.2 ?_, bind_eq_ok.2 ⟨_, all, bind_eq_ok.2 ⟨_, endpointImages, bind_eq_ok.2
    ⟨_, providerA, bind_eq_ok.2 ⟨_, providerB, raiseIf_eq_ok.2 ?_⟩⟩⟩⟩⟩
  · rw [keys]
    decide
  · rw [differ]
    decide

theorem checkTopology_eq :
    checkTopology surroundings (printed candidate) (printed topology) (sha256 (fileOf candidate)) = .ok checked := by
  obtain ⟨-, -, -, capabilities, paths, fault, backup⟩ := files_spec
  have fault : checkCapability surroundings (canonical (.obj bindings)) images faultContract =
      .ok (checkedBinding faultContract "faultControl.json" (fileOf faultCapability) '3') :=
    checkCapability_eq (by decide) (item_printed bindings "faultControl") (paths _ (by decide)) rfl
      (capabilities _ (by simp)).1 fault (capabilities _ (by simp)).2
  have backup : checkCapability surroundings (canonical (.obj bindings)) images backupContract =
      .ok (checkedBinding backupContract "backupRestore.json" (fileOf backupCapability) '4') :=
    checkCapability_eq (by decide) (item_printed bindings "backupRestore") (paths _ (by decide)) rfl
      (capabilities _ (by simp)).1 backup (capabilities _ (by simp)).2
  have capabilities : capabilityContracts.mapM (checkCapability surroundings
      (item (printed topology) "adapterCapabilities") images) = .ok checked.capabilities := by
    rw [item_printed]
    exact mapM_eq_ok.2 (.cons fault (.cons backup .nil))
  obtain ⟨hendpoints, -, -, -, -, hfailover, hdatabase, -⟩ := checks_eq
  unfold checkTopology
  refine bind_eq_ok.2 ⟨(), raiseIf_eq_ok.2 ?_, bind_eq_ok.2 ⟨(), checkBinding_eq, bind_eq_ok.2 ⟨images, checkImages_eq,
    bind_eq_ok.2 ⟨_, capabilities, bind_eq_ok.2 ⟨normalized, hendpoints, bind_eq_ok.2 ⟨(), checkWorkloads_eq,
    bind_eq_ok.2 ⟨urls, hfailover, bind_eq_ok.2 ⟨_, hdatabase, rfl⟩⟩⟩⟩⟩⟩⟩⟩
  rw [valid_topology]
  decide

theorem candidate_file : strictJson (some (fileOf candidate)) "candidate descriptor" = .ok (printed candidate) :=
  strictJson_fileOf files_spec.1 _

theorem topology_file : strictJson (some (fileOf topology)) "candidate topology" = .ok (printed topology) :=
  strictJson_fileOf files_spec.2.1 _

theorem static_run : (validate surroundings (some (fileOf candidate)) (some (fileOf topology)) false).run.Runs []
    (.returned (.ok document)) := by
  have run := validate_static candidate_file topology_file (c := checked) (by
    rw [Option.getD_some]
    exact checkTopology_eq)
  rw [Option.getD_some, Option.getD_some] at run
  exact run

theorem presents_document : Presents (fun _ => .contents (fileOf document)) payload (fileOf document) document where
  path := ⟨"topology-verification.json", rfl, by decide, rfl⟩
  sha256 := rfl
  document := strictDocument_fileOf files_spec.2.2.1 _

theorem fits_document : Fits (printed candidate) (printed topology) "candidate-topology-001" token := by
  have control : sectionOf (printed topology) "failoverControl" = printed failoverControl := by
    rw [sectionOf, item_printed]
    rfl
  refine ⟨?_, ?_, ⟨26, ?_⟩, ⟨3, ?_⟩, ⟨300, ?_⟩⟩
  · rw [item_printed]
    rfl
  · rw [item_printed]
    rfl
  · rw [item_printed]
    rfl
  · rw [control, item_printed]
    rfl
  · rw [control, item_printed]
    rfl

/-! The receipt is short: it has twenty entries, each far below 50000 characters. -/

/-- The entries whose values have no hash. -/
def unhashed : List String :=
  ["schema", "passed", "candidateId", "hostedIntegrationToken", "ownerDatabaseSchema", "platform", "bridge", "endpoints",
    "failoverControl", "workloads", "databaseHa", "replicationInspection", "liveReplicationInspected",
    "fixtureEndpointsAccepted", "standaloneQueueAccepted", "sharedSinglePostgresAccepted", "credentialValuesRecorded"]

theorem sizes_spec :
    (∀ key ∈ ["path", "sha256", "sourceSha256", "image", "authRole", "protocol"], strSize key ≤ 200) ∧
      (∀ s ∈ ["faultControl.json", digits '3', image faultContract.imageKey, faultContract.authRole,
        faultContract.protocol], strSize s ≤ 2000) ∧
      (∀ s ∈ ["backupRestore.json", digits '4', image backupContract.imageKey, backupContract.authRole,
        backupContract.protocol], strSize s ≤ 2000) ∧
      strSize faultContract.name ≤ 1000 ∧ strSize backupContract.name ≤ 1000 ∧
      (∀ key ∈ ["candidateDescriptorSha256", "topologySha256", "adapterCapabilities"], strSize key ≤ 400) ∧
      ∀ key ∈ unhashed, strSize key ≤ 400 ∧ size (item document key) ≤ 45000 := by
  decide

theorem strSize_sha256 (raw : Bytes) : strSize (sha256 raw) = 770 := by
  obtain ⟨-, lower, upper⟩ := between_iff.1 (between_sha256 raw)
  rw [strSize, le_antisymm upper lower]

theorem sizeFields_le {fields : List (String × Json)} {m : ℕ}
    (h : ∀ kv ∈ fields, strSize kv.1 + 1 + size kv.2 + 1 ≤ m) : sizeFields fields ≤ fields.length * m := by
  induction fields with
  | nil => exact Nat.zero_le _
  | cons kv fields ih =>
    obtain ⟨first, rest⟩ := List.forall_mem_cons.1 h
    have whole := ih rest
    rw [sizeFields, List.length_cons, Nat.succ_mul]
    omega

theorem size_obj_le {fields : List (String × Json)} {m c : ℕ} (count : fields.length = c)
    (h : ∀ kv ∈ fields, strSize kv.1 + 1 + size kv.2 + 1 ≤ m) : size (.obj fields) ≤ c * m + 2 :=
  Nat.add_le_add_right (count ▸ sizeFields_le h) 2

theorem entry_le {key : String} {v : Json} {m n : ℕ} (hkey : strSize key ≤ m) (hvalue : size v ≤ n) :
    strSize key + 1 + size v + 1 ≤ m + n + 2 := by
  omega

theorem size_checkedBinding_le (contract : Contract) (path : String) (source : Char)
    (h : ∀ s ∈ [path, digits source, image contract.imageKey, contract.authRole, contract.protocol], strSize s ≤ 2000)
    (raw : Bytes) : size (checkedBinding contract path raw source).2 ≤ 20000 := by
  simp only [List.forall_mem_cons] at h
  obtain ⟨hpath, hsource, himage, hrole, hprotocol, -⟩ := h
  have keys := sizes_spec.1
  have value {s : String} (h : strSize s ≤ 2000) : size (.str s) ≤ 2000 := h
  have hash : strSize (sha256 raw) ≤ 2000 := (strSize_sha256 raw).trans_le (by decide)
  have each : ∀ kv ∈ [("path", Json.str path), ("sha256", .str (sha256 raw)), ("sourceSha256", .str (digits source)),
      ("image", .str (image contract.imageKey)), ("authRole", .str contract.authRole),
      ("protocol", .str contract.protocol)], strSize kv.1 + 1 + size kv.2 + 1 ≤ 200 + 2000 + 2 := by
    simp only [List.forall_mem_cons] at keys ⊢
    exact ⟨entry_le keys.1 (value hpath), entry_le keys.2.1 (value hash), entry_le keys.2.2.1 (value hsource),
      entry_le keys.2.2.2.1 (value himage), entry_le keys.2.2.2.2.1 (value hrole),
      entry_le keys.2.2.2.2.2.1 (value hprotocol), nofun⟩
  exact (size_obj_le (c := 6) rfl each).trans (by decide)

theorem length_fileOf_le (d : Dict) : (fileOf d).length ≤ 4 * size (.obj d) :=
  length_encodeUtf8_dumps_le true (.obj d)

theorem size_capabilities : size (.obj checked.capabilities) ≤ 45000 := by
  obtain ⟨-, fault, backup, fault_name, backup_name, -⟩ := sizes_spec
  have fault_ := size_checkedBinding_le faultContract "faultControl.json" '3' fault (fileOf faultCapability)
  have backup_ := size_checkedBinding_le backupContract "backupRestore.json" '4' backup (fileOf backupCapability)
  have each : ∀ kv ∈ checked.capabilities, strSize kv.1 + 1 + size kv.2 + 1 ≤ 1000 + 20000 + 2 := by
    rw [checked]
    exact List.forall_mem_cons.2 ⟨entry_le fault_name fault_, List.forall_mem_cons.2 ⟨entry_le backup_name backup_, nofun⟩⟩
  exact (size_obj_le (c := 2) rfl each).trans (by decide)

theorem size_receipt_le {candidate topology : Dict} {candidateSha256 topologySha256 : String} {c : Checked}
    {workloads : List (String × Json)}
    (small : ∀ key ∈ unhashed, strSize key ≤ 400 ∧
      size (item (receipt candidate topology candidateSha256 topologySha256 c workloads none) key) ≤ 45000)
    (hashes : strSize candidateSha256 ≤ 770 ∧ strSize topologySha256 ≤ 770)
    (capabilities : size (.obj c.capabilities) ≤ 45000) :
    size (.obj (receipt candidate topology candidateSha256 topologySha256 c workloads none)) ≤ 20 * 45402 + 2 := by
  obtain ⟨-, -, -, -, -, keys, -⟩ := sizes_spec
  have plain_ {key : String} (h : key ∈ unhashed) {v : Json}
      (hv : item (receipt candidate topology candidateSha256 topologySha256 c workloads none) key = v) :
      strSize key + 1 + size v + 1 ≤ 45402 := by
    rw [← hv]
    exact entry_le (small key h).1 (small key h).2
  have hash {key s : String} (h : strSize key ≤ 400) (hs : strSize s ≤ 770) :
      strSize key + 1 + size (.str s) + 1 ≤ 45402 :=
    (entry_le h (show size (.str s) ≤ 770 from hs)).trans (by decide)
  refine size_obj_le (c := 20) rfl ?_
  unfold receipt
  simp only [List.forall_mem_cons] at keys ⊢
  exact ⟨plain_ (by decide) rfl, plain_ (by decide) rfl, plain_ (by decide) rfl, hash keys.1 hashes.1,
    hash keys.2.1 hashes.2, plain_ (by decide) rfl, plain_ (by decide) rfl, plain_ (by decide) rfl,
    plain_ (by decide) rfl, plain_ (by decide) rfl, plain_ (by decide) rfl, entry_le keys.2.2.1 capabilities,
    plain_ (by decide) rfl, plain_ (by decide) rfl, plain_ (by decide) rfl, plain_ (by decide) rfl,
    plain_ (by decide) rfl, plain_ (by decide) rfl, plain_ (by decide) rfl, plain_ (by decide) rfl, nofun⟩

theorem size_document : size (.obj document) ≤ 20 * 45402 + 2 :=
  size_receipt_le sizes_spec.2.2.2.2.2.2 ⟨(strSize_sha256 _).le, (strSize_sha256 _).le⟩ size_capabilities

theorem short_document : (fileOf document).length ≤ maxVerificationBytes :=
  (length_fileOf_le document).trans ((Nat.mul_le_mul_left 4 size_document).trans (by decide))

/-- A static receipt is accepted, though nothing was inspected. -/
theorem static_receipt_accepted :
    (validate surroundings (some (fileOf candidate)) (some (fileOf topology)) false).run.Runs []
        (.returned (.ok document)) ∧
      (∃ v, loadTopologyVerification (fun _ => .contents (fileOf document)) payload "candidate-topology-001" token =
        .ok v) ∧ ¬LiveInspected (printed topology) [] := by
  have described := describes_receipt (printed candidate) (printed topology) (sha256 (fileOf candidate))
    (sha256 (fileOf topology)) checked
    ((sectionOf (printed topology) "workloads").map fun entry =>
      (entry.1, .obj [("kind", follow entry.2 ["kind"]), ("identity", follow entry.2 ["identity"])])) none
  have eligible := (verification_iff checkTopology_eq described "candidate-topology-001" token
    (sha256 (fileOf document))).2 fits_document
  exact ⟨static_run, (load_iff presents_document _ _).2 ⟨short_document, eligible⟩, not_liveInspected_nil _⟩

theorem live_inspection_iff_static :
    ((∃ v, loadTopologyVerification (fun _ => .contents (fileOf document)) payload "candidate-topology-001" token =
        .ok v) → LiveInspected (printed topology) []) ↔
      false = true ∨ ¬(Fits (printed candidate) (printed topology) "candidate-topology-001" token ∧
        (fileOf document).length ≤ maxVerificationBytes) :=
  live_inspection_iff candidate_file topology_file static_run presents_document

end StaticOnly

end Zkdeal.Scripts
