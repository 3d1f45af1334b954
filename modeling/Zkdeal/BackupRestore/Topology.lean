import Zkdeal.BackupRestore.Control
import Zkdeal.Python.Url

/-!
# The topology of the backup-restore control

`load_topology` reads a document that fixes the source, the backup store and the fresh targets of a
candidate, and refuses it when two of them have the same address.  Addresses are compared as texts.
`isolated_iff` says for which documents that keeps the services apart: exactly where no two of the
compared addresses are different spellings of one service.
-/

namespace Zkdeal.BackupRestore

open Interaction Python Python.Sha256

structure PostgresTarget where
  host : String
  port : ℤ
  database : String
  user : String
  password : String
  deriving DecidableEq

def PostgresTarget.identity (p : PostgresTarget) : String × ℤ × String := (p.host, p.port, p.database)

structure MinioTarget where
  endpoint : String
  accessKey : String
  secretKey : String
  bucket : String
  deriving DecidableEq

structure RestoreTarget where
  postgres : PostgresTarget
  minio : MinioTarget
  deriving DecidableEq

structure Topology where
  classification : String
  candidateId : String
  planSha256 : String
  hostedToken : String
  scopedTokenSha256 : String
  sourcePostgres : PostgresTarget
  sourceMinio : MinioTarget
  backupStore : MinioTarget
  encryptionKey : String
  encryptionKeyId : String
  restoreTargets : List (String × RestoreTarget)
  timeoutSeconds : ℤ
  topologySha256 : String
  deriving DecidableEq

/-! ## Parsing -/

def aeadAlgorithm : String := "AES-256-GCM"

/-- `key_fingerprint(key_hex)` -/
def keyFingerprint (keyHex : String) : String :=
  take (hmac (fromHex keyHex.toList) (encodeUtf8 "zkdeal-backup-key-id-v1")) 32

/-- `json` is an object, or an error. -/
def asObject (value : Json) (e : Raised) : Except Raised Dict :=
  match value with
  | .obj fields => .ok fields
  | _ => .error e

/-- The URL does not address an allowed host and nothing else. -/
def outside (parsed : SplitResult) (allowedHosts : List String) : Prop :=
  parsed.scheme ≠ "http".toList ∧ parsed.scheme ≠ "https".toList ∨ parsed.hostname = "" ∨
    parsed.hostname ∉ allowedHosts ∨ parsed.hasCredentials = true ∨ parsed.path ≠ [] ∧ parsed.path ≠ ['/'] ∨
    parsed.query ≠ [] ∨ parsed.fragment ≠ []

instance (parsed : SplitResult) (allowedHosts : List String) : Decidable (outside parsed allowedHosts) := by
  unfold outside
  infer_instance

/-- `normalized_endpoint(value, allowed_hosts, label)` -/
def normalizedEndpoint (value : Json) (allowedHosts : List String) (label : String) : Except Raised String := do
  let url ← field value (fun url => url.length ≤ 512) (configurationError (label ++ " is not a bounded endpoint"))
  match urlsplit url with
  | none => .error (configurationError (label ++ " is malformed"))
  | some parsed =>
    raiseIf (outside parsed allowedHosts) (configurationError (label ++ " is outside the fixed topology"))
    return urlunsplit parsed.scheme parsed.netloc

def parsePostgres (files : Files) (value : Json) (allowedHosts : List String) (label : String) :
    Except Raised PostgresTarget := do
  let value ← asObject value (configurationError (label ++ " must be an object"))
  exactKeys value ["host", "port", "database", "user", "passwordFile", "passwordSha256"] label
  let host ← field (item value "host") (fun host => isHost host && allowedHosts.contains host)
    (configurationError (label ++ ".host is outside the topology"))
  let database ← field (item value "database") isDbName (configurationError (label ++ ".database is malformed"))
  let user ← field (item value "user") isDbName (configurationError (label ++ ".user is malformed"))
  let port ← boundedInt (item value "port") (label ++ ".port") 1 65535
  let password ← readSecret files (item value "passwordFile") (item value "passwordSha256")
    (label ++ ".passwordFile") false
  return { host, port, database, user, password }

def parseMinio (files : Files) (value : Json) (allowedHosts : List String) (label : String) :
    Except Raised MinioTarget := do
  let value ← asObject value (configurationError (label ++ " must be an object"))
  exactKeys value
    ["endpoint", "accessKeyFile", "accessKeySha256", "secretKeyFile", "secretKeySha256", "bucket"] label
  let bucket ← field (item value "bucket") isBucket (configurationError (label ++ ".bucket is malformed"))
  let endpoint ← normalizedEndpoint (item value "endpoint") allowedHosts (label ++ ".endpoint")
  let accessKey ← readSecret files (item value "accessKeyFile") (item value "accessKeySha256")
    (label ++ ".accessKeyFile") false
  let secretKey ← readSecret files (item value "secretKeyFile") (item value "secretKeySha256")
    (label ++ ".secretKeyFile") false
  return { endpoint, accessKey, secretKey, bucket }

/-- The part of `load_topology` that reads the file. -/
def topologyDocument (files : Files) (path expectedSha256 : String) : Except Raised (Dict × String) := do
  match files path with
  | none => .error (configurationError "BACKUP_RESTORE_TOPOLOGY_FILE is absent or unsafe")
  | some file =>
    let raw ← file.read
    let observed := sha256 raw
    raiseIf (isSha256 expectedSha256 = false ∨ observed ≠ expectedSha256)
      (configurationError "backup topology hash differs")
    return (← strictObject raw "backup topology" maxResponseBytes, observed)

/-- `hash(value)` raises. -/
def unhashable : Json → Bool
  | .arr _ | .obj _ => true
  | _ => false

/-- The `allowedHosts` of a topology. -/
def parseHosts (value : Json) : Except Raised (List String) := do
  let e := configurationError "backup topology allowedHosts is invalid"
  match value with
  | .arr hosts =>
    raiseIf (¬(2 ≤ hosts.length ∧ hosts.length ≤ 32)) e
    raiseIf (hosts.any unhashable = true) Raised.other
    match hosts.mapM (matching isHost) with
    | none => .error e
    | some hosts =>
      raiseIf (¬hosts.Nodup) e
      return hosts
  | _ => .error e

/-- One of the `freshTargets`. -/
def parseTarget (files : Files) (allowedHosts : List String) (sourcePostgres : PostgresTarget)
    (sourceMinio backupStore : MinioTarget) (entry : String × Json) : Except Raised (String × RestoreTarget) := do
  let malformed := configurationError "fresh target name/value is malformed"
  let name ← field (.str entry.1) isSafeId malformed
  let target ← asObject entry.2 malformed
  exactKeys target ["postgres", "minio"] ("fresh target " ++ name)
  let postgres ← parsePostgres files (item target "postgres") allowedHosts
    ("freshTargets." ++ name ++ ".postgres")
  let minio ← parseMinio files (item target "minio") allowedHosts ("freshTargets." ++ name ++ ".minio")
  raiseIf (postgres.identity = sourcePostgres.identity)
    (configurationError "fresh PostgreSQL target equals the source")
  raiseIf (minio.endpoint = sourceMinio.endpoint)
    (configurationError "fresh MinIO target endpoint equals the source")
  raiseIf (minio.endpoint = backupStore.endpoint)
    (configurationError "fresh MinIO target endpoint equals the backup store")
  return (name, { postgres, minio })

/-- The part of `load_topology` that checks the document. -/
def parseTopology (files : Files) (value : Dict) (observed : String) : Except Raised Topology := do
  exactKeys value ["schemaVersion", "classification", "candidateId", "planSha256", "hostedIntegrationToken",
    "backupRestoreTokenSha256", "allowedHosts", "source", "backupStore", "encryption", "freshTargets",
    "processTimeoutSeconds"] "backup topology"
  let schema := configurationError "backup topology schema/classification is invalid"
  raiseIf ((item value "schemaVersion").eq (.int 1) = false) schema
  raiseIf (unhashable (item value "classification") = true) Raised.other
  let classification ← field (item value "classification")
    (["release-candidate", "non-release-fixture"].contains ·) schema
  let candidate ← field (item value "candidateId") isCandidate
    (configurationError "backup topology candidateId is malformed")
  let planSha ← field (item value "planSha256") isSha256
    (configurationError "backup topology planSha256 is malformed")
  let hosted ← field (item value "hostedIntegrationToken") isToken
    (configurationError "backup topology hostedIntegrationToken is malformed")
  let tokenHash ← field (item value "backupRestoreTokenSha256") isSha256
    (configurationError "backup topology scoped token hash is malformed")
  let allowedHosts ← parseHosts (item value "allowedHosts")
  let source ← asObject (item value "source") (configurationError "backup topology source must be an object")
  exactKeys source ["postgres", "minio"] "backup topology source"
  let sourcePostgres ← parsePostgres files (item source "postgres") allowedHosts "source.postgres"
  let sourceMinio ← parseMinio files (item source "minio") allowedHosts "source.minio"
  let backupStore ← parseMinio files (item value "backupStore") allowedHosts "backupStore"
  raiseIf (backupStore.endpoint = sourceMinio.endpoint)
    (configurationError "backupStore endpoint must differ from the primary data MinIO")
  raiseIf ((backupStore.accessKey, backupStore.secretKey) = (sourceMinio.accessKey, sourceMinio.secretKey))
    (configurationError "backupStore credentials must differ from the primary data MinIO")
  let encryption ← asObject (item value "encryption")
    (configurationError "backup topology encryption must be an object")
  exactKeys encryption ["algorithm", "keyFile", "keySha256"] "backup topology encryption"
  raiseIf ((item encryption "algorithm").eqStr aeadAlgorithm = false)
    (configurationError ("backup encryption algorithm must be " ++ aeadAlgorithm))
  let encryptionKey ← readSecret files (item encryption "keyFile") (item encryption "keySha256")
    "backupStore.encryption.keyFile" false
  raiseIf (isSha256 encryptionKey = false)
    (configurationError "backup encryption key must be 32 bytes of lowercase hexadecimal")
  let count := configurationError "freshTargets must contain one through eight targets"
  let targets ← asObject (item value "freshTargets") count
  raiseIf (¬(1 ≤ targets.length ∧ targets.length ≤ 8)) count
  let restoreTargets ← targets.mapM (parseTarget files allowedHosts sourcePostgres sourceMinio backupStore)
  let timeout ← boundedInt (item value "processTimeoutSeconds") "processTimeoutSeconds" 30 3600
  return {
    classification
    candidateId := candidate
    planSha256 := planSha
    hostedToken := hosted
    scopedTokenSha256 := tokenHash
    sourcePostgres
    sourceMinio
    backupStore
    encryptionKey
    encryptionKeyId := keyFingerprint encryptionKey
    restoreTargets
    timeoutSeconds := timeout
    topologySha256 := observed }

/-- `load_topology(path_value, expected_sha256)` -/
def loadTopology (files : Files) (path expectedSha256 : String) : Except Raised Topology := do
  let (value, observed) ← topologyDocument files path expectedSha256
  parseTopology files value observed

/-! ## What is accepted -/

section Accepted

variable {files : Files} {allowedHosts : List String} {label : String}

theorem asObject_eq_ok {value : Json} {e : Raised} {fields : Dict} :
    asObject value e = .ok fields ↔ value = .obj fields := by
  cases value <;> simp [asObject]

theorem exactKeys_eq_ok {value : Dict} {expected : List String} {u : Unit} :
    exactKeys value expected label = .ok u ↔ value.hasKeys expected = true := by
  rw [exactKeys, raiseIf_eq_ok, Bool.not_eq_false]

theorem normalizedEndpoint_eq_ok {value : Json} {endpoint : String} :
    normalizedEndpoint value allowedHosts label = .ok endpoint ↔ ∃ url parsed, value = .str url ∧
      url.length ≤ 512 ∧ urlsplit url = some parsed ∧ ¬outside parsed allowedHosts ∧
      endpoint = urlunsplit parsed.scheme parsed.netloc := by
  simp only [normalizedEndpoint, bind_eq_ok, field_eq_ok, decide_eq_true_eq]
  constructor
  · rintro ⟨url, ⟨rfl, short⟩, h⟩
    split at h
    · cases h
    · rename_i parsed hparsed
      obtain ⟨_, hinside, h⟩ := bind_eq_ok.1 h
      exact ⟨url, parsed, rfl, short, hparsed, raiseIf_eq_ok.1 hinside, (Except.ok.inj h).symm⟩
  · rintro ⟨url, parsed, rfl, short, hparsed, inside, rfl⟩
    refine ⟨url, ⟨rfl, short⟩, ?_⟩
    rw [hparsed]
    exact bind_eq_ok.2 ⟨(), raiseIf_eq_ok.2 inside, rfl⟩

theorem parsePostgres_eq_ok {value : Json} {t : PostgresTarget} :
    parsePostgres files value allowedHosts label = .ok t ↔ ∃ fields : Dict, value = .obj fields ∧
      fields.hasKeys ["host", "port", "database", "user", "passwordFile", "passwordSha256"] = true ∧
      (item fields "host" = .str t.host ∧ (isHost t.host && allowedHosts.contains t.host) = true) ∧
      (item fields "database" = .str t.database ∧ isDbName t.database = true) ∧
      (item fields "user" = .str t.user ∧ isDbName t.user = true) ∧
      boundedInt (item fields "port") (label ++ ".port") 1 65535 = .ok t.port ∧
      readSecret files (item fields "passwordFile") (item fields "passwordSha256")
        (label ++ ".passwordFile") false = .ok t.password := by
  simp only [parsePostgres, bind_eq_ok, asObject_eq_ok, exactKeys_eq_ok, field_eq_ok, pure, Except.pure,
    Except.ok.injEq]
  constructor
  · rintro ⟨fields, rfl, _, keys, host, hhost, database, hdatabase, user, huser, port, hport, password, hpassword, rfl⟩
    exact ⟨fields, rfl, keys, hhost, hdatabase, huser, hport, hpassword⟩
  · rintro ⟨fields, rfl, keys, hhost, hdatabase, huser, hport, hpassword⟩
    exact ⟨fields, rfl, (), keys, _, hhost, _, hdatabase, _, huser, _, hport, _, hpassword, rfl⟩

theorem parseMinio_eq_ok {value : Json} {t : MinioTarget} :
    parseMinio files value allowedHosts label = .ok t ↔ ∃ fields : Dict, value = .obj fields ∧
      fields.hasKeys ["endpoint", "accessKeyFile", "accessKeySha256", "secretKeyFile", "secretKeySha256",
        "bucket"] = true ∧
      (item fields "bucket" = .str t.bucket ∧ isBucket t.bucket = true) ∧
      normalizedEndpoint (item fields "endpoint") allowedHosts (label ++ ".endpoint") = .ok t.endpoint ∧
      readSecret files (item fields "accessKeyFile") (item fields "accessKeySha256")
        (label ++ ".accessKeyFile") false = .ok t.accessKey ∧
      readSecret files (item fields "secretKeyFile") (item fields "secretKeySha256")
        (label ++ ".secretKeyFile") false = .ok t.secretKey := by
  simp only [parseMinio, bind_eq_ok, asObject_eq_ok, exactKeys_eq_ok, field_eq_ok, pure, Except.pure,
    Except.ok.injEq]
  constructor
  · rintro ⟨fields, rfl, _, keys, bucket, hbucket, endpoint, hendpoint, access, haccess, secret, hsecret, rfl⟩
    exact ⟨fields, rfl, keys, hbucket, hendpoint, haccess, hsecret⟩
  · rintro ⟨fields, rfl, keys, hbucket, hendpoint, haccess, hsecret⟩
    exact ⟨fields, rfl, (), keys, _, hbucket, _, hendpoint, _, haccess, _, hsecret, rfl⟩

/-- What is accepted as a fresh target. -/
structure AcceptedTarget (files : Files) (allowedHosts : List String) (sourcePostgres : PostgresTarget)
    (sourceMinio backupStore : MinioTarget) (entry : String × Json) (t : String × RestoreTarget) : Prop where
  name : t.1 = entry.1 ∧ isSafeId entry.1 = true
  keys : ∃ fields : Dict, entry.2 = .obj fields ∧ fields.hasKeys ["postgres", "minio"] = true
  postgres : parsePostgres files (follow entry.2 ["postgres"]) allowedHosts
    ("freshTargets." ++ entry.1 ++ ".postgres") = .ok t.2.postgres
  minio : parseMinio files (follow entry.2 ["minio"]) allowedHosts
    ("freshTargets." ++ entry.1 ++ ".minio") = .ok t.2.minio
  identity : t.2.postgres.identity ≠ sourcePostgres.identity
  source : t.2.minio.endpoint ≠ sourceMinio.endpoint
  backup : t.2.minio.endpoint ≠ backupStore.endpoint

theorem parseTarget_eq_ok {sourcePostgres : PostgresTarget} {sourceMinio backupStore : MinioTarget}
    {entry : String × Json} {t : String × RestoreTarget} :
    parseTarget files allowedHosts sourcePostgres sourceMinio backupStore entry = .ok t ↔
      AcceptedTarget files allowedHosts sourcePostgres sourceMinio backupStore entry t := by
  simp only [parseTarget, bind_eq_ok, asObject_eq_ok, exactKeys_eq_ok, field_eq_ok, raiseIf_eq_ok, pure,
    Except.pure, Except.ok.injEq]
  constructor
  · rintro ⟨name, ⟨hname, safe⟩, fields, hfields, _, keys, postgres, hpostgres, minio, hminio, _, identity, _,
      source, _, backup, rfl⟩
    obtain rfl := Json.str.inj hname
    refine ⟨⟨rfl, safe⟩, ⟨fields, hfields, keys⟩, ?_, ?_, identity, source, backup⟩
    · rwa [hfields]
    · rwa [hfields]
  · rintro ⟨⟨hname, safe⟩, ⟨fields, hfields, keys⟩, hpostgres, hminio, identity, source, backup⟩
    rw [hfields] at hpostgres hminio
    exact ⟨_, ⟨rfl, safe⟩, fields, hfields, (), keys, _, hpostgres, _, hminio, (), identity, (), source, (),
      backup, Prod.ext hname.symm rfl⟩

/-- What is accepted as a topology with the given hosts. -/
structure Accepted (files : Files) (value : Dict) (observed : String) (hosts : List String) (t : Topology) :
    Prop where
  keys : value.hasKeys ["schemaVersion", "classification", "candidateId", "planSha256", "hostedIntegrationToken",
    "backupRestoreTokenSha256", "allowedHosts", "source", "backupStore", "encryption", "freshTargets",
    "processTimeoutSeconds"] = true
  schema : (item value "schemaVersion").eq (.int 1) = true
  classification : item value "classification" = .str t.classification ∧
    ["release-candidate", "non-release-fixture"].contains t.classification = true
  candidateId : item value "candidateId" = .str t.candidateId ∧ isCandidate t.candidateId = true
  planSha256 : item value "planSha256" = .str t.planSha256 ∧ isSha256 t.planSha256 = true
  hostedToken : item value "hostedIntegrationToken" = .str t.hostedToken ∧ isToken t.hostedToken = true
  scopedToken : item value "backupRestoreTokenSha256" = .str t.scopedTokenSha256 ∧
    isSha256 t.scopedTokenSha256 = true
  allowedHosts : parseHosts (item value "allowedHosts") = .ok hosts
  source : ∃ fields : Dict, item value "source" = .obj fields ∧ fields.hasKeys ["postgres", "minio"] = true
  sourcePostgres : parsePostgres files (follow (.obj value) ["source", "postgres"]) hosts "source.postgres" =
    .ok t.sourcePostgres
  sourceMinio : parseMinio files (follow (.obj value) ["source", "minio"]) hosts "source.minio" =
    .ok t.sourceMinio
  backupStore : parseMinio files (follow (.obj value) ["backupStore"]) hosts "backupStore" = .ok t.backupStore
  endpoints : t.backupStore.endpoint ≠ t.sourceMinio.endpoint
  credentials : (t.backupStore.accessKey, t.backupStore.secretKey) ≠
    (t.sourceMinio.accessKey, t.sourceMinio.secretKey)
  encryption : ∃ fields : Dict, item value "encryption" = .obj fields ∧
    fields.hasKeys ["algorithm", "keyFile", "keySha256"] = true ∧
    (item fields "algorithm").eqStr aeadAlgorithm = true ∧
    readSecret files (item fields "keyFile") (item fields "keySha256") "backupStore.encryption.keyFile" false =
      .ok t.encryptionKey
  key : isSha256 t.encryptionKey = true ∧ t.encryptionKeyId = keyFingerprint t.encryptionKey
  targets : ∃ fields : Dict, item value "freshTargets" = .obj fields ∧ 1 ≤ fields.length ∧ fields.length ≤ 8 ∧
    fields.mapM (parseTarget files hosts t.sourcePostgres t.sourceMinio t.backupStore) = .ok t.restoreTargets
  timeout : boundedInt (item value "processTimeoutSeconds") "processTimeoutSeconds" 30 3600 = .ok t.timeoutSeconds
  observed : t.topologySha256 = observed

theorem parseTopology_eq_ok {value : Dict} {observed : String} {t : Topology} :
    parseTopology files value observed = .ok t ↔ ∃ hosts, Accepted files value observed hosts t := by
  simp only [parseTopology, bind_eq_ok, asObject_eq_ok, exactKeys_eq_ok, field_eq_ok, raiseIf_eq_ok, pure,
    Except.pure, Except.ok.injEq, Bool.not_eq_false, not_not]
  constructor
  · rintro ⟨_, keys, _, schema, _, -, _, classification, _, candidateId, _, planSha, _, hosted, _, token, hosts,
      hhosts, source, hsource, _, sourceKeys, _, sourcePostgres, _, sourceMinio, _, backupStore, _, endpoints, _,
      credentials, encryption, hencryption, _, encryptionKeys, _, algorithm, _, secret, _, key, targets, htargets,
      _, count, _, restoreTargets, _, timeout, rfl⟩
    refine ⟨hosts, keys, schema, classification, candidateId, planSha, hosted, token, hhosts,
      ⟨source, hsource, sourceKeys⟩, ?_, ?_, backupStore, endpoints, credentials,
      ⟨encryption, hencryption, encryptionKeys, algorithm, secret⟩, ⟨key, rfl⟩,
      ⟨targets, htargets, count.1, count.2, restoreTargets⟩, timeout, rfl⟩
    · rw [follow, hsource]
      exact sourcePostgres
    · rw [follow, hsource]
      exact sourceMinio
  · rintro ⟨hosts, h⟩
    obtain ⟨source, hsource, sourceKeys⟩ := h.source
    obtain ⟨encryption, hencryption, encryptionKeys, algorithm, secret⟩ := h.encryption
    obtain ⟨targets, htargets, least, most, restoreTargets⟩ := h.targets
    have sourcePostgres := h.sourcePostgres
    have sourceMinio := h.sourceMinio
    rw [follow, hsource] at sourcePostgres sourceMinio
    have hashable : ¬unhashable (item value "classification") = true := by
      rw [h.classification.1]
      exact Bool.false_ne_true
    refine ⟨(), h.keys, (), h.schema, (), hashable, _, h.classification, _, h.candidateId, _, h.planSha256, _,
      h.hostedToken, _, h.scopedToken, hosts, h.allowedHosts, source, hsource, (), sourceKeys, _, sourcePostgres, _,
      sourceMinio, _, h.backupStore, (), h.endpoints, (), h.credentials, encryption, hencryption, (),
      encryptionKeys, (), algorithm, _, secret, (), h.key.1, targets, htargets, (), ⟨least, most⟩, _,
      restoreTargets, _, h.timeout, ?_⟩
    rw [← h.key.2, ← h.observed]

end Accepted

end Zkdeal.BackupRestore
