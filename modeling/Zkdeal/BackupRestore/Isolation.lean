import Zkdeal.BackupRestore.Topology

/-!
# Isolation of the services

A topology is isolated if the object store of the source, the backup store and the fresh targets are
different services, and no fresh database is the source's.  `load_topology` compares the texts of the
addresses, so what it accepts is isolated exactly if no compared address is another spelling of the
service it is compared with: another scheme or letter case, an explicit default port, leading zeros in a
port, or an empty user name.
-/

namespace Zkdeal.BackupRestore

open Interaction Python Python.Sha256

/-! ## Services -/

/-- The lower-cased host and the effective port of a URL. -/
def service (parsed : SplitResult) : Option (String × ℕ) :=
  parsed.port.map fun port => (parsed.hostname, port.getD (if parsed.scheme = "https".toList then 443 else 80))

/-- Two endpoints of one service. -/
def SameService (endpoint endpoint' : String) : Prop :=
  ∃ p p' s, urlsplit endpoint = some p ∧ urlsplit endpoint' = some p' ∧ service p = some s ∧ service p' = some s

/-- The lower-cased host, the port and the name of a database. -/
def PostgresTarget.place (p : PostgresTarget) : List Char × ℤ × String := (lower p.host.toList, p.port, p.database)

structure Isolated (t : Topology) : Prop where
  backup : ¬SameService t.sourceMinio.endpoint t.backupStore.endpoint
  targets : ∀ entry ∈ t.restoreTargets, ¬SameService entry.2.minio.endpoint t.sourceMinio.endpoint ∧
    ¬SameService entry.2.minio.endpoint t.backupStore.endpoint ∧
    entry.2.postgres.place ≠ t.sourcePostgres.place

/-! ## Spellings -/

/-- The two fields of a document are URLs that spell one service differently. -/
def Respelled (value value' : Json) : Prop :=
  ∃ url url' p p' s, value = .str url ∧ value' = .str url' ∧ urlsplit url = some p ∧ urlsplit url' = some p' ∧
    (p.scheme, p.netloc) ≠ (p'.scheme, p'.netloc) ∧ service p = some s ∧ service p' = some s

/-- The two fields of a document are databases that differ in the letter case of their hosts. -/
def Recased (value value' : Json) : Prop :=
  ∃ host host', follow value ["host"] = .str host ∧ follow value' ["host"] = .str host' ∧ host ≠ host' ∧
    lower host.toList = lower host'.toList ∧ follow value ["port"] = follow value' ["port"] ∧
    follow value ["database"] = follow value' ["database"]

/-- The fresh targets of a document. -/
def freshTargets (document : Dict) : Dict :=
  match item document "freshTargets" with
  | .obj fields => fields
  | _ => []

/-- No compared address of the document is another spelling of the one it is compared with. -/
structure SpelledOnce (document : Dict) : Prop where
  backup : ¬Respelled (follow (.obj document) ["source", "minio", "endpoint"])
    (follow (.obj document) ["backupStore", "endpoint"])
  targets : ∀ entry ∈ freshTargets document,
    ¬Respelled (follow entry.2 ["minio", "endpoint"]) (follow (.obj document) ["source", "minio", "endpoint"]) ∧
    ¬Respelled (follow entry.2 ["minio", "endpoint"]) (follow (.obj document) ["backupStore", "endpoint"]) ∧
    ¬Recased (follow entry.2 ["postgres"]) (follow (.obj document) ["source", "postgres"])

/-! ## Accepted addresses -/

theorem follow_follow (value : Json) (keys keys' : List String) :
    follow (follow value keys) keys' = follow value (keys ++ keys') := by
  induction keys generalizing value with
  | nil => simp [follow]
  | cons key keys ih =>
    cases value with
    | obj fields => exact ih _
    | _ => cases keys' <;> rfl

section Addresses

variable {files : Files} {hosts : List String} {label label' : String}

/-- An accepted endpoint is the normal form of the URL in the document. -/
def NormalForm (value : Json) (endpoint : String) : Prop :=
  ∃ url p, value = .str url ∧ urlsplit url = some p ∧ (p.scheme = "http".toList ∨ p.scheme = "https".toList) ∧
    endpoint = urlunsplit p.scheme p.netloc

theorem normalForm_of_minio {value : Json} {t : MinioTarget} (h : parseMinio files value hosts label = .ok t) :
    NormalForm (follow value ["endpoint"]) t.endpoint := by
  obtain ⟨fields, rfl, -, -, hendpoint, -⟩ := parseMinio_eq_ok.1 h
  obtain ⟨url, p, hurl, -, hp, inside, hnormal⟩ := normalizedEndpoint_eq_ok.1 hendpoint
  refine ⟨url, p, hurl, hp, ?_, hnormal⟩
  by_contra hscheme
  rw [not_or] at hscheme
  exact inside (.inl hscheme)

/-- The normal form names the service of the URL. -/
theorem urlsplit_normal {url : String} {p : SplitResult} (hp : urlsplit url = some p)
    (hscheme : p.scheme = "http".toList ∨ p.scheme = "https".toList) :
    urlsplit (urlunsplit p.scheme p.netloc) =
      some { scheme := p.scheme, netloc := p.netloc, fragment := [], path := [], query := [] } := by
  obtain ⟨chars, brackets, delimiters⟩ := mem_netloc hp
  exact urlsplit_urlunsplit hscheme chars brackets delimiters

theorem service_normal (p : SplitResult) :
    service { scheme := p.scheme, netloc := p.netloc, fragment := [], path := [], query := [] } = service p := rfl

/-- Endpoints that differ are of one service if and only if the document spells it differently. -/
theorem respelled_iff {value value' : Json} {endpoint endpoint' : String} (h : NormalForm value endpoint)
    (h' : NormalForm value' endpoint') (hne : endpoint ≠ endpoint') :
    SameService endpoint endpoint' ↔ Respelled value value' := by
  obtain ⟨url, p, rfl, hp, hscheme, rfl⟩ := h
  obtain ⟨url', p', rfl, hp', hscheme', rfl⟩ := h'
  have hnormal := urlsplit_normal hp hscheme
  have hnormal' := urlsplit_normal hp' hscheme'
  constructor
  · rintro ⟨q, q', s, hq, hq', hs, hs'⟩
    obtain rfl := Option.some.inj (hnormal.symm.trans hq)
    obtain rfl := Option.some.inj (hnormal'.symm.trans hq')
    refine ⟨url, url', p, p', s, rfl, rfl, hp, hp', fun heq => hne ?_, hs, hs'⟩
    rw [Prod.mk.injEq] at heq
    rw [heq.1, heq.2]
  · rintro ⟨u, u', q, q', s, hu, hu', hq, hq', -, hs, hs'⟩
    obtain rfl := Json.str.inj hu
    obtain rfl := Json.str.inj hu'
    obtain rfl := Option.some.inj (hp.symm.trans hq)
    obtain rfl := Option.some.inj (hp'.symm.trans hq')
    exact ⟨_, _, s, hnormal, hnormal', hs, hs'⟩

theorem boundedInt_eq_ok {value : Json} {minimum maximum n : ℤ} :
    boundedInt value label minimum maximum = .ok n ↔ value = .int n ∧ minimum ≤ n ∧ n ≤ maximum := by
  unfold boundedInt
  split
  · rename_i m
    split
    · rename_i bounds
      simp only [Except.ok.injEq, Json.int.injEq]
      exact ⟨fun h => h ▸ ⟨rfl, bounds⟩, fun h => h.1⟩
    · rename_i bounds
      refine ⟨nofun, fun h => ?_⟩
      obtain rfl := Json.int.inj h.1
      exact absurd h.2 bounds
  · rename_i hint
    exact ⟨nofun, fun h => absurd h.1 (hint n)⟩

/-- Databases that differ are at one place if and only if their hosts differ in letter case alone. -/
theorem recased_iff {value value' : Json} {t t' : PostgresTarget}
    (h : parsePostgres files value hosts label = .ok t) (h' : parsePostgres files value' hosts label' = .ok t')
    (hne : t.identity ≠ t'.identity) : t.place = t'.place ↔ Recased value value' := by
  obtain ⟨fields, rfl, -, hhost, hdatabase, -, hport, -⟩ := parsePostgres_eq_ok.1 h
  obtain ⟨fields', rfl, -, hhost', hdatabase', -, hport', -⟩ := parsePostgres_eq_ok.1 h'
  have port := (boundedInt_eq_ok.1 hport).1
  have port' := (boundedInt_eq_ok.1 hport').1
  have recased : Recased (.obj fields) (.obj fields') ↔ t.host ≠ t'.host ∧ lower t.host.toList = lower t'.host.toList ∧
      t.port = t'.port ∧ t.database = t'.database := by
    simp only [Recased, follow, hhost.1, hhost'.1, port, port', hdatabase.1, hdatabase'.1, Json.str.injEq,
      Json.int.injEq]
    constructor
    · rintro ⟨_, _, rfl, rfl, h⟩
      exact h
    · exact fun h => ⟨_, _, rfl, rfl, h⟩
  rw [recased, PostgresTarget.place, PostgresTarget.place, Prod.mk.injEq, Prod.mk.injEq]
  constructor
  · rintro ⟨hhosts, hports, hdatabases⟩
    refine ⟨fun heq => hne ?_, hhosts, hports, hdatabases⟩
    rw [PostgresTarget.identity, PostgresTarget.identity, heq, hports, hdatabases]
  · rintro ⟨-, hhosts, hports, hdatabases⟩
    exact ⟨hhosts, hports, hdatabases⟩

end Addresses

/-! ## Accepted topologies -/

theorem loadTopology_eq_ok {files : Files} {path expectedSha256 : String} {t : Topology} :
    loadTopology files path expectedSha256 = .ok t ↔ ∃ document observed,
      topologyDocument files path expectedSha256 = .ok (document, observed) ∧
        parseTopology files document observed = .ok t := by
  rw [loadTopology, bind_eq_ok, Prod.exists]

theorem forall_mem_iff {α β : Type} {R : α → β → Prop} {P : α → Prop} {Q : β → Prop} {as : List α} {bs : List β}
    (h : List.Forall₂ R as bs) (hR : ∀ a b, R a b → (Q b ↔ P a)) : (∀ b ∈ bs, Q b) ↔ ∀ a ∈ as, P a := by
  induction h with
  | nil => simp
  | cons hab _ ih => rw [List.forall_mem_cons, List.forall_mem_cons, hR _ _ hab, ih]

/-- The documents of accepted topologies that are isolated. -/
theorem isolated_iff {files : Files} {path expectedSha256 : String} {t : Topology}
    (h : loadTopology files path expectedSha256 = .ok t) :
    ∃ document observed, topologyDocument files path expectedSha256 = .ok (document, observed) ∧
      (Isolated t ↔ SpelledOnce document) := by
  obtain ⟨document, observed, hdocument, h⟩ := loadTopology_eq_ok.1 h
  refine ⟨document, observed, hdocument, ?_⟩
  obtain ⟨hosts, h⟩ := parseTopology_eq_ok.1 h
  obtain ⟨fields, hfields, -, -, htargets⟩ := h.targets
  have source : NormalForm (follow (.obj document) ["source", "minio", "endpoint"]) t.sourceMinio.endpoint := by
    have := normalForm_of_minio h.sourceMinio
    rwa [follow_follow] at this
  have backup : NormalForm (follow (.obj document) ["backupStore", "endpoint"]) t.backupStore.endpoint := by
    have := normalForm_of_minio h.backupStore
    rwa [follow_follow] at this
  have hbackup := respelled_iff source backup h.endpoints.symm
  have each := forall_mem_iff (mapM_eq_ok.1 htargets)
    (P := fun entry => ¬Respelled (follow entry.2 ["minio", "endpoint"])
        (follow (.obj document) ["source", "minio", "endpoint"]) ∧
      ¬Respelled (follow entry.2 ["minio", "endpoint"]) (follow (.obj document) ["backupStore", "endpoint"]) ∧
      ¬Recased (follow entry.2 ["postgres"]) (follow (.obj document) ["source", "postgres"]))
    (Q := fun entry => ¬SameService entry.2.minio.endpoint t.sourceMinio.endpoint ∧
      ¬SameService entry.2.minio.endpoint t.backupStore.endpoint ∧
      entry.2.postgres.place ≠ t.sourcePostgres.place) fun entry target htarget => by
    have h' := parseTarget_eq_ok.1 htarget
    have minio : NormalForm (follow entry.2 ["minio", "endpoint"]) target.2.minio.endpoint := by
      have := normalForm_of_minio h'.minio
      rwa [follow_follow] at this
    rw [respelled_iff minio source h'.source, respelled_iff minio backup h'.backup, ne_eq,
      recased_iff h'.postgres h.sourcePostgres h'.identity]
  have hfresh : freshTargets document = fields := by rw [freshTargets, hfields]
  constructor
  · intro isolated
    exact ⟨fun h => isolated.backup (hbackup.2 h), hfresh ▸ each.1 isolated.targets⟩
  · intro once
    exact ⟨fun h => once.backup (hbackup.1 h), each.2 (hfresh ▸ once.targets)⟩

/-! ## One service under two names -/

namespace Example

def hosts : List String := ["minio-backup", "minio-fresh", "minio-source", "postgres-fresh", "postgres-source"]

def encryptionKey : String := "000102030405060708090a0b0c0d0e0f101112131415161718191a1b1c1d1e1f"

def passwordSha256 : String := "419a613264a707eff8d61026f87a3ff01d2ca10214fb2f4619485926d4d896be"

def accessSha256 : String := "f0c31d571d1515e525c75f0ff1ca3b65af08f8870457e0635253aaf8d6b477e7"

def secretSha256 : String := "7c8bae15e2e62a80f76a291f1bbc24b27eebb7b7486b2f5bd6b4d0c5d798c000"

def backupSha256 : String := "94bb7b3a228d26f5498d24b1306671768d99cf67b19e6ac66be3ddc5d55139a8"

def keySha256 : String := "6c86c6aac5fb24bcf5d9939cb7d7d5645ce39418f449e03b262dd4fa14b4b92b"

def postgres (host : String) : Json := .obj [("database", .str "zkdeal"), ("host", .str host),
  ("passwordFile", .str "/run/secrets/password"), ("passwordSha256", .str passwordSha256), ("port", .int 5432),
  ("user", .str "zkdeal")]

def minio (endpoint secretFile secretSha256 : String) : Json := .obj [
  ("accessKeyFile", .str "/run/secrets/access"), ("accessKeySha256", .str accessSha256), ("bucket", .str "zkdeal"),
  ("endpoint", .str endpoint), ("secretKeyFile", .str secretFile), ("secretKeySha256", .str secretSha256)]

/-- A topology whose backup store has the endpoint `backup`. -/
def document (backup : String) : Dict := [
  ("allowedHosts", .arr (hosts.map .str)),
  ("backupRestoreTokenSha256", .str passwordSha256),
  ("backupStore", minio backup "/run/secrets/backup" backupSha256),
  ("candidateId", .str "fixture-candidate-20260821"),
  ("classification", .str "non-release-fixture"),
  ("encryption", .obj [("algorithm", .str "AES-256-GCM"), ("keyFile", .str "/run/secrets/key"),
    ("keySha256", .str keySha256)]),
  ("freshTargets", .obj [("fresh-primary", .obj [
    ("minio", minio "http://minio-fresh:9000" "/run/secrets/secret" secretSha256),
    ("postgres", postgres "postgres-fresh")])]),
  ("hostedIntegrationToken", .str ("sha256:" ++ passwordSha256)),
  ("planSha256", .str passwordSha256),
  ("processTimeoutSeconds", .int 900),
  ("schemaVersion", .int 1),
  ("source", .obj [("minio", minio "http://minio-source" "/run/secrets/secret" secretSha256),
    ("postgres", postgres "postgres-source")])]

/-- The topology file and the secrets it names. -/
def files (backup : String) : Files := fun path =>
  match path with
  | "/etc/zkdeal/topology.json" => some { mode := 0o600, contents := some (canonicalBytes (.obj (document backup))) }
  | "/run/secrets/password" => some { mode := 0o600, contents := some (encodeUtf8 "postgres-password") }
  | "/run/secrets/access" => some { mode := 0o600, contents := some (encodeUtf8 "minio-access-key") }
  | "/run/secrets/secret" => some { mode := 0o600, contents := some (encodeUtf8 "minio-secret-key") }
  | "/run/secrets/backup" => some { mode := 0o600, contents := some (encodeUtf8 "backup-secret-key") }
  | "/run/secrets/key" => some { mode := 0o600, contents := some (encodeUtf8 encryptionKey) }
  | _ => none

def postgresTarget (host : String) : PostgresTarget where
  host := host
  port := 5432
  database := "zkdeal"
  user := "zkdeal"
  password := "postgres-password"

def minioTarget (endpoint secretKey : String) : MinioTarget where
  endpoint := endpoint
  accessKey := "minio-access-key"
  secretKey := secretKey
  bucket := "zkdeal"

def topologySha256 (backup : String) : String := sha256 (canonicalBytes (.obj (document backup)))

/-- What is loaded. -/
def topology (backup : String) : Topology where
  classification := "non-release-fixture"
  candidateId := "fixture-candidate-20260821"
  planSha256 := passwordSha256
  hostedToken := "sha256:" ++ passwordSha256
  scopedTokenSha256 := passwordSha256
  sourcePostgres := postgresTarget "postgres-source"
  sourceMinio := minioTarget "http://minio-source" "minio-secret-key"
  backupStore := minioTarget backup "backup-secret-key"
  encryptionKey := encryptionKey
  encryptionKeyId := keyFingerprint encryptionKey
  restoreTargets := [("fresh-primary", {
    postgres := postgresTarget "postgres-fresh"
    minio := minioTarget "http://minio-fresh:9000" "minio-secret-key" })]
  timeoutSeconds := 900
  topologySha256 := topologySha256 backup

theorem sha256_secrets : sha256 (encodeUtf8 "postgres-password") = passwordSha256 ∧
    sha256 (encodeUtf8 "minio-access-key") = accessSha256 ∧ sha256 (encodeUtf8 "minio-secret-key") = secretSha256 ∧
    sha256 (encodeUtf8 "backup-secret-key") = backupSha256 ∧ sha256 (encodeUtf8 encryptionKey) = keySha256 := by
  decide +kernel

theorem readPassword (backup label : String) :
    readSecret (files backup) (.str "/run/secrets/password") (.str passwordSha256) label false =
      .ok "postgres-password" :=
  readSecret_of_contents label rfl (by decide) sha256_secrets.1

theorem readAccess (backup label : String) :
    readSecret (files backup) (.str "/run/secrets/access") (.str accessSha256) label false =
      .ok "minio-access-key" :=
  readSecret_of_contents label rfl (by decide) sha256_secrets.2.1

theorem readKey (backup label : String) :
    readSecret (files backup) (.str "/run/secrets/secret") (.str secretSha256) label false =
      .ok "minio-secret-key" :=
  readSecret_of_contents label rfl (by decide) sha256_secrets.2.2.1

theorem readBackupKey (backup label : String) :
    readSecret (files backup) (.str "/run/secrets/backup") (.str backupSha256) label false =
      .ok "backup-secret-key" :=
  readSecret_of_contents label rfl (by decide) sha256_secrets.2.2.2.1

theorem readEncryptionKey (backup label : String) :
    readSecret (files backup) (.str "/run/secrets/key") (.str keySha256) label false = .ok encryptionKey :=
  readSecret_of_contents label rfl (by decide) sha256_secrets.2.2.2.2

theorem parsePostgres_host (backup label : String) {host : String}
    (hhost : (isHost host && hosts.contains host) = true) :
    parsePostgres (files backup) (postgres host) hosts label = .ok (postgresTarget host) :=
  have name : isDbName "zkdeal" = true := by decide
  parsePostgres_eq_ok.2 ⟨_, rfl, rfl, ⟨rfl, hhost⟩, ⟨rfl, name⟩, ⟨rfl, name⟩, rfl, readPassword backup _⟩

theorem parseMinio_endpoint (backup label : String) {endpoint secretFile hash secret : String}
    (hendpoint : normalizedEndpoint (.str endpoint) hosts (label ++ ".endpoint") = .ok endpoint)
    (hsecret : readSecret (files backup) (.str secretFile) (.str hash) (label ++ ".secretKeyFile") false =
      .ok secret) :
    parseMinio (files backup) (minio endpoint secretFile hash) hosts label = .ok (minioTarget endpoint secret) :=
  have bucket : isBucket "zkdeal" = true := by decide
  parseMinio_eq_ok.2 ⟨_, rfl, rfl, ⟨rfl, bucket⟩, hendpoint, readAccess backup _, hsecret⟩

/-- Both topologies are accepted. -/
theorem load {backup : String} (sorted : Json.canonical (.obj (document backup)) = .obj (document backup))
    (plain : Json.plain (.obj (document backup)) = true)
    (short : (canonicalBytes (.obj (document backup))).length ≤ maxResponseBytes)
    (hbackup : normalizedEndpoint (.str backup) hosts "backupStore.endpoint" = .ok backup)
    (hsource : backup ≠ "http://minio-source") (hfresh : backup ≠ "http://minio-fresh:9000") :
    loadTopology (files backup) "/etc/zkdeal/topology.json" (topologySha256 backup) = .ok (topology backup) := by
  have hdocument : topologyDocument (files backup) "/etc/zkdeal/topology.json" (topologySha256 backup) =
      .ok (document backup, topologySha256 backup) := by
    have hread := strictObject_canonicalBytes "backup topology" plain sorted short
    have hash : isSha256 (topologySha256 backup) = true := isSha256_sha256 _
    rw [topologyDocument, show files backup "/etc/zkdeal/topology.json" = some
      { mode := 0o600, contents := some (canonicalBytes (.obj (document backup))) } from rfl]
    refine bind_eq_ok.2 ⟨_, rfl, bind_eq_ok.2 ⟨(), raiseIf_eq_ok.2 ?_, bind_eq_ok.2 ⟨_, hread, rfl⟩⟩⟩
    rw [hash, not_or]
    exact ⟨Bool.true_eq_false_eq_False, not_not.2 rfl⟩
  refine loadTopology_eq_ok.2 ⟨_, _, hdocument, parseTopology_eq_ok.2 ⟨hosts, ?_⟩⟩
  have candidate : isCandidate "fixture-candidate-20260821" = true := by decide
  have hash : isSha256 passwordSha256 = true := by decide
  have token : isToken ("sha256:" ++ passwordSha256) = true := by decide
  have allowed : parseHosts (.arr (hosts.map .str)) = .ok hosts := by decide
  have key : isSha256 encryptionKey = true := by decide
  have secrets : ("minio-access-key", "backup-secret-key") ≠ ("minio-access-key", "minio-secret-key") := by decide
  have databases : (postgresTarget "postgres-fresh").identity ≠ (postgresTarget "postgres-source").identity := by
    decide
  have stores : "http://minio-fresh:9000" ≠ "http://minio-source" := by decide
  exact {
    keys := rfl
    schema := rfl
    classification := ⟨rfl, rfl⟩
    candidateId := ⟨rfl, candidate⟩
    planSha256 := ⟨rfl, hash⟩
    hostedToken := ⟨rfl, token⟩
    scopedToken := ⟨rfl, hash⟩
    allowedHosts := allowed
    source := ⟨_, rfl, rfl⟩
    sourcePostgres := parsePostgres_host backup _ (by decide)
    sourceMinio := parseMinio_endpoint backup _ (by decide) (readKey backup _)
    backupStore := parseMinio_endpoint backup _ hbackup (readBackupKey backup _)
    endpoints := hsource
    credentials := secrets
    encryption := ⟨_, rfl, rfl, rfl, readEncryptionKey backup _⟩
    key := ⟨key, rfl⟩
    targets := ⟨_, rfl, by decide, by decide, mapM_eq_ok.2 (.cons (parseTarget_eq_ok.2 {
      name := ⟨rfl, by decide⟩
      keys := ⟨_, rfl, rfl⟩
      postgres := parsePostgres_host backup _ (by decide)
      minio := parseMinio_endpoint backup _ (by decide) (readKey backup _)
      identity := databases
      source := stores
      backup := hfresh.symm }) .nil)⟩
    timeout := rfl
    observed := rfl }

/-- The backup store is the source under its default port. -/
theorem load_alias : loadTopology (files "http://minio-source:80") "/etc/zkdeal/topology.json"
    (topologySha256 "http://minio-source:80") = .ok (topology "http://minio-source:80") := by
  have short : (Json.encode false true (.obj (document "http://minio-source:80"))).length ≤ 4000 := by
    decide +kernel
  exact load (by decide) (by decide) (canonicalBytes_length_le.trans (by unfold maxResponseBytes; omega))
    (by decide) (by decide) (by decide)

theorem service_of_url {url : String} {s : String × ℕ} (h : (urlsplit url).bind service = some s) :
    ∃ p, urlsplit url = some p ∧ service p = some s := Option.bind_eq_some_iff.1 h

end Example

/-- An accepted topology may back up into its source. -/
theorem not_isolated : ¬∀ files path expectedSha256 t,
    loadTopology files path expectedSha256 = .ok t → Isolated t := by
  intro h
  have isolated := h _ _ _ _ Example.load_alias
  have source : (urlsplit "http://minio-source").bind service = some ("minio-source", 80) := by decide
  have target : (urlsplit "http://minio-source:80").bind service = some ("minio-source", 80) := by decide
  obtain ⟨p, hp, hs⟩ := Example.service_of_url source
  obtain ⟨p', hp', hs'⟩ := Example.service_of_url target
  exact isolated.backup ⟨p, p', _, hp, hp', hs, hs'⟩

theorem isolated_alias : ∃ document observed,
    topologyDocument (Example.files "http://minio-source:80") "/etc/zkdeal/topology.json"
        (Example.topologySha256 "http://minio-source:80") = .ok (document, observed) ∧
      (Isolated (Example.topology "http://minio-source:80") ↔ SpelledOnce document) :=
  isolated_iff Example.load_alias

end Zkdeal.BackupRestore
