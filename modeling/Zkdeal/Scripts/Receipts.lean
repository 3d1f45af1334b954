import Mathlib.Data.List.Dedup
import Zkdeal.Scripts.LiveInspection
import Zkdeal.Scripts.KurtosisRun

/-!
# Receipts that the launcher accepts

A receipt of `validate` is printed with sorted keys, and the launcher reads it back.  The launcher accepts the
document exactly if it is called for the candidate and the token of the receipt and the three numbers of the
receipt are written as integers: what it reads is there in every receipt.
-/

namespace Zkdeal.Scripts

open Interaction Python Json Python.Sha256
open BackupRestore (item follow)

/-- A receipt as it is printed: with sorted keys. -/
def printed (d : Dict) : Dict := Dict.sorted (canonicalFields d)

theorem canonical_obj (d : Dict) : canonical (.obj d) = .obj (printed d) := rfl

@[simp] theorem item_printed (d : Dict) (key : String) : item (printed d) key = canonical (item d key) := by
  have mapped := Dict.get_mapValues d (fun _ v => canonical v) key
  rw [item, item, printed, Dict.get_sorted, canonicalFields_eq_map, mapped]
  cases Dict.get d key <;> rfl

@[simp] theorem hasKeys_printed (d : Dict) (keys : List String) : (printed d).hasKeys keys = d.hasKeys keys := by
  rw [printed, Dict.hasKeys_sorted, canonicalFields_eq_map]
  exact Dict.hasKeys_mapValues d (fun _ v => canonical v) keys

theorem item_set (d : Dict) (key key' : String) (value : Json) :
    item (d.set key value) key' = if key' = key then value else item d key' := by
  rw [item, Dict.get_set]
  split
  · rfl
  · rfl

/-! ## URLs -/

/-- A base URL of a service. -/
def IsBase (url : String) : Prop :=
  ∃ given parsed, urlsplit given = some parsed ∧ parsed.isHttp = true ∧ parsed.hostname ≠ "" ∧
    parsed.hasCredentials = false ∧ url = parsed.base

theorem isBase_of_privateUrl {w : Surroundings} {value : Json} {label url : String}
    (h : privateUrl w value label = .ok url) : IsBase url := by
  unfold privateUrl at h
  split at h
  · rename_i given
    cases hsplit : urlsplit given with
    | none =>
      rw [hsplit] at h
      cases h
    | some parsed =>
      rw [hsplit] at h
      obtain ⟨_, shape, h⟩ := bind_eq_ok.1 h
      obtain ⟨_, -, h⟩ := bind_eq_ok.1 h
      obtain rfl := Except.ok.inj h
      have shape := raiseIf_eq_ok.1 shape
      simp only [not_or, Bool.not_eq_false, Bool.not_eq_true] at shape
      exact ⟨given, parsed, hsplit, shape.1, shape.2.1, shape.2.2.1, rfl⟩
  · cases h

/-- A base URL is normal. -/
theorem normalizedEndpoint_base {url : String} (h : IsBase url) (label : String) :
    normalizedEndpoint (.str url) label = .ok url := by
  obtain ⟨given, parsed, hsplit, http, host, anonymous, rfl⟩ := h
  unfold normalizedEndpoint
  simp only [urlsplit_base hsplit http host]
  refine bind_eq_ok.2 ⟨(), raiseIf_eq_ok.2 ?_, bind_eq_ok.2 ⟨(), raiseIf_eq_ok.2 (by simp), ?_⟩⟩
  · have http' : ParseResult.isHttp { parsed.toParseResult with fragment := [] } = true := http
    have host' : ParseResult.hostname { parsed.toParseResult with fragment := [] } ≠ "" := host
    have anonymous' : ParseResult.hasCredentials { parsed.toParseResult with fragment := [] } = false := anonymous
    simp [http', host', anonymous']
  · refine congrArg Except.ok ?_
    rw [SplitResult.base, rstripSlashes_idem]
    rfl

/-! ## Objects of the schema -/

theorem hasKeys_of_closed {required : List String} {properties : List (String × Schema)} {d : Dict}
    (h : Schema.Closed required properties d) (names : ∀ p ∈ properties, p.1 ∈ required) :
    d.hasKeys required = true := by
  refine Dict.hasKeys_iff.2 ⟨fun kv hkv => ?_, fun key hkey => ?_⟩
  · obtain ⟨schema, hs⟩ := Option.isSome_iff_exists.1 (h.closed kv hkv)
    obtain ⟨before, after, hp, -⟩ := List.lookup_eq_some_iff.1 hs
    exact names (kv.1, schema) (by rw [hp]; simp)
  · obtain ⟨v, hv⟩ := h.required key hkey
    rw [hv]
    rfl

theorem item_of_closed {required : List String} {properties : List (String × Schema)} {d : Dict}
    (h : Schema.Closed required properties d) {key : String} {schema : Schema} (hkey : key ∈ required)
    (hs : (key, schema) ∈ properties) : schema.valid (item d key) = true := by
  obtain ⟨v, hv, valid⟩ := h.property hkey hs
  rw [item, hv]
  exact valid

/-- A URL with a workload. -/
structure IsEndpoint (e : Dict) : Prop where
  keys : e.hasKeys ["url", "workload"] = true
  workload : ∃ name, item e "workload" = .str name

theorem isEndpoint_of_valid {v : Json} (h : endpointSchema.valid v = true) : ∃ e, v = .obj e ∧ IsEndpoint e := by
  obtain ⟨e, rfl, closed⟩ := Schema.closed_of_valid h
  obtain ⟨name, hname, -⟩ := Schema.str_of_valid
    (item_of_closed closed (List.mem_cons_of_mem "url" (List.mem_singleton.2 rfl))
      (List.mem_cons_of_mem _ (List.mem_singleton.2 rfl)))
  exact ⟨e, rfl, hasKeys_of_closed closed (by simp), name, hname⟩

/-- The failover control of a topology that its schema accepts. -/
structure IsControl (failover first second health promotion : Dict) : Prop where
  keys : failover.hasKeys failoverControlKeys = true
  witnesses : item failover "activeWitnesses" = .arr [.obj first, .obj second]
  standbyHealth : item failover "standbyHealth" = .obj health
  promotionEndpoint : item failover "promotionEndpoint" = .obj promotion
  endpoints : ∀ e ∈ [first, second, health, promotion], IsEndpoint e
  flags : ∀ key ∈ ["independentWitnesses", "scopedApprovalRequired", "standbySignerlessBeforeFence"],
    item failover key = .bool true
  failureThreshold : ∃ n, Schema.integral (item failover "failureThreshold") = some n ∧ 3 ≤ n ∧ n ≤ 20
  maxRtoSeconds : ∃ n, Schema.integral (item failover "maxRtoSeconds") = some n ∧ 30 ≤ n ∧ n ≤ 300

theorem isControl_of_closed {failover : Dict}
    (h : Schema.Closed failoverControlKeys failoverControlProperties failover) :
    ∃ first second health promotion, IsControl failover first second health promotion := by
  have part {key : String} {schema : Schema} (hkey : key ∈ failoverControlKeys)
      (hs : (key, schema) ∈ failoverControlProperties) : schema.valid (item failover key) = true :=
    item_of_closed h hkey hs
  have witnesses : (Schema.array endpointSchema 2 2).valid (item failover "activeWitnesses") = true :=
    part (by decide) (by simp [failoverControlProperties])
  have health : endpointSchema.valid (item failover "standbyHealth") = true :=
    part (by decide) (by simp [failoverControlProperties])
  have promotion : endpointSchema.valid (item failover "promotionEndpoint") = true :=
    part (by decide) (by simp [failoverControlProperties])
  have threshold : (Schema.integer false 3 (some 20)).valid (item failover "failureThreshold") = true :=
    part (by decide) (by simp [failoverControlProperties])
  have rto : (Schema.integer false 30 (some 300)).valid (item failover "maxRtoSeconds") = true :=
    part (by decide) (by simp [failoverControlProperties])
  have flag {key : String} (hkey : key ∈ failoverControlKeys)
      (hs : (key, Schema.const (.bool true)) ∈ failoverControlProperties) : item failover key = .bool true :=
    Schema.bool_of_valid (part hkey hs)
  obtain ⟨first, second, hpair, hfirst, hsecond⟩ := Schema.pair_of_valid witnesses
  obtain ⟨first, rfl, first_⟩ := isEndpoint_of_valid hfirst
  obtain ⟨second, rfl, second_⟩ := isEndpoint_of_valid hsecond
  obtain ⟨health, hhealth, health_⟩ := isEndpoint_of_valid health
  obtain ⟨promotion, hpromotion, promotion_⟩ := isEndpoint_of_valid promotion
  obtain ⟨threshold, hthreshold, lo, hi⟩ := Schema.integral_of_valid threshold
  obtain ⟨rto, hrto, lo', hi'⟩ := Schema.integral_of_valid rto
  refine ⟨first, second, health, promotion, ?_⟩
  refine {
    keys := hasKeys_of_closed h (by decide)
    witnesses := hpair
    standbyHealth := hhealth
    promotionEndpoint := hpromotion
    endpoints := by simp [first_, second_, health_, promotion_]
    flags := ?_
    failureThreshold := ⟨threshold, hthreshold, lo, hi 20 rfl⟩
    maxRtoSeconds := ⟨rto, hrto, lo', hi' 300 rfl⟩ }
  intro key hkey
  simp only [List.mem_cons, List.not_mem_nil, or_false] at hkey
  rcases hkey with rfl | rfl | rfl
  · exact flag (by decide) (by simp [failoverControlProperties])
  · exact flag (by decide) (by simp [failoverControlProperties])
  · exact flag (by decide) (by simp [failoverControlProperties])

/-! ## What the checks leave -/

/-- The endpoints of a receipt. -/
structure IsEndpoints (normalized : List (String × String)) : Prop where
  keys : Dict.hasKeys (normalized.map fun kv => (kv.1, .str kv.2)) endpointNames = true
  bases : ∀ kv ∈ normalized, IsBase kv.2
  queue : normalized.lookup "queue" = normalized.lookup "coordinator"

theorem lookup_mapValues {α β : Type} (f : α → β) (l : List (String × α)) (key : String) :
    (l.map fun kv => (kv.1, f kv.2)).lookup key = (l.lookup key).map f := by
  induction l with
  | nil => rfl
  | cons kv l ih =>
    rw [List.map_cons, List.lookup_cons, List.lookup_cons, ih]
    cases key == kv.1 <;> rfl

/-- The keys of a dictionary are those of its items. -/
theorem hasKeys_congr {d d' : Dict} (h : d.map Prod.fst = d'.map Prod.fst) (keys : List String) :
    d.hasKeys keys = d'.hasKeys keys := by
  have present (d : Dict) (key : String) : (d.get key).isSome = true ↔ key ∈ d.map Prod.fst := by
    rw [Dict.get, List.lookup_isSome_iff, List.mem_map]
    simp only [beq_iff_eq, eq_comm (a := key)]
  have all (d : Dict) : (∀ kv ∈ d, kv.1 ∈ keys) ↔ ∀ key ∈ d.map Prod.fst, key ∈ keys := List.forall_mem_map.symm
  rw [Bool.eq_iff_iff, Dict.hasKeys_iff, Dict.hasKeys_iff, all, all, h]
  simp only [present, h]

theorem isEndpoints_of_checkEndpoints {w : Surroundings} {endpoints : Dict} {normalized : List (String × String)}
    (h : checkEndpoints w endpoints = .ok normalized) : IsEndpoints normalized := by
  unfold checkEndpoints at h
  obtain ⟨_, keys, h⟩ := bind_eq_ok.1 h
  obtain ⟨normalized, urls, h⟩ := bind_eq_ok.1 h
  obtain ⟨_, queue, h⟩ := bind_eq_ok.1 h
  obtain ⟨_, -, h⟩ := bind_eq_ok.1 h
  obtain rfl := Except.ok.inj h
  have keys := raiseIf_eq_ok.1 keys
  have queue := raiseIf_eq_ok.1 queue
  rw [Bool.not_eq_false] at keys
  have each {e : String × Json} {b : String × String} (he : normalizedUrl w e = .ok b) : e.1 = b.1 ∧ IsBase b.2 := by
    obtain ⟨url, hurl, rfl⟩ := map_eq_ok.1 he
    exact ⟨rfl, isBase_of_privateUrl hurl⟩
  refine ⟨?_, fun kv hkv => ?_, ?_⟩
  · have names : endpoints.map Prod.fst = (normalized.map fun kv => (kv.1, Json.str kv.2)).map Prod.fst := by
      rw [List.map_map]
      exact List.forall₂_eq_eq_eq ▸ List.forall₂_map_right_iff.2
        (List.forall₂_map_left_iff.2 ((mapM_eq_ok.1 urls).imp fun _ _ he => (each he).1))
    rw [← hasKeys_congr names]
    exact keys
  · obtain ⟨e, -, he⟩ := mapM_mem_right urls hkv
    exact (each he).2
  · rw [not_or, not_not] at queue
    exact queue.1

/-- The URLs of the failover control of a receipt. -/
structure IsUrls (first second health promotion : Dict) (urls : FailoverUrls) : Prop where
  witnesses : ∃ a b, urls.witnesses = [a, b] ∧ IsBase a ∧ IsBase b ∧
    ∃ origins, [a, b].mapM authority = .ok origins ∧ origins.dedup.length = 2
  workloads : item first "workload" ≠ item second "workload"
  standbyHealth : IsBase urls.standbyHealth
  promotionEndpoint : IsBase urls.promotionEndpoint
  standby : item health "workload" = .str "coordinator-standby" ∧ item promotion "workload" = .str "coordinator-standby"

theorem witnesses_of_checkWitnesses {w : Surroundings} {first second workloads images : Dict} {kind : String}
    {urls : List String} (h : checkWitnesses w [.obj first, .obj second] workloads images kind = .ok urls) :
    (∃ a b, urls = [a, b] ∧ IsBase a ∧ IsBase b ∧
      ∃ origins, [a, b].mapM authority = .ok origins ∧ origins.dedup.length = 2) ∧
      item first "workload" ≠ item second "workload" := by
  unfold checkWitnesses at h
  obtain ⟨urls, hurls, h⟩ := bind_eq_ok.1 h
  obtain ⟨origins, horigins, h⟩ := bind_eq_ok.1 h
  obtain ⟨_, distinct, h⟩ := bind_eq_ok.1 h
  obtain ⟨_, different, h⟩ := bind_eq_ok.1 h
  obtain ⟨_, -, h⟩ := bind_eq_ok.1 h
  obtain rfl := Except.ok.inj h
  have distinct := not_not.1 (raiseIf_eq_ok.1 distinct)
  have different := not_not.1 (raiseIf_eq_ok.1 different)
  rw [List.zipIdx_cons, List.zipIdx_cons, List.zipIdx_nil] at hurls
  obtain ⟨a, _, ha, rest, rfl⟩ := List.forall₂_cons_left_iff.1 (mapM_eq_ok.1 hurls)
  obtain ⟨b, _, hb, none_, rfl⟩ := List.forall₂_cons_left_iff.1 rest
  obtain rfl := List.forall₂_nil_left_iff.1 none_
  refine ⟨⟨a, b, rfl, isBase_of_privateUrl ha, isBase_of_privateUrl hb, origins, horigins, distinct⟩, fun same => ?_⟩
  have named : follow (.obj first) ["workload"] = follow (.obj second) ["workload"] := same
  rw [List.map_cons, List.map_cons, List.map_nil, named, List.dedup_cons_of_mem (List.mem_cons_self ..)] at different
  have single : [follow (Json.obj second) ["workload"]].dedup.length ≤ 1 := (List.dedup_sublist _).length_le
  omega

theorem isUrls_of_checkFailover {w : Surroundings} {failover workloads images first second health promotion : Dict}
    {kind : String} {urls : FailoverUrls} (control : IsControl failover first second health promotion)
    (h : checkFailover w failover workloads images kind = .ok urls) : IsUrls first second health promotion urls := by
  unfold checkFailover at h
  obtain ⟨_, -, h⟩ := bind_eq_ok.1 h
  dsimp only at h
  rw [control.witnesses, control.standbyHealth, control.promotionEndpoint] at h
  obtain ⟨witnesses, hwitnesses, h⟩ := bind_eq_ok.1 h
  obtain ⟨standbyHealth, hhealth, h⟩ := bind_eq_ok.1 h
  obtain ⟨promotionEndpoint, hpromotion, h⟩ := bind_eq_ok.1 h
  obtain ⟨_, -, h⟩ := bind_eq_ok.1 h
  obtain ⟨_, -, h⟩ := bind_eq_ok.1 h
  obtain ⟨_, bound, h⟩ := bind_eq_ok.1 h
  obtain ⟨_, -, h⟩ := bind_eq_ok.1 h
  obtain ⟨_, -, h⟩ := bind_eq_ok.1 h
  obtain ⟨_, -, h⟩ := bind_eq_ok.1 h
  obtain ⟨_, -, h⟩ := bind_eq_ok.1 h
  obtain ⟨_, -, h⟩ := bind_eq_ok.1 h
  obtain ⟨_, -, h⟩ := bind_eq_ok.1 h
  obtain rfl := Except.ok.inj h
  have bound := raiseIf_eq_ok.1 bound
  simp only [not_or, Bool.not_eq_false, eqStr_iff] at bound
  obtain ⟨urls, workloads⟩ := witnesses_of_checkWitnesses hwitnesses
  exact ⟨urls, workloads, isBase_of_privateUrl hhealth, isBase_of_privateUrl hpromotion, bound.1, bound.2.1⟩

/-! ## What the launcher reads -/

/-- The entries of a receipt that the launcher reads, as the topology and the descriptor give them. -/
structure Describes (candidate topology failover : Dict) (c : Checked) (value : Dict) : Prop where
  schema : item value "schema" = .str "zkdeal/candidate-private-topology-verification/v1"
  passed : item value "passed" = .bool true
  candidateId : item value "candidateId" = canonical (item candidate "candidateId")
  hostedToken : item value "hostedIntegrationToken" = canonical (item topology "hostedIntegrationToken")
  refused : ∀ key ∈ ["fixtureEndpointsAccepted", "standaloneQueueAccepted", "sharedSinglePostgresAccepted",
    "credentialValuesRecorded"], item value key = .bool false
  ownerSchema : item value "ownerDatabaseSchema" = canonical (item topology "ownerDatabaseSchema")
  endpoints : item value "endpoints" = .obj (printed (c.normalized.map fun kv => (kv.1, .str kv.2)))
  failoverControl : item value "failoverControl" = .obj (printed (receiptControl failover c.failover))

theorem describes_receipt (candidate topology : Dict) (candidateSha256 topologySha256 : String) (c : Checked)
    (workloads : List (String × Json)) (replication : Option Json) :
    Describes candidate topology (sectionOf topology "failoverControl") c
      (printed (receipt candidate topology candidateSha256 topologySha256 c workloads replication)) := by
  have entry {key : String} {v : Json}
      (h : item (receipt candidate topology candidateSha256 topologySha256 c workloads replication) key = v) :
      item (printed (receipt candidate topology candidateSha256 topologySha256 c workloads replication)) key =
        canonical v := by
    rw [item_printed, h]
  refine ⟨entry rfl, entry rfl, entry rfl, entry rfl, fun key hkey => ?_, entry rfl, entry rfl, entry rfl⟩
  simp only [List.mem_cons, List.not_mem_nil, or_false] at hkey
  rcases hkey with rfl | rfl | rfl | rfl
  all_goals exact entry (v := .bool false) rfl

/-- The receipt is of the candidate and the token, and its numbers are integers. -/
structure Fits (candidate topology : Dict) (candidateId hostedToken : String) : Prop where
  candidateId : item candidate "candidateId" = .str candidateId
  hostedToken : item topology "hostedIntegrationToken" = .str hostedToken
  ownerSchema : ∃ n, item topology "ownerDatabaseSchema" = .int n
  failureThreshold : ∃ n, item (sectionOf topology "failoverControl") "failureThreshold" = .int n
  maxRtoSeconds : ∃ n, item (sectionOf topology "failoverControl") "maxRtoSeconds" = .int n

@[simp] theorem canonical_eq_str {v : Json} {s : String} : canonical v = .str s ↔ v = .str s := by
  cases v <;> simp [canonical]

theorem isEligible_iff {candidate topology failover value : Dict} {c : Checked} {candidateId hostedToken : String}
    (d : Describes candidate topology failover c value) :
    isEligible value candidateId hostedToken = true ↔
      item candidate "candidateId" = .str candidateId ∧ item topology "hostedIntegrationToken" = .str hostedToken := by
  have refused := d.refused
  simp only [List.forall_mem_cons] at refused
  obtain ⟨fixture, queue, postgres, credentials, -⟩ := refused
  rw [isEligible, d.schema, d.passed, fixture, queue, postgres, credentials]
  simp only [isBool, Bool.and_eq_true, eqStr_iff, d.candidateId, d.hostedToken, canonical_eq_str, decide_true, true_and,
    and_true]

/-- The endpoints of a receipt are taken as they are. -/
theorem loadEndpoints_of_isEndpoints {normalized : List (String × String)} (h : IsEndpoints normalized) :
    ∃ endpoints, loadEndpoints (.obj (printed (normalized.map fun kv => (kv.1, .str kv.2)))) = .ok endpoints := by
  have texts (d : Dict) (bases : ∀ kv ∈ d, ∃ url, kv.2 = .str url ∧ IsBase url) :
      d.mapM loadEndpoint = .ok (d.map fun kv => (kv.1, strOf kv.2)) := by
    refine mapM_eq_ok.2 (List.forall₂_map_right_iff.2 (List.forall₂_same.2 fun kv hkv => ?_))
    obtain ⟨url, hurl, base⟩ := bases kv hkv
    rw [loadEndpoint, hurl, normalizedEndpoint_base base]
    rfl
  have bases : ∀ kv ∈ printed (normalized.map fun kv => (kv.1, .str kv.2)), ∃ url, kv.2 = .str url ∧ IsBase url := by
    intro kv hkv
    rw [printed, canonicalFields_eq_map, Dict.sorted, List.mem_insertionSort, List.map_map, List.mem_map] at hkv
    obtain ⟨e, he, rfl⟩ := hkv
    exact ⟨e.2, rfl, h.bases e he⟩
  have looked (key : String) :
      ((printed (normalized.map fun kv => (kv.1, .str kv.2))).map fun kv => (kv.1, strOf kv.2)).lookup key =
        normalized.lookup key := by
    have printed_ := Dict.get_sorted (canonicalFields (normalized.map fun kv => (kv.1, .str kv.2))) key
    rw [canonicalFields_eq_map, List.map_map] at printed_
    rw [lookup_mapValues, printed, canonicalFields_eq_map, List.map_map]
    unfold Dict.get at printed_
    rw [printed_]
    refine (congrArg (Option.map strOf) (lookup_mapValues (fun url => canonical (.str url)) normalized key)).trans ?_
    rw [Option.map_map]
    exact Option.map_id'
  refine ⟨_, bind_eq_ok.2 ⟨_, rfl, bind_eq_ok.2 ⟨(), raiseIf_eq_ok.2 ?_, bind_eq_ok.2 ⟨_, texts _ bases,
    bind_eq_ok.2 ⟨(), raiseIf_eq_ok.2 ?_, rfl⟩⟩⟩⟩⟩
  · rw [hasKeys_printed, Bool.not_eq_false]
    exact h.keys
  · rw [looked, looked, not_not]
    exact h.queue

/-- An endpoint of a receipt. -/
theorem printed_endpoint {e : Dict} (h : IsEndpoint e) (url : String) :
    isBinding (.obj (printed (e.set "url" (.str url)))) = true ∧
      follow (.obj (printed (e.set "url" (.str url)))) ["url"] = .str url ∧
      follow (.obj (printed (e.set "url" (.str url)))) ["workload"] = item e "workload" := by
  obtain ⟨keys, name, hname⟩ := h
  refine ⟨?_, ?_, ?_⟩
  · rw [isBinding, hasKeys_printed]
    exact Dict.hasKeys_set keys (List.mem_cons_self ..) _
  · rw [follow, follow, item_printed, item_set, if_pos rfl]
    rfl
  · rw [follow, follow, item_printed, item_set, if_neg (by decide), hname]
    rfl

/-- The witnesses of a receipt are taken as they are. -/
theorem loadWitnesses_of_isUrls {first second : Dict} {a b : String} (hfirst : IsEndpoint first)
    (hsecond : IsEndpoint second) (ha : IsBase a) (hb : IsBase b) {origins : List (List Char)}
    (horigins : [a, b].mapM authority = .ok origins) (distinct : origins.dedup.length = 2)
    (different : item first "workload" ≠ item second "workload") :
    loadWitnesses (.arr [.obj (printed (first.set "url" (.str a))), .obj (printed (second.set "url" (.str b)))]) =
      .ok [a, b] := by
  obtain ⟨binding, url, workload⟩ := printed_endpoint hfirst a
  obtain ⟨binding', url', workload'⟩ := printed_endpoint hsecond b
  obtain ⟨name, hname⟩ := hfirst.workload
  obtain ⟨name', hname'⟩ := hsecond.workload
  have one {e : Json} {url : String} (i : ℕ) (hbinding : isBinding e = true) (hurl : follow e ["url"] = .str url)
      (base : IsBase url) : loadWitness (e, i) = .ok (url, strOf (follow e ["workload"])) := by
    unfold loadWitness
    refine bind_eq_ok.2 ⟨(), raiseIf_eq_ok.2 (by simp [hbinding]), bind_eq_ok.2 ⟨url, ?_, rfl⟩⟩
    rw [hurl]
    exact normalizedEndpoint_base base _
  have names : name ≠ name' := by
    rintro rfl
    exact different (hname.trans hname'.symm)
  have all : [(Json.obj (printed (first.set "url" (.str a))), 0), (.obj (printed (second.set "url" (.str b))), 1)].mapM
      loadWitness = .ok [(a, name), (b, name')] := by
    refine mapM_eq_ok.2 (.cons ?_ (.cons ?_ .nil))
    · rw [one 0 binding url ha, workload, hname]
      rfl
    · rw [one 1 binding' url' hb, workload', hname']
      rfl
  unfold loadWitnesses
  refine bind_eq_ok.2 ⟨_, all, bind_eq_ok.2 ⟨origins, horigins, bind_eq_ok.2 ⟨(), raiseIf_eq_ok.2 ?_, rfl⟩⟩⟩
  simp [distinct, names]

theorem boundedNumber_iff {v : Json} {lo hi : ℤ} (h : ∃ n, Schema.integral v = some n ∧ lo ≤ n ∧ n ≤ hi) :
    (∃ n, boundedNumber (canonical v) lo hi = .ok n) ↔ ∃ n, v = .int n := by
  obtain ⟨n, hn, bounds⟩ := h
  cases v with
  | int m =>
    obtain rfl := Option.some.inj hn
    refine ⟨fun _ => ⟨m, rfl⟩, fun _ => ⟨m, ?_⟩⟩
    rw [canonical, boundedNumber, if_pos bounds]
    all_goals exact nofun
  | _ => simp [canonical, boundedNumber]

theorem ownerSchema_iff {v : Json} (h : ∃ n, Schema.integral v = some n ∧ 1 ≤ n) :
    (∃ n, ownerSchema (canonical v) = .ok n) ↔ ∃ n, v = .int n := by
  obtain ⟨n, hn, bound⟩ := h
  cases v with
  | int m =>
    obtain rfl := Option.some.inj hn
    refine ⟨fun _ => ⟨m, rfl⟩, fun _ => ⟨m, ?_⟩⟩
    rw [canonical, ownerSchema, if_neg (by omega)]
    all_goals exact nofun
  | bool b => cases hn
  | _ => simp [canonical, ownerSchema]

/-- The failover control of a receipt, but for its numbers, is taken as it is. -/
theorem loadControl_iff {failover first second health promotion : Dict} {urls : FailoverUrls}
    (control : IsControl failover first second health promotion) (h : IsUrls first second health promotion urls)
    (normalized : List (String × String)) :
    (∃ c, loadControl (.obj (printed (receiptControl failover urls))) normalized = .ok c) ↔
      (∃ n, item failover "failureThreshold" = .int n) ∧ ∃ n, item failover "maxRtoSeconds" = .int n := by
  obtain ⟨⟨a, b, hab, ha, hb, origins, horigins, distinct⟩, different, health_, promotion_, standby⟩ := h
  have value : receiptControl failover urls =
      ((failover.set "activeWitnesses" (.arr [.obj (first.set "url" (.str a)), .obj (second.set "url" (.str b))])).set
        "standbyHealth" (.obj (health.set "url" (.str urls.standbyHealth)))).set "promotionEndpoint"
        (.obj (promotion.set "url" (.str urls.promotionEndpoint))) := by
    rw [receiptControl]
    simp only [control.witnesses, control.standbyHealth, control.promotionEndpoint, hab, List.zipWith_cons_cons,
      List.zipWith_nil_left]
  have keys : (printed (receiptControl failover urls)).hasKeys requiredControl = true := by
    rw [hasKeys_printed, value]
    exact Dict.hasKeys_set (Dict.hasKeys_set (Dict.hasKeys_set control.keys (by decide) _) (by decide) _) (by decide) _
  have kept (key : String) (hkey : key ∉ ["activeWitnesses", "standbyHealth", "promotionEndpoint"]) :
      item (printed (receiptControl failover urls)) key = canonical (item failover key) := by
    simp only [List.mem_cons, List.not_mem_nil, or_false, not_or] at hkey
    rw [item_printed, value, item_set, item_set, item_set, if_neg hkey.2.2, if_neg hkey.2.1, if_neg hkey.1]
  have flag (key : String) (hkey : key ∈ ["independentWitnesses", "scopedApprovalRequired",
      "standbySignerlessBeforeFence"]) : item (printed (receiptControl failover urls)) key = .bool true := by
    rw [kept key (by revert key; decide), control.flags key hkey]
    rfl
  have witnesses : item (printed (receiptControl failover urls)) "activeWitnesses" =
      .arr [.obj (printed (first.set "url" (.str a))), .obj (printed (second.set "url" (.str b)))] := by
    rw [item_printed, value, item_set, item_set, item_set]
    rfl
  have standbyHealth : item (printed (receiptControl failover urls)) "standbyHealth" =
      .obj (printed (health.set "url" (.str urls.standbyHealth))) := by
    rw [item_printed, value, item_set, item_set]
    rfl
  have promotionEndpoint : item (printed (receiptControl failover urls)) "promotionEndpoint" =
      .obj (printed (promotion.set "url" (.str urls.promotionEndpoint))) := by
    rw [item_printed, value, item_set]
    rfl
  have endpoint {e : Dict} (he : e ∈ [first, second, health, promotion]) := control.endpoints e he
  obtain ⟨binding, url, workload⟩ := printed_endpoint (endpoint (e := health) (by simp)) urls.standbyHealth
  obtain ⟨binding', url', workload'⟩ := printed_endpoint (endpoint (e := promotion) (by simp)) urls.promotionEndpoint
  have paired := loadWitnesses_of_isUrls (endpoint (e := first) (by simp)) (endpoint (e := second) (by simp)) ha hb
    horigins distinct different
  rw [← boundedNumber_iff control.failureThreshold, ← boundedNumber_iff control.maxRtoSeconds]
  have threshold := kept "failureThreshold" (by decide)
  have rto := kept "maxRtoSeconds" (by decide)
  constructor
  · rintro ⟨c, h⟩
    unfold loadControl at h
    obtain ⟨_, hvalue, h⟩ := bind_eq_ok.1 h
    obtain rfl := Except.ok.inj hvalue
    obtain ⟨_, -, h⟩ := bind_eq_ok.1 h
    obtain ⟨_, -, h⟩ := bind_eq_ok.1 h
    obtain ⟨_, -, h⟩ := bind_eq_ok.1 h
    obtain ⟨_, -, h⟩ := bind_eq_ok.1 h
    obtain ⟨_, -, h⟩ := bind_eq_ok.1 h
    obtain ⟨_, -, h⟩ := bind_eq_ok.1 h
    obtain ⟨n, hn, h⟩ := bind_eq_ok.1 h
    obtain ⟨m, hm, h⟩ := bind_eq_ok.1 h
    rw [threshold] at hn
    rw [rto] at hm
    exact ⟨⟨n, hn⟩, m, hm⟩
  · rintro ⟨⟨n, hn⟩, m, hm⟩
    unfold loadControl
    refine ⟨_, bind_eq_ok.2 ⟨_, rfl, bind_eq_ok.2 ⟨(), raiseIf_eq_ok.2 (by simp [keys]), bind_eq_ok.2 ⟨(),
      raiseIf_eq_ok.2 ?_, bind_eq_ok.2 ⟨[a, b], ?_, bind_eq_ok.2 ⟨(), raiseIf_eq_ok.2 ?_, bind_eq_ok.2
      ⟨urls.standbyHealth, ?_, bind_eq_ok.2 ⟨urls.promotionEndpoint, ?_, bind_eq_ok.2 ⟨n, ?_, bind_eq_ok.2 ⟨m, ?_, rfl⟩⟩⟩⟩⟩⟩⟩⟩⟩⟩
    · rw [flag "independentWitnesses" (by decide), flag "scopedApprovalRequired" (by decide),
        flag "standbySignerlessBeforeFence" (by decide)]
      decide
    · rw [witnesses]
      exact paired
    · rw [standbyHealth, promotionEndpoint, binding, binding', workload, workload', standby.1, standby.2]
      decide
    · rw [standbyHealth, url]
      exact normalizedEndpoint_base health_ _
    · rw [promotionEndpoint, url']
      exact normalizedEndpoint_base promotion_ _
    · rw [threshold]
      exact hn
    · rw [rto]
      exact hm

theorem ownerSchema_of_valid {topology : Dict} (h : topologySchema.valid (.obj topology) = true) :
    ∃ n, Schema.integral (item topology "ownerDatabaseSchema") = some n ∧ 1 ≤ n := by
  obtain ⟨topology, same, closed⟩ := Schema.closed_of_valid h
  obtain rfl := Json.obj.inj same
  have number : (Schema.integer false 1 none).valid (item topology "ownerDatabaseSchema") = true :=
    item_of_closed closed (by decide) (by simp [topologyProperties])
  obtain ⟨n, hn, bound, -⟩ := Schema.integral_of_valid number
  exact ⟨n, hn, bound⟩

theorem isControl_of_valid {topology : Dict} (h : topologySchema.valid (.obj topology) = true) :
    ∃ first second health promotion,
      IsControl (sectionOf topology "failoverControl") first second health promotion := by
  obtain ⟨topology, same, closed⟩ := Schema.closed_of_valid h
  obtain rfl := Json.obj.inj same
  have control : (Schema.object failoverControlKeys failoverControlProperties none 0 none).valid
      (item topology "failoverControl") = true :=
    item_of_closed closed (by decide) (by simp [topologyProperties])
  obtain ⟨failover, hfailover, closed'⟩ := Schema.closed_of_valid control
  rw [sectionOf, hfailover]
  exact isControl_of_closed closed'

/-- The launcher accepts the document of a receipt exactly if the receipt fits. -/
theorem verification_iff {w : Surroundings} {candidate topology value : Dict} {candidateSha256 : String} {c : Checked}
    (checked : checkTopology w candidate topology candidateSha256 = .ok c)
    (d : Describes candidate topology (sectionOf topology "failoverControl") c value)
    (candidateId hostedToken sha256 : String) :
    (∃ v, verification value candidateId hostedToken sha256 = .ok v) ↔
      Fits candidate topology candidateId hostedToken := by
  unfold checkTopology at checked
  obtain ⟨_, valid, checked⟩ := bind_eq_ok.1 checked
  obtain ⟨_, -, checked⟩ := bind_eq_ok.1 checked
  obtain ⟨images, -, checked⟩ := bind_eq_ok.1 checked
  obtain ⟨capabilities, -, checked⟩ := bind_eq_ok.1 checked
  obtain ⟨normalized, hendpoints, checked⟩ := bind_eq_ok.1 checked
  obtain ⟨_, -, checked⟩ := bind_eq_ok.1 checked
  obtain ⟨urls, hfailover, checked⟩ := bind_eq_ok.1 checked
  obtain ⟨database, -, checked⟩ := bind_eq_ok.1 checked
  obtain rfl := Except.ok.inj checked
  have valid := raiseIf_eq_ok.1 valid
  rw [Bool.not_eq_false] at valid
  obtain ⟨first, second, health, promotion, control⟩ := isControl_of_valid valid
  have owner := ownerSchema_iff (ownerSchema_of_valid valid)
  obtain ⟨endpoints, hloaded⟩ := loadEndpoints_of_isEndpoints (isEndpoints_of_checkEndpoints hendpoints)
  have loaded := loadControl_iff control (isUrls_of_checkFailover control hfailover) endpoints
  constructor
  · rintro ⟨v, h⟩
    unfold verification at h
    obtain ⟨_, eligible, h⟩ := bind_eq_ok.1 h
    obtain ⟨n, hn, h⟩ := bind_eq_ok.1 h
    obtain ⟨endpoints', hendpoints', h⟩ := bind_eq_ok.1 h
    obtain ⟨control', hcontrol', -⟩ := bind_eq_ok.1 h
    have eligible := raiseIf_eq_ok.1 eligible
    rw [Bool.not_eq_false, isEligible_iff d] at eligible
    rw [d.ownerSchema] at hn
    rw [d.endpoints, hloaded] at hendpoints'
    obtain rfl := Except.ok.inj hendpoints'
    rw [d.failoverControl] at hcontrol'
    obtain ⟨threshold, rto⟩ := loaded.1 ⟨control', hcontrol'⟩
    exact ⟨eligible.1, eligible.2, owner.1 ⟨n, hn⟩, threshold, rto⟩
  · intro fits
    obtain ⟨n, hn⟩ := owner.2 fits.ownerSchema
    obtain ⟨control', hcontrol'⟩ := loaded.2 ⟨fits.failureThreshold, fits.maxRtoSeconds⟩
    unfold verification
    refine ⟨_, bind_eq_ok.2 ⟨(), raiseIf_eq_ok.2 ?_, bind_eq_ok.2 ⟨n, ?_, bind_eq_ok.2 ⟨endpoints, ?_,
      bind_eq_ok.2 ⟨control', ?_, rfl⟩⟩⟩⟩⟩
    · rw [Bool.not_eq_false, isEligible_iff d]
      exact ⟨fits.candidateId, fits.hostedToken⟩
    · rw [d.ownerSchema]
      exact hn
    · rw [d.endpoints]
      exact hloaded
    · rw [d.failoverControl]
      exact hcontrol'

/-- The launcher is given the file that has the receipt. -/
structure Presents (inputs : String → InputFile) (payload : Dict) (raw : Bytes) (receipt : Dict) : Prop where
  path : ∃ path, item payload "topology_verification_file" = .str path ∧ path ≠ "" ∧ inputs path = .contents raw
  sha256 : item payload "topology_verification_sha256" = .str (sha256 raw)
  document : strictDocument raw "candidate topology verification" = .ok (printed receipt)

theorem strictDocument_nil (label : String) (d : Dict) : strictDocument [] label ≠ .ok d := by
  rw [strictDocument, show decodeUtf8 [] = some "" from decodeUtf8_encodeUtf8 ""]
  exact nofun

theorem load_iff {inputs : String → InputFile} {payload receipt : Dict} {raw : Bytes}
    (h : Presents inputs payload raw receipt) (candidateId hostedToken : String) :
    (∃ v, loadTopologyVerification inputs payload candidateId hostedToken = .ok v) ↔
      raw.length ≤ maxVerificationBytes ∧
        ∃ v, verification (printed receipt) candidateId hostedToken (Sha256.sha256 raw) = .ok v := by
  obtain ⟨⟨path, hpath, named, contents⟩, hash, document⟩ := h
  have filled : raw ≠ [] := by
    rintro rfl
    exact strictDocument_nil _ _ document
  have bounded (h : raw.length ≤ maxVerificationBytes) : boundJsonDocument inputs (.str path) (.str (Sha256.sha256 raw))
      "candidate topology verification" maxVerificationBytes = .ok (printed receipt) := by
    unfold boundJsonDocument
    refine bind_eq_ok.2 ⟨(), raiseIf_eq_ok.2 ?_, bind_eq_ok.2 ⟨(), raiseIf_eq_ok.2 named, bind_eq_ok.2 ⟨raw, ?_,
      bind_eq_ok.2 ⟨(), raiseIf_eq_ok.2 (fun differs => differs rfl), document⟩⟩⟩⟩
    · rw [BackupRestore.isSha256_sha256]
      decide
    · rw [contents]
      refine bind_eq_ok.2 ⟨(), raiseIf_eq_ok.2 ?_, rfl⟩
      rw [not_or, not_lt]
      exact ⟨filled, h⟩
  unfold loadTopologyVerification
  rw [hpath, hash]
  constructor
  · rintro ⟨v, h⟩
    obtain ⟨value, hvalue, h⟩ := bind_eq_ok.1 h
    have short : raw.length ≤ maxVerificationBytes := by
      unfold boundJsonDocument at hvalue
      obtain ⟨_, -, hvalue⟩ := bind_eq_ok.1 hvalue
      obtain ⟨_, -, hvalue⟩ := bind_eq_ok.1 hvalue
      obtain ⟨read, hread, -⟩ := bind_eq_ok.1 hvalue
      rw [contents] at hread
      obtain ⟨_, size, -⟩ := bind_eq_ok.1 hread
      have size := raiseIf_eq_ok.1 size
      rw [not_or, not_lt] at size
      exact size.2
    rw [bounded short] at hvalue
    obtain rfl := Except.ok.inj hvalue
    exact ⟨short, v, h⟩
  · rintro ⟨short, v, h⟩
    exact ⟨v, bind_eq_ok.2 ⟨_, bounded short, h⟩⟩

end Zkdeal.Scripts
