import Zkdeal.OwnerSoak.Plan
import Zkdeal.Python.Items
import Zkdeal.Python.JsonText
import Zkdeal.Python.Url

/-!
# The generator of soak manifests

`build_manifest` puts a manifest together, `validate_manifest` checks it, and the owner's driver loads it.  The three
have their own rules for the seconds of the faults and for texts of integers.
-/

namespace Zkdeal.Soak6h

open Interaction Python Json Python.Sha256
open Soak (requiredFaults requiredZeroBudgets exactScenario validateManifest)
open OwnerSoak (loadManifest maxDocumentBytes)

/-- An exception: a `GeneratorError`, or any other one. -/
inductive Raised : Type where
  | generator (message : String)
  | other
  deriving DecidableEq

/-- A file that is given on the command line, if it can be read. -/
abbrev GivenFile : Type := Option Bytes

/-- The options that the manifest depends on beside digests and images. -/
structure Args where
  durationSeconds : ℤ
  chainId : ℤ
  rpcEndpoint : List String
  expectedFromCalibration : Option GivenFile
  expectedUsageUnits : Option ℤ
  expectedChargesWei : Option String
  maxFairnessWaitMs : ℤ
  maxDeadlineMisses : ℤ
  faultsFile : Option GivenFile
  fault : List String

/-- What the options for digests, images and the genesis hash were resolved to. -/
structure Resolved where
  settlementScenarioSha256 : String
  deploymentAddressesSha256 : String
  ownerDurableCapabilitiesSha256 : String
  ownerAcceptanceToken : String
  contractsAbiSha256 : String
  circuitManifestSha256 : String
  zkvmArtifactsSha256 : String
  generatedTrustRootClosureSha256 : Option String
  genesisHash : String
  chainSeedSha256 : Option String
  umbrellaSourceManifestSha256 : String
  sourceBundleArchiveSha256 : String
  sourceClosureSha256 : String
  images : Dict

/-- `json.loads(path.read_text(encoding="utf-8"))`; the text of the exception is left out. -/
def readJson (file : GivenFile) (label : String) : Except Raised Json :=
  match file with
  | none => .error (.generator (label ++ " could not be read"))
  | some raw =>
    match readText raw with
    | none => .error .other
    | some text =>
      match loads text with
      | none => .error (.generator (label ++ " could not be read"))
      | some value => .ok value

/-! ## Faults -/

/-- `DEFAULT_FAULT_OFFSETS` -/
def defaultFaultOffsets : Dict := [
  ("headless-restart", .int 2100), ("prover-restart", .int 3900), ("object-store-restart", .int 5700),
  ("database-restart", .int 7500), ("rpc-split", .int 9300), ("indexer-rollback", .int 11700),
  ("docker-host-restart-resume", .int 13500), ("coordinator-promotion", .int 16500)]

/-- An item of a list of faults, as the key and the value of a dict. -/
def faultItem : Json → Except Raised (Option (Key × Json × Json))
  | .obj fault =>
    match (Soak.item fault "kind").key with
    | some key => .ok (some (key, Soak.item fault "kind", Soak.item fault "atSecond"))
    | none => .error .other
  | _ => .ok none

/-- The kinds and the seconds of a file of faults. -/
def fileOffsets : Json → Except Raised Dict
  | .arr items => do
    let found ← items.mapM faultItem
    return (KeyDict.ofItems found.reduceOption).map fun e => (Json.strOf e.2.1, e.2.2)
  | .obj fields => .ok fields
  | _ => .error (.generator "--faults-file must be an object or a list of \x7bkind, atSecond\x7d")

/-- `--fault kind=second` -/
def overrideOffset (offsets : Dict) (item : String) : Except Raised Dict :=
  match partition '=' item.toList with
  | (kind, some value) => .ok (offsets.set (strip (.ofList kind)) (.str (strip (.ofList value))))
  | (_, none) => .error (.generator ("--fault expects kind=second, got " ++ Python.reprStr item))

/-- `offsets` -/
def faultOffsets (args : Args) : Except Raised Dict := do
  let given ← match args.faultsFile with
    | none => .ok []
    | some file => do fileOffsets (← readJson file "--faults-file")
  let offsets := given.foldl (fun d kv => Dict.set d kv.1 kv.2) defaultFaultOffsets
  args.fault.foldlM overrideOffset offsets

/-- A turn of the loop over `offsets` -/
def faultAt (duration : ℤ) (offset : String × Json) : Except Raised (String × ℤ) :=
  match Soak.int offset.2 with
  | .ok atSecond =>
    if atSecond < 0 ∨ duration < atSecond then
      .error (.generator ("fault " ++ offset.1 ++ ": atSecond " ++ toString atSecond ++ " is outside the 0.." ++
        toString duration ++ " soak window"))
    else .ok (offset.1, atSecond)
  | .error .overflowError => .error .other
  | .error _ => .error (.generator ("fault " ++ offset.1 ++ ": atSecond " ++ Json.repr offset.2 ++ " is not an integer"))

/-- `", ".join(sorted(names))` -/
def sortedNames (names : List String) : String := ", ".intercalate (names.insertionSort (· ≤ ·))

/-- `(item["atSecond"], item["kind"])` -/
def faultKey (fault : String × ℤ) : ℤ ×ₗ String := toLex (fault.2, fault.1)

/-- `load_faults(faults_file, overrides, duration, root)` -/
def loadFaults (args : Args) : Except Raised (List (String × ℤ)) := do
  let offsets ← faultOffsets args
  let faults ← offsets.mapM (faultAt args.durationSeconds)
  let kinds := faults.map Prod.fst
  let missing := requiredFaults.filter fun kind => kind ∉ kinds
  raiseIf (missing ≠ []) (Raised.generator ("scheduledFaults is missing required kind(s): " ++ sortedNames missing))
  let unknown := kinds.filter fun kind => kind ∉ requiredFaults
  raiseIf (unknown ≠ [])
    (Raised.generator ("scheduledFaults carries kind(s) the owner driver refuses: " ++ sortedNames unknown))
  raiseIf (¬kinds.Nodup) (Raised.generator "scheduledFaults repeats a fault kind")
  return faults.insertionSort fun a b => faultKey a ≤ faultKey b

/-! ## Expectations -/

/-- `usage_units` and `charges_wei` as they are given, `None` for one that is not. -/
def givenExpected (args : Args) : Except Raised (Json × Json) :=
  match args.expectedFromCalibration with
  | some file => do
    let refused := .error (.generator "--expected-from-calibration has no 'expected' object")
    match ← readJson file "--expected-from-calibration" with
    | .obj raw =>
      match Soak.item raw "expected" with
      | .obj block => .ok (Soak.item block "usageUnits", Soak.item block "chargesWei")
      | _ => refused
    | _ => refused
  | none => .ok ((args.expectedUsageUnits.map .int).getD .null, (args.expectedChargesWei.map .str).getD .null)

/-- `charges_wei` -/
def chargesText (charges : Json) : String := strip (Json.strOf charges)

/-- `expected` of the manifest -/
def expectedValues (args : Args) : Except Raised (ℤ × String) := do
  let (usage, charges) ← givenExpected args
  raiseIf ((match usage, charges with
      | .null, _ | _, .null => true
      | _, _ => false) = true)
    (Raised.generator ("expected usage/charges are required: pass --expected-usage-units and " ++
      "--expected-charges-wei, or --expected-from-calibration <calibrate_expected.py output>"))
  let usageUnits ← match Soak.int usage with
    | .ok n => .ok n
    | .error .overflowError => .error .other
    | .error _ => .error (.generator "expected.usageUnits must be an integer")
  raiseIf (usageUnits < 0) (Raised.generator "expected.usageUnits must be non-negative")
  raiseIf (¬(chargesText charges ≠ "" ∧ (chargesText charges).toList.all isDigit09 = true))
    (Raised.generator "expected.chargesWei must be a non-negative integer string")
  return (usageUnits, chargesText charges)

/-! ## The manifest -/

/-- `[item.strip() for item in args.rpc_endpoint if item.strip()]` -/
def endpoints (args : Args) : List String := (args.rpcEndpoint.map strip).filter (· ≠ "")

/-- The checks of the endpoints. -/
def checkEndpoints (given : List String) : Except Raised Unit := do
  raiseIf (given.length < 2)
    (Raised.generator "at least two --rpc-endpoint values are required (two independent providers)")
  raiseIf (¬given.Nodup) (Raised.generator "--rpc-endpoint values must be independent; duplicates are refused")
  given.forM fun endpoint => raiseIf (Soak.isHttp (.str endpoint) = false)
    (Raised.generator ("--rpc-endpoint " ++ endpoint ++ " must be an http:// or https:// URL"))

/-- `chain_seed_digest(chain_id, genesis_hash, endpoints)` -/
def chainSeedDigest (chainId : ℤ) (genesisHash : String) (given : List String) : Except Raised String :=
  let text := "zkdeal-soak-chain-seed/v1\nchainId=" ++ toString chainId ++ "\ngenesisHash=" ++ genesisHash ++ "\n" ++
    String.join (given.map fun endpoint => "rpc=" ++ endpoint ++ "\n")
  if text.toList.all (fun c => c.toNat < 128) then .ok (sha256 (encodeUtf8 text)) else .error .other

/-- `physicalScenario` -/
def scenario (resolved : Resolved) : Dict :=
  [("settlementScenarioSha256", .str resolved.settlementScenarioSha256),
    ("deploymentAddressesSha256", .str resolved.deploymentAddressesSha256),
    ("ownerDurableCapabilitiesSha256", .str resolved.ownerDurableCapabilitiesSha256),
    ("ownerAcceptanceToken", .str resolved.ownerAcceptanceToken)] ++ exactScenario.map fun e => (e.1, e.2.1)

/-- `trustRoots` -/
def trustRoots (resolved : Resolved) : Dict :=
  let derived := sha256 (encodeUtf8 ("contractsAbiSha256=" ++ resolved.contractsAbiSha256 ++ "\ncircuitManifestSha256=" ++
    resolved.circuitManifestSha256 ++ "\nzkvmArtifactsSha256=" ++ resolved.zkvmArtifactsSha256 ++ "\n"))
  [("contractsAbiSha256", .str resolved.contractsAbiSha256),
    ("circuitManifestSha256", .str resolved.circuitManifestSha256),
    ("zkvmArtifactsSha256", .str resolved.zkvmArtifactsSha256),
    ("generatedTrustRootClosureSha256", .str (resolved.generatedTrustRootClosureSha256.getD derived))]

/-- An item of `scheduledFaults` -/
def faultJson (fault : String × ℤ) : Json := .obj [("atSecond", .int fault.2), ("kind", .str fault.1)]

/-- `manifest`, from what was computed before it -/
def manifestOf (args : Args) (resolved : Resolved) (seed : String) (expected : ℤ × String) (faults : List (String × ℤ)) :
    Dict :=
  [("schemaVersion", .int 1), ("kind", .str "zkdeal-release-soak"), ("durationSeconds", .int args.durationSeconds),
    ("umbrellaSourceManifestSha256", .str resolved.umbrellaSourceManifestSha256),
    ("sourceBundleArchiveSha256", .str resolved.sourceBundleArchiveSha256),
    ("sourceClosureSha256", .str resolved.sourceClosureSha256),
    ("physicalScenario", .obj (scenario resolved)), ("images", .obj resolved.images),
    ("trustRoots", .obj (trustRoots resolved)),
    ("chainSeed", .obj [("chainId", .int args.chainId), ("genesisHash", .str resolved.genesisHash),
      ("seedSha256", .str seed), ("rpcEndpoints", .arr ((endpoints args).map .str))]),
    ("expected", .obj [("usageUnits", .int expected.1), ("chargesWei", .str expected.2)]),
    ("budgets", .obj (requiredZeroBudgets.map (fun name => (name, .int 0)) ++
      [("maxFairnessWaitMs", .int args.maxFairnessWaitMs), ("maxDeadlineMisses", .int args.maxDeadlineMisses)])),
    ("scheduledFaults", .arr (faults.map faultJson))]

/-- `build_manifest(args, resolver)` -/
def buildManifest (args : Args) (resolved : Resolved) : Except Raised Dict := do
  checkEndpoints (endpoints args)
  let seed ← match resolved.chainSeedSha256 with
    | some seed => .ok seed
    | none => chainSeedDigest args.chainId resolved.genesisHash (endpoints args)
  let expected ← expectedValues args
  let faults ← loadFaults args
  return manifestOf args resolved seed expected faults

/-- The error of the duration floor. -/
def floorError : String := "release soak duration must be at least 43200 seconds (12 hours)"

/-- `validate_manifest` accepts the manifest, apart from the duration floor. -/
def Accepted (manifest : Dict) : Prop :=
  validateManifest manifest = .ok () ∨ validateManifest manifest = .error (.deploymentError floorError)

/-- The file holds the manifest, written with sorted keys. -/
def Holds (raw : Bytes) (manifest : Dict) : Prop :=
  ∃ text, decodeUtf8 raw = some text ∧ strictLoads text = .ok (canonical (.obj manifest))

/-! ## What the options give -/

/-- `--fault kind=second`, as a key and a value -/
def overrideItem (item : String) : String × Json :=
  let (kind, value) := partition '=' item.toList
  (strip (.ofList kind), .str (strip (.ofList (value.getD []))))

/-- The defaults, the faults of the file, and those of `--fault`. -/
def givenFaults (args : Args) : Dict :=
  defaultFaultOffsets ++
    (match args.faultsFile with
      | none => []
      | some file =>
        match readJson file "--faults-file" >>= fileOffsets with
        | .ok given => given
        | .error _ => []) ++
    args.fault.map overrideItem

/-- The last value that is given for a key. -/
def lastGiven (items : Dict) (key : String) : Option Json := items.reverse.lookup key

/-- The options put a fault at the very end of the soak. -/
def FaultAtEnd (args : Args) : Prop :=
  ∃ kind second, lastGiven (givenFaults args) kind = some second ∧ Soak.int second = .ok args.durationSeconds

/-- The charges that the options give. -/
def givenCharges (args : Args) : Json :=
  match givenExpected args with
  | .ok given => given.2
  | .error _ => .null

/-- The charges are given with a zero before other digits. -/
def LeadingZero (args : Args) : Prop := ∃ c cs, (chargesText (givenCharges args)).toList = '0' :: c :: cs

theorem get_ofItems (items : Dict) (key : String) : (Dict.ofItems items).get key = lastGiven items key := by
  induction items using List.reverseRecOn with
  | nil => rfl
  | append_singleton items kv ih =>
    unfold Dict.ofItems lastGiven at ih ⊢
    rw [List.foldl_append, List.foldl_cons, List.foldl_nil, Dict.get_set, ih, List.reverse_append, List.reverse_singleton,
      List.singleton_append, List.lookup_cons]
    by_cases heq : key = kv.1
    · rw [if_pos heq, beq_iff_eq.2 heq]
    · rw [if_neg heq, beq_eq_false_iff_ne.2 heq]

theorem overrideOffset_eq_ok {offsets offsets' : Dict} {item : String} (h : overrideOffset offsets item = .ok offsets') :
    offsets' = offsets.set (overrideItem item).1 (overrideItem item).2 := by
  unfold overrideOffset at h
  unfold overrideItem
  generalize partition '=' item.toList = parts at h ⊢
  obtain ⟨kind, value | value⟩ := parts
  · nomatch h
  · exact (Except.ok.inj h).symm

theorem overrides_eq_ok {fault : List String} {offsets offsets' : Dict} (h : fault.foldlM overrideOffset offsets = .ok offsets') :
    offsets' = (fault.map overrideItem).foldl (fun d kv => d.set kv.1 kv.2) offsets := by
  induction fault generalizing offsets with
  | nil => exact (Except.ok.inj h).symm
  | cons item fault ih =>
    rw [List.foldlM_cons] at h
    obtain ⟨next, hnext, h⟩ := bind_eq_ok.1 h
    rw [List.map_cons, List.foldl_cons, ← overrideOffset_eq_ok hnext]
    exact ih h

/-- The offsets are what is given, a later value in place of an earlier one. -/
theorem faultOffsets_eq_ok {args : Args} {offsets : Dict} (h : faultOffsets args = .ok offsets) :
    offsets = Dict.ofItems (givenFaults args) := by
  have hdefaults : defaultFaultOffsets.foldl (fun d kv => Dict.set d kv.1 kv.2) [] = defaultFaultOffsets :=
    ofItems_nodup (by decide)
  have hmerge (given : Dict) (hitems : givenFaults args = defaultFaultOffsets ++ given ++ args.fault.map overrideItem)
      (h : args.fault.foldlM overrideOffset (given.foldl (fun d kv => Dict.set d kv.1 kv.2) defaultFaultOffsets) =
        .ok offsets) : offsets = Dict.ofItems (givenFaults args) := by
    rw [hitems, Dict.ofItems, List.foldl_append, List.foldl_append, hdefaults]
    exact overrides_eq_ok h
  unfold faultOffsets at h
  cases hfile : args.faultsFile with
  | none =>
    rw [hfile] at h
    refine hmerge [] ?_ h
    rw [givenFaults, hfile]
  | some file =>
    rw [hfile] at h
    obtain ⟨value, hvalue, h⟩ := bind_eq_ok.1 h
    obtain ⟨given, hgiven, h⟩ := bind_eq_ok.1 h
    refine hmerge given ?_ h
    rw [givenFaults, hfile]
    dsimp only
    rw [bind_eq_ok.2 ⟨value, hvalue, hgiven⟩]

/-! ## Faults that are loaded -/

theorem faultAt_eq_ok {duration : ℤ} {offset : String × Json} {fault : String × ℤ} (h : faultAt duration offset = .ok fault) :
    fault.1 = offset.1 ∧ Soak.int offset.2 = .ok fault.2 ∧ 0 ≤ fault.2 ∧ fault.2 ≤ duration := by
  unfold faultAt at h
  split at h
  · rename_i atSecond hint
    split at h
    · cases h
    · rename_i hinside
      cases h
      exact ⟨rfl, hint, by omega, by omega⟩
  · cases h
  · cases h

/-- What the loop over the offsets leaves: every reviewed kind once, within the soak. -/
structure Scheduled (args : Args) (faults : List (String × ℤ)) : Prop where
  nodup : (faults.map Prod.fst).Nodup
  required : requiredFaults ⊆ faults.map Prod.fst
  known : faults.map Prod.fst ⊆ requiredFaults
  inside : ∀ fault ∈ faults, 0 ≤ fault.2 ∧ fault.2 ≤ args.durationSeconds
  atEnd : FaultAtEnd args ↔ ∃ fault ∈ faults, fault.2 = args.durationSeconds

theorem Scheduled.perm {args : Args} {faults faults' : List (String × ℤ)} (h : Scheduled args faults)
    (hperm : faults'.Perm faults) : Scheduled args faults' where
  nodup := (hperm.map Prod.fst).nodup_iff.2 h.nodup
  required := fun _ hkind => (hperm.map Prod.fst).mem_iff.2 (h.required hkind)
  known := fun _ hkind => h.known ((hperm.map Prod.fst).mem_iff.1 hkind)
  inside := fun fault hfault => h.inside fault (hperm.mem_iff.1 hfault)
  atEnd := h.atEnd.trans (exists_congr fun _ => and_congr_left fun _ => hperm.mem_iff.symm)

theorem subset_of_filter {names kinds : List String} (h : names.filter (fun kind => kind ∉ kinds) = []) : names ⊆ kinds := by
  intro kind hkind
  have hnone := List.filter_eq_nil_iff.1 h kind hkind
  by_contra hmem
  exact hnone (decide_eq_true hmem)

theorem loadFaults_eq_ok {args : Args} {faults : List (String × ℤ)} (h : loadFaults args = .ok faults) :
    Scheduled args faults := by
  obtain ⟨offsets, hoffsets, h⟩ := bind_eq_ok.1 h
  obtain ⟨read, hread, h⟩ := bind_eq_ok.1 h
  obtain ⟨_, hmissing, h⟩ := bind_eq_ok.1 h
  obtain ⟨_, hunknown, h⟩ := bind_eq_ok.1 h
  obtain ⟨_, hnodup, h⟩ := bind_eq_ok.1 h
  have hrequired := subset_of_filter (not_not.1 (raiseIf_eq_ok.1 hmissing))
  have hknown := subset_of_filter (not_not.1 (raiseIf_eq_ok.1 hunknown))
  have hkinds := not_not.1 (raiseIf_eq_ok.1 hnodup)
  have hsame : offsets.map Prod.fst = read.map Prod.fst := by
    have hall : List.Forall₂ (fun offset fault => offset.1 = fault.1) offsets read :=
      (mapM_eq_ok.1 hread).imp fun _ _ hat => (faultAt_eq_ok hat).1.symm
    have hkeys := List.forall₂_map_left_iff.2 (List.forall₂_map_right_iff.2 hall)
    rwa [List.forall₂_eq_eq_eq] at hkeys
  have hscheduled : Scheduled args read := by
    refine ⟨hkinds, hrequired, hknown, fun fault hfault => ?_, ?_⟩
    · obtain ⟨offset, -, hat⟩ := mapM_mem_right hread hfault
      exact (faultAt_eq_ok hat).2.2
    · constructor
      · rintro ⟨kind, second, hgiven, hint⟩
        rw [← get_ofItems, ← faultOffsets_eq_ok hoffsets] at hgiven
        have hmem : (kind, second) ∈ offsets := (lookup_eq_some (hsame ▸ hkinds)).1 hgiven
        obtain ⟨fault, hfault, hat⟩ := mapM_mem_left hread hmem
        refine ⟨fault, hfault, ?_⟩
        exact Except.ok.inj ((faultAt_eq_ok hat).2.1.symm.trans hint)
      · rintro ⟨fault, hfault, hend⟩
        obtain ⟨offset, hmem, hat⟩ := mapM_mem_right hread hfault
        refine ⟨offset.1, offset.2, ?_, ?_⟩
        · rw [← get_ofItems, ← faultOffsets_eq_ok hoffsets]
          exact (lookup_eq_some (hsame ▸ hkinds)).2 hmem
        · rw [(faultAt_eq_ok hat).2.1, hend]
  rw [← Except.ok.inj h]
  exact hscheduled.perm (List.perm_insertionSort _ _)

/-! ## Expectations that are accepted -/

/-- The expectations are a number of at least zero, and a text of digits. -/
theorem expectedValues_eq_ok {args : Args} {expected : ℤ × String} (h : expectedValues args = .ok expected) :
    0 ≤ expected.1 ∧ expected.2 = chargesText (givenCharges args) ∧ expected.2 ≠ "" ∧
      ∀ c ∈ expected.2.toList, isDigit09 c = true := by
  obtain ⟨given, hgiven, h⟩ := bind_eq_ok.1 h
  obtain ⟨_, -, h⟩ := bind_eq_ok.1 h
  have hsame : givenCharges args = given.2 := by
    rw [givenCharges, hgiven]
  cases hint : Soak.int given.1 with
  | error e =>
    rw [hint] at h
    cases e <;> nomatch h
  | ok usageUnits =>
    rw [hint] at h
    obtain ⟨_, -, h⟩ := bind_eq_ok.1 h
    obtain ⟨_, husage, h⟩ := bind_eq_ok.1 h
    obtain ⟨_, hcharges, h⟩ := bind_eq_ok.1 h
    have hdigits := not_not.1 (raiseIf_eq_ok.1 hcharges)
    rw [← Except.ok.inj h, hsame]
    exact ⟨not_lt.1 (raiseIf_eq_ok.1 husage), rfl, hdigits.1, List.all_eq_true.1 hdigits.2⟩

theorem isDecimal_iff {cs : List Char} (hne : cs ≠ []) (digits : ∀ c ∈ cs, isDigit09 c = true) :
    OwnerSoak.isDecimal cs = true ↔ ¬∃ d ds, cs = '0' :: d :: ds := by
  cases cs with
  | nil => exact absurd rfl hne
  | cons c cs =>
    have hc := digits c List.mem_cons_self
    have hcs : cs.all isDigit09 = true := List.all_eq_true.2 fun d hd => digits d (List.mem_cons_of_mem _ hd)
    by_cases hzero : c = '0'
    · subst hzero
      cases cs with
      | nil => exact ⟨fun _ => nofun, fun _ => rfl⟩
      | cons d ds => exact ⟨nofun, fun h => absurd ⟨d, ds, rfl⟩ h⟩
    · have hdecimal : OwnerSoak.isDecimal (c :: cs) = (isDigit09 c && c != '0' && cs.all isDigit09) := by
        rw [OwnerSoak.isDecimal]
        rintro rfl
        exact absurd rfl hzero
      rw [hdecimal, hc, hcs]
      refine ⟨fun _ => ?_, fun _ => ?_⟩
      · rintro ⟨d, ds, h⟩
        exact hzero (List.cons.inj h).1
      · simpa using hzero

/-- The driver reads a text of digits that is not too long unless it begins with another zero. -/
theorem requireInt_str_iff {text field : String} (hne : text ≠ "") (digits : ∀ c ∈ text.toList, isDigit09 c = true)
    (hshort : (intOfStr text).isSome = true) :
    (∃ n, OwnerSoak.requireInt (.str text) field 0 = .ok n) ↔ ¬∃ d ds, text.toList = '0' :: d :: ds := by
  have hnil : text.toList ≠ [] := fun h => hne (String.toList_eq_nil_iff.1 h)
  rw [← isDecimal_iff hnil digits]
  obtain ⟨n, hn⟩ := Option.isSome_iff_exists.1 hshort
  have hvalue := intOfStr_of_digits digits hnil
  rw [String.ofList_toList, hn] at hvalue
  have hnonneg : 0 ≤ n := by
    split at hvalue
    · rw [Option.some.inj hvalue]
      exact Int.natCast_nonneg _
    · nomatch hvalue
  unfold OwnerSoak.requireInt
  by_cases hdecimal : OwnerSoak.isDecimal text.toList = true
  · dsimp only
    rw [if_pos hdecimal, hn]
    dsimp only
    rw [if_pos hnonneg]
    exact ⟨fun _ => hdecimal, fun _ => ⟨n, rfl⟩⟩
  · dsimp only
    rw [if_neg hdecimal]
    exact ⟨fun ⟨_, h⟩ => (nomatch h), fun h => absurd h hdecimal⟩

/-! ## What the validator accepts -/

/-- A joined text without the separator's semicolon is of one text. -/
theorem eq_singleton_of_intercalate {texts : List String} {t : String} (h : "; ".intercalate texts = t)
    (hne : texts ≠ []) (hsemicolon : ';' ∉ t.toList) : texts = [t] := by
  cases texts with
  | nil => exact absurd rfl hne
  | cons a texts =>
    cases texts with
    | nil => rw [← h, String.intercalate_singleton]
    | cons a' texts =>
      refine absurd ?_ hsemicolon
      rw [← h, String.intercalate_cons_cons]
      simp

/-- An accepted manifest has no error beside that of the floor. -/
theorem Accepted.errors {manifest : Dict} {duration : ℤ} {expected faults : List String} (h : Accepted manifest)
    (hduration : Soak.int (Soak.itemOr manifest "durationSeconds" (.int 0)) = .ok duration)
    (hexpected : Soak.expectedErrors (Soak.item manifest "expected") = .ok expected)
    (hfaults : Soak.faultErrors (Soak.item manifest "scheduledFaults") = .ok faults) :
    ∀ e, e ∈ Soak.seedErrors (Soak.item manifest "chainSeed") ∨ e ∈ expected → e = floorError := by
  have hchecked {errors : List String} (h : (if (!errors.isEmpty) = true then
        Except.error (Soak.Raised.deploymentError ("; ".intercalate errors)) else pure PUnit.unit) = .ok () ∨
      (if (!errors.isEmpty) = true then
        Except.error (Soak.Raised.deploymentError ("; ".intercalate errors)) else pure PUnit.unit) =
        .error (.deploymentError floorError)) : ∀ e ∈ errors, e = floorError := by
    cases errors with
    | nil => exact nofun
    | cons e errors =>
      obtain h | h := h
      · nomatch h
      · have htext := Soak.Raised.deploymentError.inj (Except.error.inj h)
        rw [eq_singleton_of_intercalate htext (List.cons_ne_nil _ _) (by decide)]
        exact fun e he => List.mem_singleton.1 he
  have hbind {α β : Type} (a : α) (f : α → Except Soak.Raised β) : (Except.ok a >>= f) = f a := rfl
  unfold Accepted validateManifest at h
  simp only [hduration, hexpected, hfaults, hbind] at h
  intro e he
  refine hchecked h e ?_
  simp only [List.mem_append]
  obtain he | he := he
  · exact .inl (.inl (.inl (.inr he)))
  · exact .inl (.inl (.inr he))

theorem faultErrors_eq_ok (faults : List (String × ℤ)) :
    ∃ errors, Soak.faultErrors (.arr (faults.map faultJson)) = .ok errors := by
  have hkinds : ∃ kinds, (Soak.objects (faults.map faultJson)).mapM (fun fault => Soak.hashed (Soak.item fault "kind")) =
      .ok kinds := by
    refine exists_mapM_eq_ok fun d hd => ?_
    obtain ⟨v, hv, hd⟩ := List.mem_filterMap.1 hd
    obtain ⟨fault, -, rfl⟩ := List.mem_map.1 hv
    cases hd
    exact ⟨_, rfl⟩
  obtain ⟨kinds, hkinds⟩ := hkinds
  exact ⟨_, bind_eq_ok.2 ⟨kinds, hkinds, rfl⟩⟩

/-- The validator reads the charges with `int`. -/
theorem expectedErrors_eq_ok (usageUnits : ℤ) (charges : String) :
    ∃ errors, Soak.expectedErrors (.obj [("usageUnits", .int usageUnits), ("chargesWei", .str charges)]) = .ok errors ∧
      (intOfStr charges = none → "expected.chargesWei must be a non-negative integer string" ∈ errors) := by
  have hitem : Soak.itemOr [("usageUnits", .int usageUnits), ("chargesWei", .str charges)] "chargesWei" (.int (-1)) =
    .str charges := rfl
  unfold Soak.expectedErrors
  dsimp only
  rw [hitem]
  cases hread : intOfStr charges with
  | none =>
    have hint : Soak.int (.str charges) = .error .valueError := by
      have hnone : (Json.str charges).toInt = none := hread
      unfold Soak.int
      rw [hnone]
    rw [hint]
    exact ⟨_, rfl, fun _ => List.mem_append_right _ (List.mem_singleton_self _)⟩
  | some n =>
    have hint : Soak.int (.str charges) = .ok n := by
      have hsome : (Json.str charges).toInt = some n := hread
      unfold Soak.int
      rw [hsome]
    rw [hint]
    exact ⟨_, rfl, nofun⟩

/-- The validator has the driver's check of the chain, and needs charges that `int` reads. -/
theorem Accepted.reads {args : Args} {resolved : Resolved} {seed : String} {expected : ℤ × String}
    {faults : List (String × ℤ)} (h : Accepted (manifestOf args resolved seed expected faults)) :
    1 ≤ args.chainId ∧ (intOfStr expected.2).isSome = true := by
  obtain ⟨errors, hfaults⟩ := faultErrors_eq_ok faults
  obtain ⟨expectedErrors, hexpected, hrefused⟩ := expectedErrors_eq_ok expected.1 expected.2
  have herrors := h.errors rfl hexpected hfaults
  constructor
  · by_contra hchain
    have hmem : "chainSeed.chainId must be a positive integer" ∈
        Soak.seedErrors (Soak.item (manifestOf args resolved seed expected faults) "chainSeed") := by
      refine List.mem_append_left _ (List.mem_append_left _ (List.mem_append_left _ ?_))
      have hlow : args.chainId < 1 := not_le.1 hchain
      change _ ∈ Soak.errorIf (decide (args.chainId < 1)) _
      rw [decide_eq_true hlow]
      exact List.mem_singleton_self _
    exact absurd (herrors _ (.inl hmem)) (by decide)
  · rw [Option.isSome_iff_ne_none]
    intro hnone
    exact absurd (herrors _ (.inr (hrefused hnone))) (by decide)

/-! ## What the driver loads -/

theorem item_reread (d : Dict) (key : String) : Soak.item (Soak.reread d) key = canonical (Soak.item d key) := by
  unfold Soak.item
  rw [Soak.get_reread]
  cases d.get key <;> rfl

theorem requireInt_int {n minimum : ℤ} (h : minimum ≤ n) (field : String) :
    OwnerSoak.requireInt (.int n) field minimum = .ok n := if_pos h

/-- The driver reads a fault of a reviewed kind. -/
theorem seeFault_faultJson {duration : ℤ} {seen : List (String × ℤ)} {fault : String × ℤ} (hkind : fault.1 ∈ requiredFaults)
    (hnonneg : 0 ≤ fault.2) (hnew : fault.1 ∉ seen.map Prod.fst) (hinside : fault.2 < duration) :
    OwnerSoak.seeFault duration seen (canonical (faultJson fault)) = .ok (seen ++ [fault]) := by
  have hbounded : ∀ kind ∈ requiredFaults, kind ≠ "" ∧ kind.length ≤ 512 := by decide
  have hread : OwnerSoak.requireStr (.str fault.1) "scheduledFaults.kind" = .ok fault.1 := if_pos (hbounded _ hkind)
  have hcanonical : canonical (faultJson fault) = .obj (Soak.reread [("atSecond", .int fault.2), ("kind", .str fault.1)]) :=
    rfl
  rw [hcanonical, OwnerSoak.seeFault, item_reread, item_reread]
  refine bind_eq_ok.2 ⟨fault.1, hread, bind_eq_ok.2 ⟨fault.2, requireInt_int hnonneg _, ?_⟩⟩
  rw [if_neg hnew, if_neg (not_le.2 hinside)]

theorem seeFaults_faultJson {duration : ℤ} {seen faults : List (String × ℤ)}
    (hnodup : ((seen ++ faults).map Prod.fst).Nodup) (hknown : ∀ fault ∈ faults, fault.1 ∈ requiredFaults)
    (hinside : ∀ fault ∈ faults, 0 ≤ fault.2 ∧ fault.2 < duration) :
    (faults.map fun fault => canonical (faultJson fault)).foldlM (OwnerSoak.seeFault duration) seen = .ok (seen ++ faults) := by
  induction faults generalizing seen with
  | nil =>
    rw [List.append_nil]
    rfl
  | cons fault faults ih =>
    have hnew : fault.1 ∉ seen.map Prod.fst := by
      rw [List.map_append, List.nodup_append] at hnodup
      intro hmem
      exact hnodup.2.2 _ hmem _ (by simp) rfl
    obtain ⟨hnonneg, hlt⟩ := hinside fault List.mem_cons_self
    rw [List.append_cons] at hnodup ⊢
    rw [List.map_cons, List.foldlM_cons]
    refine bind_eq_ok.2 ⟨_, seeFault_faultJson (hknown fault List.mem_cons_self) hnonneg hnew hlt, ?_⟩
    exact ih hnodup (fun f hf => hknown f (List.mem_cons_of_mem _ hf)) fun f hf => hinside f (List.mem_cons_of_mem _ hf)

/-- The faults that the driver has read are before the end. -/
theorem lt_of_seeFaults {duration : ℤ} {faults seen : List (String × ℤ)}
    (h : (faults.map fun fault => canonical (faultJson fault)).foldlM (OwnerSoak.seeFault duration) [] = .ok seen) :
    ∀ fault ∈ faults, fault.2 < duration := by
  obtain ⟨items, -, hall, -⟩ := OwnerSoak.seeFaults_eq_ok h List.nodup_nil
  have hread (fault item : String × ℤ) (hreads : OwnerSoak.ReadsFault duration (canonical (faultJson fault)) item) :
      fault.2 < duration ∧ True := by
    obtain ⟨fields, hfields, -, hsecond, hlt⟩ := hreads
    obtain rfl : Soak.reread [("atSecond", .int fault.2), ("kind", .str fault.1)] = fields := Json.obj.inj hfields
    rw [item_reread] at hsecond
    have hsame : some fault.2 = some item.2 := (OwnerSoak.toInt_of_requireInt hsecond).1
    rw [Option.some.inj hsame]
    exact ⟨hlt, trivial⟩
  exact ((List.forall₂_and_left _ _).1 ((List.forall₂_map_left_iff.1 hall).imp hread)).1

section Driver

variable {args : Args} {resolved : Resolved} {seed : String} {expected : ℤ × String} {faults : List (String × ℤ)}

theorem checkRest_iff (husage : 0 ≤ expected.1) (hne : expected.2 ≠ "")
    (digits : ∀ c ∈ expected.2.toList, isDigit09 c = true) (hchain : 1 ≤ args.chainId)
    (hshort : (intOfStr expected.2).isSome = true) :
    (∃ m, OwnerSoak.checkRest (Soak.reread (manifestOf args resolved seed expected faults)) = .ok m) ↔
      ¬∃ d ds, expected.2.toList = '0' :: d :: ds := by
  have hexpected : Soak.item (Soak.reread (manifestOf args resolved seed expected faults)) "expected" =
      .obj (Soak.reread [("usageUnits", .int expected.1), ("chargesWei", .str expected.2)]) := item_reread _ _
  have hseed : Soak.item (Soak.reread (manifestOf args resolved seed expected faults)) "chainSeed" =
      .obj (Soak.reread [("chainId", .int args.chainId), ("genesisHash", .str resolved.genesisHash),
        ("seedSha256", .str seed), ("rpcEndpoints", .arr ((endpoints args).map .str))]) := item_reread _ _
  have hlow : ¬args.chainId < 1 := not_lt.2 hchain
  rw [← requireInt_str_iff hne digits hshort]
  unfold OwnerSoak.checkRest
  rw [hexpected]
  dsimp only
  rw [hseed]
  dsimp only
  rw [item_reread, item_reread, item_reread]
  constructor
  · rintro ⟨m, h⟩
    obtain ⟨_, -, h⟩ := bind_eq_ok.1 h
    obtain ⟨n, hn, -⟩ := bind_eq_ok.1 h
    exact ⟨n, hn⟩
  · rintro ⟨n, hn⟩
    refine ⟨Soak.reread (manifestOf args resolved seed expected faults), ?_⟩
    refine bind_eq_ok.2 ⟨_, requireInt_int husage _, bind_eq_ok.2 ⟨n, hn, ?_⟩⟩
    exact if_neg hlow

/-- The driver accepts the faults that are before the end, and what it accepts of the rest. -/
theorem checkManifest_iff (hfaults : Scheduled args faults) :
    (∃ m, OwnerSoak.checkManifest (Soak.reread (manifestOf args resolved seed expected faults)) = .ok m) ↔
      ¬FaultAtEnd args ∧
        ∃ m, OwnerSoak.checkRest (Soak.reread (manifestOf args resolved seed expected faults)) = .ok m := by
  have hduration : Soak.item (Soak.reread (manifestOf args resolved seed expected faults)) "durationSeconds" =
      .int args.durationSeconds := item_reread _ _
  have hitems : Soak.item (Soak.reread (manifestOf args resolved seed expected faults)) "scheduledFaults" =
      .arr (faults.map fun fault => canonical (faultJson fault)) := by
    rw [item_reread]
    change Json.arr (canonicalItems (faults.map faultJson)) = _
    rw [canonicalItems_eq_map, List.map_map]
    rfl
  rw [hfaults.atEnd]
  unfold OwnerSoak.checkManifest
  rw [hduration, hitems]
  constructor
  · rintro ⟨m, h⟩
    obtain ⟨duration, hread, h⟩ := bind_eq_ok.1 h
    obtain ⟨seen, hseen, h⟩ := bind_eq_ok.1 h
    have hsame : some args.durationSeconds = some duration := (OwnerSoak.toInt_of_requireInt hread).1
    have hlt := lt_of_seeFaults hseen
    split at h
    · refine ⟨?_, m, h⟩
      rintro ⟨fault, hfault, hend⟩
      have := hlt fault hfault
      rw [hend, Option.some.inj hsame] at this
      exact lt_irrefl _ this
    · cases h
  · rintro ⟨hend, m, h⟩
    have hinside : ∀ fault ∈ faults, 0 ≤ fault.2 ∧ fault.2 < args.durationSeconds := by
      intro fault hfault
      obtain ⟨hnonneg, hle⟩ := hfaults.inside fault hfault
      exact ⟨hnonneg, lt_of_le_of_ne hle fun heq => hend ⟨fault, hfault, heq⟩⟩
    have hpositive : 1 ≤ args.durationSeconds := by
      have hsome : "rpc-split" ∈ faults.map Prod.fst := hfaults.required (by decide)
      obtain ⟨fault, hfault, -⟩ := List.mem_map.1 hsome
      have := hinside fault hfault
      omega
    have hseen : (faults.map fun fault => canonical (faultJson fault)).foldlM (OwnerSoak.seeFault args.durationSeconds) [] =
        .ok ([] ++ faults) :=
      seeFaults_faultJson hfaults.nodup (fun fault hfault => hfaults.known (List.mem_map_of_mem hfault)) hinside
    refine ⟨m, bind_eq_ok.2 ⟨_, requireInt_int hpositive _, bind_eq_ok.2 ⟨_, hseen, ?_⟩⟩⟩
    rw [List.nil_append, if_pos ⟨hfaults.known, hfaults.required⟩]
    exact h

end Driver

/-- A soak manifest goes to the checks. -/
theorem loadManifest_of_parse {reason : String} {raw : Bytes} {d : Dict}
    (hparse : OwnerSoak.parseJson reason raw "soak manifest" = .ok (.obj d))
    (hkind : Soak.item d "kind" = .str "zkdeal-release-soak") (hversion : Soak.item d "schemaVersion" = .int 1) :
    loadManifest reason raw = OwnerSoak.checkManifest d := by
  have hchecks : ((Soak.item d "kind").eq (.str "zkdeal-release-soak") && (Soak.item d "schemaVersion").eq (.int 1)) = true := by
    rw [hkind, hversion]
    decide
  unfold loadManifest
  rw [hparse]
  exact if_pos hchecks

/-- A file that is not too large is read as the manifest that it holds. -/
theorem parseJson_of_holds {raw : Bytes} {manifest : Dict} (h : Holds raw manifest) (hsmall : ¬maxDocumentBytes < raw.length)
    (reason : String) : OwnerSoak.parseJson reason raw "soak manifest" = .ok (.obj (Soak.reread manifest)) := by
  obtain ⟨text, htext, hloads⟩ := h
  rw [OwnerSoak.parseJson, if_neg hsmall, htext]
  dsimp only
  rw [hloads, Soak.reread_canonical]

theorem loadManifest_of_holds {args : Args} {resolved : Resolved} {seed : String} {expected : ℤ × String}
    {faults : List (String × ℤ)} {raw : Bytes} (h : Holds raw (manifestOf args resolved seed expected faults)) (reason : String) :
    (∃ m, loadManifest reason raw = .ok m) ↔ raw.length ≤ maxDocumentBytes ∧
      ∃ m, OwnerSoak.checkManifest (Soak.reread (manifestOf args resolved seed expected faults)) = .ok m := by
  by_cases hlarge : maxDocumentBytes < raw.length
  · have hparse : OwnerSoak.parseJson reason raw "soak manifest" = .error (.driverError
        ("soak manifest exceeds " ++ toString maxDocumentBytes ++ " bytes")) := if_pos hlarge
    unfold loadManifest
    rw [hparse]
    exact ⟨fun ⟨_, h⟩ => (nomatch h), fun h => absurd h.1 (not_le.2 hlarge)⟩
  · rw [loadManifest_of_parse (parseJson_of_holds h hlarge reason) (item_reread _ _) (item_reread _ _)]
    exact ⟨fun h => ⟨not_lt.1 hlarge, h⟩, fun h => h.2⟩

/-- What the generator puts together. -/
theorem buildManifest_eq_ok {args : Args} {resolved : Resolved} {manifest : Dict}
    (h : buildManifest args resolved = .ok manifest) :
    ∃ seed expected faults, expectedValues args = .ok expected ∧ loadFaults args = .ok faults ∧
      manifestOf args resolved seed expected faults = manifest := by
  obtain ⟨_, -, h⟩ := bind_eq_ok.1 h
  have hrest (seed : String) (h : (do
        let expected ← expectedValues args
        let faults ← loadFaults args
        return manifestOf args resolved seed expected faults) = .ok manifest) :
      ∃ expected faults, expectedValues args = .ok expected ∧ loadFaults args = .ok faults ∧
        manifestOf args resolved seed expected faults = manifest := by
    obtain ⟨expected, hexpected, h⟩ := bind_eq_ok.1 h
    obtain ⟨faults, hfaults, h⟩ := bind_eq_ok.1 h
    exact ⟨expected, faults, hexpected, hfaults, Except.ok.inj h⟩
  cases hseed : resolved.chainSeedSha256 with
  | some seed =>
    rw [hseed] at h
    exact ⟨seed, hrest seed h⟩
  | none =>
    rw [hseed] at h
    obtain ⟨seed, -, h⟩ := bind_eq_ok.1 h
    exact ⟨seed, hrest seed h⟩

/-- The driver accepts what the generator has made and the validator accepts exactly when no fault is at the very end,
the charges have no leading zero, and the file is not too large. -/
theorem load_manifest_iff (args : Args) (resolved : Resolved) (manifest : Dict) (raw : Bytes) (reason : String)
    (hbuild : buildManifest args resolved = .ok manifest) (haccepted : Accepted manifest) (hholds : Holds raw manifest) :
    (∃ m, loadManifest reason raw = .ok m) ↔
      raw.length ≤ maxDocumentBytes ∧ ¬FaultAtEnd args ∧ ¬LeadingZero args := by
  obtain ⟨seed, expected, faults, hexpected, hfaults, rfl⟩ := buildManifest_eq_ok hbuild
  obtain ⟨husage, hcharges, hne, digits⟩ := expectedValues_eq_ok hexpected
  obtain ⟨hchain, hshort⟩ := haccepted.reads
  rw [loadManifest_of_holds hholds, checkManifest_iff (loadFaults_eq_ok hfaults),
    checkRest_iff husage hne digits hchain hshort, hcharges]
  rfl

/-! ## A fault in the last second, and one after it -/

namespace TwelveHours

def digest : String := "0123456789abcdef0123456789abcdef0123456789abcdef0123456789abcdef"

/-- A soak of twelve hours with the default faults, but for `--fault`. -/
def args (fault : List String) : Args :=
  ⟨43200, 31337, ["http://a", "http://b"], none, some 0, some "0", 1000, 0, none, fault⟩

def resolved : Resolved where
  settlementScenarioSha256 := digest
  deploymentAddressesSha256 := digest
  ownerDurableCapabilitiesSha256 := digest
  ownerAcceptanceToken := "sha256:" ++ digest
  contractsAbiSha256 := digest
  circuitManifestSha256 := digest
  zkvmArtifactsSha256 := digest
  generatedTrustRootClosureSha256 := some digest
  genesisHash := "0x" ++ digest
  chainSeedSha256 := some digest
  umbrellaSourceManifestSha256 := digest
  sourceBundleArchiveSha256 := digest
  sourceClosureSha256 := digest
  images := Soak.requiredImages.map fun role => (role, .str ("a@sha256:" ++ digest))

/-- The faults, with the promotion of the coordinator at `promotion`. -/
def faults (promotion : ℤ) : List (String × ℤ) := [
  ("headless-restart", 2100), ("prover-restart", 3900), ("object-store-restart", 5700), ("database-restart", 7500),
  ("rpc-split", 9300), ("indexer-rollback", 11700), ("docker-host-restart-resume", 13500),
  ("coordinator-promotion", promotion)]

def manifest (fault : List String) (promotion : ℤ) : Dict :=
  manifestOf (args fault) resolved digest (0, "0") (faults promotion)

def manifestBytes (fault : List String) (promotion : ℤ) : Bytes := encodeUtf8 (dumps true (.obj (manifest fault promotion)))

theorem holds_manifestBytes {fault : List String} {promotion : ℤ} (hplain : plain (.obj (manifest fault promotion)) = true) :
    Holds (manifestBytes fault promotion) (manifest fault promotion) := by
  have hloads := strictLoads_dumps_append true hplain "" stops_nil rfl
  rw [String.append_empty] at hloads
  exact ⟨_, decodeUtf8_encodeUtf8 _, hloads⟩

theorem length_manifestBytes {fault : List String} {promotion : ℤ} (hsize : size (.obj (manifest fault promotion)) ≤ 1048576) :
    ¬maxDocumentBytes < (manifestBytes fault promotion).length := by
  have hle := length_encodeUtf8_dumps_le true (.obj (manifest fault promotion))
  unfold maxDocumentBytes manifestBytes
  omega

theorem build_eq_ok {fault : List String} {promotion : ℤ} (hexpected : expectedValues (args fault) = .ok (0, "0"))
    (hfaults : loadFaults (args fault) = .ok (faults promotion)) :
    buildManifest (args fault) resolved = .ok (manifest fault promotion) := by
  have hendpoints : checkEndpoints (endpoints (args [])) = .ok () := by decide
  refine bind_eq_ok.2 ⟨(), hendpoints, ?_⟩
  exact bind_eq_ok.2 ⟨digest, rfl, bind_eq_ok.2 ⟨_, hexpected, bind_eq_ok.2 ⟨_, hfaults, rfl⟩⟩⟩

/-- A promotion in the last second is accepted. -/
theorem load_manifest_iff_inside :
    ∃ m, loadManifest "" (manifestBytes ["coordinator-promotion=43199"] 43199) = .ok m := by
  have hbuild : buildManifest (args ["coordinator-promotion=43199"]) resolved =
      .ok (manifest ["coordinator-promotion=43199"] 43199) := build_eq_ok (by decide) (by decide)
  have haccepted : Accepted (manifest ["coordinator-promotion=43199"] 43199) := .inl (by decide)
  have hinside : ∀ kv ∈ (givenFaults (args ["coordinator-promotion=43199"])).reverse, Soak.int kv.2 ≠ .ok 43200 := by
    decide
  have hcharges : (chargesText (givenCharges (args ["coordinator-promotion=43199"]))).toList = ['0'] := by decide
  refine (load_manifest_iff _ _ _ _ "" hbuild haccepted (holds_manifestBytes (by decide))).2 ⟨?_, ?_, ?_⟩
  · exact not_lt.1 (length_manifestBytes (by decide))
  · rintro ⟨kind, second, hgiven, hend⟩
    obtain ⟨before, after, hsplit, -⟩ := List.lookup_eq_some_iff.1 hgiven
    refine hinside (kind, second) ?_ hend
    rw [hsplit]
    simp
  · rintro ⟨c, cs, htext⟩
    rw [hcharges] at htext
    cases htext

/-- A promotion at the very end is generated and validated, and the driver refuses it. -/
theorem load_manifest_end : buildManifest (args ["coordinator-promotion=43200"]) resolved =
      .ok (manifest ["coordinator-promotion=43200"] 43200) ∧
    validateManifest (manifest ["coordinator-promotion=43200"] 43200) = .ok () ∧
    Holds (manifestBytes ["coordinator-promotion=43200"] 43200) (manifest ["coordinator-promotion=43200"] 43200) ∧
    loadManifest "" (manifestBytes ["coordinator-promotion=43200"] 43200) =
      .error (.driverError "scheduled fault coordinator-promotion is outside the soak duration") := by
  have hholds : Holds (manifestBytes ["coordinator-promotion=43200"] 43200) (manifest ["coordinator-promotion=43200"] 43200) :=
    holds_manifestBytes (by decide)
  have hparse := parseJson_of_holds hholds (length_manifestBytes (by decide)) ""
  refine ⟨build_eq_ok (by decide) (by decide), by decide, hholds, ?_⟩
  rw [loadManifest_of_parse hparse (item_reread _ _) (item_reread _ _)]
  decide

end TwelveHours

end Zkdeal.Soak6h
