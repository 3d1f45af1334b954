import Zkdeal.Python.Keys
import Zkdeal.Soak.Events

/-!
# Release-soak manifests

`validate_manifest` collects the errors of a manifest.
-/

namespace Zkdeal.Soak

open Python Json

/-! ## Python's `int`, `str` and `isinstance` -/

/-- `int(value)` -/
def int (value : Json) : Except Raised ℤ :=
  match value.toInt, value with
  | some n, _ => .ok n
  | none, .str _ => .error .valueError
  | none, .float x =>
    match x.toModel.unpack with
    | .infinity _ => .error .overflowError
    | _ => .error .valueError
  | none, _ => .error .typeError

/-- The value of an `isinstance(value, int)`. -/
def intOf : Json → Option ℤ
  | .int n => some n
  | .bool b => some (if b then 1 else 0)
  | _ => none

/-- `pattern.fullmatch(str(value))`; the text of a list or a dict starts with a bracket. -/
def fullmatch (pattern : String → Bool) (value : Json) : Bool :=
  match value.text with
  | some text => pattern text
  | none => false

/-- `SHA256`: `^[0-9a-f]{64}$` -/
def isSha256 (s : String) : Bool := between isLowerHex 64 64 s.toList

/-- `sha256:[0-9a-f]{64}` -/
def isToken (s : String) : Bool :=
  s.toList.take 7 = "sha256:".toList && between isLowerHex 64 64 (s.toList.drop 7)

/-- `0x[0-9a-fA-F]{64}` -/
def isHash (s : String) : Bool := s.toList.take 2 = "0x".toList && between isHex 64 64 (s.toList.drop 2)

/-- `IMAGE_DIGEST`: `^[^\s@]+@sha256:[0-9a-f]{64}$` -/
def isImageDigest (s : String) : Bool :=
  let cs := s.toList
  let name := cs.take (cs.length - 72)
  let digest := cs.drop (cs.length - 72)
  !name.isEmpty && name.all (fun c => !isSpace c && c != '@') && digest.take 8 = "@sha256:".toList &&
    between isLowerHex 64 64 (digest.drop 8)

/-- `str(sorted(names))` for names without quotes -/
def listText (names : List String) : String :=
  "[" ++ ", ".intercalate ((names.insertionSort (· ≤ ·)).map fun name => "'" ++ name ++ "'") ++ "]"

/-! ## Requirements -/

def requiredImages : List String :=
  ["coordinator", "indexer", "reconciler", "headless", "prover", "ownerAcceptanceRunner"]

def requiredTrustRoots : List String :=
  ["contractsAbiSha256", "circuitManifestSha256", "zkvmArtifactsSha256", "generatedTrustRootClosureSha256"]

def requiredFaults : List String :=
  ["headless-restart", "prover-restart", "coordinator-promotion", "indexer-rollback", "rpc-split",
    "object-store-restart", "database-restart", "docker-host-restart-resume"]

def requiredZeroBudgets : List String :=
  ["maxUnresolvedSafetyEvents", "maxUnresolvedClaims", "maxDuplicateNonces", "maxDuplicateCharges"]

/-- The exact fields of `physicalScenario`, with their `repr`. -/
def exactScenario : List (String × Json × String) := [
  ("hostedBatchInput", .str "BatchInputV5", "'BatchInputV5'"),
  ("fixturePrepare", .bool false, "False"),
  ("realCudaProof", .bool true, "True"),
  ("aggregateMembers", .int 8, "8"),
  ("transactionBlobs", .int 6, "6"),
  ("partialSuccessApplied", .int 7, "7"),
  ("partialSuccessFailed", .int 1, "1"),
  ("successOnlyCharging", .bool true, "True"),
  ("withdrawalClaim", .bool true, "True"),
  ("sponsorship", .bool true, "True"),
  ("preFinalityReorg", .bool true, "True"),
  ("freshDeployment", .bool true, "True"),
  ("restartResume", .bool true, "True"),
  ("ownerDurablePublishing", .bool true, "True"),
  ("castEncodingOnly", .bool true, "True"),
  ("directBroadcastAllowed", .bool false, "False")]

/-! ## Checks -/

/-- `d.get(key, default)` -/
def itemOr (d : Dict) (key : String) (default : Json) : Json := (d.get key).getD default

def errorIf (c : Bool) (message : String) : List String := if c then [message] else []

/-- `not SHA256.fullmatch(str(d.get(key, "")))` -/
def noSha256 (d : Dict) (key : String) : Bool := !fullmatch isSha256 (itemOr d key (.str ""))

def scenarioErrors : Json → List String
  | .obj scenario =>
    ["settlementScenarioSha256", "deploymentAddressesSha256", "ownerDurableCapabilitiesSha256"].flatMap (fun name =>
      errorIf (noSha256 scenario name) ("physicalScenario." ++ name ++ " must be a concrete SHA-256")) ++
    errorIf (!fullmatch isToken (itemOr scenario "ownerAcceptanceToken" (.str "")))
      "physicalScenario.ownerAcceptanceToken must be a final sha256 acceptance token" ++
    exactScenario.flatMap fun (name, expected, shown) =>
      errorIf (!(item scenario name).eq expected) ("physicalScenario." ++ name ++ " must equal " ++ shown)
  | _ => ["physicalScenario must be an object"]

def imageErrors : Json → List String
  | .obj images =>
    let missing := requiredImages.filter fun role => (Dict.get images role).isNone
    errorIf (!missing.isEmpty) ("missing required images: " ++ listText missing) ++
    images.flatMap fun (role, reference) =>
      errorIf (match reference with
        | .str s => !isImageDigest s
        | _ => true) ("image " ++ role ++ " must be repository@sha256:<64 hex>")
  | _ => ["images must be an object"]

def rootErrors : Json → List String
  | .obj roots => requiredTrustRoots.flatMap fun name =>
      errorIf (noSha256 roots name) ("trust root " ++ name ++ " must be a concrete SHA-256")
  | _ => ["trustRoots must be an object"]

/-- `isinstance(item, str) and item.startswith(("http://", "https://"))` -/
def isHttp : Json → Bool
  | .str s => s.toList.take 7 = "http://".toList || s.toList.take 8 = "https://".toList
  | _ => false

def seedErrors : Json → List String
  | .obj seed =>
    errorIf (match intOf (item seed "chainId") with
      | some n => n < 1
      | none => true) "chainSeed.chainId must be a positive integer" ++
    errorIf (!fullmatch isHash (itemOr seed "genesisHash" (.str ""))) "chainSeed.genesisHash must be a 32-byte hash" ++
    errorIf (noSha256 seed "seedSha256") "chainSeed.seedSha256 must be a concrete SHA-256" ++
    errorIf (match item seed "rpcEndpoints" with
      | .arr endpoints => endpoints.length < 2 || !endpoints.all isHttp
      | _ => true) "chainSeed.rpcEndpoints must contain at least two HTTP(S) endpoints"
  | _ => ["chainSeed must be an object"]

/-- The value is no `int`, or a smaller one. -/
def notAtLeast (value : Json) (minimum : ℤ) : Bool :=
  match intOf value with
  | some n => n < minimum
  | none => true

/-- The errors of `expected`; a value of another type that is not empty has no `get`. -/
def expectedErrors (expected : Json) : Except Raised (List String) := do
  let fields : Dict := match expected with
    | .obj fields => fields
    | _ => []
  let usage := errorIf (notAtLeast (item fields "usageUnits") 0) "expected.usageUnits must be a non-negative integer"
  let refused := "expected.chargesWei must be a non-negative integer string"
  match expected with
  | .obj _ => pure ()
  | value => if value.truthy then .error .attributeError
  match int (itemOr fields "chargesWei" (.int (-1))) with
  | .ok n => return usage ++ errorIf (n < 0) refused
  | .error .overflowError => .error .overflowError
  | .error _ => return usage ++ [refused]

def budgetErrors : Json → List String
  | .obj budgets =>
    requiredZeroBudgets.flatMap (fun name =>
      errorIf (!(item budgets name).eq (.int 0)) (name ++ " must be zero")) ++
    errorIf (notAtLeast (item budgets "maxFairnessWaitMs") 1) "maxFairnessWaitMs must be a positive integer" ++
    errorIf (notAtLeast (item budgets "maxDeadlineMisses") 0) "maxDeadlineMisses must be a non-negative integer"
  | _ => ["budgets must be an object"]

/-- The value as the key of a dict or the member of a set. -/
def hashed (value : Json) : Except Raised Key :=
  match value.key with
  | some key => .ok key
  | none => .error .typeError

/-- The items of a list that are objects. -/
def objects (items : List Json) : List Dict := items.filterMap fun
  | .obj d => some d
  | _ => none

def faultErrors : Json → Except Raised (List String)
  | .arr faults => do
    let kinds ← (objects faults).mapM fun fault => hashed (item fault "kind")
    let missing := requiredFaults.filter fun kind => !kinds.contains (.str kind)
    let malformed := faults.any fun
      | .obj fault => notAtLeast (item fault "atSecond") 0
      | _ => true
    return errorIf (!missing.isEmpty) ("missing scheduled faults: " ++ listText missing) ++
      errorIf malformed "every scheduled fault requires a non-negative atSecond"
  | _ => .ok ["scheduledFaults must be a list"]

/-- `validate_manifest(manifest)` -/
def validateManifest (manifest : Dict) : Except Raised Unit := do
  let duration ← int (itemOr manifest "durationSeconds" (.int 0))
  let expected ← expectedErrors (item manifest "expected")
  let faults ← faultErrors (item manifest "scheduledFaults")
  let errors :=
    errorIf (!(item manifest "schemaVersion").eq (.int 1) || !(item manifest "kind").eq (.str "zkdeal-release-soak"))
      "manifest must be zkdeal-release-soak schemaVersion 1" ++
    errorIf (duration < 43200) "release soak duration must be at least 43200 seconds (12 hours)" ++
    ["umbrellaSourceManifestSha256", "sourceBundleArchiveSha256", "sourceClosureSha256"].flatMap (fun name =>
      errorIf (noSha256 manifest name) (name ++ " must be a concrete SHA-256")) ++
    scenarioErrors (item manifest "physicalScenario") ++ imageErrors (item manifest "images") ++
    rootErrors (item manifest "trustRoots") ++ seedErrors (item manifest "chainSeed") ++ expected ++
    budgetErrors (item manifest "budgets") ++ faults
  if !errors.isEmpty then .error (.deploymentError ("; ".intercalate errors))

/-- `load_json(path)` -/
def loadJson (path : String) (file : Bytes) : Except Raised Dict :=
  match (readText file).bind loads with
  | some (.obj value) => .ok value
  | some _ => .error (.deploymentError ("expected JSON object: " ++ path))
  | none => .error .valueError

end Zkdeal.Soak
