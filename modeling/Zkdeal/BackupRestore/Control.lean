import Zkdeal.Interaction.Raising
import Zkdeal.Python.Bytes
import Zkdeal.Python.JsonRoundTrip

/-!
# Documents of the backup-restore control

What every part of the controller shares: its exceptions, canonical JSON, strict JSON objects, and the
checks of single fields.  An integer of more than 4300 digits, at which `json.loads` raises another
exception, counts as malformed here.
-/

namespace Zkdeal.BackupRestore

open Interaction Python Python.Sha256

/-- An exception: a `ControlError`, or any other one. -/
inductive Raised : Type where
  | control (message : String) (status : ℕ) (code : String)
  | other
  deriving DecidableEq

/-- `ControlError(message)` with its default status and code. -/
def invalidRequest (message : String) : Raised := .control message 400 "INVALID_REQUEST"

def configurationError (message : String) : Raised := .control message 503 "CONFIGURATION_ERROR"

def unsafeArtifact (message : String) : Raised := .control message 409 "UNSAFE_BACKUP_ARTIFACT"

def maxRequestBytes : ℕ := 64 * 1024

def maxResponseBytes : ℕ := 1024 * 1024

/-- `canonical_bytes(value)`; a value with an integer of more than 4300 digits has none. -/
def canonicalBytes (value : Json) : Bytes := encodeUtf8 (Json.dumps false value ++ "\n")

theorem canonicalBytes_length_le {value : Json} :
    (canonicalBytes value).length ≤ 4 * ((Json.encode false true value).length + 1) := by
  have each (cs : List Char) : (encodeChars cs).length ≤ 4 * cs.length := by
    induction cs with
    | nil => rfl
    | cons c cs ih =>
      have char : (String.utf8EncodeChar c).length ≤ 4 := by
        unfold String.utf8EncodeChar
        dsimp only
        split_ifs <;> simp
      unfold encodeChars at ih ⊢
      rw [List.flatMap_cons, List.length_append, List.length_cons]
      omega
  have := each (Json.encode false true value ++ ['\n'])
  rw [List.length_append] at this
  rwa [canonicalBytes, encodeUtf8, String.toList_append, Json.dumps, String.toList_ofList,
    show "\n".toList = ['\n'] by decide]

/-! ## Documents -/

/-- `value[key]` for a key that the value has. -/
def item (value : Dict) (key : String) : Json := (value.get key).getD .null

/-- `value[key]...` along a list of keys. -/
def follow : Json → List String → Json
  | value, [] => value
  | .obj value, key :: keys => follow (item value key) keys
  | _, _ :: _ => .null

/-- `strict_object(raw, label, maximum)` -/
def strictObject (raw : Bytes) (label : String) (maximum : ℕ) : Except Raised Dict := do
  raiseIf (maximum < raw.length)
    (Raised.control (label ++ " exceeds " ++ toString maximum ++ " bytes") 413 "DOCUMENT_TOO_LARGE")
  match decodeUtf8 raw with
  | none => .error (invalidRequest (label ++ " is not strict UTF-8 JSON"))
  | some text =>
    match Json.strictLoads text with
    | .error .malformed => .error (invalidRequest (label ++ " is not strict UTF-8 JSON"))
    | .error (.duplicate key) => .error (invalidRequest (label ++ " contains duplicate key " ++ Python.reprStr key))
    | .ok (.obj value) => .ok value
    | .ok _ => .error (invalidRequest (label ++ " must contain an object"))

/-- The canonical bytes of an object are read back, with its members sorted. -/
theorem strictObject_canonicalBytes {d d' : Dict} (label : String) {maximum : ℕ}
    (hplain : Json.plain (.obj d) = true) (hd : Json.canonical (.obj d) = .obj d')
    (short : (canonicalBytes (.obj d)).length ≤ maximum) :
    strictObject (canonicalBytes (.obj d)) label maximum = .ok d' := by
  have newline : "\n".toList = ['\n'] := by decide
  have hloads := Json.strictLoads_dumps_append false hplain "\n"
    (by rw [newline]; exact Json.stops_cons [] (.inr (.inr (.inr rfl)))) (by rw [newline]; decide)
  rw [strictObject, bind_eq_ok]
  refine ⟨(), raiseIf_eq_ok.2 (by omega), ?_⟩
  rw [canonicalBytes, decodeUtf8_encodeUtf8]
  dsimp only
  rw [hloads, hd]

/-- `exact_keys(value, expected, label)` -/
def exactKeys (value : Dict) (expected : List String) (label : String) : Except Raised Unit :=
  raiseIf (value.hasKeys expected = false) (invalidRequest (label ++ " keys differ; missing=" ++
    reprSorted (expected.filter fun key => (value.get key).isNone) ++ ", extra=" ++
    reprSorted ((value.map Prod.fst).filter fun key => !expected.contains key)))

/-- `bounded_int(value, label, minimum, maximum)` -/
def boundedInt (value : Json) (label : String) (minimum maximum : ℤ) : Except Raised ℤ :=
  match value with
  | .int n =>
    if minimum ≤ n ∧ n ≤ maximum then .ok n
    else .error (invalidRequest (label ++ " must be an integer from " ++ toString minimum ++ " through " ++
      toString maximum))
  | _ => .error (invalidRequest (label ++ " must be an integer from " ++ toString minimum ++ " through " ++
      toString maximum))

/-- `isinstance(value, str) and pattern.fullmatch(value)` -/
def matching (pattern : String → Bool) : Json → Option String
  | .str s => if pattern s then some s else none
  | _ => none

/-- A text that has to match a pattern. -/
def field (value : Json) (pattern : String → Bool) (e : Raised) : Except Raised String :=
  match matching pattern value with
  | some s => .ok s
  | none => .error e

theorem matching_eq_some {pattern : String → Bool} {value : Json} {s : String} :
    matching pattern value = some s ↔ value = .str s ∧ pattern s = true := by
  cases value <;> simp [matching]
  rename_i t
  constructor
  · rintro ⟨h, rfl⟩
    exact ⟨rfl, h⟩
  · rintro ⟨rfl, h⟩
    exact ⟨h, rfl⟩

theorem field_eq_ok {value : Json} {pattern : String → Bool} {e : Raised} {s : String} :
    field value pattern e = .ok s ↔ value = .str s ∧ pattern s = true := by
  rw [← matching_eq_some, field]
  split <;> simp_all

/-! ## Patterns -/

/-- `SHA256`, `HEX64`: `^[0-9a-f]{64}$` -/
def isSha256 (s : String) : Bool := between isLowerHex 64 64 s.toList

/-- `KEY_ID`: `^[0-9a-f]{32}$` -/
def isKeyId (s : String) : Bool := between isLowerHex 32 32 s.toList

/-- `TOKEN`: `^sha256:[0-9a-f]{64}$` -/
def isToken (s : String) : Bool := s.toList.take 7 = "sha256:".toList && between isLowerHex 64 64 (s.toList.drop 7)

/-- `CANDIDATE`: `^[a-z0-9][a-z0-9._-]{7,79}$` -/
def isCandidate (s : String) : Bool :=
  headed (fun c => isLower c || isDigit09 c)
    (fun c => isLower c || isDigit09 c || c == '.' || c == '_' || c == '-') 7 79 s.toList

/-- `SAFE_ID`: `^[a-z][a-z0-9._-]{2,79}$` -/
def isSafeId (s : String) : Bool :=
  headed isLower (fun c => isLower c || isDigit09 c || c == '.' || c == '_' || c == '-') 2 79 s.toList

/-- `HOST`: `^[A-Za-z0-9.-]{1,253}$` -/
def isHost (s : String) : Bool :=
  between (fun c => isUpper c || isLower c || isDigit09 c || c == '.' || c == '-') 1 253 s.toList

/-- `DB_NAME`: `^[A-Za-z_][A-Za-z0-9_-]{0,62}$` -/
def isDbName (s : String) : Bool :=
  headed (fun c => isUpper c || isLower c || c == '_')
    (fun c => isUpper c || isLower c || isDigit09 c || c == '_' || c == '-') 0 62 s.toList

/-- `BUCKET`: `^[a-z0-9][a-z0-9.-]{1,61}[a-z0-9]$` -/
def isBucket (s : String) : Bool :=
  let first (c : Char) : Bool := isLower c || isDigit09 c
  headed first (fun c => first c || c == '.' || c == '-') 2 62 s.toList && s.toList.getLast?.any first

/-- `EPHEMERAL_TOKEN`: `^eph_[A-Za-z0-9_-]{28,120}$` -/
def isEphemeralToken (s : String) : Bool :=
  s.toList.take 4 = "eph_".toList &&
    between (fun c => isUpper c || isLower c || isDigit09 c || c == '_' || c == '-') 28 120 (s.toList.drop 4)

/-! ## Secrets -/

/-- A regular file: its permission bits, and its contents if they can be read. -/
structure File where
  mode : ℕ
  contents : Option Bytes

/-- The regular files that are not symbolic links. -/
abbrev Files := String → Option File

/-- `path.read_bytes()` -/
def File.read (file : File) : Except Raised Bytes :=
  match file.contents with
  | some raw => .ok raw
  | none => .error .other

/-- `read_secret(path_value, expected_hash, label, require_ephemeral=...)` on a POSIX platform. -/
def readSecret (files : Files) (path expectedHash : Json) (label : String) (requireEphemeral : Bool) :
    Except Raised String := do
  match path, expectedHash with
  | .str path, .str expectedHash =>
    match files path with
    | none => .error (configurationError (label ++ " is absent, not regular, or a symlink"))
    | some file =>
      raiseIf (file.mode % 64 ≠ 0) (configurationError (label ++ " must have mode 0600 or stricter"))
      let raw ← file.read
      raiseIf (4096 < raw.length) (configurationError (label ++ " exceeds 4096 bytes"))
      match decodeUtf8 raw with
      | none => .error (configurationError (label ++ " is not UTF-8"))
      | some text =>
        let value := strip text
        raiseIf (value.length < 8 ∨ value.toList.any isSpace = true)
          (configurationError (label ++ " is empty or contains whitespace"))
        raiseIf (requireEphemeral = true ∧ isEphemeralToken value = false)
          (configurationError (label ++ " must contain an enclave-scoped eph_ token"))
        raiseIf (isSha256 expectedHash = false ∨ sha256 (encodeUtf8 value) ≠ expectedHash)
          (configurationError (label ++ " differs from the topology hash"))
        return value
  | _, _ => .error (configurationError (label ++ " binding is malformed"))

theorem isSha256_sha256 (b : Bytes) : isSha256 (sha256 b) = true := between_sha256 b

/-- A private file that holds the secret alone yields it. -/
theorem readSecret_of_contents {files : Files} {path value hash : String} (label : String)
    (hfile : files path = some { mode := 0o600, contents := some (encodeUtf8 value) })
    (clean : strip value = value ∧ 8 ≤ value.length ∧ value.toList.any isSpace = false ∧
      (encodeUtf8 value).length ≤ 4096) (hhash : sha256 (encodeUtf8 value) = hash) :
    readSecret files (.str path) (.str hash) label false = .ok value := by
  obtain ⟨hstrip, long, visible, short⟩ := clean
  simp only [readSecret, hfile, bind_eq_ok, raiseIf_eq_ok]
  refine ⟨(), by decide, encodeUtf8 value, rfl, (), by omega, ?_⟩
  rw [decodeUtf8_encodeUtf8]
  simp only [bind_eq_ok, raiseIf_eq_ok, hstrip]
  refine ⟨(), ?_, (), by simp, (), ?_, rfl⟩
  · rw [visible, not_or]
    exact ⟨by omega, Bool.false_ne_true⟩
  · rw [not_or, ← hhash, isSha256_sha256]
    exact ⟨Bool.true_eq_false_eq_False, not_not.2 rfl⟩

end Zkdeal.BackupRestore
