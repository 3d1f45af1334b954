import Zkdeal.BackupRestore.Control
import Zkdeal.Python.JsonText
import Zkdeal.Python.UrlBase

/-!
# What the deployment scripts share

Their exceptions, JSON files and image references.  The texts of the exceptions of the JSON decoder and of
the schema validator are left out of the errors.
-/

namespace Zkdeal.Scripts

open Interaction Python Json
open BackupRestore (item)

/-- An exception: a `DeploymentError`, or any other one. -/
inductive Raised : Type where
  | deployment (message : String)
  | other
  deriving DecidableEq

/-- An object, or a `DeploymentError`. -/
def asObject (value : Json) (message : String) : Except Raised Dict :=
  match value with
  | .obj fields => .ok fields
  | _ => .error (.deployment message)

/-- `value[key]` for an object with the key. -/
def subscript (value : Json) (key : String) : Except Raised Json :=
  match value with
  | .obj fields =>
    match Dict.get fields key with
    | some v => .ok v
    | none => .error .other
  | _ => .error .other

/-- `strict_json(path, label)` for the contents of a regular file that is no symlink, if there is one -/
def strictJson (file : Option Bytes) (label : String) : Except Raised Dict :=
  match file with
  | none => .error (.deployment (label ++ " is absent, not regular, or a symlink"))
  | some raw =>
    match decodeUtf8 raw with
    | none => .error .other
    | some text =>
      match loads text with
      | none => .error (.deployment (label ++ " is not JSON"))
      | some value => asObject value (label ++ " must contain a JSON object")

/-! ## URLs -/

/-- `urllib.parse.urlsplit(url).netloc.lower()` -/
def authority (url : String) : Except Raised (List Char) :=
  match urlsplit url with
  | some parsed => .ok (lower parsed.netloc)
  | none => .error .other

/-- `urllib.parse.urlsplit(url).path` -/
def urlPath (url : String) : Except Raised (List Char) :=
  match urlsplit url with
  | some parsed => .ok parsed.path
  | none => .error .other

/-! ## References -/

/-- `RESERVED_REGISTRIES` -/
def reservedRegistries : List String := ["registry.invalid", "registry.example"]

/-- The characters `[a-z0-9]` -/
def isReferenceStart (c : Char) : Bool := isLower c || isDigit09 c

/-- `REFERENCE`: a start, the characters of a repository, `@sha256:` and 64 hexadecimal digits -/
def isReference (s : String) : Bool :=
  match partition '@' s.toList with
  | (c :: cs, some digest) =>
    isReferenceStart c && cs.all (fun c => isReferenceStart c || ['.', '_', ':', '/', '-'].contains c) &&
      digest.take 7 = "sha256:".toList && between isLowerHex 64 64 (digest.drop 7)
  | _ => false

/-- `validate_reference(reference, label)` -/
def validateReference (reference : Json) (label : String) : Except Raised String :=
  match reference with
  | .str s =>
    if isReference s then do
      let (repository, digest) := partition '@' s.toList
      let segments := splitChars '/' repository
      raiseIf (':' ∈ segments.getLastD [])
        (Raised.deployment (label ++ " must not contain a mutable tag before @" ++ .ofList (digest.getD [])))
      let registry := segments.headD []
      raiseIf (String.ofList registry ∈ reservedRegistries ∨ endsWith registry ".invalid".toList = true ∨
          endsWith registry ".example".toList = true)
        (Raised.deployment (label ++ " uses a reserved placeholder registry: " ++ .ofList registry))
      return s
    else .error (.deployment (label ++ " must be exact lowercase repository@sha256:<64 hex>; got " ++ Json.repr reference))
  | _ => .error (.deployment (label ++ " must be exact lowercase repository@sha256:<64 hex>; got " ++ Json.repr reference))

end Zkdeal.Scripts
