import Zkdeal.Files.Effects
import Zkdeal.Files.PurePath
import Zkdeal.Python.JsonBytes
import Zkdeal.Python.JsonText
import Zkdeal.Python.Keys
import Zkdeal.BackupRestore.Control

/-!
# Source bundles

A bundle is an archive with a manifest of its own.  It is verified as a whole before anything is extracted; the
extraction stages the files in a directory inside the target, and moves what is at the top of it one by one.
-/

namespace Zkdeal.SourceBundle

open Interaction Raising Files Python Json Python.Sha256
open BackupRestore (item)

/-- An exception: a `BundleError`, or any other one. -/
inductive Raised : Type where
  | bundle (message : String)
  | other
  deriving DecidableEq

/-- What `tarfile` says of a member, and what it reads from it. -/
structure TarMember where
  name : String
  isfile : Bool
  issym : Bool
  islnk : Bool
  size : ℤ
  mode : ℤ
  contents : Option Bytes

/-- An archive: its bytes, and the members that `tarfile` finds in them. -/
structure Archive where
  bytes : Bytes
  members : List TarMember

/-- The bounds of the verifier. -/
structure Limits where
  members : ℕ
  totalBytes : ℤ
  memberBytes : ℤ

/-- `MAX_ARCHIVE_MEMBERS`, `MAX_ARCHIVE_BYTES` and `MAX_ARCHIVE_MEMBER_BYTES` -/
def defaultLimits : Limits := ⟨250000, 20 * 1024 * 1024 * 1024, 512 * 1024 * 1024⟩

def releaseBindingPaths : List String := [
  "app-node/packages/room-node/capabilities/room-node.json",
  "prover-node/agent/package.json",
  "prover-node/agent/liveness-capability.json",
  "prover-node/agent/trace-capability.json",
  "prover-node/agent/test/fixtures/hosted-trace-join.json",
  "prover-node/agent/src/agent.ts",
  "prover-node/agent/src/heartbeat.ts",
  "prover-node/agent/src/local-prover.ts",
  "prover-node/agent/src/structured-log.ts",
  "prover-node/zkvm/source-manifest.candidate.json",
  "web3-protocol/contracts/contract-capabilities.json",
  "web2-api/server/capabilities/room-batch-hosted-integration-v1.json",
  "cloud-deployer-infra/config/schemas/release-soak-manifest.schema.json"]

/-! ## Verification -/

/-- `value[key]` -/
def subscript (value : Json) (key : String) : Except Raised Json :=
  match value with
  | .obj fields =>
    match Dict.get fields key with
    | some v => .ok v
    | none => .error .other
  | _ => .error .other

/-- The items of `value`, as a loop over it gives them. -/
def items : Json → Except Raised (List Json)
  | .arr items => .ok items
  | .obj fields => .ok (fields.map fun field => .str field.1)
  | .str s => .ok (s.toList.map fun c => .str (.ofList [c]))
  | _ => .error .other

/-- `value` as the key of a dict or the member of a set -/
def hashed (value : Json) : Except Raised Key :=
  match value.key with
  | some key => .ok key
  | none => .error .other

/-- `archive.getmember(name)` -/
def getmember (members : List TarMember) (name : String) : Except Raised TarMember :=
  match members.reverse.find? fun member => member.name = rstripSlash name with
  | some member => .ok member
  | none => .error .other

/-- `safe_member(name)` -/
def safeMember (name : String) : Except Raised Path := do
  let pure := pathOf name
  raiseIf (pure.isUnsafe = true) (Raised.bundle ("unsafe archive member: " ++ name))
  return pure.parts

/-- `embedded_manifest(archive)` -/
def embeddedManifest (members : List TarMember) : Except Raised (Dict × String × Bytes) := do
  let refused := Raised.bundle "unsupported, history-bearing, or secret-bearing bundle"
  match ["SOURCE-MANIFEST.json", "EVIDENCE-MANIFEST.json"].filter fun name => members.any fun m => m.name = name with
  | [manifestName] => do
    let member ← getmember members manifestName
    match member.contents with
    | none => .error (.bundle "SOURCE-MANIFEST.json is unreadable")
    | some raw =>
      match loadsBytes raw with
      | some (.obj value) => do
        raiseIf ((item value "schemaVersion").eq (.int 1) = false) refused
        let format ← hashed (item value "format")
        raiseIf (format ∉ [.str "zkdeal-source-bundle", .str "zkdeal-evidence-bundle"]) refused
        raiseIf (item value "historyIncluded" ≠ .bool false) refused
        raiseIf (item value "secretsIncluded" ≠ .bool false) refused
        return (value, manifestName, raw)
      | _ => .error .other
  | _ => .error (.bundle "archive must contain exactly one recognized embedded manifest")

/-- The outer manifest, and the archive that it describes. -/
def loadOuter (archive : Archive) (raw : Bytes) : Except Raised Dict := do
  let refused := Raised.bundle "outer manifest is unsupported, history-bearing, or secret-bearing"
  match (decodeUtf8 raw).bind loads with
  | some (.obj outer) => do
    raiseIf ((item outer "schemaVersion").eq (.int 1) = false) refused
    raiseIf (item outer "historyIncluded" ≠ .bool false) refused
    raiseIf (item outer "secretsIncluded" ≠ .bool false) refused
    raiseIf ((item outer "archiveSha256").eqStr (sha256 archive.bytes) = false)
      (Raised.bundle "archive SHA-256 does not match outer manifest")
    raiseIf ((item outer "archiveBytes").eq (.int archive.bytes.length) = false)
      (Raised.bundle "archive byte size does not match outer manifest")
    return outer
  | _ => .error .other

/-- `d.get(key, default)` -/
def itemOr (d : Dict) (key : String) (default : Json) : Json := (d.get key).getD default

/-- The two manifests agree. -/
def checkOuter (outer manifest : Dict) : Except Raised Unit := do
  raiseIf ((item outer "format").eq (item manifest "format") = false)
    (Raised.bundle "outer and embedded bundle formats disagree")
  let entries ← items (itemOr manifest "entries" (.arr []))
  raiseIf ((item outer "fileCount").eq (.int entries.length) = false)
    (Raised.bundle "outer and embedded file counts disagree")
  raiseIf ((item outer "totalBytes").eq (item manifest "totalBytes") = false)
    (Raised.bundle "outer and embedded total byte counts disagree")
  raiseIf ((itemOr outer "projects" (.arr [])).eq (itemOr manifest "projects" (.arr [])) = false)
    (Raised.bundle "outer and embedded project lists disagree")

/-- The expected entry of a name. -/
def expectedEntry (expected : List (Key × Json)) (name : String) : Except Raised Json :=
  match expected.lookup (.str name) with
  | some entry => .ok entry
  | none => .error .other

/-- One member of the archive, after members of `total` bytes. -/
def verifyMember (limits : Limits) (expected : List (Key × Json)) (total : ℤ) (member : TarMember) : Except Raised ℤ := do
  let _ ← safeMember member.name
  raiseIf (member.isfile = false ∨ member.issym = true ∨ member.islnk = true)
    (Raised.bundle ("unsupported member type: " ++ member.name))
  raiseIf (limits.memberBytes < member.size) (Raised.bundle ("archive member exceeds byte bound: " ++ member.name))
  raiseIf (limits.totalBytes < total + member.size) (Raised.bundle "archive members exceed total-byte bound")
  match member.contents with
  | none => .error (.bundle ("cannot read member: " ++ member.name))
  | some contents => do
    let entry ← expectedEntry expected member.name
    let mismatch := Raised.bundle ("content mismatch: " ++ member.name)
    raiseIf ((← subscript entry "sha256").eqStr (sha256 contents) = false) mismatch
    raiseIf ((← subscript entry "bytes").eq (.int member.size) = false) mismatch
    match entry with
    | .obj fields =>
      let mode := item fields "mode"
      raiseIf (¬(mode.eq (.int 0o644) = true ∨ mode.eq (.int 0o755) = true) ∨ mode.eq (.int member.mode) = false)
        (Raised.bundle ("mode mismatch: " ++ member.name))
    | _ => .error .other
    return total + member.size

/-- `f"{mode:04o}"` -/
def octal4 : Json → Except Raised String
  | .int mode => .ok (.ofList (List.leftpad 4 '0' (Nat.toDigits 8 mode.toNat)))
  | _ => .error .other

/-- The line of an entry in `entries_sha256`. -/
def entryLine (entry : Json) : Except Raised (String × String) := do
  let digest := strOf (← subscript entry "sha256")
  let bytes := strOf (← subscript entry "bytes")
  let mode ← octal4 (← subscript entry "mode")
  let path := strOf (← subscript entry "path")
  return (path, digest ++ " " ++ bytes ++ " " ++ mode ++ " " ++ path ++ "\n")

/-- `entries_sha256(entries)`, for entries whose paths are texts -/
def entriesSha256 (entries : List Json) : Except Raised String := do
  let lines ← entries.mapM entryLine
  return sha256 (encodeUtf8 (String.join ((lines.insertionSort fun a b => a.1 ≤ b.1).map Prod.snd)))

/-- The entries of the release bindings that are in the bundle. -/
def criticalBindings (expected : List (Key × Json)) : Except Raised Dict :=
  (releaseBindingPaths.filter fun path => (expected.lookup (.str path)).isSome).mapM fun path => do
    let entry ← expectedEntry expected path
    let digest ← subscript entry "sha256"
    let bytes ← subscript entry "bytes"
    let mode ← subscript entry "mode"
    return (path, .obj [("sha256", digest), ("bytes", bytes), ("mode", mode)])

/-- `verify_bundle(archive_path, outer_manifest_path, ...)`, for the outer manifest's path and bytes -/
def verifyBundle (limits : Limits) (archivePath : String) (archive : Archive) (outer : Option (String × Bytes)) :
    Except Raised Dict := do
  let outerManifest ← outer.mapM fun file => loadOuter archive file.2
  let (manifest, manifestName, manifestBytes) ← embeddedManifest archive.members
  let _ ← outerManifest.mapM fun outerManifest => checkOuter outerManifest manifest
  let entries ← items (← subscript (.obj manifest) "entries")
  raiseIf (limits.members < entries.length) (Raised.bundle
    ("archive exceeds member bound: " ++ toString entries.length ++ " > " ++ toString limits.members))
  match (itemOr manifest "totalBytes" (.int (-1))).toInt with
  | none => .error .other
  | some declaredTotal => do
    raiseIf (declaredTotal < 0 ∨ limits.totalBytes < declaredTotal) (Raised.bundle
      ("archive exceeds total-byte bound: " ++ toString declaredTotal ++ " > " ++ toString limits.totalBytes))
    let keys ← entries.mapM fun entry => do hashed (← subscript entry "path")
    let expected := keys.zip entries
    raiseIf (¬keys.Nodup) (Raised.bundle "embedded manifest contains duplicate paths")
    raiseIf (limits.members + 1 < archive.members.length) (Raised.bundle "archive header count exceeds member bound")
    let actual := archive.members.filter fun member => member.name ≠ manifestName
    raiseIf (¬(actual.map TarMember.name).Nodup ∨ actual.length + 1 ≠ archive.members.length)
      (Raised.bundle "archive contains duplicate member names")
    raiseIf (¬((∀ member ∈ actual, .str member.name ∈ keys) ∧ ∀ key ∈ keys, key ∈ actual.map fun member => Key.str member.name))
      (Raised.bundle "archive file set does not match embedded manifest")
    let actualTotal ← actual.foldlM (verifyMember limits expected) 0
    raiseIf (actualTotal ≠ declaredTotal) (Raised.bundle "archive total bytes do not match embedded manifest")
    let critical ← criticalBindings expected
    let digest ← entriesSha256 entries
    return [("verified", .bool true), ("archive", .str archivePath), ("archiveSha256", .str (sha256 archive.bytes)),
      ("outerManifest", (outer.map fun file => Json.str file.1).getD .null),
      ("outerManifestSha256", (outer.map fun file => Json.str (sha256 file.2)).getD .null),
      ("embeddedManifestSha256", .str (sha256 manifestBytes)), ("entriesSha256", .str digest),
      ("files", .int entries.length), ("bytes", item manifest "totalBytes"), ("format", item manifest "format"),
      ("projects", itemOr manifest "projects" (.arr [])), ("records", itemOr manifest "records" (.arr [])),
      ("historyIncluded", .bool false), ("secretsIncluded", .bool false), ("criticalSourceBindings", .obj critical)]

/-! ## Extraction -/

/-- Something more is read from the archive. -/
def readBundle : Filing Raised Unit := do
  let r : Bool ← perform FileOp.read
  raiseIf (r = false) Raised.other

/-- An entry is written below the staging directory. -/
def stageEntry (members : List TarMember) (temporary : Path) (entry : Json) : Filing Raised Unit := do
  match ← liftExcept (subscript entry "path") with
  | .str path => do
    let member ← liftExcept (getmember members path)
    let relative ← liftExcept (safeMember path)
    let destination := temporary ++ relative
    mkdirParents Raised.other destination.dropLast 0o777
    readBundle
    match member.contents with
    | none => throw (Raised.bundle ("cannot read member: " ++ path))
    | some contents => do
      let opened : Bool ← perform (FileOp.enter destination false)
      raiseIf (opened = false) Raised.other
      let copied : Bool ← perform (FileOp.write destination contents)
      raiseIf (copied = false) Raised.other
      let changed : Bool ← perform (FileOp.chmod destination (member.mode % 0o1000).toNat)
      raiseIf (changed = false) Raised.other
  | _ => throw Raised.other

/-- What is at the top of the staging directory is moved into the target. -/
def moveChild (target temporary : Path) (name : String) : Filing Raised Unit := do
  let moved : Bool ← perform (FileOp.replace (temporary ++ [name]) (target ++ [name]))
  raiseIf (moved = false) Raised.other

/-- The extraction into the staging directory, and the moves out of it. -/
def unpack (members : List TarMember) (target temporary : Path) : Filing Raised Unit := do
  readBundle
  let (manifest, _, _) ← liftExcept (embeddedManifest members)
  let entries ← liftExcept (subscript (.obj manifest) "entries" >>= items)
  entries.forM (stageEntry members temporary)
  let children : Option (List String) ← perform (FileOp.iterdir temporary)
  match children with
  | none => throw Raised.other
  | some names => do
    names.forM (moveChild target temporary)
    let removed : Bool ← perform (FileOp.rmdir temporary)
    raiseIf (removed = false) Raised.other

/-- `str(path)` for a place -/
def pathText (path : Path) : String := "/" ++ String.intercalate "/" path

/-- The directory in the target that the files are staged in. -/
def staging (target : Path) : Path := target ++ [".bundle-extract.partial"]

/-- The target has to be absent or empty. -/
def checkTarget (target : Path) : Filing Raised Unit := do
  let there : Option Bool ← perform (FileOp.look target)
  raiseIf (there = none) Raised.other
  whenTrue (there = some true) do
    let children : Option (List String) ← perform (FileOp.iterdir target)
    raiseIf (children = none) Raised.other
    raiseIf (children ≠ some []) (Raised.bundle ("target must be new and empty: " ++ pathText target))

/-- The staging directory is made, which must not be there yet. -/
def makeStaging (target : Path) : Filing Raised Unit := do
  let stale : Option Bool ← perform (FileOp.look (staging target))
  raiseIf (stale = none) Raised.other
  raiseIf (stale = some true) (Raised.bundle ("stale extraction directory exists: " ++ pathText (staging target)))
  let ended : Made ← perform (FileOp.mkdir (staging target) 0o777)
  raiseIf (ended ≠ .made) Raised.other

/-- `extract_bundle(archive_path, target, outer_manifest_path)` -/
def extractBundle (archivePath : String) (archive : Archive) (outer : Option (String × Bytes)) (target : Path) :
    Filing Raised Dict := do
  readBundle
  let result ← liftExcept (verifyBundle defaultLimits archivePath archive outer)
  checkTarget target
  mkdirParents Raised.other target 0o777
  makeStaging target
  match ← trying (unpack archive.members target (staging target)) with
  | .ok () => return result ++ [("extractedTo", .str (pathText target))]
  | .error e => do
    let _ : Unit ← perform (FileOp.rmtree (staging target))
    throw e

/-! ## What a failure leaves -/

/-- A step of a run in which nothing fails once something was moved, and in which a removal is complete. -/
structure Smooth (w : Work) (o : FileOp) (r : o.Answer) (w' : Work) : Prop extends Effect w o r w' where
  unfailing : w.moved ≠ [] → succeeds o r
  complete : ∀ path, o = .rmtree path → ∀ path', path <+: path' → w'.disk.node path' = none

/-- The target is new, or an empty directory. -/
structure Vacant (d : Disk Stored) (target : Path) : Prop where
  node : d.node target = none ∨ d.node target = some .dir
  below : ∀ path, target <+: path → path ≠ target → d.node path = none

/-- Nothing is in the target but the staging directory, and nothing was moved. -/
structure Staged (target : Path) (w : Work) : Prop where
  quiet : w.moved = []
  node : w.disk.node target = some .dir
  root : w.disk.node (staging target) = some .dir
  below : ∀ path, target <+: path → path ≠ target → ¬staging target <+: path → w.disk.node path = none

/-- Everything is permitted. -/
def anything (_ : Work) (_ : FileOp) : Prop := True

variable {target : Path} {members : List TarMember}

theorem effect_of_smooth (w : Work) (o : FileOp) (r : o.Answer) (w' : Work) (h : Smooth w o r w') : Effect w o r w' :=
  h.toEffect

theorem prefix_staging (target : Path) : target <+: staging target := List.prefix_append _ _

theorem staging_ne (target : Path) : staging target ≠ target := by
  intro same
  have lengths := congrArg List.length same
  simp [staging] at lengths

theorem Staged.grown {w w' : Work} {path destination : Path} (h : Staged target w) (grown : Grown path w w')
    (hpath : path <+: destination) (below : staging target <+: destination) : Staged target w' := by
  refine ⟨grown.moved.trans h.quiet, ?_, ?_, fun path' inside other outside => ?_⟩
  · rw [grown.kept (by rw [h.node]; rfl), h.node]
  · rw [grown.kept (by rw [h.root]; rfl), h.root]
  · rcases grown.node path' with same | ⟨absent, -, within⟩
    · rw [same]
      exact h.below path' inside other outside
    · exact absurd (Disk.below_of_absent h.root (within.trans hpath) below absent) outside

/-- A change below the staging directory. -/
theorem Staged.update {w w' : Work} {path : Path} {n : Option (Node Stored)} (h : Staged target w)
    (below : staging target <+: path) (other : path ≠ staging target)
    (updated : w'.disk.node = Function.update w.disk.node path n) (moved : w'.moved = w.moved) : Staged target w' := by
  have outer : target ≠ path := by
    rintro rfl
    exact staging_ne target (below.eq_of_length_le (by simp [staging]))
  refine ⟨moved.trans h.quiet, ?_, ?_, fun path' inside other' outside => ?_⟩
  · rw [updated, Function.update_of_ne outer, h.node]
  · rw [updated, Function.update_of_ne other.symm, h.root]
  · have apart : path' ≠ path := by
      rintro rfl
      exact outside below
    rw [updated, Function.update_of_ne apart]
    exact h.below path' inside other' outside

theorem Staged.same {w w' : Work} (h : Staged target w) (disk : w'.disk = w.disk) (moved : w'.moved = w.moved) :
    Staged target w' := by
  refine ⟨moved.trans h.quiet, ?_, ?_, ?_⟩ <;> rw [disk]
  · exact h.node
  · exact h.root
  · exact h.below

/-- A file below the staging directory is another place than the directory. -/
theorem Staged.ne_of_file {w : Work} {path : Path} {file : Stored} (h : Staged target w)
    (hfile : w.disk.node path = some (.file file)) : path ≠ staging target := by
  rintro rfl
  rw [h.root] at hfile
  cases hfile

theorem meets_readBundle {w : Work} {Q : Work → Prop} (h : Q w) :
    Meets Smooth anything readBundle (fun _ => Q) (fun _ => Q) w := by
  refine meets_bind_iff.2 (meets_perform_iff.2 ⟨trivial, fun (r : Bool) w' step => ?_⟩)
  rw [step.same step.acts ⟨rfl, rfl⟩]
  exact meets_raiseIf_iff.2 ⟨fun _ => h, fun _ => h⟩

/-- Staging an entry leaves nothing outside the staging directory. -/
theorem meets_stageEntry {w : Work} (entry : Json) (h : Staged target w) :
    Meets Smooth anything (stageEntry members (staging target) entry) (fun _ => Staged target) (fun _ => Staged target) w := by
  unfold stageEntry
  refine meets_bind_iff.2 (meets_liftExcept_iff.2 ?_)
  cases subscript entry "path" with
  | error e => exact h
  | ok value =>
    cases value with
    | str path =>
      refine meets_bind_iff.2 (meets_liftExcept_iff.2 ?_)
      cases getmember members path with
      | error e => exact h
      | ok member =>
        refine meets_bind_iff.2 (meets_liftExcept_iff.2 ?_)
        cases safeMember path with
        | error e => exact h
        | ok relative =>
          have below : staging target <+: staging target ++ relative := List.prefix_append _ _
          have above := List.dropLast_prefix (staging target ++ relative)
          have made : Meets Smooth anything (mkdirParents Raised.other (staging target ++ relative).dropLast 0o777)
              (fun _ => Grown (staging target ++ relative).dropLast w) (fun _ => Grown (staging target ++ relative).dropLast w) w :=
            meets_mkdirParents effect_of_smooth fun _ _ _ _ _ => ⟨trivial, trivial⟩
          refine (made.mono (fun _ _ ok => ok) (fun _ _ grown => grown) fun _ _ grown => h.grown grown above below).bind
            fun _ w₁ grown => ?_
          have h₁ := h.grown grown above below
          refine (meets_readBundle h₁).bind fun _ w₁ h₁ => ?_
          cases member.contents with
          | none => exact meets_throw_iff.2 h₁
          | some contents =>
            refine meets_bind_iff.2 (meets_perform_iff.2 ⟨trivial, fun (opened : Bool) w₂ step => ?_⟩)
            have h₂ : Staged target w₂ := by
              have moved : w₂.moved = w₁.moved := step.moved.trans (List.append_nil _)
              rcases step.acts with ⟨-, same⟩ | entered
              · exact h₁.same same moved
              · obtain ⟨mode, updated⟩ := entered.entered
                have other : staging target ++ relative ≠ staging target := by
                  intro same
                  rcases entered.fits with absent | ⟨-, file, hfile⟩
                  · rw [same, h₁.root] at absent
                    cases absent
                  · exact h₁.ne_of_file hfile same
                exact h₁.update below other updated moved
            refine meets_bind_iff.2 (meets_raiseIf_iff.2 ⟨fun _ => h₂, fun _ => ?_⟩)
            refine meets_bind_iff.2 (meets_perform_iff.2 ⟨trivial, fun (copied : Bool) w₃ step₃ => ?_⟩)
            have h₃ : Staged target w₃ := by
              obtain ⟨file, written, hfile, -, updated⟩ := step₃.acts
              exact h₂.update below (h₂.ne_of_file hfile) updated (step₃.moved.trans (List.append_nil _))
            refine meets_bind_iff.2 (meets_raiseIf_iff.2 ⟨fun _ => h₃, fun _ => ?_⟩)
            refine meets_bind_iff.2 (meets_perform_iff.2 ⟨trivial, fun (changed : Bool) w₄ step₄ => ?_⟩)
            have h₄ : Staged target w₄ := by
              have moved : w₄.moved = w₃.moved := step₄.moved.trans (List.append_nil _)
              rcases step₄.acts with ⟨-, same⟩ | ⟨file, hfile, updated⟩
              · exact h₃.same same moved
              · exact h₃.update below (h₃.ne_of_file hfile) updated moved
            exact meets_raiseIf_iff.2 ⟨fun _ => h₄, fun _ => h₄⟩
    | _ => exact meets_throw_iff.2 h

/-- Before anything is moved all is staged. -/
def Moving (target : Path) (w : Work) : Prop := w.moved = [] → Staged target w

/-- An operation that fails without an effect fails before anything is moved. -/
theorem Moving.failed {w w' : Work} {o : FileOp} {r : o.Answer} (h : Moving target w) (step : Smooth w o r w')
    (failed : ¬succeeds o r) (disk : w'.disk = w.disk) (moved : w'.moved = w.moved) : Staged target w' := by
  have quiet : w.moved = [] := not_not.1 fun some => failed (step.unfailing some)
  exact (h quiet).same disk moved

/-- The moves raise only before the first of them. -/
theorem meets_moveChild {w : Work} (name : String) (h : Moving target w) :
    Meets Smooth anything (moveChild target (staging target) name) (fun _ => Moving target) (fun _ => Staged target) w := by
  refine meets_bind_iff.2 (meets_perform_iff.2 ⟨trivial, fun (moved : Bool) w' step => ?_⟩)
  cases moved with
  | true =>
    refine meets_raiseIf_iff.2 ⟨fun failed => absurd failed.symm Bool.false_ne_true, fun _ quiet => ?_⟩
    rw [step.moved] at quiet
    exact absurd quiet (List.append_ne_nil_of_right_ne_nil _ (by simp [moves]))
  | false =>
    refine meets_raiseIf_iff.2 ⟨fun _ => ?_, fun done => absurd rfl done⟩
    exact h.failed step Bool.false_ne_true step.acts (step.moved.trans (List.append_nil _))

theorem meets_unpack {w : Work} (h : Staged target w) :
    Meets Smooth anything (unpack members target (staging target)) (fun _ _ => True) (fun _ => Staged target) w := by
  unfold unpack
  refine (meets_readBundle h).bind fun _ w h => ?_
  refine meets_bind_iff.2 (meets_liftExcept_iff.2 ?_)
  cases embeddedManifest members with
  | error e => exact h
  | ok embedded =>
    refine meets_bind_iff.2 (meets_liftExcept_iff.2 ?_)
    cases subscript (.obj embedded.1) "entries" >>= items with
    | error e => exact h
    | ok entries =>
      have staged : Meets Smooth anything (entries.forM (stageEntry members (staging target))) (fun _ => Staged target)
          (fun _ => Staged target) w := Meets.forM (fun entry _ w h => meets_stageEntry entry h) h
      refine staged.bind fun _ w h => ?_
      refine meets_bind_iff.2 (meets_perform_iff.2 ⟨trivial, fun (children : Option (List String)) w₁ step => ?_⟩)
      have h₁ : Staged target w₁ := h.same step.acts.1 (step.moved.trans (List.append_nil _))
      cases children with
      | none => exact meets_throw_iff.2 h₁
      | some names =>
        have moving : Meets Smooth anything (names.forM (moveChild target (staging target))) (fun _ => Moving target)
            (fun _ => Staged target) w₁ := Meets.forM (fun name _ w h => meets_moveChild name h) fun _ => h₁
        refine moving.bind fun _ w h => ?_
        refine meets_bind_iff.2 (meets_perform_iff.2 ⟨trivial, fun (removed : Bool) w₂ step => ?_⟩)
        refine meets_raiseIf_iff.2 ⟨fun failed => ?_, fun _ => trivial⟩
        subst failed
        exact h.failed step Bool.false_ne_true step.acts (step.moved.trans (List.append_nil _))

/-! ## The extraction as a whole -/

/-- Nothing changes at the target or below it, but that the target may be made. -/
theorem Vacant.grown {w w' : Work} (h : Vacant w.disk target) (grown : Grown target w w') : Vacant w'.disk target := by
  refine ⟨?_, fun path below other => ?_⟩
  · rcases grown.node target with same | ⟨-, new, -⟩
    · rw [same]
      exact h.node
    · exact .inr new
  · rcases grown.node path with same | ⟨-, -, within⟩
    · rw [same]
      exact h.below path below other
    · exact absurd (within.eq_of_length_le below.length_le) other

theorem meets_checkTarget {w : Work} (h : Vacant w.disk target) (quiet : w.moved = []) :
    Meets Smooth anything (checkTarget target) (fun _ w => Vacant w.disk target ∧ w.moved = [])
      (fun _ w => Vacant w.disk target) w := by
  unfold checkTarget
  refine meets_bind_iff.2 (meets_perform_iff.2 ⟨trivial, fun (there : Option Bool) w₁ step => ?_⟩)
  rw [step.same step.acts.1 ⟨rfl, rfl⟩]
  refine meets_bind_iff.2 (meets_raiseIf_iff.2 ⟨fun _ => h, fun _ => ?_⟩)
  refine meets_whenTrue_iff.2 ⟨fun _ => ?_, fun _ => ⟨h, quiet⟩⟩
  refine meets_bind_iff.2 (meets_perform_iff.2 ⟨trivial, fun (children : Option (List String)) w₂ step₂ => ?_⟩)
  rw [step₂.same step₂.acts.1 ⟨rfl, rfl⟩]
  refine meets_bind_iff.2 (meets_raiseIf_iff.2 ⟨fun _ => h, fun _ => ?_⟩)
  exact meets_raiseIf_iff.2 ⟨fun _ => h, fun _ => ⟨h, quiet⟩⟩

theorem meets_makeStaging {w : Work} (h : Vacant w.disk target) (quiet : w.moved = []) :
    Meets Smooth anything (makeStaging target) (fun _ => Staged target) (fun _ w => Vacant w.disk target) w := by
  unfold makeStaging
  refine meets_bind_iff.2 (meets_perform_iff.2 ⟨trivial, fun (stale : Option Bool) w₁ step => ?_⟩)
  rw [step.same step.acts.1 ⟨rfl, rfl⟩]
  refine meets_bind_iff.2 (meets_raiseIf_iff.2 ⟨fun _ => h, fun _ => ?_⟩)
  refine meets_bind_iff.2 (meets_raiseIf_iff.2 ⟨fun _ => h, fun _ => ?_⟩)
  refine meets_bind_iff.2 (meets_perform_iff.2 ⟨trivial, fun (ended : Made) w₂ step₂ => ?_⟩)
  have moved : w₂.moved = w.moved := step₂.moved.trans (List.append_nil _)
  refine meets_raiseIf_iff.2 ⟨fun failed => ?_, fun done => ?_⟩
  · have same : w₂.disk = w.disk := by
      have effect := step₂.acts
      cases ended with
      | made => exact absurd rfl failed
      | taken => exact effect.1
      | missing => exact effect.1
      | failed => exact effect
    rw [same]
    exact h
  · obtain rfl : ended = .made := not_not.1 done
    obtain ⟨absent, updated⟩ := step₂.acts
    have updated : w₂.disk.node = Function.update w.disk.node (staging target) (some .dir) := updated
    have made : w₂.disk.node (staging target) = some .dir := by rw [updated, Function.update_self]
    refine ⟨moved.trans quiet, ?_, made, fun path below other outside => ?_⟩
    · exact Disk.node_of_above (by rw [made]; rfl) (prefix_staging target) (staging_ne target).symm
    · have apart : path ≠ staging target := fun same => outside (same ▸ List.prefix_refl path)
      rw [updated, Function.update_of_ne apart]
      exact h.below path below other

/-- A complete removal of the staging directory leaves an empty target. -/
theorem Staged.removed {w w' : Work} (h : Staged target w) (step : Smooth w (.rmtree (staging target)) () w') :
    Vacant w'.disk target := by
  have gone := step.complete (staging target) rfl
  have effect : ∀ path, w'.disk.node path = w.disk.node path ∨ staging target <+: path ∧ w'.disk.node path = none :=
    step.acts
  refine ⟨?_, fun path below other => ?_⟩
  · rcases effect target with same | ⟨-, none⟩
    · rw [same]
      exact .inr h.node
    · exact .inl none
  · by_cases inside : staging target <+: path
    · exact gone path inside
    · rcases effect path with same | ⟨-, none⟩
      · rw [same]
        exact h.below path below other inside
      · exact none

theorem meets_extractBundle {archivePath : String} {archive : Archive} {outer : Option (String × Bytes)} {w : Work}
    (h : Vacant w.disk target) (quiet : w.moved = []) :
    Meets Smooth anything (extractBundle archivePath archive outer target) (fun _ _ => True)
      (fun _ w => Vacant w.disk target) w := by
  have start : Meets Smooth anything readBundle (fun _ w => Vacant w.disk target ∧ w.moved = [])
      (fun _ w => Vacant w.disk target) w :=
    (meets_readBundle (Q := fun w => Vacant w.disk target ∧ w.moved = []) ⟨h, quiet⟩).mono (fun _ _ ok => ok)
      (fun _ _ h => h) fun _ _ h => h.1
  unfold extractBundle
  refine start.bind fun _ w h => ?_
  refine meets_bind_iff.2 (meets_liftExcept_iff.2 ?_)
  cases verifyBundle defaultLimits archivePath archive outer with
  | error e => exact h.1
  | ok result =>
    refine (meets_checkTarget h.1 h.2).bind fun _ w h => ?_
    have made : Meets Smooth anything (mkdirParents Raised.other target 0o777) (fun _ => Grown target w)
        (fun _ => Grown target w) w := meets_mkdirParents effect_of_smooth fun _ _ _ _ _ => ⟨trivial, trivial⟩
    refine (made.mono (fun _ _ ok => ok) (fun _ _ grown => grown) fun _ _ grown => h.1.grown grown).bind fun _ w₁ grown => ?_
    refine (meets_makeStaging (h.1.grown grown) (grown.moved.trans h.2)).bind fun _ w₂ staged => ?_
    refine meets_bind_iff.2 (meets_trying_iff.2 ((meets_unpack staged).mono (fun _ _ ok => ok) (fun _ _ _ => trivial)
      fun e w₃ staged₃ => ?_))
    refine meets_bind_iff.2 (meets_perform_iff.2 ⟨trivial, fun (r : Unit) w₄ step => ?_⟩)
    exact meets_throw_iff.2 (staged₃.removed step)

/-- If an extraction into a new or empty target raises, the target is new or empty, where nothing fails after the
first move and the staging directory is removed. -/
theorem extract_atomic (archivePath : String) (archive : Archive) (outer : Option (String × Bytes)) (target : Path)
    (d : Disk Stored) (vacant : Vacant d target) {tr : Trace FileOp FileOp.Answer} {e : Raised} {w : Work}
    (run : (extractBundle archivePath archive outer target).run.Runs tr (.returned (.error e)))
    (acc : Accepts Smooth ⟨d, [], []⟩ tr w) : Vacant w.disk target :=
  (Meets.of_runs (meets_extractBundle vacant rfl) run acc).1 _ rfl

theorem exists_bind_eq_ok {ε α β : Type} {x : Except ε α} {f : α → Except ε β} {a : α} (hx : x = .ok a)
    (hf : ∃ b, f a = .ok b) : ∃ b, x >>= f = .ok b := hf.imp fun _ h => bind_eq_ok.2 ⟨a, hx, h⟩

theorem exists_raiseIf_eq_ok {ε β : Type} {c : Prop} [Decidable c] {e : ε} {f : Unit → Except ε β} (hc : ¬c)
    (hf : ∃ b, f () = .ok b) : ∃ b, (raiseIf c e >>= f) = .ok b := exists_bind_eq_ok (raiseIf_eq_ok.2 hc) hf

/-! ## A name of the staging directory -/

namespace Clash

def entry (path : String) (bytes : Bytes) : Json :=
  .obj [("bytes", .int bytes.length), ("mode", .int 0o644), ("path", .str path), ("sha256", .str (sha256 bytes))]

def file (name : String) (bytes : Bytes) : TarMember := ⟨name, true, false, false, bytes.length, 0o644, some bytes⟩

/-- The manifest of a file `x` and a file in a directory with the name of the staging directory. -/
def manifest : Dict := [
  ("entries", .arr [entry "x" [1], entry ".bundle-extract.partial/y" [2]]),
  ("format", .str "zkdeal-source-bundle"),
  ("historyIncluded", .bool false),
  ("schemaVersion", .int 1),
  ("secretsIncluded", .bool false),
  ("totalBytes", .int 2)]

def archive : Archive where
  bytes := [0x1f, 0x8b]
  members := [file "SOURCE-MANIFEST.json" (encodeUtf8 (dumps true (.obj manifest))), file "x" [1],
    file ".bundle-extract.partial/y" [2]]

theorem canonical_manifest : canonical (.obj manifest) = .obj manifest := by
  rfl

theorem embedded_of_read {raw : Bytes} (read : loadsBytes raw = some (.obj manifest)) :
    embeddedManifest [file "SOURCE-MANIFEST.json" raw, file "x" [1], file ".bundle-extract.partial/y" [2]] =
      .ok (manifest, "SOURCE-MANIFEST.json", raw) := by
  unfold embeddedManifest
  have names : (["SOURCE-MANIFEST.json", "EVIDENCE-MANIFEST.json"].filter fun name =>
      [file "SOURCE-MANIFEST.json" raw, file "x" [1], file ".bundle-extract.partial/y" [2]].any fun m => m.name = name) =
        ["SOURCE-MANIFEST.json"] := by rfl
  have member : getmember [file "SOURCE-MANIFEST.json" raw, file "x" [1], file ".bundle-extract.partial/y" [2]]
      "SOURCE-MANIFEST.json" = .ok (file "SOURCE-MANIFEST.json" raw) := by rfl
  rw [names]
  refine bind_eq_ok.2 ⟨_, member, ?_⟩
  dsimp only [file]
  rw [read]
  rfl

theorem embedded : embeddedManifest archive.members =
    .ok (manifest, "SOURCE-MANIFEST.json", encodeUtf8 (dumps true (.obj manifest))) :=
  embedded_of_read (by rw [loadsBytes_dumps true (by rfl), canonical_manifest])

theorem verify_file {expected : List (Key × Json)} {total : ℤ} {name : String} {bytes : Bytes}
    (safe : (pathOf name).isUnsafe = false) (listed : expected.lookup (.str name) = some (entry name bytes))
    (small : total + bytes.length ≤ 100 ∧ bytes.length ≤ 100) :
    verifyMember defaultLimits expected total (file name bytes) = .ok (total + bytes.length) := by
  have found : expectedEntry expected name = .ok (entry name bytes) := by
    rw [expectedEntry, listed]
  have hname : safeMember name = .ok (pathOf name).parts :=
    bind_eq_ok.2 ⟨(), raiseIf_eq_ok.2 (by rw [safe]; exact Bool.false_ne_true), rfl⟩
  unfold verifyMember
  refine bind_eq_ok.2 ⟨_, hname, bind_eq_ok.2 ⟨(), raiseIf_eq_ok.2 (by simp [file]), bind_eq_ok.2 ⟨(),
    raiseIf_eq_ok.2 ?_, bind_eq_ok.2 ⟨(), raiseIf_eq_ok.2 ?_, bind_eq_ok.2 ⟨_, found, bind_eq_ok.2 ⟨_, rfl, bind_eq_ok.2
      ⟨(), raiseIf_eq_ok.2 ?_, bind_eq_ok.2 ⟨_, rfl, bind_eq_ok.2 ⟨(), raiseIf_eq_ok.2 ?_, bind_eq_ok.2 ⟨(),
        raiseIf_eq_ok.2 ?_, rfl⟩⟩⟩⟩⟩⟩⟩⟩⟩⟩
  · simp only [defaultLimits, file]
    omega
  · simp only [defaultLimits, file]
    omega
  · simp [eqStr]
  · simp [file, Json.eq, number]
  · show ¬(¬((Json.int 0o644).eq (.int 0o644) = true ∨ (Json.int 0o644).eq (.int 0o755) = true) ∨
      (Json.int 0o644).eq (.int 0o644) = false)
    decide

/-- The archive is accepted. -/
theorem accepted : ∃ result, verifyBundle defaultLimits "bundle.tar.gz" archive none = .ok result := by
  have members : archive.members.filter (fun member => member.name ≠ "SOURCE-MANIFEST.json") =
      [file "x" [1], file ".bundle-extract.partial/y" [2]] := by rfl
  have first : verifyMember defaultLimits [(.str "x", entry "x" [1]), (.str ".bundle-extract.partial/y",
      entry ".bundle-extract.partial/y" [2])] 0 (file "x" [1]) = .ok 1 :=
    verify_file (by decide) rfl (by decide)
  have second : verifyMember defaultLimits [(.str "x", entry "x" [1]), (.str ".bundle-extract.partial/y",
      entry ".bundle-extract.partial/y" [2])] 1 (file ".bundle-extract.partial/y" [2]) = .ok 2 :=
    verify_file (by decide) rfl (by decide)
  have entries : subscript (.obj manifest) "entries" = .ok (.arr [entry "x" [1], entry ".bundle-extract.partial/y" [2]]) := by
    rfl
  have loop : ([file "x" [1], file ".bundle-extract.partial/y" [2]]).foldlM (verifyMember defaultLimits
      [(.str "x", entry "x" [1]), (.str ".bundle-extract.partial/y", entry ".bundle-extract.partial/y" [2])]) 0 = .ok 2 := by
    rw [List.foldlM_cons]
    refine bind_eq_ok.2 ⟨1, first, ?_⟩
    rw [List.foldlM_cons]
    exact bind_eq_ok.2 ⟨2, second, rfl⟩
  have total : (itemOr manifest "totalBytes" (.int (-1))).toInt = some 2 := by rfl
  unfold verifyBundle
  refine exists_bind_eq_ok (a := none) rfl (exists_bind_eq_ok embedded ?_)
  dsimp only
  rw [members, total]
  refine exists_bind_eq_ok (a := none) rfl (exists_bind_eq_ok entries (exists_bind_eq_ok rfl
    (exists_raiseIf_eq_ok (by decide) (exists_raiseIf_eq_ok (by decide) ?_))))
  refine exists_bind_eq_ok (a := [.str "x", .str ".bundle-extract.partial/y"]) rfl (exists_raiseIf_eq_ok
    (by decide) (exists_raiseIf_eq_ok (by decide) ?_))
  refine exists_raiseIf_eq_ok ?_ (exists_raiseIf_eq_ok ?_ (exists_bind_eq_ok loop
    (exists_raiseIf_eq_ok (by decide) (exists_bind_eq_ok (a := []) rfl ?_))))
  · show ¬(¬(["x", ".bundle-extract.partial/y"] : List String).Nodup ∨ 2 + 1 ≠ 3)
    decide
  · simp [file]
  · exact exists_bind_eq_ok rfl ⟨_, rfl⟩

theorem bind_liftExcept_ok {α β : Type} (a : α) (f : α → Filing Raised β) :
    (liftExcept (.ok a : Except Raised α) : Filing Raised α) >>= f = f a := rfl

/-- An entry of the manifest is staged. -/
def stageFile (destination : Path) (bytes : Bytes) : Filing Raised Unit := do
  mkdirParents Raised.other destination.dropLast 0o777
  readBundle
  let opened : Bool ← perform (FileOp.enter destination false)
  raiseIf (opened = false) Raised.other
  let copied : Bool ← perform (FileOp.write destination bytes)
  raiseIf (copied = false) Raised.other
  let changed : Bool ← perform (FileOp.chmod destination 0o644)
  raiseIf (changed = false) Raised.other

theorem stageEntry_file {path : String} {bytes : Bytes} {temporary relative : Path}
    (member : getmember archive.members path = .ok (file path bytes)) (hpath : safeMember path = .ok relative) :
    stageEntry archive.members temporary (entry path bytes) = stageFile (temporary ++ relative) bytes := by
  have named : subscript (entry path bytes) "path" = .ok (.str path) := by rfl
  unfold stageEntry
  rw [named, bind_liftExcept_ok]
  dsimp only
  rw [member, bind_liftExcept_ok, hpath, bind_liftExcept_ok]
  rfl

/-- The places of the target. -/
def place (names : List String) : Path := "t" :: names

def partial_ : String := ".bundle-extract.partial"

/-- The root, and what the run adds to it before the first move. -/
def entries : List (Path × Node Stored) := [
  (place [partial_, partial_, "y"], .file ⟨[2], 0o644⟩),
  (place [partial_, partial_, "y"], .file ⟨[2], 0o644⟩),
  (place [partial_, partial_, "y"], .file ⟨[], 0o644⟩),
  (place [partial_, partial_], .dir),
  (place [partial_, "x"], .file ⟨[1], 0o644⟩),
  (place [partial_, "x"], .file ⟨[1], 0o644⟩),
  (place [partial_, "x"], .file ⟨[], 0o644⟩),
  (place [partial_], .dir), (place [], .dir), ([], .dir)]

/-- The disk after some of it. -/
def staged (n : Fin 10) : Disk Stored := .ofEntries (entries.drop (9 - n)) (by decide +revert)

/-- What there is after the move of `x`. -/
def entriesMoved : List (Path × Node Stored) := [
  (place ["x"], .file ⟨[1], 0o644⟩), (place [partial_, partial_, "y"], .file ⟨[2], 0o644⟩),
  (place [partial_, partial_], .dir), (place [partial_], .dir), (place [], .dir), ([], .dir)]

/-- What there is after the removal of the staging directory. -/
def entriesLeft : List (Path × Node Stored) := [(place ["x"], .file ⟨[1], 0o644⟩), (place [], .dir), ([], .dir)]

def movedDisk : Disk Stored := .ofEntries entriesMoved (by decide)

def leftDisk : Disk Stored := .ofEntries entriesLeft (by decide)

def trace : Trace FileOp FileOp.Answer := [
  ⟨.read, true⟩, ⟨.look (place []), some false⟩, ⟨.mkdir (place []) 0o777, Made.made⟩,
  ⟨.look (place [partial_]), some false⟩, ⟨.mkdir (place [partial_]) 0o777, Made.made⟩, ⟨.read, true⟩,
  ⟨.mkdir (place [partial_]) 0o777, Made.taken⟩, ⟨.isDir (place [partial_]), some true⟩, ⟨.read, true⟩,
  ⟨.enter (place [partial_, "x"]) false, true⟩, ⟨.write (place [partial_, "x"]) [1], true⟩,
  ⟨.chmod (place [partial_, "x"]) 0o644, true⟩,
  ⟨.mkdir (place [partial_, partial_]) 0o777, Made.made⟩, ⟨.read, true⟩,
  ⟨.enter (place [partial_, partial_, "y"]) false, true⟩, ⟨.write (place [partial_, partial_, "y"]) [2], true⟩,
  ⟨.chmod (place [partial_, partial_, "y"]) 0o644, true⟩, ⟨.iterdir (place [partial_]), some ["x", partial_]⟩,
  ⟨.replace (place [partial_, "x"]) (place ["x"]), true⟩,
  ⟨.replace (place [partial_, partial_]) (place [partial_]), false⟩, ⟨.rmtree (place [partial_]), ()⟩]

/-- The second move fails, since the staging directory itself is where it would put the directory. -/
theorem runs_trace : (extractBundle "bundle.tar.gz" archive none (place [])).run.Runs trace (.returned (.error .other)) := by
  obtain ⟨result, verified⟩ := accepted
  have safe : safeMember "x" = .ok ["x"] ∧ safeMember ".bundle-extract.partial/y" = .ok [partial_, "y"] := by decide
  have x : stageEntry archive.members (staging (place [])) (entry "x" [1]) = stageFile (place [partial_, "x"]) [1] :=
    stageEntry_file rfl safe.1
  have y : stageEntry archive.members (staging (place [])) (entry ".bundle-extract.partial/y" [2]) =
      stageFile (place [partial_, partial_, "y"]) [2] := stageEntry_file rfl safe.2
  have unpacked : unpack archive.members (place []) (staging (place [])) = (do
      readBundle
      stageFile (place [partial_, "x"]) [1]
      stageFile (place [partial_, partial_, "y"]) [2]
      let children : Option (List String) ← perform (FileOp.iterdir (staging (place [])))
      match children with
      | none => throw Raised.other
      | some names => do
        names.forM (moveChild (place []) (staging (place [])))
        let removed : Bool ← perform (FileOp.rmdir (staging (place [])))
        raiseIf (removed = false) Raised.other) := by
    have listed : (subscript (.obj manifest) "entries" >>= items) =
        .ok [entry "x" [1], entry ".bundle-extract.partial/y" [2]] := by rfl
    unfold unpack
    rw [embedded]
    refine congrArg (readBundle >>= ·) (funext fun _ => ?_)
    rw [bind_liftExcept_ok]
    dsimp only
    have loop (f : Json → Filing Raised Unit) (a b : Json) : [a, b].forM f = (f a >>= fun _ => f b >>= fun _ => pure ()) := rfl
    rw [listed, bind_liftExcept_ok, loop, x, y]
    simp only [bind_assoc, pure_bind]
  unfold extractBundle
  rw [verified, unpacked]
  exact .event _ _ _ (.event _ _ _ (.event _ _ _ (.event _ _ _ (.event _ _ _ (.event _ _ _ (.event _ _ _ (.event _ _ _
    (.event _ _ _ (.event _ _ _ (.event _ _ _ (.event _ _ _ (.event _ _ _ (.event _ _ _ (.event _ _ _ (.event _ _ _
    (.event _ _ _ (.event _ _ _ (.event _ _ _ (.event _ _ _ (.event _ _ _ (.returned _)))))))))))))))))))))

def work (n : Fin 10) (written : List Path) : Work := ⟨staged n, written, []⟩

theorem reading (w : Work) : Effect w .read true w := ⟨rfl, (List.append_nil _).symm, (List.append_nil _).symm⟩

theorem looking (w : Work) (path : Path) {found : Bool} (h : isPresent (w.disk.node path) = found) :
    Effect w (.look path) (some found) w :=
  ⟨⟨rfl, fun _ same => Option.some.inj same ▸ h.symm⟩, (List.append_nil _).symm, (List.append_nil _).symm⟩

/-- The directories that the run lists and moves. -/
theorem moved_x : Moves (staged 9) (place [partial_, "x"]) (place ["x"]) movedDisk := by
  have checked : ((entriesMoved ++ entries).all fun e => decide (movedDisk.node e.1 =
      if place ["x"] <+: e.1 then (staged 9).node (place [partial_, "x"] ++ e.1.drop 2)
      else if place [partial_, "x"] <+: e.1 then none else (staged 9).node e.1)) = true ∧
      (entries.all fun e => decide (place [partial_, "x"] <+: e.1 → e.1 = place [partial_, "x"])) = true := by
    decide
  refine ⟨by decide, by decide, .inl (by decide), fun path => ?_⟩
  by_cases listed : path ∈ (entriesMoved ++ entries).map Prod.fst
  · obtain ⟨e, he, rfl⟩ := List.mem_map.1 listed
    exact of_decide_eq_true (List.all_eq_true.1 checked.1 e he)
  · rw [List.map_append, List.mem_append, not_or] at listed
    have absent : movedDisk.node path = none := Disk.nodeOf_of_notMem listed.1
    rw [absent]
    by_cases below : place ["x"] <+: path
    · rw [if_pos below]
      refine (Disk.nodeOf_of_notMem fun inside => ?_).symm
      obtain ⟨e, he, same⟩ := List.mem_map.1 inside
      have whole := of_decide_eq_true (List.all_eq_true.1 checked.2 e he) (same ▸ List.prefix_append _ _)
      rw [whole] at same
      obtain ⟨rest, rfl⟩ := below
      have none : rest = [] := List.append_right_eq_self.1 same.symm
      rw [none] at listed
      exact listed.1 (by decide)
    · rw [if_neg below]
      split
      · rfl
      · exact (Disk.nodeOf_of_notMem listed.2).symm

theorem removed_staging (path : Path) :
    leftDisk.node path = movedDisk.node path ∨ place [partial_] <+: path ∧ leftDisk.node path = none := by
  have checked : (entriesMoved.all fun e => decide (leftDisk.node e.1 = movedDisk.node e.1 ∨
      place [partial_] <+: e.1 ∧ leftDisk.node e.1 = none)) = true ∧
      (entriesLeft.all fun e => decide (e.1 ∈ entriesMoved.map Prod.fst)) = true := by decide
  by_cases listed : path ∈ entriesMoved.map Prod.fst
  · obtain ⟨e, he, rfl⟩ := List.mem_map.1 listed
    exact of_decide_eq_true (List.all_eq_true.1 checked.1 e he)
  · have left : path ∉ entriesLeft.map Prod.fst := by
      intro inside
      obtain ⟨e, he, rfl⟩ := List.mem_map.1 inside
      exact listed (of_decide_eq_true (List.all_eq_true.1 checked.2 e he))
    exact .inl ((Disk.nodeOf_of_notMem left).trans (Disk.nodeOf_of_notMem listed).symm)

theorem listed_staging (name : String) :
    name ∈ ["x", partial_] ↔ ((staged 9).node (place [partial_] ++ [name])).isSome = true := by
  constructor
  · intro h
    have checked : (["x", partial_].all fun name => ((staged 9).node (place [partial_] ++ [name])).isSome) = true := by
      decide
    exact List.all_eq_true.1 checked name h
  · intro h
    have checked : (entries.all fun e => decide (∀ last ∈ e.1.getLast?, e.1.dropLast = place [partial_] →
        last ∈ ["x", partial_])) = true := by decide
    have inside : place [partial_] ++ [name] ∈ entries.map Prod.fst := by
      by_contra outside
      rw [show (staged 9).node (place [partial_] ++ [name]) = none from Disk.nodeOf_of_notMem outside] at h
      cases h
    obtain ⟨e, he, same⟩ := List.mem_map.1 inside
    have last := of_decide_eq_true (List.all_eq_true.1 checked e he)
    rw [same] at last
    exact last name List.getLast?_concat List.dropLast_concat

theorem accepts_trace : Accepts Effect (work 0 []) trace
    ⟨leftDisk, [place [partial_, "x"], place [partial_, partial_, "y"]], [place [partial_, "x"]]⟩ := by
  have made (n : Fin 9) {path : Path} (absent : (staged n.castSucc).node path = none)
      (updated : (staged n.succ).node = Function.update (staged n.castSucc).node path (some .dir)) (written : List Path) :
      Effect (work n.castSucc written) (.mkdir path 0o777) Made.made (work n.succ written) :=
    ⟨⟨absent, updated⟩, (List.append_nil _).symm, (List.append_nil _).symm⟩
  have there : Effect (work 2 []) (.mkdir (place [partial_]) 0o777) Made.taken (work 2 []) :=
    ⟨⟨rfl, by decide⟩, rfl, rfl⟩
  have directory : Effect (work 2 []) (.isDir (place [partial_])) (some true) (work 2 []) :=
    ⟨⟨rfl, fun b same => Option.some.inj same ▸ by decide⟩, rfl, rfl⟩
  have entered (n : Fin 9) {path : Path} (absent : (staged n.castSucc).node path = none) (updated : (staged n.succ).node =
      Function.update (staged n.castSucc).node path (some (.file ⟨[], 0o644⟩))) (written : List Path) :
      Effect (work n.castSucc written) (.enter path false) true (work n.succ written) :=
    ⟨.inr ⟨.inl absent, _, updated⟩, (List.append_nil _).symm, (List.append_nil _).symm⟩
  have copied (n : Fin 9) {path : Path} {bytes : Bytes} (empty : (staged n.castSucc).node path = some (.file ⟨[], 0o644⟩))
      (updated : (staged n.succ).node = Function.update (staged n.castSucc).node path (some (.file ⟨bytes, 0o644⟩)))
      (written : List Path) :
      Effect (work n.castSucc written) (.write path bytes) true (work n.succ (written ++ [path])) :=
    ⟨⟨_, bytes, empty, fun _ => rfl, updated⟩, rfl, rfl⟩
  have changed (n : Fin 9) {path : Path} {bytes : Bytes} (file : (staged n.castSucc).node path = some (.file ⟨bytes, 0o644⟩))
      (updated : (staged n.succ).node = Function.update (staged n.castSucc).node path (some (.file ⟨bytes, 0o644⟩)))
      (written : List Path) : Effect (work n.castSucc written) (.chmod path 0o644) true (work n.succ written) :=
    ⟨.inr ⟨_, file, updated⟩, (List.append_nil _).symm, (List.append_nil _).symm⟩
  have children : Effect (work 9 [place [partial_, "x"], place [partial_, partial_, "y"]]) (.iterdir (place [partial_]))
      (some ["x", partial_]) (work 9 [place [partial_, "x"], place [partial_, partial_, "y"]]) :=
    ⟨⟨rfl, fun names same => Option.some.inj same ▸ ⟨by decide, by decide, listed_staging⟩⟩, rfl, rfl⟩
  have moving : Effect (work 9 [place [partial_, "x"], place [partial_, partial_, "y"]])
      (.replace (place [partial_, "x"]) (place ["x"])) true
      ⟨movedDisk, [place [partial_, "x"], place [partial_, partial_, "y"]], [place [partial_, "x"]]⟩ :=
    ⟨moved_x, rfl, rfl⟩
  have refused : Effect ⟨movedDisk, [place [partial_, "x"], place [partial_, partial_, "y"]], [place [partial_, "x"]]⟩
      (.replace (place [partial_, partial_]) (place [partial_])) false
      ⟨movedDisk, [place [partial_, "x"], place [partial_, partial_, "y"]], [place [partial_, "x"]]⟩ := ⟨rfl, rfl, rfl⟩
  have removed : Effect ⟨movedDisk, [place [partial_, "x"], place [partial_, partial_, "y"]], [place [partial_, "x"]]⟩
      (.rmtree (place [partial_])) ()
      ⟨leftDisk, [place [partial_, "x"], place [partial_, partial_, "y"]], [place [partial_, "x"]]⟩ :=
    ⟨removed_staging, rfl, rfl⟩
  exact .cons (reading _) (.cons (looking _ _ (by decide)) (.cons (made 0 (by decide) (Disk.nodeOf_cons ..) [])
    (.cons (looking _ _ (by decide)) (.cons (made 1 (by decide) (Disk.nodeOf_cons ..) [])
    (.cons (reading _) (.cons there (.cons directory (.cons (reading _)
    (.cons (entered 2 (by decide) (Disk.nodeOf_cons ..) []) (.cons (copied 3 (by decide) (Disk.nodeOf_cons ..) [])
    (.cons (changed 4 (by decide) (Disk.nodeOf_cons ..) _) (.cons (made 5 (by decide) (Disk.nodeOf_cons ..) _)
    (.cons (reading _) (.cons (entered 6 (by decide) (Disk.nodeOf_cons ..) _)
    (.cons (copied 7 (by decide) (Disk.nodeOf_cons ..) _) (.cons (changed 8 (by decide) (Disk.nodeOf_cons ..) _)
    (.cons children (.cons moving (.cons refused (.cons removed (.nil _)))))))))))))))))))))

theorem vacant_root : Vacant (staged 0) (place []) := by
  have outside : (entries.drop 9).map Prod.fst = [[]] := by decide
  refine ⟨.inl (by decide), fun path below _ => Disk.nodeOf_of_notMem fun inside => ?_⟩
  have root := List.mem_singleton.1 (outside ▸ inside)
  rw [root] at below
  exact absurd below (by decide)

/-- The file `x` of the bundle stays in the target. -/
theorem not_atomic : ¬∀ (archivePath : String) (archive : Archive) (outer : Option (String × Bytes)) (target : Path)
    (d : Disk Stored), (∃ result, verifyBundle defaultLimits archivePath archive outer = .ok result) → Vacant d target →
      ∀ (tr : Trace FileOp FileOp.Answer) (e : Raised) (w : Work),
        (extractBundle archivePath archive outer target).run.Runs tr (.returned (.error e)) →
          Accepts Effect ⟨d, [], []⟩ tr w → Vacant w.disk target := by
  intro atomic
  have left := (atomic "bundle.tar.gz" archive none (place []) (staged 0) accepted vacant_root trace .other _ runs_trace
    accepts_trace).below (place ["x"]) (by decide) (by decide)
  have there : leftDisk.node (place ["x"]) ≠ none := by decide
  exact there left

/-- The target is there, and the staging directory is removed again when the archive cannot be read. -/
def interrupted : Trace FileOp FileOp.Answer := [
  ⟨.read, true⟩, ⟨.look (place []), some false⟩, ⟨.mkdir (place []) 0o777, Made.made⟩,
  ⟨.look (place [partial_]), some false⟩, ⟨.mkdir (place [partial_]) 0o777, Made.made⟩, ⟨.read, false⟩,
  ⟨.rmtree (place [partial_]), ()⟩]

theorem runs_interrupted :
    (extractBundle "bundle.tar.gz" archive none (place [])).run.Runs interrupted (.returned (.error .other)) := by
  obtain ⟨result, verified⟩ := accepted
  unfold extractBundle unpack
  rw [verified]
  exact .event _ _ _ (.event _ _ _ (.event _ _ _ (.event _ _ _ (.event _ _ _ (.event _ _ _ (.event _ _ _ (.returned _)))))))

theorem accepts_interrupted : Accepts Smooth (work 0 []) interrupted (work 1 []) := by
  have smooth {w w' : Work} {o : FileOp} {r : o.Answer} (effect : Effect w o r w') (quiet : w.moved = [])
      (keeps : ∀ path, o ≠ .rmtree path) : Smooth w o r w' :=
    ⟨effect, fun some => absurd quiet some, fun path same => absurd same (keeps path)⟩
  have made (n : Fin 9) {path : Path} (absent : (staged n.castSucc).node path = none)
      (updated : (staged n.succ).node = Function.update (staged n.castSucc).node path (some .dir)) :
      Effect (work n.castSucc []) (.mkdir path 0o777) Made.made (work n.succ []) := ⟨⟨absent, updated⟩, rfl, rfl⟩
  have listed : (entries.drop 7).map Prod.fst = [place [partial_], place [], []] := by decide
  have gone (path : Path) (below : place [partial_] <+: path) : (staged 1).node path = none := by
    refine Disk.nodeOf_of_notMem fun inside => ?_
    have within : path ∈ [place [], []] := inside
    have outside : ([place [], []].all fun path => decide ¬place [partial_] <+: path) = true := by decide
    exact of_decide_eq_true (List.all_eq_true.1 outside path within) below
  have removal (path : Path) : (staged 1).node path = (staged 2).node path ∨
      place [partial_] <+: path ∧ (staged 1).node path = none := by
    by_cases below : place [partial_] <+: path
    · exact .inr ⟨below, gone path below⟩
    · have other : path ≠ place [partial_] := fun same => below (same ▸ List.prefix_refl path)
      have updated : (staged 2).node = Function.update (staged 1).node (place [partial_]) (some .dir) := Disk.nodeOf_cons ..
      rw [updated, Function.update_of_ne other]
      exact .inl rfl
  have unread : Effect (work 2 []) .read false (work 2 []) := ⟨rfl, rfl, rfl⟩
  have removed : Smooth (work 2 []) (.rmtree (place [partial_])) () (work 1 []) := by
    refine ⟨⟨removal, rfl, rfl⟩, fun some => absurd rfl some, fun path same path' below => ?_⟩
    obtain rfl : place [partial_] = path := FileOp.rmtree.inj same
    exact gone path' below
  exact .cons (smooth (reading _) rfl nofun) (.cons (smooth (looking _ _ (by decide)) rfl nofun)
    (.cons (smooth (made 0 (by decide) (Disk.nodeOf_cons ..)) rfl nofun)
    (.cons (smooth (looking _ _ (by decide)) rfl nofun)
    (.cons (smooth (made 1 (by decide) (Disk.nodeOf_cons ..)) rfl nofun)
    (.cons (smooth unread rfl nofun) (.cons removed (.nil _)))))))

theorem extract_atomic_interrupted : Vacant (staged 1) (place []) :=
  extract_atomic "bundle.tar.gz" archive none (place []) (staged 0) vacant_root runs_interrupted accepts_interrupted

end Clash

end Zkdeal.SourceBundle
