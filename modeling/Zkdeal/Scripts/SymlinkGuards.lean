import Zkdeal.Files.PurePath
import Zkdeal.Scripts.CandidateTopology

/-!
# Guards against symbolic links

Four checks of the deployment scripts resolve a path before they ask whether it is a symbolic link.  What
`resolve` returns never is one, so a link to a file that fits is accepted in the file's place.
-/

namespace Zkdeal.Scripts

open Interaction Raising Python Json Python.Sha256 Files
open BackupRestore (item follow isSha256)

/-- `str(value or "")` -/
def strOr (value : Json) : String := if value.truthy then strOf value else ""

/-! ## The guards -/

variable (d : Disk Bytes)

/-- A path that is resolved, and then looked at: the place in the root, with its contents. -/
def resolvedFile (root named : Path) (outside irregular : String) : Except Raised (Path × Bytes) :=
  match d.realpath named with
  | none => .error .other
  | some place => do
    raiseIf (root.isPrefixOf place = false) (Raised.deployment outside)
    raiseIf (d.isSymlink place = true) (Raised.deployment irregular)
    match d.file place with
    | some contents => return (place, contents)
    | none => .error (.deployment irregular)

/-- `umbrella_file_binding(value, label)`, below `umbrella = ROOT.parent.resolve()` -/
def umbrellaFileBinding (umbrella : Location) (value : Json) (label : String) : Except Raised Dict :=
  match value with
  | .obj fields => do
    raiseIf (Dict.hasKeys fields ["path", "sha256"] = false)
      (Raised.deployment (label ++ " must contain exactly path and sha256"))
    let relative := pathOf (strOr (item fields "path"))
    let expected := strOr (item fields "sha256")
    raiseIf (relative.isUnsafe = true) (Raised.deployment (label ++ " path must be safe and umbrella-relative"))
    raiseIf (isSha256 expected = false) (Raised.deployment (label ++ " SHA-256 is absent or malformed"))
    let (_, contents) ← resolvedFile d umbrella.1 (umbrella.1 ++ relative.parts)
      (label ++ " resolves outside the umbrella") (label ++ " is absent, not regular, or a symlink")
    raiseIf (sha256 contents ≠ expected) (Raised.deployment (label ++ " SHA-256 differs"))
    return [("path", .str relative.asPosix), ("sha256", .str (sha256 contents)), ("bytes", .int contents.length)]
  | _ => .error (.deployment (label ++ " must contain exactly path and sha256"))

/-- The evidence check of `validate_owner_seal`, for `evidenceSha256` and the resolved root of the inventory -/
def ownerSealEvidence (umbrella : Location) (broadSeal : Dict) (evidenceSha256 : String) : Except Raised Unit := do
  let relative := pathOf (strAt broadSeal "evidenceManifestPath")
  raiseIf (relative.isUnsafe = true ∨ relative.lowerSuffix ≠ ".json".toList)
    (Raised.deployment "owner broad seal requires a safe umbrella-relative JSON evidence manifest path")
  let (_, contents) ← resolvedFile d umbrella.1 (umbrella.1 ++ relative.parts)
    "owner broad-seal evidence resolves outside the umbrella"
    "owner broad-seal evidence manifest is absent or not a regular file"
  raiseIf (sha256 contents ≠ evidenceSha256) (Raised.deployment "owner broad-seal evidence manifest SHA-256 differs")

/-- The entries seen so far of a composite inventory, their sizes and hashes. -/
structure Inventory where
  seen : List String
  totalBytes : ℕ
  hashes : List String

/-- The check of one file of the composite inventory, below the directory of the composite seal. -/
def compositeFile (directory : Location) (state : Inventory) (value : Json) : Except Raised Inventory :=
  match value with
  | .obj fields => do
    raiseIf (Dict.hasKeys fields ["path", "size", "sha256"] = false)
      (Raised.deployment "physical composite file entry is malformed")
    let relative := pathOf (strOf (item fields "path"))
    raiseIf (relative.isUnsafe = true) (Raised.deployment "physical composite file path is unsafe")
    let portable := relative.asPosix
    raiseIf (portable ∈ state.seen) (Raised.deployment "physical composite file path is duplicated")
    match d.realpath directory.1 with
    | none => .error .other
    | some root => do
      let (_, contents) ← resolvedFile d root (directory.1 ++ relative.parts)
        "physical composite file escaped its evidence root"
        "physical composite file is absent, not regular, or a symlink"
      raiseIf (item fields "size" ≠ .int contents.length) (Raised.deployment "physical composite file size differs")
      raiseIf ((item fields "sha256").eqStr (sha256 contents) = false)
        (Raised.deployment "physical composite file SHA-256 differs")
      raiseIf (2 ^ 40 < state.totalBytes + contents.length)
        (Raised.deployment "physical composite file inventory exceeds one TiB")
      return ⟨portable :: state.seen, state.totalBytes + contents.length, sha256 contents :: state.hashes⟩
  | _ => .error (.deployment "physical composite file entry is malformed")

/-- The checks of all files of the composite inventory. -/
def compositeFiles (directory : Location) (files : List Json) : Except Raised Inventory :=
  files.foldlM (compositeFile d directory) ⟨[], 0, []⟩

/-- What `project_file` of `candidate_topology` finds below `ROOT` -/
def projectFile (root : Location) (path : String) : ProjectFile :=
  match d.realpath (root.1 ++ (pathOf path).parts), d.realpath root.1 with
  | some place, some resolved =>
    if resolved.isPrefixOf place then
      match d.file place with
      | some contents => if d.isSymlink place then .notRegular else .regular contents
      | none => .notRegular
    else .outside
  | _, _ => .raises

/-! ## What is accepted -/

/-- The path itself is a regular file. -/
def RegularFile (named : Path) : Prop := ∃ contents, d.lstat named = some (.file contents)

/-- The path is a link itself, or the system finds nothing there. -/
def Linked (named : Path) : Prop := (∃ target, d.lstat named = some (.link target)) ∨ d.lstat named = none

/-- The path resolves to a file in the root. -/
structure ResolvesTo (root named : Path) (contents : Bytes) : Prop where
  place : ∃ place, d.realpath named = some place ∧ root <+: place ∧ d.node place = some (.file contents)

variable {d}

theorem resolvedFile_eq_ok {root named : Path} (outside irregular : String) {contents : Bytes} :
    (∃ place, resolvedFile d root named outside irregular = .ok (place, contents)) ↔ ResolvesTo d root named contents := by
  unfold resolvedFile
  constructor
  · rintro ⟨place', h⟩
    cases hplace : d.realpath named with
    | none =>
      rw [hplace] at h
      cases h
    | some place =>
      rw [hplace] at h
      obtain ⟨_, inside, h⟩ := bind_eq_ok.1 h
      obtain ⟨_, -, h⟩ := bind_eq_ok.1 h
      have inside := raiseIf_eq_ok.1 inside
      rw [Bool.not_eq_false, List.isPrefixOf_iff_prefix] at inside
      have plain := Disk.realpath_plain hplace
      rw [Disk.file_plain plain] at h
      cases hcontents : Files.contents (d.node place) with
      | none =>
        rw [hcontents] at h
        cases h
      | some found =>
        rw [hcontents] at h
        obtain rfl : found = contents := (Prod.mk.inj (Except.ok.inj h)).2
        exact ⟨place, hplace, inside, Disk.contents_eq_some.1 hcontents⟩
  · rintro ⟨place, hplace, inside, hnode⟩
    have plain := Disk.realpath_plain hplace
    refine ⟨place, ?_⟩
    rw [hplace]
    refine bind_eq_ok.2 ⟨(), raiseIf_eq_ok.2 ?_, bind_eq_ok.2 ⟨(), raiseIf_eq_ok.2 ?_, ?_⟩⟩
    · rw [Bool.not_eq_false, List.isPrefixOf_iff_prefix]
      exact inside
    · rw [Disk.isSymlink_plain plain]
      decide
    · rw [Disk.file_plain plain, Disk.contents_eq_some.2 hnode]
      rfl

/-- A path that resolves to a file is one itself, unless it is linked. -/
theorem regularFile_or_linked {directory : Location} {relative : PurePath} {root : Path} {contents : Bytes}
    (proper : ∀ name ∈ relative.parts, name ≠ "" ∧ name ≠ "." ∧ name ≠ "..")
    (h : ResolvesTo d root (directory.1 ++ relative.parts) contents) :
    RegularFile d (directory.1 ++ relative.parts) ∨ Linked d (directory.1 ++ relative.parts) := by
  obtain ⟨place, hplace, -, hnode⟩ := h
  have proper : ∀ name ∈ directory.1 ++ relative.parts, name ≠ "" ∧ name ≠ "." ∧ name ≠ ".." := by
    intro name hname
    rcases List.mem_append.1 hname with above | below
    · exact (directory.2 name above).2
    · exact proper name below
  generalize directory.1 ++ relative.parts = named at *
  cases hlstat : d.lstat named with
  | none => exact .inr (.inr hlstat)
  | some n =>
    rcases List.eq_nil_or_concat named with rfl | ⟨front, name, rfl⟩
    · have root : d.realpath [] = some [] := Disk.walk_nil ..
      obtain rfl := Option.some.inj (root.symm.trans hplace)
      rw [d.root] at hnode
      cases hnode
    · rw [List.concat_eq_append] at *
      have last := proper name (by simp)
      by_cases link : ∃ target, n = .link target
      · obtain ⟨target, rfl⟩ := link
        exact .inr (.inl ⟨target, hlstat⟩)
      · have same := Disk.node_realpath last hplace hlstat fun target same => link ⟨target, same⟩
        rw [hnode] at same
        obtain rfl := Option.some.inj same
        exact .inl ⟨contents, hlstat⟩

theorem not_linked_of_regularFile {named : Path} (h : RegularFile d named) : ¬Linked d named := by
  obtain ⟨contents, h⟩ := h
  rintro (⟨target, hlink⟩ | absent)
  · rw [h] at hlink
    cases hlink
  · rw [h] at absent
    cases absent

/-- The names of a path that is safe. -/
theorem proper_of_safe {s : String} (safe : (pathOf s).isUnsafe = false) :
    ∀ name ∈ (pathOf s).parts, name ≠ "" ∧ name ≠ "." ∧ name ≠ ".." := by
  intro name hname
  rw [PurePath.isUnsafe, Bool.or_eq_false_iff] at safe
  have listed : name ∈ (components s).filter fun name => name ≠ "" && name ≠ "." := hname
  have kept := (List.mem_filter.1 listed).2
  simp only [ne_eq, decide_not, Bool.and_eq_true, Bool.not_eq_true', decide_eq_false_iff_not] at kept
  refine ⟨kept.1, kept.2, fun dots => ?_⟩
  rw [dots] at hname
  exact absurd (List.contains_iff_mem.2 hname) (by rw [safe.2]; decide)

/-- A guard rejects links exactly if it accepts no linked path. -/
theorem rejects_iff {accepted : Prop} {directory : Location} {s : String} (root : Path)
    (h : accepted → (pathOf s).isUnsafe = false ∧ ∃ contents, ResolvesTo d root (directory.1 ++ (pathOf s).parts) contents) :
    (accepted → RegularFile d (directory.1 ++ (pathOf s).parts)) ↔
      ¬(Linked d (directory.1 ++ (pathOf s).parts) ∧ accepted) := by
  constructor
  · rintro regular ⟨linked, ok⟩
    exact not_linked_of_regularFile (regular ok) linked
  · intro unlinked ok
    obtain ⟨safe, contents, resolves⟩ := h ok
    rcases regularFile_or_linked (proper_of_safe safe) resolves with regular | linked
    · exact regular
    · exact absurd ⟨linked, ok⟩ unlinked

/-! ## The four checks -/

/-- The path of a binding. -/
def bindingPath (fields : Dict) : PurePath := pathOf (strOr (item fields "path"))

/-- A binding whose path is safe and resolves to a file with its hash. -/
structure BindingFits (d : Disk Bytes) (umbrella : Location) (fields : Dict) : Prop where
  keys : Dict.hasKeys fields ["path", "sha256"] = true
  safe : (bindingPath fields).isUnsafe = false
  file : ∃ contents, ResolvesTo d umbrella.1 (umbrella.1 ++ (bindingPath fields).parts) contents ∧
    sha256 contents = strOr (item fields "sha256")

theorem umbrellaFileBinding_iff {umbrella : Location} {fields : Dict} {label : String} :
    (∃ checked, umbrellaFileBinding d umbrella (.obj fields) label = .ok checked) ↔ BindingFits d umbrella fields := by
  unfold umbrellaFileBinding
  constructor
  · rintro ⟨checked, h⟩
    obtain ⟨_, keys, h⟩ := bind_eq_ok.1 h
    obtain ⟨_, safe, h⟩ := bind_eq_ok.1 h
    obtain ⟨_, -, h⟩ := bind_eq_ok.1 h
    obtain ⟨⟨place, contents⟩, hfile, h⟩ := bind_eq_ok.1 h
    obtain ⟨_, hash, -⟩ := bind_eq_ok.1 h
    have keys := raiseIf_eq_ok.1 keys
    have safe := raiseIf_eq_ok.1 safe
    rw [Bool.not_eq_false] at keys
    rw [Bool.not_eq_true] at safe
    exact ⟨keys, safe, contents, (resolvedFile_eq_ok _ _).1 ⟨place, hfile⟩, not_not.1 (raiseIf_eq_ok.1 hash)⟩
  · rintro ⟨keys, safe, contents, resolves, hash⟩
    obtain ⟨place, hfile⟩ := (resolvedFile_eq_ok (label ++ " resolves outside the umbrella")
      (label ++ " is absent, not regular, or a symlink")).2 resolves
    have digest : isSha256 (strOr (item fields "sha256")) = true := by
      rw [← hash]
      exact BackupRestore.isSha256_sha256 contents
    refine ⟨_, bind_eq_ok.2 ⟨(), raiseIf_eq_ok.2 ?_, bind_eq_ok.2 ⟨(), raiseIf_eq_ok.2 ?_, bind_eq_ok.2 ⟨(),
      raiseIf_eq_ok.2 ?_, bind_eq_ok.2 ⟨(place, contents), hfile, bind_eq_ok.2 ⟨(), raiseIf_eq_ok.2 ?_, rfl⟩⟩⟩⟩⟩⟩
    · rw [keys]
      decide
    · intro unsafe_
      rw [bindingPath, unsafe_] at safe
      cases safe
    · rw [digest]
      decide
    · exact fun differs => differs hash

/-- An evidence path that is safe and resolves to a file with the hash. -/
structure EvidenceFits (d : Disk Bytes) (umbrella : Location) (broadSeal : Dict) (evidenceSha256 : String) : Prop where
  safe : (pathOf (strAt broadSeal "evidenceManifestPath")).isUnsafe = false
  json : (pathOf (strAt broadSeal "evidenceManifestPath")).lowerSuffix = ".json".toList
  file : ∃ contents, ResolvesTo d umbrella.1
    (umbrella.1 ++ (pathOf (strAt broadSeal "evidenceManifestPath")).parts) contents ∧ sha256 contents = evidenceSha256

theorem ownerSealEvidence_iff {umbrella : Location} {broadSeal : Dict} {evidenceSha256 : String} :
    ownerSealEvidence d umbrella broadSeal evidenceSha256 = .ok () ↔
      EvidenceFits d umbrella broadSeal evidenceSha256 := by
  unfold ownerSealEvidence
  constructor
  · intro h
    obtain ⟨_, safe, h⟩ := bind_eq_ok.1 h
    obtain ⟨⟨place, contents⟩, hfile, hash⟩ := bind_eq_ok.1 h
    have safe := raiseIf_eq_ok.1 safe
    rw [not_or, Bool.not_eq_true, not_not] at safe
    exact ⟨safe.1, safe.2, contents, (resolvedFile_eq_ok _ _).1 ⟨place, hfile⟩, not_not.1 (raiseIf_eq_ok.1 hash)⟩
  · rintro ⟨safe, json, contents, resolves, hash⟩
    obtain ⟨place, hfile⟩ := (resolvedFile_eq_ok "owner broad-seal evidence resolves outside the umbrella"
      "owner broad-seal evidence manifest is absent or not a regular file").2 resolves
    refine bind_eq_ok.2 ⟨(), raiseIf_eq_ok.2 ?_, bind_eq_ok.2 ⟨(place, contents), hfile, raiseIf_eq_ok.2 ?_⟩⟩
    · rw [not_or, Bool.not_eq_true, not_not]
      exact ⟨safe, json⟩
    · exact fun differs => differs hash

/-- A new entry whose path is safe and resolves to a file with its size and hash. -/
structure EntryFits (d : Disk Bytes) (directory : Location) (state : Inventory) (fields : Dict) : Prop where
  keys : Dict.hasKeys fields ["path", "size", "sha256"] = true
  safe : (pathOf (strOf (item fields "path"))).isUnsafe = false
  fresh : (pathOf (strOf (item fields "path"))).asPosix ∉ state.seen
  file : ∃ root contents, d.realpath directory.1 = some root ∧
    ResolvesTo d root (directory.1 ++ (pathOf (strOf (item fields "path"))).parts) contents ∧
    item fields "size" = .int contents.length ∧ item fields "sha256" = .str (sha256 contents) ∧
    state.totalBytes + contents.length ≤ 2 ^ 40

theorem compositeFile_iff {directory : Location} {state : Inventory} {fields : Dict} :
    (∃ after, compositeFile d directory state (.obj fields) = .ok after) ↔ EntryFits d directory state fields := by
  unfold compositeFile
  constructor
  · rintro ⟨after, h⟩
    obtain ⟨_, keys, h⟩ := bind_eq_ok.1 h
    obtain ⟨_, safe, h⟩ := bind_eq_ok.1 h
    obtain ⟨_, fresh, h⟩ := bind_eq_ok.1 h
    have keys := raiseIf_eq_ok.1 keys
    have safe := raiseIf_eq_ok.1 safe
    rw [Bool.not_eq_false] at keys
    rw [Bool.not_eq_true] at safe
    cases hroot : d.realpath directory.1 with
    | none =>
      rw [hroot] at h
      cases h
    | some root =>
      rw [hroot] at h
      obtain ⟨⟨place, contents⟩, hfile, h⟩ := bind_eq_ok.1 h
      obtain ⟨_, size, h⟩ := bind_eq_ok.1 h
      obtain ⟨_, hash, h⟩ := bind_eq_ok.1 h
      obtain ⟨_, total, -⟩ := bind_eq_ok.1 h
      have hash := raiseIf_eq_ok.1 hash
      rw [Bool.not_eq_false, eqStr_iff] at hash
      exact ⟨keys, safe, raiseIf_eq_ok.1 fresh, root, contents, hroot, (resolvedFile_eq_ok _ _).1 ⟨place, hfile⟩,
        not_not.1 (raiseIf_eq_ok.1 size), hash, not_lt.1 (raiseIf_eq_ok.1 total)⟩
  · rintro ⟨keys, safe, fresh, root, contents, hroot, resolves, size, hash, total⟩
    obtain ⟨place, hfile⟩ := (resolvedFile_eq_ok "physical composite file escaped its evidence root"
      "physical composite file is absent, not regular, or a symlink").2 resolves
    rw [hroot]
    refine ⟨_, bind_eq_ok.2 ⟨(), raiseIf_eq_ok.2 ?_, bind_eq_ok.2 ⟨(), raiseIf_eq_ok.2 ?_, bind_eq_ok.2 ⟨(),
      raiseIf_eq_ok.2 fresh, bind_eq_ok.2 ⟨(place, contents), hfile, bind_eq_ok.2 ⟨(), raiseIf_eq_ok.2 ?_,
      bind_eq_ok.2 ⟨(), raiseIf_eq_ok.2 ?_, bind_eq_ok.2 ⟨(), raiseIf_eq_ok.2 (not_lt.2 total), rfl⟩⟩⟩⟩⟩⟩⟩⟩
    · rw [keys]
      decide
    · intro unsafe_
      rw [unsafe_] at safe
      cases safe
    · exact fun differs => differs size
    · rw [eqStr_iff.2 hash]
      decide

/-- In an accepted inventory each entry passes the check of one file. -/
theorem compositeFiles_mem {directory : Location} {files : List Json} {state after : Inventory}
    (h : files.foldlM (compositeFile d directory) state = .ok after) {value : Json} (hvalue : value ∈ files) :
    ∃ before later, compositeFile d directory before value = .ok later := by
  induction files generalizing state with
  | nil => cases hvalue
  | cons file files ih =>
    rw [List.foldlM_cons] at h
    obtain ⟨next, hnext, h⟩ := bind_eq_ok.1 h
    rcases List.mem_cons.1 hvalue with rfl | hvalue
    · exact ⟨state, next, hnext⟩
    · exact ih h hvalue

/-- What the checks of a topology read from a disk. -/
def surroundingsOf (d : Disk Bytes) (root : Location) (address : String → Option Bool) : Surroundings where
  projectFile := projectFile d root
  address := address

/-- A path that is safe and resolves to a file of the project. -/
structure ProjectFits (d : Disk Bytes) (root : Location) (path : String) : Prop where
  given : path ≠ ""
  safe : (pathOf path).isUnsafe = false
  file : ∃ resolved contents, d.realpath root.1 = some resolved ∧
    ResolvesTo d resolved (root.1 ++ (pathOf path).parts) contents

theorem projectFile_eq_regular {root : Location} {path : String} {contents : Bytes} :
    projectFile d root path = .regular contents ↔
      ∃ resolved, d.realpath root.1 = some resolved ∧ ResolvesTo d resolved (root.1 ++ (pathOf path).parts) contents := by
  unfold projectFile
  cases hplace : d.realpath (root.1 ++ (pathOf path).parts) with
  | none =>
    refine iff_of_false nofun ?_
    rintro ⟨_, -, place, hplace', -⟩
    rw [hplace] at hplace'
    cases hplace'
  | some place =>
    cases hroot : d.realpath root.1 with
    | none =>
      refine iff_of_false nofun ?_
      rintro ⟨_, never, -⟩
      cases never
    | some resolved =>
      have plain := Disk.realpath_plain hplace
      dsimp only
      rw [Disk.file_plain plain, Disk.isSymlink_plain plain]
      constructor
      · intro h
        split at h
        · rename_i inside
          cases hnode : Files.contents (d.node place) with
          | none =>
            rw [hnode] at h
            cases h
          | some found =>
            rw [hnode] at h
            cases h
            exact ⟨resolved, rfl, place, hplace, List.isPrefixOf_iff_prefix.1 inside, Disk.contents_eq_some.1 hnode⟩
        · cases h
      · rintro ⟨_, same, place', hplace', inside, hnode⟩
        obtain rfl := Option.some.inj same
        obtain rfl := Option.some.inj (hplace.symm.trans hplace')
        rw [if_pos (List.isPrefixOf_iff_prefix.2 inside), Disk.contents_eq_some.2 hnode]
        rfl

/-- The two spellings of a safe path are one. -/
theorem isUnsafe_iff {path : String} : (pathOf path).isUnsafe = true ↔
    path.toList.head? = some '/' ∨ ['.', '.'] ∈ splitChars '/' path.toList := by
  rw [PurePath.isUnsafe, Bool.or_eq_true, List.contains_iff_mem]
  refine or_congr decide_eq_true_iff ?_
  show ".." ∈ (components path).filter (fun name => name ≠ "" && name ≠ ".") ↔ _
  rw [List.mem_filter, components, split, List.mem_map]
  constructor
  · rintro ⟨⟨cs, hcs, same⟩, -⟩
    have chars : cs = ['.', '.'] := by
      rw [← String.toList_ofList (l := cs), same]
      rfl
    exact chars ▸ hcs
  · intro h
    exact ⟨⟨_, h, rfl⟩, by decide⟩

theorem readProjectFile_iff {root : Location} {address : String → Option Bool} {path label : String} :
    (∃ contents, readProjectFile (surroundingsOf d root address) (.str path) label = .ok contents) ↔
      ProjectFits d root path := by
  have spelled := @isUnsafe_iff path
  unfold readProjectFile
  constructor
  · rintro ⟨contents, h⟩
    obtain ⟨_, given, h⟩ := bind_eq_ok.1 h
    obtain ⟨_, safe, h⟩ := bind_eq_ok.1 h
    have safe := raiseIf_eq_ok.1 safe
    rw [← spelled, Bool.not_eq_true] at safe
    cases hfile : projectFile d root path with
    | regular found =>
      obtain ⟨resolved, hroot, resolves⟩ := projectFile_eq_regular.1 hfile
      exact ⟨raiseIf_eq_ok.1 given, safe, resolved, found, hroot, resolves⟩
    | _ =>
      have read : (surroundingsOf d root address).projectFile path = projectFile d root path := rfl
      rw [read, hfile] at h
      cases h
  · rintro ⟨given, safe, resolved, contents, hroot, resolves⟩
    have hfile := projectFile_eq_regular.2 ⟨resolved, hroot, resolves⟩
    refine ⟨contents, bind_eq_ok.2 ⟨(), raiseIf_eq_ok.2 given, bind_eq_ok.2 ⟨(), raiseIf_eq_ok.2 ?_, ?_⟩⟩⟩
    · rw [← spelled, safe]
      decide
    · have read : (surroundingsOf d root address).projectFile path = projectFile d root path := rfl
      rw [read, hfile]

/-- On every disk each of the four checks accepts regular files only, exactly if it is not given a linked path
that resolves to a file that fits. -/
theorem symlink_guards_iff (d : Disk Bytes) :
    (∀ umbrella fields label,
      ((∃ checked, umbrellaFileBinding d umbrella (.obj fields) label = .ok checked) →
        RegularFile d (umbrella.1 ++ (bindingPath fields).parts)) ↔
      ¬(Linked d (umbrella.1 ++ (bindingPath fields).parts) ∧ BindingFits d umbrella fields)) ∧
    (∀ umbrella broadSeal evidenceSha256,
      (ownerSealEvidence d umbrella broadSeal evidenceSha256 = .ok () →
        RegularFile d (umbrella.1 ++ (pathOf (strAt broadSeal "evidenceManifestPath")).parts)) ↔
      ¬(Linked d (umbrella.1 ++ (pathOf (strAt broadSeal "evidenceManifestPath")).parts) ∧
        EvidenceFits d umbrella broadSeal evidenceSha256)) ∧
    (∀ directory state fields,
      ((∃ after, compositeFile d directory state (.obj fields) = .ok after) →
        RegularFile d (directory.1 ++ (pathOf (strOf (item fields "path"))).parts)) ↔
      ¬(Linked d (directory.1 ++ (pathOf (strOf (item fields "path"))).parts) ∧ EntryFits d directory state fields)) ∧
    ∀ root address path label,
      ((∃ contents, readProjectFile (surroundingsOf d root address) (.str path) label = .ok contents) →
        RegularFile d (root.1 ++ (pathOf path).parts)) ↔
      ¬(Linked d (root.1 ++ (pathOf path).parts) ∧ ProjectFits d root path) := by
  refine ⟨fun umbrella fields label => ?_, fun umbrella broadSeal evidenceSha256 => ?_,
    fun directory state fields => ?_, fun root address path label => ?_⟩
  · rw [umbrellaFileBinding_iff]
    exact rejects_iff _ fun fits => ⟨fits.safe, fits.file.imp fun _ h => h.1⟩
  · rw [ownerSealEvidence_iff]
    exact rejects_iff _ fun fits => ⟨fits.safe, fits.file.imp fun _ h => h.1⟩
  · rw [compositeFile_iff]
    by_cases hroot : ∃ resolved, d.realpath directory.1 = some resolved
    · obtain ⟨resolved, hroot⟩ := hroot
      refine rejects_iff resolved fun fits => ⟨fits.safe, ?_⟩
      obtain ⟨root, contents, hroot', resolves, -⟩ := fits.file
      obtain rfl := Option.some.inj (hroot.symm.trans hroot')
      exact ⟨contents, resolves⟩
    · refine rejects_iff [] fun fits => ?_
      obtain ⟨root, contents, hroot', -⟩ := fits.file
      exact absurd ⟨root, hroot'⟩ hroot
  · rw [readProjectFile_iff]
    by_cases hroot : ∃ resolved, d.realpath root.1 = some resolved
    · obtain ⟨resolved, hroot⟩ := hroot
      refine rejects_iff resolved fun fits => ⟨fits.safe, ?_⟩
      obtain ⟨resolved', contents, hroot', resolves⟩ := fits.file
      obtain rfl := Option.some.inj (hroot.symm.trans hroot')
      exact ⟨contents, resolves⟩
    · refine rejects_iff [] fun fits => ?_
      obtain ⟨resolved, contents, hroot', -⟩ := fits.file
      exact absurd ⟨resolved, hroot'⟩ hroot

/-! ## A link that is accepted -/

namespace LinkedEvidence

def contents : Bytes := encodeUtf8 "{}"

/-- The evidence is a link to a file beside it. -/
def entries : List (Path × Node Bytes) :=
  [([], .dir), (["umbrella"], .dir), (["umbrella", "evidence.json"], .link "real.json"),
    (["umbrella", "real.json"], .file contents)]

def disk : Disk Bytes := .ofEntries entries (by decide)

def umbrella : Location := ⟨["umbrella"], by simp [IsName]⟩

theorem resolves : ResolvesTo disk umbrella.1 (umbrella.1 ++ ["evidence.json"]) contents :=
  ⟨["umbrella", "real.json"], by decide, ⟨["real.json"], rfl⟩, by decide⟩

theorem linked : Linked disk (umbrella.1 ++ ["evidence.json"]) := .inl ⟨"real.json", by decide⟩

def binding : Dict := [("path", .str "evidence.json"), ("sha256", .str (sha256 contents))]

def broadSeal : Dict := [("evidenceManifestPath", .str "evidence.json")]

def entry : Dict := [("path", .str "evidence.json"), ("size", .int 2), ("sha256", .str (sha256 contents))]

theorem parts_spec : (pathOf "evidence.json").parts = ["evidence.json"] ∧ (pathOf "evidence.json").isUnsafe = false ∧
    (pathOf "evidence.json").lowerSuffix = ".json".toList ∧ contents.length = 2 ∧
    disk.realpath umbrella.1 = some umbrella.1 := by
  decide

/-- Each of the four checks accepts the link. -/
theorem links_accepted :
    Linked disk (umbrella.1 ++ ["evidence.json"]) ∧ ¬RegularFile disk (umbrella.1 ++ ["evidence.json"]) ∧
      (∃ checked, umbrellaFileBinding disk umbrella (.obj binding) "evidence" = .ok checked) ∧
      ownerSealEvidence disk umbrella broadSeal (sha256 contents) = .ok () ∧
      (∃ after, compositeFile disk umbrella ⟨[], 0, []⟩ (.obj entry) = .ok after) ∧
      ∃ found, readProjectFile (surroundingsOf disk umbrella fun _ => none) (.str "evidence.json") "evidence" =
        .ok found := by
  obtain ⟨parts, safe, json, size, root⟩ := parts_spec
  have hash : strOr (.str (sha256 contents)) = sha256 contents := by
    have some_ : sha256 contents ≠ "" := by
      intro empty
      have digest := BackupRestore.isSha256_sha256 contents
      rw [empty] at digest
      exact absurd digest (by decide)
    simp [strOr, truthy, some_, strOf]
  have resolves : ResolvesTo disk umbrella.1 (umbrella.1 ++ (pathOf "evidence.json").parts) contents := by
    rw [parts]
    exact resolves
  refine ⟨linked, fun regular => not_linked_of_regularFile regular linked, umbrellaFileBinding_iff.2 ?_,
    ownerSealEvidence_iff.2 ?_, compositeFile_iff.2 ?_, readProjectFile_iff.2 ?_⟩
  · exact ⟨rfl, safe, contents, resolves, hash.symm⟩
  · exact ⟨safe, json, contents, resolves, rfl⟩
  · refine ⟨rfl, safe, List.not_mem_nil, umbrella.1, contents, root, resolves, ?_, rfl, ?_⟩
    · rw [size]
      rfl
    · rw [size]
      decide
  · exact ⟨by decide, safe, umbrella.1, contents, root, resolves⟩

end LinkedEvidence

end Zkdeal.Scripts
