import Zkdeal.Python.Text

/-!
# Files, directories and symbolic links

A file system as a map from paths to what is there, with two ways to follow the links of a path: that of the
system, for which every component on the way has to exist, and that of `os.path.realpath`, which goes on
below what does not exist.
-/

namespace Files

/-- The components of an absolute path. -/
abbrev Path := List String

inductive Node (β : Type) : Type where
  | file (contents : β)
  | dir
  | link (target : String)
  | special
  deriving DecidableEq

/-- Whether there is a directory. -/
def isDirectory {β : Type} : Option (Node β) → Bool
  | some .dir => true
  | _ => false

/-- The contents of what is there, if it is a regular file. -/
def contents {β : Type} : Option (Node β) → Option β
  | some (.file contents) => some contents
  | _ => none

/-- What is at each path; the links are finitely many. -/
structure Disk (β : Type) where
  node : Path → Option (Node β)
  links : List Path
  root : node [] = some .dir
  parent : ∀ path name, (node (path ++ [name])).isSome = true → node path = some .dir
  link : ∀ path target, node path = some (.link target) → path ∈ links

/-- A component of a path: no dots, no slash at its end, no zero character. -/
def IsName (name : String) : Prop := '\x00' ∉ name.toList ∧ name ≠ "" ∧ name ≠ "." ∧ name ≠ ".."

/-- A path of names only, as `resolve()` returns it. -/
def Location := {path : Path // ∀ name ∈ path, IsName name}

/-! ## Resolution -/

/-- The components of a text. -/
def components (s : String) : List String := Python.split '/' s

/-- Where the target of a link in a directory starts. -/
def startOf (directory : Path) (target : String) : Path := if target.toList.head? = some '/' then [] else directory

namespace Disk

variable {β : Type} (d : Disk β)

/-- One component further; the system asks for a directory to look in and for something to find there. -/
def step (strict : Bool) (follow : Path → List String → Option Path) (path : Path) (name : String) : Option Path :=
  if '\x00' ∈ name.toList then none
  else if strict = true ∧ isDirectory (d.node path) = false then none
  else if name = "" ∨ name = "." then some path
  else if name = ".." then some path.dropLast
  else
    match d.node (path ++ [name]) with
    | some (.link target) => follow (startOf path target) (components target)
    | some _ => some (path ++ [name])
    | none => if strict = true then none else some (path ++ [name])

/-- The components below a path, through links that are nested up to a depth. -/
def walk (strict : Bool) : ℕ → Path → List String → Option Path
  | 0, path, names => names.foldlM (d.step strict fun _ _ => none) path
  | depth + 1, path, names => names.foldlM (d.step strict (walk strict depth)) path

/-- `os.path.realpath(path)` for an absolute path, unless it goes in circles: a link that is met within
itself. -/
def realpath (path : Path) : Option Path := d.walk false d.links.length [] path

/-- The place that the system finds for a path. -/
def place (path : Path) : Option Path := d.walk true d.links.length [] path

/-- `os.lstat(path)`: what is at the path itself. -/
def lstat (path : Path) : Option (Node β) :=
  match path.getLast? with
  | none => d.node []
  | some name => (d.place path.dropLast).bind fun directory => d.node (directory ++ [name])

/-- `os.path.islink(path)` -/
def isSymlink (path : Path) : Bool :=
  match d.lstat path with
  | some (.link _) => true
  | _ => false

/-- The contents of a regular file, for `os.path.isfile(path)` and a read. -/
def file (path : Path) : Option β := contents ((d.place path).bind d.node)

/-! ## Laws -/

variable {d}

theorem isDirectory_iff {n : Option (Node β)} : isDirectory n = true ↔ n = some .dir := by
  cases n with
  | none => simp [isDirectory]
  | some n => cases n <;> simp [isDirectory]

/-- One more component that is a name. -/
theorem step_name {strict : Bool} {follow : Path → List String → Option Path} {path : Path} {name : String}
    (h : IsName name) (hdir : strict = true → d.node path = some .dir) :
    d.step strict follow path name =
      match d.node (path ++ [name]) with
      | some (.link target) => follow (startOf path target) (components target)
      | some _ => some (path ++ [name])
      | none => if strict = true then none else some (path ++ [name]) := by
  obtain ⟨noNul, notEmpty, notDot, notDots⟩ := h
  have looked : ¬(strict = true ∧ isDirectory (d.node path) = false) := by
    rintro ⟨hstrict, hnot⟩
    rw [isDirectory_iff.2 (hdir hstrict)] at hnot
    cases hnot
  have proper : ¬(name = "" ∨ name = ".") := fun h => h.elim notEmpty notDot
  rw [step, if_neg noNul, if_neg looked, if_neg proper, if_neg notDots]

theorem walk_nil (strict : Bool) (depth : ℕ) (path : Path) : d.walk strict depth path [] = some path := by
  cases depth <;> rfl

/-- How the links of one depth are followed. -/
def follow (d : Disk β) (strict : Bool) : ℕ → Path → List String → Option Path
  | 0 => fun _ _ => none
  | depth + 1 => d.walk strict depth

theorem walk_eq (strict : Bool) (depth : ℕ) (path : Path) (names : List String) :
    d.walk strict depth path names = names.foldlM (d.step strict (d.follow strict depth)) path := by
  cases depth <;> rfl

theorem walk_cons (strict : Bool) (depth : ℕ) (path : Path) (name : String) (names : List String) :
    d.walk strict depth path (name :: names) =
      (d.step strict (d.follow strict depth) path name).bind fun next => d.walk strict depth next names := by
  rw [walk_eq, List.foldlM_cons]
  simp only [walk_eq]
  rfl

theorem walk_append (strict : Bool) (depth : ℕ) (path : Path) (front back : List String) :
    d.walk strict depth path (front ++ back) =
      (d.walk strict depth path front).bind fun next => d.walk strict depth next back := by
  rw [walk_eq, List.foldlM_append]
  simp only [walk_eq]
  rfl

theorem walk_singleton (strict : Bool) (depth : ℕ) (path : Path) (name : String) :
    d.walk strict depth path [name] = d.step strict (d.follow strict depth) path name := by
  rw [walk_cons]
  simp only [walk_nil]
  exact Option.bind_fun_some _

/-- A step of the system is one of `realpath`. -/
theorem step_of_strict {f g : Path → List String → Option Path} {path next : Path} {name : String}
    (hfollow : ∀ path names next, f path names = some next → g path names = some next)
    (h : d.step true f path name = some next) : d.step false g path name = some next := by
  unfold step at h ⊢
  by_cases nul : '\x00' ∈ name.toList
  · rw [if_pos nul] at h
    cases h
  rw [if_neg nul] at h ⊢
  by_cases looked : true = true ∧ isDirectory (d.node path) = false
  · rw [if_pos looked] at h
    cases h
  rw [if_neg looked] at h
  rw [if_neg (fun lax => nomatch lax.1)]
  by_cases dot : name = "" ∨ name = "."
  · rw [if_pos dot] at h ⊢
    exact h
  rw [if_neg dot] at h ⊢
  by_cases dots : name = ".."
  · rw [if_pos dots] at h ⊢
    exact h
  rw [if_neg dots] at h ⊢
  cases hnode : d.node (path ++ [name]) with
  | none =>
    rw [hnode] at h
    cases h
  | some n =>
    rw [hnode] at h
    cases n with
    | link target => exact hfollow _ _ _ h
    | _ => exact h

/-- Where the system finds a place, `realpath` finds the same one. -/
theorem walk_of_strict {depth : ℕ} {path next : Path} {names : List String}
    (h : d.walk true depth path names = some next) : d.walk false depth path names = some next := by
  have hfollow : ∀ path names next, d.follow true depth path names = some next →
      d.follow false depth path names = some next := by
    intro path names next h
    cases depth with
    | zero => cases h
    | succ depth => exact walk_of_strict h
  induction names generalizing path with
  | nil =>
    rw [walk_nil] at h ⊢
    exact h
  | cons name names ih =>
    rw [walk_cons] at h ⊢
    obtain ⟨between, hstep, hrest⟩ := Option.bind_eq_some_iff.1 h
    exact Option.bind_eq_some_iff.2 ⟨between, step_of_strict hfollow hstep, ih hrest⟩

/-! ## Resolved paths -/

/-- A path of names without a link on it. -/
inductive Plain (d : Disk β) : Path → Prop where
  | root : Plain d []
  | append {path : Path} {name : String} (h : Plain d path) (named : IsName name)
      (unlinked : ∀ target, d.node (path ++ [name]) ≠ some (.link target)) : Plain d (path ++ [name])

theorem Plain.dropLast {path : Path} (h : Plain d path) : Plain d path.dropLast := by
  cases h with
  | root => exact .root
  | append h _ _ =>
    rw [List.dropLast_concat]
    exact h

theorem Plain.not_link {path : Path} (h : Plain d path) (target : String) : d.node path ≠ some (.link target) := by
  cases h with
  | root =>
    rw [d.root]
    exact nofun
  | append _ _ unlinked => exact unlinked target

theorem step_plain {follow : Path → List String → Option Path} {path next : Path} {name : String}
    (hfollow : ∀ path names next, Plain d path → follow path names = some next → Plain d next) (hpath : Plain d path)
    (h : d.step false follow path name = some next) : Plain d next := by
  unfold step at h
  by_cases nul : '\x00' ∈ name.toList
  · rw [if_pos nul] at h
    cases h
  rw [if_neg nul, if_neg (fun lax => nomatch lax.1)] at h
  by_cases dot : name = "" ∨ name = "."
  · rw [if_pos dot] at h
    exact Option.some.inj h ▸ hpath
  rw [if_neg dot] at h
  by_cases dots : name = ".."
  · rw [if_pos dots] at h
    exact Option.some.inj h ▸ hpath.dropLast
  rw [if_neg dots] at h
  have named : IsName name := ⟨nul, fun same => dot (.inl same), fun same => dot (.inr same), dots⟩
  cases hnode : d.node (path ++ [name]) with
  | none =>
    rw [hnode] at h
    exact Option.some.inj h ▸ .append hpath named fun target => by rw [hnode]; nofun
  | some n =>
    rw [hnode] at h
    cases n with
    | link target =>
      refine hfollow _ _ _ ?_ h
      unfold startOf
      split
      · exact .root
      · exact hpath
    | _ => exact Option.some.inj h ▸ .append hpath named fun target => by rw [hnode]; nofun

theorem walk_plain {depth : ℕ} {path next : Path} {names : List String} (hpath : Plain d path)
    (h : d.walk false depth path names = some next) : Plain d next := by
  have hfollow : ∀ path names next, Plain d path → d.follow false depth path names = some next → Plain d next := by
    intro path names next hpath h
    cases depth with
    | zero => cases h
    | succ depth => exact walk_plain hpath h
  induction names generalizing path with
  | nil =>
    rw [walk_nil] at h
    exact Option.some.inj h ▸ hpath
  | cons name names ih =>
    rw [walk_cons] at h
    obtain ⟨between, hstep, hrest⟩ := Option.bind_eq_some_iff.1 h
    exact ih (step_plain hfollow hpath hstep) hrest

/-- What `realpath` returns has no link on it. -/
theorem realpath_plain {path place : Path} (h : d.realpath path = some place) : Plain d place :=
  walk_plain .root h

/-- The system goes straight to a path without links. -/
theorem place_plain {path : Path} (h : Plain d path) :
    d.place path = if (d.node path).isSome = true then some path else none := by
  induction h with
  | root =>
    rw [place, walk_nil, d.root]
    rfl
  | @append path name h named unlinked ih =>
    have split : d.place (path ++ [name]) =
        (d.place path).bind fun directory => d.step true (d.follow true d.links.length) directory name := by
      rw [place, place, walk_append]
      simp only [walk_singleton]
    rw [split, ih]
    cases hnode : d.node (path ++ [name]) with
    | none =>
      by_cases hpath : (d.node path).isSome = true
      · rw [if_pos hpath, Option.bind_some]
        by_cases hdir : d.node path = some .dir
        · rw [step_name named fun _ => hdir, hnode]
          rfl
        · have off : isDirectory (d.node path) = false := by
            rw [← Bool.not_eq_true, isDirectory_iff]
            exact hdir
          rw [step, if_neg named.1, if_pos ⟨rfl, off⟩]
          rfl
      · rw [if_neg hpath]
        rfl
    | some n =>
      have hdir := d.parent path name (by rw [hnode]; rfl)
      rw [if_pos (by rw [hdir]; rfl), Option.bind_some, step_name named fun _ => hdir, hnode]
      cases n with
      | link target => exact absurd hnode (unlinked target)
      | _ => rfl

theorem lstat_plain {path : Path} (h : Plain d path) : d.lstat path = d.node path := by
  cases h with
  | root => rfl
  | @append path name h named unlinked =>
    have last : (path ++ [name]).getLast? = some name := List.getLast?_concat
    have direct : d.lstat (path ++ [name]) = (d.place path).bind fun directory => d.node (directory ++ [name]) := by
      rw [lstat, last, List.dropLast_concat]
    rw [direct, place_plain h]
    by_cases hpath : (d.node path).isSome = true
    · rw [if_pos hpath]
      rfl
    · rw [if_neg hpath]
      cases hnode : d.node (path ++ [name]) with
      | none => rfl
      | some n =>
        rw [d.parent path name (by rw [hnode]; rfl)] at hpath
        exact absurd rfl hpath

theorem contents_eq_some {n : Option (Node β)} {c : β} : contents n = some c ↔ n = some (.file c) := by
  cases n with
  | none => simp [contents]
  | some n => cases n <;> simp [contents]

theorem file_plain {path : Path} (h : Plain d path) : d.file path = contents (d.node path) := by
  rw [file, place_plain h]
  by_cases hnode : (d.node path).isSome = true
  · rw [if_pos hnode, Option.bind_some]
  · rw [if_neg hnode, Option.bind_none]
    rw [Option.not_isSome_iff_eq_none] at hnode
    rw [hnode]

theorem isSymlink_plain {path : Path} (h : Plain d path) : d.isSymlink path = false := by
  rw [isSymlink, lstat_plain h]
  split
  · rename_i target hlink
    exact absurd hlink (h.not_link target)
  · rfl

/-- A path that is no link itself resolves to what is there. -/
theorem node_realpath {path place : Path} {name : String} {n : Node β} (proper : name ≠ "" ∧ name ≠ "." ∧ name ≠ "..")
    (h : d.realpath (path ++ [name]) = some place) (hn : d.lstat (path ++ [name]) = some n)
    (unlinked : ∀ target, n ≠ .link target) : d.node place = some n := by
  have last : (path ++ [name]).getLast? = some name := List.getLast?_concat
  rw [lstat, last, List.dropLast_concat] at hn
  obtain ⟨directory, hplace, hnode⟩ := Option.bind_eq_some_iff.1 hn
  rw [realpath, walk_append, walk_of_strict hplace, Option.bind_some, walk_singleton] at h
  by_cases nul : '\x00' ∈ name.toList
  · rw [step, if_pos nul] at h
    cases h
  rw [step_name ⟨nul, proper⟩ (fun strict => absurd strict Bool.false_ne_true), hnode] at h
  cases n with
  | link target => exact absurd rfl (unlinked target)
  | _ => exact Option.some.inj h ▸ hnode

/-! ## Finite disks -/

/-- What a list of entries has at a path. -/
def nodeOf (entries : List (Path × Node β)) (path : Path) : Option (Node β) := entries.lookup path

/-- There is a root, and each entry is in a directory. -/
def isTree (entries : List (Path × Node β)) : Bool :=
  isDirectory (nodeOf entries []) &&
    entries.all fun e => e.1.isEmpty || isDirectory (nodeOf entries e.1.dropLast)

theorem mem_of_nodeOf {entries : List (Path × Node β)} {path : Path} {n : Node β} (h : nodeOf entries path = some n) :
    (path, n) ∈ entries := by
  obtain ⟨before, after, split, -⟩ := List.lookup_eq_some_iff.1 h
  rw [split]
  simp

/-- The disk with the given entries. -/
def ofEntries (entries : List (Path × Node β)) (h : isTree entries = true) : Disk β where
  node := nodeOf entries
  links := entries.map Prod.fst
  root := by
    rw [isTree, Bool.and_eq_true] at h
    exact isDirectory_iff.1 h.1
  parent := by
    intro path name hsome
    obtain ⟨n, hn⟩ := Option.isSome_iff_exists.1 hsome
    rw [isTree, Bool.and_eq_true] at h
    have inside := List.all_eq_true.1 h.2 _ (mem_of_nodeOf hn)
    rw [List.dropLast_concat] at inside
    simpa [isDirectory_iff] using inside
  link := by
    intro path target hn
    exact List.mem_map.2 ⟨_, mem_of_nodeOf hn, rfl⟩

end Disk

end Files
