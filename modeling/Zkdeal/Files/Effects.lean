import Mathlib.Logic.Function.Basic
import Zkdeal.Files.Disk
import Zkdeal.Interaction.Raising
import Zkdeal.Python.Bytes

/-!
# Programs that change the file system

The operations on files that a program performs, and what each of them can do to a disk.  Any of them can
fail; a write that fails can leave any contents, and a removal any part of what it was to remove.  The paths
are places: the links on the way are followed already, so that a link that is still there leads nowhere.
-/

namespace Files

open Interaction Raising Python

/-- A regular file. -/
structure Stored where
  bytes : Bytes
  mode : ℕ
  deriving DecidableEq

/-- How `os.mkdir` ended: with a new directory, because something was there, because the parent was not, or
otherwise. -/
inductive Made : Type where
  | made
  | taken
  | missing
  | failed
  deriving DecidableEq

/-- The operations; `look` is `exists`, `enter` opens a file for writing, and `read` reads from something that
the program does not change. -/
inductive FileOp : Type where
  | look (path : Path)
  | isDir (path : Path)
  | iterdir (path : Path)
  | mkdir (path : Path) (mode : ℕ)
  | enter (path : Path) (exclusive : Bool)
  | write (path : Path) (bytes : Bytes)
  | chmod (path : Path) (mode : ℕ)
  | replace (source target : Path)
  | rmdir (path : Path)
  | rmtree (path : Path)
  | read

/-- What an operation answers; `none` and `false` where it raises. -/
def FileOp.Answer : FileOp → Type
  | .look _ | .isDir _ => Option Bool
  | .iterdir _ => Option (List String)
  | .mkdir _ _ => Made
  | .rmtree _ => Unit
  | _ => Bool

/-- A program over files. -/
abbrev Filing (ε α : Type) := Raising ε FileOp FileOp.Answer α

/-! ## What the operations do -/

/-- There is something that is not a link. -/
def isPresent : Option (Node Stored) → Bool
  | none | some (.link _) => false
  | some _ => true

def makes (d : Disk Stored) (path : Path) (d' : Disk Stored) : Made → Prop
  | .made => d.node path = none ∧ d'.node = Function.update d.node path (some .dir)
  | .taken => d' = d ∧ (d.node path).isSome = true
  | .missing => d' = d ∧ d.node path.dropLast ≠ some .dir
  | .failed => d' = d

/-- A file is opened and empty; it is a new one if it has to be. -/
structure Enters (d : Disk Stored) (path : Path) (exclusive : Bool) (d' : Disk Stored) : Prop where
  fits : d.node path = none ∨ exclusive = false ∧ ∃ file, d.node path = some (.file file)
  entered : ∃ mode, d'.node = Function.update d.node path (some (.file ⟨[], mode⟩))

/-- Something is moved to where nothing is, or what it can take the place of. -/
structure Moves (d : Disk Stored) (source target : Path) (d' : Disk Stored) : Prop where
  there : (d.node source).isSome = true
  apart : ¬source <+: target
  fits : d.node target = none ∨ (d.node source ≠ some .dir ∧ d.node target ≠ some .dir) ∨
    d.node source = some .dir ∧ d.node target = some .dir ∧ ∀ name, d.node (target ++ [name]) = none
  moved : ∀ path, d'.node path =
    if target <+: path then d.node (source ++ path.drop target.length)
    else if source <+: path then none else d.node path

/-- What an operation does to a disk. -/
def acts (d : Disk Stored) : (o : FileOp) → o.Answer → Disk Stored → Prop
  | .look path, (r : Option Bool), d' => d' = d ∧ ∀ b, r = some b → b = isPresent (d.node path)
  | .isDir path, (r : Option Bool), d' => d' = d ∧ ∀ b, r = some b → b = isDirectory (d.node path)
  | .iterdir path, (r : Option (List String)), d' => d' = d ∧ ∀ names, r = some names →
      d.node path = some .dir ∧ names.Nodup ∧ ∀ name, name ∈ names ↔ (d.node (path ++ [name])).isSome = true
  | .mkdir path _, (r : Made), d' => makes d path d' r
  | .enter path exclusive, (r : Bool), d' => r = false ∧ d' = d ∨ Enters d path exclusive d'
  | .write path bytes, (r : Bool), d' => ∃ file written, d.node path = some (.file file) ∧
      (r = true → written = file.bytes ++ bytes) ∧
      d'.node = Function.update d.node path (some (.file ⟨written, file.mode⟩))
  | .chmod path mode, (r : Bool), d' => r = false ∧ d' = d ∨ ∃ file, d.node path = some (.file file) ∧
      d'.node = Function.update d.node path (some (.file ⟨file.bytes, mode⟩))
  | .replace source target, (r : Bool), d' => if r = true then Moves d source target d' else d' = d
  | .rmdir path, (r : Bool), d' =>
      if r = true then d.node path = some .dir ∧ (∀ name, d.node (path ++ [name]) = none) ∧
        d'.node = Function.update d.node path none
      else d' = d
  | .rmtree path, _, d' => ∀ path', d'.node path' = d.node path' ∨ path <+: path' ∧ d'.node path' = none
  | .read, _, d' => d' = d

/-- The disk of a program, where it has written to files, and what it has moved. -/
structure Work where
  disk : Disk Stored
  written : List Path
  moved : List Path

/-- The files that an operation writes to. -/
def FileOp.writes : FileOp → List Path
  | .write path _ => [path]
  | _ => []

/-- What an operation moved. -/
def moves : (o : FileOp) → o.Answer → List Path
  | .replace source _, (r : Bool) => if r = true then [source] else []
  | _, _ => []

/-- Every operation acts on the disk, and is noted. -/
structure Effect (w : Work) (o : FileOp) (r : o.Answer) (w' : Work) : Prop where
  acts : acts w.disk o r w'.disk
  written : w'.written = w.written ++ o.writes
  moved : w'.moved = w.moved ++ moves o r

/-- The operation did not fail. -/
def succeeds : (o : FileOp) → o.Answer → Prop
  | .look _, (r : Option Bool) | .isDir _, (r : Option Bool) => r.isSome = true
  | .iterdir _, (r : Option (List String)) => r.isSome = true
  | .mkdir _ _, (r : Made) => r = .made
  | .rmtree _, _ => True
  | .enter _ _, (r : Bool) | .write _ _, (r : Bool) | .chmod _ _, (r : Bool) | .replace _ _, (r : Bool)
  | .rmdir _, (r : Bool) | .read, (r : Bool) => r = true

/-! ## Directories -/

namespace Disk

variable {β : Type} {d : Disk β}

/-- What is above something is a directory. -/
theorem node_of_above {above path : Path} (h : (d.node path).isSome = true) (hpath : above <+: path)
    (other : above ≠ path) : d.node above = some .dir := by
  induction path using List.reverseRecOn with
  | nil => exact absurd (List.prefix_nil.1 hpath) other
  | append_singleton path name ih =>
    have parent := d.parent path name h
    rcases List.prefix_concat_iff.1 hpath with same | within
    · exact absurd same other
    · by_cases same : above = path
      · rw [same]
        exact parent
      · exact ih (by rw [parent]; rfl) within same

/-- What is absent on the way to a path below a directory is below it as well. -/
theorem below_of_absent {directory path target : Path} (root : d.node directory = some .dir) (hpath : path <+: target)
    (htarget : directory <+: target) (absent : d.node path = none) : directory <+: path := by
  rcases List.prefix_or_prefix_of_prefix htarget hpath with below | above
  · exact below
  · by_cases same : path = directory
    · exact same ▸ List.prefix_refl path
    · have there := node_of_above (by rw [root]; rfl) above same
      rw [absent] at there
      cases there

/-- Below nothing there is nothing. -/
theorem node_below_none {above path : Path} (h : d.node above = none) (hpath : above <+: path) : d.node path = none := by
  by_contra some
  have there : (d.node path).isSome = true := Option.isSome_iff_ne_none.2 some
  by_cases same : above = path
  · exact some (same ▸ h)
  · rw [node_of_above there hpath same] at h
    cases h

theorem nodeOf_of_notMem {entries : List (Path × Node β)} {path : Path} (h : path ∉ entries.map Prod.fst) :
    nodeOf entries path = none := by
  refine Option.eq_none_iff_forall_ne_some.2 fun n hn => h ?_
  exact List.mem_map.2 ⟨(path, n), mem_of_nodeOf hn, rfl⟩

/-- One more entry is an update. -/
theorem nodeOf_cons (path : Path) (n : Node β) (entries : List (Path × Node β)) :
    nodeOf ((path, n) :: entries) = Function.update (nodeOf entries) path (some n) := by
  funext path'
  rw [nodeOf, List.lookup_cons, Function.update_apply]
  by_cases same : path' = path
  · rw [if_pos same, beq_iff_eq.2 same]
  · rw [if_neg same, beq_eq_false_iff_ne.2 same]
    rfl

end Disk

section Programs

variable {ε : Type} (refused : ε)

/-- `path.mkdir(mode, exist_ok=True)`, and what it does if the parent is not there -/
def mkdirUnless (path : Path) (mode : ℕ) (missing : Filing ε Unit) : Filing ε Unit := do
  let ended : Made ← perform (FileOp.mkdir path mode)
  match ended with
  | .made => pure ()
  | .missing => missing
  | .taken | .failed =>
    let found : Option Bool ← perform (FileOp.isDir path)
    raiseIf (found ≠ some true) refused

/-- `path.mkdir(mode, parents=True, exist_ok=True)`, for a path from its last component on -/
def mkdirAbove : List String → ℕ → Filing ε Unit
  | [], mode => mkdirUnless refused [] mode (throw refused)
  | name :: above, mode => mkdirUnless refused (above.reverse ++ [name]) mode do
    mkdirAbove above 0o777
    mkdirUnless refused (above.reverse ++ [name]) mode (throw refused)

/-- `path.mkdir(mode, parents=True, exist_ok=True)` -/
def mkdirParents (path : Path) (mode : ℕ) : Filing ε Unit := mkdirAbove refused path.reverse mode

/-- Directories are new on the way to a path, and nothing else. -/
structure Grown (path : Path) (w w' : Work) : Prop where
  node : ∀ path', w'.disk.node path' = w.disk.node path' ∨
    w.disk.node path' = none ∧ w'.disk.node path' = some .dir ∧ path' <+: path
  written : w'.written = w.written
  moved : w'.moved = w.moved

variable {refused} {env : Env FileOp FileOp.Answer Work} {ok : Work → FileOp → Prop}

theorem Grown.refl (path : Path) (w : Work) : Grown path w w := ⟨fun _ => .inl rfl, rfl, rfl⟩

theorem Grown.trans {path : Path} {w w' w'' : Work} (h : Grown path w w') (h' : Grown path w' w'') : Grown path w w'' := by
  refine ⟨fun path' => ?_, h'.written.trans h.written, h'.moved.trans h.moved⟩
  rcases h.node path' with same | ⟨absent, new, within⟩ <;> rcases h'.node path' with same' | ⟨absent', new', within'⟩
  · exact .inl (same'.trans same)
  · exact .inr ⟨same ▸ absent', new', within'⟩
  · exact .inr ⟨absent, same'.trans new, within⟩
  · rw [new] at absent'
    cases absent'

theorem Grown.mono {path path' : Path} {w w' : Work} (h : Grown path w w') (hpath : path <+: path') : Grown path' w w' :=
  ⟨fun place => (h.node place).imp_right fun ⟨absent, new, within⟩ => ⟨absent, new, within.trans hpath⟩, h.written, h.moved⟩

/-- What was there is still there. -/
theorem Grown.kept {path path' : Path} {w w' : Work} (h : Grown path w w') (there : (w.disk.node path').isSome = true) :
    w'.disk.node path' = w.disk.node path' := by
  refine (h.node path').resolve_right fun new => ?_
  rw [new.1] at there
  cases there

theorem Effect.same {w w' : Work} {o : FileOp} {r : o.Answer} (h : Effect w o r w') (hdisk : w'.disk = w.disk)
    (quiet : o.writes = [] ∧ moves o r = []) : w' = w := by
  obtain ⟨disk, written, moved⟩ := w
  obtain ⟨disk', written', moved'⟩ := w'
  have hwritten := h.written
  have hmoved := h.moved
  rw [quiet.1, List.append_nil] at hwritten
  rw [quiet.2, List.append_nil] at hmoved
  cases hdisk
  cases hwritten
  cases hmoved
  rfl

theorem grown_of_makes {w w' : Work} {path : Path} {mode : ℕ} {ended : Made} (h : Effect w (.mkdir path mode) ended w') :
    Grown path w w' := by
  have untouched : w'.disk = w.disk → Grown path w w' := fun same => h.same same ⟨rfl, rfl⟩ ▸ .refl path w
  have effect : makes w.disk path w'.disk ended := h.acts
  cases ended with
  | made =>
    refine ⟨fun path' => ?_, h.written.trans (List.append_nil _), h.moved.trans (List.append_nil _)⟩
    rw [effect.2, Function.update_apply]
    by_cases same : path' = path
    · rw [if_pos same, same]
      exact .inr ⟨effect.1, rfl, List.prefix_refl _⟩
    · rw [if_neg same]
      exact .inl rfl
  | taken => exact untouched effect.1
  | missing => exact untouched effect.1
  | failed => exact untouched effect

theorem meets_mkdirUnless {path : Path} {mode : ℕ} {missing : Filing ε Unit} {Q : Work → Prop} {w : Work}
    (henv : ∀ w o r w', env w o r w' → Effect w o r w')
    (hok : ∀ w' mode, Grown path w w' → ok w' (.mkdir path mode) ∧ ok w' (.isDir path))
    (done : ∀ w', Grown path w w' → Q w')
    (hmissing : ∀ w', Grown path w w' → Meets env ok missing (fun _ => Q) (fun _ => Q) w') :
    Meets env ok (mkdirUnless refused path mode missing) (fun _ => Q) (fun _ => Q) w := by
  unfold mkdirUnless
  refine meets_bind_iff.2 (meets_perform_iff.2 ⟨(hok w mode (.refl path w)).1, fun ended w' effect => ?_⟩)
  have grown := grown_of_makes (henv _ _ _ _ effect)
  have looked : Meets env ok ((do
      let found : Option Bool ← perform (FileOp.isDir path)
      raiseIf (found ≠ some true) refused) : Filing ε Unit) (fun _ => Q) (fun _ => Q) w' := by
    refine meets_bind_iff.2 (meets_perform_iff.2 ⟨(hok w' mode grown).2, fun (found : Option Bool) w'' effect' => ?_⟩)
    have effect' := henv _ _ _ _ effect'
    rw [effect'.same effect'.acts.1 ⟨rfl, rfl⟩]
    exact meets_raiseIf_iff.2 ⟨fun _ => done w' grown, fun _ => done w' grown⟩
  cases ended with
  | made => exact meets_pure_iff.2 (done w' grown)
  | missing => exact hmissing w' grown
  | taken => exact looked
  | failed => exact looked

/-- Making a directory and those above it adds directories on the way. -/
theorem meets_mkdirParents {path : Path} {mode : ℕ} {w : Work} (henv : ∀ w o r w', env w o r w' → Effect w o r w')
    (hok : ∀ w' path' mode, Grown path w w' → path' <+: path → ok w' (.mkdir path' mode) ∧ ok w' (.isDir path')) :
    Meets env ok (mkdirParents refused path mode) (fun _ => Grown path w) (fun _ => Grown path w) w := by
  have above (names : List String) (mode : ℕ) {w' : Work} (hnames : names.reverse <+: path) (grown : Grown path w w') :
      Meets env ok (mkdirAbove refused names mode) (fun _ => Grown path w) (fun _ => Grown path w) w' := by
    induction names generalizing mode w' with
    | nil =>
      refine meets_mkdirUnless henv (fun w'' mode grown' => ?_) (fun w'' grown' => ?_) fun w'' grown' => ?_
      · exact hok w'' [] mode (grown.trans (grown'.mono hnames)) hnames
      · exact grown.trans (grown'.mono hnames)
      · exact meets_throw_iff.2 (grown.trans (grown'.mono hnames))
    | cons name names ih =>
      rw [List.reverse_cons] at hnames
      have once {w' : Work} (grown : Grown path w w') (mode : ℕ) {missing : Filing ε Unit}
          (hmissing : ∀ w', Grown path w w' → Meets env ok missing (fun _ => Grown path w) (fun _ => Grown path w) w') :
          Meets env ok (mkdirUnless refused (names.reverse ++ [name]) mode missing) (fun _ => Grown path w)
            (fun _ => Grown path w) w' := by
        refine meets_mkdirUnless henv (fun w'' mode grown' => ?_) (fun w'' grown' => ?_) fun w'' grown' => ?_
        · exact hok w'' _ mode (grown.trans (grown'.mono hnames)) hnames
        · exact grown.trans (grown'.mono hnames)
        · exact hmissing w'' (grown.trans (grown'.mono hnames))
      refine once grown mode fun w'' grown' => ?_
      refine (ih 0o777 ((List.prefix_append _ _).trans hnames) grown').bind fun _ w₂ grown₂ => ?_
      exact once grown₂ mode fun w₃ grown₃ => meets_throw_iff.2 grown₃
  unfold mkdirParents
  exact above path.reverse mode ((List.reverse_reverse path).symm ▸ List.prefix_refl path) (.refl path w)

end Programs

end Files
