import Mathlib.Data.Set.Function
import Zkdeal.BackupRestore.Control
import Zkdeal.Files.Effects
import Zkdeal.Files.PurePath

/-!
# Extraction of an object bundle

A restore unpacks the downloaded archive of the object store into a directory of its own.  Names are compared
as texts, and files are created exclusively at the paths that `pathlib` makes of them.  Any operation may fail,
and the process may die at any of them.
-/

namespace Zkdeal.BackupRestore

open Interaction Raising Files Python

/-- What `tarfile` says of a member, and what it reads from it. -/
structure Member where
  name : String
  isfile : Bool
  contents : Option Bytes

/-- `Path(member.name).parts`, without the root -/
def Member.parts (member : Member) : List String := (pathOf member.name).parts

/-- `destination.joinpath(*parts)` -/
def Member.target (destination : Path) (member : Member) : Path := destination ++ member.parts

/-- What makes a member unsafe, after members of the names `seen`. -/
def isUnsafeMember (seen : List String) (member : Member) : Bool :=
  !member.isfile || member.name.toList.isEmpty || ['/', '\\'].any (fun c => member.name.toList.head? = some c) ||
    member.name.toList.contains '\\' || member.parts.any (fun part => ["", ".", ".."].contains part) ||
    seen.contains member.name

/-- Something more is read from the archive. -/
def readArchive : Filing Raised Unit := do
  let r : Bool ← perform FileOp.read
  raiseIf (r = false) Raised.other

/-- One member, after members of the names `seen`. -/
def extractMember (destination : Path) (seen : List String) (member : Member) : Filing Raised (List String) := do
  raiseIf (isUnsafeMember seen member = true) (unsafeArtifact "object bundle contains an unsafe member")
  mkdirParents Raised.other (member.target destination).dropLast 0o700
  readArchive
  match member.contents with
  | none => throw (unsafeArtifact "object bundle member has no content")
  | some contents => do
    let opened : Bool ← perform (FileOp.enter (member.target destination) true)
    raiseIf (opened = false) Raised.other
    let copied : Bool ← perform (FileOp.write (member.target destination) contents)
    raiseIf (copied = false) Raised.other
    return member.name :: seen

/-- The next header of the archive, and its member. -/
def nextMember (destination : Path) (seen : List String) (member : Member) : Filing Raised (List String) := do
  readArchive
  extractMember destination seen member

/-- `extract_object_bundle(bundle, destination)`, for the members that `tarfile` finds in the bundle -/
def extractObjectBundle (members : List Member) (destination : Path) : Filing Raised Unit := do
  let ended : Made ← perform (FileOp.mkdir destination 0o700)
  raiseIf (ended ≠ .made) Raised.other
  readArchive
  let _ ← members.foldlM (nextMember destination) []
  readArchive

/-! ## What a run may do -/

variable {α : Type} {d : Disk Stored} {destination : Path}

/-- What has changed since the disk `d` is at the destination or below, and new; nothing is written twice. -/
structure Contained (d : Disk Stored) (destination : Path) (w : Work) : Prop where
  below : ∀ path, w.disk.node path ≠ d.node path → destination <+: path
  kept : ∀ path, (d.node path).isSome = true → w.disk.node path = d.node path
  once : w.written.Nodup
  fresh : ∀ path ∈ w.written, d.node path = none

/-- The operations that a run is to perform: directories and new files below the destination, and one write to
each of them. -/
def Allowed (d : Disk Stored) (destination : Path) (w : Work) : FileOp → Prop
  | .mkdir path _ => destination <+: path ∨ (w.disk.node path).isSome = true
  | .enter path exclusive => destination <+: path ∧ exclusive = true
  | .write path _ => destination <+: path ∧ path ∉ w.written ∧ d.node path = none
  | .isDir _ | .read => True
  | _ => False

/-- One more node below the destination, where nothing was. -/
theorem Contained.update {w w' : Work} {path : Path} {n : Node Stored} (h : Contained d destination w)
    (below : destination <+: path) (fresh : d.node path = none)
    (updated : w'.disk.node = Function.update w.disk.node path (some n)) (once : w'.written.Nodup)
    (fresh' : ∀ path ∈ w'.written, d.node path = none) : Contained d destination w' := by
  refine ⟨fun path' changed => ?_, fun path' there => ?_, once, fresh'⟩
  · by_cases same : path' = path
    · exact same ▸ below
    · rw [updated, Function.update_of_ne same] at changed
      exact h.below path' changed
  · have other : path' ≠ path := by
      rintro rfl
      rw [fresh] at there
      cases there
    rw [updated, Function.update_of_ne other]
    exact h.kept path' there

/-- What is absent now was absent before. -/
theorem Contained.absent {w : Work} {path : Path} (h : Contained d destination w) (absent : w.disk.node path = none) :
    d.node path = none := by
  by_contra there
  have same := h.kept path (Option.isSome_iff_ne_none.2 there)
  exact there (same ▸ absent)

theorem Contained.same {w w' : Work} (h : Contained d destination w) (disk : w'.disk = w.disk)
    (written : w'.written = w.written) : Contained d destination w' := by
  refine ⟨?_, ?_, ?_, ?_⟩
  · rw [disk]
    exact h.below
  · rw [disk]
    exact h.kept
  · rw [written]
    exact h.once
  · rw [written]
    exact h.fresh

/-- Such an operation keeps a run contained. -/
theorem Contained.step {w w' : Work} {o : FileOp} {r : o.Answer} (h : Contained d destination w)
    (allowed : Allowed d destination w o) (effect : Effect w o r w') : Contained d destination w' := by
  have written := effect.written
  cases o with
  | mkdir path mode =>
    have written : w'.written = w.written := written.trans (List.append_nil _)
    have made : makes w.disk path w'.disk r := effect.acts
    cases r with
    | made =>
      have below : destination <+: path := by
        refine allowed.resolve_right fun there => ?_
        rw [made.1] at there
        cases there
      refine h.update below (h.absent made.1) made.2 ?_ ?_
      · rw [written]
        exact h.once
      · rw [written]
        exact h.fresh
    | taken => exact h.same made.1 written
    | missing => exact h.same made.1 written
    | failed => exact h.same made written
  | enter path exclusive =>
    obtain ⟨below, rfl⟩ := allowed
    have written : w'.written = w.written := written.trans (List.append_nil _)
    rcases effect.acts with ⟨-, same⟩ | entered
    · exact h.same same written
    · obtain ⟨mode, updated⟩ := entered.entered
      have absent : w.disk.node path = none := by
        refine entered.fits.resolve_right fun h => ?_
        cases h.1
      refine h.update below (h.absent absent) updated ?_ ?_
      · rw [written]
        exact h.once
      · rw [written]
        exact h.fresh
  | write path bytes =>
    obtain ⟨below, unwritten, fresh⟩ := allowed
    obtain ⟨file, bytes', -, -, updated⟩ := effect.acts
    refine h.update below fresh updated ?_ ?_
    · rw [written]
      exact List.nodup_append.2 ⟨h.once, List.nodup_singleton path, fun a ha b hb => by
        rw [List.mem_singleton.1 hb]
        exact fun same => unwritten (same ▸ ha)⟩
    · intro path' hpath
      rw [written] at hpath
      rcases List.mem_append.1 hpath with hpath | hpath
      · exact h.fresh path' hpath
      · rw [List.mem_singleton.1 hpath]
        exact fresh
  | isDir path => exact h.same effect.acts.1 (written.trans (List.append_nil _))
  | read => exact h.same effect.acts (written.trans (List.append_nil _))
  | _ => exact allowed.elim

/-! ## What a run leaves -/

/-- What makes a member unacceptable after others: its type, its name, or a path that is written already, as a
file or as a directory. -/
inductive Offends (before : List Member) (member : Member) : Prop where
  | irregular (h : member.isfile = false)
  | absolute (h : (pathOf member.name).absolute = true)
  | backslash (h : '\\' ∈ member.name.toList)
  | above (h : ".." ∈ components member.name)
  | written (h : ∃ other ∈ before, member.parts <+: other.parts)

/-- The type and the name of a member are acceptable. -/
structure Sound (member : Member) : Prop where
  regular : member.isfile = true
  relative : (pathOf member.name).absolute = false
  slashes : '\\' ∉ member.name.toList
  inside : ".." ∉ components member.name

theorem sound_of_safe {seen : List String} {member : Member} (safe : isUnsafeMember seen member = false) :
    Sound member := by
  unfold isUnsafeMember at safe
  simp only [Bool.or_eq_false_iff] at safe
  obtain ⟨⟨⟨⟨⟨regular, -⟩, start⟩, slashes⟩, parts⟩, -⟩ := safe
  refine ⟨by simpa using regular, ?_, ?_, fun above => ?_⟩
  · have start := List.any_eq_false.1 start '/' (by decide)
    rw [pathOf, decide_eq_false_iff_not]
    simpa using start
  · intro slash
    rw [List.contains_iff_mem.2 slash] at slashes
    cases slashes
  · have listed : ".." ∈ member.parts := List.mem_filter.2 ⟨above, by decide⟩
    have kept := List.any_eq_false.1 parts ".." listed
    exact kept (by decide)

/-- The extraction after some members. -/
structure Extracting (d : Disk Stored) (destination : Path) (members : List Member) (w : Work) : Prop where
  contained : Contained d destination w
  absent : d.node destination = none
  root : w.disk.node destination = some .dir
  sound : ∀ member ∈ members, Sound member
  written : w.written = members.map (Member.target destination)
  contents : ∀ member ∈ members, ∃ bytes mode, member.contents = some bytes ∧
    w.disk.node (member.target destination) = some (.file ⟨bytes, mode⟩)
  only : ∀ path file, destination <+: path → w.disk.node path = some (.file file) → path ∈ w.written

theorem Extracting.grown {members : List Member} {w w' : Work} {path target : Path}
    (h : Extracting d destination members w) (grown : Grown path w w') (hpath : path <+: target)
    (htarget : destination <+: target) : Extracting d destination members w' := by
  refine ⟨⟨fun path' changed => ?_, fun path' there => ?_, ?_, ?_⟩, h.absent, ?_, h.sound, ?_, fun member hmember => ?_,
    fun path' file below hfile => ?_⟩
  · rcases grown.node path' with same | ⟨absent, -, within⟩
    · exact h.contained.below path' (same ▸ changed)
    · exact Disk.below_of_absent h.root (within.trans hpath) htarget absent
  · have same := h.contained.kept path' there
    rw [grown.kept (by rw [same]; exact there), same]
  · rw [grown.written]
    exact h.contained.once
  · rw [grown.written]
    exact h.contained.fresh
  · rw [grown.kept (by rw [h.root]; rfl), h.root]
  · rw [grown.written, h.written]
  · obtain ⟨bytes, mode, hbytes, hnode⟩ := h.contents member hmember
    refine ⟨bytes, mode, hbytes, ?_⟩
    rw [grown.kept (by rw [hnode]; rfl), hnode]
  · rw [grown.written]
    rcases grown.node path' with same | ⟨-, new, -⟩
    · exact h.only path' file below (same ▸ hfile)
    · rw [new] at hfile
      cases hfile

/-- One more file that was not there. -/
theorem Extracting.file {members : List Member} {member : Member} {w w' : Work} {bytes : Bytes} {mode : ℕ}
    (h : Extracting d destination members w) (sound : Sound member) (hbytes : member.contents = some bytes)
    (absent : w.disk.node (member.target destination) = none)
    (updated : w'.disk.node = Function.update w.disk.node (member.target destination) (some (.file ⟨bytes, mode⟩)))
    (written : w'.written = w.written ++ [member.target destination]) :
    Extracting d destination (members ++ [member]) w' := by
  have below : destination <+: member.target destination := List.prefix_append _ _
  have stays {path : Path} (there : (w.disk.node path).isSome = true) : w'.disk.node path = w.disk.node path := by
    have other : path ≠ member.target destination := by
      rintro rfl
      rw [absent] at there
      cases there
    rw [updated, Function.update_of_ne other]
  have unwritten : member.target destination ∉ w.written := by
    intro hwritten
    rw [h.written] at hwritten
    obtain ⟨other, hother, same⟩ := List.mem_map.1 hwritten
    obtain ⟨bytes', mode', -, hnode⟩ := h.contents other hother
    rw [same, absent] at hnode
    cases hnode
  have fresh := h.contained.absent absent
  refine ⟨h.contained.update below fresh updated ?_ ?_, h.absent, ?_, fun other hother => ?_, ?_, fun other hother => ?_,
    fun path file hpath hfile => ?_⟩
  · rw [written]
    exact List.nodup_append.2 ⟨h.contained.once, List.nodup_singleton _, fun a ha b hb => by
      rw [List.mem_singleton.1 hb]
      exact fun same => unwritten (same ▸ ha)⟩
  · intro path hpath
    rw [written] at hpath
    rcases List.mem_append.1 hpath with hpath | hpath
    · exact h.contained.fresh path hpath
    · rw [List.mem_singleton.1 hpath]
      exact fresh
  · rw [stays (by rw [h.root]; rfl), h.root]
  · rcases List.mem_append.1 hother with hother | hother
    · exact h.sound other hother
    · rw [List.mem_singleton.1 hother]
      exact sound
  · rw [written, h.written, List.map_append, List.map_singleton]
  · rcases List.mem_append.1 hother with hother | hother
    · obtain ⟨bytes', mode', hbytes', hnode⟩ := h.contents other hother
      exact ⟨bytes', mode', hbytes', by rw [stays (by rw [hnode]; rfl), hnode]⟩
    · rw [List.mem_singleton.1 hother]
      exact ⟨bytes, mode, hbytes, by rw [updated, Function.update_self]⟩
  · rw [written, List.mem_append, List.mem_singleton]
    by_cases same : path = member.target destination
    · exact .inr same
    · rw [updated, Function.update_of_ne same] at hfile
      exact .inl (h.only path file hpath hfile)

/-! ## The loop -/

theorem meets_readArchive {w : Work} {Q : Work → Prop} (h : Q w) :
    Meets Effect (Allowed d destination) readArchive (fun _ => Q) (fun _ _ => True) w := by
  refine meets_bind_iff.2 (meets_perform_iff.2 ⟨trivial, fun (r : Bool) w' effect => ?_⟩)
  rw [effect.same effect.acts ⟨rfl, rfl⟩]
  exact meets_raiseIf_iff.2 ⟨fun _ => trivial, fun _ => h⟩

theorem meets_extractMember {members : List Member} {member : Member} {seen : List String} {w : Work}
    (h : Extracting d destination members w) :
    Meets Effect (Allowed d destination) (extractMember destination seen member)
      (fun _ => Extracting d destination (members ++ [member])) (fun _ _ => True) w := by
  have below : destination <+: member.target destination := List.prefix_append _ _
  have above := List.dropLast_prefix (member.target destination)
  unfold extractMember
  refine meets_bind_iff.2 (meets_raiseIf_iff.2 ⟨fun _ => trivial, fun safe => ?_⟩)
  have sound := sound_of_safe (Bool.not_eq_true _ ▸ safe)
  have made : Meets Effect (Allowed d destination) (mkdirParents Raised.other (member.target destination).dropLast 0o700)
      (fun _ => Grown (member.target destination).dropLast w) (fun _ => Grown (member.target destination).dropLast w) w := by
    refine meets_mkdirParents (fun _ _ _ _ effect => effect) fun w' path mode grown hpath => ⟨?_, trivial⟩
    have h' := h.grown grown above below
    by_cases there : (w'.disk.node path).isSome = true
    · exact .inr there
    · exact .inl (Disk.below_of_absent h'.root (hpath.trans above) below (Option.not_isSome_iff_eq_none.1 there))
  refine (made.mono (fun _ _ ok => ok) (fun _ _ grown => grown) fun _ _ _ => trivial).bind fun _ w₁ grown => ?_
  have h₁ := h.grown grown above below
  refine meets_bind_iff.2 (meets_readArchive ?_)
  cases hcontents : member.contents with
  | none => exact meets_throw_iff.2 trivial
  | some bytes =>
    refine meets_bind_iff.2 (meets_perform_iff.2 ⟨⟨below, rfl⟩, fun (opened : Bool) w₂ effect => ?_⟩)
    refine meets_bind_iff.2 (meets_raiseIf_iff.2 ⟨fun _ => trivial, fun isOpen => ?_⟩)
    have entered : Enters w₁.disk (member.target destination) true w₂.disk :=
      effect.acts.resolve_left fun closed => isOpen closed.1
    obtain ⟨mode, updated⟩ := entered.entered
    have absent : w₁.disk.node (member.target destination) = none := by
      refine entered.fits.resolve_right fun there => ?_
      cases there.1
    have written₂ : w₂.written = w₁.written := effect.written.trans (List.append_nil _)
    have unwritten : member.target destination ∉ w₂.written := by
      rw [written₂, h₁.written]
      intro hwritten
      obtain ⟨other, hother, same⟩ := List.mem_map.1 hwritten
      obtain ⟨bytes', mode', -, hnode⟩ := h₁.contents other hother
      rw [same, absent] at hnode
      cases hnode
    refine meets_bind_iff.2 (meets_perform_iff.2
      ⟨⟨below, unwritten, h₁.contained.absent absent⟩, fun (copied : Bool) w₃ effect₃ => ?_⟩)
    refine meets_bind_iff.2 (meets_raiseIf_iff.2 ⟨fun _ => trivial, fun isCopied => ?_⟩)
    obtain ⟨file, bytes', hfile, hbytes', updated₃⟩ := effect₃.acts
    rw [updated, Function.update_self] at hfile
    obtain rfl : file = ⟨[], mode⟩ := by
      injection hfile with hfile
      injection hfile with hfile
      exact hfile.symm
    obtain rfl : bytes' = bytes := hbytes' (Bool.not_eq_false _ ▸ isCopied)
    rw [updated, Function.update_idem] at updated₃
    refine meets_pure_iff.2 (h₁.file sound hcontents absent updated₃ ?_)
    rw [effect₃.written, written₂]
    rfl

/-- The extraction of all members. -/
theorem meets_extractObjectBundle (members : List Member) (destination : Path) (d : Disk Stored) :
    Meets Effect (Allowed d destination) (extractObjectBundle members destination)
      (fun _ => Extracting d destination members) (fun _ _ => True) ⟨d, [], []⟩ := by
  unfold extractObjectBundle
  refine meets_bind_iff.2 (meets_perform_iff.2 ⟨.inl (List.prefix_refl _), fun (ended : Made) w effect => ?_⟩)
  refine meets_bind_iff.2 (meets_raiseIf_iff.2 ⟨fun _ => trivial, fun isMade => ?_⟩)
  obtain rfl : ended = .made := not_not.1 isMade
  obtain ⟨absent, updated⟩ := effect.acts
  have absent : d.node destination = none := absent
  have updated : w.disk.node = Function.update d.node destination (some .dir) := updated
  have written : w.written = [] := effect.written
  have contained : Contained d destination ⟨d, [], []⟩ :=
    ⟨fun path changed => absurd rfl changed, fun _ _ => rfl, List.nodup_nil, nofun⟩
  have start : Extracting d destination [] w := by
    refine ⟨contained.update (List.prefix_refl _) absent updated ?_ ?_, absent, ?_, nofun, written, nofun,
      fun path file below hfile => ?_⟩
    · rw [written]
      exact List.nodup_nil
    · rw [written]
      nofun
    · rw [updated, Function.update_self]
    · by_cases same : path = destination
      · rw [updated, same, Function.update_self] at hfile
        cases hfile
      · rw [updated, Function.update_of_ne same, Disk.node_below_none absent below] at hfile
        cases hfile
  refine meets_bind_iff.2 (meets_readArchive ?_)
  have loop : Meets Effect (Allowed d destination) (members.foldlM (nextMember destination) [])
      (fun _ => Extracting d destination members) (fun _ _ => True) w := by
    refine Meets.foldlM (I := fun done _ => Extracting d destination done) (fun done member rest seen w h _ => ?_) start
    exact meets_bind_iff.2 (meets_readArchive (meets_extractMember h))
  refine loop.bind fun _ w' h => ?_
  exact meets_readArchive h

/-- The members are there, each at its own path and nothing else, and none of them had to be refused. -/
structure Unpacked (members : List Member) (destination : Path) (w : Work) : Prop where
  accepted : ∀ before member after, members = before ++ member :: after → ¬Offends before member
  bijection : Set.BijOn (fun i : Fin members.length => members[i].target destination) Set.univ
    {path | destination <+: path ∧ ∃ file, w.disk.node path = some (.file file)}
  contents : ∀ member ∈ members, ∃ bytes mode, member.contents = some bytes ∧
    w.disk.node (member.target destination) = some (.file ⟨bytes, mode⟩)

theorem Extracting.unpacked {members : List Member} {w : Work} (h : Extracting d destination members w) :
    Unpacked members destination w := by
  have distinct : (members.map (Member.target destination)).Nodup := h.written ▸ h.contained.once
  refine ⟨?_, ⟨?_, ?_, ?_⟩, h.contents⟩
  · rintro before member after rfl offends
    have sound := h.sound member (by simp)
    cases offends with
    | irregular irregular => exact Bool.false_ne_true (irregular.symm.trans sound.regular)
    | absolute absolute => exact Bool.false_ne_true (sound.relative.symm.trans absolute)
    | backslash backslash => exact sound.slashes backslash
    | above above => exact sound.inside above
    | written written =>
      obtain ⟨other, hother, within⟩ := written
      have target : member.target destination <+: other.target destination := (List.prefix_append_right_inj _).2 within
      obtain ⟨bytes, mode, -, hmember⟩ := h.contents member (by simp)
      obtain ⟨bytes', mode', -, hfile⟩ := h.contents other (List.mem_append_left _ hother)
      by_cases same : member.target destination = other.target destination
      · rw [List.map_append, List.map_cons] at distinct
        have apart := (List.nodup_append.1 distinct).2.2 _ (List.mem_map_of_mem hother) _ List.mem_cons_self
        exact apart same.symm
      · have directory := Disk.node_of_above (by rw [hfile]; rfl) target same
        rw [hmember] at directory
        cases directory
  · intro i _
    obtain ⟨bytes, mode, -, hnode⟩ := h.contents members[i] (List.getElem_mem _)
    exact ⟨List.prefix_append _ _, _, hnode⟩
  · intro i _ j _ same
    have injective := List.nodup_iff_injective_getElem.1 distinct
    have index : (⟨i, by simp⟩ : Fin (members.map (Member.target destination)).length) = ⟨j, by simp⟩ := by
      apply injective
      simpa using same
    exact Fin.ext (Fin.mk.inj index)
  · rintro path ⟨below, file, hfile⟩
    have hwritten := h.only path file below hfile
    rw [h.written] at hwritten
    obtain ⟨member, hmember, rfl⟩ := List.mem_map.1 hwritten
    obtain ⟨i, hi, rfl⟩ := List.getElem_of_mem hmember
    exact ⟨⟨i, hi⟩, trivial, rfl⟩

/-- However a run of the extraction ends, what it changed is new, at the destination or below it, and no file
was written twice; it does not return if it had to refuse a member, and if it returns, the files below the
destination are those of the members. -/
theorem object_bundle_contained (members : List Member) (destination : Path) (d : Disk Stored)
    {tr : Trace FileOp FileOp.Answer} {out : Outcome FileOp (Except Raised Unit)} {w : Work}
    (run : (extractObjectBundle members destination).run.Runs tr out) (acc : Accepts Effect ⟨d, [], []⟩ tr w) :
    Contained d destination w ∧
      ((∃ before member after, members = before ++ member :: after ∧ Offends before member) →
        out ≠ .returned (.ok ())) ∧
      (out = .returned (.ok ()) → Unpacked members destination w) := by
  have meets := meets_extractObjectBundle members destination d
  have unpacked (returned : out = .returned (.ok ())) : Unpacked members destination w :=
    Extracting.unpacked ((Meets.of_runs meets run acc).1 _ returned)
  refine ⟨?_, ?_, unpacked⟩
  · refine Meets.leaves meets (fun w o r w' h allowed effect => h.step allowed effect) ?_ run acc
    exact ⟨fun path changed => absurd rfl changed, fun _ _ => rfl, List.nodup_nil, nofun⟩
  · rintro ⟨before, member, after, split, offends⟩ returned
    exact (unpacked returned).accepted before member after split offends

/-! ## A bundle of one file -/

namespace OneFile

/-- The root, and what the run adds to it. -/
def entries : List (Path × Node Stored) :=
  [(["d", "a", "b"], .file ⟨[7], 0o644⟩), (["d", "a", "b"], .file ⟨[], 0o644⟩), (["d", "a"], .dir), (["d"], .dir), ([], .dir)]

/-- The disk after some of it. -/
def disk (n : Fin 5) : Disk Stored := .ofEntries (entries.drop (4 - n)) (by decide +revert)

def work (n : Fin 5) (written : List Path) : Work := ⟨disk n, written, []⟩

def member : Member := ⟨"a/b", true, some [7]⟩

def trace : Trace FileOp FileOp.Answer :=
  [⟨.mkdir ["d"] 0o700, Made.made⟩, ⟨.read, true⟩, ⟨.read, true⟩, ⟨.mkdir ["d", "a"] 0o700, Made.made⟩, ⟨.read, true⟩,
    ⟨.enter ["d", "a", "b"] true, true⟩, ⟨.write ["d", "a", "b"] [7], true⟩, ⟨.read, true⟩]

theorem runs_trace : (extractObjectBundle [member] ["d"]).run.Runs trace (.returned (.ok ())) := by
  have target : member.target ["d"] = ["d", "a", "b"] ∧ isUnsafeMember [] member = false := by decide
  unfold extractObjectBundle
  rw [List.foldlM_cons, nextMember, extractMember, target.1, target.2]
  exact .event _ _ _ (.event _ _ _ (.event _ _ _ (.event _ _ _ (.event _ _ _ (.event _ _ _ (.event _ _ _ (.event _ _ _
    (.returned _))))))))

theorem accepts_trace : Accepts Effect (work 0 []) trace (work 4 [["d", "a", "b"]]) := by
  have reading (n : Fin 5) (written : List Path) : Effect (work n written) .read true (work n written) :=
    ⟨rfl, (List.append_nil _).symm, (List.append_nil _).symm⟩
  have created : Effect (work 0 []) (.mkdir ["d"] 0o700) Made.made (work 1 []) :=
    ⟨⟨by decide, Disk.nodeOf_cons ..⟩, rfl, rfl⟩
  have above : Effect (work 1 []) (.mkdir ["d", "a"] 0o700) Made.made (work 2 []) :=
    ⟨⟨by decide, Disk.nodeOf_cons ..⟩, rfl, rfl⟩
  have entered : Effect (work 2 []) (.enter ["d", "a", "b"] true) true (work 3 []) :=
    ⟨.inr ⟨.inl (by decide), _, Disk.nodeOf_cons ..⟩, rfl, rfl⟩
  have written : Effect (work 3 []) (.write ["d", "a", "b"] [7]) true (work 4 [["d", "a", "b"]]) :=
    ⟨⟨⟨[], 0o644⟩, [7], by decide, fun _ => rfl, Disk.nodeOf_cons ..⟩, rfl, rfl⟩
  exact .cons created (.cons (reading 1 []) (.cons (reading 1 []) (.cons above (.cons (reading 2 []) (.cons entered
    (.cons written (.cons (reading 4 _) (.nil _))))))))

/-- The destination itself is new, and not strictly below itself. -/
theorem destination_created : ¬∀ (members : List Member) (destination : Path) (d : Disk Stored)
    (tr : Trace FileOp FileOp.Answer) (out : Outcome FileOp (Except Raised Unit)) (w : Work),
    (extractObjectBundle members destination).run.Runs tr out → Accepts Effect ⟨d, [], []⟩ tr w →
      ∀ path, d.node path = none → (w.disk.node path).isSome = true → destination <+: path ∧ path ≠ destination := by
  intro strictly
  have absent : (disk 0).node ["d"] = none ∧ ((disk 4).node ["d"]).isSome = true := by decide
  exact (strictly [member] ["d"] (disk 0) trace _ _ runs_trace accepts_trace ["d"] absent.1 absent.2).2 rfl

theorem object_bundle_contained_one : Contained (disk 0) ["d"] (work 4 [["d", "a", "b"]]) ∧
    Unpacked [member] ["d"] (work 4 [["d", "a", "b"]]) := by
  have contained := object_bundle_contained [member] ["d"] (disk 0) runs_trace accepts_trace
  exact ⟨contained.1, contained.2.2 rfl⟩

end OneFile

end Zkdeal.BackupRestore
