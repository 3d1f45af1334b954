import Mathlib.Data.List.ReduceOption
import Mathlib.Data.String.Basic
import Zkdeal.Codes.Lines
import Zkdeal.Codes.SelfDelimiting
import Zkdeal.Python.Hex
import Zkdeal.Python.Integer
import Zkdeal.Scripts.Common
import Zkdeal.Scripts.SourceBundle

/-!
# Digests of sets of files

A source bundle, an object archive and a tree of owner artifacts each have one digest for all their files.  The three
digests differ in how they put the records of the files together before they hash them.
-/

namespace Zkdeal.TreeDigests

open Interaction Raising Python Json Python.Sha256
open BackupRestore (canonicalBytes item)
open SourceBundle (entriesSha256 entryLine octal4)

/-! ## Names -/

/-- A character of a file name as `os.fsdecode` gives it; a byte that does not decode is a lone surrogate. -/
inductive NameChar : Type where
  | char (c : Char)
  | surrogate (byte : UInt8)
  deriving DecidableEq

/-- A relative path, with `/` between its components. -/
abbrev FileName : Type := List NameChar

def NameChar.codePoint : NameChar → ℕ
  | .char c => c.toNat
  | .surrogate byte => 0xdc00 + byte.toNat

def NameChar.scalar : NameChar → Option Char
  | .char c => some c
  | .surrogate _ => none

/-- The name as a text that has an encoding; `.encode()` raises at a lone surrogate. -/
def encodable (name : FileName) : Option String := (name.mapM NameChar.scalar).map String.ofList

/-- A name without lone surrogates. -/
def nameOf (text : String) : FileName := text.toList.map .char

/-- What a path is compared by: the code points of its components. -/
def pathKey (name : FileName) : List (List ℕ) := (name.splitOn (.char '/')).map fun part => part.map NameChar.codePoint

/-! ## `entries_sha256` -/

/-- A file of an inventory, which records whether its mode has an executable bit. -/
structure BundleFile where
  path : FileName
  contents : Bytes
  executable : Bool
  deriving DecidableEq

/-- The files of a bundle, each under a path of its own. -/
structure BundleFiles where
  files : List BundleFile
  distinct : (files.map BundleFile.path).Nodup

/-- `normalized_mode(path)` -/
def normalizedMode (file : BundleFile) : ℤ := if file.executable then 0o755 else 0o644

/-- The entry of a file in an inventory, under the text of its path. -/
def entryUnder (path : String) (file : BundleFile) : Json :=
  .obj [("path", .str path), ("bytes", .int file.contents.length), ("sha256", .str (sha256 file.contents)),
    ("mode", .int (normalizedMode file))]

/-- The entry of a file, as far as it can be encoded. -/
def entry (file : BundleFile) : Except SourceBundle.Raised Json :=
  match encodable file.path with
  | some path => .ok (entryUnder path file)
  | none => .error .other

/-- `canonical` in `entries_sha256(entries)` -/
def canonicalText (entries : List Json) : Except SourceBundle.Raised String := do
  let lines ← entries.mapM entryLine
  return String.join ((lines.insertionSort fun a b => a.1 ≤ b.1).map Prod.snd)

theorem entriesSha256_eq (entries : List Json) :
    entriesSha256 entries = (canonicalText entries).map fun text => sha256 (encodeUtf8 text) := by
  unfold entriesSha256 canonicalText
  cases entries.mapM entryLine <;> rfl

/-- The bytes that `entries_sha256` hashes for the files. -/
def entriesBytes (bundle : BundleFiles) : Except SourceBundle.Raised Bytes := do
  let entries ← bundle.files.mapM entry
  let text ← canonicalText entries
  return encodeUtf8 text

/-- `entries_sha256` of the entries of the files -/
def bundleDigest (bundle : BundleFiles) : Except SourceBundle.Raised String := do
  let entries ← bundle.files.mapM entry
  entriesSha256 entries

/-! ## Trees -/

/-- What there is at a path. -/
inductive Found : Type where
  | file (contents : Bytes)
  | link (toFile : Bool)
  | other
  deriving DecidableEq

/-- `path.is_file()`, which follows links -/
def Found.isFile : Found → Bool
  | .file _ => true
  | .link toFile => toFile
  | .other => false

/-- What `rglob("*")` finds at a relative path. -/
structure TreeItem where
  path : FileName
  found : Found
  deriving DecidableEq

/-- `sorted(items)` -/
def inOrder (items : List TreeItem) : List TreeItem := items.insertionSort fun a b => pathKey a.path ≤ pathKey b.path

/-! ## `tree_manifest` -/

/-- What the loop of `tree_manifest` keeps of an item. -/
def manifestFile (item : TreeItem) : Except BackupRestore.Raised (Option (FileName × Bytes)) :=
  match item.found with
  | .link _ => .error (.control "object archive contains a symlink" 502 "OBJECT_ARCHIVE_FAILED")
  | .file contents => .ok (some (item.path, contents))
  | .other => .ok none

/-- The record of a file in the manifest, under the text of its path. -/
def recordUnder (path : String) (file : FileName × Bytes) : Json :=
  .obj [("path", .str path), ("bytes", .int file.2.length), ("sha256", .str (sha256 file.2))]

/-- A record of the manifest, as far as it can be printed and encoded. -/
def manifestRecord (file : FileName × Bytes) : Except BackupRestore.Raised Json :=
  match encodable file.1 with
  | some path => do
    raiseIf (printable (recordUnder path file) = false) BackupRestore.Raised.other
    return recordUnder path file
  | none => .error .other

/-- `value` in `tree_manifest(root)` -/
def manifestValue (files : List Json) : Json :=
  .obj [("schemaVersion", .int 1), ("algorithm", .str "sha256"), ("files", .arr files)]

/-- `tree_manifest(root)` for what is found under a root that is a directory and no link -/
def treeManifest (root : Option (List TreeItem)) : Except BackupRestore.Raised (Json × String) :=
  match root with
  | none => .error (.control "object archive root is absent or unsafe" 502 "OBJECT_ARCHIVE_FAILED")
  | some items => do
    let found ← (inOrder items).mapM manifestFile
    let files ← found.reduceOption.mapM manifestRecord
    return (manifestValue files, sha256 (canonicalBytes (manifestValue files)))

/-! ## `sha256_tree` -/

/-- `n.to_bytes(width, "big")` -/
def toBytes (width n : ℕ) : Except Scripts.Raised Bytes :=
  if n < 256 ^ width then .ok (toBig width n) else .error .other

/-- A path under `root`, with a replacement character for a lone surrogate -/
def shown (root : String) (name : FileName) : String :=
  root ++ "/" ++ .ofList (name.map fun c => c.scalar.getD (.ofNat 0xfffd))

/-- What one pass of the loop adds to the hashed bytes, the count and the total. -/
def treeRecord (root : String) (item : TreeItem) : Except Scripts.Raised (Bytes × ℕ × ℕ) :=
  match item.found, encodable item.path with
  | .link _, _ => .error (.deployment ("refusing symlink in owner artifact tree: " ++ shown root item.path))
  | .file contents, some path => do
    let relative := encodeUtf8 path
    let nameLength ← toBytes 4 relative.length
    let size ← toBytes 8 contents.length
    return (nameLength ++ (relative ++ (size ++ fromHex (sha256 contents).toList)), 1, contents.length)
  | _, _ => .error .other

/-- The bytes that `sha256_tree` hashes, the count and the total. -/
def treeBytes (root : String) (items : List TreeItem) : Except Scripts.Raised (Bytes × ℕ × ℕ) := do
  let records ← (inOrder (items.filter fun item => item.found.isFile)).mapM (treeRecord root)
  return (records.flatMap Prod.fst, (records.map fun r => r.2.1).sum, (records.map fun r => r.2.2).sum)

/-- `sha256_tree(path)` for what is found under `root` -/
def sha256Tree (root : String) (items : List TreeItem) : Except Scripts.Raised (String × ℕ × ℕ) := do
  let (bytes, count, total) ← treeBytes root items
  return (sha256 bytes, count, total)

/-! ## The names -/

variable {name : FileName} {text : String}

@[simp] theorem encodable_nameOf (text : String) : encodable (nameOf text) = some text := by
  have hall : (text.toList.map NameChar.char).mapM NameChar.scalar = some text.toList := by
    induction text.toList with
    | nil => rfl
    | cons c cs ih => rw [List.map_cons, List.mapM_cons, ih]; rfl
  rw [encodable, nameOf, hall, Option.map_some, String.ofList_toList]

theorem eq_nameOf (h : encodable name = some text) : name = nameOf text := by
  have hall (name : FileName) (cs : List Char) (h : name.mapM NameChar.scalar = some cs) : name = cs.map .char := by
    induction name generalizing cs with
    | nil =>
      obtain rfl := Option.some.inj h
      rfl
    | cons c name ih =>
      rw [List.mapM_cons] at h
      obtain ⟨x, hx, h⟩ := Option.bind_eq_some_iff.1 h
      obtain ⟨xs, hxs, h⟩ := Option.bind_eq_some_iff.1 h
      obtain rfl := Option.some.inj h
      cases c with
      | char c =>
        obtain rfl := Option.some.inj hx
        rw [ih xs hxs, List.map_cons]
      | surrogate byte => nomatch hx
  obtain ⟨cs, hcs, rfl⟩ := Option.map_eq_some_iff.1 h
  rw [nameOf, String.toList_ofList]
  exact hall name cs hcs

theorem nameOf_injective : Function.Injective nameOf := fun s t h => by
  have hs := encodable_nameOf s
  rw [h, encodable_nameOf] at hs
  exact (Option.some.inj hs).symm

/-! ## The lines of the entries -/

/-- What the line of a file has before its path. -/
def head (contents : Bytes) (executable : Bool) : String :=
  sha256 contents ++ " " ++ toString contents.length ++ " " ++ (if executable then "0755" else "0644") ++ " "

def heads : Set (List Char) := {w | ∃ contents executable, w = (head contents executable).toList}

/-- The path reads as a path, a line feed, what the line of some file has before its path, and a path that comes later. -/
def Splits (path : FileName) : Prop :=
  ∃ p q contents executable, p < q ∧ encodable path = some (p ++ "\n" ++ head contents executable ++ q)

theorem entryLine_entryUnder (path : String) (file : BundleFile) :
    entryLine (entryUnder path file) = .ok (path, head file.contents file.executable ++ path ++ "\n") := by
  have hmode : octal4 (.int (normalizedMode file)) = .ok (if file.executable then "0755" else "0644") := by
    unfold normalizedMode
    cases file.executable <;> decide
  refine bind_eq_ok.2 ⟨.str (sha256 file.contents), rfl, ?_⟩
  refine bind_eq_ok.2 ⟨.int file.contents.length, rfl, ?_⟩
  refine bind_eq_ok.2 ⟨.int (normalizedMode file), rfl, ?_⟩
  refine bind_eq_ok.2 ⟨_, hmode, ?_⟩
  refine bind_eq_ok.2 ⟨.str path, rfl, ?_⟩
  rw [head]
  simp only [String.append_assoc]
  rfl

theorem not_mem_sha256 {contents : Bytes} {c : Char} (h : isLowerHex c = false) : c ∉ (sha256 contents).toList := by
  intro hc
  have hall := (between_iff.1 (between_sha256 contents)).1 c hc
  exact absurd (hall.symm.trans h) (by decide)

theorem not_mem_size {n : ℕ} {c : Char} (h : c.isDigit = false) : c ∉ (toString n).toList := by
  intro hc
  have hdigit := Nat.isDigit_of_mem_toDigits (by decide) (by decide) (Nat.toList_repr ▸ hc)
  exact absurd (hdigit.symm.trans h) (by decide)

theorem eq_of_toString {n m : ℕ} (h : (toString n).toList = (toString m).toList) : n = m := by
  have digits : Nat.toDigits 10 n = Nat.toDigits 10 m := Nat.toList_repr.symm.trans (h.trans Nat.toList_repr)
  rw [← Nat.ofDigitChars_ten_toDigits (n := n), digits, Nat.ofDigitChars_ten_toDigits]

theorem toList_head (contents : Bytes) (executable : Bool) :
    (head contents executable).toList = (sha256 contents).toList ++ ' ' :: ((toString contents.length).toList ++
      ' ' :: ((if executable then "0755" else "0644").toList ++ ' ' :: [])) := by
  simp only [head, String.toList_append, show " ".toList = [' '] by decide, List.append_assoc, List.cons_append,
    List.nil_append]

/-- The line of a file says what its contents hash to, and its mode. -/
theorem head_cases {contents contents' : Bytes} {executable executable' : Bool} {rest rest' : List Char}
    (heq : (head contents executable).toList ++ rest = (head contents' executable').toList ++ rest') :
    sha256 contents = sha256 contents' ∧ contents.length = contents'.length ∧ executable = executable' := by
  have hmode (b : Bool) : ' ' ∉ (if b then "0755" else "0644").toList := by cases b <;> decide
  rw [toList_head, toList_head] at heq
  simp only [List.append_assoc, List.cons_append] at heq
  obtain ⟨hdigest, heq⟩ := Codes.Lines.cut_eq (not_mem_sha256 rfl) (not_mem_sha256 rfl) heq
  obtain ⟨hsize, heq⟩ := Codes.Lines.cut_eq (not_mem_size rfl) (not_mem_size rfl) heq
  obtain ⟨hmodes, -⟩ := Codes.Lines.cut_eq (hmode _) (hmode _) heq
  refine ⟨String.toList_injective hdigest, eq_of_toString hsize, ?_⟩
  cases executable <;> cases executable' <;> first | rfl | exact absurd hmodes (by decide)

theorem isHeads : Codes.Lines.IsHeads heads '\n' where
  separate := by
    rintro w ⟨contents, executable, rfl⟩ hmem
    have hmode : '\n' ∉ (if executable then "0755" else "0644").toList := by cases executable <;> decide
    rw [toList_head] at hmem
    simp only [List.mem_append, List.mem_cons, List.not_mem_nil, or_false] at hmem
    obtain h | h | h | h | h | h := hmem
    · exact not_mem_sha256 rfl h
    · exact absurd h (by decide)
    · exact not_mem_size rfl h
    · exact absurd h (by decide)
    · exact hmode h
    · exact absurd h (by decide)
  prefixFree := by
    rintro w ⟨contents, executable, rfl⟩ w' ⟨contents', executable', rfl⟩ rest rest' heq
    obtain ⟨hdigest, hsize, hmode⟩ := head_cases heq
    rw [head, head, hdigest, hsize, hmode]

/-! ## The text of a bundle -/

/-- The text of a path that can be encoded. -/
def pathText (file : BundleFile) : String := (encodable file.path).getD ""

def record (file : BundleFile) : List Char × List Char :=
  ((head file.contents file.executable).toList, (pathText file).toList)

theorem record_fst (file : BundleFile) : (record file).1 = (head file.contents file.executable).toList := by
  simp only [record]

theorem record_fst_mem (file : BundleFile) : (record file).1 ∈ heads := by
  rw [record_fst]
  exact ⟨_, _, rfl⟩

theorem record_snd (file : BundleFile) : (record file).2 = (pathText file).toList := by simp only [record]

/-- The records of the files, in the order of their paths. -/
def records (bundle : BundleFiles) : List (List Char × List Char) :=
  (bundle.files.insertionSort fun a b => pathText a ≤ pathText b).map record

variable {bundle : BundleFiles} {file : BundleFile}

theorem mem_records {r : List Char × List Char} : r ∈ records bundle ↔ ∃ file ∈ bundle.files, record file = r := by
  simp only [records, List.mem_map, List.mem_insertionSort]

theorem toList_split (p q : String) (contents : Bytes) (executable : Bool) :
    (p ++ "\n" ++ head contents executable ++ q).toList =
      p.toList ++ '\n' :: ((head contents executable).toList ++ q.toList) := by
  simp only [String.toList_append, show "\n".toList = ['\n'] by decide, List.append_assoc, List.cons_append,
    List.nil_append]

theorem splits_iff (h : encodable file.path = some text) :
    Splits file.path ↔ Codes.Lines.Splits heads '\n' (record file).2 := by
  rw [record, pathText, h, Option.getD_some]
  constructor
  · rintro ⟨p, q, contents, executable, hlt, hsplit⟩
    obtain rfl := Option.some.inj (h.symm.trans hsplit)
    exact ⟨p.toList, _, ⟨contents, executable, rfl⟩, q.toList, String.lt_iff_toList_lt.1 hlt, toList_split ..⟩
  · rintro ⟨p, w, ⟨contents, executable, rfl⟩, q, hlt, hsplit⟩
    refine ⟨.ofList p, .ofList q, contents, executable, ?_, ?_⟩
    · rw [String.lt_iff_toList_lt, String.toList_ofList, String.toList_ofList]
      exact hlt
    · rw [h, Option.some.injEq, ← String.toList_inj, toList_split, String.toList_ofList, String.toList_ofList]
      exact hsplit

theorem mapM_entry_iff {files : List BundleFile} {entries : List Json} : files.mapM entry = .ok entries ↔
    (∀ file ∈ files, file.path = nameOf (pathText file)) ∧
      entries = files.map fun file => entryUnder (pathText file) file := by
  induction files generalizing entries with
  | nil => simp [pure, Except.pure, eq_comm]
  | cons file files ih =>
    rw [List.mapM_cons, bind_eq_ok, List.forall_mem_cons, List.map_cons]
    constructor
    · rintro ⟨first, hfirst, h⟩
      obtain ⟨rest, hrest, h⟩ := bind_eq_ok.1 h
      obtain rfl := Except.ok.inj h
      obtain ⟨hnames, rfl⟩ := ih.1 hrest
      cases hname : encodable file.path with
      | none =>
        rw [entry, hname] at hfirst
        nomatch hfirst
      | some path =>
        rw [entry, hname] at hfirst
        have htext : pathText file = path := by rw [pathText, hname, Option.getD_some]
        rw [htext]
        exact ⟨⟨eq_nameOf hname, hnames⟩, by rw [Except.ok.inj hfirst]⟩
    · rintro ⟨⟨hname, hnames⟩, rfl⟩
      refine ⟨_, ?_, bind_eq_ok.2 ⟨_, ih.2 ⟨hnames, rfl⟩, rfl⟩⟩
      rw [entry, hname, encodable_nameOf]

theorem mapM_entryLine (files : List BundleFile) :
    (files.map fun file => entryUnder (pathText file) file).mapM entryLine = .ok (files.map fun file =>
      (pathText file, head file.contents file.executable ++ pathText file ++ "\n")) := by
  induction files with
  | nil => rfl
  | cons file files ih =>
    rw [List.map_cons, List.map_cons, List.mapM_cons, entryLine_entryUnder, ih]
    rfl

theorem toList_join (files : List BundleFile) :
    (String.join (files.map fun file => head file.contents file.executable ++ pathText file ++ "\n")).toList =
      Codes.Lines.text '\n' (files.map record) := by
  rw [String.toList_join, Codes.Lines.text, List.flatMap_map, List.flatMap_map]
  refine congrArg (files.flatMap ·) (funext fun file => ?_)
  rw [Codes.Lines.line, record, String.toList_append, String.toList_append, show "\n".toList = ['\n'] by decide,
    List.append_assoc]

/-- The hashed bytes are those of the lines of the records. -/
theorem entriesBytes_eq_ok {bytes : Bytes} : entriesBytes bundle = .ok bytes ↔
    (∀ file ∈ bundle.files, file.path = nameOf (pathText file)) ∧
      bytes = encodeUtf8 (.ofList (Codes.Lines.text '\n' (records bundle))) := by
  have hsorted (files : List BundleFile) : (files.map fun file =>
      (pathText file, head file.contents file.executable ++ pathText file ++ "\n")).insertionSort
        (fun a b => a.1 ≤ b.1) = (files.insertionSort fun a b => pathText a ≤ pathText b).map fun file =>
      (pathText file, head file.contents file.executable ++ pathText file ++ "\n") :=
    (List.map_insertionSort (fun a b : BundleFile => pathText a ≤ pathText b) (fun a b : String × String => a.1 ≤ b.1)
      _ files fun _ _ _ _ => Iff.rfl).symm
  have htext : canonicalText (bundle.files.map fun file => entryUnder (pathText file) file) =
      .ok (.ofList (Codes.Lines.text '\n' (records bundle))) := by
    rw [canonicalText, mapM_entryLine]
    change Except.ok (String.join ((List.insertionSort _ _).map Prod.snd)) = _
    rw [hsorted, List.map_map, ← String.ofList_toList (s := String.join _)]
    exact congrArg (fun cs => Except.ok (String.ofList cs)) (toList_join _)
  rw [entriesBytes, bind_eq_ok]
  constructor
  · rintro ⟨entries, hentries, h⟩
    obtain ⟨hnames, rfl⟩ := mapM_entry_iff.1 hentries
    rw [htext] at h
    exact ⟨hnames, (Except.ok.inj h).symm⟩
  · rintro ⟨hnames, rfl⟩
    refine ⟨_, mapM_entry_iff.2 ⟨hnames, rfl⟩, ?_⟩
    rw [htext]
    rfl

theorem sorted_records (hnames : ∀ file ∈ bundle.files, file.path = nameOf (pathText file)) :
    Codes.Lines.Sorted (records bundle) := by
  have hperm := List.perm_insertionSort (fun a b : BundleFile => pathText a ≤ pathText b) bundle.files
  have hdistinct : (bundle.files.map pathText).Nodup := by
    have h := bundle.distinct
    have hmap : bundle.files.map BundleFile.path = (bundle.files.map pathText).map nameOf := by
      rw [List.map_map]
      exact List.map_congr_left hnames
    rw [hmap] at h
    exact h.of_map nameOf
  have hdistinct' := (hperm.map pathText).nodup_iff.2 hdistinct
  have hordered := List.pairwise_insertionSort (fun a b : BundleFile => pathText a ≤ pathText b) bundle.files
  rw [Codes.Lines.Sorted, records, List.pairwise_map]
  refine (List.Pairwise.and hordered (List.pairwise_map.1 hdistinct')).imp fun h => ?_
  exact String.lt_iff_toList_lt.1 (lt_of_le_of_ne h.1 h.2)

theorem heads_of_mem_records : ∀ r ∈ records bundle, r.1 ∈ heads := by
  intro r hr
  obtain ⟨file, -, rfl⟩ := mem_records.1 hr
  exact record_fst_mem file

theorem not_splits_records (hnames : ∀ file ∈ bundle.files, file.path = nameOf (pathText file))
    (h : ∀ file ∈ bundle.files, ¬Splits file.path) : ∀ r ∈ records bundle, ¬Codes.Lines.Splits heads '\n' r.2 := by
  intro r hr
  obtain ⟨file, hfile, rfl⟩ := mem_records.1 hr
  have hname : encodable file.path = some (pathText file) := by rw [hnames file hfile, encodable_nameOf]
  exact fun hsplit => h file hfile ((splits_iff hname).2 hsplit)

variable {a b : BundleFiles}

/-- Bundles with the same records are of the same files, when no two of the contents collide. -/
theorem same_of_records (ha : ∀ file ∈ a.files, file.path = nameOf (pathText file))
    (hb : ∀ file ∈ b.files, file.path = nameOf (pathText file)) {texts : Set Bytes} (hinj : Set.InjOn sha256 texts)
    (hat : ∀ file ∈ a.files, file.contents ∈ texts) (hbt : ∀ file ∈ b.files, file.contents ∈ texts)
    (h : records a = records b) : ∀ file ∈ a.files, file ∈ b.files := by
  intro file hfile
  obtain ⟨file', hfile', heq⟩ := mem_records.1 (h ▸ mem_records.2 ⟨file, hfile, rfl⟩)
  obtain ⟨hheads, hpaths⟩ := Prod.ext_iff.1 heq
  rw [record_fst, record_fst] at hheads
  rw [record_snd, record_snd] at hpaths
  have hboth : (head file'.contents file'.executable).toList ++ [] = (head file.contents file.executable).toList ++ [] := by
    rw [hheads]
  have hhead := head_cases hboth
  have hpath : file'.path = file.path := by
    rw [hb file' hfile', ha file hfile, String.toList_injective hpaths]
  have hsame : file' = file := by
    have hcontents := hinj (hbt file' hfile') (hat file hfile) hhead.1
    cases file
    cases file'
    rw [BundleFile.mk.injEq]
    exact ⟨hpath, hcontents, hhead.2.2⟩
  exact hsame ▸ hfile'

theorem bundleDigest_eq (bundle : BundleFiles) : bundleDigest bundle = (entriesBytes bundle).map sha256 := by
  unfold bundleDigest entriesBytes
  cases bundle.files.mapM entry with
  | error e => rfl
  | ok entries =>
    change entriesSha256 entries = ((canonicalText entries).bind fun text => .ok (encodeUtf8 text)).map sha256
    rw [entriesSha256_eq]
    cases canonicalText entries <;> rfl

/-- The same files, with the same contents and modes. -/
def SameBundle (a b : BundleFiles) : Prop := ∀ file, file ∈ a.files ↔ file ∈ b.files

/-- The contents of the files. -/
def bundleContents (bundle : BundleFiles) : Set Bytes := {contents | ∃ file ∈ bundle.files, file.contents = contents}

/-- Bundles without splitting paths whose lines are the same have the same records. -/
theorem records_eq {bytes : Bytes} (ha : entriesBytes a = .ok bytes) (hb : entriesBytes b = .ok bytes)
    (hasplit : ∀ file ∈ a.files, ¬Splits file.path) (hbsplit : ∀ file ∈ b.files, ¬Splits file.path) :
    records a = records b := by
  obtain ⟨hanames, hatext⟩ := entriesBytes_eq_ok.1 ha
  obtain ⟨hbnames, hbtext⟩ := entriesBytes_eq_ok.1 hb
  have htext := String.ofList_injective (encodeUtf8_injective (hatext.symm.trans hbtext))
  exact Codes.Lines.eq_of_text isHeads (sorted_records hanames) (sorted_records hbnames) heads_of_mem_records
    heads_of_mem_records (not_splits_records hanames hasplit) (not_splits_records hbnames hbsplit) htext

/-- Bundles without splitting paths and with the same digest have the same files. -/
theorem bundle_separates {s t : Bytes} {texts : Set Bytes} (ha : entriesBytes a = .ok s) (hb : entriesBytes b = .ok t)
    (hinj : Set.InjOn sha256 texts) (hs : s ∈ texts) (ht : t ∈ texts) (hat : bundleContents a ⊆ texts)
    (hbt : bundleContents b ⊆ texts) (hdigest : bundleDigest a = bundleDigest b)
    (hasplit : ∀ file ∈ a.files, ¬Splits file.path) (hbsplit : ∀ file ∈ b.files, ¬Splits file.path) :
    SameBundle a b := by
  rw [bundleDigest_eq, bundleDigest_eq, ha, hb] at hdigest
  obtain rfl := hinj hs ht (Except.ok.inj hdigest)
  have hanames := (entriesBytes_eq_ok.1 ha).1
  have hbnames := (entriesBytes_eq_ok.1 hb).1
  have hrecords := records_eq ha hb hasplit hbsplit
  have hatexts : ∀ file ∈ a.files, file.contents ∈ texts := fun file hfile => hat ⟨file, hfile, rfl⟩
  have hbtexts : ∀ file ∈ b.files, file.contents ∈ texts := fun file hfile => hbt ⟨file, hfile, rfl⟩
  exact fun file => ⟨same_of_records hanames hbnames hinj hatexts hbtexts hrecords file,
    same_of_records hbnames hanames hinj hbtexts hatexts hrecords.symm file⟩

/-- A path without a line feed does not split. -/
theorem not_splits_of_notMem (h : '\n' ∉ text.toList) : ¬Splits (nameOf text) := by
  rintro ⟨p, q, contents, executable, -, hsplit⟩
  rw [encodable_nameOf, Option.some.injEq] at hsplit
  refine h ?_
  rw [hsplit, toList_split]
  exact List.mem_append_right _ List.mem_cons_self

/-- A bundle of one file -/
def single (file : BundleFile) : BundleFiles := ⟨[file], List.nodup_singleton _⟩

theorem mem_single {file file' : BundleFile} : file' ∈ (single file).files ↔ file' = file := List.mem_singleton

theorem records_single (file : BundleFile) : records (single file) = [record file] := rfl

/-- The two files that a file with a splitting path has the line of. -/
def pieces (p q : String) (hlt : p < q) (file : BundleFile) (contents : Bytes) (executable : Bool) : BundleFiles where
  files := [⟨nameOf p, file.contents, file.executable⟩, ⟨nameOf q, contents, executable⟩]
  distinct := by
    refine List.nodup_cons.2 ⟨fun h => hlt.ne ?_, List.nodup_singleton _⟩
    exact nameOf_injective (List.mem_singleton.1 h)

theorem pathText_nameOf (text : String) (contents : Bytes) (executable : Bool) :
    pathText ⟨nameOf text, contents, executable⟩ = text := by rw [pathText, encodable_nameOf, Option.getD_some]

theorem records_pieces {p q : String} (hlt : p < q) (contents : Bytes) (executable : Bool) :
    records (pieces p q hlt file contents executable) =
      [((head file.contents file.executable).toList, p.toList), ((head contents executable).toList, q.toList)] := by
  have hordered : (pieces p q hlt file contents executable).files.insertionSort (fun a b => pathText a ≤ pathText b) =
      (pieces p q hlt file contents executable).files := by
    refine List.Pairwise.insertionSort_eq (List.pairwise_pair.2 ?_)
    rw [pathText_nameOf, pathText_nameOf]
    exact hlt.le
  rw [records, hordered, pieces, List.map_cons, List.map_singleton]
  simp only [record, pathText_nameOf]

/-- The line of a file is that of a file of another path, or of several files, exactly when its path splits. -/
theorem single_iff {bytes : Bytes} (h : entriesBytes (single file) = .ok bytes) :
    (∀ b, entriesBytes b = .ok bytes → ∀ file' ∈ b.files, file'.path = file.path) ↔ ¬Splits file.path := by
  obtain ⟨hnames, htext⟩ := entriesBytes_eq_ok.1 h
  have hname : encodable file.path = some (pathText file) := by rw [hnames file (by simp [single]), encodable_nameOf]
  constructor
  · rintro hall ⟨p, q, contents, executable, hlt, hsplit⟩
    have hpath := hall (pieces p q hlt file contents executable) ?_ _ List.mem_cons_self
    · have hsame := congrArg encodable hpath
      rw [encodable_nameOf, hsplit] at hsame
      have hlength := congrArg String.length (Option.some.inj hsame)
      rw [String.length_append, String.length_append, String.length_append, show "\n".length = 1 by decide] at hlength
      omega
    · refine entriesBytes_eq_ok.2 ⟨?_, ?_⟩
      · intro file' hfile'
        obtain rfl | hfile' := List.mem_cons.1 hfile'
        · rw [pathText_nameOf]
        · obtain rfl := List.mem_singleton.1 hfile'
          rw [pathText_nameOf]
      · have hpathText : (pathText file).toList = p.toList ++ '\n' :: ((head contents executable).toList ++ q.toList) := by
          rw [Option.some.inj (hname.symm.trans hsplit), toList_split]
        rw [htext, records_single, records_pieces, record, hpathText, Codes.Lines.text_split]
  · intro hsplit b hb file' hfile'
    obtain ⟨hbnames, hbtext⟩ := entriesBytes_eq_ok.1 hb
    have hsame := String.ofList_injective (encodeUtf8_injective (hbtext.symm.trans htext))
    have hrecords : records b = [record file] := by
      refine Codes.Lines.eq_singleton_of_text isHeads (sorted_records hbnames) ?_ heads_of_mem_records ?_ hsame
      · exact record_fst_mem file
      · exact fun h => hsplit ((splits_iff hname).2 h)
    have hmem : record file' = record file :=
      List.mem_singleton.1 (hrecords ▸ mem_records.2 ⟨file', hfile', rfl⟩)
    have hpaths := congrArg Prod.snd hmem
    rw [record_snd, record_snd] at hpaths
    rw [hbnames file' hfile', eq_nameOf hname, String.toList_injective hpaths]

/-! ## The files of a tree -/

variable {items : List TreeItem} {path : FileName} {contents : Bytes}

def fileOf (item : TreeItem) : Option (FileName × Bytes) :=
  match item.found with
  | .file contents => some (item.path, contents)
  | _ => none

/-- The regular files among items. -/
def filesOf (items : List TreeItem) : List (FileName × Bytes) := items.filterMap fileOf

/-- The same paths have files, with the same contents. -/
def SameFiles (a b : List TreeItem) : Prop :=
  ∀ path contents, ⟨path, .file contents⟩ ∈ a ↔ ⟨path, .file contents⟩ ∈ b

/-- The contents of the files. -/
def treeContents (items : List TreeItem) : Set Bytes := {contents | ∃ path, ⟨path, .file contents⟩ ∈ items}

theorem mem_filesOf : (path, contents) ∈ filesOf items ↔ ⟨path, .file contents⟩ ∈ items := by
  rw [filesOf, List.mem_filterMap]
  constructor
  · rintro ⟨⟨path', found⟩, hitem, hfile⟩
    cases found with
    | file contents' =>
      obtain ⟨rfl, rfl⟩ := Prod.ext_iff.1 (Option.some.inj hfile)
      exact hitem
    | link toFile => nomatch hfile
    | other => nomatch hfile
  · exact fun hitem => ⟨_, hitem, rfl⟩

theorem mem_inOrder {item : TreeItem} : item ∈ inOrder items ↔ item ∈ items := List.mem_insertionSort _

/--
Files with the same keys are the same, when a key says the path and the digest of a file, and no two of the contents
collide.
-/
theorem sameFiles_of_keys {κ : Type} (key : FileName × Bytes → κ) {a b : List TreeItem} {texts : Set Bytes}
    (hinj : Set.InjOn sha256 texts) (ha : treeContents a ⊆ texts) (hb : treeContents b ⊆ texts)
    (hkey : ∀ file ∈ filesOf a, ∀ file' ∈ filesOf b, key file = key file' →
      file.1 = file'.1 ∧ sha256 file.2 = sha256 file'.2)
    (h : ∀ k, k ∈ (filesOf a).map key ↔ k ∈ (filesOf b).map key) : SameFiles a b := by
  intro path contents
  constructor
  · intro hfile
    obtain ⟨⟨path', contents'⟩, hfile', heq⟩ :=
      List.mem_map.1 ((h _).1 (List.mem_map_of_mem (mem_filesOf.2 hfile)))
    obtain ⟨rfl, hdigest⟩ := hkey _ (mem_filesOf.2 hfile) _ hfile' heq.symm
    have hsame := hinj (ha ⟨_, hfile⟩) (hb ⟨_, mem_filesOf.1 hfile'⟩) hdigest
    exact hsame ▸ mem_filesOf.1 hfile'
  · intro hfile
    obtain ⟨⟨path', contents'⟩, hfile', heq⟩ :=
      List.mem_map.1 ((h _).2 (List.mem_map_of_mem (mem_filesOf.2 hfile)))
    obtain ⟨rfl, hdigest⟩ := hkey _ hfile' _ (mem_filesOf.2 hfile) heq
    have hsame := hinj (ha ⟨_, mem_filesOf.1 hfile'⟩) (hb ⟨_, hfile⟩) hdigest
    exact hsame ▸ mem_filesOf.1 hfile'

/-! ## The manifest of a tree -/

theorem mapM_manifestFile {found : List (Option (FileName × Bytes))} (h : items.mapM manifestFile = .ok found) :
    found.reduceOption = filesOf items := by
  induction items generalizing found with
  | nil =>
    obtain rfl := Except.ok.inj h
    rfl
  | cons item items ih =>
    rw [List.mapM_cons] at h
    obtain ⟨first, hfirst, h⟩ := bind_eq_ok.1 h
    obtain ⟨rest, hrest, h⟩ := bind_eq_ok.1 h
    obtain rfl := Except.ok.inj h
    obtain ⟨path, found⟩ := item
    cases found with
    | file contents =>
      obtain rfl := Except.ok.inj hfirst
      rw [List.reduceOption_cons_of_some, ih hrest]
      rfl
    | link toFile => nomatch hfirst
    | other =>
      obtain rfl := Except.ok.inj hfirst
      rw [List.reduceOption_cons_of_none, ih hrest]
      rfl

def recordOf (file : FileName × Bytes) : Json := recordUnder ((encodable file.1).getD "") file

theorem mapM_manifestRecord {files : List (FileName × Bytes)} {values : List Json}
    (h : files.mapM manifestRecord = .ok values) : values = files.map recordOf ∧
      ∀ file ∈ files, file.1 = nameOf ((encodable file.1).getD "") ∧ printable (recordOf file) = true := by
  induction files generalizing values with
  | nil =>
    obtain rfl := Except.ok.inj h
    exact ⟨rfl, nofun⟩
  | cons file files ih =>
    rw [List.mapM_cons] at h
    obtain ⟨first, hfirst, h⟩ := bind_eq_ok.1 h
    obtain ⟨rest, hrest, h⟩ := bind_eq_ok.1 h
    obtain rfl := Except.ok.inj h
    obtain ⟨rfl, hfiles⟩ := ih hrest
    cases hname : encodable file.1 with
    | none =>
      rw [manifestRecord, hname] at hfirst
      nomatch hfirst
    | some path =>
      rw [manifestRecord, hname] at hfirst
      obtain ⟨_, hprints, hfirst⟩ := bind_eq_ok.1 hfirst
      have hprints := Bool.not_eq_false _ ▸ raiseIf_eq_ok.1 hprints
      have hrecord : recordOf file = recordUnder path file := by rw [recordOf, hname, Option.getD_some]
      rw [List.map_cons, hrecord, ← Except.ok.inj hfirst]
      refine ⟨rfl, List.forall_mem_cons.2 ⟨⟨?_, ?_⟩, hfiles⟩⟩
      · rw [hname]
        exact eq_nameOf hname
      · rw [hrecord]
        exact hprints

theorem get_canonical {d d' : Dict} (h : canonical (.obj d) = canonical (.obj d')) (key : String) :
    (d.get key).map canonical = (d'.get key).map canonical := by
  have hget (d : Dict) : Dict.get (Dict.sorted (canonicalFields d)) key = (d.get key).map canonical := by
    rw [Dict.get_sorted, canonicalFields_eq_map, Dict.get_mapValues d (fun _ v => canonical v) key]
  rw [← hget d, ← hget d']
  exact congrArg (Dict.get · key) (Json.obj.inj h)

theorem recordOf_cases {file file' : FileName × Bytes} (h : canonical (recordOf file) = canonical (recordOf file')) :
    (encodable file.1).getD "" = (encodable file'.1).getD "" ∧ sha256 file.2 = sha256 file'.2 :=
  ⟨Json.str.inj (Option.some.inj (get_canonical h "path")), Json.str.inj (Option.some.inj (get_canonical h "sha256"))⟩

theorem plain_manifestValue {files : List (FileName × Bytes)} (h : ∀ file ∈ files, printable (recordOf file) = true) :
    plain (manifestValue (files.map recordOf)) = true := by
  have hkeys : ["path", "bytes", "sha256"].Nodup ∧ ["schemaVersion", "algorithm", "files"].Nodup := by decide
  refine plain_obj_iff.2 ⟨hkeys.2, ?_⟩
  intro field hfield
  simp only [List.mem_cons, List.not_mem_nil, or_false] at hfield
  obtain rfl | rfl | rfl := hfield
  · decide
  · decide
  · refine plain_arr_iff.2 fun v hv => ?_
    obtain ⟨file, hfile, rfl⟩ := List.mem_map.1 hv
    rw [plain, h file hfile, Bool.and_true, recordOf, recordUnder, simple, Bool.and_eq_true, decide_eq_true_eq]
    exact ⟨hkeys.1, by simp only [simpleFields, simple, Bool.and_self]⟩

/-- What a manifest with a digest is of. -/
theorem treeManifest_some {value : Json} {digest : String} (h : treeManifest (some items) = .ok (value, digest)) :
    value = manifestValue ((filesOf (inOrder items)).map recordOf) ∧ digest = sha256 (canonicalBytes value) ∧
      ∀ file ∈ filesOf (inOrder items), file.1 = nameOf ((encodable file.1).getD "") ∧
        printable (recordOf file) = true := by
  obtain ⟨found, hfound, h⟩ := bind_eq_ok.1 h
  obtain ⟨files, hfiles, h⟩ := bind_eq_ok.1 h
  rw [mapM_manifestFile hfound] at hfiles
  obtain ⟨rfl, hall⟩ := mapM_manifestRecord hfiles
  obtain ⟨rfl, rfl⟩ := Prod.ext_iff.1 (Except.ok.inj h)
  exact ⟨rfl, rfl, hall⟩

/-- Trees whose manifests have the same digest have the same files. -/
theorem manifest_separates {a b : List TreeItem} {v w : Json} {digest : String} {texts : Set Bytes}
    (ha : treeManifest (some a) = .ok (v, digest)) (hb : treeManifest (some b) = .ok (w, digest))
    (hinj : Set.InjOn sha256 texts) (hv : canonicalBytes v ∈ texts) (hw : canonicalBytes w ∈ texts)
    (hat : treeContents a ⊆ texts) (hbt : treeContents b ⊆ texts) : SameFiles a b := by
  obtain ⟨rfl, hadigest, hafiles⟩ := treeManifest_some ha
  obtain ⟨rfl, hbdigest, hbfiles⟩ := treeManifest_some hb
  have hbytes := hinj hv hw (hadigest.symm.trans hbdigest)
  have htexts := (String.append_left_inj _).1 (encodeUtf8_injective hbytes)
  have hvalues := canonical_eq_of_dumps false (plain_manifestValue fun file hfile => (hafiles file hfile).2)
    (plain_manifestValue fun file hfile => (hbfiles file hfile).2) htexts
  have hrecords : ((filesOf (inOrder a)).map recordOf).map canonical = ((filesOf (inOrder b)).map recordOf).map canonical := by
    have hfiles := Option.some.inj (get_canonical hvalues "files")
    rw [canonical, canonical, canonicalItems_eq_map, canonicalItems_eq_map] at hfiles
    exact Json.arr.inj hfiles
  have hfilesOf (items : List TreeItem) : ∀ file, file ∈ filesOf (inOrder items) ↔ file ∈ filesOf items := fun file => by
    rw [mem_filesOf, mem_filesOf, mem_inOrder]
  refine sameFiles_of_keys (fun file => canonical (recordOf file)) hinj hat hbt ?_ ?_
  · intro file hfile file' hfile' heq
    obtain ⟨hpath, hdigest⟩ := recordOf_cases heq
    refine ⟨?_, hdigest⟩
    rw [(hafiles file ((hfilesOf a file).2 hfile)).1, hpath, ← (hbfiles file' ((hfilesOf b file').2 hfile')).1]
  · intro k
    have hmem (items : List TreeItem) : k ∈ (filesOf items).map (fun file => canonical (recordOf file)) ↔
        k ∈ ((filesOf (inOrder items)).map recordOf).map canonical := by
      simp only [List.map_map, List.mem_map, hfilesOf, Function.comp_apply]
    rw [hmem a, hmem b, hrecords]

/-! ## The records of a tree -/

/-- What the record of a file says: its encoded path, its size and its digest. -/
def treeKey (file : FileName × Bytes) : Bytes × ℕ × Bytes :=
  (encodeUtf8 ((encodable file.1).getD ""), file.2.length, fromHex (sha256 file.2).toList)

/-- The bytes of a record. -/
def TreeWord (key : Bytes × ℕ × Bytes) (word : Bytes) : Prop :=
  key.1.length < 256 ^ 4 ∧ key.2.1 < 256 ^ 8 ∧ key.2.2.length = 32 ∧
    word = toBig 4 key.1.length ++ (key.1 ++ (toBig 8 key.2.1 ++ key.2.2))

theorem selfDelimiting_treeWord : Codes.SelfDelimiting TreeWord := by
  rintro ⟨name, size, digest⟩ word ⟨name', size', digest'⟩ word' rest rest'
  rintro ⟨hname, hsize, hdigest, rfl⟩ ⟨hname', hsize', hdigest', rfl⟩ heq
  simp only [List.append_assoc] at heq hname hsize hdigest hname' hsize' hdigest'
  obtain ⟨hlength, hafterLength⟩ := List.append_inj heq (by rw [length_toBig, length_toBig])
  obtain ⟨hnames, hafterName⟩ := List.append_inj hafterLength (toBig_injective hname hname' hlength)
  obtain ⟨hsizes, hafterSize⟩ := List.append_inj hafterName (by rw [length_toBig, length_toBig])
  obtain ⟨hdigests, hrest⟩ := List.append_inj hafterSize (hdigest.trans hdigest'.symm)
  rw [hnames, toBig_injective hsize hsize' hsizes, hdigests]
  exact ⟨rfl, hrest⟩

theorem treeWord_ne_nil (key : Bytes × ℕ × Bytes) : ¬TreeWord key [] := by
  rintro ⟨-, -, -, h⟩
  have hlength := congrArg List.length h
  rw [List.length_append, length_toBig, List.length_nil] at hlength
  omega

theorem length_digest (contents : Bytes) : (fromHex (sha256 contents).toList).length = 32 := by
  have h := (between_iff.1 (between_sha256 contents)).2
  rw [length_fromHex]
  omega

theorem fromHex_sha256_injective {contents contents' : Bytes}
    (h : fromHex (sha256 contents).toList = fromHex (sha256 contents').toList) : sha256 contents = sha256 contents' := by
  have hback (contents : Bytes) : (hex (fromHex (sha256 contents).toList)).toList = (sha256 contents).toList := by
    obtain ⟨hdigits, hlength⟩ := between_iff.1 (between_sha256 contents)
    exact hex_fromHex hdigits (by omega)
  rw [← String.toList_inj, ← hback contents, h, hback contents']

theorem toBytes_eq_ok {width n : ℕ} {bytes : Bytes} :
    toBytes width n = .ok bytes ↔ n < 256 ^ width ∧ bytes = toBig width n := by
  unfold toBytes
  by_cases h : n < 256 ^ width
  · rw [if_pos h]
    exact ⟨fun hok => ⟨h, (Except.ok.inj hok).symm⟩, fun hok => by rw [hok.2]⟩
  · rw [if_neg h]
    exact ⟨nofun, fun hok => absurd hok.1 h⟩

/-- What an item with a record is. -/
theorem treeRecord_eq_ok {root : String} {item : TreeItem} {r : Bytes × ℕ × ℕ} (h : treeRecord root item = .ok r) :
    ∃ contents, item = ⟨nameOf ((encodable item.path).getD ""), .file contents⟩ ∧
      TreeWord (treeKey (item.path, contents)) r.1 := by
  obtain ⟨path, found⟩ := item
  unfold treeRecord at h
  cases found with
  | link toFile => nomatch h
  | other => cases encodable path <;> nomatch h
  | file contents =>
    cases hname : encodable path with
    | none =>
      simp only [hname] at h
      nomatch h
    | some text =>
      simp only [hname] at h
      obtain ⟨nameLength, hlength, h⟩ := bind_eq_ok.1 h
      obtain ⟨size, hsize, h⟩ := bind_eq_ok.1 h
      obtain rfl := Except.ok.inj h
      obtain ⟨hshort, rfl⟩ := toBytes_eq_ok.1 hlength
      obtain ⟨hsmall, rfl⟩ := toBytes_eq_ok.1 hsize
      refine ⟨contents, ?_, ?_⟩
      · rw [Option.getD_some, ← eq_nameOf hname]
      · rw [treeKey, hname, Option.getD_some]
        exact ⟨hshort, hsmall, length_digest contents, rfl⟩

theorem mapM_treeRecord {root : String} {records : List (Bytes × ℕ × ℕ)}
    (h : items.mapM (treeRecord root) = .ok records) :
    List.Forall₂ TreeWord ((filesOf items).map treeKey) (records.map Prod.fst) ∧
      ∀ file ∈ filesOf items, file.1 = nameOf ((encodable file.1).getD "") := by
  induction items generalizing records with
  | nil =>
    obtain rfl := Except.ok.inj h
    exact ⟨.nil, nofun⟩
  | cons item items ih =>
    rw [List.mapM_cons] at h
    obtain ⟨first, hfirst, h⟩ := bind_eq_ok.1 h
    obtain ⟨rest, hrest, h⟩ := bind_eq_ok.1 h
    obtain rfl := Except.ok.inj h
    obtain ⟨hwords, hnames⟩ := ih hrest
    obtain ⟨contents, hitem, hword⟩ := treeRecord_eq_ok hfirst
    have hfile : filesOf (item :: items) = (item.path, contents) :: filesOf items := by
      rw [hitem]
      rfl
    rw [hfile, List.map_cons, List.map_cons, List.forall_mem_cons]
    exact ⟨.cons hword hwords, congrArg TreeItem.path hitem, hnames⟩

/-- Trees with the same digest have the same files. -/
theorem tree_separates {root root' : String} {a b : List TreeItem} {s t : Bytes × ℕ × ℕ} {texts : Set Bytes}
    (ha : treeBytes root a = .ok s) (hb : treeBytes root' b = .ok t) (hdigest : sha256 s.1 = sha256 t.1)
    (hinj : Set.InjOn sha256 texts) (hs : s.1 ∈ texts) (ht : t.1 ∈ texts)
    (hat : treeContents a ⊆ texts) (hbt : treeContents b ⊆ texts) : SameFiles a b := by
  obtain ⟨arecords, harecords, ha⟩ := bind_eq_ok.1 ha
  obtain ⟨brecords, hbrecords, hb⟩ := bind_eq_ok.1 hb
  obtain ⟨hawords, hanames⟩ := mapM_treeRecord harecords
  obtain ⟨hbwords, hbnames⟩ := mapM_treeRecord hbrecords
  have hbytes : (arecords.map Prod.fst).flatten = (brecords.map Prod.fst).flatten := by
    have hsame := hinj hs ht hdigest
    rw [← Except.ok.inj ha, ← Except.ok.inj hb] at hsame
    rw [← List.flatMap_def, ← List.flatMap_def]
    exact hsame
  have hkeys := selfDelimiting_treeWord.flatten_injective treeWord_ne_nil hawords hbwords hbytes
  have hfilesOf (items : List TreeItem) (file : FileName × Bytes) :
      file ∈ filesOf (inOrder (items.filter fun item => item.found.isFile)) ↔ file ∈ filesOf items := by
    rw [mem_filesOf, mem_filesOf, mem_inOrder, List.mem_filter]
    exact and_iff_left rfl
  refine sameFiles_of_keys treeKey hinj hat hbt ?_ ?_
  · intro file hfile file' hfile' heq
    obtain ⟨hpath, -, hdigests⟩ := Prod.ext_iff.1 heq |>.imp_right Prod.ext_iff.1
    refine ⟨?_, fromHex_sha256_injective hdigests⟩
    rw [hanames file ((hfilesOf a file).2 hfile), encodeUtf8_injective hpath, ← hbnames file' ((hfilesOf b file').2 hfile')]
  · intro k
    have hmem (items : List TreeItem) : k ∈ (filesOf items).map treeKey ↔
        k ∈ (filesOf (inOrder (items.filter fun item => item.found.isFile))).map treeKey := by
      simp only [List.mem_map, hfilesOf]
    rw [hmem a, hmem b, hkeys]

/-! ## The digests -/

/--
Two bundles none of whose paths splits, two object archives, and two trees of artifacts with the same digest have the
same files, when SHA-256 does not collide on what it hashes for them.  The line of a file in a bundle is that of a file
of another path, or of several files, exactly when its path splits.
-/
theorem digests_separate (a b : BundleFiles) (x y : List TreeItem) :
    (∀ s t : Bytes, entriesBytes a = .ok s → entriesBytes b = .ok t →
      Set.InjOn sha256 ({s, t} ∪ (bundleContents a ∪ bundleContents b)) → bundleDigest a = bundleDigest b →
      (∀ file ∈ a.files ++ b.files, ¬Splits file.path) → SameBundle a b) ∧
    (∀ (file : BundleFile) (bytes : Bytes), entriesBytes (single file) = .ok bytes →
      ((∀ b, entriesBytes b = .ok bytes → ∀ file' ∈ b.files, file'.path = file.path) ↔ ¬Splits file.path)) ∧
    (∀ (v w : Json) (digest : String), treeManifest (some x) = .ok (v, digest) → treeManifest (some y) = .ok (w, digest) →
      Set.InjOn sha256 ({canonicalBytes v, canonicalBytes w} ∪ (treeContents x ∪ treeContents y)) → SameFiles x y) ∧
    (∀ (root root' : String) (s t : Bytes × ℕ × ℕ), treeBytes root x = .ok s → treeBytes root' y = .ok t →
      Set.InjOn sha256 ({s.1, t.1} ∪ (treeContents x ∪ treeContents y)) →
      (sha256Tree root x).map Prod.fst = (sha256Tree root' y).map Prod.fst → SameFiles x y) := by
  refine ⟨?_, fun file bytes h => single_iff h, ?_, ?_⟩
  · intro s t ha hb hinj hdigest hsplit
    rw [List.forall_mem_append] at hsplit
    exact bundle_separates ha hb hinj (.inl (.inl rfl)) (.inl (.inr rfl))
      (Set.subset_union_left.trans Set.subset_union_right) (Set.subset_union_right.trans Set.subset_union_right)
      hdigest hsplit.1 hsplit.2
  · intro v w digest ha hb hinj
    exact manifest_separates ha hb hinj (.inl (.inl rfl)) (.inl (.inr rfl))
      (Set.subset_union_left.trans Set.subset_union_right) (Set.subset_union_right.trans Set.subset_union_right)
  · intro root root' s t ha hb hinj hdigest
    have hdigests : sha256 s.1 = sha256 t.1 := by
      rw [sha256Tree, sha256Tree, ha, hb] at hdigest
      exact Except.ok.inj hdigest
    exact tree_separates ha hb hdigests hinj (.inl (.inl rfl)) (.inl (.inr rfl))
      (Set.subset_union_left.trans Set.subset_union_right) (Set.subset_union_right.trans Set.subset_union_right)

/-! ## A name of two lines -/

namespace TwoLines

/-- The empty files `a` and `b`. -/
def two : BundleFiles := pieces "a" "b" (by decide) ⟨nameOf "a", [], false⟩ [] false

/-- The same files, listed the other way round. -/
def reversed : BundleFiles := ⟨two.files.reverse, by decide⟩

/-- An empty file whose name is `a`, a line feed and the line of an empty file `b`. -/
def one : BundleFiles := single ⟨nameOf ("a" ++ "\n" ++ head [] false ++ "b"), [], false⟩

/-- The lines of the empty files `a` and `b`. -/
def lines : Bytes := encodeUtf8 (head [] false ++ "a" ++ "\n" ++ (head [] false ++ "b" ++ "\n"))

theorem names_two : ∀ file ∈ two.files, file.path = nameOf (pathText file) := by decide

theorem names_reversed : ∀ file ∈ reversed.files, file.path = nameOf (pathText file) := by decide

theorem entriesBytes_two : entriesBytes two = .ok lines := by
  refine entriesBytes_eq_ok.2 ⟨names_two, ?_⟩
  rw [two, records_pieces, lines, Codes.Lines.text_cons, Codes.Lines.text_cons]
  refine congrArg encodeUtf8 (String.toList_inj.1 ?_)
  simp only [String.toList_append, String.toList_ofList, show "\n".toList = ['\n'] by decide, List.append_assoc,
    List.singleton_append]
  rfl

theorem entriesBytes_reversed : entriesBytes reversed = .ok lines := by
  have hrecords : records reversed = records two := by
    have hfiles : reversed.files.insertionSort (fun a b => pathText a ≤ pathText b) =
        two.files.insertionSort (fun a b => pathText a ≤ pathText b) := by decide
    rw [records, records, hfiles]
  refine entriesBytes_eq_ok.2 ⟨names_reversed, ?_⟩
  rw [hrecords]
  exact (entriesBytes_eq_ok.1 entriesBytes_two).2

theorem entriesBytes_one : entriesBytes one = .ok lines := by
  refine entriesBytes_eq_ok.2 ⟨fun file hfile => ?_, ?_⟩
  · rw [mem_single.1 hfile, pathText_nameOf]
  · have htwo := (entriesBytes_eq_ok.1 entriesBytes_two).2
    rw [two, records_pieces] at htwo
    rw [one, records_single, record, pathText_nameOf, toList_split, Codes.Lines.text_split]
    exact htwo

theorem sha256_lines_ne : sha256 lines ≠ sha256 [] := by decide +kernel

/-- SHA-256 does not collide on the lines of empty files and the contents of the files. -/
theorem injOn_texts {x y : BundleFiles} {s : Bytes} (hs : sha256 s ≠ sha256 []) (hx : ∀ file ∈ x.files, file.contents = [])
    (hy : ∀ file ∈ y.files, file.contents = []) :
    Set.InjOn sha256 ({s, s} ∪ (bundleContents x ∪ bundleContents y)) := by
  have htexts : ∀ text ∈ ({s, s} ∪ (bundleContents x ∪ bundleContents y) : Set Bytes), text = s ∨ text = [] := by
    rintro text ((rfl | rfl) | (⟨file, hfile, rfl⟩ | ⟨file, hfile, rfl⟩))
    · exact .inl rfl
    · exact .inl rfl
    · exact .inr (hx file hfile)
    · exact .inr (hy file hfile)
  intro text htext text' htext' heq
  obtain h | h := htexts text htext <;> obtain h' | h' := htexts text' htext' <;> rw [h, h'] at heq ⊢
  · exact absurd heq hs
  · exact absurd heq.symm hs

/-- The empty files `a` and `b` are recognised in whatever order they are listed. -/
theorem digests_separate_reversed : SameBundle two reversed := by
  refine (digests_separate two reversed [] []).1 lines lines entriesBytes_two entriesBytes_reversed
    (injOn_texts sha256_lines_ne (by decide) (by decide)) ?_ ?_
  · rw [bundleDigest_eq, bundleDigest_eq, entriesBytes_two, entriesBytes_reversed]
  · intro file hfile
    have hname : file.path = nameOf "a" ∨ file.path = nameOf "b" := by
      revert file
      decide
    obtain h | h := hname
    · rw [h]
      exact not_splits_of_notMem (by decide)
    · rw [h]
      exact not_splits_of_notMem (by decide)

/-- One file and two files have the same digest. -/
theorem entriesSha256_of_two_lines :
    entriesBytes one = .ok lines ∧ entriesBytes two = .ok lines ∧
      Set.InjOn sha256 ({lines, lines} ∪ (bundleContents one ∪ bundleContents two)) ∧
      bundleDigest one = bundleDigest two ∧ ¬SameBundle one two := by
  have hone : ∀ file ∈ one.files, file = ⟨nameOf ("a" ++ "\n" ++ head [] false ++ "b"), [], false⟩ := fun file hfile =>
    mem_single.1 hfile
  refine ⟨entriesBytes_one, entriesBytes_two, injOn_texts sha256_lines_ne ?_ (by decide), ?_, fun h => ?_⟩
  · intro file hfile
    rw [hone file hfile]
  · rw [bundleDigest_eq, bundleDigest_eq, entriesBytes_one, entriesBytes_two]
  · have htwo : (⟨nameOf "a", [], false⟩ : BundleFile) ∈ two.files := by decide
    have hfile := hone _ ((h _).2 htwo)
    rw [BundleFile.mk.injEq] at hfile
    have hlength := congrArg String.length (nameOf_injective hfile.1)
    rw [String.length_append, String.length_append, String.length_append, show "\n".length = 1 by decide] at hlength
    omega

end TwoLines

end Zkdeal.TreeDigests
