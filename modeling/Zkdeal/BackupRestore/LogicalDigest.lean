import Mathlib.Data.List.DropRight
import Mathlib.Logic.Relation
import Zkdeal.BackupRestore.Control
import Zkdeal.Python.Lines

/-!
# The logical database digest

The controller compares databases by the hash of their plain dumps, after `normalized_dump` has taken the
versions and keys of `pg_dump` out of them.  That looks at lines only, so it also takes things out of the rows:
two dumps have one digest exactly when a series of such edits makes one from the other
(`logical_digest_separates_iff`).
-/

namespace Zkdeal.BackupRestore

open Python

/-! ## Source -/

/-- `line.rstrip()` -/
def rstrip (line : String) : String := .ofList (line.toList.rdropWhile isSpace)

/-- The beginnings of the lines that `normalized_dump` leaves out. -/
def metadataStarts : List String :=
  ["-- Dumped from database version", "-- Dumped by pg_dump version", "\\restrict ", "\\unrestrict "]

def isMetadata (line : String) : Bool := metadataStarts.any fun start => start.toList.isPrefixOf line.toList

/-- `output` in `normalized_dump` -/
def keptLines (lines : List String) : List String := (lines.filter fun line => !isMetadata line).map rstrip

/-- `normalized_dump(path)` of a file with the bytes `raw`, where they are UTF-8 -/
def normalizedDump (raw : Bytes) : Option Bytes := do
  let text ← readText raw
  let output := keptLines (splitlines text)
  return encodeUtf8 (.ofList (['\n'].intercalate (output.map String.toList)) ++ "\n")

/-- The result of `logical_dump` where `pg_dump` writes `raw`. -/
def logicalDump (hash : Bytes → String) (raw : Bytes) : Option String := (normalizedDump raw).map hash

/-- `hashes_verified` in `_restore` -/
def hashesVerified (sourceDatabase restoredDatabase sourceObject restoredObject : String) : Bool :=
  isSha256 sourceDatabase && isSha256 sourceObject && restoredDatabase == sourceDatabase && restoredObject == sourceObject

/-! ## Dumps -/

/-- What `pg_dump` writes about itself. -/
inductive OwnLine : Type where
  | databaseVersion (version : String)
  | dumpVersion (version : String)
  | restrict (key : String)
  | unrestrict (key : String)

def OwnLine.text : OwnLine → String
  | .databaseVersion version => "-- Dumped from database version" ++ (" " ++ version)
  | .dumpVersion version => "-- Dumped by pg_dump version" ++ (" " ++ version)
  | .restrict key => "\\restrict " ++ key
  | .unrestrict key => "\\unrestrict " ++ key

/-- A part of a dump: a line of `pg_dump` about itself, or other lines, of schema and rows. -/
inductive Piece : Type where
  | own (line : { line : OwnLine // Plain line.text.toList })
  | text (lines : String)

/-- The title of a plain dump. -/
def title : String := "--" ++ ("\n-- PostgreSQL database dump\n--\n" ++ "\n")

def Piece.chars : Piece → List Char
  | .own line => line.1.text.toList ++ ['\n']
  | .text lines => lines.toList ++ ['\n']

/-- The bytes of a dump. -/
def dumpBytes (pieces : List Piece) : Bytes := encodeChars (title.toList ++ pieces.flatMap Piece.chars)

/-- A dump without the lines of `pg_dump` about itself. -/
def contents (pieces : List Piece) : List Char :=
  pieces.flatMap fun piece =>
    match piece with
    | .own _ => []
    | .text lines => lines.toList ++ ['\n']

/-! ## Edits -/

/-- The changes of one line that `normalized_dump` does not see. -/
inductive Edit : List Char → List Char → Prop
  /-- Another way to end the line. -/
  | lineEnd {front line stop rest : List Char} (hfront : Whole front) (hline : Plain line) (hstop : LineEnd stop rest) :
    Edit (front ++ (line ++ (stop ++ rest))) (front ++ (line ++ '\n' :: rest))
  /-- One blank less at the end of the line. -/
  | blank {front line rest : List Char} {blank : Char} (hfront : Whole front) (hline : Plain (line ++ [blank]))
    (hblank : isSpace blank = true) (hkept : isMetadata (.ofList (line ++ [blank])) = false) :
    Edit (front ++ (line ++ blank :: '\n' :: rest)) (front ++ (line ++ '\n' :: rest))
  /-- No line that begins like one of `pg_dump` about itself. -/
  | metadata {front line rest : List Char} (hfront : Whole front) (hline : Plain line)
    (hdropped : isMetadata (.ofList line) = true) :
    Edit (front ++ (line ++ '\n' :: rest)) (front ++ rest)

/-- One text is made from the other by edits of lines, in either direction. -/
def SameUpToEdits : List Char → List Char → Prop := Relation.EqvGen Edit

/-- The lines of a text that are kept. -/
def kept (text : List Char) : List String := keptLines (splitlinesAux [] text)

theorem kept_whole {front : List Char} (h : Whole front) (rest : List Char) : kept (front ++ rest) = kept front ++ kept rest := by
  rw [kept, splitlinesAux_whole h, keptLines, List.filter_append, List.map_append]
  rfl

theorem kept_line {line stop rest : List Char} (hline : Plain line) (hstop : LineEnd stop rest) :
    kept (line ++ (stop ++ rest)) = keptLines [.ofList line] ++ kept rest := by
  rw [kept, splitlinesAux_line hline hstop, ← List.singleton_append, keptLines, List.filter_append, List.map_append]
  rfl

theorem kept_newline {line : List Char} (hline : Plain line) (rest : List Char) :
    kept (line ++ '\n' :: rest) = keptLines [.ofList line] ++ kept rest := kept_line hline (lineEnd_newline rest)

theorem keptLines_metadata {line : String} (h : isMetadata line = true) : keptLines [line] = [] := by
  simp [keptLines, h]

theorem keptLines_kept {line : String} (h : isMetadata line = false) : keptLines [line] = [rstrip line] := by
  simp [keptLines, h]

theorem isMetadata_of_append {line tail : List Char} (h : isMetadata (.ofList (line ++ tail)) = false) :
    isMetadata (.ofList line) = false := by
  by_contra hmetadata
  rw [Bool.not_eq_false, isMetadata, List.any_eq_true] at hmetadata
  obtain ⟨start, hstart, hbegins⟩ := hmetadata
  have hlonger : isMetadata (.ofList (line ++ tail)) = true := by
    rw [isMetadata, List.any_eq_true]
    refine ⟨start, hstart, ?_⟩
    rw [String.toList_ofList, List.isPrefixOf_iff_prefix] at hbegins ⊢
    exact hbegins.trans (List.prefix_append line tail)
  rw [hlonger] at h
  cases h

/-- An edit changes nothing that is kept. -/
theorem kept_edit {text text' : List Char} (h : Edit text text') : kept text = kept text' := by
  cases h with
  | lineEnd hfront hline hstop => rw [kept_whole hfront, kept_whole hfront, kept_line hline hstop, kept_newline hline]
  | @blank front line rest blank hfront hline hblank hkept =>
    have hline' : Plain line := fun c hc => hline c (List.mem_append_left _ hc)
    have hstripped : rstrip (.ofList (line ++ [blank])) = rstrip (.ofList line) := by
      rw [rstrip, rstrip, String.toList_ofList, String.toList_ofList, List.rdropWhile_concat_pos _ _ _ hblank]
    have hmove : line ++ blank :: '\n' :: rest = (line ++ [blank]) ++ '\n' :: rest := by simp
    rw [kept_whole hfront, kept_whole hfront, hmove, kept_newline hline, kept_newline hline', keptLines_kept hkept,
      keptLines_kept (isMetadata_of_append hkept), hstripped]
  | metadata hfront hline hdropped =>
    rw [kept_whole hfront, kept_whole hfront, kept_newline hline, keptLines_metadata hdropped, List.nil_append]

theorem kept_sameUpToEdits {text text' : List Char} (h : SameUpToEdits text text') : kept text = kept text' := by
  induction h with
  | rel _ _ h => exact kept_edit h
  | refl _ => rfl
  | symm _ _ _ ih => exact ih.symm
  | trans _ _ _ _ _ ih ih' => exact ih.trans ih'

/-! ### Normal forms -/

theorem plain_rdropWhile {line : List Char} (h : Plain line) (p : Char → Bool) : Plain (line.rdropWhile p) :=
  fun c hc => h c ((List.rdropWhile_prefix p line).subset hc)

/-- A line that is kept loses its blanks one by one. -/
theorem edits_rstrip {front line : List Char} (hfront : Whole front) (hline : Plain line)
    (hkept : isMetadata (.ofList line) = false) (rest : List Char) :
    SameUpToEdits (front ++ (line ++ '\n' :: rest)) (front ++ (line.rdropWhile isSpace ++ '\n' :: rest)) := by
  induction line using List.reverseRecOn with
  | nil => exact .refl _
  | append_singleton line blank ih =>
    by_cases hblank : isSpace blank = true
    · have hline' : Plain line := fun c hc => hline c (List.mem_append_left _ hc)
      have hedit : Edit (front ++ (line ++ blank :: '\n' :: rest)) (front ++ (line ++ '\n' :: rest)) :=
        .blank hfront hline hblank hkept
      rw [List.rdropWhile_concat_pos _ _ _ hblank, List.append_assoc line]
      exact .trans _ _ _ (.rel _ _ hedit) (ih hline' (isMetadata_of_append hkept))
    · rw [List.rdropWhile_concat_neg _ _ _ hblank]
      exact .refl _

/-- Edits make every text of whole lines its kept lines. -/
theorem edits_kept {text : List Char} (h : Whole text) {front : List Char} (hfront : Whole front) :
    SameUpToEdits (front ++ text) (front ++ unlines ((kept text).map String.toList)) := by
  induction hn : text.length using Nat.strongRecOn generalizing text front with
  | ind n ih =>
    subst hn
    by_cases hne : text = []
    · subst hne
      exact .refl _
    · obtain ⟨line, stop, rest, rfl, hline, hstop, hrest⟩ := h.exists_line hne
      have hshort : rest.length < (line ++ (stop ++ rest)).length := by
        have hpos : 0 < stop.length := by
          obtain rfl | ⟨c, rfl, -⟩ := hstop <;> simp
        simp only [List.length_append]
        omega
      have hnewline := Relation.EqvGen.rel _ _ (Edit.lineEnd hfront hline hstop)
      rw [kept_line hline hstop]
      refine .trans _ _ _ hnewline ?_
      by_cases hmetadata : isMetadata (.ofList line) = true
      · rw [keptLines_metadata hmetadata]
        exact .trans _ _ _ (.rel _ _ (.metadata hfront hline hmetadata)) (ih _ hshort hrest hfront rfl)
      · have hkept : isMetadata (.ofList line) = false := by simpa using hmetadata
        have hfront' : Whole (front ++ (line.rdropWhile isSpace ++ ['\n'])) := hfront.append (whole_append_newline _)
        have hstep := ih _ hshort hrest hfront' rfl
        rw [keptLines_kept hkept]
        refine .trans _ _ _ (edits_rstrip hfront hline hkept rest) ?_
        change SameUpToEdits _ _
        simpa [rstrip] using hstep

/-- Edits make one text from another one exactly when the same lines are kept of both. -/
theorem sameUpToEdits_iff {text text' : List Char} (h : Whole text) (h' : Whole text') :
    SameUpToEdits text text' ↔ kept text = kept text' := by
  constructor
  · exact kept_sameUpToEdits
  · intro heq
    have hleft := edits_kept h (.inl rfl : Whole [])
    have hright := edits_kept h' (.inl rfl : Whole [])
    rw [heq] at hleft
    exact .trans _ _ _ hleft (.symm _ _ hright)

/-! ## Digests -/

theorem whole_contents (pieces : List Piece) : Whole (contents pieces) := by
  induction pieces with
  | nil => exact .inl rfl
  | cons piece pieces ih =>
    rw [contents, List.flatMap_cons]
    refine Whole.append ?_ ih
    cases piece with
    | own line => exact .inl rfl
    | text lines => exact whole_append_newline _

theorem isMetadata_append {start : String} (h : start ∈ metadataStarts) (tail : String) : isMetadata (start ++ tail) = true := by
  rw [isMetadata, List.any_eq_true]
  refine ⟨start, h, ?_⟩
  rw [String.toList_append, List.isPrefixOf_iff_prefix]
  exact List.prefix_append start.toList tail.toList

theorem isMetadata_ownLine (line : OwnLine) : isMetadata line.text = true := by
  cases line with
  | databaseVersion version => exact isMetadata_append (by simp [metadataStarts]) _
  | dumpVersion version => exact isMetadata_append (by simp [metadataStarts]) _
  | restrict key => exact isMetadata_append (by simp [metadataStarts]) _
  | unrestrict key => exact isMetadata_append (by simp [metadataStarts]) _

/-- What is kept of a dump is what is kept of its contents. -/
theorem kept_pieces (pieces : List Piece) : kept (pieces.flatMap Piece.chars) = kept (contents pieces) := by
  induction pieces with
  | nil => rfl
  | cons piece pieces ih =>
    rw [contents, List.flatMap_cons, List.flatMap_cons]
    cases piece with
    | own line =>
      have hdropped : keptLines [.ofList line.1.text.toList] = [] := by
        rw [String.ofList_toList]
        exact keptLines_metadata (isMetadata_ownLine line.1)
      rw [Piece.chars, List.append_assoc, List.singleton_append, kept_newline line.2, hdropped]
      exact ih
    | text lines => rw [Piece.chars, kept_whole (whole_append_newline _), kept_whole (whole_append_newline _), ih, contents]

theorem whole_title : Whole title.toList := by
  rw [title, ← String.append_assoc, String.toList_append]
  exact whole_append_newline _

/-- The first line of a dump is kept. -/
theorem kept_title : ∃ line lines, kept title.toList = line :: lines := by
  have hplain : ("--".toList.all fun c => !isLineEnd c) = true ∧ isMetadata "--" = false := by decide
  have htitle : title.toList = "--".toList ++ '\n' :: ("-- PostgreSQL database dump\n--\n" ++ "\n").toList := by
    rw [title, String.toList_append]
    simp
  rw [htitle, kept_newline (plain_of_all hplain.1), String.ofList_toList, keptLines_kept hplain.2]
  exact ⟨_, _, rfl⟩

theorem kept_dump (pieces : List Piece) :
    kept (title.toList ++ pieces.flatMap Piece.chars) = kept title.toList ++ kept (contents pieces) := by
  rw [kept_whole whole_title, kept_pieces]

theorem intercalate_append_newline (line : List Char) (lines : List (List Char)) :
    ['\n'].intercalate (line :: lines) ++ ['\n'] = unlines (line :: lines) := by
  induction lines generalizing line with
  | nil => simp [unlines]
  | cons line' lines ih =>
    rw [List.intercalate_cons_cons, List.append_assoc, ih, unlines_cons line]
    simp

/-- The lines that are kept end nowhere but at their end. -/
theorem plain_kept (text : List Char) : ∀ line ∈ kept text, Plain line.toList := by
  intro line hline
  rw [kept, keptLines, List.mem_map] at hline
  obtain ⟨found, hfound, rfl⟩ := hline
  have hplain : Plain found.toList := plain_splitlinesAux (by simp [Plain]) found (List.mem_of_mem_filter hfound)
  rw [rstrip, String.toList_ofList]
  exact plain_rdropWhile hplain isSpace

theorem unlines_injective {lines lines' : List (List Char)} (h : ∀ line ∈ lines, Plain line) (h' : ∀ line ∈ lines', Plain line)
    (heq : unlines lines = unlines lines') : lines = lines' := by
  have hsplit {lines : List (List Char)} (h : ∀ line ∈ lines, Plain line) :
      splitlinesAux [] (unlines lines) = lines.map String.ofList := by
    induction lines with
    | nil => rfl
    | cons line lines ih =>
      have hline := splitlinesAux_line (h line (by simp)) (lineEnd_newline (unlines lines))
      rw [unlines_cons, List.map_cons, ← ih fun l hl => h l (by simp [hl])]
      exact hline
  refine List.map_injective_iff.2 (fun _ _ => String.ofList_injective) ?_
  rw [← hsplit h, heq, hsplit h']

theorem normalizedDump_dump (pieces : List Piece) : normalizedDump (dumpBytes pieces) =
    some (encodeUtf8 (.ofList (unlines ((kept title.toList ++ kept (contents pieces)).map String.toList)))) := by
  have hread : readText (dumpBytes pieces) = some (.ofList (universalNewlines (title.toList ++ pieces.flatMap Piece.chars))) := by
    rw [readText, dumpBytes, decodeChars_encodeChars]
    rfl
  have hlines : keptLines (splitlines (.ofList (universalNewlines (title.toList ++ pieces.flatMap Piece.chars)))) =
      kept title.toList ++ kept (contents pieces) := by
    rw [splitlines, String.toList_ofList, splitlinesAux_universalNewlines, ← kept_dump, kept]
  have hjoin : String.ofList (['\n'].intercalate ((kept title.toList ++ kept (contents pieces)).map String.toList)) ++ "\n" =
      .ofList (unlines ((kept title.toList ++ kept (contents pieces)).map String.toList)) := by
    obtain ⟨line, lines, htitle⟩ := kept_title
    rw [htitle, List.cons_append, List.map_cons, ← intercalate_append_newline, String.ofList_append]
  rw [normalizedDump, hread, Option.bind_eq_bind, Option.bind_some, hlines]
  dsimp only
  rw [hjoin]
  rfl

/-- Two dumps have one digest exactly when the same lines are kept of their contents. -/
theorem logicalDump_eq_iff {hash : Bytes → String} (hhash : Function.Injective hash) (pieces pieces' : List Piece) :
    logicalDump hash (dumpBytes pieces) = logicalDump hash (dumpBytes pieces') ↔
      kept (contents pieces) = kept (contents pieces') := by
  rw [logicalDump, logicalDump, normalizedDump_dump, normalizedDump_dump, Option.map_some, Option.map_some, Option.some.injEq]
  constructor
  · intro heq
    have hplain (pieces : List Piece) :
        ∀ line ∈ (kept title.toList ++ kept (contents pieces)).map String.toList, Plain line := by
      rw [← kept_dump, List.forall_mem_map]
      exact plain_kept _
    have hlines := unlines_injective (hplain pieces) (hplain pieces')
      (String.ofList_injective (encodeUtf8_injective (hhash heq)))
    exact List.append_cancel_left (List.map_injective_iff.2 (fun _ _ => String.toList_injective) hlines)
  · intro heq
    rw [heq]

/-- The digests of two dumps tell them apart, but for the lines of `pg_dump` about itself, exactly when the dumps
do not differ by edits of line ends, of blanks at the ends of lines and of lines that look like those. -/
theorem logical_digest_separates_iff (hash : Bytes → String) (hhash : Function.Injective hash)
    (source restored : List Piece) :
    ((logicalDump hash (dumpBytes source) = logicalDump hash (dumpBytes restored) → contents source = contents restored) ↔
      contents source = contents restored ∨ ¬SameUpToEdits (contents source) (contents restored)) ∧
    (contents source = contents restored ∨ ¬SameUpToEdits (contents source) (contents restored) →
      ∀ sourceDatabase restoredDatabase sourceObject restoredObject,
        logicalDump hash (dumpBytes source) = some sourceDatabase →
        logicalDump hash (dumpBytes restored) = some restoredDatabase →
        hashesVerified sourceDatabase restoredDatabase sourceObject restoredObject = true →
        contents source = contents restored) := by
  have hsame : SameUpToEdits (contents source) (contents restored) ↔
      logicalDump hash (dumpBytes source) = logicalDump hash (dumpBytes restored) := by
    rw [logicalDump_eq_iff hhash]
    exact sameUpToEdits_iff (whole_contents source) (whole_contents restored)
  rw [hsame]
  constructor
  · exact imp_iff_or_not
  · intro hcondition sourceDatabase restoredDatabase sourceObject restoredObject hsource hrestored hverified
    have hequal : restoredDatabase = sourceDatabase := by
      simp only [hashesVerified, Bool.and_eq_true, beq_iff_eq] at hverified
      exact hverified.1.2
    refine hcondition.resolve_right fun hdiffer => hdiffer ?_
    rw [hsource, hrestored, hequal]

namespace Notes

/-! ### A row with a blank -/

/-- The statement up to the row. -/
def insert : String := "INSERT INTO \"public\".\"notes\" (\"body\") VALUES ('"

/-- The dump of a table with one row. -/
def dump (row : String) : List Piece :=
  [.own ⟨.restrict "k7", plain_of_all (by decide)⟩, .own ⟨.databaseVersion "17.2", plain_of_all (by decide)⟩,
    .text (insert ++ row ++ "');")]

/-- SHA-256 at what `normalized_dump` makes of both rows. -/
def rowHash : Bytes → String := Sha256.ideal ((normalizedDump (dumpBytes (dump "a\nb"))).getD [])

theorem logical_digest_separates_iff_rows :
    ((logicalDump rowHash (dumpBytes (dump "a \nb")) = logicalDump rowHash (dumpBytes (dump "a\nb")) →
        contents (dump "a \nb") = contents (dump "a\nb")) ↔
      contents (dump "a \nb") = contents (dump "a\nb") ∨
        ¬SameUpToEdits (contents (dump "a \nb")) (contents (dump "a\nb"))) ∧
    (contents (dump "a \nb") = contents (dump "a\nb") ∨
        ¬SameUpToEdits (contents (dump "a \nb")) (contents (dump "a\nb")) →
      ∀ sourceDatabase restoredDatabase sourceObject restoredObject,
        logicalDump rowHash (dumpBytes (dump "a \nb")) = some sourceDatabase →
        logicalDump rowHash (dumpBytes (dump "a\nb")) = some restoredDatabase →
        hashesVerified sourceDatabase restoredDatabase sourceObject restoredObject = true →
        contents (dump "a \nb") = contents (dump "a\nb")) :=
  logical_digest_separates_iff rowHash (Sha256.ideal_injective _) (dump "a \nb") (dump "a\nb")

theorem contents_dump (row : String) : contents (dump row) = insert.toList ++ (row.toList ++ "');\n".toList) := by
  simp [contents, dump]

theorem insert_line : ((insert.toList ++ ['a', ' ']).all fun c => !isLineEnd c) = true ∧
    (metadataStarts.any fun start => start.toList.isPrefixOf (insert.toList ++ ['a', ' '])) = false := by
  decide

/-- The rows `a \nb` and `a\nb` have one digest. -/
theorem blank_lost : logicalDump rowHash (dumpBytes (dump "a \nb")) = logicalDump rowHash (dumpBytes (dump "a\nb")) ∧
      contents (dump "a \nb") ≠ contents (dump "a\nb") := by
  have hrows : "a \nb".toList = ['a', ' ', '\n', 'b'] ∧ "a\nb".toList = ['a', '\n', 'b'] := by decide
  have hedit : Edit (contents (dump "a \nb")) (contents (dump "a\nb")) := by
    have hblank : isMetadata (.ofList ((insert.toList ++ ['a']) ++ [' '])) = false := by
      rw [isMetadata, String.toList_ofList, List.append_assoc]
      exact insert_line.2
    have hplain : Plain ((insert.toList ++ ['a']) ++ [' ']) := by
      rw [List.append_assoc]
      exact plain_of_all insert_line.1
    have hrow : Edit ([] ++ ((insert.toList ++ ['a']) ++ ' ' :: '\n' :: 'b' :: "');\n".toList))
        ([] ++ ((insert.toList ++ ['a']) ++ '\n' :: 'b' :: "');\n".toList)) :=
      .blank (.inl rfl) hplain (by decide) hblank
    rw [contents_dump, contents_dump, hrows.1, hrows.2]
    simpa using hrow
  constructor
  · rw [logicalDump, logicalDump, normalizedDump_dump, normalizedDump_dump, kept_edit hedit]
  · rw [contents_dump, contents_dump, hrows.1, hrows.2]
    simp

end Notes

end Zkdeal.BackupRestore
