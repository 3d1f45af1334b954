import Zkdeal.Python.Bytes
import Zkdeal.Python.JsonRoundTrip

/-!
# Files of JSON lines

`json.dumps` with `ensure_ascii` writes printable ASCII characters only (`printable_encode`), so each text
is one line of a file, one byte a character, and `splitlines` finds the lines again.
-/

namespace Python

/-! ## Reading text files -/

/-- The characters of a text that is read with universal newlines. -/
def universalNewlines : List Char → List Char
  | [] => []
  | '\r' :: '\n' :: cs => '\n' :: universalNewlines cs
  | '\r' :: cs => '\n' :: universalNewlines cs
  | c :: cs => c :: universalNewlines cs

/-- `path.read_text(encoding="utf-8")`, where the bytes are UTF-8. -/
def readText (file : Bytes) : Option String :=
  (decodeChars file).map fun cs => .ofList (universalNewlines cs)

/-- `[ -~]` -/
def isPrintable (c : Char) : Bool := 0x20 ≤ c.toNat && c.toNat < 0x7f

theorem isLineEnd_of_isPrintable {c : Char} (h : isPrintable c = true) : isLineEnd c = false := by
  have hc : 0x20 ≤ c.toNat ∧ c.toNat < 0x7f := by simpa [isPrintable] using h
  simp only [isLineEnd, Bool.or_eq_false_iff, Bool.and_eq_false_iff, decide_eq_false_iff_not, beq_eq_false_iff_ne]
  omega

theorem ne_return_of_isPrintable {c : Char} (h : isPrintable c = true) : c ≠ '\r' := by
  rintro rfl
  exact absurd h (by decide)

theorem universalNewlines_of_forall {cs : List Char} (h : ∀ c ∈ cs, c ≠ '\r') : universalNewlines cs = cs := by
  induction cs with
  | nil => rfl
  | cons c cs ih =>
    have hc := h c (by simp)
    rw [universalNewlines.eq_def]
    split
    · rename_i heq
      cases heq
    · rename_i heq
      exact absurd (List.cons.inj heq).1 hc
    · rename_i heq
      exact absurd (List.cons.inj heq).1 hc
    · rename_i heq
      obtain ⟨rfl, rfl⟩ := List.cons.inj heq
      rw [ih fun d hd => h d (by simp [hd])]

/-! ## Lines -/

/-- The text of a file with these lines. -/
def unlines (lines : List (List Char)) : List Char := lines.flatMap fun line => line ++ ['\n']

@[simp] theorem unlines_nil : unlines [] = [] := rfl

@[simp] theorem unlines_cons (line : List Char) (lines : List (List Char)) :
    unlines (line :: lines) = line ++ '\n' :: unlines lines := by
  simp [unlines]

theorem unlines_append (lines lines' : List (List Char)) :
    unlines (lines ++ lines') = unlines lines ++ unlines lines' := by
  simp [unlines]

/-- A text of printable lines, and the start of another one. -/
def IsLines (lines : List (List Char)) : Prop := ∀ line ∈ lines, ∀ c ∈ line, isPrintable c = true

/-- A `\r` before a `\n` aside, each character is read on its own. -/
theorem splitlinesAux_cons {c : Char} {cs : List Char} (h : ¬(c = '\r' ∧ cs.head? = some '\n')) (read : List Char) :
    splitlinesAux read (c :: cs) =
      if isLineEnd c then .ofList read.reverse :: splitlinesAux [] cs else splitlinesAux (c :: read) cs := by
  rw [splitlinesAux.eq_def]
  split
  · rename_i heq
    cases heq
  · rename_i heq
    cases heq
  · rename_i heq
    cases heq
    exact absurd ⟨rfl, rfl⟩ h
  · rename_i heq
    cases heq
    rfl

theorem splitlinesAux_append {line : List Char} (h : ∀ c ∈ line, isLineEnd c = false) (read rest : List Char) :
    splitlinesAux read (line ++ rest) = splitlinesAux (line.reverse ++ read) rest := by
  induction line generalizing read with
  | nil => rfl
  | cons c line ih =>
    have hc := h c (by simp)
    have hne : c ≠ '\r' := by
      rintro rfl
      exact absurd hc (by decide)
    rw [List.cons_append, splitlinesAux_cons fun hboth => hne hboth.1, hc, if_neg Bool.false_ne_true,
      ih fun d hd => h d (by simp [hd])]
    simp

/-- The lines of a file are found again, and so is a last line without its end. -/
theorem splitlinesAux_unlines {lines : List (List Char)} (h : IsLines lines) (rest : List Char) :
    splitlinesAux [] (unlines lines ++ rest) = lines.map String.ofList ++ splitlinesAux [] rest := by
  induction lines with
  | nil => rfl
  | cons line lines ih =>
    rw [unlines_cons, List.append_assoc, splitlinesAux_append (fun c hc => isLineEnd_of_isPrintable (h line (by simp) c hc)), List.append_nil,
      List.cons_append, splitlinesAux, if_pos (by decide), List.reverse_reverse,
      ih fun l hl => h l (by simp [hl])]
    · rfl
    · exact fun cs heq => absurd heq (by decide)

theorem splitlinesAux_last {line : List Char} (h : ∀ c ∈ line, isPrintable c = true) (hne : line ≠ []) :
    splitlinesAux [] line = [.ofList line] := by
  have := splitlinesAux_append (fun c hc => isLineEnd_of_isPrintable (h c hc)) [] []
  rw [List.append_nil, List.append_nil] at this
  rw [this]
  cases hr : line.reverse with
  | nil => exact absurd (List.reverse_eq_nil_iff.1 hr) hne
  | cons c cs => rw [splitlinesAux.eq_2 _ (by simp), ← hr, List.reverse_reverse]

theorem dropWhile_isSpace_ne_nil {cs : List Char} {c : Char} (hc : c ∈ cs) (h : isSpace c = false) :
    c ∈ cs.dropWhile isSpace := by
  have hmem := hc
  rw [← List.takeWhile_append_dropWhile (p := isSpace) (l := cs), List.mem_append] at hmem
  refine hmem.resolve_left fun htake => ?_
  have hspace := List.all_eq_true.1 List.all_takeWhile c htake
  rw [h] at hspace
  cases hspace

/-- A line with something other than space is not blank. -/
theorem strip_ne_empty {s : String} {c : Char} (hc : c ∈ s.toList) (h : isSpace c = false) : strip s ≠ "" := by
  intro hs
  have hnil := congrArg String.toList hs
  rw [strip, String.toList_ofList] at hnil
  have hmem := dropWhile_isSpace_ne_nil (List.mem_reverse.2 (dropWhile_isSpace_ne_nil hc h)) h
  rw [List.reverse_eq_nil_iff.1 hnil] at hmem
  cases hmem

/-! ## Bytes -/

/-- An ASCII character is one byte. -/
theorem utf8EncodeChar_of_isPrintable {c : Char} (h : c.toNat < 0x80) : String.utf8EncodeChar c = [c.toNat.toUInt8] := by
  have hval : c.val.toNat ≤ 0x7f := Nat.le_of_lt_succ h
  unfold String.utf8EncodeChar
  dsimp only
  rw [if_pos hval]
  rfl

theorem encodeChars_append (cs ds : List Char) : encodeChars (cs ++ ds) = encodeChars cs ++ encodeChars ds := by
  simp [encodeChars]

theorem length_encodeChars {cs : List Char} (h : ∀ c ∈ cs, c.toNat < 0x80) : (encodeChars cs).length = cs.length := by
  induction cs with
  | nil => rfl
  | cons c cs ih =>
    have hc := utf8EncodeChar_of_isPrintable (h c (by simp))
    unfold encodeChars at ih ⊢
    rw [List.flatMap_cons, List.length_append, ih fun d hd => h d (by simp [hd]), hc]
    simp [Nat.add_comm]

/-- Cutting off bytes of an ASCII text cuts off characters. -/
theorem take_encodeChars {cs : List Char} (h : ∀ c ∈ cs, c.toNat < 0x80) (k : ℕ) :
    (encodeChars cs).take k = encodeChars (cs.take k) := by
  have hlen : (encodeChars (cs.take k)).length = min k cs.length := by
    rw [length_encodeChars fun c hc => h c (List.mem_of_mem_take hc), List.length_take]
  have hsplit : encodeChars cs = encodeChars (cs.take k) ++ encodeChars (cs.drop k) := by
    rw [← encodeChars_append, List.take_append_drop]
  by_cases hk : k ≤ cs.length
  · rw [hsplit, List.take_left' (by omega)]
  · rw [List.take_of_length_le (by rw [length_encodeChars h]; omega), List.take_of_length_le (by omega)]

namespace Json

/-! ## Printable texts -/

theorem isPrintable_digitChar {d : ℕ} (h : d < 16) : isPrintable (Nat.digitChar d) = true := by
  have all : ∀ d < 16, isPrintable (Nat.digitChar d) = true := by decide
  exact all d h

theorem isPrintable_hex4 {n : ℕ} {c : Char} (h : c ∈ hex4 n) : isPrintable c = true := by
  simp only [hex4, List.map_cons, List.map_nil, List.mem_cons, List.not_mem_nil, or_false] at h
  rcases h with rfl | rfl | rfl | rfl <;> exact isPrintable_digitChar (Nat.mod_lt _ (by decide))

theorem isPrintable_escape {c d : Char} (h : d ∈ escape true c) : isPrintable d = true := by
  have quoted (e : Char) (he : isPrintable e = true) (h : d ∈ ['\\', e]) : isPrintable d = true := by
    simp only [List.mem_cons, List.not_mem_nil, or_false] at h
    rcases h with rfl | rfl
    · decide
    · exact he
  have unit (n : ℕ) (h : d ∈ '\\' :: 'u' :: hex4 n) : isPrintable d = true := by
    simp only [List.mem_cons] at h
    rcases h with rfl | rfl | h
    · decide
    · decide
    · exact isPrintable_hex4 h
  unfold escape at h
  dsimp only at h
  split at h
  · exact quoted _ (by decide) h
  split at h
  · exact quoted _ (by decide) h
  split at h
  · exact quoted _ (by decide) h
  split at h
  · exact quoted _ (by decide) h
  split at h
  · exact quoted _ (by decide) h
  split at h
  · exact quoted _ (by decide) h
  split at h
  · exact quoted _ (by decide) h
  split at h
  · exact unit _ h
  split at h
  · split at h
    · exact unit _ h
    · exact (List.mem_append.1 h).elim (unit _) (unit _)
  · rename_i hlow hascii
    rw [List.mem_singleton.1 h]
    simp only [isPrintable, Bool.and_eq_true, decide_eq_true_eq, Bool.true_and] at hlow hascii ⊢
    omega

theorem isPrintable_encodeStr {s : String} {c : Char} (h : c ∈ encodeStr true s) : isPrintable c = true := by
  unfold encodeStr at h
  simp only [List.cons_append, List.mem_cons, List.mem_append, List.mem_flatMap, List.not_mem_nil, or_false] at h
  rcases h with rfl | ⟨d, -, hc⟩ | rfl
  · decide
  · exact isPrintable_escape hc
  · decide

theorem isPrintable_int {n : ℤ} {c : Char} (h : c ∈ (toString n).toList) : isPrintable c = true := by
  have digits {m : ℕ} (h : c ∈ Nat.toDigits 10 m) : isPrintable c = true := by
    have hd := isDigit09_of_mem_toDigits h
    simp only [isDigit09, Bool.and_eq_true, decide_eq_true_eq, Char.le_def] at hd
    have h0 : ('0' : Char).val.toNat ≤ c.val.toNat := hd.1
    have h9 : c.val.toNat ≤ ('9' : Char).val.toNat := hd.2
    change 48 ≤ c.toNat at h0
    change c.toNat ≤ 57 at h9
    simp only [isPrintable, Bool.and_eq_true, decide_eq_true_eq]
    omega
  cases n with
  | ofNat n =>
    rw [show (toString (Int.ofNat n)).toList = Nat.toDigits 10 n from Nat.toList_repr] at h
    exact digits h
  | negSucc n =>
    rw [show toString (Int.negSucc n) = "-" ++ (n + 1).repr from rfl, String.toList_append, Nat.toList_repr,
      List.mem_append] at h
    rcases h with h | h
    · rw [show "-".toList = ['-'] from rfl, List.mem_singleton] at h
      rw [h]
      decide
    · exact digits h

theorem isPrintable_commaSeparated {members : List (List Char)} {c : Char}
    (h : ∀ m ∈ members, ∀ c ∈ m, isPrintable c = true) (hc : c ∈ commaSeparated members) : isPrintable c = true := by
  induction members with
  | nil => cases hc
  | cons m members ih =>
    cases members with
    | nil => exact h m (by simp) c hc
    | cons m' members =>
      rw [commaSeparated, List.mem_append, List.mem_cons] at hc
      · rcases hc with hc | rfl | hc
        · exact h m (by simp) c hc
        · decide
        · exact ih (fun l hl => h l (by simp [hl])) hc
      · simp

mutual

/-- Without floats, the text of a value is printable ASCII. -/
theorem printable_encode : ∀ v, simple v = true → ∀ c ∈ encode true false v, isPrintable c = true
  | null, _ => List.all_eq_true.1 (by decide)
  | bool true, _ => List.all_eq_true.1 (by decide)
  | bool false, _ => List.all_eq_true.1 (by decide)
  | int n, _ => fun c hc => isPrintable_int hc
  | float _, h => by cases h
  | str s, _ => fun c hc => isPrintable_encodeStr hc
  | arr items, h => fun c hc => by
    rw [encode, List.cons_append, List.mem_cons, List.mem_append, List.mem_singleton] at hc
    rcases hc with rfl | hc | rfl
    · decide
    · exact isPrintable_commaSeparated (printable_encodeItems items h) hc
    · decide
  | obj fields, h => fun c hc => by
    rw [encode_obj, List.cons_append, List.mem_cons, List.mem_append, List.mem_singleton] at hc
    rcases hc with rfl | hc | rfl
    · decide
    · refine isPrintable_commaSeparated (fun m hm d hd => ?_) hc
      obtain ⟨kv, hkv, rfl⟩ := List.mem_map.1 hm
      rw [encodeMember, List.mem_append, List.mem_cons] at hd
      rcases hd with hd | rfl | hd
      · exact isPrintable_encodeStr hd
      · decide
      · rw [simple, Bool.and_eq_true] at h
        exact printable_encodeFields fields h.2 kv hkv d hd
    · decide

theorem printable_encodeItems : ∀ items, simpleItems items = true →
    ∀ m ∈ encodeItems true false items, ∀ c ∈ m, isPrintable c = true
  | [], _ => nofun
  | v :: vs, h => fun m hm => by
    rw [simpleItems, Bool.and_eq_true] at h
    rw [encodeItems, List.mem_cons] at hm
    rcases hm with rfl | hm
    · exact printable_encode v h.1
    · exact printable_encodeItems vs h.2 m hm

theorem printable_encodeFields : ∀ fields : List (String × Json), simpleFields fields = true →
    ∀ kv ∈ fields, ∀ c ∈ encode true false kv.2, isPrintable c = true
  | [], _ => nofun
  | (_, v) :: fs, h => fun e he => by
    rw [simpleFields, Bool.and_eq_true] at h
    rcases List.mem_cons.1 he with rfl | he
    · exact printable_encode v h.1
    · exact printable_encodeFields fs h.2 e he

end

end Json

end Python
