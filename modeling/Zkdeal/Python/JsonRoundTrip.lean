import Mathlib.Data.List.TakeDrop
import Zkdeal.Python.JsonStrict

/-!
# Reading JSON back

`json.loads` reads back what `json.dumps` writes, with the members of every object sorted.  This is
stated for values without floats, whose integers have at most 4300 digits and whose objects have each
key once (`plain`).
-/

namespace Python.Json

/-! ## Plain values -/

mutual

/-- No floats, and no key twice. -/
def simple : Json → Bool
  | float _ => false
  | arr items => simpleItems items
  | obj fields => (fields.map Prod.fst).Nodup && simpleFields fields
  | _ => true

def simpleItems : List Json → Bool
  | [] => true
  | v :: vs => simple v && simpleItems vs

def simpleFields : List (String × Json) → Bool
  | [] => true
  | (_, v) :: fs => simple v && simpleFields fs

end

/-- No floats, no key twice, and no integers that Python refuses to print. -/
def plain (v : Json) : Bool := simple v && printable v

theorem simpleFields_iff {fields : List (String × Json)} :
    simpleFields fields = true ↔ ∀ kv ∈ fields, simple kv.2 = true := by
  induction fields with
  | nil => simp [simpleFields]
  | cons kv fields ih => simp [simpleFields, ih]

theorem simpleFields_append (fields fields' : List (String × Json)) :
    simpleFields (fields ++ fields') = (simpleFields fields && simpleFields fields') := by
  induction fields with
  | nil => rfl
  | cons kv fields ih => rw [List.cons_append, simpleFields, simpleFields, ih, Bool.and_assoc]

theorem simpleItems_iff {items : List Json} : simpleItems items = true ↔ ∀ v ∈ items, simple v = true := by
  induction items with
  | nil => simp [simpleItems]
  | cons v items ih => simp [simpleItems, ih]

theorem printableItems_iff {items : List Json} :
    printableItems items = true ↔ ∀ v ∈ items, printable v = true := by
  induction items with
  | nil => simp [printableItems]
  | cons v items ih => simp [printableItems, ih]

theorem plain_obj_iff {fields : List (String × Json)} :
    plain (obj fields) = true ↔ (fields.map Prod.fst).Nodup ∧ ∀ kv ∈ fields, plain kv.2 = true := by
  simp only [plain, simple, printable, Bool.and_eq_true, decide_eq_true_eq, simpleFields_iff,
    printableFields_iff, and_assoc, forall_and]

theorem plain_arr_iff {items : List Json} :
    plain (arr items) = true ↔ ∀ v ∈ items, plain v = true := by
  simp only [plain, simple, printable, Bool.and_eq_true, simpleItems_iff, printableItems_iff, forall_and]

/-! ## Strings -/

theorem hexDigit_digitChar {d : ℕ} (h : d < 16) : hexDigit (Nat.digitChar d) = some d := by
  have all : ∀ d < 16, hexDigit (Nat.digitChar d) = some d := by decide
  exact all d h

theorem hex4Value_hex4 {n : ℕ} (h : n < 0x10000) :
    ∃ a b c d, hex4 n = [a, b, c, d] ∧ hex4Value a b c d = some n := by
  refine ⟨_, _, _, _, rfl, ?_⟩
  unfold hex4Value
  rw [hexDigit_digitChar (by omega), hexDigit_digitChar (by omega), hexDigit_digitChar (by omega),
    hexDigit_digitChar (by omega)]
  simp only [Option.bind_eq_bind, Option.bind_some, Option.pure_def, Option.some.injEq]
  omega

/-- Read one more character. -/
def pushed (c : Char) (r : Option (List Char × List Char)) : Option (List Char × List Char) :=
  r.map fun (s, rest) => (c :: s, rest)

-- The equations of `scanString`, before the proofs that rewrite with them.
section

attribute [local simp] scanString.eq_def scanString.eq_1

end

theorem scanString_plain {c : Char} (cs : List Char) (hq : c ≠ '"') (hb : c ≠ '\\') (h : 0x20 ≤ c.toNat) :
    scanString (c :: cs) = pushed c (scanString cs) := by
  rw [scanString.eq_def]
  split
  · simp_all
  · simp_all
  · simp_all
  · simp_all
  · rename_i c' cs' _ _ _ heq
    obtain ⟨rfl, rfl⟩ : c = c' ∧ cs = cs' := by simpa using heq
    rw [if_neg (by omega)]
    cases scanString cs <;> rfl

theorem scanString_short {c e : Char} (cs : List Char) (hu : e ≠ 'u') (h : unescape e = some c) :
    scanString ('\\' :: e :: cs) = pushed c (scanString cs) := by
  rw [scanString.eq_def]
  split
  · simp_all
  · simp_all
  · simp_all
  · rename_i e' cs' _ heq
    obtain ⟨rfl, rfl⟩ : e = e' ∧ cs = cs' := by simpa using heq
    rw [h]
    cases scanString cs <;> rfl
  · rename_i c' cs' _ _ other heq
    obtain ⟨rfl, rfl⟩ : '\\' = c' ∧ e :: cs = cs' := by simpa using heq
    exact absurd rfl (other e cs rfl)

theorem scanString_unit {n : ℕ} (cs : List Char) (h : n < 0xd800 ∨ 0xdfff < n) (hn : n < 0x10000) :
    scanString ('\\' :: 'u' :: hex4 n ++ cs) = pushed (.ofNat n) (scanString cs) := by
  obtain ⟨a, b, c, d, hex, value⟩ := hex4Value_hex4 hn
  rw [hex]
  change scanString ('\\' :: 'u' :: a :: b :: c :: d :: cs) = _
  rw [scanString]
  simp only [value, Option.bind_eq_bind, Option.bind_some, if_pos h]
  cases scanString cs <;> rfl

theorem scanString_pair {m n : ℕ} (cs : List Char) (h : 0xd800 ≤ m) (h' : m < 0xdc00)
    (hl : 0xdc00 ≤ n) (hl' : n ≤ 0xdfff) :
    scanString ('\\' :: 'u' :: hex4 m ++ '\\' :: 'u' :: hex4 n ++ cs) =
      pushed (.ofNat (0x10000 + (m - 0xd800) * 0x400 + (n - 0xdc00))) (scanString cs) := by
  obtain ⟨a, b, c, d, hex, value⟩ := hex4Value_hex4 (n := m) (by omega)
  obtain ⟨a', b', c', d', hex', value'⟩ := hex4Value_hex4 (n := n) (by omega)
  rw [hex, hex']
  simp only [List.cons_append, List.nil_append]
  rw [scanString]
  simp only [value, value', Option.bind_eq_bind, Option.bind_some]
  rw [if_neg (by omega), if_pos h', if_pos ⟨hl, hl'⟩]
  cases scanString cs <;> rfl

/-- One encoded character is read back. -/
theorem scanString_escape (ascii : Bool) (c : Char) (cs : List Char) :
    scanString (escape ascii c ++ cs) = pushed c (scanString cs) := by
  have code := Char.ofNat_toNat c
  unfold escape
  by_cases hq : c = '"'
  · subst hq
    exact scanString_short cs (by decide) rfl
  by_cases hb : c = '\\'
  · subst hb
    exact scanString_short cs (by decide) rfl
  by_cases hn : c = '\n'
  · subst hn
    exact scanString_short cs (by decide) rfl
  by_cases hr : c = '\r'
  · subst hr
    exact scanString_short cs (by decide) rfl
  by_cases ht : c = '\t'
  · subst ht
    exact scanString_short cs (by decide) rfl
  simp only [hq, hb, hn, hr, ht, if_false]
  by_cases h8 : c.toNat = 0x08
  · rw [if_pos h8]
    exact scanString_short cs (by decide) (by rw [← code, h8]; rfl)
  by_cases hc : c.toNat = 0x0c
  · rw [if_neg h8, if_pos hc]
    exact scanString_short cs (by decide) (by rw [← code, hc]; rfl)
  rw [if_neg h8, if_neg hc]
  by_cases hlow : c.toNat < 0x20
  · rw [if_pos hlow]
    have := scanString_unit (n := c.toNat) cs (.inl (by omega)) (by omega)
    rwa [code] at this
  rw [if_neg hlow]
  have valid : c.toNat < 0xd800 ∨ 0xdfff < c.toNat ∧ c.toNat < 0x110000 := c.valid
  by_cases hhigh : (ascii && decide (0x7e < c.toNat)) = true
  · rw [if_pos hhigh]
    by_cases hbmp : c.toNat < 0x10000
    · rw [if_pos hbmp]
      have := scanString_unit (n := c.toNat) cs (by omega) hbmp
      rwa [code] at this
    · rw [if_neg hbmp]
      have split : 0x10000 + (0xd800 + (c.toNat - 0x10000) / 0x400 - 0xd800) * 0x400 +
          (0xdc00 + (c.toNat - 0x10000) % 0x400 - 0xdc00) = c.toNat := by omega
      have := scanString_pair (m := 0xd800 + (c.toNat - 0x10000) / 0x400)
        (n := 0xdc00 + (c.toNat - 0x10000) % 0x400) cs (by omega) (by omega) (by omega) (by omega)
      rwa [split, code] at this
  · rw [if_neg hhigh]
    exact scanString_plain cs hq hb (by omega)

theorem scanString_encode (ascii : Bool) (cs rest : List Char) :
    scanString (cs.flatMap (escape ascii) ++ '"' :: rest) = some (cs, rest) := by
  induction cs with
  | nil => exact scanString.eq_2 rest
  | cons c cs ih =>
    rw [List.flatMap_cons, List.append_assoc, scanString_escape, ih]
    rfl

/-! ## Integers -/

/-- What follows does not continue a number. -/
def Stops (rest : List Char) : Prop :=
  ∀ c ∈ rest.head?, isDigit09 c = false ∧ c ≠ '.' ∧ c ≠ 'e' ∧ c ≠ 'E'

theorem isDigit09_of_mem_toDigits {n : ℕ} {c : Char} (h : c ∈ Nat.toDigits 10 n) : isDigit09 c = true := by
  have digit := Nat.isDigit_of_mem_toDigits (by decide) (by decide) h
  simpa [isDigit09, Char.isDigit, Char.le_def] using digit

theorem head_toDigits {n : ℕ} (h : 0 < n) : (Nat.toDigits 10 n).head? ≠ some '0' := by
  induction n using Nat.strongRecOn with
  | ind n ih =>
    rw [Nat.toDigits_eq_if (by decide)]
    by_cases hn : n < 10
    · rw [if_pos hn]
      have all : ∀ n < 10, 0 < n → [Nat.digitChar n].head? ≠ some '0' := by decide
      exact all n hn h
    · rw [if_neg hn, List.head?_append_of_ne_nil _ Nat.toDigits_ne_nil]
      exact ih (n / 10) (by omega) (by omega)

theorem spanDigits_append {ds rest : List Char} (hd : ∀ c ∈ ds, isDigit09 c = true) (stops : Stops rest) :
    spanDigits (ds ++ rest) = (ds, rest) := by
  unfold spanDigits
  rw [List.span_eq_takeWhile_dropWhile, List.takeWhile_append_of_pos hd, List.dropWhile_append_of_pos hd]
  cases rest with
  | nil => simp
  | cons c rest =>
    have := (stops c rfl).1
    simp [this]

theorem scanFraction_stops {rest : List Char} (stops : Stops rest) : scanFraction rest = ([], rest) := by
  unfold scanFraction
  split
  · exact absurd rfl (stops '.' rfl).2.1
  · rfl

theorem scanExponent_stops {rest : List Char} (stops : Stops rest) : scanExponent rest = (none, rest) := by
  unfold scanExponent
  split
  · rename_i e tail
    obtain ⟨-, -, he, hE⟩ := stops e rfl
    simp [he, hE]
  · rfl

theorem scanMagnitude_toDigits {n : ℕ} (negative : Bool) {rest : List Char}
    (short : (Nat.toDigits 10 n).length ≤ 4300) (stops : Stops rest) : scanMagnitude negative (Nat.toDigits 10 n ++ rest) =
      some (.int (if negative then -(n : ℤ) else n), rest) := by
  have value : digitsNat (Nat.toDigits 10 n) = n := Nat.ofDigitChars_ten_toDigits
  by_cases hn : n = 0
  · subst hn
    rw [Nat.toDigits_zero, List.singleton_append]
    simp [scanMagnitude, scanFraction_stops stops, scanExponent_stops stops, digitsNat]
  · have digits : ∀ c ∈ Nat.toDigits 10 n, isDigit09 c = true := fun c => isDigit09_of_mem_toDigits
    have hhead := head_toDigits (Nat.pos_of_ne_zero hn)
    have hspan := spanDigits_append digits stops
    generalize Nat.toDigits 10 n = ds at *
    cases ds with
    | nil => simp [digitsNat] at value; omega
    | cons c ds =>
      have hc : c ≠ '0' := by simpa using hhead
      have hdigit := digits c (by simp)
      rw [List.cons_append] at hspan ⊢
      simp only [scanMagnitude, if_neg hc, if_pos hdigit, hspan, Option.bind_eq_bind, Option.bind_some,
        scanFraction_stops stops, scanExponent_stops stops, true_and, if_true]
      rw [if_neg (by omega), value]

theorem scanNumber_toString {n : ℤ} {rest : List Char} (short : (Nat.toDigits 10 n.natAbs).length ≤ 4300)
    (stops : Stops rest) : scanNumber ((toString n).toList ++ rest) = some (.int n, rest) := by
  cases n with
  | ofNat n =>
    have hread := scanMagnitude_toDigits false short stops
    have hne := Nat.toDigits_ne_nil (n := n) (b := 10)
    have digits : ∀ c ∈ Nat.toDigits 10 n, isDigit09 c = true := fun c => isDigit09_of_mem_toDigits
    rw [show (toString (Int.ofNat n)).toList = Nat.toDigits 10 n from Nat.toList_repr]
    change scanMagnitude false (Nat.toDigits 10 n ++ rest) = _ at hread
    generalize Nat.toDigits 10 n = ds at *
    cases ds with
    | nil => exact absurd rfl hne
    | cons c ds =>
      have hc : c ≠ '-' := by
        rintro rfl
        exact absurd (digits '-' (by simp)) (by decide)
      rw [List.cons_append] at hread ⊢
      rw [scanNumber.eq_2 _ (by simp [hc]), hread]
      rfl
  | negSucc n =>
    have hread := scanMagnitude_toDigits (n := n + 1) true short stops
    have htext : (toString (Int.negSucc n)).toList = '-' :: Nat.toDigits 10 (n + 1) := by
      rw [show toString (Int.negSucc n) = "-" ++ (n + 1).repr from rfl, String.toList_append, Nat.toList_repr]
      rfl
    rw [htext, List.cons_append, scanNumber, hread]
    rfl

/-! ## Sorted values -/

mutual

/-- The value with the members of every object sorted. -/
def canonical : Json → Json
  | arr items => arr (canonicalItems items)
  | obj fields => obj (Dict.sorted (canonicalFields fields))
  | v => v

def canonicalItems : List Json → List Json
  | [] => []
  | v :: vs => canonical v :: canonicalItems vs

def canonicalFields : List (String × Json) → List (String × Json)
  | [] => []
  | (k, v) :: fs => (k, canonical v) :: canonicalFields fs

end

theorem encodeFields_eq_map (ascii sortKeys : Bool) (fields : List (String × Json)) :
    encodeFields ascii sortKeys fields = fields.map fun kv => (kv.1, encode ascii sortKeys kv.2) := by
  induction fields with
  | nil => rfl
  | cons kv fields ih => rw [encodeFields, ih, List.map_cons]

theorem canonicalFields_eq_map (fields : List (String × Json)) :
    canonicalFields fields = fields.map fun kv => (kv.1, canonical kv.2) := by
  induction fields with
  | nil => rfl
  | cons kv fields ih => rw [canonicalFields, ih, List.map_cons]

theorem canonicalFields_append (fields fields' : List (String × Json)) :
    canonicalFields (fields ++ fields') = canonicalFields fields ++ canonicalFields fields' := by
  rw [canonicalFields_eq_map, canonicalFields_eq_map, canonicalFields_eq_map, List.map_append]

theorem encodeFields_sorted (ascii : Bool) (fields : List (String × Json)) :
    (encodeFields ascii false fields).insertionSort (fun a b => a.1 ≤ b.1) =
      encodeFields ascii false (Dict.sorted fields) := by
  rw [encodeFields_eq_map, encodeFields_eq_map, Dict.sorted]
  exact (List.map_insertionSort (fun a b : String × Json => a.1 ≤ b.1)
    (fun a b : String × List Char => a.1 ≤ b.1) _ fields fun _ _ _ _ => Iff.rfl).symm

mutual

/-- `sort_keys` writes the sorted value. -/
theorem encode_canonical (ascii : Bool) : ∀ v, encode ascii true v = encode ascii false (canonical v)
  | null | bool true | bool false | int _ | float _ | str _ => rfl
  | arr items => by rw [encode, canonical, encode, encodeItems_canonical ascii items]
  | obj fields => by
    rw [encode, canonical, encode, encodeMembers, encodeMembers, if_pos rfl,
      if_neg Bool.false_ne_true, encodeFields_canonical ascii fields, encodeFields_sorted]

theorem encodeItems_canonical (ascii : Bool) :
    ∀ items, encodeItems ascii true items = encodeItems ascii false (canonicalItems items)
  | [] => rfl
  | v :: vs => by
    rw [encodeItems, canonicalItems, encodeItems, encode_canonical ascii v, encodeItems_canonical ascii vs]

theorem encodeFields_canonical (ascii : Bool) :
    ∀ fields, encodeFields ascii true fields = encodeFields ascii false (canonicalFields fields)
  | [] => rfl
  | (k, v) :: fs => by
    rw [encodeFields, canonicalFields, encodeFields, encode_canonical ascii v, encodeFields_canonical ascii fs]

end

theorem canonicalItems_eq_map (items : List Json) : canonicalItems items = items.map canonical := by
  induction items with
  | nil => rfl
  | cons v items ih => rw [canonicalItems, ih, List.map_cons]

mutual

theorem plain_canonical : ∀ v, plain v = true → plain (canonical v) = true
  | null, h | bool _, h | int _, h | float _, h | str _, h => h
  | arr items, h => by
    rw [canonical]
    exact plain_arr_iff.2 (plainItems_canonical items (plain_arr_iff.1 h))
  | obj fields, h => by
    rw [plain_obj_iff] at h
    have values := plainFields_canonical fields h.2
    have perm := List.perm_insertionSort (fun a b : String × Json => a.1 ≤ b.1) (canonicalFields fields)
    rw [canonical, plain_obj_iff]
    refine ⟨((perm.map Prod.fst).nodup_iff).2 ?_, fun kv hkv => values kv (perm.mem_iff.1 hkv)⟩
    rw [canonicalFields_eq_map, List.map_map]
    exact h.1

theorem plainItems_canonical : ∀ items, (∀ v ∈ items, plain v = true) →
    ∀ v ∈ canonicalItems items, plain v = true
  | [], _ => nofun
  | v :: vs, h => by
    rw [canonicalItems, List.forall_mem_cons]
    rw [List.forall_mem_cons] at h
    exact ⟨plain_canonical v h.1, plainItems_canonical vs h.2⟩

theorem plainFields_canonical : ∀ fields : List (String × Json), (∀ kv ∈ fields, plain kv.2 = true) →
    ∀ kv ∈ canonicalFields fields, plain kv.2 = true
  | [], _ => nofun
  | (k, v) :: fs, h => by
    rw [canonicalFields, List.forall_mem_cons]
    rw [List.forall_mem_cons] at h
    exact ⟨plain_canonical v h.1, plainFields_canonical fs h.2⟩

end

/-- The members of an object may be sorted before. -/
theorem canonical_sorted (d : Dict) : canonical (obj d.sorted) = canonical (obj d) := by
  have mapped : canonicalFields d.sorted = Dict.sorted (canonicalFields d) := by
    rw [canonicalFields_eq_map, canonicalFields_eq_map, Dict.sorted]
    exact List.map_insertionSort (fun a b : String × Json => a.1 ≤ b.1) (fun a b : String × Json => a.1 ≤ b.1)
      _ d fun _ _ _ _ => Iff.rfl
  rw [canonical, canonical, mapped, Dict.sorted_sorted]

mutual

theorem canonical_canonical : ∀ v, canonical (canonical v) = canonical v
  | null | bool _ | int _ | float _ | str _ => rfl
  | arr items => by rw [canonical, canonical, canonicalItems_canonicalItems items]
  | obj fields => by
    rw [canonical, canonical_sorted, canonical, canonicalFields_canonicalFields fields]

theorem canonicalItems_canonicalItems : ∀ items, canonicalItems (canonicalItems items) = canonicalItems items
  | [] => rfl
  | v :: vs => by
    rw [canonicalItems, canonicalItems, canonical_canonical v, canonicalItems_canonicalItems vs]

theorem canonicalFields_canonicalFields :
    ∀ fields, canonicalFields (canonicalFields fields) = canonicalFields fields
  | [] => rfl
  | (k, v) :: fs => by
    rw [canonicalFields, canonicalFields, canonical_canonical v, canonicalFields_canonicalFields fs]

end

theorem simple_sorted (d : Dict) : simple (obj d.sorted) = simple (obj d) := by
  have perm := List.perm_insertionSort (fun a b : String × Json => a.1 ≤ b.1) d
  rw [Bool.eq_iff_iff, simple, simple, Bool.and_eq_true, Bool.and_eq_true, decide_eq_true_eq,
    decide_eq_true_eq, simpleFields_iff, simpleFields_iff]
  refine and_congr (perm.map Prod.fst).nodup_iff ⟨fun h kv hkv => ?_, fun h kv hkv => ?_⟩
  · exact h kv (perm.mem_iff.2 hkv)
  · exact h kv (perm.mem_iff.1 hkv)

/-! ## Values -/

/-- The first character of a value. -/
def isStart (c : Char) : Bool :=
  c == 'n' || c == 't' || c == 'f' || c == '"' || c == '[' || c == '{' || c == '-' || isDigit09 c

/-- The first character of an integer. -/
theorem encode_int (ascii : Bool) (m : ℤ) : ∃ c cs, encode ascii false (int m) = c :: cs ∧
    (c = '-' ∧ (∃ d ds, cs = d :: ds ∧ isDigit09 d = true) ∨ isDigit09 c = true) := by
  have first (n : ℕ) : ∃ d ds, Nat.toDigits 10 n = d :: ds ∧ isDigit09 d = true := by
    obtain ⟨d, ds, hds⟩ := List.exists_cons_of_ne_nil (Nat.toDigits_ne_nil (n := n) (b := 10))
    exact ⟨d, ds, hds, isDigit09_of_mem_toDigits (n := n) (by simp [hds])⟩
  cases m with
  | ofNat n =>
    obtain ⟨d, ds, hds, hd⟩ := first n
    refine ⟨d, ds, ?_, .inr hd⟩
    rw [encode, show (toString (Int.ofNat n)).toList = Nat.toDigits 10 n from Nat.toList_repr, hds]
  | negSucc n =>
    obtain ⟨d, ds, hds, hd⟩ := first (n + 1)
    refine ⟨'-', d :: ds, ?_, .inl ⟨rfl, d, ds, rfl, hd⟩⟩
    rw [encode, show toString (Int.negSucc n) = "-" ++ (n + 1).repr from rfl, String.toList_append,
      Nat.toList_repr, hds]
    rfl

theorem encode_start (ascii : Bool) {v : Json} (h : plain v = true) :
    ∃ c cs, encode ascii false v = c :: cs ∧ isStart c = true := by
  cases v with
  | null => exact ⟨_, _, rfl, by decide⟩
  | bool b => cases b <;> exact ⟨_, _, rfl, by decide⟩
  | int n =>
    obtain ⟨c, cs, hc, number⟩ := encode_int ascii n
    refine ⟨c, cs, hc, ?_⟩
    rcases number with ⟨rfl, -⟩ | digit
    · decide
    · simp [isStart, digit]
  | float x => simp [plain, simple] at h
  | str s => exact ⟨'"', s.toList.flatMap (escape ascii) ++ ['"'], rfl, by decide⟩
  | arr items => exact ⟨'[', _, rfl, by decide⟩
  | obj fields => exact ⟨'{', _, rfl, by decide⟩

theorem skipSpace_start {c : Char} (cs : List Char) (h : isStart c = true) :
    skipSpace (c :: cs) = c :: cs := by
  refine List.dropWhile_cons_of_neg ?_
  intro space
  simp only [Bool.or_eq_true, decide_eq_true_eq] at space
  rcases space with ((rfl | rfl) | rfl) | rfl <;> exact absurd h (by decide)

@[simp] theorem skipSpace_separator (cs : List Char) :
    skipSpace (',' :: cs) = ',' :: cs ∧ skipSpace (':' :: cs) = ':' :: cs ∧
      skipSpace (']' :: cs) = ']' :: cs ∧ skipSpace ('}' :: cs) = '}' :: cs := ⟨rfl, rfl, rfl, rfl⟩

theorem skipSpace_quote (cs : List Char) : skipSpace ('"' :: cs) = '"' :: cs := rfl

theorem skipSpace_encode (ascii : Bool) {v : Json} (h : plain v = true) (rest : List Char) :
    skipSpace (encode ascii false v ++ rest) = encode ascii false v ++ rest := by
  obtain ⟨c, cs, hv, start⟩ := encode_start ascii h
  rw [hv, List.cons_append, skipSpace_start _ start]

/-- A character that ends a member of a container. -/
theorem stops_cons {c : Char} (rest : List Char) (h : c = ',' ∨ c = ']' ∨ c = '}' ∨ c = '\n') :
    Stops (c :: rest) := by
  intro d hd
  obtain rfl : c = d := Option.some.inj hd
  rcases h with rfl | rfl | rfl | rfl <;> decide

theorem stops_nil : Stops [] := nofun

theorem scanValue_number {n : ℕ} {c : Char} (cs : List Char) (h : c = '-' ∧ cs.head? ≠ some 'I' ∨ isDigit09 c = true) :
    scanValue (n + 1) (c :: cs) = scanNumber (c :: cs) := by
  have notLetter : c ≠ 'n' ∧ c ≠ 't' ∧ c ≠ 'f' ∧ c ≠ 'N' ∧ c ≠ 'I' ∧ c ≠ '"' ∧ c ≠ '[' ∧ c ≠ '{' := by
    rcases h with ⟨rfl, -⟩ | h
    · decide
    · refine ⟨?_, ?_, ?_, ?_, ?_, ?_, ?_, ?_⟩ <;> rintro rfl <;> exact absurd h (by decide)
  have notMinus : ∀ cs', c :: cs ≠ '-' :: 'I' :: cs' := by
    rintro cs' heq
    obtain ⟨rfl, rfl⟩ := List.cons.inj heq
    rcases h with ⟨-, h⟩ | h
    · exact h rfl
    · exact absurd h (by decide)
  rw [scanValue.eq_def]
  split <;> simp_all

/-- The text of a member of an object. -/
def encodeMember (ascii : Bool) (kv : String × Json) : List Char :=
  encodeStr ascii kv.1 ++ ':' :: encode ascii false kv.2

theorem encode_obj (ascii : Bool) (fields : List (String × Json)) :
    encode ascii false (obj fields) =
      '{' :: commaSeparated (fields.map (encodeMember ascii)) ++ ['}'] := by
  rw [encode, encodeMembers, if_neg Bool.false_ne_true, encodeFields_eq_map, List.map_map]
  rfl

theorem encodeItems_start (ascii : Bool) {v : Json} {vs : List Json} (h : ∀ w ∈ v :: vs, plain w = true) :
    ∃ c cs, commaSeparated (encodeItems ascii false (v :: vs)) = c :: cs ∧ isStart c = true := by
  obtain ⟨c, cs, hc, hstart⟩ := encode_start ascii (h v (by simp))
  cases vs with
  | nil => exact ⟨c, cs, by rw [encodeItems, encodeItems, commaSeparated, hc], hstart⟩
  | cons w vs => exact ⟨c, _, by rw [encodeItems, encodeItems, commaSeparated, hc]; rfl; simp, hstart⟩

theorem encodeMembers_start (ascii : Bool) (kv : String × Json) (fs : List (String × Json)) :
    ∃ cs, commaSeparated ((kv :: fs).map (encodeMember ascii)) = '"' :: cs := by
  cases fs with
  | nil => exact ⟨_, rfl⟩
  | cons kv' fs => exact ⟨_, rfl⟩

theorem scanString_encodeStr (ascii : Bool) (s : String) (rest : List Char) :
    ∃ cs, encodeStr ascii s ++ rest = '"' :: cs ∧ scanString cs = some (s.toList, rest) :=
  ⟨_, by simp [encodeStr], scanString_encode ascii s.toList rest⟩

theorem strictValue_scalar {n : ℕ} {c : Char} (cs : List Char) (h : c ≠ '[' ∧ c ≠ '{') :
    strictValue n (c :: cs) = orMalformed (scanValue n (c :: cs)) := by
  rw [strictValue.eq_def]
  split
  · rename_i heq
    exact absurd (List.cons.inj heq).1 h.1
  · rename_i heq
    exact absurd (List.cons.inj heq).1 h.2
  · rfl

mutual

/-- A value is read back, whatever follows it. -/
theorem strictValue_encode (ascii : Bool) : ∀ v, plain v = true → ∀ n rest,
    (encode ascii false v).length ≤ n → Stops rest →
    strictValue n (encode ascii false v ++ rest) = .ok (v, rest)
  | null, _, n + 1, rest, _, _ => rfl
  | bool true, _, n + 1, rest, _, _ => rfl
  | bool false, _, n + 1, rest, _, _ => rfl
  | float x, h, _, _, _, _ => by simp [plain, simple] at h
  | str s, _, n + 1, rest, _, _ => by
    obtain ⟨cs, hcs, hscan⟩ := scanString_encodeStr ascii s rest
    rw [encode, hcs, strictValue_scalar _ (by decide), scanValue, hscan]
    simp [orMalformed]
  | int m, h, 0, rest, hn, stops => by
    obtain ⟨c, cs, hv, -⟩ := encode_start ascii h
    simp [hv] at hn
  | int m, h, n + 1, rest, _, stops => by
    have short : (Nat.toDigits 10 m.natAbs).length ≤ 4300 := by simpa [plain, simple, printable] using h
    have hread := scanNumber_toString short stops
    obtain ⟨c, cs, hv, number⟩ := encode_int ascii m
    have scalar : c ≠ '[' ∧ c ≠ '{' := by
      rcases number with ⟨rfl, -⟩ | digit
      · decide
      · refine ⟨?_, ?_⟩ <;> rintro rfl <;> exact absurd digit (by decide)
    rw [encode] at hv ⊢
    rw [hv, List.cons_append] at hread ⊢
    rw [strictValue_scalar _ scalar, scanValue_number _ ?_, hread, orMalformed]
    rcases number with ⟨rfl, d, ds, rfl, hd⟩ | digit
    · refine .inl ⟨rfl, fun h => ?_⟩
      obtain rfl : d = 'I' := by simpa using h
      exact absurd hd (by decide)
    · exact .inr digit
  | arr [], _, n + 1, rest, _, _ => by
    rw [encode, encodeItems, commaSeparated]
    change strictValue (n + 1) ('[' :: ']' :: rest) = _
    rw [strictValue]
    rfl
  | arr (v :: vs), h, n + 1, rest, hn, _ => by
    rw [plain_arr_iff] at h
    rw [encode] at hn ⊢
    have hitems := strictItems_encode ascii v vs h n rest (by simpa using hn)
    obtain ⟨c, cs, hc, hstart⟩ := encodeItems_start ascii h
    rw [hc, List.cons_append] at hitems
    rw [hc]
    simp only [List.cons_append, List.append_assoc, List.nil_append]
    rw [strictValue, skipSpace_start _ hstart]
    split
    · rename_i heq
      obtain ⟨rfl, -⟩ := List.cons.inj heq
      exact absurd hstart (by decide)
    · rw [hitems]
      rfl
  | obj [], _, n + 1, rest, _, _ => by
    rw [encode_obj]
    change strictValue (n + 1) ('{' :: '}' :: rest) = _
    rw [strictValue]
    rfl
  | obj (kv :: fs), h, n + 1, rest, hn, _ => by
    rw [plain_obj_iff] at h
    rw [encode_obj] at hn ⊢
    have hfields := strictFields_encode ascii kv fs h.2 n rest (by simpa using hn)
    obtain ⟨cs, hc⟩ := encodeMembers_start ascii kv fs
    rw [hc, List.cons_append] at hfields
    rw [hc]
    simp only [List.cons_append, List.append_assoc, List.nil_append]
    rw [strictValue, skipSpace_start _ (by decide)]
    split
    · rename_i heq
      exact absurd (List.cons.inj heq).1 (by decide)
    · rw [hfields, bind_eq_ok]
      refine ⟨_, rfl, ?_⟩
      rw [bind_eq_ok]
      exact ⟨_, hooked_eq_ok.2 ⟨h.1, rfl⟩, rfl⟩

theorem strictItems_encode (ascii : Bool) : ∀ v vs, (∀ w ∈ v :: vs, plain w = true) → ∀ n rest,
    (commaSeparated (encodeItems ascii false (v :: vs))).length + 1 ≤ n →
    strictItems n (commaSeparated (encodeItems ascii false (v :: vs)) ++ ']' :: rest) = .ok (v :: vs, rest)
  | v, [], h, n + 1, rest, hn => by
    rw [List.forall_mem_cons] at h
    rw [encodeItems, encodeItems, commaSeparated] at hn ⊢
    have hv := strictValue_encode ascii v h.1 n (']' :: rest) (by omega) (stops_cons rest (by simp))
    rw [strictItems, bind_eq_ok]
    exact ⟨_, hv, rfl⟩
  | v, w :: vs, h, n + 1, rest, hn => by
    rw [List.forall_mem_cons] at h
    have hcomma : commaSeparated (encodeItems ascii false (v :: w :: vs)) =
        encode ascii false v ++ ',' :: commaSeparated (encodeItems ascii false (w :: vs)) := rfl
    rw [hcomma] at hn ⊢
    rw [List.length_append, List.length_cons] at hn
    have hv := strictValue_encode ascii v h.1 n (',' :: (commaSeparated (encodeItems ascii false (w :: vs)) ++
      ']' :: rest)) (by omega) (stops_cons _ (by simp))
    have hvs := strictItems_encode ascii w vs h.2 n rest (by omega)
    obtain ⟨c, cs, hc, hstart⟩ := encodeItems_start ascii h.2
    rw [List.append_assoc, List.cons_append, strictItems, bind_eq_ok]
    refine ⟨_, hv, ?_⟩
    rw [hc, List.cons_append] at hvs ⊢
    simp only [skipSpace_separator, skipSpace_start _ hstart, hvs]
    rfl

theorem strictFields_encode (ascii : Bool) : ∀ kv fs, (∀ e ∈ kv :: fs, plain e.2 = true) → ∀ n rest,
    (commaSeparated ((kv :: fs).map (encodeMember ascii))).length + 1 ≤ n →
    strictFields n (commaSeparated ((kv :: fs).map (encodeMember ascii)) ++ '}' :: rest) = .ok (kv :: fs, rest)
  | (k, v), [], h, n + 1, rest, hn => by
    rw [List.forall_mem_cons] at h
    have hmember : commaSeparated ([(k, v)].map (encodeMember ascii)) =
        encodeStr ascii k ++ ':' :: encode ascii false v := rfl
    rw [hmember] at hn ⊢
    rw [List.length_append, List.length_cons] at hn
    have hv := strictValue_encode ascii v h.1 n ('}' :: rest) (by omega) (stops_cons rest (by simp))
    obtain ⟨cs, hcs, hscan⟩ := scanString_encodeStr ascii k
      (':' :: (encode ascii false v ++ '}' :: rest))
    rw [List.append_assoc, List.cons_append, hcs, strictFields, hscan, bind_eq_ok]
    refine ⟨_, rfl, ?_⟩
    simp only [skipSpace_separator, skipSpace_encode ascii h.1, hv]
    simp [bind, Except.bind, pure, Except.pure]
  | (k, v), kv :: fs, h, n + 1, rest, hn => by
    rw [List.forall_mem_cons] at h
    have hmember : commaSeparated (((k, v) :: kv :: fs).map (encodeMember ascii)) =
        encodeStr ascii k ++ ':' :: (encode ascii false v ++
          ',' :: commaSeparated ((kv :: fs).map (encodeMember ascii))) := by
      rw [List.map_cons, List.map_cons, commaSeparated, encodeMember, List.append_assoc, List.cons_append]
      exact List.cons_ne_nil _ _
    rw [hmember] at hn ⊢
    rw [List.length_append, List.length_cons, List.length_append, List.length_cons] at hn
    have hv := strictValue_encode ascii v h.1 n (',' :: (commaSeparated ((kv :: fs).map (encodeMember ascii)) ++
      '}' :: rest)) (by omega) (stops_cons _ (by simp))
    have hfs := strictFields_encode ascii kv fs h.2 n rest (by omega)
    obtain ⟨ds, hds⟩ := encodeMembers_start ascii kv fs
    obtain ⟨cs, hcs, hscan⟩ := scanString_encodeStr ascii k (':' :: (encode ascii false v ++
      ',' :: (commaSeparated ((kv :: fs).map (encodeMember ascii)) ++ '}' :: rest)))
    rw [List.append_assoc, List.cons_append, List.append_assoc, List.cons_append, hcs, strictFields, hscan,
      bind_eq_ok]
    refine ⟨_, rfl, ?_⟩
    rw [hds, List.cons_append] at hfs hv
    simp only [skipSpace_separator, skipSpace_encode ascii h.1, hv, hds, List.cons_append]
    simp [bind, Except.bind, pure, Except.pure, skipSpace_quote, hfs]

end

theorem scanValue_encode (ascii : Bool) {v : Json} (h : plain v = true) {n : ℕ} {rest : List Char}
    (hn : (encode ascii false v).length ≤ n) (stops : Stops rest) :
    scanValue n (encode ascii false v ++ rest) = some (v, rest) :=
  (scan_of_strict n).1 _ _ _ (strictValue_encode ascii v h n rest hn stops)

/-! ## Documents -/

/-- What `json.dumps` writes with sorted keys is read back, also with white space after it. -/
theorem strictLoads_dumps_append (ascii : Bool) {v : Json} (h : plain v = true) (tail : String)
    (stops : Stops tail.toList) (blank : skipSpace tail.toList = []) :
    strictLoads (dumps ascii v ++ tail) = .ok (canonical v) := by
  have hc := plain_canonical v h
  have htext : (dumps ascii v ++ tail).toList = encode ascii false (canonical v) ++ tail.toList := by
    rw [String.toList_append, dumps, String.toList_ofList, encode_canonical]
  have hscan := strictValue_encode ascii (canonical v) hc
    ((encode ascii false (canonical v) ++ tail.toList).length + 1) tail.toList
    (by rw [List.length_append]; omega) stops
  rw [strictLoads, htext, skipSpace_encode ascii hc, hscan, bind_eq_ok]
  refine ⟨_, rfl, ?_⟩
  simp [blank, pure, Except.pure]

theorem loads_dumps_append (ascii : Bool) {v : Json} (h : plain v = true) (tail : String)
    (stops : Stops tail.toList) (blank : skipSpace tail.toList = []) :
    loads (dumps ascii v ++ tail) = some (canonical v) :=
  loads_of_strict (strictLoads_dumps_append ascii h tail stops blank)

theorem loads_dumps (ascii : Bool) {v : Json} (h : plain v = true) :
    loads (dumps ascii v) = some (canonical v) := by
  have := loads_dumps_append ascii h "" stops_nil rfl
  rwa [String.append_empty] at this

/-- Two plain values with the same text are the same value, but for the order of members. -/
theorem canonical_eq_of_dumps (ascii : Bool) {v w : Json} (hv : plain v = true) (hw : plain w = true)
    (h : dumps ascii v = dumps ascii w) : canonical v = canonical w := by
  have hread := loads_dumps ascii hv
  rw [h, loads_dumps ascii hw] at hread
  exact (Option.some.inj hread).symm

end Python.Json
