import Mathlib.Data.List.Sort
import Zkdeal.Python.Float
import Zkdeal.Python.Text

/-!
# JSON values

The values `json.loads` returns and `json.dumps(sort_keys=True, separators=(",", ":"))` accepts,
with Python's `==`, `bool`, `isinstance`, `int` and `str` on them.  A `dict` is a list of its
items in insertion order, one for each key.
-/

namespace Python

/-- A value of `json.loads`. -/
inductive Json : Type where
  | null
  | bool (b : Bool)
  | int (n : ℤ)
  | float (x : Float)
  | str (s : String)
  | arr (items : List Json)
  | obj (fields : List (String × Json))

/-- The items of a `dict` with text keys. -/
abbrev Dict := List (String × Json)

namespace Dict

/-- `d.get(key)`. -/
def get (d : Dict) (key : String) : Option Json := d.lookup key

/-- `d[key] = value`. -/
def set (d : Dict) (key : String) (value : Json) : Dict :=
  if (d.get key).isSome then d.map fun kv => if kv.1 = key then (key, value) else kv
  else d ++ [(key, value)]

theorem set_ne_nil (d : Dict) (key : String) (value : Json) : d.set key value ≠ [] := by
  unfold set
  split
  · rename_i h
    rintro he
    rw [List.map_eq_nil_iff] at he
    simp [he, get] at h
  · simp

/-- The `dict` of a list of items, later ones replacing earlier ones. -/
def ofItems (items : List (String × Json)) : Dict := items.foldl (fun d kv => d.set kv.1 kv.2) []

/-- `set(d) == keys`. -/
def hasKeys (d : Dict) (keys : List String) : Bool :=
  d.all (fun kv => keys.contains kv.1) && keys.all fun key => (d.get key).isSome

/-- The items sorted by key, as `json.dumps(sort_keys=True)` writes them. -/
def sorted (d : Dict) : Dict := d.insertionSort fun a b => a.1 ≤ b.1

/-- Sorting is stable, so a key still has its first value. -/
theorem get_sorted (d : Dict) (key : String) : d.sorted.get key = d.get key := by
  have insert (kv : String × Json) (d : Dict) :
      get (d.orderedInsert (fun a b => a.1 ≤ b.1) kv) key = get (kv :: d) key := by
    induction d with
    | nil => rfl
    | cons e d ih =>
      rw [List.orderedInsert]
      by_cases hle : kv.1 ≤ e.1
      · rw [if_pos hle]
      · rw [if_neg hle]
        unfold get at ih ⊢
        rw [List.lookup_cons, ih, List.lookup_cons, List.lookup_cons, List.lookup_cons]
        have hne : kv.1 ≠ e.1 := fun h => hle (h ▸ String.le_refl _)
        by_cases he : key = e.1
        · have hkv : (e.1 == kv.1) = false := by simpa using hne.symm
          simp [he, hkv]
        · have hke : (key == e.1) = false := by simpa using he
          simp [hke]
  induction d with
  | nil => rfl
  | cons kv d ih =>
    rw [sorted, List.insertionSort_cons, insert]
    unfold get at ih ⊢
    rw [List.lookup_cons, List.lookup_cons]
    unfold sorted at ih
    rw [ih]

theorem sorted_sorted (d : Dict) : d.sorted.sorted = d.sorted :=
  List.Pairwise.insertionSort_eq (List.pairwise_insertionSort _ d)

theorem get_mapValues (d : Dict) (f : String → Json → Json) (key : String) :
    get (d.map fun kv => (kv.1, f kv.1 kv.2)) key = (d.get key).map (f key) := by
  unfold get
  induction d with
  | nil => rfl
  | cons kv d ih =>
    rw [List.map_cons, List.lookup_cons, List.lookup_cons]
    by_cases same : key = kv.1
    · rw [beq_iff_eq.2 same, same]
      rfl
    · rw [beq_eq_false_iff_ne.2 same]
      exact ih

theorem get_set (a : Dict) (key key' : String) (value : Json) :
    (a.set key value).get key' = if key' = key then some value else a.get key' := by
  unfold set
  by_cases present : (a.get key).isSome = true
  · rw [if_pos present]
    have values : (a.map fun kv => if kv.1 = key then (key, value) else kv) =
        a.map fun kv => (kv.1, if kv.1 = key then value else kv.2) := by
      refine List.map_congr_left fun kv _ => ?_
      split
      · rename_i same
        rw [same]
      · rfl
    rw [values, get_mapValues a fun k v => if k = key then value else v]
    by_cases same : key' = key
    · obtain ⟨v, hv⟩ := Option.isSome_iff_exists.1 present
      rw [same, hv]
      simp
    · simp only [if_neg same]
      exact Option.map_id'
  · rw [if_neg present]
    rw [Option.not_isSome_iff_eq_none, get] at present
    rw [get, List.lookup_append, List.lookup_cons, List.lookup_nil]
    by_cases same : key' = key
    · rw [same, if_pos rfl, beq_self_eq_true, present]
      rfl
    · rw [if_neg same, beq_eq_false_iff_ne.2 same]
      exact Option.or_none

theorem hasKeys_iff {d : Dict} {keys : List String} :
    d.hasKeys keys = true ↔ (∀ kv ∈ d, kv.1 ∈ keys) ∧ ∀ key ∈ keys, (d.get key).isSome = true := by
  simp [hasKeys]

theorem hasKeys_sorted (d : Dict) (keys : List String) : d.sorted.hasKeys keys = d.hasKeys keys := by
  have same (kv : String × Json) : kv ∈ d.sorted ↔ kv ∈ d := List.mem_insertionSort _
  rw [Bool.eq_iff_iff, hasKeys_iff, hasKeys_iff]
  simp only [get_sorted, same]

theorem hasKeys_mapValues (d : Dict) (f : String → Json → Json) (keys : List String) :
    hasKeys (d.map fun kv => (kv.1, f kv.1 kv.2)) keys = d.hasKeys keys := by
  rw [Bool.eq_iff_iff, hasKeys_iff, hasKeys_iff]
  simp only [get_mapValues, Option.isSome_map, List.forall_mem_map]

/-- An item of one of the keys may be replaced. -/
theorem hasKeys_set {d : Dict} {keys : List String} (h : d.hasKeys keys = true) {key : String} (hkey : key ∈ keys)
    (value : Json) : (d.set key value).hasKeys keys = true := by
  obtain ⟨all, present⟩ := hasKeys_iff.1 h
  refine hasKeys_iff.2 ⟨fun kv hkv => ?_, fun key' hkey' => ?_⟩
  · rw [set, if_pos (present key hkey), List.mem_map] at hkv
    obtain ⟨kv', hkv', rfl⟩ := hkv
    split
    · exact hkey
    · exact all kv' hkv'
  · rw [get_set]
    split
    · rfl
    · exact present key' hkey'

end Dict

namespace Json

/-- `bool(value)`. -/
def truthy : Json → Bool
  | null => false
  | bool b => b
  | int n => n ≠ 0
  | float x => exact x ≠ some 0
  | str s => s ≠ ""
  | arr items => !items.isEmpty
  | obj fields => !fields.isEmpty

/-- `isinstance(value, int)`: a Python `bool` is an `int`. -/
def isInt : Json → Bool
  | int _ | bool _ => true
  | _ => false

/-- `value is b`. -/
def isBool (b : Bool) : Json → Bool
  | bool c => c = b
  | _ => false

/-- The exact value of a number; a `bool` is one too. -/
def number : Json → Option ℚ
  | int n => some n
  | bool b => some (if b then 1 else 0)
  | float x => exact x
  | _ => none

mutual

/-- `a == b`. -/
def eq : Json → Json → Bool
  | null, null => true
  | str s, str t => s = t
  | arr as, arr bs => eqItems as bs
  | obj as, obj bs => as.length = bs.length && eqFields as bs
  | float x, float y => x == y
  | a, b =>
    match number a, number b with
    | some p, some q => p = q
    | _, _ => false

def eqItems : List Json → List Json → Bool
  | [], [] => true
  | a :: as, b :: bs => eq a b && eqItems as bs
  | _, _ => false

def eqFields : List (String × Json) → List (String × Json) → Bool
  | [], _ => true
  | (k, a) :: as, bs =>
    (match bs.lookup k with
      | some b => eq a b
      | none => false) && eqFields as bs

end

mutual

/-- The same value, and not only an equal one. -/
def same : Json → Json → Bool
  | null, null => true
  | bool b, bool c => b = c
  | int m, int n => m = n
  | float x, float y => x = y
  | str s, str t => s = t
  | arr as, arr bs => sameItems as bs
  | obj as, obj bs => sameFields as bs
  | _, _ => false

def sameItems : List Json → List Json → Bool
  | [], [] => true
  | a :: as, b :: bs => same a b && sameItems as bs
  | _, _ => false

def sameFields : List (String × Json) → List (String × Json) → Bool
  | [], [] => true
  | (k, a) :: as, (l, b) :: bs => decide (k = l) && same a b && sameFields as bs
  | _, _ => false

end

mutual

theorem same_iff : ∀ a b, same a b = true ↔ a = b
  | null, b | bool _, b | int _, b | float _, b | str _, b => by cases b <;> simp [same]
  | arr as, b => by cases b <;> simp [same, sameItems_iff as]
  | obj as, b => by cases b <;> simp [same, sameFields_iff as]

theorem sameItems_iff : ∀ as bs, sameItems as bs = true ↔ as = bs
  | [], bs => by cases bs <;> simp [sameItems]
  | a :: as, bs => by cases bs <;> simp [sameItems, same_iff a, sameItems_iff as]

theorem sameFields_iff : ∀ as bs : List (String × Json), sameFields as bs = true ↔ as = bs
  | [], bs => by cases bs <;> simp [sameFields]
  | (k, a) :: as, bs => by
    cases bs with
    | nil => simp [sameFields]
    | cons kv bs => simp [sameFields, same_iff a, sameFields_iff as, Prod.ext_iff]

end

instance : DecidableEq Json := fun a b => decidable_of_iff _ (same_iff a b)

/-- `value == text`. -/
def eqStr (text : String) : Json → Bool
  | str s => s = text
  | _ => false

/-- `str(value)` of a scalar; the text of a container starts with a bracket or a brace. -/
def text : Json → Option String
  | null => some "None"
  | bool b => some (if b then "True" else "False")
  | int n => some (toString n)
  | float x => some (reprFloat x)
  | str s => some s
  | _ => none

/-- `int(value)`, where it does not raise. -/
def toInt : Json → Option ℤ
  | bool b => some (if b then 1 else 0)
  | int n => some n
  | float x => intOfFloat x
  | str s => intOfStr s
  | _ => none

/-! ## Serialization -/

/-- The four lower-case hexadecimal digits of a UTF-16 code unit. -/
def hex4 (n : ℕ) : List Char :=
  [n / 4096 % 16, n / 256 % 16, n / 16 % 16, n % 16].map Nat.digitChar

/-- One character of an encoded text; `ascii` is `ensure_ascii`. -/
def escape (ascii : Bool) (c : Char) : List Char :=
  let n := c.toNat
  if c = '"' then ['\\', '"']
  else if c = '\\' then ['\\', '\\']
  else if c = '\n' then ['\\', 'n']
  else if c = '\r' then ['\\', 'r']
  else if c = '\t' then ['\\', 't']
  else if n = 0x08 then ['\\', 'b']
  else if n = 0x0c then ['\\', 'f']
  else if n < 0x20 then '\\' :: 'u' :: hex4 n
  else if ascii && 0x7e < n then
    if n < 0x10000 then '\\' :: 'u' :: hex4 n
    else '\\' :: 'u' :: hex4 (0xd800 + (n - 0x10000) / 0x400) ++
      '\\' :: 'u' :: hex4 (0xdc00 + (n - 0x10000) % 0x400)
  else [c]

def encodeStr (ascii : Bool) (s : String) : List Char :=
  '"' :: s.toList.flatMap (escape ascii) ++ ['"']

/-- The text of a float; `repr` spells the non-finite ones differently. -/
def encodeFloat (x : Float) : List Char :=
  match x.toModel.unpack with
  | .infinity .positive => "Infinity".toList
  | .infinity .negative => "-Infinity".toList
  | .notANumber => "NaN".toList
  | _ => (reprFloat x).toList

/-- Put separators between the members of a container. -/
def commaSeparated : List (List Char) → List Char
  | [] => []
  | [m] => m
  | m :: ms => m ++ ',' :: commaSeparated ms

/-- The members of an object, sorted by key or as they are. -/
def encodeMembers (ascii sortKeys : Bool) (members : List (String × List Char)) : List Char :=
  commaSeparated
    ((if sortKeys then members.insertionSort (fun a b => a.1 ≤ b.1) else members).map fun m =>
      encodeStr ascii m.1 ++ ':' :: m.2)

mutual

/-- `json.dumps(value, sort_keys=sortKeys, separators=(",", ":"), ensure_ascii=ascii)`. -/
def encode (ascii sortKeys : Bool) : Json → List Char
  | null => "null".toList
  | bool true => "true".toList
  | bool false => "false".toList
  | int n => (toString n).toList
  | float x => encodeFloat x
  | str s => encodeStr ascii s
  | arr items => '[' :: commaSeparated (encodeItems ascii sortKeys items) ++ [']']
  | obj fields =>
    '{' :: encodeMembers ascii sortKeys (encodeFields ascii sortKeys fields) ++ ['}']

def encodeItems (ascii sortKeys : Bool) : List Json → List (List Char)
  | [] => []
  | v :: vs => encode ascii sortKeys v :: encodeItems ascii sortKeys vs

def encodeFields (ascii sortKeys : Bool) : List (String × Json) → List (String × List Char)
  | [] => []
  | (k, v) :: fs => (k, encode ascii sortKeys v) :: encodeFields ascii sortKeys fs

end

mutual

/-- No integer has more than 4300 digits; Python refuses to print those. -/
def printable : Json → Bool
  | int n => (Nat.toDigits 10 n.natAbs).length ≤ 4300
  | arr items => printableItems items
  | obj fields => printableFields fields
  | _ => true

def printableItems : List Json → Bool
  | [] => true
  | v :: vs => printable v && printableItems vs

def printableFields : List (String × Json) → Bool
  | [] => true
  | (_, v) :: fs => printable v && printableFields fs

end

theorem printableFields_iff {fields : List (String × Json)} :
    printableFields fields = true ↔ ∀ kv ∈ fields, printable kv.2 = true := by
  induction fields with
  | nil => simp [printableFields]
  | cons kv fields ih => simp [printableFields, ih]

theorem printableFields_append (fields fields' : List (String × Json)) :
    printableFields (fields ++ fields') = (printableFields fields && printableFields fields') := by
  induction fields with
  | nil => rfl
  | cons kv fields ih => rw [List.cons_append, printableFields, printableFields, ih, Bool.and_assoc]

theorem printableFields_sorted (d : Dict) : printableFields d.sorted = printableFields d := by
  have perm := List.perm_insertionSort (fun a b : String × Json => a.1 ≤ b.1) d
  rw [Bool.eq_iff_iff, printableFields_iff, printableFields_iff]
  exact ⟨fun h kv hkv => h kv (perm.mem_iff.2 hkv), fun h kv hkv => h kv (perm.mem_iff.1 hkv)⟩

/-- `json.dumps` with sorted keys. -/
def dumps (ascii : Bool) (v : Json) : String := .ofList (encode ascii true v)

/-- `json.dumps` with the keys in insertion order. -/
def dumpsUnsorted (v : Json) : String := .ofList (encode true false v)

/-! ## Parsing -/

/-- The value of four hexadecimal digits. -/
def hex4Value (a b c d : Char) : Option ℕ := do
  return 4096 * (← hexDigit a) + 256 * (← hexDigit b) + 16 * (← hexDigit c) + (← hexDigit d)

/-- The character a one-letter escape stands for. -/
def unescape : Char → Option Char
  | '"' => some '"'
  | '\\' => some '\\'
  | '/' => some '/'
  | 'b' => some (.ofNat 0x08)
  | 'f' => some (.ofNat 0x0c)
  | 'n' => some '\n'
  | 'r' => some '\r'
  | 't' => some '\t'
  | _ => none

/-- The rest of a string and what follows its closing quote.  A lone surrogate, which is not a
Unicode scalar value, is not read. -/
def scanString : List Char → Option (List Char × List Char)
  | [] => none
  | '"' :: cs => some ([], cs)
  | '\\' :: 'u' :: a :: b :: c :: d :: cs => do
    let n ← hex4Value a b c d
    if n < 0xd800 ∨ 0xdfff < n then
      let (s, rest) ← scanString cs
      return (.ofNat n :: s, rest)
    else if n < 0xdc00 then
      match cs with
      | '\\' :: 'u' :: e :: f :: g :: h :: cs =>
        let m ← hex4Value e f g h
        if 0xdc00 ≤ m ∧ m ≤ 0xdfff then
          let (s, rest) ← scanString cs
          return (.ofNat (0x10000 + (n - 0xd800) * 0x400 + (m - 0xdc00)) :: s, rest)
        else none
      | _ => none
    else none
  | '\\' :: c :: cs => do
    let (s, rest) ← scanString cs
    return ((← unescape c) :: s, rest)
  | c :: cs => do
    if c.toNat < 0x20 then none
    else
      let (s, rest) ← scanString cs
      return (c :: s, rest)

/-- The digits at the start of a text, with their number, and what follows. -/
def spanDigits (cs : List Char) : List Char × List Char := cs.span isDigit09

def digitsNat (cs : List Char) : ℕ := cs.foldl (fun n c => 10 * n + (c.toNat - '0'.toNat)) 0

/-- The fraction of a number, if it has one. -/
def scanFraction : List Char → List Char × List Char
  | '.' :: c :: cs => if isDigit09 c then spanDigits (c :: cs) else ([], '.' :: c :: cs)
  | cs => ([], cs)

/-- The exponent of a number, if it has one. -/
def scanExponent (cs : List Char) : Option ℤ × List Char :=
  let digits (negative : Bool) (tail : List Char) : Option ℤ × List Char :=
    match spanDigits tail with
    | ([], _) => (none, cs)
    | (ds, rest) => (some (if negative then -(digitsNat ds : ℤ) else digitsNat ds), rest)
  match cs with
  | e :: tail =>
    if e = 'e' ∨ e = 'E' then
      match tail with
      | '+' :: tail => digits false tail
      | '-' :: tail => digits true tail
      | tail => digits false tail
    else (none, cs)
  | [] => (none, cs)

/-- An unsigned number: an integer of at most 4300 digits, or a float. -/
def scanMagnitude (negative : Bool) (cs : List Char) : Option (Json × List Char) :=
  match cs with
  | [] => none
  | c :: tail => do
    let (whole, rest) ← if c = '0' then some (['0'], tail)
      else if isDigit09 c then some (spanDigits cs) else none
    let (fraction, rest) := scanFraction rest
    let (exponent, rest) := scanExponent rest
    if fraction = [] ∧ exponent = none then
      if 4300 < whole.length then none
      else some (.int (if negative then -(digitsNat whole : ℤ) else digitsNat whole), rest)
    else
      some (.float (decimal negative (digitsNat (whole ++ fraction))
        (fraction.length - exponent.getD 0)), rest)

def scanNumber : List Char → Option (Json × List Char)
  | '-' :: cs => scanMagnitude true cs
  | cs => scanMagnitude false cs

def skipSpace (cs : List Char) : List Char :=
  cs.dropWhile fun c => c = ' ' || c = '\t' || c = '\n' || c = '\r'

mutual

/-- A value, and what follows it.  The first argument bounds the depth of the recursion. -/
def scanValue : ℕ → List Char → Option (Json × List Char)
  | 0, _ => none
  | _ + 1, 'n' :: 'u' :: 'l' :: 'l' :: cs => some (null, cs)
  | _ + 1, 't' :: 'r' :: 'u' :: 'e' :: cs => some (bool true, cs)
  | _ + 1, 'f' :: 'a' :: 'l' :: 's' :: 'e' :: cs => some (bool false, cs)
  | _ + 1, 'N' :: 'a' :: 'N' :: cs => some (float (.ofModel (.pack .notANumber)), cs)
  | _ + 1, 'I' :: 'n' :: 'f' :: 'i' :: 'n' :: 'i' :: 't' :: 'y' :: cs =>
    some (float (.ofModel (.pack (.infinity .positive))), cs)
  | _ + 1, '-' :: 'I' :: 'n' :: 'f' :: 'i' :: 'n' :: 'i' :: 't' :: 'y' :: cs =>
    some (float (.ofModel (.pack (.infinity .negative))), cs)
  | _ + 1, '"' :: cs => do
    let (s, rest) ← scanString cs
    return (str (.ofList s), rest)
  | n + 1, '[' :: cs =>
    match skipSpace cs with
    | ']' :: rest => some (arr [], rest)
    | cs => do
      let (items, rest) ← scanItems n cs
      return (arr items, rest)
  | n + 1, '{' :: cs =>
    match skipSpace cs with
    | '}' :: rest => some (obj [], rest)
    | cs => do
      let (items, rest) ← scanFields n cs
      return (obj (Dict.ofItems items), rest)
  | _ + 1, cs => scanNumber cs

/-- The items of an array, up to its closing bracket. -/
def scanItems : ℕ → List Char → Option (List Json × List Char)
  | 0, _ => none
  | n + 1, cs => do
    let (v, rest) ← scanValue n cs
    match skipSpace rest with
    | ']' :: rest => return ([v], rest)
    | ',' :: rest =>
      let (vs, rest) ← scanItems n (skipSpace rest)
      return (v :: vs, rest)
    | _ => none

/-- The items of an object, up to its closing brace. -/
def scanFields : ℕ → List Char → Option (List (String × Json) × List Char)
  | 0, _ => none
  | n + 1, '"' :: cs => do
    let (k, rest) ← scanString cs
    match skipSpace rest with
    | ':' :: rest =>
      let (v, rest) ← scanValue n (skipSpace rest)
      match skipSpace rest with
      | '}' :: rest => return ([(.ofList k, v)], rest)
      | ',' :: rest =>
        let (fs, rest) ← scanFields n (skipSpace rest)
        return ((.ofList k, v) :: fs, rest)
      | _ => none
    | _ => none
  | _ + 1, _ => none

end

/-- `json.loads(s)`, where it does not raise. -/
def loads (s : String) : Option Json :=
  match scanValue (s.toList.length + 1) (skipSpace s.toList) with
  | some (v, rest) => if (skipSpace rest).isEmpty then some v else none
  | none => none

example : (loads " \x7b\"b\" : [1.50, -3, \"\\u00e9\\ud83d\\ude00\"], \"a\":null, \"b\":1e3\x7d ").map
    (dumps true) = some "\x7b\"a\":null,\"b\":1000.0\x7d" := by decide +kernel

example : (loads "[1.50,-3,\"\\u00e9\\ud83d\\ude00\"]").map (dumps true) =
    some "[1.5,-3,\"\\u00e9\\ud83d\\ude00\"]" := by decide +kernel

end Json

end Python
