import Zkdeal.Codes.SelfDelimiting
import Zkdeal.Python.Integer
import Zkdeal.Soak.Events

/-!
# Recursive length prefix

`rlp_encode` writes the transactions that the driver signs.  Its output is the RLP form of a tree of byte
strings (`rlpEncode_eq_ok`), which the decoder of the driver's tests reads back (`split_encode`).
-/

namespace Zkdeal.OwnerSoak

open Python Soak Codes

/-! ## The encoder -/

/-- A value that `rlp_encode` is given. -/
inductive Item : Type where
  | list (items : List Item)
  | bool (b : Bool)
  | int (n : ℤ)
  | bytes (b : Bytes)
  | other (typeName : String)

/-- `_rlp_prefix(length, offset)` -/
def rlpPrefix (length offset : ℕ) : Except Raised Bytes :=
  if length < 56 then .ok [.ofNat (offset + length)]
  else
    let encoded := toBig (byteLength length) length
    if offset + 55 + encoded.length < 256 then .ok (.ofNat (offset + 55 + encoded.length) :: encoded)
    else .error .valueError

/-- A byte below `0x80` is its own encoding. -/
def isSmall (payload : Bytes) : Bool :=
  match payload with
  | [byte] => byte < 0x80
  | _ => false

/-- `rlp_encode` of a payload that is not a list's. -/
def rlpString (payload : Bytes) : Except Raised Bytes :=
  if isSmall payload then .ok payload
  else do return (← rlpPrefix payload.length 0x80) ++ payload

mutual

/-- `rlp_encode(item)` -/
def rlpEncode : Item → Except Raised Bytes
  | .list items => do
    let payload ← rlpEncodeAll items
    return (← rlpPrefix payload.length 0xC0) ++ payload
  | .bool _ => .error (.driverError "RLP does not encode booleans")
  | .int n =>
    if n < 0 then .error (.driverError "RLP does not encode negative integers")
    else rlpString (if n ≠ 0 then toBig (byteLength n.toNat) n.toNat else [])
  | .bytes b => rlpString b
  | .other typeName => .error (.driverError ("RLP cannot encode " ++ typeName))

/-- `b"".join(rlp_encode(entry) for entry in items)` -/
def rlpEncodeAll : List Item → Except Raised Bytes
  | [] => .ok []
  | item :: items => do
    let first ← rlpEncode item
    return first ++ (← rlpEncodeAll items)

end

/-! ## Trees -/

/-- Byte strings in nested lists. -/
inductive Tree : Type where
  | bytes (b : Bytes)
  | list (trees : List Tree)

/-- The digits of a number to the base 256, the highest first; zero has none. -/
def minimalBytes (n : ℕ) : Bytes := ((Nat.digits 256 n).map UInt8.ofNat).reverse

theorem minimalBytes_eq_iff {n : ℕ} {b : Bytes} : minimalBytes n = b ↔ fromBig b = n ∧ b.head? ≠ some 0 := by
  have hvalue (m : ℕ) : fromBig (minimalBytes m) = m := by
    rw [minimalBytes, ← toBig_byteLength, fromBig_toBig_of_lt (lt_byteLength m)]
  constructor
  · rintro rfl
    refine ⟨hvalue n, ?_⟩
    by_cases hzero : n = 0
    · simp [minimalBytes, hzero]
    · have hlast := Nat.getLast_digit_ne_zero 256 hzero
      have hdigits : Nat.digits 256 n ≠ [] := Nat.digits_ne_nil_iff_ne_zero.2 hzero
      have hlt : (Nat.digits 256 n).getLast hdigits < 256 := Nat.digits_lt_base (by omega) (List.getLast_mem hdigits)
      rw [minimalBytes, List.head?_reverse, List.getLast?_map, List.getLast?_eq_some_getLast hdigits]
      intro hbyte
      have hbyte : (UInt8.ofNat ((Nat.digits 256 n).getLast hdigits)).toNat = 0 := by
        rw [Option.some.inj hbyte]
        rfl
      rw [toNat_ofNat_byte hlt] at hbyte
      exact hlast hbyte
  · rintro ⟨rfl, hhead⟩
    have hlength : byteLength (fromBig b) = b.length := by
      refine le_antisymm (byteLength_le_iff.2 (fromBig_lt b)) ?_
      cases b with
      | nil => simp
      | cons byte b =>
        have hpos : byte.toNat ≠ 0 := by
          intro hzero
          exact hhead (congrArg some (UInt8.toNat_inj.1 hzero))
        have hlow : 256 ^ b.length ≤ fromBig (byte :: b) := by
          rw [fromBig_cons]
          exact le_add_left (Nat.le_mul_of_pos_right _ (Nat.pos_of_ne_zero hpos))
        rw [List.length_cons, Nat.succ_le_iff, ← not_le, byteLength_le_iff]
        omega
    rw [minimalBytes, ← toBig_byteLength, hlength, toBig_fromBig]

mutual

/-- The structure of a nested list of byte strings and integers that are not negative. -/
def Item.tree : Item → Option Tree
  | .list items => (trees items).map .list
  | .int n => if n < 0 then none else some (.bytes (minimalBytes n.toNat))
  | .bytes b => some (.bytes b)
  | .bool _ | .other _ => none

def trees : List Item → Option (List Tree)
  | [] => some []
  | item :: items => do
    let first ← item.tree
    return first :: (← trees items)

end

/-- The header of a payload of a given length. -/
def header (offset length : ℕ) : Bytes :=
  if length < 56 then [.ofNat (offset + length)]
  else .ofNat (offset + 55 + byteLength length) :: toBig (byteLength length) length

mutual

/-- The RLP form of a tree. -/
def Tree.encode : Tree → Bytes
  | .bytes b => if isSmall b then b else header 0x80 b.length ++ b
  | .list trees => header 0xC0 (encodeAll trees).length ++ encodeAll trees

def encodeAll : List Tree → Bytes
  | [] => []
  | tree :: trees => tree.encode ++ encodeAll trees

end

/-- What a header stands in front of. -/
def Tree.payload : Tree → Bytes
  | .bytes b => b
  | .list trees => encodeAll trees

theorem length_payload_le (tree : Tree) : tree.payload.length ≤ tree.encode.length := by
  cases tree with
  | bytes b =>
    rw [Tree.payload, Tree.encode]
    split <;> simp
  | list trees => simp [Tree.payload, Tree.encode]

theorem byteLength_le_eight {n : ℕ} (h : n < 2 ^ 64) : byteLength n ≤ 8 := byteLength_le_iff.2 h

theorem rlpPrefix_eq_ok {length offset : ℕ} (h : length < 2 ^ 64) (hoffset : offset ≤ 0xC0) :
    rlpPrefix length offset = .ok (header offset length) := by
  have hbytes : byteLength length ≤ 8 := byteLength_le_eight h
  unfold rlpPrefix header
  by_cases hshort : length < 56
  · rw [if_pos hshort, if_pos hshort]
  · rw [if_neg hshort, if_neg hshort]
    simp only [length_toBig]
    rw [if_pos (by omega)]

theorem rlpString_eq_ok {b : Bytes} (h : b.length < 2 ^ 64) : rlpString b = .ok (Tree.bytes b).encode := by
  rw [rlpString, Tree.encode]
  by_cases hsmall : isSmall b
  · rw [if_pos hsmall, if_pos hsmall]
  · rw [if_neg hsmall, if_neg hsmall, rlpPrefix_eq_ok h (by omega)]
    rfl

mutual

/-- `rlp_encode` writes the RLP form of the structure of an item. -/
theorem rlpEncode_eq_ok : ∀ (item : Item) {tree : Tree}, item.tree = some tree → tree.payload.length < 2 ^ 64 →
    rlpEncode item = .ok tree.encode
  | .list items, tree, h, hlength => by
    rw [Item.tree, Option.map_eq_some_iff] at h
    obtain ⟨ts, hts, rfl⟩ := h
    rw [Tree.payload] at hlength
    have hheader : rlpPrefix (encodeAll ts).length 0xC0 = .ok (header 0xC0 (encodeAll ts).length) :=
      rlpPrefix_eq_ok hlength (by omega)
    rw [rlpEncode, rlpEncodeAll_eq_ok items hts hlength, Tree.encode]
    exact congrArg (fun r => r.map (· ++ encodeAll ts)) hheader
  | .int n, tree, h, hlength => by
    rw [Item.tree] at h
    by_cases hsign : n < 0
    · simp [hsign] at h
    · rw [if_neg hsign, Option.some.injEq] at h
      subst h
      have hpayload : (if n ≠ 0 then toBig (byteLength n.toNat) n.toNat else []) = minimalBytes n.toNat := by
        by_cases hzero : n = 0
        · subst hzero
          simp [minimalBytes]
        · rw [if_pos hzero, toBig_byteLength, minimalBytes]
      rw [rlpEncode, if_neg hsign, hpayload]
      exact rlpString_eq_ok hlength
  | .bytes b, tree, h, hlength => by
    rw [Item.tree, Option.some.injEq] at h
    subst h
    rw [rlpEncode]
    exact rlpString_eq_ok hlength
  | .bool _, tree, h, _ => by simp [Item.tree] at h
  | .other _, tree, h, _ => by simp [Item.tree] at h

theorem rlpEncodeAll_eq_ok : ∀ (items : List Item) {ts : List Tree}, trees items = some ts →
    (encodeAll ts).length < 2 ^ 64 → rlpEncodeAll items = .ok (encodeAll ts)
  | [], ts, h, _ => by
    obtain rfl : [] = ts := by simpa [trees] using h
    rfl
  | item :: items, ts, h, hlength => by
    simp only [trees, Option.bind_eq_bind, Option.bind_eq_some_iff] at h
    obtain ⟨t, ht, ts, hts, heq⟩ := h
    obtain rfl : t :: ts = _ := by simpa using heq
    rw [encodeAll, List.length_append] at hlength
    have hpayload := length_payload_le t
    rw [rlpEncodeAll, rlpEncode_eq_ok item ht (by omega), rlpEncodeAll_eq_ok items hts (by omega), encodeAll]
    rfl

end

/-! ## The decoder -/

/-- Where the payload of an item that begins with `first` starts, and how long it is. -/
def extent (first : ℕ) (data : Bytes) : ℕ × ℕ :=
  if first < 0xB8 then (1, first - 0x80)
  else if first < 0xC0 then
    let size := first - 0xB7
    (1 + size, fromBig ((data.drop 1).take size))
  else if first < 0xF8 then (1, first - 0xC0)
  else
    let size := first - 0xF7
    (1 + size, fromBig ((data.drop 1).take size))

theorem extent_pos (first : ℕ) (data : Bytes) : 0 < (extent first data).1 := by
  unfold extent
  split_ifs <;> simp

theorem length_drop_lt {data : Bytes} (hdata : data ≠ []) {n : ℕ} (hn : 0 < n) : (data.drop n).length < data.length := by
  have := List.length_pos_iff.2 hdata
  rw [List.length_drop]
  omega

/-- What follows an item is shorter than the item with it. -/
abbrev Remainder (data : Bytes) := { rest : Bytes // rest.length < data.length }

mutual

/-- `rlp_split(data)`; `data[0]` raises where there is no data. -/
def splitItem (data : Bytes) : Option (Tree × Remainder data) :=
  if hdata : data = [] then none
  else
    let first := (data.head hdata).toNat
    let start := (extent first data).1
    let length := (extent first data).2
    let body := (data.drop start).take length
    let rest : Remainder data :=
      ⟨data.drop (start + length), length_drop_lt hdata (Nat.add_pos_left (extent_pos first data) length)⟩
    if first < 0x80 then some (.bytes (data.take 1), ⟨data.drop 1, length_drop_lt hdata Nat.one_pos⟩)
    else if first < 0xC0 then some (.bytes body, rest)
    else (splitItems body).map fun items => (.list items, rest)
termination_by (data.length, 0)
decreasing_by
  apply Prod.Lex.left
  have := length_drop_lt hdata (extent_pos (data.head hdata).toNat data)
  rw [List.length_take]
  omega

/-- The items that `rlp_split` finds in the body of a list. -/
def splitItems (body : Bytes) : Option (List Tree) :=
  if body = [] then some []
  else do
    let (item, rest) ← splitItem body
    return item :: (← splitItems rest.1)
termination_by (body.length, 1)
decreasing_by
  · apply Prod.Lex.right
    omega
  · exact Prod.Lex.left _ _ rest.2

end

/-- `rlp_split(data)` -/
def rlpSplit (data : Bytes) : Option (Tree × Bytes) := (splitItem data).map fun (item, rest) => (item, rest.1)

theorem splitItems_nil : splitItems [] = some [] := by
  rw [splitItems, if_pos rfl]

theorem splitItems_of_split {data rest : Bytes} {tree : Tree} (hdata : data ≠ []) (h : rlpSplit data = some (tree, rest)) :
    splitItems data = (splitItems rest).map (tree :: ·) := by
  rw [rlpSplit, Option.map_eq_some_iff] at h
  obtain ⟨⟨item, remainder⟩, hitem, heq⟩ := h
  obtain ⟨rfl, rfl⟩ : item = tree ∧ remainder.1 = rest := by simpa using heq
  rw [splitItems, if_neg hdata, hitem, Option.map_eq_bind]
  rfl

theorem rlpSplit_small {byte : UInt8} (h : byte < 0x80) (rest : Bytes) :
    rlpSplit (byte :: rest) = some (.bytes [byte], rest) := by
  have hbyte : byte.toNat < 0x80 := h
  rw [rlpSplit, splitItem]
  simp [hbyte]

section Header

variable {offset : ℕ} {payload : Bytes}

/-- A header gives the extent of its payload, and its first byte tells strings from lists. -/
theorem extent_header (hoffset : offset = 0x80 ∨ offset = 0xC0) (hlength : payload.length < 2 ^ 64) (rest : Bytes) :
    ∃ first tail, header offset payload.length ++ (payload ++ rest) = first :: tail ∧
      offset ≤ first.toNat ∧ first.toNat < offset + 0x40 ∧
      extent first.toNat (first :: tail) = ((header offset payload.length).length, payload.length) := by
  unfold header
  by_cases hshort : payload.length < 56
  · have hfirst : (UInt8.ofNat (offset + payload.length)).toNat = offset + payload.length :=
      toNat_ofNat_byte (by omega)
    rw [if_pos hshort]
    refine ⟨_, _, rfl, by omega, by omega, ?_⟩
    rw [hfirst]
    unfold extent
    obtain rfl | rfl := hoffset
    · rw [if_pos (by omega)]
      simp
    · rw [if_neg (by omega), if_neg (by omega), if_pos (by omega)]
      simp
  · have hbytes : byteLength payload.length ≤ 8 := byteLength_le_eight hlength
    have hpos : 0 < byteLength payload.length := by
      by_contra hzero
      have := lt_byteLength payload.length
      rw [Nat.eq_zero_of_not_pos hzero] at this
      omega
    have hfirst : (UInt8.ofNat (offset + 55 + byteLength payload.length)).toNat = offset + 55 + byteLength payload.length :=
      toNat_ofNat_byte (by omega)
    have hsize : fromBig (List.take (byteLength payload.length)
        (toBig (byteLength payload.length) payload.length ++ (payload ++ rest))) = payload.length := by
      rw [List.take_left' (length_toBig _ _), fromBig_toBig_of_lt (lt_byteLength _)]
    rw [if_neg hshort]
    refine ⟨_, toBig (byteLength payload.length) payload.length ++ (payload ++ rest), rfl, by omega, by omega, ?_⟩
    rw [hfirst]
    unfold extent
    obtain rfl | rfl := hoffset
    · rw [if_neg (by omega), if_pos (by omega)]
      simp only [List.drop_succ_cons, List.drop_zero, List.length_cons, length_toBig]
      rw [show 0x80 + 55 + byteLength payload.length - 0xB7 = byteLength payload.length by omega, hsize, Nat.add_comm]
    · rw [if_neg (by omega), if_neg (by omega), if_neg (by omega)]
      simp only [List.drop_succ_cons, List.drop_zero, List.length_cons, length_toBig]
      rw [show 0xC0 + 55 + byteLength payload.length - 0xF7 = byteLength payload.length by omega, hsize, Nat.add_comm]

/-- A header and its payload are split off whatever follows. -/
theorem rlpSplit_header (hoffset : offset = 0x80 ∨ offset = 0xC0) (hlength : payload.length < 2 ^ 64) (rest : Bytes) :
    rlpSplit (header offset payload.length ++ (payload ++ rest)) =
      if offset = 0x80 then some (.bytes payload, rest) else (splitItems payload).map fun items => (.list items, rest) := by
  obtain ⟨first, tail, hdata, hlow, hhigh, hextent⟩ := extent_header hoffset hlength rest
  have hbody : List.take payload.length (List.drop (header offset payload.length).length (first :: tail)) = payload := by
    rw [← hdata, List.drop_left, List.take_left]
  have hrest : List.drop ((header offset payload.length).length + payload.length) (first :: tail) = rest := by
    rw [← hdata, ← List.append_assoc, ← List.length_append, List.drop_left]
  rw [hdata, rlpSplit, splitItem, dif_neg (List.cons_ne_nil _ _)]
  simp only [List.head_cons, hextent, hbody, hrest]
  obtain rfl | rfl := hoffset
  · rw [if_neg (by omega), if_pos (by omega), if_pos rfl]
    rfl
  · rw [if_neg (by omega), if_neg (by omega), if_neg (by omega), Option.map_map]
    rfl

end Header

mutual

/-- The decoder reads the RLP form of a tree in front of every text. -/
theorem rlpSplit_encode : ∀ (tree : Tree) (rest : Bytes), tree.payload.length < 2 ^ 64 →
    rlpSplit (tree.encode ++ rest) = some (tree, rest)
  | .bytes b, rest, hlength => by
    rw [Tree.payload] at hlength
    rw [Tree.encode]
    by_cases hsmall : isSmall b = true
    · rw [if_pos hsmall]
      unfold isSmall at hsmall
      split at hsmall
      · exact rlpSplit_small (of_decide_eq_true hsmall) rest
      · exact absurd hsmall (by simp)
    · rw [if_neg hsmall, List.append_assoc, rlpSplit_header (.inl rfl) hlength, if_pos rfl]
  | .list ts, rest, hlength => by
    rw [Tree.payload] at hlength
    have hitems : splitItems (encodeAll ts) = some ts := splitItems_encodeAll ts hlength
    rw [Tree.encode, List.append_assoc, rlpSplit_header (.inr rfl) hlength, if_neg (by omega), hitems]
    rfl

theorem splitItems_encodeAll : ∀ (ts : List Tree), (encodeAll ts).length < 2 ^ 64 → splitItems (encodeAll ts) = some ts
  | [], _ => splitItems_nil
  | t :: ts, hlength => by
    rw [encodeAll, List.length_append] at hlength
    have hpayload : t.payload.length ≤ t.encode.length := length_payload_le t
    have hfirst : rlpSplit (t.encode ++ encodeAll ts) = some (t, encodeAll ts) := rlpSplit_encode t _ (by omega)
    have hne : t.encode ++ encodeAll ts ≠ [] := by
      intro hnil
      rw [hnil] at hfirst
      simp [rlpSplit, splitItem] at hfirst
    rw [encodeAll, splitItems_of_split hne hfirst, splitItems_encodeAll ts (by omega)]
    rfl

end

/-- `item` stands for `tree`, its payload is shorter than `2 ^ 64` bytes, and `rlp_encode` writes `b`. -/
def Encodes (tree : Tree) (b : Bytes) : Prop :=
  ∃ item : Item, item.tree = some tree ∧ tree.payload.length < 2 ^ 64 ∧ rlpEncode item = .ok b

theorem selfDelimiting_encodes : SelfDelimiting Encodes := by
  refine SelfDelimiting.of_decoder rlpSplit ?_
  rintro tree b ⟨item, htree, hlength, hok⟩ rest
  rw [rlpEncode_eq_ok item htree hlength, Except.ok.injEq] at hok
  rw [← hok]
  exact rlpSplit_encode tree rest hlength

/-- `rlp_encode` writes every nested list of byte strings and integers that are not negative, the decoder
gets its structure back and leaves what follows, and the encoding of one structure does not begin the encoding
of another one. -/
theorem rlp_encode_decodable (item : Item) (tree : Tree) (htree : item.tree = some tree)
    (hlength : tree.payload.length < 2 ^ 64) :
    ∃ b, rlpEncode item = .ok b ∧ (∀ rest, rlpSplit (b ++ rest) = some (tree, rest)) ∧
      ∀ (item' : Item) (tree' : Tree) (b' : Bytes), item'.tree = some tree' → tree'.payload.length < 2 ^ 64 →
        rlpEncode item' = .ok b' → (b <+: b' ∨ b' <+: b ↔ tree = tree') ∧ (b = b' ↔ tree = tree') := by
  have hok : rlpEncode item = .ok tree.encode := rlpEncode_eq_ok item htree hlength
  refine ⟨tree.encode, hok, fun rest => rlpSplit_encode tree rest hlength, ?_⟩
  intro item' tree' b' htree' hlength' hok'
  have hb' : tree'.encode = b' := by
    rw [rlpEncode_eq_ok item' htree' hlength', Except.ok.injEq] at hok'
    exact hok'
  have hwrites : Encodes tree tree.encode := ⟨item, htree, hlength, hok⟩
  have hwrites' : Encodes tree' b' := ⟨item', htree', hlength', hok'⟩
  have hsame : tree = tree' → tree.encode = b' := by
    rintro rfl
    exact hb'
  constructor
  · constructor
    · rintro (hbegins | hbegins)
      · exact (selfDelimiting_encodes.eq_of_isPrefix hwrites hwrites' hbegins).1
      · exact (selfDelimiting_encodes.eq_of_isPrefix hwrites' hwrites hbegins).1.symm
    · intro heq
      exact .inl (hsame heq ▸ List.prefix_rfl)
  · constructor
    · intro heq
      exact selfDelimiting_encodes.injective hwrites (heq ▸ hwrites')
    · exact hsame

/-- A list of a number, an empty list and an empty string. -/
theorem rlp_encode_decodable_nested :
    ∃ b, rlpEncode (.list [.int 1024, .list [], .bytes []]) = .ok b ∧
      (∀ rest, rlpSplit (b ++ rest) = some (.list [.bytes [4, 0], .list [], .bytes []], rest)) ∧
      ∀ (item' : Item) (tree' : Tree) (b' : Bytes), item'.tree = some tree' → tree'.payload.length < 2 ^ 64 →
        rlpEncode item' = .ok b' →
        (b <+: b' ∨ b' <+: b ↔ Tree.list [.bytes [4, 0], .list [], .bytes []] = tree') ∧
          (b = b' ↔ Tree.list [.bytes [4, 0], .list [], .bytes []] = tree') :=
  have digits : minimalBytes 1024 = [4, 0] := by simp [minimalBytes]
  rlp_encode_decodable _ _ (by simp [Item.tree, trees, digits]) (by
    simp [Tree.payload, encodeAll, Tree.encode, isSmall, header])

end Zkdeal.OwnerSoak
