import Zkdeal.Python.Bytes
import Zkdeal.Python.JsonRoundTrip

/-!
# JSON documents in bytes

`json.loads` of bytes first finds out which encoding of Unicode they are in.
-/

namespace Python

/-- The encodings of a JSON document. -/
inductive Encoding : Type where
  | utf8
  | utf16 (bigEndian : Bool)
  | utf32 (bigEndian : Bool)
  deriving DecidableEq

/-- `json.detect_encoding(b)` for bytes without a byte order mark -/
def detectUnmarked : Bytes → Encoding
  | [a, b] => if a = 0 then .utf16 true else if b = 0 then .utf16 false else .utf8
  | a :: b :: c :: d :: _ =>
    if a = 0 then (if b = 0 then .utf32 true else .utf16 true)
    else if b = 0 then (if c = 0 ∧ d = 0 then .utf32 false else .utf16 false)
    else .utf8
  | _ => .utf8

/-- `json.detect_encoding(b)`, and what follows a byte order mark -/
def detectEncoding (b : Bytes) : Encoding × Bytes :=
  if List.isPrefixOf [0x00, 0x00, 0xfe, 0xff] b then (.utf32 true, b.drop 4)
  else if List.isPrefixOf [0xff, 0xfe, 0x00, 0x00] b then (.utf32 false, b.drop 4)
  else if List.isPrefixOf [0xfe, 0xff] b then (.utf16 true, b.drop 2)
  else if List.isPrefixOf [0xff, 0xfe] b then (.utf16 false, b.drop 2)
  else if List.isPrefixOf [0xef, 0xbb, 0xbf] b then (.utf8, b.drop 3)
  else (detectUnmarked b, b)

/-- The code units of two bytes each. -/
def units16 (bigEndian : Bool) : Bytes → Option (List ℕ)
  | [] => some []
  | a :: b :: rest => (units16 bigEndian rest).map
      ((if bigEndian then a.toNat * 256 + b.toNat else b.toNat * 256 + a.toNat) :: ·)
  | _ => none

/-- The characters of UTF-16 code units. -/
def fromUnits16 : List ℕ → Option (List Char)
  | [] => some []
  | u :: v :: rest =>
    if 0xd800 ≤ u ∧ u < 0xdc00 ∧ 0xdc00 ≤ v ∧ v < 0xe000 then
      (fromUnits16 rest).map (Char.ofNat (0x10000 + (u - 0xd800) * 1024 + (v - 0xdc00)) :: ·)
    else if u.isValidChar then (fromUnits16 (v :: rest)).map (Char.ofNat u :: ·)
    else none
  | [u] => if u.isValidChar then some [Char.ofNat u] else none

/-- The characters of four bytes each. -/
def decodeUtf32 (bigEndian : Bool) : Bytes → Option (List Char)
  | [] => some []
  | a :: b :: c :: d :: rest =>
    let code := if bigEndian then ((a.toNat * 256 + b.toNat) * 256 + c.toNat) * 256 + d.toNat
      else ((d.toNat * 256 + c.toNat) * 256 + b.toNat) * 256 + a.toNat
    if code.isValidChar then (decodeUtf32 bigEndian rest).map (Char.ofNat code :: ·) else none
  | _ => none

/-- `b.decode(detect_encoding(b))`, where it does not raise -/
def decodeJson (b : Bytes) : Option String :=
  match detectEncoding b with
  | (.utf8, rest) => decodeUtf8 rest
  | (.utf16 bigEndian, rest) => ((units16 bigEndian rest).bind fromUnits16).map String.ofList
  | (.utf32 bigEndian, rest) => (decodeUtf32 bigEndian rest).map String.ofList

/-- `json.loads(b)` -/
def Json.loadsBytes (b : Bytes) : Option Json := (decodeJson b).bind Json.loads

/-- Bytes that begin with a brace are in UTF-8, unless a zero follows. -/
theorem detectEncoding_brace {b : UInt8} (rest : Bytes) (hb : b ≠ 0) :
    detectEncoding (0x7b :: b :: rest) = (.utf8, 0x7b :: b :: rest) := by
  have marks (c : UInt8) (mark : Bytes) (hc : (c == 0x7b) = false) :
      List.isPrefixOf (c :: mark) (0x7b :: b :: rest) = false := by
    rw [List.isPrefixOf, hc, Bool.false_and]
  have unmarked : detectUnmarked (0x7b :: b :: rest) = .utf8 := by
    have brace : (0x7b : UInt8) ≠ 0 := by decide
    unfold detectUnmarked
    split
    · rename_i heq
      obtain ⟨rfl, rest'⟩ := List.cons.inj heq
      obtain ⟨rfl, -⟩ := List.cons.inj rest'
      rw [if_neg brace, if_neg hb]
    · rename_i heq
      obtain ⟨rfl, rest'⟩ := List.cons.inj heq
      obtain ⟨rfl, -⟩ := List.cons.inj rest'
      rw [if_neg brace, if_neg hb]
    · rfl
  unfold detectEncoding
  rw [marks _ _ (by decide), marks _ _ (by decide), marks _ _ (by decide), marks _ _ (by decide), marks _ _ (by decide),
    unmarked]
  rfl

namespace Json

/-- The text of an object begins with a brace, and a quotation mark or another brace. -/
theorem encode_obj_start (ascii sortKeys : Bool) (fields : Dict) : ∃ c cs, (c = '"' ∨ c = '}') ∧
    encode ascii sortKeys (.obj fields) = '{' :: c :: cs := by
  rw [encode, encodeMembers]
  generalize (if sortKeys = true then _ else _ : List (String × List Char)) = members
  cases members with
  | nil => exact ⟨'}', [], .inr rfl, rfl⟩
  | cons m members =>
    cases members with
    | nil => exact ⟨'"', _, .inl rfl, rfl⟩
    | cons m' members => exact ⟨'"', _, .inl rfl, rfl⟩

/-- The bytes of an object are read back. -/
theorem loadsBytes_dumps (ascii : Bool) {fields : Dict} (h : plain (.obj fields) = true) :
    loadsBytes (encodeUtf8 (dumps ascii (.obj fields))) = some (canonical (.obj fields)) := by
  obtain ⟨c, cs, hc, htext⟩ := encode_obj_start ascii true fields
  have decoded : decodeJson (encodeUtf8 (dumps ascii (.obj fields))) = some (dumps ascii (.obj fields)) := by
    have bytes : ∃ b rest, b ≠ 0 ∧ encodeUtf8 (dumps ascii (.obj fields)) = 0x7b :: b :: rest := by
      rw [encodeUtf8, dumps, String.toList_ofList, htext]
      rcases hc with rfl | rfl
      · exact ⟨0x22, encodeChars cs, by decide, rfl⟩
      · exact ⟨0x7d, encodeChars cs, by decide, rfl⟩
    obtain ⟨b, rest, hb, hbytes⟩ := bytes
    rw [decodeJson, hbytes, detectEncoding_brace rest hb, ← hbytes]
    exact decodeUtf8_encodeUtf8 _
  rw [loadsBytes, decoded, Option.bind_some]
  exact loads_dumps ascii h

end Json

end Python
