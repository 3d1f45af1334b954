import Zkdeal.Interaction.Raising
import Zkdeal.OwnerSoak.Keccak256
import Zkdeal.OwnerSoak.Rlp
import Zkdeal.OwnerSoak.Signatures
import Zkdeal.Python.Hex

/-!
# Signed transactions

What `sign_legacy_transaction` returns decodes to the transaction that it was given and to a signature from which the
signer's public key is recovered (`signLegacyTransaction_recovers`), as a node recovers the sender.
-/

namespace Zkdeal.OwnerSoak

open Python Json Soak Interaction Codes

/-! ## Hexadecimal texts -/

/-- `strip_hex(value, field)` -/
def stripHex (value : Json) (field : String) : Except Raised (List Char) :=
  let refused := .error (.driverError (field ++ " is not even-length 0x hexadecimal"))
  match value with
  | .str text =>
    match text.toList with
    | '0' :: 'x' :: digits => if digits.length % 2 = 0 ∧ digits.all isHex then .ok (lower digits) else refused
    | _ => refused
  | _ => refused

/-- `hex_bytes(value, field)` -/
def hexBytes (value : Json) (field : String) : Except Raised Bytes := (stripHex value field).map fromHex

/-- `"0x" + b.hex()` -/
def hexText (b : Bytes) : String := "0x" ++ hex b

theorem hexText_injective : Function.Injective hexText := by
  intro b c h
  refine hex_injective (String.toList_injective (@List.append_cancel_left _ "0x".toList _ _ ?_))
  rw [← String.toList_append, ← String.toList_append]
  exact congrArg String.toList h

/-! ## Keys and addresses -/

/-- `private_key_int(value, field)` -/
def privateKeyInt (value : Json) (field : String) : Except Raised PrivateKey := do
  let raw ← hexBytes value field
  if raw.length ≠ 32 then throw (.driverError (field ++ " must be 32 bytes"))
  else if h : 0 < fromBig raw ∧ fromBig raw < secp256k1N then return ⟨fromBig raw, h.1, h.2⟩
  else throw (.driverError (field ++ " is outside the secp256k1 scalar field"))

/-- `public_key_address(public_key)` -/
def publicKeyAddress (publicKey : ℕ × ℕ) : String :=
  hexText ((keccak256 (toBig 32 publicKey.1 ++ toBig 32 publicKey.2)).drop 12)

/-- `private_key_address(private_key)` -/
def privateKeyAddress (privateKey : PrivateKey) : Except Raised String :=
  (toAffine (jacobianMultiply secp256k1G privateKey.value)).map publicKeyAddress

/-! ## Transactions -/

/-- The arguments of `sign_legacy_transaction` besides the key. -/
structure LegacyTransaction where
  nonce : ℤ
  gasPrice : ℤ
  gasLimit : ℤ
  /-- `to` -/
  toAddress : Json
  value : ℤ
  data : Bytes
  chainId : ℤ

namespace LegacyTransaction

/-- `unsigned` -/
def unsigned (t : LegacyTransaction) (recipient : Bytes) : Item :=
  .list [.int t.nonce, .int t.gasPrice, .int t.gasLimit, .bytes recipient, .int t.value, .bytes t.data, .int t.chainId,
    .int 0, .int 0]

/-- `signed` -/
def signed (t : LegacyTransaction) (recipient : Bytes) (r s recovery : ℕ) : Item :=
  .list [.int t.nonce, .int t.gasPrice, .int t.gasLimit, .bytes recipient, .int t.value, .bytes t.data,
    .int (t.chainId * 2 + 35 + recovery), .int r, .int s]

end LegacyTransaction

/-- `sign_legacy_transaction(...)` -/
def signLegacyTransaction (t : LegacyTransaction) (privateKey : PrivateKey) : Except Raised (String × String) := do
  let recipient ← hexBytes t.toAddress "transaction recipient"
  raiseIf (recipient.length ≠ 20) (Raised.driverError "transaction recipient must be a 20-byte address")
  let unsigned ← rlpEncode (t.unsigned recipient)
  let (r, s, recovery) ← signDigest (keccak256 unsigned) privateKey
  let raw ← rlpEncode (t.signed recipient r s recovery)
  return (hexText raw, hexText (keccak256 raw))

/-! ## What the encoder accepts -/

theorem rlpPrefix_ok {length offset : ℕ} {b : Bytes} (h : rlpPrefix length offset = .ok b) :
    b = header offset length ∧ (offset = 0xC0 → length < 2 ^ 64) := by
  unfold rlpPrefix at h
  unfold header
  by_cases hshort : length < 56
  · rw [if_pos hshort] at h ⊢
    exact ⟨(Except.ok.inj h).symm, fun _ => by omega⟩
  · rw [if_neg hshort] at h ⊢
    simp only [length_toBig] at h
    by_cases hfits : offset + 55 + byteLength length < 256
    · rw [if_pos hfits] at h
      refine ⟨(Except.ok.inj h).symm, fun hlist => ?_⟩
      have hbytes : byteLength length ≤ 8 := by omega
      exact byteLength_le_iff.1 hbytes
    · rw [if_neg hfits] at h
      cases h

theorem rlpString_ok {payload b : Bytes} (h : rlpString payload = .ok b) : b = (Tree.bytes payload).encode := by
  rw [rlpString] at h
  rw [Tree.encode]
  by_cases hsmall : isSmall payload = true
  · rw [if_pos hsmall] at h ⊢
    exact (Except.ok.inj h).symm
  · rw [if_neg hsmall] at h ⊢
    obtain ⟨first, hfirst, hb⟩ := map_eq_ok.1 h
    rw [← hb, (rlpPrefix_ok hfirst).1]

mutual

theorem rlpEncode_ok : ∀ (item : Item) {b : Bytes}, rlpEncode item = .ok b → ∃ tree, item.tree = some tree ∧ b = tree.encode
  | .list items, b, h => by
    rw [rlpEncode] at h
    obtain ⟨payload, hpayload, h⟩ := bind_eq_ok.1 h
    obtain ⟨ts, hts, rfl⟩ := rlpEncodeAll_ok items hpayload
    obtain ⟨first, hfirst, hb⟩ := map_eq_ok.1 h
    refine ⟨.list ts, by rw [Item.tree, hts, Option.map_some], ?_⟩
    rw [← hb, (rlpPrefix_ok hfirst).1, Tree.encode]
  | .int n, b, h => by
    rw [rlpEncode] at h
    by_cases hsign : n < 0
    · rw [if_pos hsign] at h
      cases h
    · rw [if_neg hsign] at h
      refine ⟨.bytes (minimalBytes n.toNat), by rw [Item.tree, if_neg hsign], ?_⟩
      rw [rlpString_ok h, minimalBytes, ← toBig_byteLength]
      by_cases hzero : n = 0
      · subst hzero
        rfl
      · rw [if_pos hzero]
  | .bytes c, b, h => by
    rw [rlpEncode] at h
    exact ⟨.bytes c, by rw [Item.tree], rlpString_ok h⟩
  | .bool _, b, h => by
    rw [rlpEncode] at h
    cases h
  | .other _, b, h => by
    rw [rlpEncode] at h
    cases h

theorem rlpEncodeAll_ok : ∀ (items : List Item) {b : Bytes}, rlpEncodeAll items = .ok b →
    ∃ ts, trees items = some ts ∧ b = encodeAll ts
  | [], b, h => ⟨[], by rw [trees], by rw [rlpEncodeAll] at h; rw [← Except.ok.inj h, encodeAll]⟩
  | item :: items, b, h => by
    rw [rlpEncodeAll] at h
    obtain ⟨first, hfirst, h⟩ := bind_eq_ok.1 h
    obtain ⟨rest, hrest, hb⟩ := map_eq_ok.1 h
    obtain ⟨tree, htree, rfl⟩ := rlpEncode_ok item hfirst
    obtain ⟨ts, hts, rfl⟩ := rlpEncodeAll_ok items hrest
    refine ⟨tree :: ts, ?_, ?_⟩
    · rw [trees, htree, hts]
      rfl
    · rw [← hb, encodeAll]

end

/-- A list that `rlp_encode` writes is shorter than `2 ^ 64` bytes. -/
theorem rlpEncode_list_ok {items : List Item} {b : Bytes} (h : rlpEncode (.list items) = .ok b) :
    ∃ ts, trees items = some ts ∧ b = (Tree.list ts).encode ∧ (encodeAll ts).length < 2 ^ 64 := by
  obtain ⟨tree, htree, hb⟩ := rlpEncode_ok _ h
  rw [rlpEncode] at h
  obtain ⟨payload, hpayload, h⟩ := bind_eq_ok.1 h
  obtain ⟨ts, hts, rfl⟩ := rlpEncodeAll_ok items hpayload
  obtain ⟨first, hfirst, -⟩ := map_eq_ok.1 h
  rw [Item.tree, hts, Option.map_some, Option.some.injEq] at htree
  refine ⟨ts, hts, ?_, (rlpPrefix_ok hfirst).2 rfl⟩
  rw [hb, htree]

/-! ## Signing -/

/-- The numbers of a transaction are not negative. -/
def LegacyTransaction.Nonnegative (t : LegacyTransaction) : Prop :=
  0 ≤ t.nonce ∧ 0 ≤ t.gasPrice ∧ 0 ≤ t.gasLimit ∧ 0 ≤ t.value ∧ 0 ≤ t.chainId

/-- The byte strings in the order of the encoding. -/
def LegacyTransaction.fields (t : LegacyTransaction) (recipient : Bytes) (last : List ℕ) : List Tree :=
  [.bytes (minimalBytes t.nonce.toNat), .bytes (minimalBytes t.gasPrice.toNat), .bytes (minimalBytes t.gasLimit.toNat),
    .bytes recipient, .bytes (minimalBytes t.value.toNat), .bytes t.data] ++ last.map fun n => .bytes (minimalBytes n)

namespace LegacyTransaction

variable {t : LegacyTransaction} {recipient : Bytes}

theorem tree_int {n : ℤ} : (Item.int n).tree = if n < 0 then none else some (.bytes (minimalBytes n.toNat)) := by
  rw [Item.tree]

theorem trees_cons_int {n : ℤ} {items : List Item} {ts : List Tree} :
    trees (.int n :: items) = some ts ↔ 0 ≤ n ∧ ∃ rest, trees items = some rest ∧ ts = .bytes (minimalBytes n.toNat) :: rest := by
  rw [trees, tree_int]
  by_cases hsign : n < 0
  · rw [if_pos hsign]
    refine iff_of_false (by simp) fun h => ?_
    omega
  · rw [if_neg hsign]
    constructor
    · intro h
      obtain ⟨_, hfirst, h⟩ := Option.bind_eq_some_iff.1 h
      obtain ⟨rest, hrest, hts⟩ := Option.bind_eq_some_iff.1 h
      obtain rfl := Option.some.inj hfirst
      exact ⟨by omega, rest, hrest, (Option.some.inj hts).symm⟩
    · rintro ⟨-, rest, hrest, rfl⟩
      rw [hrest]
      rfl

theorem trees_cons_bytes {b : Bytes} {items : List Item} {ts : List Tree} :
    trees (.bytes b :: items) = some ts ↔ ∃ rest, trees items = some rest ∧ ts = .bytes b :: rest := by
  rw [trees, Item.tree]
  constructor
  · intro h
    obtain ⟨_, hfirst, h⟩ := Option.bind_eq_some_iff.1 h
    obtain ⟨rest, hrest, hts⟩ := Option.bind_eq_some_iff.1 h
    obtain rfl := Option.some.inj hfirst
    exact ⟨rest, hrest, (Option.some.inj hts).symm⟩
  · rintro ⟨rest, hrest, rfl⟩
    rw [hrest]
    rfl

theorem trees_nil {ts : List Tree} : trees [] = some ts ↔ ts = [] := by
  rw [trees, Option.some.injEq, eq_comm]

/-- The encodings of a transaction before and after it is signed begin with the same fields. -/
theorem trees_body (t : LegacyTransaction) (recipient : Bytes) {a b c : ℤ} {ts : List Tree} :
    trees [.int t.nonce, .int t.gasPrice, .int t.gasLimit, .bytes recipient, .int t.value, .bytes t.data, .int a, .int b,
        .int c] = some ts ↔
      0 ≤ t.nonce ∧ 0 ≤ t.gasPrice ∧ 0 ≤ t.gasLimit ∧ 0 ≤ t.value ∧ 0 ≤ a ∧ 0 ≤ b ∧ 0 ≤ c ∧
        ts = t.fields recipient [a.toNat, b.toNat, c.toNat] := by
  simp only [trees_cons_int, trees_cons_bytes, trees_nil]
  constructor
  · rintro ⟨hnonce, _, ⟨hprice, _, ⟨hlimit, _, ⟨_, ⟨hvalue, _, ⟨_, ⟨ha, _, ⟨hb, _, ⟨hc, _, rfl, rfl⟩, rfl⟩, rfl⟩, rfl⟩, rfl⟩,
      rfl⟩, rfl⟩, rfl⟩, rfl⟩
    exact ⟨hnonce, hprice, hlimit, hvalue, ha, hb, hc, rfl⟩
  · rintro ⟨hnonce, hprice, hlimit, hvalue, ha, hb, hc, rfl⟩
    exact ⟨hnonce, _, ⟨hprice, _, ⟨hlimit, _, ⟨_, ⟨hvalue, _, ⟨_, ⟨ha, _, ⟨hb, _, ⟨hc, _, rfl, rfl⟩, rfl⟩, rfl⟩, rfl⟩, rfl⟩,
      rfl⟩, rfl⟩, rfl⟩, rfl⟩

theorem item_list_eq {items : List Item} {ts : List Tree} (h : trees items = some ts) : (Item.list items).tree = some (.list ts) := by
  rw [Item.tree, h, Option.map_some]

/-! ### Lengths -/

theorem length_minimalBytes (n : ℕ) : (minimalBytes n).length = byteLength n := by
  rw [minimalBytes, ← toBig_byteLength, length_toBig]

theorem length_encode_bytes_le {b : Bytes} (h : b.length < 2 ^ 64) : (Tree.bytes b).encode.length ≤ b.length + 9 := by
  rw [Tree.encode]
  split
  · omega
  · have hbytes := byteLength_le_eight h
    rw [List.length_append, header]
    split <;> simp <;> omega

/-- How many bytes the arguments take. -/
def size (t : LegacyTransaction) : ℕ :=
  byteLength t.nonce.toNat + byteLength t.gasPrice.toNat + byteLength t.gasLimit.toNat + byteLength t.value.toNat +
    t.data.length + byteLength t.chainId.toNat

theorem length_fields_lt (hrecipient : recipient.length = 20) (hsize : t.size < 2 ^ 63) {a b c : ℕ}
    (ha : byteLength a ≤ byteLength t.chainId.toNat + 2) (hb : byteLength b ≤ 32) (hc : byteLength c ≤ 32) :
    (encodeAll (t.fields recipient [a, b, c])).length < 2 ^ 64 := by
  unfold size at hsize
  have hfield (n : ℕ) (hn : byteLength n < 2 ^ 64) : (Tree.bytes (minimalBytes n)).encode.length ≤ byteLength n + 9 := by
    rw [← length_minimalBytes] at hn ⊢
    exact length_encode_bytes_le hn
  have hnonce := hfield t.nonce.toNat (by omega)
  have hprice := hfield t.gasPrice.toNat (by omega)
  have hlimit := hfield t.gasLimit.toNat (by omega)
  have hto := length_encode_bytes_le (b := recipient) (by omega)
  have hvalue := hfield t.value.toNat (by omega)
  have hdata := length_encode_bytes_le (b := t.data) (by omega)
  have ha' := hfield a (by omega)
  have hb' := hfield b (by omega)
  have hc' := hfield c (by omega)
  simp only [fields, List.map_cons, List.map_nil, List.cons_append, List.nil_append, encodeAll, List.length_append,
    List.length_nil]
  omega

end LegacyTransaction

/-- The arguments are ones that can be signed. -/
def LegacyTransaction.WellFormed (t : LegacyTransaction) : Prop :=
  (∃ recipient, hexBytes t.toAddress "transaction recipient" = .ok recipient ∧ recipient.length = 20) ∧ t.Nonnegative ∧
    t.size < 2 ^ 63

/-- `raw` decodes to the transaction and a signature from which the public key of the private key is recovered. -/
def LegacyTransaction.SignedAs (t : LegacyTransaction) (key : PrivateKey) (raw hash : String) : Prop :=
  ∃ recipient unsigned signed r s recovery k,
    hexBytes t.toAddress "transaction recipient" = .ok recipient ∧ recipient.length = 20 ∧ t.Nonnegative ∧
    rlpEncode (t.unsigned recipient) = .ok unsigned ∧ raw = hexText signed ∧ hash = hexText (keccak256 signed) ∧
    rlpSplit signed = some (.list (t.fields recipient [t.chainId.toNat * 2 + 35 + recovery, r, s]), []) ∧
    s ≤ secp256k1HalfN ∧ recovery ≤ 3 ∧ toAffine (jacobianMultiply secp256k1G key.value) = .ok k ∧
    recoverPublicKey (keccak256 unsigned) r s recovery = .ok k

/-- No nonce was usable for the digest of the transaction. -/
def LegacyTransaction.Exhausts (t : LegacyTransaction) (key : PrivateKey) : Prop :=
  ∃ recipient unsigned, hexBytes t.toAddress "transaction recipient" = .ok recipient ∧
    rlpEncode (t.unsigned recipient) = .ok unsigned ∧
    ∀ nonce ∈ rfc6979Nonces (keccak256 unsigned) key, Unusable (keccak256 unsigned) key nonce

namespace LegacyTransaction

variable {t : LegacyTransaction} {key : PrivateKey} {recipient : Bytes}

theorem toNat_chain (hchain : 0 ≤ t.chainId) (recovery : ℕ) :
    (t.chainId * 2 + 35 + recovery).toNat = t.chainId.toNat * 2 + 35 + recovery := by
  omega

/-- The signed list decodes to its fields. -/
theorem rlpSplit_signed {r s recovery : ℕ} {signed : Bytes} (hsigned : rlpEncode (t.signed recipient r s recovery) = .ok signed)
    (hchain : 0 ≤ t.chainId) :
    rlpSplit signed = some (.list (t.fields recipient [t.chainId.toNat * 2 + 35 + recovery, r, s]), []) := by
  obtain ⟨ts, hts, rfl, hlength⟩ := rlpEncode_list_ok hsigned
  obtain ⟨-, -, -, -, -, -, -, rfl⟩ := (trees_body t recipient).1 hts
  have hsplit := rlpSplit_encode (.list (t.fields recipient [(t.chainId * 2 + 35 + recovery).toNat, (r : ℤ).toNat, (s : ℤ).toNat]))
    [] hlength
  rw [List.append_nil, toNat_chain hchain, Int.toNat_natCast, Int.toNat_natCast] at hsplit
  rw [toNat_chain hchain, Int.toNat_natCast, Int.toNat_natCast]
  exact hsplit

theorem nonnegative_of_unsigned {unsigned : Bytes} (h : rlpEncode (t.unsigned recipient) = .ok unsigned) : t.Nonnegative := by
  obtain ⟨ts, hts, -⟩ := rlpEncode_list_ok h
  obtain ⟨hnonce, hprice, hlimit, hvalue, hchain, -⟩ := (trees_body t recipient).1 hts
  exact ⟨hnonce, hprice, hlimit, hvalue, hchain⟩

/-- Both lists of a well-formed transaction are encoded. -/
theorem exists_rlpEncode (hrecipient : recipient.length = 20) (hnonnegative : t.Nonnegative) (hsize : t.size < 2 ^ 63)
    {a b c : ℕ} (ha : byteLength a ≤ byteLength t.chainId.toNat + 2) (hb : byteLength b ≤ 32) (hc : byteLength c ≤ 32) :
    ∃ e, rlpEncode (.list [.int t.nonce, .int t.gasPrice, .int t.gasLimit, .bytes recipient, .int t.value, .bytes t.data,
      .int a, .int b, .int c]) = .ok e := by
  obtain ⟨hnonce, hprice, hlimit, hvalue, -⟩ := hnonnegative
  have hts := (trees_body t recipient (a := a) (b := b) (c := c)).2
    ⟨hnonce, hprice, hlimit, hvalue, by omega, by omega, by omega, rfl⟩
  refine ⟨_, rlpEncode_eq_ok _ (item_list_eq hts) ?_⟩
  rw [Tree.payload, Int.toNat_natCast, Int.toNat_natCast, Int.toNat_natCast]
  exact length_fields_lt hrecipient hsize ha hb hc

end LegacyTransaction

theorem byteLength_le_of_lt_secp256k1N {n : ℕ} (h : n < secp256k1N) : byteLength n ≤ 32 := by
  refine byteLength_le_iff.2 (h.trans ?_)
  decide

theorem byteLength_recovery {c recovery : ℕ} (h : recovery ≤ 3) : byteLength (c * 2 + 35 + recovery) ≤ byteLength c + 2 := by
  have hlow := lt_byteLength c
  rw [byteLength_le_iff, pow_add]
  omega

theorem signLegacyTransaction_eq_ok {t : LegacyTransaction} {key : PrivateKey} {raw hash : String} :
    signLegacyTransaction t key = .ok (raw, hash) ↔
      ∃ recipient, hexBytes t.toAddress "transaction recipient" = .ok recipient ∧ recipient.length = 20 ∧
        ∃ unsigned, rlpEncode (t.unsigned recipient) = .ok unsigned ∧
          ∃ r s recovery, signDigest (keccak256 unsigned) key = .ok (r, s, recovery) ∧
            ∃ signed, rlpEncode (t.signed recipient r s recovery) = .ok signed ∧ raw = hexText signed ∧
              hash = hexText (keccak256 signed) := by
  unfold signLegacyTransaction
  constructor
  · intro h
    obtain ⟨recipient, hto, h⟩ := bind_eq_ok.1 h
    obtain ⟨_, hlength, h⟩ := bind_eq_ok.1 h
    obtain ⟨unsigned, hunsigned, h⟩ := bind_eq_ok.1 h
    obtain ⟨⟨r, s, recovery⟩, hsign, h⟩ := bind_eq_ok.1 h
    obtain ⟨signed, hsigned, h⟩ := bind_eq_ok.1 h
    obtain ⟨rfl, rfl⟩ := Prod.mk.inj (Except.ok.inj h)
    exact ⟨recipient, hto, not_not.1 (raiseIf_eq_ok.1 hlength), unsigned, hunsigned, r, s, recovery, hsign, signed, hsigned, rfl, rfl⟩
  · rintro ⟨recipient, hto, hlength, unsigned, hunsigned, r, s, recovery, hsign, signed, hsigned, rfl, rfl⟩
    exact bind_eq_ok.2 ⟨recipient, hto, bind_eq_ok.2 ⟨(), raiseIf_eq_ok.2 (not_not.2 hlength), bind_eq_ok.2 ⟨unsigned, hunsigned,
      bind_eq_ok.2 ⟨(r, s, recovery), hsign, bind_eq_ok.2 ⟨signed, hsigned, rfl⟩⟩⟩⟩⟩

theorem signedAs_of_eq_ok {t : LegacyTransaction} {key : PrivateKey} {raw hash : String}
    (h : signLegacyTransaction t key = .ok (raw, hash)) : t.SignedAs key raw hash := by
  obtain ⟨recipient, hto, hlength, unsigned, hunsigned, r, s, recovery, hsign, signed, hsigned, rfl, rfl⟩ :=
    signLegacyTransaction_eq_ok.1 h
  have hspec := signDigest_spec (keccak256 unsigned) key (length_keccak256 unsigned)
  rw [hsign] at hspec
  obtain ⟨hs, hid, -, k, hk, hrecover⟩ := Signed.recovers hspec (length_keccak256 unsigned)
  have hnonnegative := LegacyTransaction.nonnegative_of_unsigned hunsigned
  exact ⟨recipient, unsigned, signed, r, s, recovery, k, hto, hlength, hnonnegative, hunsigned, rfl, rfl,
    LegacyTransaction.rlpSplit_signed hsigned hnonnegative.2.2.2.2, hs, hid, hk, hrecover⟩

theorem exists_signed {t : LegacyTransaction} {key : PrivateKey} (h : t.WellFormed) :
    t.Exhausts key ∨ ∃ signed, signLegacyTransaction t key = .ok signed := by
  obtain ⟨⟨recipient, hto, hlength⟩, hnonnegative, hsize⟩ := h
  have hnil : byteLength 0 ≤ 32 := byteLength_le_of_lt_secp256k1N prime_secp256k1N.pos
  obtain ⟨unsigned, hunsigned⟩ := LegacyTransaction.exists_rlpEncode hlength hnonnegative hsize (a := t.chainId.toNat)
    (by omega) hnil hnil
  rw [Int.toNat_of_nonneg hnonnegative.2.2.2.2] at hunsigned
  have hspec := signDigest_spec (keccak256 unsigned) key (length_keccak256 unsigned)
  generalize hsign : signDigest (keccak256 unsigned) key = result at hspec
  cases result with
  | error e => exact .inl ⟨recipient, unsigned, hto, hunsigned, hspec⟩
  | ok signature =>
    obtain ⟨r, s, recovery⟩ := signature
    obtain ⟨hrpos, hr, hspos, hs, hid, -⟩ := hspec
    have hslt : s < secp256k1N := by
      have := secp256k1N_eq
      omega
    obtain ⟨signed, hsigned⟩ := LegacyTransaction.exists_rlpEncode hlength hnonnegative hsize (byteLength_recovery hid)
      (byteLength_le_of_lt_secp256k1N hr) (byteLength_le_of_lt_secp256k1N hslt)
    have hchain : ((t.chainId.toNat * 2 + 35 + recovery : ℕ) : ℤ) = t.chainId * 2 + 35 + recovery := by
      have := hnonnegative.2.2.2.2
      omega
    rw [hchain] at hsigned
    exact .inr ⟨_, signLegacyTransaction_eq_ok.2
      ⟨recipient, hto, hlength, unsigned, hunsigned, r, s, recovery, hsign, signed, hsigned, rfl, rfl⟩⟩

/-- What `sign_legacy_transaction` returns decodes to the transaction, and from the signature in it the public key of the
private key is recovered; it raises only at arguments that are not well-formed, or when no nonce was usable. -/
theorem signLegacyTransaction_recovers (t : LegacyTransaction) (key : PrivateKey) :
    match signLegacyTransaction t key with
    | .ok (raw, hash) => t.SignedAs key raw hash
    | .error _ => ¬t.WellFormed ∨ t.Exhausts key := by
  have hok : ∀ raw hash, signLegacyTransaction t key = .ok (raw, hash) → t.SignedAs key raw hash :=
    fun _ _ => signedAs_of_eq_ok
  have herror : t.WellFormed → t.Exhausts key ∨ ∃ signed, signLegacyTransaction t key = .ok signed := exists_signed
  generalize signLegacyTransaction t key = result at hok herror ⊢
  cases result with
  | ok signed => exact hok _ _ rfl
  | error e =>
    by_cases hwell : t.WellFormed
    · refine .inr ((herror hwell).resolve_right ?_)
      simp
    · exact .inl hwell

end Zkdeal.OwnerSoak
