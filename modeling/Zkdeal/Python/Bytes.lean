import Zkdeal.Python.Sha256

/-!
# Python bytes

`str.encode`, `bytes.decode`, `bytes.hex`, `bytes.fromhex`, SHA-256 and HMAC-SHA-256 on byte strings.
-/

namespace Python

/-- A value of type `bytes`. -/
abbrev Bytes := List UInt8

/-! ## UTF-8 -/

/-- `s.encode()`, on characters. -/
def encodeChars (cs : List Char) : Bytes := cs.flatMap String.utf8EncodeChar

/-- `s.encode()` -/
def encodeUtf8 (s : String) : Bytes := encodeChars s.toList

/-- The character of a code point, if `bytes` are its encoding. -/
def charOf (code : ℕ) (bytes : Bytes) : Option Char :=
  if code.isValidChar ∧ String.utf8EncodeChar (.ofNat code) = bytes then some (.ofNat code) else none

/-- The characters that bytes encode; only the shortest encoding of a character counts. -/
def decodeChars : Bytes → Option (List Char)
  | [] => some []
  | a :: bs =>
    if a.toNat < 0x80 then do return (← charOf a.toNat [a]) :: (← decodeChars bs)
    else
      match bs with
      | [] => none
      | b :: bs =>
        if a.toNat < 0xe0 then do
          return (← charOf (a.toNat % 0x20 * 64 + b.toNat % 64) [a, b]) :: (← decodeChars bs)
        else
          match bs with
          | [] => none
          | c :: bs =>
            if a.toNat < 0xf0 then do
              return (← charOf (a.toNat % 0x10 * 4096 + b.toNat % 64 * 64 + c.toNat % 64) [a, b, c]) ::
                (← decodeChars bs)
            else
              match bs with
              | [] => none
              | d :: bs => do
                return (← charOf (a.toNat % 8 * 262144 + b.toNat % 64 * 4096 + c.toNat % 64 * 64 +
                  d.toNat % 64) [a, b, c, d]) :: (← decodeChars bs)

/-- `b.decode("utf-8")`, where it does not raise. -/
def decodeUtf8 (b : Bytes) : Option String := (decodeChars b).map String.ofList

theorem charOf_encode (c : Char) : charOf c.toNat (String.utf8EncodeChar c) = some c := by
  have valid : c.toNat.isValidChar := c.valid
  rw [charOf, Char.ofNat_toNat, if_pos ⟨valid, rfl⟩]

theorem decodeChars_cons (c : Char) (bs : Bytes) :
    decodeChars (String.utf8EncodeChar c ++ bs) = (decodeChars bs).map (c :: ·) := by
  have hchar := charOf_encode c
  have bound : c.toNat < 0x110000 := by
    have := c.valid
    unfold UInt32.isValidChar Nat.isValidChar at this
    change c.val.toNat < 0x110000
    omega
  have byte {m : ℕ} (h : m < 256) : (UInt8.ofNat m).toNat = m := UInt8.toNat_ofNat_of_lt h
  have hval : c.val.toNat = c.toNat := rfl
  unfold String.utf8EncodeChar at hchar ⊢
  dsimp only at hchar ⊢
  rw [hval] at hchar ⊢
  generalize c.toNat = n at hchar bound ⊢
  by_cases h1 : n ≤ 0x7f
  · rw [if_pos h1] at hchar ⊢
    rw [List.singleton_append, decodeChars.eq_def]
    dsimp only
    rw [byte (by omega), if_pos (by omega), hchar]
    cases decodeChars bs <;> rfl
  rw [if_neg h1] at hchar ⊢
  by_cases h2 : n ≤ 0x7ff
  · rw [if_pos h2] at hchar ⊢
    have code : (n / 64 % 0x20 + 0xc0) % 0x20 * 64 + (n % 0x40 + 0x80) % 64 = n := by omega
    rw [List.cons_append, List.singleton_append, decodeChars.eq_def]
    dsimp only
    rw [byte (by omega), byte (by omega), if_neg (by omega), if_pos (by omega), code, hchar]
    cases decodeChars bs <;> rfl
  rw [if_neg h2] at hchar ⊢
  by_cases h3 : n ≤ 0xffff
  · rw [if_pos h3] at hchar ⊢
    have code : (n / 4096 % 0x10 + 0xe0) % 0x10 * 4096 + (n / 64 % 0x40 + 0x80) % 64 * 64 +
        (n % 0x40 + 0x80) % 64 = n := by omega
    rw [List.cons_append, List.cons_append, List.singleton_append, decodeChars.eq_def]
    dsimp only
    rw [byte (by omega), byte (by omega), byte (by omega), if_neg (by omega), if_neg (by omega),
      if_pos (by omega), code, hchar]
    cases decodeChars bs <;> rfl
  · rw [if_neg h3] at hchar ⊢
    have code : (n / 262144 % 0x08 + 0xf0) % 8 * 262144 + (n / 4096 % 0x40 + 0x80) % 64 * 4096 +
        (n / 64 % 0x40 + 0x80) % 64 * 64 + (n % 0x40 + 0x80) % 64 = n := by omega
    rw [List.cons_append, List.cons_append, List.cons_append, List.singleton_append, decodeChars.eq_def]
    dsimp only
    rw [byte (by omega), byte (by omega), byte (by omega), byte (by omega), if_neg (by omega),
      if_neg (by omega), if_neg (by omega), code, hchar]
    cases decodeChars bs <;> rfl

theorem decodeChars_encodeChars (cs : List Char) : decodeChars (encodeChars cs) = some cs := by
  induction cs with
  | nil => rfl
  | cons c cs ih =>
    unfold encodeChars at ih ⊢
    rw [List.flatMap_cons, decodeChars_cons, ih]
    rfl

@[simp] theorem decodeUtf8_encodeUtf8 (s : String) : decodeUtf8 (encodeUtf8 s) = some s := by
  rw [decodeUtf8, encodeUtf8, decodeChars_encodeChars, Option.map_some, String.ofList_toList]

theorem encodeUtf8_injective {s t : String} (h : encodeUtf8 s = encodeUtf8 t) : s = t := by
  have hs := decodeUtf8_encodeUtf8 s
  rw [h, decodeUtf8_encodeUtf8] at hs
  exact (Option.some.inj hs).symm

/-! ## Hexadecimal digits -/

/-- `b.hex()` -/
def hex (b : Bytes) : String :=
  .ofList (b.flatMap fun a => [Nat.digitChar (a.toNat / 16), Nat.digitChar (a.toNat % 16)])

/-- `bytes.fromhex(s)` for an even number of hexadecimal digits. -/
def fromHex : List Char → Bytes
  | c :: d :: cs => .ofNat ((hexDigit c).getD 0 * 16 + (hexDigit d).getD 0) :: fromHex cs
  | _ => []

/-! ## Hashes -/

namespace Sha256

/-- `hashlib.sha256(b).digest()` -/
def bytesDigest (b : Bytes) : Bytes :=
  (digest (b.map UInt8.toNat)).flatMap fun w => (List.range 4).map fun i => .ofNat (w >>> (8 * (3 - i)) % 256)

/-- `hashlib.sha256(b).hexdigest()` -/
def sha256 (b : Bytes) : String := .ofList ((digest (b.map UInt8.toNat)).flatMap hex8)

theorem between_sha256 (b : Bytes) : between isLowerHex 64 64 (sha256 b).toList = true := by
  rw [sha256, String.toList_ofList]
  exact between_digest _

theorem hexdigest_eq (s : String) : hexdigest s = sha256 (encodeUtf8 s) := rfl

/-- SHA-256 at `b₀`, and elsewhere a text that no other input has. -/
def ideal (b₀ b : Bytes) : String :=
  if b = b₀ then sha256 b else .ofList ('x' :: b.map fun a => Char.ofNat a.toNat)

theorem ideal_injective (b₀ : Bytes) : Function.Injective (ideal b₀) := by
  have notHex (b c : Bytes) : sha256 b ≠ .ofList ('x' :: c.map fun a => Char.ofNat a.toNat) := by
    intro h
    have hall := (between_iff.1 (between_sha256 b)).1 'x' (by rw [h, String.toList_ofList]; simp)
    exact absurd hall (by decide)
  have code (a : UInt8) : (Char.ofNat a.toNat).toNat = a.toNat := by
    have valid : a.toNat.isValidChar := .inl (by have := a.toNat_lt; omega)
    rw [Char.ofNat, dif_pos valid]
    rfl
  intro b c h
  unfold ideal at h
  by_cases hb : b = b₀ <;> by_cases hc : c = b₀
  · rw [hb, hc]
  · rw [if_pos hb, if_neg hc] at h
    exact absurd h (notHex b c)
  · rw [if_neg hb, if_pos hc] at h
    exact absurd h.symm (notHex c b)
  · rw [if_neg hb, if_neg hc] at h
    have hmap := (List.cons.inj (String.ofList_injective h)).2
    refine List.map_injective_iff.2 (fun a a' haa => ?_) hmap
    exact UInt8.toNat_inj.1 (by rw [← code a, haa, code a'])

/-- `hmac.new(key, message, hashlib.sha256).hexdigest()` for a key of at most 64 bytes. -/
def hmac (key message : Bytes) : String :=
  let block := key ++ List.replicate (64 - key.length) 0
  sha256 (block.map (· ^^^ 0x5c) ++ bytesDigest (block.map (· ^^^ 0x36) ++ message))

example : hmac (encodeUtf8 "key") (encodeUtf8 "The quick brown fox jumps over the lazy dog") =
    "f7bc83f430538424b13298e6aa6fb143ef4d59a14946175997479dbc2d1a3cd8" := by decide +kernel

end Sha256

end Python
