import Zkdeal.Python.Text

/-!
# SHA-256

`hashlib.sha256(s.encode()).hexdigest()` on texts: FIPS 180-4 on 32-bit words, which are natural
numbers below `2 ^ 32`.
-/

namespace Python.Sha256

/-- The round constants. -/
def roundConstants : List ℕ :=
  [0x428a2f98, 0x71374491, 0xb5c0fbcf, 0xe9b5dba5, 0x3956c25b, 0x59f111f1, 0x923f82a4, 0xab1c5ed5,
    0xd807aa98, 0x12835b01, 0x243185be, 0x550c7dc3, 0x72be5d74, 0x80deb1fe, 0x9bdc06a7, 0xc19bf174,
    0xe49b69c1, 0xefbe4786, 0x0fc19dc6, 0x240ca1cc, 0x2de92c6f, 0x4a7484aa, 0x5cb0a9dc, 0x76f988da,
    0x983e5152, 0xa831c66d, 0xb00327c8, 0xbf597fc7, 0xc6e00bf3, 0xd5a79147, 0x06ca6351, 0x14292967,
    0x27b70a85, 0x2e1b2138, 0x4d2c6dfc, 0x53380d13, 0x650a7354, 0x766a0abb, 0x81c2c92e, 0x92722c85,
    0xa2bfe8a1, 0xa81a664b, 0xc24b8b70, 0xc76c51a3, 0xd192e819, 0xd6990624, 0xf40e3585, 0x106aa070,
    0x19a4c116, 0x1e376c08, 0x2748774c, 0x34b0bcb5, 0x391c0cb3, 0x4ed8aa4a, 0x5b9cca4f, 0x682e6ff3,
    0x748f82ee, 0x78a5636f, 0x84c87814, 0x8cc70208, 0x90befffa, 0xa4506ceb, 0xbef9a3f7, 0xc67178f2]

def add (a b : ℕ) : ℕ := (a + b) % 0x100000000

def rotr (n x : ℕ) : ℕ := (x >>> n) ||| ((x <<< (32 - n)) % 0x100000000)

def smallSigma0 (x : ℕ) : ℕ := rotr 7 x ^^^ rotr 18 x ^^^ (x >>> 3)

def smallSigma1 (x : ℕ) : ℕ := rotr 17 x ^^^ rotr 19 x ^^^ (x >>> 10)

def bigSigma0 (x : ℕ) : ℕ := rotr 2 x ^^^ rotr 13 x ^^^ rotr 22 x

def bigSigma1 (x : ℕ) : ℕ := rotr 6 x ^^^ rotr 11 x ^^^ rotr 25 x

def choose (x y z : ℕ) : ℕ := (x &&& y) ^^^ ((0xffffffff ^^^ x) &&& z)

def majority (x y z : ℕ) : ℕ := (x &&& y) ^^^ (x &&& z) ^^^ (y &&& z)

/-- Extend a message schedule, kept newest word first, by `n` words. -/
def extendSchedule : ℕ → List ℕ → List ℕ
  | 0, w => w
  | n + 1, w => extendSchedule n
      (add (add (smallSigma1 (w.getD 1 0)) (w.getD 6 0))
        (add (smallSigma0 (w.getD 14 0)) (w.getD 15 0)) :: w)

/-- The eight working words. -/
structure Words where
  (a b c d e f g h : ℕ)

/-- One round, with its constant and its schedule word. -/
def round (s : Words) (kw : ℕ × ℕ) : Words :=
  let t₁ := add (add (add s.h (bigSigma1 s.e)) (add (choose s.e s.f s.g) kw.1)) kw.2
  let t₂ := add (bigSigma0 s.a) (majority s.a s.b s.c)
  ⟨add t₁ t₂, s.a, s.b, s.c, add s.d t₁, s.e, s.f, s.g⟩

def compress (s : Words) (block : List ℕ) : Words :=
  let t := (roundConstants.zip (extendSchedule 48 block.reverse).reverse).foldl round s
  ⟨add s.a t.a, add s.b t.b, add s.c t.c, add s.d t.d, add s.e t.e, add s.f t.f, add s.g t.g,
    add s.h t.h⟩

/-- Big-endian 32-bit words. -/
def toWords : List ℕ → List ℕ
  | a :: b :: c :: d :: bytes => (a * 0x1000000 + b * 0x10000 + c * 0x100 + d) :: toWords bytes
  | _ => []

def toBlocks : ℕ → List ℕ → List (List ℕ)
  | 0, _ => []
  | n + 1, words => words.take 16 :: toBlocks n (words.drop 16)

/-- A one bit, zeros up to 8 bytes before a block boundary, and the length in bits. -/
def pad (m : List ℕ) : List ℕ :=
  m ++ 0x80 :: List.replicate ((119 - m.length % 64) % 64) 0 ++
    (List.range 8).map fun i => (8 * m.length) >>> (8 * (7 - i)) % 256

def initial : Words :=
  ⟨0x6a09e667, 0xbb67ae85, 0x3c6ef372, 0xa54ff53a, 0x510e527f, 0x9b05688c, 0x1f83d9ab, 0x5be0cd19⟩

def digest (m : List ℕ) : List ℕ :=
  let p := pad m
  let s := (toBlocks (p.length / 64) (toWords p)).foldl compress initial
  [s.a, s.b, s.c, s.d, s.e, s.f, s.g, s.h]

/-- Eight lower-case hexadecimal digits. -/
def hex8 (w : ℕ) : List Char := (List.range 8).map fun i => Nat.digitChar (w >>> (4 * (7 - i)) % 16)

/-- `hashlib.sha256(s.encode()).hexdigest()`. -/
def hexdigest (s : String) : String :=
  .ofList ((digest ((s.toList.flatMap String.utf8EncodeChar).map UInt8.toNat)).flatMap hex8)

theorem hexdigest_ne_empty (s : String) : hexdigest s ≠ "" := by
  intro h
  have := congrArg String.toList h
  simp [hexdigest, digest, hex8] at this

theorem isLowerHex_digitChar {d : ℕ} (h : d < 16) : isLowerHex (Nat.digitChar d) = true := by
  have all : ∀ d < 16, isLowerHex (Nat.digitChar d) = true := by decide
  exact all d h

/-- A digest has 64 lower-case hexadecimal digits. -/
theorem between_digest (m : List ℕ) : between isLowerHex 64 64 ((digest m).flatMap hex8) = true := by
  have digits (w : ℕ) : (hex8 w).length = 8 ∧ ∀ c ∈ hex8 w, isLowerHex c = true := by
    refine ⟨by simp [hex8], fun c hc => ?_⟩
    obtain ⟨i, -, rfl⟩ := List.mem_map.1 hc
    exact isLowerHex_digitChar (Nat.mod_lt _ (by decide))
  rw [between_iff]
  refine ⟨fun c hc => ?_, ?_⟩
  · obtain ⟨w, -, hc⟩ := List.mem_flatMap.1 hc
    exact (digits w).2 c hc
  · simp [digest, (digits _).1]

theorem between_hexdigest (s : String) : between isLowerHex 64 64 (hexdigest s).toList = true := by
  rw [hexdigest, String.toList_ofList]
  exact between_digest _

example : hexdigest "abc" = "ba7816bf8f01cfea414140de5dae2223b00361a396177a9cb410ff61f20015ad" := by
  decide +kernel

end Python.Sha256
