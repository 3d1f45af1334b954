import Zkdeal.Keccak.Permutation

/-!
# Sponges

The sponge construction over a transformation of strings of `b` bits, the padding `pad10*1`, and the sponge
functions of Keccak-f[1600].
-/

namespace Keccak

/-- `pad10*1`: what makes a string of `m` bits as long as a positive multiple of `r` bits. -/
def pad101 (r m : ℕ) : List Bool := true :: List.replicate ((-m - 2 : ℤ) % r).toNat false ++ [true]

section Sponge

variable (f : List Bool → List Bool) (pad : ℕ → ℕ → List Bool) (b r : ℕ)

/-- Absorb a block of `r` bits. -/
def absorbBlock (S block : List Bool) : List Bool :=
  f (List.zipWith xor S (block ++ List.replicate (b - r) false))

/-- Absorb the blocks of a string. -/
def absorb (P : List Bool) : List Bool :=
  (List.range (P.length / r)).foldl (fun S i => absorbBlock f b r S ((P.drop (r * i)).take r)) (List.replicate b false)

/-- `d` bits, `r` of them from each state. -/
def squeeze (S : List Bool) (d : ℕ) : List Bool :=
  ((List.range ((d + r - 1) / r)).flatMap fun i => (f^[i] S).take r).take d

/-- `SPONGE[f, pad, r](N, d)` -/
def sponge (N : List Bool) (d : ℕ) : List Bool := squeeze f r (absorb f b r (N ++ pad r N.length)) d

end Sponge

/-- `Keccak-f[1600]` on strings. -/
def keccakF1600 (S : List Bool) : List Bool := string (permutation 6 (ofString S))

/-- `Keccak[c](N, d)` -/
def keccak (c : ℕ) (N : List Bool) (d : ℕ) : List Bool := sponge keccakF1600 pad101 1600 (1600 - c) N d

end Keccak
