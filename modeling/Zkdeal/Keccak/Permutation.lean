import Mathlib

/-!
# The Keccak permutations

`Keccak-p[25 * w, n]` on bits: a state is an array of five by five lanes of `w` bits, and a round is the
composition of the five step mappings.  Strings and states correspond by `A[x, y, z] = S[w * (5 * y + x) + z]`.
-/

namespace Keccak

/-- A state array of lanes of `w` bits. -/
abbrev State (w : ℕ) := Fin 5 → Fin 5 → Fin w → Bool

variable {w : ℕ} [NeZero w]

/-! ## Step mappings -/

/-- The parity of a column. -/
def column (A : State w) (x : Fin 5) (z : Fin w) : Bool := A x 0 z ^^ A x 1 z ^^ A x 2 z ^^ A x 3 z ^^ A x 4 z

/-- θ -/
def theta (A : State w) : State w := fun x y z => A x y z ^^ (column A (x - 1) z ^^ column A (x + 1) (z - 1))

/-- The lanes in the order in which ρ visits them. -/
def walk : ℕ → Fin 5 × Fin 5
  | 0 => (1, 0)
  | t + 1 => ((walk t).2, 2 * (walk t).1 + 3 * (walk t).2)

/-- How far ρ rotates a lane; lane `(0, 0)` is not visited. -/
def offset (x y : Fin 5) : ℕ :=
  match (List.range 24).find? fun t => walk t = (x, y) with
  | some t => (t + 1) * (t + 2) / 2
  | none => 0

/-- ρ -/
def rho (A : State w) : State w := fun x y z => A x y (z - Fin.ofNat w (offset x y))

/-- π -/
def pi (A : State w) : State w := fun x y z => A (x + 3 * y) x z

/-- χ -/
def chi (A : State w) : State w := fun x y z => A x y z ^^ (!A (x + 1) y z && A (x + 2) y z)

/-- A step of the linear feedback shift register behind the round constants. -/
def shift (R : List Bool) : List Bool :=
  let R := false :: R
  let feedback := R.getD 8 false
  let add (R : List Bool) (i : ℕ) := R.modify i (· ^^ feedback)
  ([0, 4, 5, 6].foldl add R).take 8

/-- `rc(t)` -/
def rc (t : ℕ) : Bool := (shift^[t % 255] [true, false, false, false, false, false, false, false]).getD 0 false

/-- Bit `z` of the constant of round `i`, for lanes of `2 ^ l` bits. -/
def roundConstant (l i z : ℕ) : Bool := (List.range (l + 1)).any fun j => z = 2 ^ j - 1 && rc (j + 7 * i)

/-- ι -/
def iota (l i : ℕ) (A : State w) : State w := fun x y z =>
  if x = 0 ∧ y = 0 then A x y z ^^ roundConstant l i z else A x y z

/-- A round. -/
def round (l i : ℕ) (A : State w) : State w := iota l i (chi (pi (rho (theta A))))

/-- `Keccak-f[25 * 2 ^ l]`, of `12 + 2 * l` rounds. -/
def permutation (l : ℕ) (A : State (2 ^ l)) : State (2 ^ l) := (List.range (12 + 2 * l)).foldl (fun A i => round l i A) A

/-! ## Strings -/

/-- The state array of a string. -/
def ofString (S : List Bool) : State w := fun x y z => S.getD (w * (5 * y + x) + z) false

/-- Bit `i` of the string of a state array. -/
def bit (A : State w) (i : ℕ) : Bool := A (Fin.ofNat 5 (i / w)) (Fin.ofNat 5 (i / w / 5)) (Fin.ofNat w i)

/-- The string of a state array. -/
def string (A : State w) : List Bool := (List.range (25 * w)).map (bit A)

omit [NeZero w] in
theorem index_lt (x y : Fin 5) (z : Fin w) : w * (5 * y + x) + z < 25 * w := by
  have hlane : (5 * y + x : ℕ) + 1 ≤ 25 := by omega
  calc w * (5 * y + x) + z < w * (5 * y + x) + w := by omega
    _ = w * ((5 * y + x) + 1) := (Nat.mul_succ w _).symm
    _ ≤ w * 25 := Nat.mul_le_mul_left w hlane
    _ = 25 * w := Nat.mul_comm w 25

theorem ofString_string (A : State w) : ofString (string A) = A := by
  funext x y z
  have hw : 0 < w := Nat.pos_of_neZero w
  have hlane : (w * (5 * y + x) + z) / w = 5 * y + x := by
    rw [Nat.mul_add_div hw, Nat.div_eq_of_lt z.2, Nat.add_zero]
  have hx : Fin.ofNat 5 (5 * y + x : ℕ) = x := by
    ext
    simp
  have hy : Fin.ofNat 5 ((5 * y + x : ℕ) / 5) = y := by
    ext
    simp only [Fin.val_ofNat]
    omega
  have hz : Fin.ofNat w (w * (5 * y + x) + z) = z := by
    ext
    simp [Nat.mod_eq_of_lt z.2]
  rw [ofString, string, List.getD_eq_getElem _ _ (by simpa using index_lt x y z), List.getElem_map,
    List.getElem_range, bit, hlane, hx, hy, hz]

theorem length_string (A : State w) : (string A).length = 25 * w := by simp [string]

end Keccak
