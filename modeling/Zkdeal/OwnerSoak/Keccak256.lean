import Zkdeal.Keccak.Sponge
import Zkdeal.Python.Assign
import Zkdeal.Python.Integer

/-!
# Keccak-256

The driver's `keccak256` works on 25 integers, with lane `(x, y)` at index `x + 5 * y`, and is the sponge
function `Keccak[512]` with 256 bits of output (`keccak256_eq_sponge`).
-/

namespace Zkdeal.OwnerSoak

open Python

/-! ## Source -/

/-- `_MASK64` -/
def mask64 : ℕ := 1 <<< 64 - 1

/-- `_KECCAK_ROUND_CONSTANTS` -/
def keccakRoundConstants : List ℕ :=
  [0x0000000000000001, 0x0000000000008082, 0x800000000000808A, 0x8000000080008000,
    0x000000000000808B, 0x0000000080000001, 0x8000000080008081, 0x8000000000008009,
    0x000000000000008A, 0x0000000000000088, 0x0000000080008009, 0x000000008000000A,
    0x000000008000808B, 0x800000000000008B, 0x8000000000008089, 0x8000000000008003,
    0x8000000000008002, 0x8000000000000080, 0x000000000000800A, 0x800000008000000A,
    0x8000000080008081, 0x8000000000008080, 0x0000000080000001, 0x8000000080008008]

/-- `_KECCAK_ROTATIONS` -/
def keccakRotations : List (List ℕ) :=
  [[0, 36, 3, 41, 18], [1, 44, 10, 45, 2], [62, 6, 43, 15, 61], [28, 55, 25, 21, 56], [27, 20, 39, 8, 14]]

/-- `_KECCAK_RATE_BYTES` -/
def keccakRateBytes : ℕ := 136

/-- `_rotl64(value, shift)` -/
def rotl64 (value shift : ℕ) : ℕ :=
  let shift := shift % 64
  if shift = 0 then value &&& mask64 else (value <<< shift ||| value >>> (64 - shift)) &&& mask64

/-- `~value & _MASK64` -/
def complement (value : ℕ) : ℕ := mask64 ^^^ (value &&& mask64)

/-- `parity` -/
def parityOf (lanes : List ℕ) : List ℕ :=
  let lane (i : ℕ) := lanes.getD i 0
  (List.range 5).map fun x => lane x ^^^ lane (x + 5) ^^^ lane (x + 10) ^^^ lane (x + 15) ^^^ lane (x + 20)

/-- `theta`, of `parity`; an index of `-1` is the last of five. -/
def thetaOf (parity : List ℕ) : List ℕ :=
  (List.range 5).map fun x => parity.getD ((x + 4) % 5) 0 ^^^ rotl64 (parity.getD ((x + 1) % 5) 0) 1

/-- The lanes after the first loop of a round. -/
def thetaLanes (lanes : List ℕ) : List ℕ :=
  let theta := thetaOf (parityOf lanes)
  assignEach (List.range 5 ×ˢ [0, 5, 10, 15, 20]) (fun (x, y) => x + y) (fun (x, _) lane => lane ^^^ theta.getD x 0) lanes

/-- `rotated`, of the lanes after the first loop -/
def rotatedLanes (lanes : List ℕ) : List ℕ :=
  assignEach (List.range 5 ×ˢ List.range 5) (fun (x, y) => y + 5 * ((2 * x + 3 * y) % 5))
    (fun (x, y) _ => rotl64 (lanes.getD (x + 5 * y) 0) ((keccakRotations.getD x []).getD y 0)) (List.replicate 25 0)

/-- The lanes after the last loop of a round. -/
def chiLanes (rotated lanes : List ℕ) : List ℕ :=
  assignEach (List.range 5 ×ˢ List.range 5) (fun (x, y) => x + 5 * y)
    (fun (x, y) _ => rotated.getD (x + 5 * y) 0 ^^^
      (complement (rotated.getD ((x + 1) % 5 + 5 * y) 0) &&& rotated.getD ((x + 2) % 5 + 5 * y) 0)) lanes

/-- A round of `_keccak_f1600`. -/
def keccakRound (lanes : List ℕ) (roundConstant : ℕ) : List ℕ :=
  let lanes := thetaLanes lanes
  let lanes := chiLanes (rotatedLanes lanes) lanes
  lanes.modify 0 (· ^^^ roundConstant)

/-- `_keccak_f1600(lanes)` -/
def keccakF1600 (lanes : List ℕ) : List ℕ := keccakRoundConstants.foldl keccakRound lanes

/-- `while len(padded) % _KECCAK_RATE_BYTES: padded.append(0x00)` -/
def fillBlock (padded : Bytes) : Bytes :=
  if h : padded.length % keccakRateBytes = 0 then padded else fillBlock (padded ++ [0x00])
termination_by (keccakRateBytes - padded.length % keccakRateBytes) % keccakRateBytes
decreasing_by
  unfold keccakRateBytes at *
  rw [List.length_append, List.length_singleton]
  omega

/-- `padded`, at the first block -/
def padBytes (data : Bytes) : Bytes :=
  let padded := fillBlock (data ++ [0x01])
  padded.modify (padded.length - 1) (· ^^^ 0x80)

/-- Exclusive-or a block into the lanes, and permute them. -/
def absorbBytes (lanes : List ℕ) (block : Bytes) : List ℕ :=
  keccakF1600 (assignEach (List.range (keccakRateBytes / 8)) (fun index => index)
    (fun index lane => lane ^^^ fromLittle ((block.drop (index * 8)).take 8)) lanes)

/-- The lanes after the last block. -/
def absorbedLanes (padded : Bytes) : List ℕ :=
  let offsets := (List.range ((padded.length + keccakRateBytes - 1) / keccakRateBytes)).map (· * keccakRateBytes)
  offsets.foldl (fun lanes offset => absorbBytes lanes ((padded.drop offset).take keccakRateBytes)) (List.replicate 25 0)

/-- `keccak256(data)` -/
def keccak256 (data : Bytes) : Bytes := ((absorbedLanes (padBytes data)).take 4).flatMap (toLittle 8)

/-! ## Words -/

theorem and_mask64 (value : ℕ) : value &&& mask64 = value % 2 ^ 64 := Nat.and_two_pow_sub_one_eq_mod value 64

theorem rotl64_lt (value shift : ℕ) : rotl64 value shift < 2 ^ 64 := by
  unfold rotl64
  dsimp only
  split_ifs <;> (rw [and_mask64]; exact Nat.mod_lt _ (by omega))

/-- A rotation moves bit `z - shift` to bit `z`. -/
theorem testBit_rotl64 {value : ℕ} (hvalue : value < 2 ^ 64) (shift : ℕ) {z : ℕ} (hz : z < 64) :
    (rotl64 value shift).testBit z = value.testBit ((z + (64 - shift % 64)) % 64) := by
  have hshift : shift % 64 < 64 := Nat.mod_lt _ (by omega)
  unfold rotl64
  dsimp only
  by_cases hzero : shift % 64 = 0
  · have hsame : (z + (64 - shift % 64)) % 64 = z := by omega
    rw [if_pos hzero, and_mask64, Nat.mod_eq_of_lt hvalue, hsame]
  · rw [if_neg hzero, and_mask64, Nat.testBit_mod_two_pow, Nat.testBit_or, Nat.testBit_shiftLeft, Nat.testBit_shiftRight]
    by_cases hlow : z < shift % 64
    · have hindex : (z + (64 - shift % 64)) % 64 = 64 - shift % 64 + z := by omega
      simp [hz, hlow, hindex]
    · have hindex : (z + (64 - shift % 64)) % 64 = z - shift % 64 := by omega
      have hhigh : value.testBit (64 - shift % 64 + z) = false := by
        apply Nat.testBit_eq_false_of_lt
        exact hvalue.trans_le (Nat.pow_le_pow_right (by omega) (by omega))
      simp [hz, hhigh, hindex, Nat.not_lt.1 hlow]

theorem complement_lt (value : ℕ) : complement value < 2 ^ 64 := by
  rw [complement, and_mask64]
  exact Nat.xor_lt_two_pow (by decide) (Nat.mod_lt _ (by omega))

theorem testBit_complement (value : ℕ) {z : ℕ} (hz : z < 64) : (complement value).testBit z = !value.testBit z := by
  have hmask : mask64.testBit z = true := by
    rw [show mask64 = 2 ^ 64 - 1 from rfl, Nat.testBit_two_pow_sub_one]
    exact decide_eq_true hz
  rw [complement, and_mask64, Nat.testBit_xor, Nat.testBit_mod_two_pow, hmask]
  simp [hz]

/-! ## The permutation -/

/-- The lanes hold a state array: lane `(x, y)` is at index `x + 5 * y`, and its lowest bit is bit 0. -/
structure LanesHold (lanes : List ℕ) (A : Keccak.State (2 ^ 6)) : Prop where
  length : lanes.length = 25
  lt : ∀ x y : Fin 5, lanes.getD (x + 5 * y) 0 < 2 ^ 64
  bit : ∀ (x y : Fin 5) (z : Fin (2 ^ 6)), (lanes.getD (x + 5 * y) 0).testBit z = A x y z

variable {lanes : List ℕ} {A : Keccak.State (2 ^ 6)}

theorem getD_replicate_default {α : Type} (d : α) (n i : ℕ) : (List.replicate n d).getD i d = d := by
  rw [List.getD_eq_getElem?_getD, List.getElem?_getD_replicate_default_eq]

theorem getD_map_range {α : Type} (f : ℕ → α) (d : α) {n i : ℕ} (hi : i < n) : ((List.range n).map f).getD i d = f i := by
  rw [List.getD_eq_getElem _ _ (by simpa using hi), List.getElem_map, List.getElem_range]

theorem val_sub_ofNat (z : Fin (2 ^ 6)) (shift : ℕ) :
    ((z - Fin.ofNat (2 ^ 6) shift : Fin (2 ^ 6)) : ℕ) = (z + (64 - shift % 64)) % 64 := by
  rw [Fin.val_sub, Fin.val_ofNat, Nat.add_comm]
  rfl

theorem testBit_parityOf (h : LanesHold lanes A) (x : Fin 5) (z : Fin (2 ^ 6)) :
    ((parityOf lanes).getD x 0).testBit z = Keccak.column A x z := by
  have hbit (y : Fin 5) := h.bit x y z
  rw [parityOf, getD_map_range _ _ x.2, Keccak.column, ← hbit 0, ← hbit 1, ← hbit 2, ← hbit 3, ← hbit 4]
  simp only [Nat.testBit_xor]
  rfl

theorem parityOf_lt (h : LanesHold lanes A) (x : Fin 5) : (parityOf lanes).getD x 0 < 2 ^ 64 := by
  have hlt (y : Fin 5) := h.lt x y
  rw [parityOf, getD_map_range _ _ x.2]
  exact Nat.xor_lt_two_pow (Nat.xor_lt_two_pow (Nat.xor_lt_two_pow (Nat.xor_lt_two_pow (hlt 0) (hlt 1)) (hlt 2)) (hlt 3))
    (hlt 4)

theorem holds_theta (h : LanesHold lanes A) : LanesHold (thetaLanes lanes) (Keccak.theta A) := by
  have hnodup : ((List.range 5 ×ˢ [0, 5, 10, 15, 20]).map fun (x, y) => x + y).Nodup := by decide
  have hgrid : ∀ x y : Fin 5, ((x : ℕ), 5 * (y : ℕ)) ∈ List.range 5 ×ˢ [0, 5, 10, 15, 20] := by decide
  have hprev : ∀ x : Fin 5, (x + 4 : ℕ) % 5 = (x - 1 : Fin 5) := by decide
  have hnext : ∀ x : Fin 5, (x + 1 : ℕ) % 5 = (x + 1 : Fin 5) := by decide
  have hlane (x y : Fin 5) : (thetaLanes lanes).getD (x + 5 * y) 0 =
      lanes.getD (x + 5 * y) 0 ^^^ ((parityOf lanes).getD (x - 1 : Fin 5) 0 ^^^
        rotl64 ((parityOf lanes).getD (x + 1 : Fin 5) 0) 1) := by
    refine (getD_assignEach 0 hnodup (hgrid x y) (by rw [h.length]; dsimp only; omega)).trans ?_
    dsimp only
    rw [thetaOf, getD_map_range _ _ x.2, hprev, hnext]
  refine ⟨(length_assignEach ..).trans h.length, fun x y => ?_, fun x y z => ?_⟩
  · rw [hlane]
    exact Nat.xor_lt_two_pow (h.lt x y) (Nat.xor_lt_two_pow (parityOf_lt h _) (rotl64_lt _ _))
  · have hrotated : (rotl64 ((parityOf lanes).getD (x + 1 : Fin 5) 0) 1).testBit z = Keccak.column A (x + 1) (z - 1) := by
      rw [testBit_rotl64 (parityOf_lt h _) 1 z.2, ← val_sub_ofNat z 1]
      exact testBit_parityOf h _ _
    rw [hlane, Nat.testBit_xor, Nat.testBit_xor, h.bit, testBit_parityOf h, hrotated, Keccak.theta]

/-- The rotations of the source are the offsets of ρ. -/
theorem keccakRotations_eq : ∀ x y : Fin 5, (keccakRotations.getD x []).getD y 0 = Keccak.offset x y % 64 := by
  decide

theorem getD_rotatedLanes (lanes : List ℕ) (x y : Fin 5) :
    (rotatedLanes lanes).getD (y + 5 * ((2 * x + 3 * y) % 5)) 0 =
      rotl64 (lanes.getD (x + 5 * y) 0) ((keccakRotations.getD x []).getD y 0) := by
  have hnodup : ((List.range 5 ×ˢ List.range 5).map fun (x, y) => y + 5 * ((2 * x + 3 * y) % 5)).Nodup := by decide
  have hgrid : ∀ x y : Fin 5, ((x : ℕ), (y : ℕ)) ∈ List.range 5 ×ˢ List.range 5 := by decide
  have hlt : (y + 5 * ((2 * x + 3 * y) % 5) : ℕ) < (List.replicate 25 0).length := by
    rw [List.length_replicate]
    omega
  exact getD_assignEach (a := List.replicate 25 0) 0 hnodup (hgrid x y) hlt

/-- π moves to `(x, y)` the lane that the source rotates into index `x + 5 * y`. -/
theorem pi_index : ∀ x y : Fin 5, (x + 5 * ((2 * (x + 3 * y : Fin 5) + 3 * x) % 5) : ℕ) = x + 5 * y := by
  decide

theorem holds_rotated (h : LanesHold lanes A) : LanesHold (rotatedLanes lanes) (Keccak.pi (Keccak.rho A)) := by
  have hlane (x y : Fin 5) : (rotatedLanes lanes).getD (x + 5 * y) 0 =
      rotl64 (lanes.getD ((x + 3 * y : Fin 5) + 5 * x) 0) (Keccak.offset (x + 3 * y) x % 64) := by
    rw [← keccakRotations_eq, ← pi_index x y]
    exact getD_rotatedLanes lanes (x + 3 * y) x
  refine ⟨(length_assignEach ..).trans List.length_replicate, fun x y => ?_, fun x y z => ?_⟩
  · rw [hlane]
    exact rotl64_lt _ _
  · rw [hlane, testBit_rotl64 (h.lt _ _) _ z.2, Nat.mod_mod, ← val_sub_ofNat, h.bit, Keccak.pi, Keccak.rho]

theorem holds_chi {rotated : List ℕ} (h : LanesHold rotated A) (hlength : lanes.length = 25) :
    LanesHold (chiLanes rotated lanes) (Keccak.chi A) := by
  have hnodup : ((List.range 5 ×ˢ List.range 5).map fun (x, y) => x + 5 * y).Nodup := by decide
  have hgrid : ∀ x y : Fin 5, ((x : ℕ), (y : ℕ)) ∈ List.range 5 ×ˢ List.range 5 := by decide
  have hnext : ∀ x : Fin 5, (x + 1 : ℕ) % 5 = (x + 1 : Fin 5) ∧ (x + 2 : ℕ) % 5 = (x + 2 : Fin 5) := by decide
  have hlane (x y : Fin 5) : (chiLanes rotated lanes).getD (x + 5 * y) 0 =
      rotated.getD (x + 5 * y) 0 ^^^
        (complement (rotated.getD ((x + 1 : Fin 5) + 5 * y) 0) &&& rotated.getD ((x + 2 : Fin 5) + 5 * y) 0) := by
    refine (getD_assignEach 0 hnodup (hgrid x y) (by rw [hlength]; dsimp only; omega)).trans ?_
    dsimp only
    rw [(hnext x).1, (hnext x).2]
  refine ⟨(length_assignEach ..).trans hlength, fun x y => ?_, fun x y z => ?_⟩
  · rw [hlane]
    exact Nat.xor_lt_two_pow (h.lt x y) (Nat.and_lt_two_pow _ (h.lt _ _))
  · rw [hlane, Nat.testBit_xor, Nat.testBit_and, testBit_complement _ z.2, h.bit, h.bit, h.bit, Keccak.chi]

theorem holds_iota {i roundConstant : ℕ} (h : LanesHold lanes A) (hlt : roundConstant < 2 ^ 64)
    (hbits : ∀ z : Fin (2 ^ 6), roundConstant.testBit z = Keccak.roundConstant 6 i z) :
    LanesHold (lanes.modify 0 (· ^^^ roundConstant)) (Keccak.iota 6 i A) := by
  have hfirst : (lanes.modify 0 (· ^^^ roundConstant)).getD 0 0 = lanes.getD 0 0 ^^^ roundConstant := by
    have hlength := h.length
    rw [List.getD_eq_getElem _ _ (by simp [hlength]), List.getElem_modify_eq, List.getD_eq_getElem _ _ (by omega)]
  have hother {i : ℕ} (hi : 0 ≠ i) : (lanes.modify 0 (· ^^^ roundConstant)).getD i 0 = lanes.getD i 0 := by
    rw [List.getD_eq_getElem?_getD, List.getElem?_modify_ne _ _ hi, List.getD_eq_getElem?_getD]
  refine ⟨(List.length_modify ..).trans h.length, fun x y => ?_, fun x y z => ?_⟩
  · by_cases horigin : 0 = (x + 5 * y : ℕ)
    · have hlane := h.lt x y
      rw [← horigin] at hlane ⊢
      rw [hfirst]
      exact Nat.xor_lt_two_pow hlane hlt
    · rw [hother horigin]
      exact h.lt x y
  · have hxy : x = 0 ∧ y = 0 ↔ 0 = (x + 5 * y : ℕ) := by omega
    unfold Keccak.iota
    by_cases horigin : 0 = (x + 5 * y : ℕ)
    · have hlane := h.bit x y z
      rw [← horigin] at hlane ⊢
      rw [if_pos (hxy.2 horigin), hfirst, Nat.testBit_xor, hlane, hbits]
    · rw [if_neg (mt hxy.1 horigin), hother horigin, h.bit]

/-- The round constants of the source are those of ι. -/
theorem keccakRoundConstants_eq : ∀ i < 24, keccakRoundConstants.getD i 0 < 2 ^ 64 ∧
    ∀ z : Fin (2 ^ 6), (keccakRoundConstants.getD i 0).testBit z = Keccak.roundConstant 6 i z := by
  decide

theorem holds_round {i : ℕ} (h : LanesHold lanes A) (hi : i < 24) :
    LanesHold (keccakRound lanes (keccakRoundConstants.getD i 0)) (Keccak.round 6 i A) := by
  have htheta := holds_theta h
  have hchi := holds_chi (holds_rotated htheta) htheta.length
  exact holds_iota hchi (keccakRoundConstants_eq i hi).1 (keccakRoundConstants_eq i hi).2

theorem holds_keccakF1600 (h : LanesHold lanes A) : LanesHold (keccakF1600 lanes) (Keccak.permutation 6 A) := by
  have hconstants : keccakRoundConstants = (List.range 24).map fun i => keccakRoundConstants.getD i 0 := rfl
  rw [keccakF1600, hconstants, List.foldl_map]
  refine List.foldl_rel (r := LanesHold) h ?_
  intro i hi lanes A h
  exact holds_round h (List.mem_range.1 hi)

/-! ## The sponge -/

/-- The bits of bytes, from the lowest of each byte. -/
def bitsOf (b : Bytes) : List Bool := b.flatMap fun byte => (List.range 8).map byte.toNat.testBit

@[simp] theorem length_bitsOf (b : Bytes) : (bitsOf b).length = 8 * b.length := by
  simp [bitsOf, List.length_flatMap, Nat.mul_comm]

theorem bitsOf_append (b c : Bytes) : bitsOf (b ++ c) = bitsOf b ++ bitsOf c := List.flatMap_append

theorem bitsOf_cons (byte : UInt8) (b : Bytes) : bitsOf (byte :: b) = (List.range 8).map byte.toNat.testBit ++ bitsOf b :=
  List.flatMap_cons

/-- Bit `i` is bit `i % 8` of byte `i / 8`, and also bit `i` of the integer that the bytes make. -/
theorem getD_bitsOf (b : Bytes) (i : ℕ) : (bitsOf b).getD i false = (fromLittle b).testBit i := by
  induction b generalizing i with
  | nil => simp [bitsOf, fromLittle]
  | cons byte b ih =>
    rw [bitsOf_cons, testBit_fromLittle]
    by_cases hi : i < 8
    · rw [List.getD_append _ _ _ _ (by simpa using hi), getD_map_range _ _ hi, Nat.div_eq_of_lt hi, Nat.mod_eq_of_lt hi]
      rfl
    · have hdiv : i / 8 = (i - 8) / 8 + 1 := by omega
      have hmod : i % 8 = (i - 8) % 8 := by omega
      rw [List.getD_append_right _ _ _ _ (by simpa using hi), hdiv, hmod, List.getD_cons_succ, ← testBit_fromLittle]
      simpa using ih (i - 8)

theorem bitsOf_replicate_zero (n : ℕ) : bitsOf (List.replicate n 0) = List.replicate (8 * n) false := by
  induction n with
  | zero => rfl
  | succ n ih =>
    have hzero : (List.range 8).map (0 : UInt8).toNat.testBit = List.replicate 8 false := by decide
    rw [List.replicate_succ, bitsOf_cons, ih, hzero, ← List.replicate_add]
    congr 1
    omega

theorem drop_bitsOf (i : ℕ) (b : Bytes) : (bitsOf b).drop (8 * i) = bitsOf (b.drop i) := by
  by_cases hi : i ≤ b.length
  · have hsplit : bitsOf b = bitsOf (b.take i) ++ bitsOf (b.drop i) := by
      rw [← bitsOf_append, List.take_append_drop]
    have hlength : (bitsOf (b.take i)).length = 8 * i := by simp [hi]
    rw [hsplit, List.drop_left' hlength]
  · rw [List.drop_eq_nil_of_le (by simp; omega), List.drop_eq_nil_of_le (by omega)]
    rfl

theorem take_bitsOf (i : ℕ) (b : Bytes) : (bitsOf b).take (8 * i) = bitsOf (b.take i) := by
  by_cases hi : i ≤ b.length
  · have hsplit : bitsOf b = bitsOf (b.take i) ++ bitsOf (b.drop i) := by
      rw [← bitsOf_append, List.take_append_drop]
    have hlength : (bitsOf (b.take i)).length = 8 * i := by simp [hi]
    rw [hsplit, List.take_left' hlength]
  · rw [List.take_of_length_le (by simp; omega), List.take_of_length_le (by omega)]

/-! ### Padding -/

/-- The zeros that complete the last block of `n` bytes. -/
def missing (n : ℕ) : ℕ := (keccakRateBytes - n % keccakRateBytes) % keccakRateBytes

theorem fillBlock_eq (b : Bytes) : fillBlock b = b ++ List.replicate (missing b.length) 0 := by
  induction b using fillBlock.induct with
  | case1 b h =>
    have hnone : missing b.length = 0 := by
      rw [missing, h]
      rfl
    rw [fillBlock, dif_pos h, hnone]
    exact (List.append_nil b).symm
  | case2 b h ih =>
    have hmissing : missing b.length = 1 + missing (b ++ [0]).length := by
      unfold missing keccakRateBytes at *
      rw [List.length_append, List.length_singleton]
      omega
    rw [fillBlock, dif_neg h, ih, List.append_assoc, hmissing, List.replicate_add]
    rfl

theorem modify_last {α : Type} (f : α → α) (l : List α) (a : α) : (l ++ [a]).modify l.length f = l ++ [f a] := by
  induction l with
  | nil => rfl
  | cons b l ih => simpa using ih

theorem length_padBytes (data : Bytes) : (padBytes data).length = data.length + 1 + missing (data.length + 1) := by
  simp only [padBytes, fillBlock_eq, List.length_modify, List.length_append, List.length_singleton, List.length_replicate]

theorem dvd_length_padBytes (data : Bytes) : keccakRateBytes ∣ (padBytes data).length := by
  rw [length_padBytes]
  unfold missing keccakRateBytes
  omega

/-- The padding of the source is `pad10*1`, also where one byte holds both of its ones. -/
theorem bitsOf_padBytes (data : Bytes) :
    bitsOf (padBytes data) = bitsOf data ++ Keccak.pad101 1088 (bitsOf data).length := by
  have hzeros : ((-(8 * data.length : ℕ) - 2 : ℤ) % (1088 : ℕ)).toNat = 8 * missing (data.length + 1) + 6 := by
    unfold missing keccakRateBytes
    omega
  have hfill : fillBlock (data ++ [0x01]) = data ++ [0x01] ++ List.replicate (missing (data.length + 1)) 0 := by
    simp [fillBlock_eq]
  rw [length_bitsOf, Keccak.pad101, hzeros, padBytes]
  rw [hfill]
  cases missing (data.length + 1) with
  | zero =>
    have hone : (List.range 8).map (0x01 ^^^ 0x80 : UInt8).toNat.testBit = true :: List.replicate 6 false ++ [true] := by
      decide
    have hlast : (data ++ [(0x01 : UInt8)] ++ List.replicate 0 0).length - 1 = data.length := by simp
    rw [hlast, List.replicate_zero, List.append_nil, modify_last, bitsOf_append, bitsOf_cons, hone]
    rfl
  | succ k =>
    have hfirst : (List.range 8).map (0x01 : UInt8).toNat.testBit = true :: List.replicate 7 false := by decide
    have hend : (List.range 8).map (0 ^^^ 0x80 : UInt8).toNat.testBit = List.replicate 7 false ++ [true] := by decide
    have hlast : (data ++ [0x01] ++ List.replicate (k + 1) 0).length - 1 = (data ++ [0x01] ++ List.replicate k 0).length := by
      simp
    rw [hlast, List.replicate_succ', ← List.append_assoc, modify_last, bitsOf_append, bitsOf_append, bitsOf_append,
      bitsOf_replicate_zero, bitsOf_cons, bitsOf_cons, hfirst, hend, show 8 * (k + 1) + 6 = 7 + (8 * k + 7) by omega,
      List.replicate_add, List.replicate_add]
    simp [bitsOf]

/-! ### Blocks -/

/-- A block after `pad10*1`, and the zeros of the capacity. -/
def widen (block : List Bool) : List Bool := block ++ List.replicate (1600 - 1088) false

variable {S : List Bool} {block : Bytes}

theorem getD_widen (hblock : block.length = 136) (i z : ℕ) (hz : z < 64) :
    (widen (bitsOf block)).getD (64 * i + z) false =
      (decide (i < 17) && (fromLittle ((block.drop (i * 8)).take 8)).testBit z) := by
  have hlength : (bitsOf block).length = 1088 := by simp [hblock]
  by_cases hi : i < 17
  · have hword : bitsOf ((block.drop (i * 8)).take 8) = ((bitsOf block).drop (64 * i)).take 64 := by
      rw [← take_bitsOf, ← drop_bitsOf, show 8 * (i * 8) = 64 * i by omega]
    rw [widen, List.getD_append _ _ _ _ (by omega), ← getD_bitsOf, hword, decide_eq_true hi, Bool.true_and]
    rw [List.getD_eq_getElem?_getD, List.getD_eq_getElem?_getD, List.getElem?_take_of_lt hz, List.getElem?_drop]
  · rw [widen, List.getD_append_right _ _ _ _ (by omega), decide_eq_false hi, Bool.false_and, getD_replicate_default]

theorem getD_xor {S T : List Bool} (hlength : S.length = T.length) (i : ℕ) :
    (List.zipWith xor S T).getD i false = (S.getD i false ^^ T.getD i false) := by
  by_cases hi : i < S.length
  · rw [List.getD_eq_getElem _ _ (by simp [← hlength, hi]), List.getD_eq_getElem _ _ hi,
      List.getD_eq_getElem _ _ (hlength ▸ hi), List.getElem_zipWith]
  · rw [List.getD_eq_default _ _ (by simp [← hlength]; omega), List.getD_eq_default _ _ (by omega),
      List.getD_eq_default _ _ (by omega)]
    rfl

/-- The exclusive-or loop of the source adds the block to the first 17 lanes. -/
theorem holds_xor (h : LanesHold lanes (Keccak.ofString S)) (hS : S.length = 1600) (hblock : block.length = 136) :
    LanesHold (assignEach (List.range (keccakRateBytes / 8)) (fun index => index)
        (fun index lane => lane ^^^ fromLittle ((block.drop (index * 8)).take 8)) lanes)
      (Keccak.ofString (List.zipWith xor S (widen (bitsOf block)))) := by
  have hnodup : ((List.range (keccakRateBytes / 8)).map fun index => index).Nodup := by
    rw [List.map_id']
    exact List.nodup_range
  have hsame : S.length = (widen (bitsOf block)).length := by
    rw [widen, List.length_append, List.length_replicate, length_bitsOf, hblock, hS]
  set word := fun index => fromLittle ((block.drop (index * 8)).take 8) with hword
  have hlane (i : ℕ) (hi : i < 25) : (assignEach (List.range (keccakRateBytes / 8)) (fun index => index)
      (fun index lane => lane ^^^ word index) lanes).getD i 0 = lanes.getD i 0 ^^^ if i < 17 then word i else 0 := by
    by_cases hrate : i < 17
    · rw [if_pos hrate]
      exact getD_assignEach 0 hnodup (List.mem_range.2 hrate) (h.length ▸ hi)
    · rw [if_neg hrate, Nat.xor_zero]
      refine getD_assignEach_of_notMem 0 ?_
      rw [List.map_id', List.mem_range]
      exact hrate
  refine ⟨(length_assignEach ..).trans h.length, fun x y => ?_, fun x y z => ?_⟩
  · have hbyte : word (x + 5 * y) < 2 ^ 64 := by
      refine (fromLittle_lt _).trans_le ?_
      rw [show (2 : ℕ) ^ 64 = 256 ^ 8 by rfl]
      exact Nat.pow_le_pow_right (by omega) (List.length_take_le 8 _)
    rw [hlane _ (by omega)]
    refine Nat.xor_lt_two_pow (h.lt x y) ?_
    split_ifs
    · exact hbyte
    · omega
  · have hbit := h.bit x y z
    unfold Keccak.ofString at hbit ⊢
    have hwide : (widen (bitsOf block)).getD (2 ^ 6 * (5 * y + x) + z) false = _ := getD_widen hblock (5 * y + x) z z.2
    rw [hlane _ (by omega), Nat.testBit_xor, hbit, getD_xor hsame, hwide, Nat.add_comm (5 * y : ℕ) x]
    by_cases hrate : (x + 5 * y : ℕ) < 17
    · rw [if_pos hrate, decide_eq_true hrate, Bool.true_and]
    · rw [if_neg hrate, decide_eq_false hrate, Bool.false_and, Nat.zero_testBit]

/-- The lanes hold a string of 1600 bits. -/
def HoldsString (lanes : List ℕ) (S : List Bool) : Prop := LanesHold lanes (Keccak.ofString S) ∧ S.length = 1600

theorem holdsString_absorb (h : HoldsString lanes S) (hblock : block.length = 136) :
    HoldsString (absorbBytes lanes block) (Keccak.absorbBlock Keccak.keccakF1600 1600 1088 S (bitsOf block)) := by
  refine ⟨?_, Keccak.length_string _⟩
  rw [Keccak.absorbBlock, Keccak.keccakF1600, Keccak.ofString_string]
  exact holds_keccakF1600 (holds_xor h.1 h.2 hblock)

theorem holdsString_zero : HoldsString (List.replicate 25 0) (List.replicate 1600 false) := by
  refine ⟨⟨List.length_replicate, fun x y => ?_, fun x y z => ?_⟩, List.length_replicate⟩
  · rw [getD_replicate_default]
    omega
  · rw [getD_replicate_default, Keccak.ofString, getD_replicate_default, Nat.zero_testBit]

theorem holdsString_absorbed {padded : Bytes} (h : keccakRateBytes ∣ padded.length) :
    HoldsString (absorbedLanes padded) (Keccak.absorb Keccak.keccakF1600 1600 1088 (bitsOf padded)) := by
  obtain ⟨n, hn⟩ := h
  unfold keccakRateBytes at hn
  have hblocks : (padded.length + keccakRateBytes - 1) / keccakRateBytes = n := by
    unfold keccakRateBytes
    omega
  have hbits : (bitsOf padded).length / 1088 = n := by
    rw [length_bitsOf]
    omega
  rw [absorbedLanes, Keccak.absorb, hblocks, hbits, List.foldl_map]
  refine List.foldl_rel (r := HoldsString) holdsString_zero ?_
  intro i hi lanes S h
  have hi : i < n := List.mem_range.1 hi
  have hlength : ((padded.drop (i * keccakRateBytes)).take keccakRateBytes).length = 136 := by
    unfold keccakRateBytes
    rw [List.length_take, List.length_drop]
    omega
  have hblock : ((bitsOf padded).drop (1088 * i)).take 1088 =
      bitsOf ((padded.drop (i * keccakRateBytes)).take keccakRateBytes) := by
    unfold keccakRateBytes
    rw [← take_bitsOf, ← drop_bitsOf, show 8 * (i * 136) = 1088 * i by omega]
  rw [hblock]
  exact holdsString_absorb h hlength

/-! ### The output -/

theorem getD_bitsOf_lanes (l : List ℕ) (i z : ℕ) (hz : z < 64) :
    (bitsOf (l.flatMap (toLittle 8))).getD (64 * i + z) false = (l.getD i 0).testBit z := by
  induction l generalizing i with
  | nil => simp [bitsOf]
  | cons lane l ih =>
    have hlength : (bitsOf (toLittle 8 lane)).length = 64 := by simp
    rw [List.flatMap_cons, bitsOf_append]
    cases i with
    | zero =>
      rw [List.getD_append _ _ _ _ (by omega), getD_bitsOf, fromLittle_toLittle, List.getD_cons_zero,
        show (256 : ℕ) ^ 8 = 2 ^ 64 by rfl, Nat.testBit_mod_two_pow, Nat.mul_zero, Nat.zero_add]
      simp [hz]
    | succ i =>
      have hindex : 64 * (i + 1) + z - (bitsOf (toLittle 8 lane)).length = 64 * i + z := by omega
      rw [List.getD_append_right _ _ _ _ (by omega), hindex, List.getD_cons_succ]
      exact ih i

theorem length_output (hlength : lanes.length = 25) : ((lanes.take 4).flatMap (toLittle 8)).length = 32 := by
  simp [List.length_flatMap, hlength]

theorem bitsOf_output {S : List Bool} (h : HoldsString lanes S) :
    bitsOf ((lanes.take 4).flatMap (toLittle 8)) = S.take 256 := by
  have hleft : (bitsOf ((lanes.take 4).flatMap (toLittle 8))).length = 256 := by
    rw [length_bitsOf, length_output h.1.length]
  have hright : (S.take 256).length = 256 := by simp [h.2]
  refine List.ext_getElem (hleft.trans hright.symm) ?_
  intro n hn hn'
  have hlane : (lanes.take 4).getD (n / 64) 0 = lanes.getD (n / 64) 0 := by
    rw [List.getD_eq_getElem?_getD, List.getElem?_take_of_lt (by omega), List.getD_eq_getElem?_getD]
  have hsplit : 64 * (n / 64) + n % 64 = n := Nat.div_add_mod n 64
  have hbit : (lanes.getD (n / 64) 0).testBit (n % 64) = S.getD n false := by
    have hheld := h.1.bit ⟨n / 64, by omega⟩ 0 ⟨n % 64, Nat.mod_lt _ (by omega)⟩
    unfold Keccak.ofString at hheld
    dsimp only at hheld
    rw [show 2 ^ 6 * (5 * ((0 : Fin 5) : ℕ) + n / 64) + n % 64 = n by rw [Fin.val_zero]; omega] at hheld
    simpa using hheld
  have hword := getD_bitsOf_lanes (lanes.take 4) (n / 64) (n % 64) (Nat.mod_lt _ (by omega))
  rw [hsplit, hlane, hbit, List.getD_eq_getElem _ _ hn, List.getD_eq_getElem _ _ (by rw [h.2]; omega)] at hword
  rw [hword, List.getElem_take]

theorem length_keccak256 (data : Bytes) : (keccak256 data).length = 32 :=
  length_output (holdsString_absorbed (dvd_length_padBytes data)).1.length

/-- The driver's `keccak256` is `Keccak[512]` with 256 bits of output, on every byte string. -/
theorem keccak256_eq_sponge (data : Bytes) :
    (keccak256 data).length = 32 ∧ bitsOf (keccak256 data) = Keccak.keccak 512 (bitsOf data) 256 := by
  have hheld := holdsString_absorbed (dvd_length_padBytes data)
  have hsqueeze (S : List Bool) : Keccak.squeeze Keccak.keccakF1600 1088 S 256 = S.take 256 := by
    simp [Keccak.squeeze, List.take_take]
  refine ⟨length_keccak256 data, ?_⟩
  rw [Keccak.keccak, Keccak.sponge, hsqueeze, ← bitsOf_padBytes]
  exact bitsOf_output hheld

end Zkdeal.OwnerSoak
