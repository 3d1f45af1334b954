import Mathlib.Data.Nat.Bitwise
import Mathlib.Data.Nat.Digits.Lemmas
import Mathlib.Data.Nat.Size
import Zkdeal.Python.Bytes

/-!
# Integers as bytes

`int.bit_length`, `int.to_bytes` and `int.from_bytes` of integers that are not negative, in both byte orders.
-/

namespace Python

/-- `n.to_bytes(k, "little")` of an `n` below `256 ^ k` -/
def toLittle : ℕ → ℕ → Bytes
  | 0, _ => []
  | k + 1, n => .ofNat n :: toLittle k (n / 256)

/-- `n.to_bytes(k, "big")` of an `n` below `256 ^ k` -/
def toBig (k n : ℕ) : Bytes := (toLittle k n).reverse

/-- `int.from_bytes(b, "little")` -/
def fromLittle : Bytes → ℕ
  | [] => 0
  | b :: bs => b.toNat + 256 * fromLittle bs

/-- `int.from_bytes(b, "big")` -/
def fromBig (b : Bytes) : ℕ := fromLittle b.reverse

/-- `(n.bit_length() + 7) // 8` -/
def byteLength (n : ℕ) : ℕ := (n.size + 7) / 8

variable {k n : ℕ} {b : Bytes}

theorem toNat_ofNat_byte (h : n < 256) : (UInt8.ofNat n).toNat = n := UInt8.toNat_ofNat_of_lt h

@[simp] theorem length_toLittle : ∀ k n, (toLittle k n).length = k
  | 0, _ => rfl
  | k + 1, n => congrArg (· + 1) (length_toLittle k (n / 256))

@[simp] theorem length_toBig (k n : ℕ) : (toBig k n).length = k := by simp [toBig]

theorem fromLittle_toLittle : ∀ k n, fromLittle (toLittle k n) = n % 256 ^ k
  | 0, n => by simp [toLittle, fromLittle, Nat.mod_one]
  | k + 1, n => by
    have hbyte : (UInt8.ofNat n).toNat = n % 256 := UInt8.toNat_ofNat'
    rw [toLittle, fromLittle, fromLittle_toLittle, hbyte, pow_succ', Nat.mod_mul]

theorem fromBig_toBig (k n : ℕ) : fromBig (toBig k n) = n % 256 ^ k := by
  rw [fromBig, toBig, List.reverse_reverse, fromLittle_toLittle]

theorem fromBig_toBig_of_lt (h : n < 256 ^ k) : fromBig (toBig k n) = n := by
  rw [fromBig_toBig, Nat.mod_eq_of_lt h]

theorem fromLittle_lt (b : Bytes) : fromLittle b < 256 ^ b.length := by
  induction b with
  | nil => simp [fromLittle]
  | cons x b ih =>
    have hbyte : x.toNat < 256 := x.toNat_lt
    rw [fromLittle, List.length_cons, pow_succ']
    omega

theorem fromBig_lt (b : Bytes) : fromBig b < 256 ^ b.length := by
  have := fromLittle_lt b.reverse
  rwa [List.length_reverse] at this

theorem fromLittle_append (b c : Bytes) : fromLittle (b ++ c) = fromLittle b + 256 ^ b.length * fromLittle c := by
  induction b with
  | nil => simp [fromLittle]
  | cons x b ih =>
    rw [List.cons_append, fromLittle, fromLittle, ih, List.length_cons, pow_succ']
    ring

theorem fromBig_cons (x : UInt8) (b : Bytes) : fromBig (x :: b) = fromBig b + 256 ^ b.length * x.toNat := by
  rw [fromBig, fromBig, List.reverse_cons, fromLittle_append, List.length_reverse]
  simp [fromLittle]

theorem toLittle_fromLittle (b : Bytes) : toLittle b.length (fromLittle b) = b := by
  induction b with
  | nil => rfl
  | cons x b ih =>
    have hbyte : x.toNat < 256 := x.toNat_lt
    have hquot : (x.toNat + 256 * fromLittle b) / 256 = fromLittle b := by omega
    have hrem : UInt8.ofNat (x.toNat + 256 * fromLittle b) = x := by
      apply UInt8.toNat_inj.1
      rw [UInt8.toNat_ofNat']
      omega
    rw [List.length_cons, fromLittle, toLittle, hquot, hrem, ih]

theorem toBig_fromBig (b : Bytes) : toBig b.length (fromBig b) = b := by
  have h := toLittle_fromLittle b.reverse
  rw [List.length_reverse] at h
  rw [toBig, fromBig, h, List.reverse_reverse]

theorem toBig_injective {m : ℕ} (hn : n < 256 ^ k) (hm : m < 256 ^ k) (h : toBig k n = toBig k m) : n = m := by
  rw [← fromBig_toBig_of_lt hn, h, fromBig_toBig_of_lt hm]

theorem fromBig_injective {c : Bytes} (hlength : b.length = c.length) (h : fromBig b = fromBig c) : b = c := by
  rw [← toBig_fromBig b, hlength, h, toBig_fromBig]

/-! ## The shortest form -/

theorem byteLength_le_iff : byteLength n ≤ k ↔ n < 256 ^ k := by
  have hpow : (256 : ℕ) ^ k = 2 ^ (8 * k) := pow_mul 2 8 k ▸ rfl
  rw [hpow, ← Nat.size_le, byteLength]
  omega

theorem lt_byteLength (n : ℕ) : n < 256 ^ byteLength n := byteLength_le_iff.1 le_rfl

theorem byteLength_eq_length_digits (n : ℕ) : byteLength n = (Nat.digits 256 n).length := by
  have hdigits (k : ℕ) : (Nat.digits 256 n).length ≤ k ↔ n < 256 ^ k := Nat.digits_length_le_iff (by omega) n
  apply le_antisymm
  · exact byteLength_le_iff.2 ((hdigits _).1 le_rfl)
  · exact (hdigits _).2 (lt_byteLength n)

theorem toLittle_length_digits (n : ℕ) :
    toLittle (Nat.digits 256 n).length n = (Nat.digits 256 n).map UInt8.ofNat := by
  induction n using Nat.strongRecOn with
  | ind n ih =>
    by_cases hzero : n = 0
    · subst hzero
      rfl
    · have hbyte : UInt8.ofNat n = UInt8.ofNat (n % 256) := by
        apply UInt8.toNat_inj.1
        simp
      rw [Nat.digits_def' (by omega) (by omega), List.length_cons, toLittle, ih _ (by omega), List.map_cons, hbyte]

/-- The shortest bytes of a number are its digits to the base 256. -/
theorem toBig_byteLength (n : ℕ) : toBig (byteLength n) n = ((Nat.digits 256 n).map UInt8.ofNat).reverse := by
  rw [byteLength_eq_length_digits, toBig, toLittle_length_digits]

/-! ## Bits -/

/-- Bit `i` of a number is a bit of byte `i / 8`. -/
theorem testBit_fromLittle (b : Bytes) (i : ℕ) :
    (fromLittle b).testBit i = (b.getD (i / 8) 0).toNat.testBit (i % 8) := by
  induction b generalizing i with
  | nil => simp [fromLittle]
  | cons x b ih =>
    have hbyte : x.toNat < 2 ^ 8 := x.toNat_lt
    rw [fromLittle, Nat.add_comm, show (256 : ℕ) = 2 ^ 8 from rfl, Nat.testBit_two_pow_mul_add _ hbyte]
    by_cases hi : i < 8
    · rw [if_pos hi, Nat.div_eq_of_lt hi, Nat.mod_eq_of_lt hi]
      rfl
    · have hdiv : i / 8 = (i - 8) / 8 + 1 := by omega
      have hmod : i % 8 = (i - 8) % 8 := by omega
      rw [if_neg hi, ih, hdiv, hmod, List.getD_cons_succ]

/-- Bit `i` of byte `j` is bit `8 * j + i` of the number. -/
theorem testBit_toLittle (k n j i : ℕ) (hj : j < k) (hi : i < 8) :
    ((toLittle k n).getD j 0).toNat.testBit i = n.testBit (8 * j + i) := by
  induction k generalizing n j with
  | zero => omega
  | succ k ih =>
    cases j with
    | zero =>
      have hbyte : (UInt8.ofNat n).toNat = n % 2 ^ 8 := UInt8.toNat_ofNat'
      rw [toLittle, List.getD_cons_zero, hbyte, Nat.testBit_mod_two_pow]
      simp [hi]
    | succ j =>
      rw [toLittle, List.getD_cons_succ, ih _ _ (by omega), show (256 : ℕ) = 2 ^ 8 from rfl, Nat.testBit_div_two_pow]
      congr 1
      omega

end Python
