import Mathlib.Data.Prod.Lex
import Mathlib.Order.Basic

/-!
# Two fields packed into one number

`high * base + low` compares as the pair `(high, low)` exactly where the low field does not spill
into the high one.
-/

namespace Packing

/-- A pair as one number. -/
def pack (base : ℕ) (p : ℕ × ℕ) : ℕ := p.1 * base + p.2

/-- What the low fields are apart does not outweigh what the high fields are apart. -/
def Unspilled (base : ℕ) (p q : ℕ × ℕ) : Prop :=
  p.1 = q.1 ∨ (p.1 < q.1 ∧ p.2 ≤ q.2 + (q.1 - p.1) * base) ∨ (q.1 < p.1 ∧ q.2 < p.2 + (p.1 - q.1) * base)

instance (base : ℕ) (p q : ℕ × ℕ) : Decidable (Unspilled base p q) := by
  unfold Unspilled
  infer_instance

theorem toLex_le_iff {p q : ℕ × ℕ} : toLex p ≤ toLex q ↔ p.1 < q.1 ∨ (p.1 = q.1 ∧ p.2 ≤ q.2) :=
  Prod.Lex.toLex_le_toLex

theorem mul_split {m n : ℕ} (h : m ≤ n) (base : ℕ) : n * base = m * base + (n - m) * base := by
  rw [← Nat.add_mul, Nat.add_sub_cancel' h]

/-- The packed numbers compare as the pairs exactly where nothing spills. -/
theorem pack_le_iff {base : ℕ} {p q : ℕ × ℕ} :
    (pack base p ≤ pack base q ↔ toLex p ≤ toLex q) ↔ Unspilled base p q := by
  rw [toLex_le_iff]
  unfold pack Unspilled
  rcases Nat.lt_trichotomy p.1 q.1 with hlt | heq | hgt
  · have split := mul_split hlt.le base
    constructor
    · intro h
      have below : p.1 * base + p.2 ≤ q.1 * base + q.2 := h.2 (.inl hlt)
      omega
    · intro h
      have room : p.2 ≤ q.2 + (q.1 - p.1) * base := by omega
      constructor
      · intro _
        exact .inl hlt
      · intro _
        omega
  · rw [heq]
    simp
  · have split := mul_split hgt.le base
    constructor
    · intro h
      have above : ¬p.1 * base + p.2 ≤ q.1 * base + q.2 := fun hle => by
        have := h.1 hle
        omega
      omega
    · intro h
      have room : q.2 < p.2 + (p.1 - q.1) * base := by omega
      constructor
      · intro _
        omega
      · intro _
        omega

/-- Low fields below the base never spill. -/
theorem unspilled_of_lt {base : ℕ} {p q : ℕ × ℕ} (hp : p.2 < base) (hq : q.2 < base) : Unspilled base p q := by
  unfold Unspilled
  rcases Nat.lt_trichotomy p.1 q.1 with hlt | heq | hgt
  · have room : base ≤ (q.1 - p.1) * base := Nat.le_mul_of_pos_left base (by omega)
    omega
  · exact .inl heq
  · have room : base ≤ (p.1 - q.1) * base := Nat.le_mul_of_pos_left base (by omega)
    omega

end Packing
