import Mathlib

/-!
# Jacobian coordinates

A point of `y² = x³ + b` is written as a triple `(x, y, z)`, which stands for `(x / z², y / z³)`; a triple with
`y = 0` or `z = 0` stands for the point at infinity.  On a curve with no point of order two, the formulas for
doubling and adding triples compute the sums of the group.
-/

namespace Curves

variable {F : Type*} [Field F]

/-- `y² = x³ + b` -/
def curve (b : F) : WeierstrassCurve.Affine F := ⟨0, 0, 0, 0, b⟩

/-! ## The formulas -/

section Formulas

variable [DecidableEq F]

/-- Twice a point. -/
def double : F × F × F → F × F × F
  | (x, y, z) =>
    if y = 0 ∨ z = 0 then (0, 0, 0)
    else
      let s := 4 * x * y ^ 2
      let m := 3 * x ^ 2
      let nx := m ^ 2 - 2 * s
      (nx, m * (s - nx) - 8 * y ^ 4, 2 * y * z)

/-- The sum of two points. -/
def add : F × F × F → F × F × F → F × F × F
  | (x₁, y₁, z₁), (x₂, y₂, z₂) =>
    if y₁ = 0 ∨ z₁ = 0 then (x₂, y₂, z₂)
    else if y₂ = 0 ∨ z₂ = 0 then (x₁, y₁, z₁)
    else
      let u₁ := x₁ * z₂ ^ 2
      let u₂ := x₂ * z₁ ^ 2
      let s₁ := y₁ * z₂ ^ 3
      let s₂ := y₂ * z₁ ^ 3
      if u₁ = u₂ then if s₁ ≠ s₂ then (0, 0, 0) else double (x₁, y₁, z₁)
      else
        let h := u₂ - u₁
        let r := s₂ - s₁
        let nx := r ^ 2 - h ^ 3 - 2 * (u₁ * h ^ 2)
        (nx, r * (u₁ * h ^ 2 - nx) - s₁ * h ^ 3, h * z₁ * z₂)

end Formulas

/-! ## Points -/

variable {b : F}

/-- The triple stands for the point. -/
inductive Represents : F × F × F → (curve b).Point → Prop
  | infinity {x y z : F} (h : y = 0 ∨ z = 0) : Represents (x, y, z) 0
  | finite {X Y z : F} (hY : Y ≠ 0) (hz : z ≠ 0) (h : (curve b).Nonsingular X Y) :
    Represents (X * z ^ 2, Y * z ^ 3, z) (.some X Y h)

theorem equation_curve {X Y : F} : (curve b).Equation X Y ↔ Y ^ 2 = X ^ 3 + b := by
  rw [WeierstrassCurve.Affine.equation_iff]
  simp [curve]

theorem negY_curve (X Y : F) : (curve b).negY X Y = -Y := by
  simp [WeierstrassCurve.Affine.negY, curve]

theorem nonsingular_curve (htwo : (2 : F) ≠ 0) {X Y : F} (hY : Y ≠ 0) (h : Y ^ 2 = X ^ 3 + b) :
    (curve b).Nonsingular X Y := by
  rw [WeierstrassCurve.Affine.nonsingular_iff']
  refine ⟨equation_curve.2 h, .inr ?_⟩
  simpa [curve] using ⟨htwo, hY⟩

/-- No point has order two. -/
def NoTorsion (b : F) : Prop := ∀ x : F, x ^ 3 + b ≠ 0

theorem NoTorsion.ne_zero (hb : NoTorsion b) {X Y : F} (h : (curve b).Nonsingular X Y) : Y ≠ 0 := by
  rintro rfl
  have heq := equation_curve.1 h.1
  rw [zero_pow two_ne_zero] at heq
  exact hb X heq.symm

theorem NoTorsion.represents (hb : NoTorsion b) {X Y x y z : F} (h : (curve b).Nonsingular X Y) (hz : z ≠ 0)
    (hx : x = X * z ^ 2) (hy : y = Y * z ^ 3) : Represents (x, y, z) (.some X Y h : (curve b).Point) := by
  rw [hx, hy]
  exact .finite (hb.ne_zero h) hz h

theorem Represents.infinity_iff {P : F × F × F} {p : (curve b).Point} (h : Represents P p) :
    P.2.1 = 0 ∨ P.2.2 = 0 ↔ p = 0 := by
  cases h with
  | infinity h => exact iff_of_true h rfl
  | finite hY hz h =>
    refine iff_of_false ?_ (WeierstrassCurve.Affine.Point.some_ne_zero h)
    exact not_or.2 ⟨mul_ne_zero hY (pow_ne_zero 3 hz), hz⟩

section Sums

variable [DecidableEq F] (htwo : (2 : F) ≠ 0) (hb : NoTorsion b)

include htwo hb

theorem Represents.double {P : F × F × F} {p : (curve b).Point} (h : Represents P p) : Represents (double P) (p + p) := by
  cases h with
  | infinity h =>
    rw [Curves.double, if_pos h, add_zero]
    exact .infinity (.inl rfl)
  | @finite X Y z hY hz h =>
    have hfinite : ¬(Y * z ^ 3 = 0 ∨ z = 0) := not_or.2 ⟨mul_ne_zero hY (pow_ne_zero 3 hz), hz⟩
    have hne : Y ≠ (curve b).negY X Y := by
      rw [negY_curve]
      intro heq
      have hzero : 2 * Y = 0 := by linear_combination heq
      exact (mul_ne_zero htwo hY) hzero
    have hslope : (curve b).slope X X Y Y = 3 * X ^ 2 / (2 * Y) := by
      rw [WeierstrassCurve.Affine.slope_of_Y_ne rfl hne, negY_curve]
      simp only [curve]
      congr 1 <;> ring
    rw [WeierstrassCurve.Affine.Point.add_self_of_Y_ne hne, Curves.double, if_neg hfinite]
    refine hb.represents _ (mul_ne_zero (mul_ne_zero htwo (mul_ne_zero hY (pow_ne_zero 3 hz))) hz) ?_ ?_
    · rw [hslope, WeierstrassCurve.Affine.addX]
      simp only [curve]
      field_simp
      ring
    · rw [hslope, WeierstrassCurve.Affine.addY, negY_curve, WeierstrassCurve.Affine.negAddY,
        WeierstrassCurve.Affine.addX]
      simp only [curve]
      field_simp
      ring

theorem Represents.add {P Q : F × F × F} {p q : (curve b).Point} (hP : Represents P p) (hQ : Represents Q q) :
    Represents (add P Q) (p + q) := by
  cases hP with
  | infinity h =>
    rw [Curves.add, if_pos h, zero_add]
    exact hQ
  | @finite X₁ Y₁ z₁ hY₁ hz₁ h₁ =>
    have hfirst : ¬(Y₁ * z₁ ^ 3 = 0 ∨ z₁ = 0) := not_or.2 ⟨mul_ne_zero hY₁ (pow_ne_zero 3 hz₁), hz₁⟩
    cases hQ with
    | infinity h =>
      rw [Curves.add, if_neg hfirst, if_pos h, add_zero]
      exact .finite hY₁ hz₁ h₁
    | @finite X₂ Y₂ z₂ hY₂ hz₂ h₂ =>
      have hsecond : ¬(Y₂ * z₂ ^ 3 = 0 ∨ z₂ = 0) := not_or.2 ⟨mul_ne_zero hY₂ (pow_ne_zero 3 hz₂), hz₂⟩
      have hsquares : z₁ ^ 2 * z₂ ^ 2 ≠ 0 := mul_ne_zero (pow_ne_zero 2 hz₁) (pow_ne_zero 2 hz₂)
      have hcubes : z₁ ^ 3 * z₂ ^ 3 ≠ 0 := mul_ne_zero (pow_ne_zero 3 hz₁) (pow_ne_zero 3 hz₂)
      have hu : X₁ * z₁ ^ 2 * z₂ ^ 2 = X₂ * z₂ ^ 2 * z₁ ^ 2 ↔ X₁ = X₂ := by
        refine Iff.trans ?_ (mul_left_inj' hsquares)
        constructor <;> intro h <;> linear_combination h
      have hs : Y₁ * z₁ ^ 3 * z₂ ^ 3 = Y₂ * z₂ ^ 3 * z₁ ^ 3 ↔ Y₁ = Y₂ := by
        refine Iff.trans ?_ (mul_left_inj' hcubes)
        constructor <;> intro h <;> linear_combination h
      rw [Curves.add, if_neg hfirst, if_neg hsecond]
      dsimp only
      by_cases hX : X₁ = X₂
      · rw [if_pos (hu.2 hX)]
        subst hX
        by_cases hY : Y₁ = Y₂
        · rw [if_neg (not_not.2 (hs.2 hY))]
          subst hY
          exact (Represents.finite hY₁ hz₁ h₁).double htwo hb
        · have hopposite : Y₁ = (curve b).negY X₁ Y₂ :=
            (WeierstrassCurve.Affine.Y_eq_of_X_eq h₁.1 h₂.1 rfl).resolve_left hY
          rw [if_pos fun h => hY (hs.1 h), WeierstrassCurve.Affine.Point.add_of_Y_eq rfl hopposite]
          exact .infinity (.inl rfl)
      · have hdiff : X₂ - X₁ ≠ 0 := sub_ne_zero.2 (Ne.symm hX)
        have hdiff' : X₁ - X₂ ≠ 0 := sub_ne_zero.2 hX
        rw [if_neg fun h => hX (hu.1 h), WeierstrassCurve.Affine.Point.add_of_X_ne hX]
        refine hb.represents _ ?_ ?_ ?_
        · have hh : X₂ * z₂ ^ 2 * z₁ ^ 2 - X₁ * z₁ ^ 2 * z₂ ^ 2 = (X₂ - X₁) * (z₁ ^ 2 * z₂ ^ 2) := by ring
          rw [hh]
          exact mul_ne_zero (mul_ne_zero (mul_ne_zero hdiff hsquares) hz₁) hz₂
        · rw [WeierstrassCurve.Affine.slope_of_X_ne hX, WeierstrassCurve.Affine.addX]
          simp only [curve]
          field_simp
          ring
        · rw [WeierstrassCurve.Affine.slope_of_X_ne hX, WeierstrassCurve.Affine.addY, negY_curve,
            WeierstrassCurve.Affine.negAddY, WeierstrassCurve.Affine.addX]
          simp only [curve]
          field_simp
          ring

end Sums

/-! ## Doubling and adding -/

/-- A step of the loop that doubles and adds, at a factor with its lowest bit set. -/
theorem add_smul_of_odd {M : Type*} [AddCommMonoid M] (r a : M) {factor : ℕ} (hodd : factor % 2 = 1) :
    r + factor • a = r + a + (factor / 2) • (a + a) := by
  have hdecompose : factor = 1 + factor / 2 * 2 := by omega
  conv_lhs => rw [hdecompose, add_smul, one_smul, mul_smul, two_smul]
  rw [add_assoc]

/-- A step of the loop that doubles and adds, at a factor with its lowest bit clear. -/
theorem add_smul_of_even {M : Type*} [AddCommMonoid M] (r a : M) {factor : ℕ} (heven : factor % 2 ≠ 1) :
    r + factor • a = r + (factor / 2) • (a + a) := by
  have hdecompose : factor = factor / 2 * 2 := by omega
  conv_lhs => rw [hdecompose, mul_smul, two_smul]

end Curves
