import Mathlib

/-!
# The equations of ECDSA

Scalars form a field, and the points of the curve a module over it.  A signature `(r, s)` of the message `m` has the
nonce point `R` under the public key `p` if `R = (m / s) • g + (r / s) • p`; that determines the public key
(`keyOf_eq_iff`), and it is the signer's (`keyOf_sign`), for either sign of the nonce (`keyOf_neg`).
-/

namespace Curves

variable {K M : Type*} [Field K] [AddCommGroup M] [Module K M]

/-- The point that a verifier compares with `r`. -/
def noncePoint (g : M) (m r s : K) (p : M) : M := (m * s⁻¹) • g + (r * s⁻¹) • p

/-- The public key of a signature with nonce point `R`. -/
def keyOf (g : M) (m r s : K) (R : M) : M := r⁻¹ • (s • R + (-m) • g)

theorem keyOf_eq_iff {g : M} {m r s : K} (hr : r ≠ 0) (hs : s ≠ 0) {R p : M} :
    keyOf g m r s R = p ↔ R = noncePoint g m r s p := by
  have hnonce : noncePoint g m r s (keyOf g m r s R) = R := by
    rw [noncePoint, keyOf, smul_smul, mul_right_comm, mul_inv_cancel₀ hr, one_mul, smul_add, smul_smul, smul_smul,
      inv_mul_cancel₀ hs, one_smul, mul_neg, neg_smul, mul_comm m]
    abel
  constructor
  · rintro rfl
    exact hnonce.symm
  · intro hR
    have hscaled : (r * s⁻¹) • keyOf g m r s R = (r * s⁻¹) • p := by
      refine add_left_cancel (a := (m * s⁻¹) • g) ?_
      exact hnonce.trans hR
    exact smul_right_injective M (mul_ne_zero hr (inv_ne_zero hs)) hscaled

/-- The key of `k⁻¹ * (m + r * d)` is the one with the secret `d`. -/
theorem keyOf_sign (g : M) (m : K) {r k : K} (hr : r ≠ 0) (hk : k ≠ 0) (d : K) :
    keyOf g m r (k⁻¹ * (m + r * d)) (k • g) = d • g := by
  rw [keyOf, smul_smul, mul_right_comm, inv_mul_cancel₀ hk, one_mul, ← add_smul, smul_smul, add_right_comm, add_neg_cancel,
    zero_add, inv_mul_cancel_left₀ hr]

/-- Both signs of the nonce give one key. -/
theorem keyOf_neg (g : M) (m r s : K) (R : M) : keyOf g m r (-s) (-R) = keyOf g m r s R := by
  rw [keyOf, neg_smul_neg, keyOf]

end Curves
