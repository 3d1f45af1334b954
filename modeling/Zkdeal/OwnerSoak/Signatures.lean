import Zkdeal.Curves.Ecdsa
import Zkdeal.OwnerSoak.Secp256k1Group

/-!
# Signatures

`recover_public_key` returns a public key exactly when the signature verifies under it (`recovers_iff_verifies`),
and it gets the signer's public key back from what `sign_digest` returns (`signDigest_recovers`).
-/

namespace Zkdeal.OwnerSoak

open Python Soak Numbers Curves

/-- A number modulo the order of the group. -/
abbrev Scalar := ZMod secp256k1N

/-- The scalar that a digest stands for. -/
def scalarOf (digest : Bytes) : Scalar := fromBig digest

/-- `(r, s)` is an ECDSA signature of the digest under the public key. -/
def Verifies (digest : Bytes) (r s : ℕ) (publicKey : Point) : Prop :=
  0 < r ∧ r < secp256k1N ∧ 0 < s ∧ s < secp256k1N ∧
    ∃ x, abscissa (noncePoint generator (scalarOf digest) r s publicKey) = some x ∧ x.val % secp256k1N = r

/-! ## Scalars -/

theorem generator_ne_zero : generator ≠ 0 := WeierstrassCurve.Affine.Point.some_ne_zero _

theorem scalar_eq_zero {n : ℕ} (hn : n < secp256k1N) : (n : Scalar) = 0 ↔ n = 0 := by
  rw [ZMod.natCast_eq_zero_iff]
  exact ⟨fun h => Nat.eq_zero_of_dvd_of_lt h hn, fun h => h ▸ dvd_zero _⟩

theorem scalar_ne_zero {n : ℕ} (hpos : 0 < n) (hn : n < secp256k1N) : (n : Scalar) ≠ 0 :=
  fun h => hpos.ne' ((scalar_eq_zero hn).1 h)

theorem scalar_mod (n : ℕ) : ((n % secp256k1N : ℕ) : Scalar) = n := ZMod.natCast_mod n secp256k1N

theorem cast_scalarInverse {n : ℕ} (hn : (n : Scalar) ≠ 0) :
    ((powMod n (secp256k1N - 2) secp256k1N : ℕ) : Scalar) = (n : Scalar)⁻¹ := by
  rw [cast_powMod]
  refine eq_inv_of_mul_eq_one_left ?_
  rw [← pow_succ, show secp256k1N - 2 + 1 = secp256k1N - 1 by decide]
  exact ZMod.pow_card_sub_one_eq_one hn

theorem cast_negMessage (digest : Bytes) :
    (((secp256k1N - fromBig digest % secp256k1N) % secp256k1N : ℕ) : Scalar) = -scalarOf digest := by
  have hle : fromBig digest % secp256k1N ≤ secp256k1N := (Nat.mod_lt _ prime_secp256k1N.pos).le
  rw [scalar_mod, Nat.cast_sub hle, ZMod.natCast_self, zero_sub, scalar_mod]
  rfl

/-! ## The point of a recovery id -/

theorem odd_secp256k1P : secp256k1P % 2 = 1 := by decide

theorem secp256k1P_lt : secp256k1P < 2 * secp256k1N := by decide

/-- `alpha` -/
def alphaOf (x : ℕ) : ℕ := (powMod x 3 secp256k1P + 7) % secp256k1P

/-- `beta` -/
def rootOf (x : ℕ) : ℕ := powMod (alphaOf x) ((secp256k1P + 1) / 4) secp256k1P

/-- `y` -/
def chosenRoot (x recovery : ℕ) : ℕ :=
  if rootOf x &&& 1 = recovery &&& 1 then rootOf x else secp256k1P - rootOf x

theorem rootOf_lt (x : ℕ) : rootOf x < secp256k1P := powMod_lt _ _ prime_secp256k1P.pos

theorem cast_alphaOf (x : ℕ) : (alphaOf x : Coordinate) = (x : Coordinate) ^ 3 + 7 := by
  rw [alphaOf, ZMod.natCast_mod]
  push_cast [cast_powMod]
  rfl

/-- The check of the root passes exactly when it is one. -/
theorem root_passes_iff (x : ℕ) :
    reduced (rootOf x * rootOf x - alphaOf x) = 0 ↔ (rootOf x : Coordinate) ^ 2 = (x : Coordinate) ^ 3 + 7 := by
  rw [← cast_eq_zero (reduced_lt _), cast_reduced]
  push_cast
  rw [cast_alphaOf, sub_eq_zero, sq]

/-- The exponent takes a root of every square. -/
theorem sq_rootOf {x y : ℕ} (hy : (y : Coordinate) ≠ 0) (h : (y : Coordinate) ^ 2 = (x : Coordinate) ^ 3 + 7) :
    (rootOf x : Coordinate) ^ 2 = (y : Coordinate) ^ 2 := by
  rw [rootOf, cast_powMod, cast_alphaOf, ← h, ← pow_mul, ← pow_mul,
    show 2 * ((secp256k1P + 1) / 4 * 2) = secp256k1P - 1 + 2 by decide, pow_add, ZMod.pow_card_sub_one_eq_one hy, one_mul]

theorem rootOf_pos {x : ℕ} (h : (rootOf x : Coordinate) ^ 2 = (x : Coordinate) ^ 3 + 7) : 0 < rootOf x := by
  refine Nat.pos_of_ne_zero fun hzero => noTorsion x ?_
  rw [← h, hzero, Nat.cast_zero, zero_pow two_ne_zero]

theorem chosenRoot_spec {x : ℕ} (recovery : ℕ) (h : (rootOf x : Coordinate) ^ 2 = (x : Coordinate) ^ 3 + 7) :
    0 < chosenRoot x recovery ∧ chosenRoot x recovery < secp256k1P ∧ chosenRoot x recovery % 2 = recovery % 2 ∧
      (chosenRoot x recovery : Coordinate) ^ 2 = (x : Coordinate) ^ 3 + 7 := by
  have hpos := rootOf_pos h
  have hlt := rootOf_lt x
  have hodd := odd_secp256k1P
  rw [chosenRoot, Nat.and_one_is_mod, Nat.and_one_is_mod]
  by_cases hparity : rootOf x % 2 = recovery % 2
  · rw [if_pos hparity]
    exact ⟨hpos, hlt, hparity, h⟩
  · rw [if_neg hparity]
    refine ⟨by omega, by omega, by omega, ?_⟩
    rw [Nat.cast_sub hlt.le, ZMod.natCast_self, zero_sub, neg_sq]
    exact h

/-- The code finds every point from its abscissa and the parity of its ordinate. -/
theorem chosenRoot_of_coordinates {R : Point} {x y recovery : ℕ} (h : coordinates R = some (x, y))
    (hparity : y % 2 = recovery % 2) :
    (rootOf x : Coordinate) ^ 2 = (x : Coordinate) ^ 3 + 7 ∧ chosenRoot x recovery = y := by
  obtain ⟨-, hy, hxy, -⟩ := coordinates_eq_some.1 h
  have hequation := equation_curve.1 hxy.1
  have hne := noTorsion.ne_zero hxy
  have hroot := (sq_rootOf hne hequation).trans hequation
  obtain ⟨hpos, hlt, heven, hchosen⟩ := chosenRoot_spec recovery hroot
  refine ⟨hroot, ?_⟩
  rcases sq_eq_sq_iff_eq_or_eq_neg.1 (hchosen.trans hequation.symm) with hsame | hopposite
  · exact (cast_inj hlt hy).1 hsame
  · have hodd := odd_secp256k1P
    have hypos : 0 < y := Nat.pos_of_ne_zero fun hzero => hne (by rw [hzero, Nat.cast_zero])
    have hother : chosenRoot x recovery = secp256k1P - y := by
      refine (cast_inj hlt (by omega)).1 ?_
      rw [hopposite, Nat.cast_sub hy.le, ZMod.natCast_self, zero_sub]
    omega

theorem exists_point {x : ℕ} (recovery : ℕ) (hx : x < secp256k1P)
    (h : (rootOf x : Coordinate) ^ 2 = (x : Coordinate) ^ 3 + 7) :
    ∃ R, Stands (x, chosenRoot x recovery, 1) R ∧ coordinates R = some (x, chosenRoot x recovery) := by
  obtain ⟨hpos, hlt, -, hchosen⟩ := chosenRoot_spec recovery h
  have hne : (chosenRoot x recovery : Coordinate) ≠ 0 := fun hzero => hpos.ne' ((cast_eq_zero hlt).1 hzero)
  have hxy := nonsingular_curve two_ne_zero_coordinate hne hchosen
  exact ⟨_, Stands.affine hlt hxy, coordinates_eq_some.2 ⟨hx, hlt, hxy, rfl⟩⟩

/-! ## Recovery -/

theorem stands_keyOf {P : JacobianPoint} {R : Point} (h : Stands P R) (digest : Bytes) {r : ℕ} (s : ℕ)
    (hr : (r : Scalar) ≠ 0) :
    Stands (jacobianMultiply (jacobianAdd (jacobianMultiply P s)
      (jacobianMultiply secp256k1G ((secp256k1N - fromBig digest % secp256k1N) % secp256k1N)))
      (powMod r (secp256k1N - 2) secp256k1N)) (keyOf generator (scalarOf digest) r s R) := by
  rw [keyOf, ← cast_scalarInverse hr, ← cast_negMessage, natCast_smul, natCast_smul, natCast_smul]
  exact ((h.multiply s).add (stands_generator.multiply _)).multiply _

/-- What `recover_public_key` returns, and when it raises nothing. -/
theorem recoverPublicKey_eq_ok {digest : Bytes} {r s recovery : ℕ} {k : ℕ × ℕ} :
    recoverPublicKey digest r s recovery = .ok k ↔
      digest.length = 32 ∧ (0 < r ∧ r < secp256k1N) ∧ (0 < s ∧ s < secp256k1N) ∧ recovery ≤ 3 ∧
        ∃ R y, coordinates R = some (if 2 ≤ recovery then r + secp256k1N else r, y) ∧ y % 2 = recovery % 2 ∧
          coordinates (keyOf generator (scalarOf digest) r s R) = some k := by
  rw [recoverPublicKey]
  by_cases hrange : digest.length ≠ 32 ∨ ¬(0 < r ∧ r < secp256k1N) ∨ ¬(0 < s ∧ s < secp256k1N)
  · rw [if_pos hrange]
    refine ⟨fun h => (by cases h), fun h => ?_⟩
    exact absurd hrange (by tauto)
  have hlength : digest.length = 32 := by tauto
  have hr : 0 < r ∧ r < secp256k1N := by tauto
  have hs : 0 < s ∧ s < secp256k1N := by tauto
  rw [if_neg hrange]
  by_cases hid : 3 < recovery
  · rw [if_pos hid]
    refine ⟨fun h => (by cases h), fun h => ?_⟩
    omega
  rw [if_neg hid]
  dsimp only
  generalize hx : (if 2 ≤ recovery then r + secp256k1N else r) = x
  have hr0 : (r : Scalar) ≠ 0 := scalar_ne_zero hr.1 hr.2
  have hkey {R : Point} (hR : Stands (x, chosenRoot x recovery, 1) R) := (stands_keyOf hR digest s hr0).toAffine_eq_ok (k := k)
  by_cases hfield : secp256k1P ≤ x
  · rw [if_pos hfield]
    refine ⟨fun h => (by cases h), fun h => ?_⟩
    obtain ⟨-, -, -, -, R, y, hR, -⟩ := h
    exact absurd (coordinates_eq_some.1 hR).1 hfield.not_gt
  rw [if_neg hfield]
  change (if reduced (rootOf x * rootOf x - alphaOf x) ≠ 0 then _ else toAffine (jacobianMultiply (jacobianAdd
    (jacobianMultiply (x, chosenRoot x recovery, 1) s) _) _)) = _ ↔ _
  by_cases hroot : reduced (rootOf x * rootOf x - alphaOf x) = 0
  · have hcurve := (root_passes_iff x).1 hroot
    obtain ⟨R, hstands, hR⟩ := exists_point recovery (not_le.1 hfield) hcurve
    rw [if_neg (not_not.2 hroot), hkey hstands]
    constructor
    · intro h
      exact ⟨hlength, hr, hs, by omega, R, _, hR, (chosenRoot_spec recovery hcurve).2.2.1, h⟩
    · rintro ⟨-, -, -, -, R', y, hR', hparity, h⟩
      have hy := (chosenRoot_of_coordinates hR' hparity).2
      have hsame : R' = R := by
        obtain ⟨-, -, hxy, rfl⟩ := coordinates_eq_some.1 hR'
        obtain ⟨-, -, hxy', rfl⟩ := coordinates_eq_some.1 hR
        rw [WeierstrassCurve.Affine.Point.some.injEq, hy]
        exact ⟨rfl, rfl⟩
      rw [← hsame]
      exact h
  · rw [if_pos hroot]
    refine ⟨fun h => (by cases h), fun h => ?_⟩
    obtain ⟨-, -, -, -, R, y, hR, hparity, -⟩ := h
    exact absurd ((root_passes_iff x).2 (chosenRoot_of_coordinates hR hparity).1) hroot

/-- A nonce point whose abscissa leaves `r` has a recovery id. -/
theorem exists_recovery {r : ℕ} {R : Point} {x : Coordinate} (h : abscissa R = some x) (hr : x.val % secp256k1N = r) :
    ∃ recovery ≤ 3, ∃ y, coordinates R = some (if 2 ≤ recovery then r + secp256k1N else r, y) ∧ y % 2 = recovery % 2 := by
  have : NeZero secp256k1P := ⟨prime_secp256k1P.ne_zero⟩
  obtain ⟨y, hy⟩ := exists_coordinates h
  have hlt : x.val < 2 * secp256k1N := (ZMod.val_lt x).trans secp256k1P_lt
  by_cases hlarge : secp256k1N ≤ x.val
  · refine ⟨2 + y % 2, by omega, y, ?_, by omega⟩
    rw [hy, if_pos (by omega), ← hr, Nat.mod_eq_sub_mod hlarge, Nat.mod_eq_of_lt (by omega), Nat.sub_add_cancel hlarge]
  · refine ⟨y % 2, by omega, y, ?_, by omega⟩
    rw [hy, if_neg (by omega), ← hr, Nat.mod_eq_of_lt (not_le.1 hlarge)]

theorem verifies_of_recoverPublicKey {digest : Bytes} {r s recovery : ℕ} {k : ℕ × ℕ} {p : Point}
    (h : recoverPublicKey digest r s recovery = .ok k) (hp : coordinates p = some k) : Verifies digest r s p := by
  obtain ⟨-, hr, hs, -, R, y, hR, -, hkey⟩ := recoverPublicKey_eq_ok.1 h
  have hsame : keyOf generator (scalarOf digest) r s R = p := coordinates_injective (hkey.trans hp.symm)
  have hnonce := (keyOf_eq_iff (scalar_ne_zero hr.1 hr.2) (scalar_ne_zero hs.1 hs.2)).1 hsame
  refine ⟨hr.1, hr.2, hs.1, hs.2, _, hnonce ▸ abscissa_of_coordinates hR, ?_⟩
  rw [ZMod.val_natCast_of_lt (coordinates_eq_some.1 hR).1]
  split
  · rw [Nat.add_mod_right, Nat.mod_eq_of_lt hr.2]
  · rw [Nat.mod_eq_of_lt hr.2]

/-- For some recovery id the code returns a public key, exactly if the signature verifies under it. -/
theorem recovers_iff_verifies (digest : Bytes) (r s : ℕ) (p : Point) :
    (∃ recovery k, recoverPublicKey digest r s recovery = .ok k ∧ coordinates p = some k) ↔
      digest.length = 32 ∧ p ≠ 0 ∧ Verifies digest r s p := by
  constructor
  · rintro ⟨recovery, k, hk, hp⟩
    refine ⟨(recoverPublicKey_eq_ok.1 hk).1, ?_, verifies_of_recoverPublicKey hk hp⟩
    rw [Ne, ← coordinates_eq_none, hp]
    simp
  · rintro ⟨hlength, hp, hrpos, hr, hspos, hs, x, hx, hmod⟩
    obtain ⟨recovery, hid, y, hR, hparity⟩ := exists_recovery hx hmod
    obtain ⟨k, hk⟩ := Option.ne_none_iff_exists'.1 (mt coordinates_eq_none.1 hp)
    refine ⟨recovery, k, recoverPublicKey_eq_ok.2 ⟨hlength, ⟨hrpos, hr⟩, ⟨hspos, hs⟩, hid, _, y, hR, hparity, ?_⟩, hk⟩
    rw [(keyOf_eq_iff (scalar_ne_zero hrpos hr) (scalar_ne_zero hspos hs)).2 rfl, hk]

/-! ## Signing -/

/-- The public key of `private_key_address`. -/
def PrivateKey.publicKey (key : PrivateKey) : Point := (key.value : Scalar) • generator

theorem PrivateKey.publicKey_eq_ok (key : PrivateKey) {k : ℕ × ℕ} :
    toAffine (jacobianMultiply secp256k1G key.value) = .ok k ↔ coordinates key.publicKey = some k := by
  rw [publicKey, natCast_smul]
  exact (stands_generator.multiply key.value).toAffine_eq_ok

/-- The nonce leaves no signature of the digest. -/
def Unusable (digest : Bytes) (key : PrivateKey) (nonce : ℕ) : Prop :=
  ∃ x, abscissa ((nonce : Scalar) • generator) = some x ∧
    (x.val % secp256k1N = 0 ∨ scalarOf digest + (x.val : Scalar) * key.value = 0)

theorem mem_noncesFrom {attempts nonce : ℕ} {k v : Bytes} (h : nonce ∈ noncesFrom attempts k v) :
    0 < nonce ∧ nonce < secp256k1N := by
  induction attempts generalizing k v with
  | zero => exact absurd h List.not_mem_nil
  | succ attempts ih =>
    rw [noncesFrom] at h
    by_cases hrange : 0 < fromBig (hmacDigest k v) ∧ fromBig (hmacDigest k v) < secp256k1N
    · rw [if_pos hrange, List.mem_cons] at h
      rcases h with hfirst | hrest
      · rw [hfirst]
        exact hrange
      · exact ih hrest
    · rw [if_neg hrange] at h
      exact ih h

theorem mem_rfc6979Nonces (digest : Bytes) (key : PrivateKey) :
    ∀ nonce ∈ rfc6979Nonces digest key, 0 < nonce ∧ nonce < secp256k1N := by
  intro nonce h
  unfold rfc6979Nonces at h
  exact mem_noncesFrom h

-- Nothing below depends on which nonces these are, and they are not to be computed.
attribute [local irreducible] rfc6979Nonces

theorem coordinates_neg {p : Point} {x y : ℕ} (h : coordinates p = some (x, y)) :
    coordinates (-p) = some (x, secp256k1P - y) ∧ 0 < y ∧ y < secp256k1P := by
  obtain ⟨hx, hy, hxy, rfl⟩ := coordinates_eq_some.1 h
  have hpos : 0 < y := Nat.pos_of_ne_zero fun hzero => noTorsion.ne_zero hxy (by rw [hzero, Nat.cast_zero])
  have hopposite : ((secp256k1P - y : ℕ) : Coordinate) = (curve (7 : Coordinate)).negY x y := by
    rw [negY_curve, Nat.cast_sub hy.le, ZMod.natCast_self, zero_sub]
  refine ⟨coordinates_eq_some.2 ⟨hx, by omega, ?_⟩, hpos, hy⟩
  rw [hopposite, WeierstrassCurve.Affine.Point.neg_some]
  exact ⟨_, rfl⟩

/-- `(r, s, recovery)` is a signature with a small `s`, and its recovery id is the one of its nonce point. -/
def Signed (digest : Bytes) (key : PrivateKey) (r s recovery : ℕ) : Prop :=
  0 < r ∧ r < secp256k1N ∧ 0 < s ∧ s ≤ secp256k1HalfN ∧ recovery ≤ 3 ∧
    ∃ R y, coordinates R = some (if 2 ≤ recovery then r + secp256k1N else r, y) ∧ y % 2 = recovery % 2 ∧
      keyOf generator (scalarOf digest) r s R = key.publicKey

theorem secp256k1N_eq : secp256k1N = 2 * secp256k1HalfN + 1 := by decide

/-- What `sign_digest` makes of the values of one nonce. -/
theorem signed_of_nonce {digest : Bytes} {key : PrivateKey} {r s x y : ℕ} {R : Point} (hR : coordinates R = some (x, y))
    (hr : x % secp256k1N = r) (hrpos : 0 < r) (hspos : 0 < s) (hs : s < secp256k1N)
    (hkey : keyOf generator (scalarOf digest) r s R = key.publicKey) :
    if secp256k1HalfN < s then
      Signed digest key r (secp256k1N - s) (((y &&& 1) ||| if secp256k1N ≤ x then 2 else 0) ^^^ 1)
    else Signed digest key r s ((y &&& 1) ||| if secp256k1N ≤ x then 2 else 0) := by
  have hrlt : r < secp256k1N := hr ▸ Nat.mod_lt _ prime_secp256k1N.pos
  have hx := (coordinates_eq_some.1 hR).1
  have hodd := odd_secp256k1P
  have hhalf := secp256k1N_eq
  obtain ⟨hneg, hypos, hy⟩ := coordinates_neg hR
  have hlift : (if secp256k1N ≤ x then r + secp256k1N else r) = x := by
    split
    · rw [← hr, Nat.mod_eq_sub_mod ‹_›, Nat.mod_eq_of_lt (by have := secp256k1P_lt; omega), Nat.sub_add_cancel ‹_›]
    · rw [← hr, Nat.mod_eq_of_lt (not_le.1 ‹_›)]
  have hid : ∀ b < 2, ∀ c : Prop, ∀ _ : Decidable c, (b ||| if c then 2 else 0) ≤ 3 ∧
      (b ||| if c then 2 else 0) % 2 = b ∧ (2 ≤ (b ||| if c then 2 else 0) ↔ c) ∧
      ((b ||| if c then 2 else 0) ^^^ 1) ≤ 3 ∧ ((b ||| if c then 2 else 0) ^^^ 1) % 2 = 1 - b ∧
      (2 ≤ ((b ||| if c then 2 else 0) ^^^ 1) ↔ c) := by
    intro b hb c _
    by_cases hc : c <;> interval_cases b <;> simp [hc]
  rw [Nat.and_one_is_mod]
  obtain ⟨hle, hparity, htwo, hle', hparity', htwo'⟩ := hid (y % 2) (Nat.mod_lt _ two_pos) (secp256k1N ≤ x) inferInstance
  split
  · refine ⟨hrpos, hrlt, by omega, by omega, hle', -R, secp256k1P - y, ?_, ?_, ?_⟩
    · simp only [htwo', hlift]
      exact hneg
    · rw [hparity']
      omega
    · rw [Nat.cast_sub hs.le, ZMod.natCast_self, zero_sub, keyOf_neg]
      exact hkey
  · refine ⟨hrpos, hrlt, hspos, by omega, hle, R, y, ?_, hparity.symm, hkey⟩
    simp only [htwo, hlift]
    exact hR

theorem signWith_cons {message nonce x y : ℕ} {key : PrivateKey} {nonces : List ℕ}
    (h : toAffine (jacobianMultiply secp256k1G nonce) = .ok (x, y)) {r s : ℕ} (hr : x % secp256k1N = r)
    (hs : powMod nonce (secp256k1N - 2) secp256k1N * (message + r * key.value) % secp256k1N = s) :
    signWith message key (nonce :: nonces) =
      if r = 0 ∨ s = 0 then signWith message key nonces
      else if secp256k1HalfN < s then
        .ok (r, secp256k1N - s, ((y &&& 1) ||| if secp256k1N ≤ x then 2 else 0) ^^^ 1)
      else .ok (r, s, (y &&& 1) ||| if secp256k1N ≤ x then 2 else 0) := by
  subst hr hs
  rw [signWith, h]
  by_cases hr : x % secp256k1N = 0
  · rw [if_pos (.inl hr)]
    exact if_pos hr
  · by_cases hs : powMod nonce (secp256k1N - 2) secp256k1N * (message + x % secp256k1N * key.value) % secp256k1N = 0
    · rw [if_pos (.inr hs)]
      exact (if_neg hr).trans (if_pos hs)
    · rw [if_neg (not_or.2 ⟨hr, hs⟩)]
      exact (if_neg hr).trans (if_neg hs)

/-- A result of `sign_digest`: a signature, or an exception after nonces that were all unusable. -/
def SignsOrExhausts (digest : Bytes) (key : PrivateKey) (nonces : List ℕ) : Except Raised (ℕ × ℕ × ℕ) → Prop
  | .ok (r, s, recovery) => Signed digest key r s recovery
  | .error _ => ∀ nonce ∈ nonces, Unusable digest key nonce

theorem SignsOrExhausts.cons {digest : Bytes} {key : PrivateKey} {nonce : ℕ} {nonces : List ℕ}
    {result : Except Raised (ℕ × ℕ × ℕ)} (hnonce : Unusable digest key nonce) (h : SignsOrExhausts digest key nonces result) :
    SignsOrExhausts digest key (nonce :: nonces) result := by
  cases result with
  | ok signature => exact h
  | error e => exact List.forall_mem_cons.2 ⟨hnonce, h⟩

/-- The loop over the nonces. -/
theorem signWith_spec (digest : Bytes) (key : PrivateKey) {nonces : List ℕ} (h : ∀ nonce ∈ nonces, 0 < nonce ∧ nonce < secp256k1N) :
    SignsOrExhausts digest key nonces (signWith (fromBig digest % secp256k1N) key nonces) := by
  induction nonces with
  | nil => exact List.forall_mem_nil _
  | cons nonce nonces ih =>
    obtain ⟨⟨hpos, hlt⟩, hrest⟩ := List.forall_mem_cons.1 h
    have hk : (nonce : Scalar) ≠ 0 := scalar_ne_zero hpos hlt
    have hR : (nonce : Scalar) • generator ≠ 0 := smul_ne_zero hk generator_ne_zero
    obtain ⟨⟨x, y⟩, hxy⟩ := Option.ne_none_iff_exists'.1 (mt coordinates_eq_none.1 hR)
    have hpoint : toAffine (jacobianMultiply secp256k1G nonce) = .ok (x, y) := by
      refine (stands_generator.multiply nonce).toAffine_eq_ok.2 ?_
      rw [← natCast_smul]
      exact hxy
    have hx := abscissa_of_coordinates hxy
    have hval : ((x : Coordinate)).val = x := ZMod.val_natCast_of_lt (coordinates_eq_some.1 hxy).1
    generalize hr : x % secp256k1N = r
    generalize hs : powMod nonce (secp256k1N - 2) secp256k1N * (fromBig digest % secp256k1N + r * key.value) % secp256k1N = s
    have hrcast : (r : Scalar) = x := by rw [← hr, scalar_mod]
    have hscast : (s : Scalar) = (nonce : Scalar)⁻¹ * (scalarOf digest + r * key.value) := by
      rw [← hs, scalar_mod, Nat.cast_mul, cast_scalarInverse hk, Nat.cast_add, Nat.cast_mul, scalar_mod]
      rfl
    have hslt : s < secp256k1N := hs ▸ Nat.mod_lt _ prime_secp256k1N.pos
    rw [signWith_cons hpoint hr hs]
    by_cases hzero : r = 0 ∨ s = 0
    · rw [if_pos hzero]
      refine (ih hrest).cons ⟨_, hx, ?_⟩
      rw [hval, hr, ← hrcast]
      refine hzero.imp_right fun hs0 => ?_
      rw [hs0, Nat.cast_zero] at hscast
      exact (mul_eq_zero.1 hscast.symm).resolve_left (inv_ne_zero hk)
    · rw [if_neg hzero]
      obtain ⟨hr0, hs0⟩ := not_or.1 hzero
      have hrne : (r : Scalar) ≠ 0 := scalar_ne_zero (Nat.pos_of_ne_zero hr0) (hr ▸ Nat.mod_lt _ prime_secp256k1N.pos)
      have hkey : keyOf generator (scalarOf digest) r s ((nonce : Scalar) • generator) = key.publicKey := by
        rw [hscast]
        exact keyOf_sign generator (scalarOf digest) hrne hk key.value
      have hsigned := signed_of_nonce hxy hr (Nat.pos_of_ne_zero hr0) (Nat.pos_of_ne_zero hs0) hslt hkey
      by_cases hhigh : secp256k1HalfN < s
      · rw [if_pos hhigh] at hsigned ⊢
        exact hsigned
      · rw [if_neg hhigh] at hsigned ⊢
        exact hsigned

theorem Signed.recovers {digest : Bytes} {key : PrivateKey} {r s recovery : ℕ} (h : Signed digest key r s recovery)
    (hlength : digest.length = 32) :
    s ≤ secp256k1HalfN ∧ recovery ≤ 3 ∧ Verifies digest r s key.publicKey ∧
      ∃ k, toAffine (jacobianMultiply secp256k1G key.value) = .ok k ∧ recoverPublicKey digest r s recovery = .ok k := by
  obtain ⟨hrpos, hr, hspos, hs, hid, R, y, hR, hparity, hkey⟩ := h
  have hpublic : key.publicKey ≠ 0 := smul_ne_zero (scalar_ne_zero key.pos key.lt) generator_ne_zero
  obtain ⟨k, hk⟩ := Option.ne_none_iff_exists'.1 (mt coordinates_eq_none.1 hpublic)
  have hslt : s < secp256k1N := by
    have := secp256k1N_eq
    omega
  have hrecover : recoverPublicKey digest r s recovery = .ok k :=
    recoverPublicKey_eq_ok.2 ⟨hlength, ⟨hrpos, hr⟩, ⟨hspos, hslt⟩, hid, R, y, hR, hparity, hkey ▸ hk⟩
  exact ⟨hs, hid, verifies_of_recoverPublicKey hrecover hk, k, key.publicKey_eq_ok.2 hk, hrecover⟩

theorem signDigest_spec (digest : Bytes) (key : PrivateKey) (hlength : digest.length = 32) :
    SignsOrExhausts digest key (rfc6979Nonces digest key) (signDigest digest key) := by
  rw [signDigest, if_neg (not_not.2 hlength)]
  exact signWith_spec digest key (mem_rfc6979Nonces digest key)

/-- Whatever `sign_digest` returns is a signature with a small `s` from which `recover_public_key` gets the public key of
the private key back; it raises only at a digest of another length, or when no nonce was usable. -/
theorem signDigest_recovers (digest : Bytes) (key : PrivateKey) :
    match signDigest digest key with
    | .ok (r, s, recovery) => digest.length = 32 ∧ s ≤ secp256k1HalfN ∧ recovery ≤ 3 ∧ Verifies digest r s key.publicKey ∧
        ∃ k, toAffine (jacobianMultiply secp256k1G key.value) = .ok k ∧ recoverPublicKey digest r s recovery = .ok k
    | .error _ => digest.length ≠ 32 ∨ ∀ nonce ∈ rfc6979Nonces digest key, Unusable digest key nonce := by
  by_cases hlength : digest.length = 32
  · have hspec := signDigest_spec digest key hlength
    generalize signDigest digest key = result at hspec ⊢
    cases result with
    | error e => exact .inr hspec
    | ok signature => exact ⟨hlength, Signed.recovers hspec hlength⟩
  · rw [signDigest, if_pos hlength]
    exact .inl hlength

end Zkdeal.OwnerSoak
