import Zkdeal.Curves.Jacobian
import Zkdeal.OwnerSoak.Secp256k1

/-!
# The group of secp256k1

The driver's triples of numbers stand for points of the curve over the field with `SECP256K1_P` elements
(`Stands`).  Its group has `SECP256K1_N` elements (`card_point`), so scalars can be taken modulo that prime, and
`_jacobian_multiply` computes multiples of every point (`Stands.multiply`).
-/

namespace Zkdeal.OwnerSoak

open Numbers Curves

/-! ## Primes -/

/-- The primes of both orders, with those below them. -/
def primeLines : List Line :=
  [⟨2, 1, []⟩, ⟨3, 2, [2]⟩, ⟨5, 2, [2, 2]⟩, ⟨7, 3, [2, 3]⟩, ⟨11, 2, [2, 5]⟩, ⟨13, 2, [2, 2, 3]⟩,
    ⟨17, 3, [2, 2, 2, 2]⟩, ⟨19, 2, [2, 3, 3]⟩, ⟨23, 5, [2, 11]⟩, ⟨29, 2, [2, 2, 7]⟩, ⟨31, 3, [2, 3, 5]⟩,
    ⟨37, 2, [2, 2, 3, 3]⟩, ⟨41, 6, [2, 2, 2, 5]⟩, ⟨53, 2, [2, 2, 13]⟩, ⟨59, 2, [2, 29]⟩, ⟨67, 2, [2, 3, 11]⟩,
    ⟨73, 5, [2, 2, 2, 3, 3]⟩, ⟨83, 2, [2, 41]⟩, ⟨97, 5, [2, 2, 2, 2, 2, 3]⟩, ⟨101, 2, [2, 2, 5, 5]⟩,
    ⟨103, 5, [2, 3, 17]⟩, ⟨109, 6, [2, 2, 3, 3, 3]⟩, ⟨113, 3, [2, 2, 2, 2, 7]⟩, ⟨131, 2, [2, 5, 13]⟩,
    ⟨149, 2, [2, 2, 37]⟩, ⟨199, 3, [2, 3, 3, 11]⟩, ⟨239, 7, [2, 7, 17]⟩, ⟨271, 6, [2, 3, 3, 3, 5]⟩,
    ⟨293, 2, [2, 2, 73]⟩, ⟨419, 2, [2, 11, 19]⟩, ⟨443, 2, [2, 13, 17]⟩, ⟨461, 2, [2, 2, 5, 23]⟩,
    ⟨631, 3, [2, 3, 3, 5, 7]⟩, ⟨797, 2, [2, 2, 199]⟩, ⟨887, 5, [2, 443]⟩, ⟨971, 6, [2, 5, 97]⟩,
    ⟨1373, 2, [2, 2, 7, 7, 7]⟩, ⟨1409, 3, [2, 2, 2, 2, 2, 2, 2, 11]⟩, ⟨1627, 3, [2, 3, 271]⟩,
    ⟨1871, 14, [2, 5, 11, 17]⟩, ⟨2011, 3, [2, 3, 5, 67]⟩, ⟨2621, 2, [2, 2, 5, 131]⟩, ⟨2657, 3, [2, 2, 2, 2, 2, 83]⟩,
    ⟨2731, 3, [2, 3, 5, 7, 13]⟩, ⟨2861, 2, [2, 2, 5, 11, 13]⟩, ⟨4051, 10, [2, 3, 3, 3, 3, 5, 5]⟩,
    ⟨4423, 3, [2, 3, 11, 67]⟩, ⟨5323, 5, [2, 3, 887]⟩, ⟨7723, 3, [2, 3, 3, 3, 11, 13]⟩, ⟨9349, 2, [2, 2, 3, 19, 41]⟩,
    ⟨13441, 11, [2, 2, 2, 2, 2, 2, 2, 3, 5, 7]⟩, ⟨16699, 3, [2, 3, 11, 11, 23]⟩, ⟨20113, 10, [2, 2, 2, 2, 3, 419]⟩,
    ⟨24809, 6, [2, 2, 2, 7, 443]⟩, ⟨28181, 2, [2, 2, 5, 1409]⟩, ⟨41201, 3, [2, 2, 2, 2, 5, 5, 103]⟩,
    ⟨85831, 3, [2, 3, 5, 2861]⟩, ⟨96557, 2, [2, 2, 101, 239]⟩, ⟨120233, 3, [2, 2, 2, 7, 19, 113]⟩,
    ⟨305873, 3, [2, 2, 2, 2, 7, 2731]⟩, ⟨1206781, 10, [2, 2, 3, 5, 20113]⟩, ⟨1627771, 3, [2, 3, 5, 29, 1871]⟩,
    ⟨4681609, 23, [2, 2, 2, 3, 97, 2011]⟩, ⟨7240687, 3, [2, 3, 1206781]⟩, ⟨13331831, 13, [2, 5, 971, 1373]⟩,
    ⟨44706919, 6, [2, 3, 797, 9349]⟩, ⟨107590001, 3, [2, 2, 2, 2, 5, 5, 5, 5, 7, 29, 53]⟩,
    ⟨545358713, 5, [2, 2, 2, 41, 59, 28181]⟩, ⟨297159362677, 2, [2, 2, 3, 3, 11, 461, 1627771]⟩,
    ⟨107361793816595537, 3, [2, 2, 2, 2, 16699, 85831, 4681609]⟩,
    ⟨173378833005251801, 6, [2, 2, 2, 5, 5, 2621, 24809, 13331831]⟩,
    ⟨174723607534414371449, 3, [2, 2, 2, 17, 59, 4051, 120233, 44706919]⟩,
    ⟨22149492674086928081353, 5, [2, 2, 2, 3, 5323, 173378833005251801]⟩,
    ⟨132896956044521568488119, 6, [2, 3, 22149492674086928081353]⟩,
    ⟨29047611873442575647497758179, 2, [2, 293, 305873, 545358713, 297159362677]⟩,
    ⟨341948486974166000522343609283189, 2, [2, 2, 3, 3, 3, 109, 29047611873442575647497758179]⟩,
    ⟨255515944373312847190720520512484175977, 3, [2, 2, 2, 7, 7, 11, 1627, 2657, 4423, 41201, 96557, 7240687, 107590001]⟩,
    ⟨205115282021455665897114700593932402728804164701536103180137503955397371, 10,
      [2, 3, 5, 29, 29, 31, 7723, 132896956044521568488119, 255515944373312847190720520512484175977]⟩,
    ⟨secp256k1N, 7,
      [2, 2, 2, 2, 2, 2, 3, 149, 631, 107361793816595537, 174723607534414371449, 341948486974166000522343609283189]⟩,
    ⟨secp256k1P, 3, [2, 3, 7, 13441, 205115282021455665897114700593932402728804164701536103180137503955397371]⟩]

theorem certified_primeLines : certified [] primeLines = true := by
  decide +kernel

theorem prime_of_primeLines : ∀ l ∈ primeLines, l.number.Prime :=
  prime_of_certified (List.forall_mem_nil _) certified_primeLines

theorem prime_secp256k1N : secp256k1N.Prime :=
  prime_of_primeLines (primeLines.get ⟨78, by decide⟩) (List.get_mem _ _)

theorem prime_secp256k1P : secp256k1P.Prime :=
  prime_of_primeLines (primeLines.get ⟨79, by decide⟩) (List.get_mem _ _)

instance : Fact secp256k1P.Prime := ⟨prime_secp256k1P⟩

instance : Fact secp256k1N.Prime := ⟨prime_secp256k1N⟩

/-! ## Triples of numbers -/

/-- The field of the coordinates. -/
abbrev Coordinate := ZMod secp256k1P

/-- A point of `y² = x³ + 7`. -/
abbrev Point := (curve (7 : Coordinate)).Point

/-- The triple of the field elements. -/
def inField (P : JacobianPoint) : Coordinate × Coordinate × Coordinate := (P.1, P.2.1, P.2.2)

theorem reduced_lt (value : ℤ) : reduced value < secp256k1P := by
  have hpos : (0 : ℤ) < secp256k1P := by exact_mod_cast prime_secp256k1P.pos
  have hlt := Int.emod_lt_of_pos value hpos
  have hnonneg := Int.emod_nonneg value hpos.ne'
  unfold reduced
  omega

@[simp] theorem cast_reduced (value : ℤ) : ((reduced value : ℕ) : Coordinate) = (value : Coordinate) := by
  have hpos : (0 : ℤ) < secp256k1P := by exact_mod_cast prime_secp256k1P.pos
  have hcast : ((reduced value : ℕ) : ℤ) = value % secp256k1P := Int.toNat_of_nonneg (Int.emod_nonneg value hpos.ne')
  rw [← Int.cast_natCast, hcast, ZMod.intCast_mod]

theorem cast_eq_zero {n : ℕ} (hn : n < secp256k1P) : (n : Coordinate) = 0 ↔ n = 0 := by
  rw [ZMod.natCast_eq_zero_iff]
  exact ⟨fun h => Nat.eq_zero_of_dvd_of_lt h hn, fun h => h ▸ dvd_zero _⟩

theorem cast_inj {m n : ℕ} (hm : m < secp256k1P) (hn : n < secp256k1P) : (m : Coordinate) = n ↔ m = n := by
  rw [ZMod.natCast_eq_natCast_iff', Nat.mod_eq_of_lt hm, Nat.mod_eq_of_lt hn]

/-- The coordinates that the code compares with zero are reduced. -/
def IsReduced (P : JacobianPoint) : Prop := P.2.1 < secp256k1P ∧ P.2.2 < secp256k1P

theorem isReduced_zero : IsReduced (0, 0, 0) := ⟨prime_secp256k1P.pos, prime_secp256k1P.pos⟩

theorem IsReduced.infinity_iff {P : JacobianPoint} (h : IsReduced P) :
    (P.2.1 : Coordinate) = 0 ∨ (P.2.2 : Coordinate) = 0 ↔ P.2.1 = 0 ∨ P.2.2 = 0 :=
  or_congr (cast_eq_zero h.1) (cast_eq_zero h.2)

theorem isReduced_double (P : JacobianPoint) : IsReduced (jacobianDouble P) := by
  obtain ⟨x, y, z⟩ := P
  rw [jacobianDouble]
  by_cases h : y = 0 ∨ z = 0
  · rw [if_pos h]
    exact isReduced_zero
  · rw [if_neg h]
    dsimp only [IsReduced]
    exact ⟨reduced_lt _, reduced_lt _⟩

theorem inField_double {P : JacobianPoint} (h : IsReduced P) : inField (jacobianDouble P) = double (inField P) := by
  obtain ⟨x, y, z⟩ := P
  have hinfinity := h.infinity_iff
  dsimp only at hinfinity
  rw [jacobianDouble, inField, inField, double]
  dsimp only
  by_cases hzero : y = 0 ∨ z = 0
  · rw [if_pos hzero, if_pos (hinfinity.2 hzero)]
    simp
  · rw [if_neg hzero, if_neg fun hc => hzero (hinfinity.1 hc)]
    refine Prod.ext ?_ (Prod.ext ?_ ?_)
    · push_cast [cast_reduced]
      ring
    · push_cast [cast_reduced]
      ring
    · push_cast [cast_reduced]
      ring

theorem isReduced_add {P Q : JacobianPoint} (hP : IsReduced P) (hQ : IsReduced Q) : IsReduced (jacobianAdd P Q) := by
  obtain ⟨x1, y1, z1⟩ := P
  obtain ⟨x2, y2, z2⟩ := Q
  unfold jacobianAdd
  dsimp only
  split_ifs
  · exact hQ
  · exact hP
  · exact isReduced_zero
  · exact isReduced_double _
  · dsimp only [IsReduced]
    exact ⟨reduced_lt _, reduced_lt _⟩

theorem inField_add {P Q : JacobianPoint} (hP : IsReduced P) (hQ : IsReduced Q) :
    inField (jacobianAdd P Q) = add (inField P) (inField Q) := by
  have hfirst := hP.infinity_iff
  have hsecond := hQ.infinity_iff
  have hdouble := inField_double hP
  obtain ⟨x1, y1, z1⟩ := P
  obtain ⟨x2, y2, z2⟩ := Q
  dsimp only at hfirst hsecond
  change inField (jacobianAdd (x1, y1, z1) (x2, y2, z2)) =
    add ((x1 : Coordinate), (y1 : Coordinate), (z1 : Coordinate)) ((x2 : Coordinate), (y2 : Coordinate), (z2 : Coordinate))
  rw [jacobianAdd, add]
  dsimp only
  by_cases h1 : y1 = 0 ∨ z1 = 0
  · rw [if_pos h1, if_pos (hfirst.2 h1)]
    rfl
  · rw [if_neg h1, if_neg fun hc => h1 (hfirst.1 hc)]
    by_cases h2 : y2 = 0 ∨ z2 = 0
    · rw [if_pos h2, if_pos (hsecond.2 h2)]
      rfl
    · rw [if_neg h2, if_neg fun hc => h2 (hsecond.1 hc)]
      have hu : reduced (x1 * reduced (z2 * z2)) = reduced (x2 * reduced (z1 * z1)) ↔
          (x1 : Coordinate) * z2 ^ 2 = x2 * z1 ^ 2 := by
        rw [← cast_inj (reduced_lt _) (reduced_lt _)]
        push_cast [cast_reduced]
        rw [sq, sq]
      have hs : reduced (y1 * reduced (z2 * z2) * z2) = reduced (y2 * reduced (z1 * z1) * z1) ↔
          (y1 : Coordinate) * z2 ^ 3 = y2 * z1 ^ 3 := by
        rw [← cast_inj (reduced_lt _) (reduced_lt _)]
        push_cast [cast_reduced]
        constructor <;> intro h <;> linear_combination h
      by_cases hequal : reduced (x1 * reduced (z2 * z2)) = reduced (x2 * reduced (z1 * z1))
      · rw [if_pos hequal, if_pos (hu.1 hequal)]
        by_cases hsame : reduced (y1 * reduced (z2 * z2) * z2) = reduced (y2 * reduced (z1 * z1) * z1)
        · rw [if_neg (not_not.2 hsame), if_neg (not_not.2 (hs.1 hsame))]
          exact hdouble
        · rw [if_pos hsame, if_pos fun hc => hsame (hs.2 hc)]
          simp [inField]
      · rw [if_neg hequal, if_neg fun hc => hequal (hu.2 hc)]
        dsimp only [inField]
        refine Prod.ext ?_ (Prod.ext ?_ ?_)
        · push_cast [cast_reduced]
          ring
        · push_cast [cast_reduced]
          ring
        · push_cast [cast_reduced]
          ring

/-! ## What a triple stands for -/

/-- The triple stands for the point, and is reduced as far as the code relies on it. -/
structure Stands (P : JacobianPoint) (p : Point) : Prop where
  isReduced : IsReduced P
  represents : Represents (inField P) p

theorem two_ne_zero_coordinate : (2 : Coordinate) ≠ 0 := by
  have h : ((2 : ℕ) : Coordinate) ≠ 0 := fun h => absurd ((cast_eq_zero (by decide)).1 h) (by decide)
  exact_mod_cast h

theorem powMod_neg_seven : powMod (secp256k1P - 7) ((secp256k1P - 1) / 3) secp256k1P ≠ 1 := by
  decide +kernel

/-- `-7` has no cube root. -/
theorem noTorsion : NoTorsion (7 : Coordinate) := by
  intro x hx
  have hseven : ((secp256k1P - 7 : ℕ) : Coordinate) = -7 := by
    rw [Nat.cast_sub (by decide), ZMod.natCast_self, zero_sub]
    rfl
  have hcube : x ^ 3 = ((secp256k1P - 7 : ℕ) : Coordinate) := by
    rw [hseven]
    linear_combination hx
  have hne : x ≠ 0 := by
    rintro rfl
    rw [zero_pow three_ne_zero] at hcube
    exact absurd ((cast_eq_zero (by decide)).1 hcube.symm) (by decide)
  have hpow : ((secp256k1P - 7 : ℕ) : Coordinate) ^ ((secp256k1P - 1) / 3) = 1 := by
    rw [← hcube, ← pow_mul, show 3 * ((secp256k1P - 1) / 3) = secp256k1P - 1 by decide]
    exact ZMod.pow_card_sub_one_eq_one hne
  exact powMod_neg_seven ((powMod_eq_one_iff prime_secp256k1P.one_lt _ _).2 hpow)

namespace Stands

variable {P Q : JacobianPoint} {p q : Point}

theorem zero : Stands (0, 0, 0) 0 := ⟨isReduced_zero, .infinity (.inl (by simp))⟩

theorem double (h : Stands P p) : Stands (jacobianDouble P) (p + p) where
  isReduced := isReduced_double P
  represents := by
    rw [inField_double h.isReduced]
    exact h.represents.double two_ne_zero_coordinate noTorsion

theorem add (hP : Stands P p) (hQ : Stands Q q) : Stands (jacobianAdd P Q) (p + q) where
  isReduced := isReduced_add hP.isReduced hQ.isReduced
  represents := by
    rw [inField_add hP.isReduced hQ.isReduced]
    exact hP.represents.add two_ne_zero_coordinate noTorsion hQ.represents

theorem infinity_iff (h : Stands P p) : P.2.1 = 0 ∨ P.2.2 = 0 ↔ p = 0 := by
  rw [← h.isReduced.infinity_iff]
  exact h.represents.infinity_iff

theorem multiplyLoop {steps factor : ℕ} (hQ : Stands Q q) (hP : Stands P p) (hfactor : factor < 2 ^ steps) :
    Stands (multiplyLoop steps factor Q P) (q + factor • p) := by
  induction steps generalizing factor Q P q p with
  | zero =>
    have hzero : factor = 0 := by omega
    rw [hzero, zero_nsmul, add_zero]
    exact hQ
  | succ steps ih =>
    rw [OwnerSoak.multiplyLoop]
    by_cases hzero : factor = 0
    · rw [if_pos hzero, hzero, zero_nsmul, add_zero]
      exact hQ
    · have hhalf : factor >>> 1 < 2 ^ steps := by
        rw [pow_succ] at hfactor
        rw [Nat.shiftRight_one]
        omega
      rw [if_neg hzero, Nat.and_one_is_mod]
      by_cases hodd : factor % 2 = 1
      · rw [if_pos hodd, add_smul_of_odd q p hodd, ← Nat.shiftRight_one]
        exact ih (hQ.add hP) hP.double hhalf
      · rw [if_neg hodd, add_smul_of_even q p hodd, ← Nat.shiftRight_one]
        exact ih hQ hP.double hhalf

end Stands

/-! ## The order of the group -/

/-- A pair of numbers on the curve, as a triple. -/
theorem Stands.affine {x y : ℕ} (hy : y < secp256k1P) (h : (curve (7 : Coordinate)).Nonsingular x y) :
    Stands (x, y, 1) (.some (x : Coordinate) y h) where
  isReduced := ⟨hy, prime_secp256k1P.one_lt⟩
  represents := noTorsion.represents h (by simp) (by simp) (by simp)

theorem generator_equation : secp256k1G.2.1 ^ 2 % secp256k1P = (secp256k1G.1 ^ 3 + 7) % secp256k1P := by
  decide

theorem nonsingular_generator : (curve (7 : Coordinate)).Nonsingular (secp256k1G.1 : Coordinate) secp256k1G.2.1 := by
  refine nonsingular_curve two_ne_zero_coordinate ?_ ?_
  · exact fun h => absurd ((cast_eq_zero (by decide)).1 h) (by decide)
  · exact_mod_cast (ZMod.natCast_eq_natCast_iff' _ _ _).2 generator_equation

/-- The base point. -/
def generator : Point := .some _ _ nonsingular_generator

theorem stands_generator : Stands secp256k1G generator := Stands.affine (by decide) nonsingular_generator

theorem multiplyLoop_order : (multiplyLoop 256 secp256k1N (0, 0, 0) secp256k1G).2.1 = 0 := by
  decide +kernel

theorem order_smul_generator : secp256k1N • generator = 0 := by
  have hstands : Stands (multiplyLoop 256 secp256k1N (0, 0, 0) secp256k1G) (0 + secp256k1N • generator) :=
    Stands.zero.multiplyLoop stands_generator (by decide)
  rw [zero_add] at hstands
  exact hstands.infinity_iff.1 (.inl multiplyLoop_order)

theorem addOrderOf_generator : addOrderOf generator = secp256k1N :=
  addOrderOf_eq_prime order_smul_generator (WeierstrassCurve.Affine.Point.some_ne_zero _)

instance : Finite Point := by
  have : NeZero secp256k1P := ⟨prime_secp256k1P.ne_zero⟩
  exact Finite.of_equiv (Option { p : Coordinate × Coordinate // (curve (7 : Coordinate)).Nonsingular p.1 p.2 })
    (curve (7 : Coordinate)).nonsingularPointEquiv.symm

/-- The first coordinate of a point. -/
def abscissa : Point → Option Coordinate
  | .zero => none
  | .some x _ _ => some x

theorem eq_or_eq_neg_of_abscissa {p q : Point} (h : abscissa p = abscissa q) : p = q ∨ p = -q := by
  refine WeierstrassCurve.Affine.Point.eq_or_eq_neg_of_xRep_eq_xRep ?_
  cases p with
  | zero =>
    cases q with
    | zero => rfl
    | some x y hq => cases h
  | some x y hp =>
    cases q with
    | zero => cases h
    | some x' y' hq =>
      rw [WeierstrassCurve.Affine.Point.xRep_some, WeierstrassCurve.Affine.Point.xRep_some, Option.some.inj h]

/-- At most two points have one abscissa. -/
theorem natCard_point_le : Nat.card Point ≤ 2 * (secp256k1P + 1) := by
  classical
  have : NeZero secp256k1P := ⟨prime_secp256k1P.ne_zero⟩
  have : Fintype Point := Fintype.ofFinite Point
  have hfibers : ∀ a ∈ Finset.univ.image abscissa, (Finset.univ.filter fun p => abscissa p = a).card ≤ 2 := by
    intro a ha
    obtain ⟨p, -, rfl⟩ := Finset.mem_image.1 ha
    have hpair : (Finset.univ.filter fun q => abscissa q = abscissa p) ⊆ {p, -p} := by
      intro q hq
      rw [Finset.mem_insert, Finset.mem_singleton]
      exact eq_or_eq_neg_of_abscissa (Finset.mem_filter.1 hq).2
    exact (Finset.card_le_card hpair).trans Finset.card_le_two
  have himage : (Finset.univ.image abscissa).card ≤ secp256k1P + 1 := by
    refine (Finset.card_le_univ _).trans ?_
    rw [Fintype.card_option, ZMod.card]
  rw [Nat.card_eq_fintype_card]
  exact (Finset.card_le_mul_card_image _ 2 hfibers).trans (Nat.mul_le_mul_left 2 himage)

theorem two_smul_ne_zero {p : Point} (hp : p ≠ 0) : 2 • p ≠ 0 := by
  intro hdouble
  rw [two_nsmul, add_eq_zero_iff_eq_neg] at hdouble
  cases p with
  | zero => exact hp rfl
  | some x y h =>
    rw [WeierstrassCurve.Affine.Point.neg_some, WeierstrassCurve.Affine.Point.some.injEq, negY_curve] at hdouble
    have hzero : 2 * y = 0 := by linear_combination hdouble.2
    exact mul_ne_zero two_ne_zero_coordinate (noTorsion.ne_zero h) hzero

/-- The group has prime order. -/
theorem card_point : Nat.card Point = secp256k1N := by
  have hdvd : secp256k1N ∣ Nat.card Point := addOrderOf_generator ▸ addOrderOf_dvd_natCard generator
  obtain ⟨c, hc⟩ := hdvd
  have hpos : 0 < Nat.card Point := Nat.card_pos
  have hle := natCard_point_le
  have hbound : 2 * (secp256k1P + 1) < secp256k1N * 3 := by decide
  have hcpos : 0 < c := Nat.pos_of_ne_zero fun h => by simp [h] at hc; omega
  have hclt : c < 3 := Nat.lt_of_mul_lt_mul_left (hc ▸ hle.trans_lt hbound)
  have htwo : c ≠ 2 := by
    rintro rfl
    have : Fact (Nat.Prime 2) := ⟨Nat.prime_two⟩
    obtain ⟨p, hp⟩ := exists_prime_addOrderOf_dvd_card' (G := Point) 2 ⟨secp256k1N, by rw [hc, mul_comm]⟩
    refine two_smul_ne_zero ?_ (hp ▸ addOrderOf_nsmul_eq_zero p)
    rintro rfl
    rw [addOrderOf_zero] at hp
    exact absurd hp (by decide)
  have hone : c = 1 := by omega
  rw [hc, hone, mul_one]

theorem order_smul (p : Point) : secp256k1N • p = 0 := by
  rw [← card_point]
  exact card_nsmul_eq_zero'

/-- Scalars are taken modulo the order. -/
instance : Module (ZMod secp256k1N) Point := AddCommGroup.zmodModule order_smul

theorem natCast_smul (k : ℕ) (p : Point) : (k : ZMod secp256k1N) • p = k • p := Nat.cast_smul_eq_nsmul _ k p

/-! ## Multiples and coordinates -/

theorem Stands.multiply {P : JacobianPoint} {p : Point} (h : Stands P p) (k : ℕ) :
    Stands (jacobianMultiply P k) (k • p) := by
  have hfactor : (k % secp256k1N) • p = k • p := by
    rw [← natCast_smul, ← natCast_smul, ZMod.natCast_mod]
  rw [jacobianMultiply]
  by_cases hzero : k % secp256k1N = 0 ∨ P.2.1 = 0 ∨ P.2.2 = 0
  · have hinfinity : k • p = 0 := by
      rw [← hfactor]
      rcases hzero with hzero | hzero
      · rw [hzero, zero_nsmul]
      · rw [h.infinity_iff.1 hzero, nsmul_zero]
    rw [if_pos hzero, hinfinity]
    exact Stands.zero
  · have hlt : k % secp256k1N < 2 ^ 256 := (Nat.mod_lt _ prime_secp256k1N.pos).trans (by decide)
    have hstands := Stands.zero.multiplyLoop h hlt
    rw [zero_add, hfactor] at hstands
    rw [if_neg hzero]
    exact hstands

theorem cast_inverse {z : ℕ} (hz : (z : Coordinate) ≠ 0) :
    ((powMod z (secp256k1P - 2) secp256k1P : ℕ) : Coordinate) = (z : Coordinate)⁻¹ := by
  rw [cast_powMod]
  refine eq_inv_of_mul_eq_one_left ?_
  rw [← pow_succ, show secp256k1P - 2 + 1 = secp256k1P - 1 by decide]
  exact ZMod.pow_card_sub_one_eq_one hz

/-- The coordinates of a point, unless it is the point at infinity. -/
def coordinates : Point → Option (ℕ × ℕ)
  | .zero => none
  | .some x y _ => some (x.val, y.val)

theorem coordinates_eq_some {p : Point} {x y : ℕ} :
    coordinates p = some (x, y) ↔
      x < secp256k1P ∧ y < secp256k1P ∧ ∃ hxy, p = .some (x : Coordinate) (y : Coordinate) hxy := by
  have : NeZero secp256k1P := ⟨prime_secp256k1P.ne_zero⟩
  cases p with
  | zero =>
    refine ⟨fun h => (by cases h), fun h => ?_⟩
    obtain ⟨-, -, hxy, hsome⟩ := h
    exact absurd hsome.symm (WeierstrassCurve.Affine.Point.some_ne_zero hxy)
  | some X Y hXY =>
    rw [coordinates, Option.some.injEq, Prod.mk.injEq]
    constructor
    · rintro ⟨rfl, rfl⟩
      have hX : ((X.val : ℕ) : Coordinate) = X := ZMod.natCast_zmod_val X
      have hY : ((Y.val : ℕ) : Coordinate) = Y := ZMod.natCast_zmod_val Y
      refine ⟨ZMod.val_lt X, ZMod.val_lt Y, ?_⟩
      rw [hX, hY]
      exact ⟨hXY, rfl⟩
    · rintro ⟨hx, hy, hxy, hsome⟩
      rw [WeierstrassCurve.Affine.Point.some.injEq] at hsome
      rw [hsome.1, hsome.2, ZMod.val_natCast_of_lt hx, ZMod.val_natCast_of_lt hy]
      exact ⟨rfl, rfl⟩

theorem coordinates_eq_none {p : Point} : coordinates p = none ↔ p = 0 := by
  cases p with
  | zero => exact iff_of_true rfl rfl
  | some x y hxy => exact iff_of_false (by simp [coordinates]) (WeierstrassCurve.Affine.Point.some_ne_zero hxy)

theorem coordinates_injective {p q : Point} (h : coordinates p = coordinates q) : p = q := by
  rcases hq : coordinates q with _ | ⟨x, y⟩
  · rw [coordinates_eq_none.1 hq, coordinates_eq_none.1 (h.trans hq)]
  · obtain ⟨-, -, hxy, rfl⟩ := coordinates_eq_some.1 hq
    obtain ⟨-, -, hxy', rfl⟩ := coordinates_eq_some.1 (h.trans hq)
    rfl

theorem abscissa_of_coordinates {p : Point} {x y : ℕ} (h : coordinates p = some (x, y)) : abscissa p = some (x : Coordinate) := by
  obtain ⟨-, -, hxy, rfl⟩ := coordinates_eq_some.1 h
  rfl

theorem exists_coordinates {p : Point} {X : Coordinate} (h : abscissa p = some X) : ∃ y, coordinates p = some (X.val, y) := by
  cases p with
  | zero => cases h
  | some x y hxy =>
    cases h
    exact ⟨y.val, rfl⟩

/-- `_to_affine` returns the coordinates of the point, unless it is the point at infinity. -/
theorem Stands.toAffine_eq_ok {P : JacobianPoint} {p : Point} (h : Stands P p) {k : ℕ × ℕ} :
    toAffine P = .ok k ↔ coordinates p = some k := by
  have hinfinity := h.infinity_iff
  have hpoint := h.represents
  obtain ⟨a, b, c⟩ := P
  dsimp only at hinfinity
  rw [toAffine]
  by_cases hzero : b = 0 ∨ c = 0
  · rw [if_pos hzero, hinfinity.1 hzero]
    exact ⟨fun h => (by cases h), fun h => (by cases h)⟩
  · have hfinite : p ≠ 0 := fun hp => hzero (hinfinity.2 hp)
    rw [if_neg hzero]
    dsimp only
    generalize hX : a * (powMod c (secp256k1P - 2) secp256k1P * powMod c (secp256k1P - 2) secp256k1P % secp256k1P) %
      secp256k1P = X
    generalize hY : b * (powMod c (secp256k1P - 2) secp256k1P * powMod c (secp256k1P - 2) secp256k1P % secp256k1P) *
      powMod c (secp256k1P - 2) secp256k1P % secp256k1P = Y
    have hXlt : X < secp256k1P := hX ▸ Nat.mod_lt _ prime_secp256k1P.pos
    have hYlt : Y < secp256k1P := hY ▸ Nat.mod_lt _ prime_secp256k1P.pos
    have hcoordinates : coordinates p = some (X, Y) := by
      refine coordinates_eq_some.2 ⟨hXlt, hYlt, ?_⟩
      rw [inField] at hpoint
      generalize hA : (a : Coordinate) = A at hpoint
      generalize hB : (b : Coordinate) = B at hpoint
      generalize hC : (c : Coordinate) = C at hpoint
      cases hpoint with
      | infinity h => exact absurd rfl hfinite
      | @finite X' Y' _ hY' hz hns =>
        have hinverse := cast_inverse (hC ▸ hz)
        have hXc : (X : Coordinate) = X' := by
          rw [← hX, ZMod.natCast_mod]
          push_cast [ZMod.natCast_mod]
          rw [hinverse, hA, hC]
          field_simp
        have hYc : (Y : Coordinate) = Y' := by
          rw [← hY, ZMod.natCast_mod]
          push_cast [ZMod.natCast_mod]
          rw [hinverse, hB, hC]
          field_simp
        subst hXc hYc
        exact ⟨hns, rfl⟩
    rw [hcoordinates, Except.ok.injEq, Option.some.injEq]

end Zkdeal.OwnerSoak
