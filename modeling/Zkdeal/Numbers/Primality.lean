import Mathlib

/-!
# Powers modulo a number, and certificates of primality

`powMod` squares and multiplies, so that it can be evaluated at large exponents.  A certificate is a list of
numbers, each with a primitive root and the prime factors of its predecessor, which are themselves numbers of
the list.  Lucas' test makes each number of such a list prime (`prime_of_certified`).
-/

namespace Numbers

/-! ## Powers -/

/-- `base ^ e % m` for an exponent of at most `bits` bits. -/
def powBits (m : ℕ) : ℕ → ℕ → ℕ → ℕ
  | 0, _, _ => 1 % m
  | bits + 1, base, e =>
    let rest := powBits m bits (base * base % m) (e / 2)
    if e % 2 = 1 then base * rest % m else rest

theorem powBits_eq (m : ℕ) {bits : ℕ} (base : ℕ) {e : ℕ} (he : e < 2 ^ bits) : powBits m bits base e = base ^ e % m := by
  induction bits generalizing base e with
  | zero =>
    have hzero : e = 0 := by omega
    rw [hzero, pow_zero]
    rfl
  | succ bits ih =>
    have hhalf : e / 2 < 2 ^ bits := by
      rw [pow_succ] at he
      omega
    have hsquare : powBits m bits (base * base % m) (e / 2) = base ^ (2 * (e / 2)) % m := by
      rw [ih _ hhalf, ← Nat.pow_mod, pow_mul, sq]
    rw [powBits]
    rw [hsquare]
    by_cases hodd : e % 2 = 1
    · have hdecompose : e = 2 * (e / 2) + 1 := by omega
      rw [if_pos hodd, Nat.mul_mod_mod, ← pow_succ', ← hdecompose]
    · have hdecompose : e = 2 * (e / 2) := by omega
      rw [if_neg hodd, ← hdecompose]

/-- `pow(base, e, m)` -/
def powMod (base e m : ℕ) : ℕ := powBits m (e.log2 + 1) base e

theorem powMod_eq (base e m : ℕ) : powMod base e m = base ^ e % m := powBits_eq m base Nat.lt_log2_self

theorem powMod_lt (base e : ℕ) {m : ℕ} (hm : 0 < m) : powMod base e m < m := by
  rw [powMod_eq]
  exact Nat.mod_lt _ hm

theorem cast_powMod (base e m : ℕ) : (powMod base e m : ZMod m) = (base : ZMod m) ^ e := by
  rw [powMod_eq, ZMod.natCast_mod, Nat.cast_pow]

/-! ## Certificates -/

/-- A number, a primitive root, and the prime factors of the number before. -/
structure Line where
  number : ℕ
  root : ℕ
  factors : List ℕ

/-- Lucas' test of a line, when the factors are `known`. -/
def Line.passes (known : List ℕ) (l : Line) : Bool :=
  decide (1 < l.number) && l.factors.all (known.contains ·) && l.factors.prod == l.number - 1 &&
    powMod l.root (l.number - 1) l.number == 1 &&
    l.factors.all fun q => powMod l.root ((l.number - 1) / q) l.number != 1

/-- Each line passes, with the numbers of the earlier ones known. -/
def certified : List ℕ → List Line → Bool
  | _, [] => true
  | known, l :: ls => l.passes known && certified (l.number :: known) ls

theorem powMod_eq_one_iff {m : ℕ} (hm : 1 < m) (base e : ℕ) : powMod base e m = 1 ↔ (base : ZMod m) ^ e = 1 := by
  have : Fact (1 < m) := ⟨hm⟩
  rw [← cast_powMod]
  constructor
  · intro h
    rw [h, Nat.cast_one]
  · intro h
    have hval := congrArg ZMod.val h
    rwa [ZMod.val_natCast, ZMod.val_one, Nat.mod_eq_of_lt (powMod_lt base e (by omega))] at hval

theorem Line.prime_of_passes {known : List ℕ} {l : Line} (hknown : ∀ q ∈ known, q.Prime) (h : l.passes known = true) :
    l.number.Prime := by
  simp only [Line.passes, Bool.and_eq_true, decide_eq_true_eq, List.all_eq_true, beq_iff_eq, bne_iff_ne,
    List.contains_iff_mem] at h
  obtain ⟨⟨⟨⟨hone, hfactors⟩, hproduct⟩, hfull⟩, hproper⟩ := h
  have hprime : ∀ q ∈ l.factors, Prime q := fun q hq => (hknown q (hfactors q hq)).prime
  refine lucas_primality l.number l.root ((powMod_eq_one_iff hone _ _).1 hfull) ?_
  intro q hq hdvd
  rw [← hproduct] at hdvd
  have hmem : q ∈ l.factors := mem_list_primes_of_dvd_prod hq.prime hprime hdvd
  exact fun hpow => hproper q hmem ((powMod_eq_one_iff hone _ _).2 hpow)

theorem prime_of_certified {known : List ℕ} {lines : List Line} (hknown : ∀ q ∈ known, q.Prime)
    (h : certified known lines = true) : ∀ l ∈ lines, l.number.Prime := by
  induction lines generalizing known with
  | nil => exact fun l hl => absurd hl List.not_mem_nil
  | cons l ls ih =>
    rw [certified, Bool.and_eq_true] at h
    have hprime := l.prime_of_passes hknown h.1
    refine List.forall_mem_cons.2 ⟨hprime, ih ?_ h.2⟩
    exact List.forall_mem_cons.2 ⟨hprime, hknown⟩

end Numbers
