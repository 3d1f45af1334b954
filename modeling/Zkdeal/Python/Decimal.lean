import Zkdeal.Python.JsonRoundTrip

/-!
# Integers and their decimals

`int(str(n)) == n`, for what Python prints.
-/

namespace Python

open Json

theorem toNat_of_isDigit09 {c : Char} (h : isDigit09 c = true) : 48 ≤ c.toNat ∧ c.toNat ≤ 57 := by
  simpa [isDigit09, Char.le_def, UInt32.le_iff_toNat_le] using h

theorem decimalValue_of_isDigit09 {c : Char} (h : isDigit09 c = true) : decimalValue c = some (c.toNat - '0'.toNat) := by
  obtain ⟨low, high⟩ := toNat_of_isDigit09 h
  unfold decimalValue decimalZeros
  rw [List.find?_cons_of_pos (by simp; omega)]
  rfl

theorem isSpace_of_isDigit09 {c : Char} (h : isDigit09 c = true) : isSpace c = false := by
  obtain ⟨low, high⟩ := toNat_of_isDigit09 h
  simp only [isSpace, Bool.or_eq_false_iff, Bool.and_eq_false_iff, decide_eq_false_iff_not, beq_eq_false_iff_ne]
  omega

/-- Text without spaces is not stripped. -/
theorem strip_of_forall {cs : List Char} (h : ∀ c ∈ cs, isSpace c = false) : strip (.ofList cs) = .ofList cs := by
  have keep {ds : List Char} (hds : ∀ c ∈ ds, isSpace c = false) : ds.dropWhile isSpace = ds := by
    cases ds with
    | nil => rfl
    | cons d ds => rw [List.dropWhile_cons_of_neg (by simp [hds d])]
  rw [strip, String.toList_ofList, keep h, keep (fun c hc => h c (List.mem_reverse.1 hc)), List.reverse_reverse]

theorem digitsValue_of_forall {cs : List Char} (h : ∀ c ∈ cs, isDigit09 c = true) (n : ℕ) :
    digitsValue n cs = some (cs.foldl (fun n c => 10 * n + (c.toNat - '0'.toNat)) n) := by
  induction cs generalizing n with
  | nil => rfl
  | cons c cs ih =>
    have underscore : c ≠ '_' := by
      rintro rfl
      exact absurd (h '_' (by simp)) (by decide)
    rw [digitsValue.eq_def]
    split
    case h_1 heq => cases heq
    case h_2 heq => exact absurd (List.cons.inj heq).1 underscore
    case h_3 heq =>
      obtain ⟨rfl, rfl⟩ := List.cons.inj heq
      rw [decimalValue_of_isDigit09 (h c (by simp)), Option.bind_eq_bind, Option.bind_some,
        ih (fun d hd => h d (by simp [hd])), List.foldl_cons]

/-- `int(s)` of ASCII digits. -/
theorem intOfStr_of_digits {cs : List Char} (digits : ∀ c ∈ cs, isDigit09 c = true) (hne : cs ≠ []) :
    intOfStr (.ofList cs) = if cs.length ≤ 4300 then some (digitsNat cs : ℤ) else none := by
  rw [intOfStr, strip_of_forall fun c hc => isSpace_of_isDigit09 (digits c hc), String.toList_ofList]
  cases cs with
  | nil => exact absurd rfl hne
  | cons c ds =>
    have hc := digits c (by simp)
    have tail : ∀ d ∈ ds, isDigit09 d = true := fun d hd => digits d (by simp [hd])
    have other {d : Char} (hd : isDigit09 d = false) : c ≠ d := by
      rintro rfl
      rw [hc] at hd
      cases hd
    have count : (c :: ds).countP (· ≠ '_') = (c :: ds).length := by
      refine List.countP_eq_length.2 fun d hd => decide_eq_true ?_
      rintro rfl
      exact absurd (digits '_' hd) (by decide)
    have fold : ds.foldl (fun n c => 10 * n + (c.toNat - '0'.toNat)) (c.toNat - '0'.toNat) = digitsNat (c :: ds) := by
      rw [digitsNat, List.foldl_cons, Nat.mul_zero, Nat.zero_add]
    split
    · rename_i heq
      exact absurd (List.cons.inj heq).1 (other (by decide))
    · rename_i heq
      exact absurd (List.cons.inj heq).1 (other (by decide))
    · simp only [decimalValue_of_isDigit09 hc, digitsValue_of_forall tail, Option.bind_eq_bind, Option.bind_some, count, fold]

/-- `int(str(n))` -/
theorem intOfStr_toString_eq (n : ℕ) :
    intOfStr (toString n) = if (Nat.toDigits 10 n).length ≤ 4300 then some (n : ℤ) else none := by
  have value : digitsNat (Nat.toDigits 10 n) = n := Nat.ofDigitChars_ten_toDigits
  have text : toString n = .ofList (Nat.toDigits 10 n) := by
    rw [← String.toList_inj, String.toList_ofList]
    exact Nat.toList_repr
  rw [text, intOfStr_of_digits (fun c => isDigit09_of_mem_toDigits) Nat.toDigits_ne_nil, value]

theorem intOfStr_toString {n : ℕ} (short : (Nat.toDigits 10 n).length ≤ 4300) : intOfStr (toString n) = some (n : ℤ) := by
  rw [intOfStr_toString_eq, if_pos short]

theorem toDigits_injective : Function.Injective (Nat.toDigits 10) := by
  intro m n h
  have value (k : ℕ) : digitsNat (Nat.toDigits 10 k) = k := Nat.ofDigitChars_ten_toDigits
  rw [← value m, h, value]

theorem digitsNat_append_singleton (cs : List Char) (c : Char) :
    digitsNat (cs ++ [c]) = 10 * digitsNat cs + (c.toNat - '0'.toNat) := by
  rw [digitsNat, List.foldl_append]
  rfl

theorem digitChar_of_isDigit09 {c : Char} (h : isDigit09 c = true) : Nat.digitChar (c.toNat - '0'.toNat) = c := by
  have hle := toNat_of_isDigit09 h
  have hall : ∀ n < 58, 48 ≤ n → Nat.digitChar (n - '0'.toNat) = Char.ofNat n := by decide
  rw [hall c.toNat (by omega) hle.1, Char.ofNat_toNat]

/-- Digits without a leading zero are the text of their number. -/
theorem toDigits_digitsNat {cs : List Char} (digits : ∀ c ∈ cs, isDigit09 c = true) (hne : cs ≠ [])
    (hhead : cs.head? = some '0' → cs = ['0']) : Nat.toDigits 10 (digitsNat cs) = cs := by
  induction cs using List.reverseRecOn with
  | nil => exact absurd rfl hne
  | append_singleton ds c ih =>
    have hc := digits c (by simp)
    have hle := toNat_of_isDigit09 hc
    have hzero : '0'.toNat = 48 := rfl
    rw [digitsNat_append_singleton]
    cases hds : ds with
    | nil =>
      rw [show digitsNat [] = 0 from rfl, Nat.mul_zero, Nat.zero_add, Nat.toDigits_of_lt_base (by omega),
        digitChar_of_isDigit09 hc]
      rfl
    | cons d ds' =>
      rw [← hds]
      have hfirst : ds.head? ≠ some '0' := by
        intro h
        have hwhole := hhead (by rw [hds] at h ⊢; exact h)
        rw [hds] at hwhole
        simp at hwhole
      have hrest := ih (fun e he => digits e (by simp [he])) (by simp [hds]) fun h => absurd h hfirst
      have hpos : 0 < digitsNat ds := by
        refine Nat.pos_of_ne_zero fun hnone => hfirst ?_
        rw [hnone] at hrest
        rw [← hrest]
        rfl
      rw [Nat.toDigits_of_base_le (by decide) (by omega),
        show (10 * digitsNat ds + (c.toNat - '0'.toNat)) / 10 = digitsNat ds by omega,
        show (10 * digitsNat ds + (c.toNat - '0'.toNat)) % 10 = c.toNat - '0'.toNat by omega, hrest,
        digitChar_of_isDigit09 hc]

/-- `str(n)` is different for different integers. -/
theorem toString_int_injective : Function.Injective (toString : ℤ → String) := by
  have natural (n : ℕ) : (toString (Int.ofNat n)).toList = Nat.toDigits 10 n := Nat.toList_repr
  have negative (n : ℕ) : (toString (Int.negSucc n)).toList = '-' :: Nat.toDigits 10 (n + 1) := by
    show ("-" ++ Nat.repr (n + 1)).toList = _
    rw [String.toList_append, Nat.toList_repr]
    rfl
  have sign (m n : ℕ) : Nat.toDigits 10 m ≠ '-' :: Nat.toDigits 10 n := by
    intro h
    have digit : isDigit09 '-' = true := isDigit09_of_mem_toDigits (n := m) (by rw [h]; simp)
    exact absurd digit (by decide)
  intro m n h
  have h := congrArg String.toList h
  cases m with
  | ofNat m =>
    cases n with
    | ofNat n =>
      rw [natural, natural] at h
      rw [toDigits_injective h]
    | negSucc n =>
      rw [natural, negative] at h
      exact absurd h (sign m (n + 1))
  | negSucc m =>
    cases n with
    | ofNat n =>
      rw [natural, negative] at h
      exact absurd h.symm (sign n (m + 1))
    | negSucc n =>
      rw [negative, negative, List.cons.injEq] at h
      rw [Nat.succ.inj (toDigits_injective h.2)]

end Python
