import Zkdeal.Python.Integer
import Zkdeal.Python.Url

/-!
# Hexadecimal texts

`hex(n)` and `int(s, 16)`, and the digits of bytes.
-/

namespace Python

theorem hexDigit_digitChar {d : ℕ} (h : d < 16) : hexDigit (Nat.digitChar d) = some d := by
  have hall : ∀ d < 16, hexDigit (Nat.digitChar d) = some d := by decide
  exact hall d h

/-- `hex(n)` -/
def hexOf (n : ℕ) : String := "0x" ++ .ofList (Nat.toDigits 16 n)

/-- `int(s, 16)` for a text `0x...` -/
def intOfHex (s : String) : ℕ := hexValue (s.toList.drop 2)

theorem hexValue_append_singleton (cs : List Char) (c : Char) :
    hexValue (cs ++ [c]) = 16 * hexValue cs + (hexDigit c).getD 0 := by
  rw [hexValue, List.foldl_append]
  rfl

theorem hexValue_toDigits (n : ℕ) : hexValue (Nat.toDigits 16 n) = n := by
  induction n using Nat.strongRecOn with
  | ind n ih =>
    by_cases hsmall : n < 16
    · rw [Nat.toDigits_of_lt_base hsmall]
      change 16 * 0 + (hexDigit (Nat.digitChar n)).getD 0 = n
      rw [hexDigit_digitChar hsmall, Option.getD_some]
      omega
    · rw [Nat.toDigits_of_base_le (by decide) (by omega), hexValue_append_singleton, ih (n / 16) (by omega),
        hexDigit_digitChar (Nat.mod_lt _ (by decide)), Option.getD_some]
      omega

theorem isLowerHex_of_mem_toDigits {n : ℕ} {c : Char} (h : c ∈ Nat.toDigits 16 n) : isLowerHex c = true := by
  induction n using Nat.strongRecOn with
  | ind n ih =>
    by_cases hsmall : n < 16
    · rw [Nat.toDigits_of_lt_base hsmall, List.mem_singleton] at h
      rw [h]
      exact Sha256.isLowerHex_digitChar hsmall
    · rw [Nat.toDigits_of_base_le (by decide) (by omega), List.mem_append, List.mem_singleton] at h
      obtain h | rfl := h
      · exact ih (n / 16) (by omega) h
      · exact Sha256.isLowerHex_digitChar (Nat.mod_lt _ (by decide))

theorem toList_hexOf (n : ℕ) : (hexOf n).toList = '0' :: 'x' :: Nat.toDigits 16 n := by
  rw [hexOf, String.toList_append]
  exact congrArg ("0x".toList ++ ·) String.toList_ofList

@[simp] theorem intOfHex_hexOf (n : ℕ) : intOfHex (hexOf n) = n := by
  rw [intOfHex, toList_hexOf]
  exact hexValue_toDigits n

/-! ## Bytes -/

theorem fromHex_hex (b : Bytes) : fromHex (hex b).toList = b := by
  rw [hex, String.toList_ofList]
  induction b with
  | nil => rfl
  | cons a b ih =>
    have hbyte : a.toNat < 256 := a.toNat_lt
    rw [List.flatMap_cons, List.cons_append, List.cons_append, List.nil_append, fromHex, ih,
      hexDigit_digitChar (by omega), hexDigit_digitChar (Nat.mod_lt _ (by decide)), Option.getD_some, Option.getD_some,
      show a.toNat / 16 * 16 + a.toNat % 16 = a.toNat by omega, UInt8.ofNat_toNat]

theorem exists_digitChar {c : Char} (h : isLowerHex c = true) : ∃ d < 16, c = Nat.digitChar d := by
  have hle : (48 ≤ c.toNat ∧ c.toNat ≤ 57) ∨ (97 ≤ c.toNat ∧ c.toNat ≤ 102) := by
    simp only [isLowerHex, isDigit09, Bool.or_eq_true, Bool.and_eq_true, decide_eq_true_eq, Char.le_def,
      UInt32.le_iff_toNat_le] at h
    exact h
  have hall : ∀ n < 103, (48 ≤ n ∧ n ≤ 57) ∨ (97 ≤ n ∧ n ≤ 102) → ∃ d < 16, Char.ofNat n = Nat.digitChar d := by decide
  rw [← Char.ofNat_toNat c]
  exact hall c.toNat (by omega) hle

theorem hex_fromHex : ∀ {cs : List Char}, (∀ c ∈ cs, isLowerHex c = true) → cs.length % 2 = 0 →
    (hex (fromHex cs)).toList = cs
  | [], _, _ => rfl
  | [_], _, hlength => absurd hlength Nat.one_ne_zero
  | c :: d :: cs, hall, hlength => by
    have heven : cs.length % 2 = 0 := by
      rw [List.length_cons, List.length_cons] at hlength
      omega
    have ih : (hex (fromHex cs)).toList = cs := hex_fromHex (fun x hx => hall x (by simp [hx])) heven
    obtain ⟨m, hm, rfl⟩ := exists_digitChar (hall c (by simp))
    obtain ⟨n, hn, rfl⟩ := exists_digitChar (hall d (by simp))
    have hbyte : (UInt8.ofNat (m * 16 + n)).toNat = m * 16 + n := toNat_ofNat_byte (by omega)
    rw [hex, String.toList_ofList] at ih ⊢
    rw [fromHex, hexDigit_digitChar hm, hexDigit_digitChar hn, Option.getD_some, Option.getD_some, List.flatMap_cons, ih,
      hbyte, show (m * 16 + n) / 16 = m by omega, show (m * 16 + n) % 16 = n by omega]
    rfl

theorem length_fromHex : ∀ cs : List Char, (fromHex cs).length = cs.length / 2
  | [] => rfl
  | [_] => by simp [fromHex]
  | _ :: _ :: cs => by
    rw [fromHex, List.length_cons, length_fromHex cs, List.length_cons, List.length_cons]
    omega

theorem hex_injective : Function.Injective hex := fun b c h => by
  rw [← fromHex_hex b, h, fromHex_hex c]

theorem between_hex (b : Bytes) : between isLowerHex (2 * b.length) (2 * b.length) (hex b).toList = true := by
  rw [hex, String.toList_ofList, between_iff]
  refine ⟨fun c hc => ?_, ?_⟩
  · obtain ⟨a, -, hc⟩ := List.mem_flatMap.1 hc
    have hbyte : a.toNat < 256 := a.toNat_lt
    simp only [List.mem_cons, List.not_mem_nil, or_false] at hc
    obtain rfl | rfl := hc
    · exact Sha256.isLowerHex_digitChar (by omega)
    · exact Sha256.isLowerHex_digitChar (Nat.mod_lt _ (by decide))
  · rw [List.length_flatMap]
    simp [Nat.mul_comm]

/-! ## Case -/

theorem isHex_of_isLowerHex {c : Char} (h : isLowerHex c = true) : isHex c = true := by
  simp [isHex, h]

/-- A text without upper-case letters is its own lower case. -/
theorem lower_eq_self {cs : List Char} (h : ∀ c ∈ cs, isLowerHex c = true ∨ c = 'x') : lower cs = cs := by
  have hsame (c : Char) (hc : isLowerHex c = true ∨ c = 'x') : (if c = .ofNat 0x212a then 'k' else c.toLower) = c := by
    obtain hc | rfl := hc
    · have hle : c.toNat < 103 ∧ ¬(65 ≤ c.toNat ∧ c.toNat ≤ 90) := by
        simp only [isLowerHex, isDigit09, Bool.or_eq_true, Bool.and_eq_true, decide_eq_true_eq, Char.le_def,
          UInt32.le_iff_toNat_le] at hc
        change (48 ≤ c.toNat ∧ c.toNat ≤ 57) ∨ (97 ≤ c.toNat ∧ c.toNat ≤ 102) at hc
        omega
      have hkelvin : c ≠ .ofNat 0x212a := by
        rintro rfl
        exact absurd hle.1 (by decide)
      rw [if_neg hkelvin]
      exact dif_neg fun h => hle.2 ⟨h.1, h.2⟩
    · decide
  rw [lower]
  exact (List.map_congr_left fun c hc => hsame c (h c hc)).trans (List.map_id cs)

end Python
