import Zkdeal.Codes.Packing
import Zkdeal.FailoverProvider.Platform
import Zkdeal.PromotionController.Controller
import Zkdeal.Python.Hex
import Zkdeal.Scripts.CandidateTopology

/-!
# Positions in the write-ahead log

Three programs compare the positions that PostgreSQL reports through one number,
`(high << 32) + low`. Their patterns leave the width of the low field open, so the order of the
numbers is the order of the positions only where no low field spills into the high one.
-/

namespace Zkdeal.LogPositions

open Python Packing
open FailoverProvider (splitLsn lsnNumber)

/-- The two fields of a position, as hexadecimal numbers. -/
def position (value : String) : Option (ℕ × ℕ) :=
  (splitLsn value).map fun (high, low) => (hexValue high, hexValue low)

/-- The base in which the fields are packed. -/
def base : ℕ := 2 ^ 32

theorem lsnNumber_eq_map (value : String) : lsnNumber value = (position value).map (pack base) := by
  unfold lsnNumber position
  rw [Option.map_map]
  rfl

theorem lsnNumber_of_position {value : String} {p : ℕ × ℕ} (h : position value = some p) :
    lsnNumber value = some (pack base p) := by
  rw [lsnNumber_eq_map, h]
  rfl

theorem provider_lsnValue {value : String} {p : ℕ × ℕ} (h : position value = some p) :
    FailoverProvider.lsnValue value = pure (pack base p) := by
  rw [FailoverProvider.lsnValue, lsnNumber_of_position h]

theorem controller_lsnValue {value : String} {p : ℕ × ℕ} (h : position value = some p) :
    PromotionController.lsnValue value = .ok (pack base p) := by
  rw [PromotionController.lsnValue, lsnNumber_of_position h]

/-- The digits of a candidate topology are digits of the other patterns. -/
theorem isHex_of_upper {c : Char} (h : (isDigit09 c || ('A' ≤ c && c ≤ 'F')) = true) : isHex c = true := by
  unfold isHex isLowerHex
  revert h
  cases isDigit09 c
  · simp +contextual
  · simp

theorem topology_lsnValue {value : String} {p : ℕ × ℕ} (h : position value = some p) :
    Scripts.lsnValue value = pack base p := by
  unfold position splitLsn at h
  unfold Scripts.lsnValue
  split at h
  · rename_i high low hparts
    by_cases hdigits : (!high.isEmpty && !low.isEmpty && high.all isHex && low.all isHex) = true
    · rw [if_pos hdigits] at h
      cases h
      rw [hparts]
      rfl
    · rw [if_neg hdigits] at h
      cases h
  · cases h

/-- What the pattern of a candidate topology accepts, the other patterns accept. -/
theorem position_of_isLsn {value : String} (h : Scripts.isLsn value = true) : ∃ p, position value = some p := by
  unfold Scripts.isLsn at h
  unfold position splitLsn
  split at h
  · rename_i high low hparts
    rw [Bool.and_eq_true, Bool.and_eq_true, Bool.and_eq_true, List.all_eq_true, List.all_eq_true] at h
    have hhigh : high.all isHex = true := List.all_eq_true.2 fun c hc => isHex_of_upper (h.1.2 c hc)
    have hlow : low.all isHex = true := List.all_eq_true.2 fun c hc => isHex_of_upper (h.2.2 c hc)
    refine ⟨(hexValue high, hexValue low), ?_⟩
    simp [hparts, h.1.1, h.2.1, hhigh, hlow]
  · cases h

/-- The three programs compare two positions that their patterns accept field by field exactly
where no low field spills. -/
theorem lsn_order_iff_unspilled (a b : String) (p q : ℕ × ℕ) (ha : position a = some p) (hb : position b = some q) :
    (∃ m n, FailoverProvider.lsnValue a = pure m ∧ FailoverProvider.lsnValue b = pure n ∧
      ((m ≤ n ↔ toLex p ≤ toLex q) ↔ Unspilled base p q)) ∧
    (∃ m n, PromotionController.lsnValue a = .ok m ∧ PromotionController.lsnValue b = .ok n ∧
      ((m ≤ n ↔ toLex p ≤ toLex q) ↔ Unspilled base p q)) ∧
    ((Scripts.lsnValue a ≤ Scripts.lsnValue b ↔ toLex p ≤ toLex q) ↔ Unspilled base p q) := by
  refine ⟨⟨_, _, provider_lsnValue ha, provider_lsnValue hb, pack_le_iff⟩,
    ⟨_, _, controller_lsnValue ha, controller_lsnValue hb, pack_le_iff⟩, ?_⟩
  rw [topology_lsnValue ha, topology_lsnValue hb]
  exact pack_le_iff

/-- `1/0` is after `0/100000000`, and has its number. -/
theorem lsn_order_iff_unspilled_one :
    position "1/0" = some (1, 0) ∧ position "0/100000000" = some (0, 2 ^ 32) ∧
    ¬Unspilled base (1, 0) (0, 2 ^ 32) ∧
    ((Scripts.lsnValue "1/0" ≤ Scripts.lsnValue "0/100000000" ↔ toLex (1, 0) ≤ toLex (0, 2 ^ 32)) ↔
      Unspilled base (1, 0) (0, 2 ^ 32)) :=
  ⟨by decide, by decide, by decide,
    (lsn_order_iff_unspilled "1/0" "0/100000000" (1, 0) (0, 2 ^ 32) (by decide) (by decide)).2.2⟩

/-- Every one of the programs finds a replay position at a target that it is behind. -/
theorem not_lsn_order :
    Scripts.isLsn "1/0" = true ∧ Scripts.isLsn "0/100000000" = true ∧
    position "1/0" = some (1, 0) ∧ position "0/100000000" = some (0, 2 ^ 32) ∧
    FailoverProvider.lsnValue "1/0" = pure (2 ^ 32) ∧ FailoverProvider.lsnValue "0/100000000" = pure (2 ^ 32) ∧
    PromotionController.lsnValue "1/0" = .ok (2 ^ 32) ∧ PromotionController.lsnValue "0/100000000" = .ok (2 ^ 32) ∧
    Scripts.lsnValue "1/0" = 2 ^ 32 ∧ Scripts.lsnValue "0/100000000" = 2 ^ 32 ∧
    ¬toLex (1, 0) ≤ toLex ((0, 2 ^ 32) : ℕ × ℕ) := by
  have target : position "1/0" = some (1, 0) := by decide
  have replay : position "0/100000000" = some (0, 2 ^ 32) := by decide
  refine ⟨by decide, by decide, target, replay, provider_lsnValue target, provider_lsnValue replay,
    controller_lsnValue target, controller_lsnValue replay, topology_lsnValue target, topology_lsnValue replay, ?_⟩
  rw [toLex_le_iff]
  decide

/-! ## Fields of eight digits -/

theorem hexDigit_lt {c : Char} : (hexDigit c).getD 0 < 16 := by
  unfold hexDigit
  simp only [Char.le_def, UInt32.le_iff_toNat_le, Bool.and_eq_true, decide_eq_true_eq, Char.toNat]
  split_ifs with h h h <;> simp at h ⊢ <;> omega

theorem hexValue_lt (cs : List Char) : hexValue cs < 16 ^ cs.length := by
  induction cs using List.reverseRecOn with
  | nil => simp [hexValue]
  | append_singleton cs c ih =>
      have digit : (hexDigit c).getD 0 < 16 := hexDigit_lt
      rw [hexValue_append_singleton, List.length_append, List.length_singleton, pow_succ]
      omega

/-- Positions whose low fields have at most eight digits, as PostgreSQL writes them, compare field
by field. -/
theorem lsnNumber_le_iff {a b : String} {high high' low low' : List Char} (ha : splitLsn a = some (high, low))
    (hb : splitLsn b = some (high', low')) (hlow : low.length ≤ 8) (hlow' : low'.length ≤ 8) :
    (∃ m n, lsnNumber a = some m ∧ lsnNumber b = some n ∧
      (m ≤ n ↔ toLex (hexValue high, hexValue low) ≤ toLex (hexValue high', hexValue low'))) := by
  have fits : ∀ cs : List Char, cs.length ≤ 8 → hexValue cs < base := fun cs hcs =>
    (hexValue_lt cs).trans_le ((Nat.pow_le_pow_right (by decide) hcs).trans (by decide))
  have posA : position a = some (hexValue high, hexValue low) := by rw [position, ha]; rfl
  have posB : position b = some (hexValue high', hexValue low') := by rw [position, hb]; rfl
  exact ⟨_, _, lsnNumber_of_position posA, lsnNumber_of_position posB,
    pack_le_iff.2 (unspilled_of_lt (fits low hlow) (fits low' hlow'))⟩

end Zkdeal.LogPositions
