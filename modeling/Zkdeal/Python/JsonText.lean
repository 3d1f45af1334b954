import Zkdeal.Python.Decimal
import Zkdeal.Python.JsonStrict

/-!
# The text of a value

`str(value)` and `repr(value)` of the values of `json.loads`.
-/

namespace Python

/-- `", ".join(texts)` -/
def commaJoined (texts : List String) : String := ", ".intercalate texts

namespace Json

mutual

/-- `repr(value)` -/
def repr : Json → String
  | null => "None"
  | bool b => if b then "True" else "False"
  | int n => toString n
  | float x => reprFloat x
  | str s => reprStr s
  | arr items => "[" ++ commaJoined (reprItems items) ++ "]"
  | obj fields => "\x7b" ++ commaJoined (reprFields fields) ++ "\x7d"

def reprItems : List Json → List String
  | [] => []
  | v :: vs => repr v :: reprItems vs

def reprFields : List (String × Json) → List String
  | [] => []
  | (k, v) :: fs => (reprStr k ++ ": " ++ repr v) :: reprFields fs

end

/-- `str(value)` -/
def strOf : Json → String
  | str s => s
  | v => repr v

/-- `str(d.get(key, ""))` -/
def strAt (d : Dict) (key : String) : String := ((d.get key).map strOf).getD ""

theorem eqStr_iff {v : Json} {s : String} : v.eqStr s = true ↔ v = .str s := by
  cases v <;> simp [eqStr]

/-- The characters of the names that the services compare such texts with. -/
def isNameChar (c : Char) : Bool := isLower c || isUpper c || c == '_'

theorem not_isNameChar_of_digit {c : Char} (h : isDigit09 c = true) : isNameChar c = false := by
  have digits : c.toNat ≤ 57 ∧ 48 ≤ c.toNat := by
    simp only [isDigit09, Bool.and_eq_true, decide_eq_true_eq, Char.le_def, UInt32.le_iff_toNat_le] at h
    exact ⟨h.2, h.1⟩
  have notLetter : isLower c = false ∧ isUpper c = false := by
    simp only [isLower, isUpper, Bool.and_eq_false_iff, decide_eq_false_iff_not, Char.le_def, UInt32.le_iff_toNat_le]
    refine ⟨.inl fun hc => ?_, .inl fun hc => ?_⟩
    · exact absurd (show 97 ≤ c.toNat from hc) (by omega)
    · exact absurd (show 65 ≤ c.toNat from hc) (by omega)
  have notMark : c ≠ '_' := by
    rintro rfl
    exact absurd digits (by decide)
  simp [isNameChar, notLetter, notMark]

theorem exists_digit (n : ℤ) : ∃ c ∈ (toString n).toList, isDigit09 c = true := by
  have some (k : ℕ) : ∃ c ∈ Nat.toDigits 10 k, isDigit09 c = true := by
    obtain ⟨c, hc⟩ := List.exists_mem_of_ne_nil _ (Nat.toDigits_ne_nil (n := k) (b := 10))
    exact ⟨c, hc, isDigit09_of_mem_toDigits hc⟩
  cases n with
  | ofNat k =>
    obtain ⟨c, hc, hd⟩ := some k
    exact ⟨c, by rwa [show (toString (Int.ofNat k)).toList = Nat.toDigits 10 k from Nat.toList_repr], hd⟩
  | negSucc k =>
    obtain ⟨c, hc, hd⟩ := some (k + 1)
    refine ⟨c, ?_, hd⟩
    have text : (toString (Int.negSucc k)).toList = '-' :: Nat.toDigits 10 (k + 1) := by
      rw [show toString (Int.negSucc k) = "-" ++ toString (k + 1) from rfl, String.toList_append]
      exact congrArg ('-' :: ·) Nat.toList_repr
    rw [text]
    exact List.mem_cons_of_mem _ hc

/-- The text of a float has a point or a sign, unless it is not finite. -/
theorem mark_mem_reprFloat (x : Float) :
    (∃ c ∈ (reprFloat x).toList, c = '.' ∨ c = '-' ∨ c = '+') ∨ repr (.float x) = "inf" ∨ repr (.float x) = "nan" := by
  unfold repr
  unfold reprFloat
  split
  · rename_i negative num den _
    left
    rw [String.toList_ofList]
    have body : ∃ c ∈ (if num = 0 then "0.0".toList else
        layOut (stripZeros (toString (shortest num den).1).toList)
          ((toString (shortest num den).1).toList.length - (shortest num den).2)), c = '.' ∨ c = '-' ∨ c = '+' := by
      split
      · exact ⟨'.', by decide, .inl rfl⟩
      · exact mark_mem_layOut _ _
    obtain ⟨c, hc, hmark⟩ := body
    refine ⟨c, ?_, hmark⟩
    split
    · exact List.mem_cons_of_mem _ hc
    · exact hc
  · split
    · exact .inr (.inl rfl)
    · exact .inl ⟨'-', by decide, .inr (.inl rfl)⟩
    · exact .inr (.inr rfl)

/-- The text of a value that is not a text is no name. -/
theorem eq_str_of_strOf {v : Json} {s : String} (h : strOf v = s) (name : s.toList.all isNameChar = true)
    (other : s ∉ ["None", "True", "False", "inf", "nan"]) : v = .str s := by
  have all : ∀ c ∈ s.toList, isNameChar c = true := List.all_eq_true.1 name
  cases v with
  | str t => rw [show t = s from h]
  | null =>
    rw [← show "None" = s from h] at other
    exact absurd (by decide) other
  | bool b =>
    cases b
    · rw [← show "False" = s from h] at other
      exact absurd (by decide) other
    · rw [← show "True" = s from h] at other
      exact absurd (by decide) other
  | int n =>
    obtain ⟨c, hc, digit⟩ := exists_digit n
    have := all c (by rwa [← show toString n = s from h])
    rw [not_isNameChar_of_digit digit] at this
    cases this
  | float x =>
    rcases mark_mem_reprFloat x with ⟨c, hc, hmark⟩ | hinf | hnan
    · have := all c (by rwa [← show reprFloat x = s from h])
      rcases hmark with rfl | rfl | rfl <;> exact absurd this (by decide)
    · rw [h.symm.trans hinf] at other
      exact absurd (by decide) other
    · rw [h.symm.trans hnan] at other
      exact absurd (by decide) other
  | arr items =>
    have : '[' ∈ s.toList := by
      rw [← show "[" ++ commaJoined (reprItems items) ++ "]" = s from h]
      simp
    exact absurd (all _ this) (by decide)
  | obj fields =>
    have : '\x7b' ∈ s.toList := by
      rw [← show "\x7b" ++ commaJoined (reprFields fields) ++ "\x7d" = s from h]
      simp
    exact absurd (all _ this) (by decide)

example : repr (.arr [.null, .bool true, .int (-3), .str "it's", .obj [("a", .str "\n")]]) =
    "[None, True, -3, \"it's\", \x7b'a': '\\n'\x7d]" := by decide

end Json

end Python
