import Mathlib.Algebra.BigOperators.Group.List.Basic
import Mathlib.Algebra.Order.BigOperators.Group.List
import Mathlib.Algebra.Order.Group.Nat
import Zkdeal.Python.Bytes
import Zkdeal.Python.Json

/-!
# How long a text can get

A bound on the length of a printed value that does not depend on how its keys are sorted.
-/

namespace Python.Json

/-- The characters of an escaped text. -/
def strSize (s : String) : ℕ := 12 * s.toList.length + 2

mutual

/-- A bound on the characters of a value. -/
def size : Json → ℕ
  | null => 4
  | bool _ => 5
  | int n => (toString n).toList.length
  | float x => (encodeFloat x).length
  | str s => strSize s
  | arr items => sizeItems items + 2
  | obj fields => sizeFields fields + 2

def sizeItems : List Json → ℕ
  | [] => 0
  | v :: vs => size v + 1 + sizeItems vs

def sizeFields : List (String × Json) → ℕ
  | [] => 0
  | (k, v) :: fs => strSize k + 1 + size v + 1 + sizeFields fs

end

theorem length_escape_le (ascii : Bool) (c : Char) : (escape ascii c).length ≤ 12 := by
  unfold escape
  dsimp only
  repeat' split
  all_goals simp [hex4]

theorem length_encodeStr_le (ascii : Bool) (s : String) : (encodeStr ascii s).length ≤ strSize s := by
  have pieces (l : List Char) : (l.flatMap (escape ascii)).length ≤ 12 * l.length := by
    induction l with
    | nil => exact le_rfl
    | cons c l ih =>
      have one := length_escape_le ascii c
      rw [List.flatMap_cons, List.length_append, List.length_cons]
      omega
  have whole := pieces s.toList
  rw [encodeStr, List.length_append, List.length_cons, List.length_singleton, strSize]
  omega

theorem length_commaSeparated_le (members : List (List Char)) :
    (commaSeparated members).length ≤ (members.map fun m => m.length + 1).sum := by
  induction members with
  | nil => exact le_rfl
  | cons m members ih =>
    cases members with
    | nil => simp [commaSeparated]
    | cons m' members =>
      rw [commaSeparated, List.length_append, List.length_cons, List.map_cons, List.sum_cons]
      · omega
      · exact List.cons_ne_nil _ _

/-- The order of the members does not matter. -/
theorem length_encodeMembers_le (ascii sortKeys : Bool) (members : List (String × List Char)) :
    (encodeMembers ascii sortKeys members).length ≤ (members.map fun m => strSize m.1 + 1 + m.2.length + 1).sum := by
  have perm : List.Perm (if sortKeys then members.insertionSort (fun a b => a.1 ≤ b.1) else members) members := by
    split
    · exact List.perm_insertionSort _ _
    · exact .refl _
  have text := length_commaSeparated_le
    ((if sortKeys then members.insertionSort (fun a b => a.1 ≤ b.1) else members).map fun m =>
      encodeStr ascii m.1 ++ ':' :: m.2)
  rw [encodeMembers]
  refine text.trans ?_
  rw [List.map_map, (perm.map _).sum_eq]
  refine List.sum_le_sum fun m _ => ?_
  have key := length_encodeStr_le ascii m.1
  rw [Function.comp_apply, List.length_append, List.length_cons]
  omega

mutual

theorem length_encode_le (ascii sortKeys : Bool) : ∀ v, (encode ascii sortKeys v).length ≤ size v
  | null => le_rfl
  | bool true => show 4 ≤ 5 by omega
  | bool false => show 5 ≤ 5 by omega
  | int n => le_rfl
  | float x => le_rfl
  | str s => length_encodeStr_le ascii s
  | arr items => by
    have text := length_commaSeparated_le (encodeItems ascii sortKeys items)
    have members := sum_encodeItems_le ascii sortKeys items
    rw [encode, size, List.length_append, List.length_cons, List.length_singleton]
    omega
  | obj fields => by
    have text := length_encodeMembers_le ascii sortKeys (encodeFields ascii sortKeys fields)
    have members := sum_encodeFields_le ascii sortKeys fields
    rw [encode, size, List.length_append, List.length_cons, List.length_singleton]
    omega

theorem sum_encodeItems_le (ascii sortKeys : Bool) :
    ∀ items, ((encodeItems ascii sortKeys items).map fun m => m.length + 1).sum ≤ sizeItems items
  | [] => le_rfl
  | v :: vs => by
    have first := length_encode_le ascii sortKeys v
    have rest := sum_encodeItems_le ascii sortKeys vs
    rw [encodeItems, sizeItems, List.map_cons, List.sum_cons]
    omega

theorem sum_encodeFields_le (ascii sortKeys : Bool) : ∀ fields,
    ((encodeFields ascii sortKeys fields).map fun m => strSize m.1 + 1 + m.2.length + 1).sum ≤ sizeFields fields
  | [] => le_rfl
  | (k, v) :: fs => by
    have first := length_encode_le ascii sortKeys v
    have rest := sum_encodeFields_le ascii sortKeys fs
    rw [encodeFields, sizeFields, List.map_cons, List.sum_cons]
    dsimp only
    omega

end

theorem utf8ByteSize_ofList_le (l : List Char) : (String.ofList l).utf8ByteSize ≤ 4 * l.length := by
  induction l with
  | nil => decide
  | cons c l ih =>
    have one := Char.utf8Size_le_four c
    simp [String.ofList_cons]
    omega

/-- The bytes of a printed value. -/
theorem utf8ByteSize_dumps_le (ascii : Bool) (v : Json) : (dumps ascii v).utf8ByteSize ≤ 4 * size v := by
  have bytes := utf8ByteSize_ofList_le (encode ascii true v)
  have length := length_encode_le ascii true v
  rw [dumps]
  omega

theorem length_encodeChars_le (cs : List Char) : (encodeChars cs).length ≤ 4 * cs.length := by
  induction cs with
  | nil => exact le_rfl
  | cons c cs ih =>
    have one : (String.utf8EncodeChar c).length ≤ 4 := by
      rw [String.length_utf8EncodeChar]
      exact c.utf8Size_le_four
    rw [encodeChars, List.flatMap_cons, List.length_append, List.length_cons]
    rw [encodeChars] at ih
    omega

theorem length_encodeUtf8_dumps_le (ascii : Bool) (v : Json) : (encodeUtf8 (dumps ascii v)).length ≤ 4 * size v := by
  have bytes := length_encodeChars_le (encode ascii true v)
  have length := length_encode_le ascii true v
  rw [encodeUtf8, dumps, String.toList_ofList]
  omega

end Python.Json
