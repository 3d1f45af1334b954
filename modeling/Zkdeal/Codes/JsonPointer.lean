import Zkdeal.Python.Json

/-!
# JSON pointers

Their syntax and evaluation in RFC 6901: reference tokens with the escapes `~0` and `~1`, members by name,
and elements by an index in ASCII digits without leading zeros.
-/

namespace JsonPointer

open Python

/-! ## Syntax -/

/-- A reference token without its escapes; another `~` is an error. -/
def unescape : List Char → Option (List Char)
  | [] => some []
  | '~' :: '0' :: cs => (unescape cs).map ('~' :: ·)
  | '~' :: '1' :: cs => (unescape cs).map ('/' :: ·)
  | '~' :: _ => none
  | c :: cs => (unescape cs).map (c :: ·)

/-- The reference tokens of a pointer, still escaped: each follows a slash. -/
def rawTokens (pointer : String) : Option (List (List Char)) :=
  match pointer.toList with
  | [] => some []
  | '/' :: cs => some (splitChars '/' cs)
  | _ => none

/-- `array-index = %x30 / ( %x31-39 *(%x30-39) )` -/
def isIndex (token : List Char) : Bool :=
  token = ['0'] || (!token.isEmpty && token.head? != some '0' && token.all isDigit09)

/-- The number that an index denotes. -/
def indexValue (token : List Char) : ℕ := Nat.ofDigitChars 10 token 0

/-! ## Evaluation -/

/-- The value that a token refers to. -/
def step (current : Json) (token : List Char) : Option Json :=
  match current with
  | .obj fields => Dict.get fields (.ofList token)
  | .arr items => if isIndex token then items[indexValue token]? else none
  | _ => none

/-- The value at a pointer. -/
def resolve (document : Json) (pointer : String) : Option Json := do
  let tokens ← (← rawTokens pointer).mapM unescape
  tokens.foldlM step document

/-! ## Laws -/

/-- Evaluation of escaped tokens. -/
def walk (current : Json) (raws : List (List Char)) : Option Json := do
  let tokens ← raws.mapM unescape
  tokens.foldlM step current

@[simp] theorem walk_nil (current : Json) : walk current [] = some current := rfl

/-- The first token, and then the others. -/
theorem walk_cons (current : Json) (raw : List Char) (raws : List (List Char)) :
    walk current (raw :: raws) = (unescape raw).bind fun token => (step current token).bind fun next => walk next raws := by
  unfold walk
  rw [List.mapM_cons]
  cases htoken : unescape raw with
  | none => rfl
  | some token =>
    cases htokens : raws.mapM unescape with
    | none => cases step current token <;> simp
    | some tokens => simp [List.foldlM_cons]

theorem resolve_eq_walk (document : Json) (pointer : String) :
    resolve document pointer = (rawTokens pointer).bind (walk document) := rfl

theorem rawTokens_slash {pointer : String} {cs : List Char} (h : pointer.toList = '/' :: cs) :
    rawTokens pointer = some (splitChars '/' cs) := by
  rw [rawTokens, h]
  rfl

theorem rawTokens_other {pointer : String} {c : Char} {cs : List Char} (h : pointer.toList = c :: cs) (hc : c ≠ '/') :
    rawTokens pointer = none := by
  rw [rawTokens, h]
  split
  · rename_i heq
    cases heq
  · rename_i heq
    exact absurd (List.cons.inj heq).1 hc
  · rfl

theorem unescape_cons {c : Char} (h : c ≠ '~') (cs : List Char) : unescape (c :: cs) = (unescape cs).map (c :: ·) := by
  rw [unescape.eq_def]
  split
  · rename_i heq
    cases heq
  · rename_i heq
    exact absurd (List.cons.inj heq).1 h
  · rename_i heq
    exact absurd (List.cons.inj heq).1 h
  · rename_i heq
    exact absurd (List.cons.inj heq).1 h
  · rename_i heq
    rw [(List.cons.inj heq).1, (List.cons.inj heq).2]

theorem unescape_of_not_mem {cs : List Char} (h : '~' ∉ cs) : unescape cs = some cs := by
  induction cs with
  | nil => rfl
  | cons c cs ih =>
    rw [List.mem_cons, not_or] at h
    rw [unescape_cons (Ne.symm h.1), ih h.2]
    rfl

theorem digits_of_isIndex {token : List Char} (h : isIndex token = true) :
    token ≠ [] ∧ ∀ c ∈ token, isDigit09 c = true := by
  rw [isIndex, Bool.or_eq_true] at h
  rcases h with zero | other
  · have zero := of_decide_eq_true zero
    subst zero
    simp only [List.mem_singleton, forall_eq]
    exact ⟨List.cons_ne_nil _ _, by decide⟩
  · simp only [Bool.and_eq_true, Bool.not_eq_true', List.isEmpty_eq_false_iff, List.all_eq_true] at other
    exact ⟨other.1.1, other.2⟩

end JsonPointer
