import Zkdeal.AcceptanceRunner.HttpExecutor
import Zkdeal.Codes.JsonPointer
import Zkdeal.Python.Decimal
import Zkdeal.Scripts.Common

/-!
# JSON pointers of the acceptance runner and of the replay tool

Both tools resolve a pointer token by token, through `str.replace`, `str.isdigit` and `int`.  They follow
RFC 6901 unless they step over a token that it rejects: one with a `~` that escapes nothing, or an index
that has leading zeros or digits beyond ASCII.  Digits that `int` cannot read raise another exception.
-/

namespace Zkdeal.Pointers

open Python JsonPointer
open AcceptanceRunner (replacePair pointerStep pointer)

/-! ## The resolvers -/

/-- `raw.replace("~1", "/").replace("~0", "~")` -/
def replaced (raw : List Char) : List Char := replacePair '~' '0' '~' (replacePair '~' '1' '/' raw)

/-- One step of a resolver, with its error for an absent value and that of `int`. -/
def resolverStep {ε : Type} (absent unread : ε) (current : Json) (raw : List Char) : Except ε Json :=
  let token := String.ofList (replaced raw)
  match current with
  | .obj fields =>
    match Dict.get fields token with
    | some value => .ok value
    | none => .error absent
  | .arr items =>
    if isdigit token then
      match intOfStr token with
      | none => .error unread
      | some n =>
        match items[n.toNat]? with
        | some value => .ok value
        | none => .error absent
    else .error absent
  | _ => .error absent

/-- `json_pointer(value, pointer)` of the replay tool -/
def jsonPointer (value : Json) (pointer : String) : Except Scripts.Raised Json :=
  match pointer.toList with
  | '/' :: cs =>
    (splitChars '/' cs).foldlM (resolverStep (.deployment ("response lacks stable pointer " ++ pointer)) .other) value
  | _ => .error (.deployment ("stable response pointer must start with '/': " ++ pointer))

theorem pointerStep_eq (path : String) :
    pointerStep path = resolverStep (.acceptance ("JSON pointer " ++ Python.reprStr path ++ " is absent")) .other := by
  funext current raw
  unfold pointerStep resolverStep replaced
  cases current with
  | obj fields =>
    cases hget : Dict.get fields (.ofList (replacePair '~' '0' '~' (replacePair '~' '1' '/' raw))) <;> simp only [hget]
  | arr items =>
    by_cases hdigit : isdigit (.ofList (replacePair '~' '0' '~' (replacePair '~' '1' '/' raw))) = true
    · cases hread : intOfStr (.ofList (replacePair '~' '0' '~' (replacePair '~' '1' '/' raw))) with
      | none => simp only [hdigit, hread]
      | some n => cases hitem : items[n.toNat]? <;> simp only [hdigit, hread, hitem]
    · simp only [hdigit, Bool.false_eq_true, if_false]
  | _ => simp only

/-! ## Following the standard -/

/-- A resolver gives the value of the standard, or one of its own errors where there is none. -/
structure Follows {ε : Type} (own : ε → Prop) (result : Except ε Json) (expected : Option Json) : Prop where
  value : ∀ v, result = .ok v ↔ expected = some v
  error : ∀ e, result = .error e → own e

/-- The exceptions of the acceptance runner. -/
def IsAcceptanceError (e : AcceptanceRunner.Raised) : Prop := ∃ message, e = .acceptance message

/-- The exceptions of the replay tool. -/
def IsDeploymentError (e : Scripts.Raised) : Prop := ∃ message, e = .deployment message

/-- The tokens that a resolver steps over are those of the standard, and it reads all digits that it meets.
`clean` tells that this is so up to here. -/
def Regular : Bool → Json → List (List Char) → Prop
  | clean, _, [] => clean = true
  | clean, .obj fields, raw :: raws =>
    match Dict.get fields (.ofList (replaced raw)) with
    | some value => Regular (clean && (unescape raw).isSome) value raws
    | none => True
  | clean, .arr items, raw :: raws =>
    if isdigit (.ofList (replaced raw)) then
      match intOfStr (.ofList (replaced raw)) with
      | none => False
      | some n =>
        match items[n.toNat]? with
        | some value => Regular (clean && (unescape raw).any isIndex) value raws
        | none => True
    else True
  | _, _, _ :: _ => True

/-- The pointers that the tools resolve in a document as the standard does. -/
def RegularIn (document : Json) (path : String) : Prop :=
  match rawTokens path with
  | some raws => Regular true document raws
  | none => True

section Follows

variable {ε : Type} {own : ε → Prop}

theorem Follows.absent {e : ε} (h : own e) : Follows own (.error e) none where
  value := fun _ => ⟨nofun, nofun⟩
  error := fun _ same => Except.error.inj same ▸ h

theorem not_follows_of_error {e : ε} (h : ¬own e) (expected : Option Json) : ¬Follows own (.error e) expected :=
  fun follows => h (follows.error e rfl)

theorem follows_ok {v : Json} {expected : Option Json} : Follows own (.ok v) expected ↔ expected = some v := by
  constructor
  · intro h
    exact (h.value v).1 rfl
  · rintro rfl
    exact ⟨fun w => by simp, nofun⟩

end Follows

/-! ## Tokens -/

theorem replacePair_cons {a c : Char} (h : c ≠ a) (b d : Char) (cs : List Char) :
    replacePair a b d (c :: cs) = c :: replacePair a b d cs := by
  cases cs with
  | nil => rfl
  | cons e cs => rw [replacePair, if_neg fun same => h same.1]

/-- The replacements undo the escapes of the standard. -/
theorem replaced_of_unescape {raw token : List Char} (h : unescape raw = some token) : replaced raw = token := by
  induction raw using unescape.induct generalizing token with
  | case1 =>
    rw [← Option.some.inj h]
    rfl
  | case2 cs ih =>
    obtain ⟨token, hcs, rfl⟩ := Option.map_eq_some_iff.1 h
    have rest : replacePair '~' '1' '/' ('~' :: '0' :: cs) = '~' :: '0' :: replacePair '~' '1' '/' cs := by
      rw [replacePair, if_neg (by decide), replacePair_cons (by decide)]
    rw [replaced, rest, replacePair, if_pos (by decide), ← ih hcs]
    rfl
  | case3 cs ih =>
    obtain ⟨token, hcs, rfl⟩ := Option.map_eq_some_iff.1 h
    rw [replaced, replacePair, if_pos (by decide), replacePair_cons (by decide), ← ih hcs]
    rfl
  | case4 cs zero one =>
    have malformed : unescape ('~' :: cs) = none := by
      rw [unescape.eq_def]
      split
      case h_1 heq => cases heq
      case h_2 heq => exact absurd (List.cons.inj heq).2 (zero _)
      case h_3 heq => exact absurd (List.cons.inj heq).2 (one _)
      case h_4 => rfl
      case h_5 other heq => exact absurd (List.cons.inj heq).1.symm other
    rw [malformed] at h
    cases h
  | case5 c cs _ _ other ih =>
    have hc : c ≠ '~' := other
    rw [unescape_cons hc] at h
    obtain ⟨token, hcs, rfl⟩ := Option.map_eq_some_iff.1 h
    rw [replaced, replacePair_cons hc, replacePair_cons hc, ← ih hcs]
    rfl

theorem isDigitChar_of_isDigit09 {c : Char} (h : isDigit09 c = true) : isDigitChar c = true := by
  rw [isDigitChar, decimalValue_of_isDigit09 h]
  rfl

/-- An index of the standard is read by the tools, unless it is too long. -/
theorem read_index {token : List Char} (h : isIndex token = true) :
    isdigit (.ofList token) = true ∧
      intOfStr (.ofList token) = if token.length ≤ 4300 then some (indexValue token : ℤ) else none := by
  obtain ⟨hne, digits⟩ := digits_of_isIndex h
  refine ⟨?_, intOfStr_of_digits digits hne⟩
  have all : token.all isDigitChar = true := List.all_eq_true.2 fun c hc => isDigitChar_of_isDigit09 (digits c hc)
  rw [isdigit, String.toList_ofList, all, Bool.and_true, Bool.not_eq_true']
  cases token with
  | nil => exact absurd rfl hne
  | cons c cs => simp

/-! ## Walks -/

section Walks

variable {ε : Type} {own : ε → Prop} {absent unread : ε}

/-- Where the tools find no value, neither does the standard. -/
theorem expected_none (clean : Bool) (current : Json) (raw : List Char) (raws : List (List Char))
    (h : ∀ token, unescape raw = some token → step current token = none) :
    (if clean = true then walk current (raw :: raws) else none) = none := by
  rw [walk_cons]
  cases htoken : unescape raw with
  | none => simp
  | some token => simp [h token htoken]

theorem expected_some (clean good : Bool) (current value : Json) (raw : List Char) (raws : List (List Char))
    (h : ∀ token, unescape raw = some token → step current token = if good = true then some value else none)
    (hgood : good = true → (unescape raw).isSome = true) :
    (if clean = true then walk current (raw :: raws) else none) =
      if (clean && good) = true then walk value raws else none := by
  rw [walk_cons]
  cases htoken : unescape raw with
  | none =>
    have bad : good = false := by
      rw [htoken] at hgood
      simpa using hgood
    simp [bad]
  | some token =>
    cases clean <;> cases good <;> simp [h token htoken]

/-- A resolver follows the standard from a value on exactly over the regular tokens. -/
theorem follows_iff (habsent : own absent) (hunread : ¬own unread) (clean : Bool) (current : Json)
    (raws : List (List Char)) :
    Follows own (raws.foldlM (resolverStep absent unread) current) (if clean = true then walk current raws else none) ↔
      Regular clean current raws := by
  induction raws generalizing clean current with
  | nil =>
    show Follows own (.ok current) _ ↔ clean = true
    rw [follows_ok]
    cases clean <;> simp
  | cons raw raws ih =>
    rw [List.foldlM_cons]
    cases current with
    | obj fields =>
      rw [resolverStep, Regular]
      cases hget : Dict.get fields (.ofList (replaced raw)) with
      | none =>
        have nothing := expected_none clean (.obj fields) raw raws fun token htoken => by
          rw [step, ← replaced_of_unescape htoken, hget]
        rw [nothing]
        exact iff_of_true (.absent habsent) trivial
      | some value =>
        have found := expected_some clean (unescape raw).isSome (.obj fields) value raw raws (fun token htoken => by
            rw [step, ← replaced_of_unescape htoken, hget, htoken]
            rfl) id
        rw [found]
        exact ih _ _
    | arr items =>
      have index {token : List Char} (htoken : unescape raw = some token) (h : isIndex token = true) {n : ℤ}
          (hread : intOfStr (.ofList (replaced raw)) = some n) : n.toNat = indexValue token := by
        rw [replaced_of_unescape htoken, (read_index h).2] at hread
        split at hread
        · rw [← Option.some.inj hread, Int.toNat_natCast]
        · cases hread
      rw [resolverStep, Regular]
      by_cases hdigit : isdigit (.ofList (replaced raw)) = true
      · rw [if_pos hdigit, if_pos hdigit]
        cases hread : intOfStr (.ofList (replaced raw)) with
        | none => exact iff_of_false (not_follows_of_error hunread _) id
        | some n =>
          dsimp only
          cases hitem : items[n.toNat]? with
          | none =>
            have nothing := expected_none clean (.arr items) raw raws fun token htoken => by
              rw [step]
              split
              · rename_i h
                rw [← index htoken h hread, hitem]
              · rfl
            rw [nothing]
            exact iff_of_true (.absent habsent) trivial
          | some value =>
            have found := expected_some clean ((unescape raw).any isIndex) (.arr items) value raw raws (fun token htoken => by
                rw [step, htoken, Option.any_some]
                split
                · rename_i h
                  rw [← index htoken h hread, hitem]
                · rfl) fun h => by
                  cases htoken : unescape raw with
                  | none =>
                    rw [htoken] at h
                    cases h
                  | some token => rfl
            rw [found]
            exact ih _ _
      · rw [if_neg hdigit, if_neg hdigit]
        have nothing := expected_none clean (.arr items) raw raws fun token htoken => by
          rw [step, if_neg fun h => hdigit ?_]
          rw [replaced_of_unescape htoken]
          exact (read_index h).1
        rw [nothing]
        exact iff_of_true (.absent habsent) trivial
    | _ =>
      rw [expected_none _ _ _ raws fun token htoken => rfl]
      exact iff_of_true (.absent habsent) trivial

end Walks

/-! ## The two tools -/

theorem not_acceptance_other : ¬IsAcceptanceError .other := fun ⟨_, same⟩ => nomatch same

theorem not_deployment_other : ¬IsDeploymentError .other := fun ⟨_, same⟩ => nomatch same

theorem pointer_other {document : Json} {path : String} {c : Char} {cs : List Char} (h : path.toList = c :: cs)
    (hc : c ≠ '/') : pointer document path = .error (.acceptance ("invalid JSON pointer " ++ Python.reprStr path)) := by
  rw [pointer, h]
  split
  · rename_i heq
    cases heq
  · rename_i heq
    exact absurd (List.cons.inj heq).1 hc
  · rfl

theorem jsonPointer_other {document : Json} {path : String} (h : path.toList.head? ≠ some '/') :
    jsonPointer document path = .error (.deployment ("stable response pointer must start with '/': " ++ path)) := by
  rw [jsonPointer]
  split
  · rename_i heq
    rw [heq] at h
    exact absurd rfl h
  · rfl

/-- The acceptance runner follows the standard over the regular pointers. -/
theorem follows_pointer_iff (document : Json) (path : String) :
    Follows IsAcceptanceError (pointer document path) (resolve document path) ↔ RegularIn document path := by
  rw [resolve_eq_walk, RegularIn]
  cases hpath : path.toList with
  | nil =>
    rw [pointer, rawTokens, hpath, Option.bind_some, walk_nil]
    exact iff_of_true (follows_ok.2 rfl) rfl
  | cons c cs =>
    by_cases hc : c = '/'
    · subst hc
      have own : IsAcceptanceError (.acceptance ("JSON pointer " ++ Python.reprStr path ++ " is absent")) := ⟨_, rfl⟩
      have walks := follows_iff own not_acceptance_other true document (splitChars '/' cs)
      rw [pointer, hpath, rawTokens_slash hpath]
      dsimp only
      rw [pointerStep_eq]
      exact walks
    · rw [pointer_other hpath hc, rawTokens_other hpath hc]
      exact iff_of_true (.absent ⟨_, rfl⟩) trivial

/-- The replay tool does so as well, but has no pointer to the document itself. -/
theorem follows_jsonPointer_iff (document : Json) (path : String) :
    Follows IsDeploymentError (jsonPointer document path) (resolve document path) ↔
      path ≠ "" ∧ RegularIn document path := by
  rw [resolve_eq_walk, RegularIn]
  cases hpath : path.toList with
  | nil =>
    have empty : path = "" := String.toList_eq_nil_iff.1 hpath
    rw [jsonPointer_other (by rw [hpath]; nofun), rawTokens, hpath]
    refine iff_of_false (fun follows => ?_) fun h => h.1 empty
    have found := (follows.value document).2 rfl
    cases found
  | cons c cs =>
    have given : path ≠ "" := by
      rintro rfl
      cases hpath
    by_cases hc : c = '/'
    · subst hc
      have own : IsDeploymentError (.deployment ("response lacks stable pointer " ++ path)) := ⟨_, rfl⟩
      have walks := follows_iff own not_deployment_other true document (splitChars '/' cs)
      rw [jsonPointer, hpath, rawTokens_slash hpath]
      exact ⟨fun h => ⟨given, walks.1 h⟩, fun h => walks.2 h.2⟩
    · have other : path.toList.head? ≠ some '/' := by
        rw [hpath, List.head?_cons]
        exact fun same => hc (Option.some.inj same)
      rw [jsonPointer_other other, rawTokens_other hpath hc]
      exact iff_of_true (.absent ⟨_, rfl⟩) ⟨given, trivial⟩

/-- Both tools resolve a pointer as RFC 6901 does, or raise their own errors, exactly if it is regular in
the document; the replay tool also has to be given a token. -/
theorem pointers_follow_iff (document : Json) (path : String) :
    (Follows IsAcceptanceError (pointer document path) (resolve document path) ↔ RegularIn document path) ∧
      (Follows IsDeploymentError (jsonPointer document path) (resolve document path) ↔
        path ≠ "" ∧ RegularIn document path) :=
  ⟨follows_pointer_iff document path, follows_jsonPointer_iff document path⟩

/-- A superscript raises another exception, an index with a leading zero and a `~` that escapes nothing
are taken, and the replay tool does not resolve the empty pointer. -/
theorem not_follow :
    (pointer (.arr [.null]) "/²" = .error .other ∧
      ¬Follows IsAcceptanceError (pointer (.arr [.null]) "/²") (resolve (.arr [.null]) "/²")) ∧
    (pointer (.arr [.null]) "/00" = .ok .null ∧
      ¬Follows IsAcceptanceError (pointer (.arr [.null]) "/00") (resolve (.arr [.null]) "/00")) ∧
    (pointer (.obj [("~2", .null)]) "/~2" = .ok .null ∧
      ¬Follows IsAcceptanceError (pointer (.obj [("~2", .null)]) "/~2") (resolve (.obj [("~2", .null)]) "/~2")) ∧
    (jsonPointer (.arr [.null]) "/²" = .error .other ∧
      ¬Follows IsDeploymentError (jsonPointer (.arr [.null]) "/²") (resolve (.arr [.null]) "/²")) ∧
    ¬Follows IsDeploymentError (jsonPointer .null "") (resolve .null "") := by
  have raises : pointer (.arr [.null]) "/²" = .error .other := by decide
  have zeros : pointer (.arr [.null]) "/00" = .ok .null := by decide
  have tilde : pointer (.obj [("~2", .null)]) "/~2" = .ok .null := by decide
  have raises' : jsonPointer (.arr [.null]) "/²" = .error .other := by decide
  have noZeros : resolve (.arr [.null]) "/00" = none := by decide
  have noTilde : resolve (.obj [("~2", .null)]) "/~2" = none := by decide
  refine ⟨⟨raises, ?_⟩, ⟨zeros, ?_⟩, ⟨tilde, ?_⟩, ⟨raises', ?_⟩, fun follows => ?_⟩
  · rw [raises]
    exact not_follows_of_error not_acceptance_other _
  · rw [zeros, noZeros, follows_ok]
    exact nofun
  · rw [tilde, noTilde, follows_ok]
    exact nofun
  · rw [raises']
    exact not_follows_of_error not_deployment_other _
  · have found := (follows.value .null).2 rfl
    cases found

end Zkdeal.Pointers
