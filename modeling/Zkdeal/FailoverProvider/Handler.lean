import Zkdeal.FailoverProvider.Provider

/-!
# The routes of the provider

What `Handler.do_POST` hands to the provider, for an authenticated request whose body is an object, and
which of these requests `prepare` and `commit` accept before they look at the state.
-/

namespace Zkdeal.FailoverProvider.Handler

open Python Provider

def failoversPath : List Char := "/v1/failovers".toList

def commitPath (operationId : List Char) : List Char :=
  failoversPath ++ '/' :: operationId ++ "/commit".toList

/-- The operation id of a path that matches `/v1/failovers/([a-z0-9][a-z0-9._:-]{7,199})/commit`. -/
def commitId (path : List Char) : Option String :=
  let operationId := (path.drop 14).take (path.length - 21)
  if path = commitPath operationId ∧ isSafeId (.ofList operationId) = true then some (.ofList operationId)
  else none

/-- `do_POST`, from its choice of a route on. -/
def doPost (path : List Char) (key : String) (value : Dict) : Except Raised Request :=
  if path = failoversPath then .ok (.prepare key value)
  else
    match commitId path with
    | some operationId => .ok (.commit operationId key value)
    | none => .error (Raised.provider 404 "not-found" "route not found")

/-- The checks that a request passes by its syntax alone. -/
def Accepts : Request → Prop
  | .prepare key request => isSafeId key = true ∧ request.hasKeys prepareFields = true ∧
      (candidate request).isSome = true ∧ (request.get "failedWitnessCount").any Json.isInt = true
  | .commit operationId key request => isSafeId operationId = true ∧ isSafeId key = true ∧
      request.hasKeys ["ownerResponseSha256"] = true ∧ (ownerHash request).isSome = true

theorem commitId_eq_some {path : List Char} {operationId : String} :
    commitId path = some operationId ↔ path = commitPath operationId.toList ∧ isSafeId operationId = true := by
  constructor
  · intro h
    unfold commitId at h
    dsimp only at h
    split at h
    · rename_i matched
      obtain rfl := Option.some.inj h
      rw [String.toList_ofList]
      exact matched
    · cases h
  · rintro ⟨rfl, safe⟩
    have parts : commitPath operationId.toList =
        (failoversPath ++ ['/']) ++ (operationId.toList ++ "/commit".toList) := by
      rw [commitPath, List.append_cons, List.append_assoc]
    have front : (failoversPath ++ ['/']).length = 14 := by decide
    have length : (commitPath operationId.toList).length - 21 = operationId.toList.length := by
      have back : "/commit".toList.length = 7 := by decide
      rw [parts, List.length_append, front, List.length_append, back]
      omega
    have inner : ((commitPath operationId.toList).drop 14).take ((commitPath operationId.toList).length - 21) =
        operationId.toList := by
      rw [length, parts, List.drop_left' front, List.take_left]
    unfold commitId
    dsimp only
    rw [inner, String.ofList_toList, if_pos ⟨rfl, safe⟩]

theorem commitPath_injective {l l' : List Char} (h : commitPath l = commitPath l') : l = l' := by
  unfold commitPath at h
  rw [List.append_assoc, List.append_assoc] at h
  exact List.append_cancel_right (List.cons.inj (List.append_cancel_left h)).2

/-- The two routes have different paths. -/
theorem commitPath_ne (operationId : List Char) : commitPath operationId ≠ failoversPath := by
  intro h
  have := congrArg List.length h
  simp [commitPath] at this

end Zkdeal.FailoverProvider.Handler
