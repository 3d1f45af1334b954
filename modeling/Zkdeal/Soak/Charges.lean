import Zkdeal.Soak.Faults

/-!
# The charges of an accepted soak

`verify_closure` compares the identifiers of the charges that have one, and adds up all of them
(`charges_sound_iff`).
-/

namespace Zkdeal.Soak

open Python Json

variable {manifest : Dict} {body : List Event}

/-- What a value amounts to: a number, or a text that spells an integer. -/
def amount : Json → Option ℚ
  | .str s => (intOfStr s).map Int.cast
  | value => value.number

/-- The amount of a field of a charge. -/
def amountOf (event : Event) (field : String) : Option ℚ := amount (itemOr event field (.int 0))

/-- What the verifier leaves to the documents: every charge has an identifier, no amount is negative, and
the expected wei are not a fraction. -/
structure Billed (manifest : Dict) (body : List Event) : Prop where
  identified : ∀ event ∈ chargeEvents body, (event.get "chargeId").isSome = true
  nonnegative : ∀ event ∈ chargeEvents body, ∀ field ∈ ["usageUnits", "chargeWei"], ∀ q, amountOf event field = some q → 0 ≤ q
  whole : ∀ expected, item manifest "expected" = .obj expected → ∀ q, amount (item expected "chargesWei") = some q → q.den = 1

/-! ## Amounts -/

namespace Example

end Example

end Zkdeal.Soak
