import Mathlib

/-!
# Python floats

A Python `float` is a double, Lean's `Float`.  Its value is an exact fraction (`exact`); from that
follow the comparisons with integers, `int(x)`, `round(x, n)` and `repr(x)`, the shortest decimal
that reads back as the same double.
-/

namespace Python

/-- The sign of a finite double, and its absolute value as a fraction. -/
def signedMagnitude (x : Float) : Option (Bool × ℕ × ℕ) :=
  match x.toModel.unpack with
  | .zero s => some (s == .negative, 0, 1)
  | .finite s m e _ =>
    some (s == .negative, if 0 ≤ e then (m * 2 ^ e.toNat, 1) else (m, 2 ^ (-e).toNat))
  | _ => none

/-- The value of a finite double. -/
def exact (x : Float) : Option ℚ :=
  (signedMagnitude x).map fun (negative, num, den) =>
    if negative then -mkRat num den else mkRat num den

/-- `int(x)`; it raises for infinities and not-a-number. -/
def intOfFloat (x : Float) : Option ℤ := (exact x).map fun q => q.num.tdiv q.den

/-- The decimal `± n * 10^(-places)` as a double. -/
def decimal (negative : Bool) (n : ℕ) (places : ℤ) : Float :=
  let x := Float.ofModel (Float.Model.ofScientific n (-places))
  if negative then -x else x

/-- `num / den` to the nearest integer, ties to even. -/
def roundHalfEven (num den : ℕ) : ℕ :=
  let q := num / den
  let r := num % den
  if 2 * r < den ∨ (2 * r = den ∧ q % 2 = 0) then q else q + 1

/-- `round(x, places)`. -/
def roundFloat (x : Float) (places : ℕ) : Float :=
  match signedMagnitude x with
  | some (negative, num, den) => decimal negative (roundHalfEven (num * 10 ^ places) den) places
  | none => x

/-! ## Shortest representation -/

/-- The decimal exponent of the first digit of `num / den`. -/
def leadingExponent (num den : ℕ) : ℤ :=
  let p : ℤ := (Nat.log 10 num : ℤ) - Nat.log 10 den
  let reached : Bool := if 0 ≤ p then decide (10 ^ p.toNat * den ≤ num)
    else decide (den ≤ num * 10 ^ (-p).toNat)
  if reached then p else p - 1

/-- The decimals next to `num / den` with the given number of places, the nearest one first. -/
def neighbours (num den : ℕ) (places : ℤ) : List ℕ :=
  let num' := num * 10 ^ places.toNat
  let den' := den * 10 ^ (-places).toNat
  let q := num' / den'
  if 2 * (num' % den') ≤ den' then [q, q + 1] else [q + 1, q]

/-- The shortest digits that read back as the double, with their number of places. -/
def shortest (num den : ℕ) : ℕ × ℤ :=
  ((List.range 17).findSome? fun (k : ℕ) =>
    let places := (k : ℤ) - leadingExponent num den
    (neighbours num den places).findSome? fun n =>
      match signedMagnitude (decimal false n places) with
      | some (_, num', den') => if num * den' = num' * den then some (n, places) else none
      | none => none).getD (0, 0)

def stripZeros (digits : List Char) : List Char :=
  ((digits.reverse.dropWhile (· == '0')).reverse)

/-- Lay out digits whose decimal point stands after the first `point` of them. -/
def layOut (digits : List Char) (point : ℤ) : List Char :=
  let zeros (n : ℤ) : List Char := List.replicate n.toNat '0'
  if -4 < point ∧ point ≤ 16 then
    if point ≤ 0 then '0' :: '.' :: zeros (-point) ++ digits
    else if (digits.length : ℤ) ≤ point then digits ++ zeros (point - digits.length) ++ ['.', '0']
    else digits.take point.toNat ++ '.' :: digits.drop point.toNat
  else
    let exponent := point - 1
    let magnitude := (toString exponent.natAbs).toList
    digits.take 1 ++ (if 1 < digits.length then '.' :: digits.drop 1 else []) ++
      ['e', if exponent < 0 then '-' else '+'] ++ List.replicate (2 - magnitude.length) '0' ++
      magnitude

/-- `repr(x)`. -/
def reprFloat (x : Float) : String :=
  match signedMagnitude x with
  | some (negative, num, den) =>
    let body := if num = 0 then "0.0".toList else
      let (n, places) := shortest num den
      let digits := (toString n).toList
      layOut (stripZeros digits) (digits.length - places)
    .ofList (if negative then '-' :: body else body)
  | none =>
    match x.toModel.unpack with
    | .infinity .positive => "inf"
    | .infinity .negative => "-inf"
    | _ => "nan"

/-- A number is never laid out as digits alone. -/
theorem mark_mem_layOut (digits : List Char) (point : ℤ) :
    ∃ c ∈ layOut digits point, c = '.' ∨ c = '-' ∨ c = '+' := by
  unfold layOut
  by_cases hp : -4 < point ∧ point ≤ 16
  · refine ⟨'.', ?_, .inl rfl⟩
    rw [if_pos hp]
    split
    · simp
    · split <;> simp
  · refine ⟨if point - 1 < 0 then '-' else '+', ?_, ?_⟩
    · rw [if_neg hp]
      simp
    · split <;> simp

example : [decimal false 1 1, decimal true 1 20, decimal false 123456789 2, decimal false 5 324].map
    reprFloat = ["0.1", "-1e-20", "1234567.89", "5e-324"] := by decide +kernel

end Python
