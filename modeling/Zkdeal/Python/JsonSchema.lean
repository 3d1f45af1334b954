import Zkdeal.Python.JsonText

/-!
# JSON schemas

The schemas of the 2020-12 draft as far as the services use them, and the values that they accept.  A
pattern is searched for, so the `$` at its end also matches before a line feed that ends the text.
-/

namespace Python

open Json

/-- A schema.  An object without a schema for additional properties has none of these. -/
inductive Schema : Type where
  /-- `const` -/
  | const (value : Json)
  /-- `enum` -/
  | enum (values : List Json)
  /-- A `string`, with `minLength`, `maxLength` and what its `pattern` finds. -/
  | text (minLength : ℕ) (maxLength : Option ℕ) (pattern : String → Bool)
  /-- A `string` or `null` -/
  | textOrNull
  /-- An `integer`, or also `null`, with `minimum` and `maximum`. -/
  | integer (nullable : Bool) (minimum : ℤ) (maximum : Option ℤ)
  /-- An `array`, with `items`, `minItems` and `maxItems`. -/
  | array (items : Schema) (minItems maxItems : ℕ)
  /-- An `object`, with `required`, `properties`, `additionalProperties`, `minProperties` and `maxProperties`. -/
  | object (required : List String) (properties : List (String × Schema)) (additional : Option Schema)
      (minProperties : ℕ) (maxProperties : Option ℕ)

namespace Schema

/-- An anchored pattern that is searched for. -/
def searched (pattern : String → Bool) (s : String) : Bool :=
  pattern s || (s.toList.getLast? == some '\n' && pattern (.ofList s.toList.dropLast))

/-- Equality with a constant that is no container; a `bool` is no number. -/
def equals (constant : Json) : Json → Bool
  | .bool b => constant.isBool b
  | v => match constant with
    | .bool _ => false
    | constant => constant.eq v

/-- The value of a number without a fraction. -/
def integral : Json → Option ℤ
  | .int n => some n
  | .float x => (exact x).bind fun q => if q.den = 1 then some q.num else none
  | _ => none

mutual

/-- The schema accepts the value. -/
def valid : Schema → Json → Bool
  | const value, v => equals value v
  | enum values, v => values.any fun value => equals value v
  | text minLength maxLength pattern, .str s =>
    decide (minLength ≤ s.length) && maxLength.all (fun n => decide (s.length ≤ n)) && pattern s
  | textOrNull, .null => true
  | textOrNull, .str _ => true
  | integer nullable _ _, .null => nullable
  | integer _ minimum maximum, v =>
    (integral v).any fun n => decide (minimum ≤ n) && maximum.all fun m => decide (n ≤ m)
  | array items minItems maxItems, .arr vs =>
    decide (minItems ≤ vs.length) && decide (vs.length ≤ maxItems) && vs.all fun v => valid items v
  | object required properties none minProperties maxProperties, .obj d =>
    required.all (fun key => (Dict.get d key).isSome) && validProperties properties d &&
      d.all (fun kv => (properties.lookup kv.1).isSome) && decide (minProperties ≤ d.length) &&
      maxProperties.all fun n => decide (d.length ≤ n)
  | object required properties (some additional) minProperties maxProperties, .obj d =>
    required.all (fun key => (Dict.get d key).isSome) && validProperties properties d &&
      d.all (fun kv => (properties.lookup kv.1).isSome || valid additional kv.2) &&
      decide (minProperties ≤ d.length) && maxProperties.all fun n => decide (d.length ≤ n)
  | _, _ => false

/-- The properties that are there are valid. -/
def validProperties : List (String × Schema) → Dict → Bool
  | [], _ => true
  | (key, schema) :: properties, d =>
    (match d.get key with
      | some v => valid schema v
      | none => true) && validProperties properties d

end

attribute [local simp] valid validProperties

theorem valid_of_validProperties {properties : List (String × Schema)} {d : Dict}
    (h : validProperties properties d = true) {key : String} {schema : Schema} (hs : (key, schema) ∈ properties)
    {v : Json} (hv : d.get key = some v) : schema.valid v = true := by
  induction properties with
  | nil => cases hs
  | cons p properties ih =>
    rw [validProperties, Bool.and_eq_true] at h
    rcases List.mem_cons.1 hs with rfl | hs
    · rw [hv] at h
      exact h.1
    · exact ih h.2 hs

/-- What an object of a closed schema has. -/
structure Closed (required : List String) (properties : List (String × Schema)) (d : Dict) : Prop where
  required : ∀ key ∈ required, ∃ v, d.get key = some v
  valid : ∀ key schema, (key, schema) ∈ properties → ∀ v, d.get key = some v → schema.valid v = true
  closed : ∀ kv ∈ d, (properties.lookup kv.1).isSome = true

theorem closed_of_valid {required : List String} {properties : List (String × Schema)} {lo : ℕ} {hi : Option ℕ}
    {v : Json} (h : (object required properties none lo hi).valid v = true) :
    ∃ d, v = .obj d ∧ Closed required properties d := by
  cases v with
  | obj d =>
    simp only [valid, Bool.and_eq_true] at h
    obtain ⟨⟨⟨⟨hrequired, hproperties⟩, hclosed⟩, -⟩, -⟩ := h
    refine ⟨d, rfl, fun key hkey => ?_, fun key schema hs v hv => valid_of_validProperties hproperties hs hv, ?_⟩
    · exact Option.isSome_iff_exists.1 (List.all_eq_true.1 hrequired key hkey)
    · exact List.all_eq_true.1 hclosed
  | _ => simp [valid] at h

/-- A property that has to be there. -/
theorem Closed.property {required : List String} {properties : List (String × Schema)} {d : Dict}
    (h : Closed required properties d) {key : String} {schema : Schema} (hkey : key ∈ required)
    (hs : (key, schema) ∈ properties) : ∃ v, d.get key = some v ∧ schema.valid v = true := by
  obtain ⟨v, hv⟩ := h.required key hkey
  exact ⟨v, hv, h.valid key schema hs v hv⟩

/-- What an object of an open schema without properties of its own has. -/
theorem valid_of_open {additional : Schema} {lo : ℕ} {hi : Option ℕ} {v : Json}
    (h : (object [] [] (some additional) lo hi).valid v = true) :
    ∃ d, v = .obj d ∧ ∀ kv ∈ d, additional.valid kv.2 = true := by
  cases v with
  | obj d =>
    simp only [valid, Bool.and_eq_true, List.all_eq_true, List.lookup_nil, Option.isSome_none, Bool.false_or] at h
    exact ⟨d, rfl, h.1.1.2⟩
  | _ => simp [valid] at h

theorem str_of_valid {lo : ℕ} {hi : Option ℕ} {pattern : String → Bool} {v : Json}
    (h : (text lo hi pattern).valid v = true) : ∃ s, v = .str s ∧ pattern s = true := by
  cases v with
  | str s =>
    simp only [valid, Bool.and_eq_true] at h
    exact ⟨s, rfl, h.2⟩
  | _ => simp [valid] at h

theorem pair_of_valid {items : Schema} {v : Json} (h : (array items 2 2).valid v = true) :
    ∃ a b, v = .arr [a, b] ∧ items.valid a = true ∧ items.valid b = true := by
  cases v with
  | arr vs =>
    simp only [valid, Bool.and_eq_true, decide_eq_true_eq, List.all_eq_true] at h
    obtain ⟨a, b, rfl⟩ := List.length_eq_two.1 (le_antisymm h.1.2 h.1.1)
    exact ⟨a, b, rfl, h.2 a (by simp), h.2 b (by simp)⟩
  | _ => simp [valid] at h

theorem integral_of_valid {lo : ℤ} {hi : Option ℤ} {v : Json} (h : (integer false lo hi).valid v = true) :
    ∃ n, integral v = some n ∧ lo ≤ n ∧ ∀ m ∈ hi, n ≤ m := by
  have some_ : (integral v).any (fun n => decide (lo ≤ n) && hi.all fun m => decide (n ≤ m)) = true := by
    cases v <;> exact h
  obtain ⟨n, hn, bounds⟩ := (Option.any_eq_true _ _).1 some_
  simp only [Bool.and_eq_true, decide_eq_true_eq, Option.all_eq_true] at bounds
  exact ⟨n, hn, bounds.1, bounds.2⟩

theorem bool_of_valid {b : Bool} {v : Json} (h : (const (.bool b)).valid v = true) : v = .bool b := by
  cases v <;> simp_all [valid, equals, isBool]

end Schema

end Python
