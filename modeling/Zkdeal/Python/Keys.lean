import Mathlib.Data.List.Induction
import Zkdeal.Python.Json

/-!
# Dictionaries and sets of JSON values

A scalar of a JSON document can be the key of a `dict` or the member of a `set`; what counts then is its
hash and `==`, which `Key` stands for.  Numbers of different types that are equal are one key.  The
`NaN` of `json.loads` is a single object, so it is one key too.
-/

namespace Python

/-- What a hashable value is as a key. -/
inductive Key : Type where
  | none
  | number (q : ℚ)
  | infinity (negative : Bool)
  | nan
  | str (s : String)
  deriving DecidableEq

/-- A list or a dict is not hashable. -/
def Json.key : Json → Option Key
  | .null => some .none
  | .bool b => some (.number (if b then 1 else 0))
  | .int n => some (.number n)
  | .float x =>
    match exact x with
    | some q => some (.number q)
    | none =>
      match x.toModel.unpack with
      | .infinity s => some (.infinity (s == .negative))
      | _ => some .nan
  | .str s => some (.str s)
  | .arr _ | .obj _ => none

/-- A `dict` with its items in insertion order: the key, the value that was first used for it, and what it
is mapped to. -/
abbrev KeyDict (α : Type) := List (Key × Json × α)

namespace KeyDict

variable {α : Type}

/-- `d.get(name)` -/
def get (d : KeyDict α) (key : Key) : Option α := (d.find? fun e => e.1 = key).map fun e => e.2.2

/-- `d[name] = value` -/
def set (d : KeyDict α) (key : Key) (name : Json) (value : α) : KeyDict α :=
  if d.any fun e => e.1 = key then d.map fun e => if e.1 = key then (e.1, e.2.1, value) else e
  else d ++ [(key, name, value)]

/-- A `dict` comprehension; later items replace earlier ones. -/
def ofItems (items : List (Key × Json × α)) : KeyDict α := items.foldl (fun d e => d.set e.1 e.2.1 e.2.2) []

theorem get_set (d : KeyDict α) (key key' : Key) (name : Json) (value : α) :
    (d.set key name value).get key' = if key' = key then some value else d.get key' := by
  unfold set
  by_cases hany : (d.any fun e => e.1 = key) = true
  · rw [if_pos hany]
    clear name
    induction d with
    | nil => simp at hany
    | cons e d ih =>
      unfold get at ih ⊢
      rw [List.map_cons, List.find?_cons, List.find?_cons]
      by_cases he : e.1 = key
      · rw [if_pos he]
        by_cases hk : key' = key
        · simp [he, hk]
        · have hne : ¬e.1 = key' := fun h => hk (h ▸ he)
          simp only [hne, decide_false]
          by_cases hd : (d.any fun e => e.1 = key) = true
          · have := ih hd
            rw [if_neg hk] at this ⊢
            exact this
          · rw [if_neg hk]
            congr 2
            refine List.map_congr_left ?_ |>.trans (List.map_id d)
            intro e' he'
            refine if_neg fun h => hd ?_
            exact List.any_eq_true.2 ⟨e', he', by simpa using h⟩
      · rw [if_neg he]
        have hd : (d.any fun e => e.1 = key) = true := by simpa [he] using hany
        by_cases hk : e.1 = key'
        · have hne : ¬key' = key := fun h => he (hk.trans h)
          simp [hk, hne]
        · simpa only [hk, decide_false] using ih hd
  · rw [if_neg hany]
    unfold get
    rw [List.find?_append]
    have hnone : d.find? (fun e => decide (e.1 = key)) = none := by
      rw [List.find?_eq_none]
      intro e he h
      exact hany (List.any_eq_true.2 ⟨e, he, h⟩)
    by_cases hk : key' = key
    · subst hk
      simp [hnone]
    · have hne : ¬key = key' := fun h => hk h.symm
      simp [hk, hne]

/-- The last item with a key counts. -/
theorem get_ofItems_append (items : List (Key × Json × α)) (e : Key × Json × α) (key : Key) :
    (ofItems (items ++ [e])).get key = if key = e.1 then some e.2.2 else (ofItems items).get key := by
  rw [ofItems, List.foldl_append, List.foldl_cons, List.foldl_nil, get_set]
  rfl

theorem get_ofItems_of_not_mem {items : List (Key × Json × α)} {key : Key} (h : ∀ e ∈ items, e.1 ≠ key) :
    (ofItems items).get key = none := by
  induction items using List.reverseRecOn with
  | nil => rfl
  | append_singleton items e ih =>
    rw [get_ofItems_append, if_neg (Ne.symm (h e (by simp))), ih fun d hd => h d (by simp [hd])]

end KeyDict

end Python
