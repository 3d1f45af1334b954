import Mathlib.Data.List.Nodup
import Zkdeal.Python.Json

/-!
# Assignments to dictionaries

`d[key] = value` on the items of a dictionary with keys of any type, and `d.setdefault(key, value)` on a JSON object.
-/

namespace Python

variable {κ β : Type} [DecidableEq κ]

/-- `d[key] = value` -/
def assign (items : List (κ × β)) (key : κ) (value : β) : List (κ × β) :=
  if key ∈ items.map Prod.fst then items.map fun kv => if kv.1 = key then (key, value) else kv
  else items ++ [(key, value)]

variable {items : List (κ × β)} {key : κ} {value : β}

theorem mem_assign {kv : κ × β} : kv ∈ assign items key value ↔ kv = (key, value) ∨ (kv ∈ items ∧ kv.1 ≠ key) := by
  unfold assign
  by_cases h : key ∈ items.map Prod.fst
  · rw [if_pos h, List.mem_map]
    constructor
    · rintro ⟨kv', hkv', rfl⟩
      by_cases heq : kv'.1 = key
      · rw [if_pos heq]
        exact .inl rfl
      · rw [if_neg heq]
        exact .inr ⟨hkv', heq⟩
    · rintro (rfl | ⟨hmem, hne⟩)
      · obtain ⟨kv', hkv', heq⟩ := List.mem_map.1 h
        exact ⟨kv', hkv', if_pos heq⟩
      · exact ⟨kv, hmem, if_neg hne⟩
  · rw [if_neg h, List.mem_append, List.mem_singleton]
    constructor
    · rintro (hmem | rfl)
      · exact .inr ⟨hmem, fun heq => h (heq ▸ List.mem_map_of_mem hmem)⟩
      · exact .inl rfl
    · rintro (rfl | ⟨hmem, -⟩)
      · exact .inr rfl
      · exact .inl hmem

theorem nodup_assign (h : (items.map Prod.fst).Nodup) : ((assign items key value).map Prod.fst).Nodup := by
  unfold assign
  by_cases hmem : key ∈ items.map Prod.fst
  · have hkeys : (items.map fun kv => if kv.1 = key then (key, value) else kv).map Prod.fst = items.map Prod.fst := by
      rw [List.map_map]
      refine List.map_congr_left fun kv _ => ?_
      by_cases heq : kv.1 = key
      · rw [Function.comp_apply, if_pos heq, heq]
      · rw [Function.comp_apply, if_neg heq]
    rw [if_pos hmem, hkeys]
    exact h
  · rw [if_neg hmem, List.map_append]
    refine List.nodup_append.2 ⟨h, List.nodup_singleton _, ?_⟩
    intro k hk k' hk' heq
    rw [List.map_singleton, List.mem_singleton] at hk'
    rw [heq, hk'] at hk
    exact hmem hk

/-- The value of a key that occurs once. -/
theorem lookup_eq_some (hnodup : (items.map Prod.fst).Nodup) : items.lookup key = some value ↔ (key, value) ∈ items := by
  induction items with
  | nil => simp
  | cons kv items ih =>
    rw [List.map_cons, List.nodup_cons] at hnodup
    rw [List.lookup_cons, List.mem_cons]
    by_cases heq : key = kv.1
    · rw [beq_iff_eq.2 heq]
      dsimp only
      rw [Option.some.injEq]
      constructor
      · rintro rfl
        exact .inl (Prod.ext heq rfl)
      · rintro (rfl | hmem)
        · rfl
        · exact absurd (heq ▸ List.mem_map_of_mem hmem) hnodup.1
    · rw [beq_eq_false_iff_ne.2 heq]
      dsimp only
      rw [ih hnodup.2]
      exact ⟨.inr, fun h => h.resolve_left fun hkv => heq (congrArg Prod.fst hkv)⟩

namespace Dict

/-- `d.setdefault(key, value)` -/
def setdefault (d : Dict) (key : String) (value : Json) : Dict := if (d.get key).isSome then d else d.set key value

theorem get_setdefault (d : Dict) (key key' : String) (value : Json) :
    (d.setdefault key value).get key' = if key' = key then some ((d.get key).getD value) else d.get key' := by
  unfold setdefault
  cases h : d.get key with
  | none =>
    rw [if_neg (by decide), get_set]
    rfl
  | some v =>
    rw [if_pos (by rfl)]
    by_cases heq : key' = key
    · rw [if_pos heq, heq, h]
      rfl
    · rw [if_neg heq]

/-- What is there is not replaced. -/
theorem get_setdefault_of_some {d : Dict} {key' : String} {v : Json} (h : d.get key' = some v) (key : String)
    (value : Json) : (d.setdefault key value).get key' = some v := by
  rw [get_setdefault]
  by_cases heq : key' = key
  · rw [if_pos heq, ← heq, h]
    rfl
  · rw [if_neg heq, h]

theorem get_setdefaults_of_some {d : Dict} {key' : String} {v : Json} (h : d.get key' = some v) (items : Dict) :
    Dict.get (items.foldl (fun d kv => d.setdefault kv.1 kv.2) d) key' = some v := by
  induction items generalizing d with
  | nil => exact h
  | cons kv items ih => exact ih (get_setdefault_of_some h kv.1 kv.2)

end Dict

end Python
