import Mathlib.Data.List.GetD
import Mathlib.Data.List.Nodup

/-!
# Loops that assign to the items of a list

`for i in l: a[index(i)] = f(i, a[index(i)])`, where no two turns of the loop assign to the same item.
-/

namespace Python

variable {ι α : Type} {l : List ι} {index : ι → ℕ} {f : ι → α → α} {a : List α}

/-- `for i in l: a[index(i)] = f(i, a[index(i)])` -/
def assignEach (l : List ι) (index : ι → ℕ) (f : ι → α → α) (a : List α) : List α :=
  l.foldl (fun a i => a.modify (index i) (f i)) a

@[simp] theorem length_assignEach (l : List ι) (index : ι → ℕ) (f : ι → α → α) (a : List α) :
    (assignEach l index f a).length = a.length := by
  induction l generalizing a with
  | nil => rfl
  | cons i l ih =>
    rw [assignEach, List.foldl_cons]
    exact (ih _).trans (List.length_modify ..)

theorem getD_assignEach_of_notMem {j : ℕ} (d : α) (hj : j ∉ l.map index) :
    (assignEach l index f a).getD j d = a.getD j d := by
  induction l generalizing a with
  | nil => rfl
  | cons i l ih =>
    rw [List.map_cons, List.mem_cons, not_or] at hj
    rw [assignEach, List.foldl_cons]
    refine (ih hj.2).trans ?_
    rw [List.getD_eq_getElem?_getD, List.getElem?_modify_ne _ _ (Ne.symm hj.1), List.getD_eq_getElem?_getD]

/-- Each item that the loop assigns to gets its value from what it was before the loop. -/
theorem getD_assignEach {i : ι} (d : α) (hnodup : (l.map index).Nodup) (hi : i ∈ l) (hlength : index i < a.length) :
    (assignEach l index f a).getD (index i) d = f i (a.getD (index i) d) := by
  induction l generalizing a with
  | nil => simp at hi
  | cons i' l ih =>
    rw [List.map_cons, List.nodup_cons] at hnodup
    rw [assignEach, List.foldl_cons]
    obtain rfl | hi := List.mem_cons.1 hi
    · refine (getD_assignEach_of_notMem d hnodup.1).trans ?_
      rw [List.getD_eq_getElem _ _ (by simpa using hlength), List.getElem_modify_eq, List.getD_eq_getElem _ _ hlength]
    · have hne : index i' ≠ index i := by
        intro heq
        exact hnodup.1 (heq ▸ List.mem_map_of_mem hi)
      refine (ih hnodup.2 hi (by simpa using hlength)).trans ?_
      rw [List.getD_eq_getElem?_getD, List.getElem?_modify_ne _ _ hne, List.getD_eq_getElem?_getD]

end Python
