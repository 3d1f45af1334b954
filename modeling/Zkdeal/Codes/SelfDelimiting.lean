import Mathlib.Data.List.Basic

/-!
# Self-delimiting codes

A code is a relation between items and their words.  It is self-delimiting when the beginning of a text says
which item it encodes and where its word ends, whatever follows.
-/

namespace Codes

variable {α β γ : Type}

/-- Every text begins with the word of at most one item, and in one way. -/
def SelfDelimiting (E : α → List β → Prop) : Prop :=
  ∀ ⦃a b a' b' rest rest'⦄, E a b → E a' b' → b ++ rest = b' ++ rest' → a = a' ∧ rest = rest'

variable {E : α → List β → Prop} {a a' : α} {b b' : List β}

/-- A decoder that reads every word in front of every text makes a code self-delimiting. -/
theorem SelfDelimiting.of_decoder (decode : List β → Option (α × List β))
    (hdecode : ∀ a b, E a b → ∀ rest, decode (b ++ rest) = some (a, rest)) : SelfDelimiting E := by
  intro a b a' b' rest rest' h h' heq
  have hsame : some (a, rest) = some (a', rest') := by rw [← hdecode a b h, heq, hdecode a' b' h']
  simpa using hsame

/-- Two items do not share a word. -/
theorem SelfDelimiting.injective (hE : SelfDelimiting E) (h : E a b) (h' : E a' b) : a = a' := by
  have hboth : a = a' ∧ ([] : List β) = [] := hE h h' rfl
  exact hboth.1

/-- No word begins another one. -/
theorem SelfDelimiting.eq_of_isPrefix (hE : SelfDelimiting E) (h : E a b) (h' : E a' b') (hp : b <+: b') :
    a = a' ∧ b = b' := by
  obtain ⟨rest, rfl⟩ := hp
  have hboth : a = a' ∧ rest = [] := hE h h' (List.append_nil _).symm
  rw [hboth.2, List.append_nil]
  exact ⟨hboth.1, rfl⟩

/-- The words of a list of items say which items they are, when none of them is empty. -/
theorem SelfDelimiting.flatten_injective (hE : SelfDelimiting E) (hne : ∀ a, ¬E a []) {as as' : List α} {bs bs' : List (List β)}
    (h : List.Forall₂ E as bs) (h' : List.Forall₂ E as' bs') (heq : bs.flatten = bs'.flatten) : as = as' := by
  have hcons {b : List β} {bs : List (List β)} {a : α} (ha : E a b) : (b :: bs).flatten ≠ [] := by
    intro hnil
    rw [List.flatten_cons, List.append_eq_nil_iff] at hnil
    exact hne a (hnil.1 ▸ ha)
  induction h generalizing as' bs' with
  | nil =>
    cases h' with
    | nil => rfl
    | cons ha' _ => exact absurd heq.symm (hcons ha')
  | cons ha _ ih =>
    cases h' with
    | nil => exact absurd heq (hcons ha)
    | cons ha' h' =>
      rw [List.flatten_cons, List.flatten_cons] at heq
      obtain ⟨rfl, hrest⟩ := hE ha ha' heq
      rw [ih h' hrest]

end Codes
