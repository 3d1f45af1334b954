import Zkdeal.Interaction.Raising

/-!
# Worlds that answer by a function

Where every operation has one answer, a program that ends has one end.  `Evaluates` is that end, and its rules
read a run forwards, from the parts of a program to the whole, as well as backwards.
-/

namespace Interaction

variable {O : Type} {A : O → Type} {α β ε W : Type} {answer : W → (o : O) → A o × W} {w w' w'' : W}

namespace Prog

/-- Started in `w`, the program returns `a` in `w'`. -/
def Ends (answer : W → (o : O) → A o × W) : Prog O A α → W → α → W → Prop
  | ret a, w, b, w' => a = b ∧ w = w'
  | halt, _, _, _ => False
  | call o k, w, b, w' => (k (answer w o).1).Ends answer (answer w o).2 b w'

theorem ends_bind_iff {p : Prog O A α} {f : α → Prog O A β} {b : β} :
    (p.bind f).Ends answer w b w' ↔ ∃ a w₁, p.Ends answer w a w₁ ∧ (f a).Ends answer w₁ b w' := by
  induction p generalizing w with
  | ret a =>
    constructor
    · exact fun h => ⟨a, w, ⟨rfl, rfl⟩, h⟩
    · rintro ⟨_, _, ⟨rfl, rfl⟩, h⟩
      exact h
  | halt => simp [bind, Ends]
  | call o k ih => exact ih _

theorem Ends.unique {p : Prog O A α} {a b : α} (h : p.Ends answer w a w') (h' : p.Ends answer w b w'') :
    a = b ∧ w' = w'' := by
  induction p generalizing w with
  | ret c =>
    obtain ⟨rfl, rfl⟩ := h
    exact h'
  | halt => exact h.elim
  | call o k ih => exact ih _ h h'

end Prog

namespace Raising

/-- Started in `w`, the program ends in `w'`, and returns or raises as `r` says. -/
structure Evaluates (answer : W → (o : O) → A o × W) (x : Raising ε O A α) (w : W) (r : Except ε α) (w' : W) : Prop where
  ends : x.run.Ends answer w r w'

theorem evaluates_iff {x : Raising ε O A α} {r : Except ε α} :
    Evaluates answer x w r w' ↔ x.run.Ends answer w r w' := ⟨Evaluates.ends, .mk⟩

theorem evaluates_pure_iff {a : α} {r : Except ε α} :
    Evaluates answer (pure a : Raising ε O A α) w r w' ↔ .ok a = r ∧ w = w' := evaluates_iff

theorem evaluates_throw_iff {e : ε} {r : Except ε α} :
    Evaluates answer (throw e : Raising ε O A α) w r w' ↔ .error e = r ∧ w = w' := evaluates_iff

theorem evaluates_raiseIf_iff {c : Prop} [Decidable c] {e : ε} {r : Except ε Unit} :
    Evaluates answer (raiseIf c e : Raising ε O A Unit) w r w' ↔ (if c then .error e else .ok ()) = r ∧ w = w' := by
  by_cases hc : c <;> simp [raiseIf, hc, evaluates_pure_iff, evaluates_throw_iff]

theorem evaluates_attempt_iff {o : O} {f : A o → Except ε α} {r : Except ε α} :
    Evaluates answer (attempt o f) w r w' ↔ f (answer w o).1 = r ∧ (answer w o).2 = w' := evaluates_iff

theorem evaluates_liftExcept_iff {x : Except ε α} {r : Except ε α} :
    Evaluates answer (liftExcept x : Raising ε O A α) w r w' ↔ x = r ∧ w = w' := by
  cases x <;> exact evaluates_iff

/-- A composition ends with its second part, or with an exception of its first part. -/
theorem evaluates_bind_iff {x : Raising ε O A α} {f : α → Raising ε O A β} {r : Except ε β} :
    Evaluates answer (x >>= f) w r w' ↔
      (∃ a w₁, Evaluates answer x w (.ok a) w₁ ∧ Evaluates answer (f a) w₁ r w') ∨
        ∃ e, r = .error e ∧ Evaluates answer x w (.error e) w' := by
  simp only [evaluates_iff]
  rw [run_bind, Prog.ends_bind_iff]
  constructor
  · rintro ⟨c, w₁, hx, hf⟩
    cases c with
    | ok a => exact .inl ⟨a, w₁, hx, hf⟩
    | error e =>
      obtain ⟨rfl, rfl⟩ := hf
      exact .inr ⟨e, rfl, hx⟩
  · rintro (⟨a, w₁, hx, hf⟩ | ⟨e, rfl, hx⟩)
    · exact ⟨.ok a, w₁, hx, hf⟩
    · exact ⟨.error e, w', hx, rfl, rfl⟩

/-- A composition that returns has a first part that returns. -/
theorem evaluates_bind_ok_iff {x : Raising ε O A α} {f : α → Raising ε O A β} {b : β} :
    Evaluates answer (x >>= f) w (.ok b) w' ↔
      ∃ a w₁, Evaluates answer x w (.ok a) w₁ ∧ Evaluates answer (f a) w₁ (.ok b) w' := by
  simp [evaluates_bind_iff]

theorem Evaluates.bind {x : Raising ε O A α} {f : α → Raising ε O A β} {a : α} {r : Except ε β}
    (hx : Evaluates answer x w (.ok a) w') (hf : Evaluates answer (f a) w' r w'') :
    Evaluates answer (x >>= f) w r w'' :=
  evaluates_bind_iff.2 (.inl ⟨a, w', hx, hf⟩)

theorem Evaluates.unique {x : Raising ε O A α} {r r' : Except ε α} (h : Evaluates answer x w r w')
    (h' : Evaluates answer x w r' w'') : r = r' ∧ w' = w'' :=
  Prog.Ends.unique h.ends h'.ends

end Raising

end Interaction
