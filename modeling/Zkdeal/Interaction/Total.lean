import Zkdeal.Interaction.Raising

/-!
# Total correctness

`Total` is `Sat` for programs that end: it is met by no program that is still running when its
observation ends, so a run in an accepted environment returns what is promised, unless the process is
killed.
-/

namespace Interaction

variable {O : Type} {A : O → Type} {α β ε W : Type} {env : Env O A W} {w w' : W}

namespace Prog

/-- Started in `w`, whatever the environment answers, the program ends with a value that satisfies `Q`. -/
def Total (env : Env O A W) : Prog O A α → (α → W → Prop) → W → Prop
  | ret a, Q, w => Q a w
  | halt, _, _ => False
  | call o k, Q, w => ∀ r w', env w o r w' → (k r).Total env Q w'

theorem total_bind_iff {p : Prog O A α} {f : α → Prog O A β} {Q : β → W → Prop} :
    (p.bind f).Total env Q w ↔ p.Total env (fun a w' => (f a).Total env Q w') w := by
  induction p generalizing w with
  | ret a => rfl
  | halt => rfl
  | call o k ih => simp only [bind, Total, ih]

theorem Total.mono {p : Prog O A α} {Q Q' : α → W → Prop} (h : p.Total env Q w)
    (hQ : ∀ a w, Q a w → Q' a w) : p.Total env Q' w := by
  induction p generalizing w with
  | ret a => exact hQ a w h
  | halt => exact h
  | call o k ih => exact fun r w' step => ih r (h r w' step)

/-- What `Total` says about the runs that an environment accepts. -/
theorem Total.of_runs {p : Prog O A α} {Q : α → W → Prop} {tr : Trace O A} {out : Outcome O α}
    (h : p.Total env Q w) (run : p.Runs tr out) (acc : Accepts env w tr w') :
    (∃ a, out = .returned a ∧ Q a w') ∨ ∃ o, out = .killed o := by
  induction run generalizing w with
  | returned a =>
    cases acc
    exact .inl ⟨a, rfl, h⟩
  | running => exact h.elim
  | killed o k => exact .inr ⟨o, rfl⟩
  | event o k r rest ih =>
    cases acc with
    | cons step acc => exact ih (h r _ step) acc

end Prog

namespace Raising

variable {Q : α → W → Prop} {R : ε → W → Prop}

/-- The program ends: it meets `Q` if it returns and `R` if it raises. -/
def Delivers (env : Env O A W) (x : Raising ε O A α) (Q : α → W → Prop) (R : ε → W → Prop) (w : W) : Prop :=
  x.run.Total env (ends Q R) w

theorem delivers_pure_iff {a : α} : Delivers env (pure a : Raising ε O A α) Q R w ↔ Q a w := Iff.rfl

theorem delivers_throw_iff {e : ε} : Delivers env (throw e : Raising ε O A α) Q R w ↔ R e w := Iff.rfl

theorem delivers_raiseIf_iff {c : Prop} [Decidable c] {e : ε} {Q : Unit → W → Prop} :
    Delivers env (raiseIf c e : Raising ε O A Unit) Q R w ↔ (c → R e w) ∧ (¬c → Q () w) := by
  by_cases hc : c <;> simp [raiseIf, hc, delivers_pure_iff, delivers_throw_iff]

theorem delivers_attempt_iff {o : O} {f : A o → Except ε α} :
    Delivers env (attempt o f) Q R w ↔ ∀ r w', env w o r w' → ends Q R (f r) w' := Iff.rfl

theorem delivers_perform_iff {o : O} {Q : A o → W → Prop} :
    Delivers env (perform o : Raising ε O A (A o)) Q R w ↔ ∀ r w', env w o r w' → Q r w' := Iff.rfl

theorem delivers_bind_iff {x : Raising ε O A α} {f : α → Raising ε O A β} {Q : β → W → Prop} :
    Delivers env (x >>= f) Q R w ↔ Delivers env x (fun a w' => Delivers env (f a) Q R w') R w := by
  unfold Delivers
  rw [run_bind, Prog.total_bind_iff]
  refine ⟨fun h => h.mono fun r w' hr => ?_, fun h => h.mono fun r w' hr => ?_⟩
  · cases r <;> exact hr
  · cases r <;> exact hr

theorem Delivers.mono {x : Raising ε O A α} {Q' : α → W → Prop} {R' : ε → W → Prop}
    (h : Delivers env x Q R w) (hQ : ∀ a w, Q a w → Q' a w) (hR : ∀ e w, R e w → R' e w) :
    Delivers env x Q' R' w :=
  Prog.Total.mono h (ends_mono hQ hR)

/-- What `Delivers` says about the runs that an environment accepts. -/
theorem Delivers.of_runs {x : Raising ε O A α} (h : Delivers env x Q R w) {tr : Trace O A}
    {out : Outcome O (Except ε α)} (run : x.run.Runs tr out) (acc : Accepts env w tr w') :
    (∃ r, out = .returned r ∧ ends Q R r w') ∨ ∃ o, out = .killed o :=
  Prog.Total.of_runs h run acc

end Raising

end Interaction
