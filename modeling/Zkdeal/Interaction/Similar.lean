import Zkdeal.Interaction.Raising

/-!
# Programs that do the same

Two programs are similar if they perform related operations in step, continue alike on every answer,
and end with related values.  For programs with a memory, the memories are related throughout.
-/

namespace Interaction

variable {O : Type} {A : O → Type} {α β γ δ ε σ : Type}

namespace Prog

/-- The programs do the same, up to a relation `E` of operations and a relation `B` of values. -/
inductive Similar (E : O → O → Prop) (B : α → β → Prop) : Prog O A α → Prog O A β → Prop where
  | ret {a : α} {b : β} (h : B a b) : Similar E B (.ret a) (.ret b)
  | halt : Similar E B .halt .halt
  | call {o o' : O} {k : A o → Prog O A α} {k' : A o' → Prog O A β} (h : E o o') (same : A o = A o')
      (rest : ∀ r, Similar E B (k r) (k' (cast same r))) : Similar E B (.call o k) (.call o' k')

variable {E : O → O → Prop} {B B' : α → β → Prop} {C : γ → δ → Prop}

theorem similar_refl (hE : ∀ o, E o o) (p : Prog O A α) : Similar E Eq p p := by
  induction p with
  | ret a => exact .ret rfl
  | halt => exact .halt
  | call o k ih => exact .call (hE o) rfl ih

theorem Similar.mono {p : Prog O A α} {q : Prog O A β} (h : Similar E B p q) (hB : ∀ a b, B a b → B' a b) :
    Similar E B' p q := by
  induction h with
  | ret h => exact .ret (hB _ _ h)
  | halt => exact .halt
  | call h same _ ih => exact .call h same ih

theorem Similar.bind {p : Prog O A α} {q : Prog O A β} {f : α → Prog O A γ} {g : β → Prog O A δ}
    (h : Similar E B p q) (hf : ∀ a b, B a b → Similar E C (f a) (g b)) :
    Similar E C (p.bind f) (q.bind g) := by
  induction h with
  | ret h => exact hf _ _ h
  | halt => exact .halt
  | call h same _ ih => exact .call h same ih

/-- The runs ended alike. -/
def SimilarOutcome (E : O → O → Prop) (B : α → β → Prop) : Outcome O α → Outcome O β → Prop
  | .returned a, .returned b => B a b
  | .killed o, .killed o' => E o o'
  | .running, .running => True
  | _, _ => False

/-- Every run of one is a run of the other: related operations, the same answers, a related end. -/
theorem Similar.runs {p : Prog O A α} {q : Prog O A β} (h : Similar E B p q) {tr : Trace O A}
    {out : Outcome O α} (run : p.Runs tr out) : ∃ tr' out', q.Runs tr' out' ∧
      List.Forall₂ (fun e e' => E e.1 e'.1 ∧ HEq e.2 e'.2) tr tr' ∧ SimilarOutcome E B out out' := by
  induction h generalizing tr with
  | ret h =>
    cases run
    exact ⟨[], _, .returned _, .nil, h⟩
  | halt =>
    cases run
    exact ⟨[], _, .running, .nil, trivial⟩
  | @call o o' k k' h same _ ih =>
    cases run with
    | killed => exact ⟨[], _, .killed o' k', .nil, h⟩
    | event _ _ r rest =>
      obtain ⟨tr', out', run', events, hout⟩ := ih r rest
      exact ⟨_, _, .event o' k' (cast same r) run', .cons ⟨h, (cast_heq same r).symm⟩ events, hout⟩

end Prog

/-! ## Programs with a memory -/

namespace Stateful

/-- The same exception, or related values. -/
def SameEnd (B : α → β → Prop) : Except ε α → Except ε β → Prop
  | .ok a, .ok b => B a b
  | .error e, .error e' => e = e'
  | _, _ => False

/-- Started with the memories `s` and `t`, the programs do the same and keep the memories related. -/
def Alike (E : O → O → Prop) (M : σ → σ → Prop) (B : α → β → Prop) (x : Stateful ε σ O A α)
    (y : Stateful ε σ O A β) (s t : σ) : Prop :=
  (start x s).Similar E (fun p q => SameEnd B p.1 q.1 ∧ M p.2 q.2) (start y t)

variable {E : O → O → Prop} {M : σ → σ → Prop} {B : α → β → Prop} {C : γ → δ → Prop} {s t : σ}

theorem alike_pure {a : α} {b : β} (hB : B a b) (hM : M s t) :
    Alike E M B (pure a : Stateful ε σ O A α) (pure b) s t := .ret ⟨hB, hM⟩

theorem alike_throw {e : ε} (hM : M s t) :
    Alike E M B (throw e : Stateful ε σ O A α) (throw e) s t := .ret ⟨rfl, hM⟩

theorem alike_raiseIf {c : Prop} [Decidable c] {e : ε} (hM : M s t) :
    Alike E M Eq (raiseIf c e : Stateful ε σ O A Unit) (raiseIf c e) s t := by
  by_cases hc : c <;> simp only [raiseIf, hc, if_true, if_false]
  · exact alike_throw hM
  · exact alike_pure rfl hM

theorem alike_modify {f g : σ → σ} (hM : M (f s) (g t)) :
    Alike E M Eq (modify f : Stateful ε σ O A Unit) (modify g) s t := .ret ⟨rfl, hM⟩

theorem alike_perform {o : O} (ho : E o o) (hM : M s t) :
    Alike E M Eq (perform o : Stateful ε σ O A (A o)) (perform o) s t :=
  .call ho rfl fun _ => .ret ⟨rfl, hM⟩

theorem alike_lift (hE : ∀ o, E o o) (x : Raising ε O A α) (hM : M s t) :
    Alike E M Eq (lift x) (lift x) s t := by
  refine (Prog.similar_refl hE x.run).bind ?_
  rintro r _ rfl
  refine .ret ⟨?_, hM⟩
  cases r <;> rfl

theorem Alike.bind {x : Stateful ε σ O A α} {y : Stateful ε σ O A β} {f : α → Stateful ε σ O A γ}
    {g : β → Stateful ε σ O A δ} (h : Alike E M B x y s t)
    (hf : ∀ a b s t, B a b → M s t → Alike E M C (f a) (g b) s t) : Alike E M C (x >>= f) (y >>= g) s t := by
  unfold Alike
  rw [start_bind, start_bind]
  refine Prog.Similar.bind h ?_
  rintro ⟨r, s'⟩ ⟨r', t'⟩ ⟨hr, hM⟩
  cases r <;> cases r'
  · obtain rfl := hr
    exact .ret ⟨rfl, hM⟩
  · exact hr.elim
  · exact hr.elim
  · exact hf _ _ _ _ hr hM

theorem alike_get_bind {f g : σ → Stateful ε σ O A α} {B : α → α → Prop}
    (h : Alike E M B (f s) (g t) s t) : Alike E M B (get >>= f) (get >>= g) s t := h

theorem alike_interpret {h : (o : O) → Stateful ε σ O A (A o)}
    (hh : ∀ o s t, M s t → Alike E M Eq (h o) (h o) s t) (p : Prog O A (Except ε α)) (hM : M s t) :
    Alike E M Eq (interpret h p) (interpret h p) s t := by
  induction p generalizing s t with
  | ret r =>
    refine .ret ⟨?_, hM⟩
    cases r <;> rfl
  | halt => exact .halt
  | call o k ih =>
    refine (hh o s t hM).bind ?_
    rintro r _ s t rfl hM
    exact ih r hM

end Stateful

end Interaction
