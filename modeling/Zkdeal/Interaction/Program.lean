import Mathlib.Data.List.Basic
import Mathlib.Data.List.Sublists

/-!
# Programs that interact with an environment

A program over a signature of operations `O`, each with a type `A o` of answers, is a tree: it
returns a value, or performs an operation and continues with the answer.  A *run* of a program is
one path through that tree: the list of the operations it performed with their answers
(`Trace`), and how the path ended (`Outcome`).  A process can be killed at every operation
(`Runs.killed_of_event`), so a statement about all runs is a statement about every point at which
a program can be interrupted; a death inside an operation that took effect is the run that has
this operation's event and is killed at the next one.

`Sat` is the weakest-precondition reading of the tree against a world `W` that answers the
operations (`Env`): every operation is performed in a world in which it is permitted, and the
value returned satisfies the postcondition.  `Sat.of_runs` connects the two.
-/

namespace Interaction

/-- A program over the operations `O` with answers `A`, returning an `α`.  `halt` is a program
that is still running when its observation ends: loops are unfolded a bounded number of times. -/
inductive Prog (O : Type) (A : O → Type) (α : Type) : Type where
  | ret (a : α)
  | halt
  | call (o : O) (k : A o → Prog O A α)

/-- An operation together with its answer. -/
abbrev Event (O : Type) (A : O → Type) := Σ o : O, A o

/-- The operations a program performed, in order, with their answers. -/
abbrev Trace (O : Type) (A : O → Type) := List (Event O A)

/-- How a run ended: with a value, with the death of the process when `o` was its next operation,
or with the end of the observation. -/
inductive Outcome (O α : Type) : Type where
  | returned (a : α)
  | killed (o : O)
  | running

variable {O O' : Type} {A : O → Type} {A' : O' → Type} {α β γ ε σ W W' : Type}

/-- The value of a run that returned one, and did not raise. -/
def Outcome.value : Outcome O (Except ε α) → Option α
  | .returned (.ok a) => some a
  | _ => none

theorem Outcome.value_eq_some {out : Outcome O (Except ε α)} {a : α} (h : out.value = some a) :
    out = .returned (.ok a) := by
  unfold value at h
  split at h
  · exact congrArg (fun b => Outcome.returned (Except.ok b)) (Option.some.inj h)
  · cases h

namespace Prog

/-- Sequential composition. -/
def bind : Prog O A α → (α → Prog O A β) → Prog O A β
  | ret a, f => f a
  | halt, _ => halt
  | call o k, f => call o fun r => (k r).bind f

instance : Monad (Prog O A) where
  pure := ret
  bind := bind

theorem bind_eq (p : Prog O A α) (f : α → Prog O A β) : p >>= f = p.bind f := rfl

theorem bind_ret (p : Prog O A α) : p.bind ret = p := by
  induction p with
  | ret _ => rfl
  | halt => rfl
  | call o k ih => exact congrArg (call o) (funext ih)

theorem bind_assoc (p : Prog O A α) (f : α → Prog O A β) (g : β → Prog O A γ) :
    (p.bind f).bind g = p.bind fun a => (f a).bind g := by
  induction p with
  | ret _ => rfl
  | halt => rfl
  | call o k ih => exact congrArg (call o) (funext ih)

instance : LawfulMonad (Prog O A) :=
  LawfulMonad.mk' _ (fun p => bind_ret p) (fun _ _ => rfl) bind_assoc

/-! ## Runs -/

/-- `p.Runs tr out`: some path of `p` performs the events `tr` and ends with `out`. -/
inductive Runs : Prog O A α → Trace O A → Outcome O α → Prop where
  | returned (a : α) : Runs (ret a) [] (.returned a)
  | running : Runs halt [] .running
  | killed (o : O) (k : A o → Prog O A α) : Runs (call o k) [] (.killed o)
  | event (o : O) (k : A o → Prog O A α) (r : A o) {tr : Trace O A} {out : Outcome O α}
      (rest : Runs (k r) tr out) : Runs (call o k) (⟨o, r⟩ :: tr) out

/-- A run can be cut at any of the operations it performed. -/
theorem Runs.killed_of_event {p : Prog O A α} {pre post : Trace O A} {e : Event O A}
    {out : Outcome O α} (h : p.Runs (pre ++ e :: post) out) : p.Runs pre (.killed e.1) := by
  induction pre generalizing p with
  | nil =>
    cases h with
    | event o k r rest => exact .killed o k
  | cons d pre ih =>
    cases h with
    | event o k r rest => exact .event o k r (ih rest)

/-- A run of a composition is a run of its first part, and then of the rest if that returned. -/
theorem runs_bind_iff {p : Prog O A α} {f : α → Prog O A β} {tr : Trace O A} {out : Outcome O β} :
    (p.bind f).Runs tr out ↔
      (p.Runs tr .running ∧ out = .running) ∨ (∃ o, p.Runs tr (.killed o) ∧ out = .killed o) ∨
        ∃ a tr₁ tr₂, p.Runs tr₁ (.returned a) ∧ (f a).Runs tr₂ out ∧ tr = tr₁ ++ tr₂ := by
  constructor
  · intro h
    induction p generalizing tr with
    | ret a => exact .inr (.inr ⟨a, [], tr, .returned a, h, rfl⟩)
    | halt =>
      cases h
      exact .inl ⟨.running, rfl⟩
    | call o k ih =>
      cases h with
      | killed => exact .inr (.inl ⟨o, .killed o k, rfl⟩)
      | event _ _ r rest =>
        rcases ih r rest with ⟨h, rfl⟩ | ⟨o', h, rfl⟩ | ⟨a, tr₁, tr₂, h₁, h₂, rfl⟩
        · exact .inl ⟨.event o k r h, rfl⟩
        · exact .inr (.inl ⟨o', .event o k r h, rfl⟩)
        · exact .inr (.inr ⟨a, _ :: tr₁, tr₂, .event o k r h₁, h₂, rfl⟩)
  · rintro (⟨h, rfl⟩ | ⟨o, h, rfl⟩ | ⟨a, tr₁, tr₂, h₁, h₂, rfl⟩)
    · induction p generalizing tr with
      | ret a => cases h
      | halt => cases h; exact .running
      | call o k ih =>
        cases h with
        | event _ _ r rest => exact .event o _ r (ih r rest)
    · induction p generalizing tr with
      | ret a => cases h
      | halt => cases h
      | call o' k ih =>
        cases h with
        | killed => exact .killed _ _
        | event _ _ r rest => exact .event o' _ r (ih r rest)
    · induction p generalizing tr₁ with
      | ret a => cases h₁; exact h₂
      | halt => cases h₁
      | call o k ih =>
        cases h₁ with
        | event _ _ r rest => exact .event o _ r (ih r _ rest)

end Prog

/-! ## Environments -/

/-- How a world answers operations: `env w o r w'` when the world `w` may answer the operation
`o` by `r` and be `w'` afterwards. -/
abbrev Env (O : Type) (A : O → Type) (W : Type) := W → (o : O) → A o → W → Prop

/-- The environment that answers arbitrarily and whose state is the trace so far. -/
def recording : Env O A (Trace O A) := fun tr o r tr' => tr' = tr ++ [⟨o, r⟩]

/-- `Accepts env w tr w'`: the world `w` can answer the events of `tr`, in order, ending in `w'`. -/
inductive Accepts (env : Env O A W) : W → Trace O A → W → Prop where
  | nil (w : W) : Accepts env w [] w
  | cons {w w₁ w₂ : W} {o : O} {r : A o} {tr : Trace O A} (step : env w o r w₁)
      (rest : Accepts env w₁ tr w₂) : Accepts env w (⟨o, r⟩ :: tr) w₂

theorem accepts_append_iff {env : Env O A W} {w w' : W} {tr₁ tr₂ : Trace O A} :
    Accepts env w (tr₁ ++ tr₂) w' ↔ ∃ w₁, Accepts env w tr₁ w₁ ∧ Accepts env w₁ tr₂ w' := by
  constructor
  · intro h
    induction tr₁ generalizing w with
    | nil => exact ⟨w, .nil w, h⟩
    | cons e tr₁ ih =>
      cases h with
      | cons step rest =>
        obtain ⟨w₁, h₁, h₂⟩ := ih rest
        exact ⟨w₁, .cons step h₁, h₂⟩
  · rintro ⟨w₁, h₁, h₂⟩
    induction h₁ with
    | nil => exact h₂
    | cons step _ ih => exact .cons step (ih h₂)

theorem accepts_singleton_iff {env : Env O A W} {w w' : W} {e : Event O A} :
    Accepts env w [e] w' ↔ env w e.1 e.2 w' := by
  constructor
  · intro h
    cases h with
    | cons step rest =>
      cases rest
      exact step
  · exact fun h => .cons h (.nil w')

theorem accepts_recording (tr₀ tr : Trace O A) : Accepts recording tr₀ tr (tr₀ ++ tr) := by
  induction tr generalizing tr₀ with
  | nil =>
    rw [List.append_nil]
    exact .nil tr₀
  | cons e tr ih =>
    rw [← List.singleton_append, ← List.append_assoc]
    exact .cons rfl (ih (tr₀ ++ [e]))

/-! ## Deterministic worlds -/

/-- The run of a program in a world that answers by a function; no answer kills the program. -/
def Prog.simulate (answer : W → (o : O) → Option (A o × W)) :
    Prog O A α → W → Trace O A × Outcome O α × W
  | ret a, w => ([], .returned a, w)
  | halt, w => ([], .running, w)
  | call o k, w =>
    match answer w o with
    | none => ([], .killed o, w)
    | some (r, w') =>
      let rest := (k r).simulate answer w'
      (⟨o, r⟩ :: rest.1, rest.2)

theorem Prog.simulate_runs (answer : W → (o : O) → Option (A o × W)) (p : Prog O A α) (w : W) :
    p.Runs (p.simulate answer w).1 (p.simulate answer w).2.1 := by
  induction p generalizing w with
  | ret a => exact .returned a
  | halt => exact .running
  | call o k ih =>
    unfold simulate
    split
    · exact .killed o k
    · rename_i r w' _
      exact .event o k r (ih r w')

theorem Prog.simulate_accepts {V : Type} {answer : V → (o : O) → Option (A o × V)} {env : Env O A W}
    {view : V → W} (h : ∀ v o r v', answer v o = some (r, v') → env (view v) o r (view v'))
    (p : Prog O A α) (v : V) :
    Accepts env (view v) (p.simulate answer v).1 (view (p.simulate answer v).2.2) := by
  induction p generalizing v with
  | ret a => exact .nil _
  | halt => exact .nil _
  | call o k ih =>
    unfold simulate
    split
    · exact .nil _
    · rename_i r v' step
      exact .cons (h v o r v' step) (ih r v')

/-! ## Events in order -/

/-- The trace has events that satisfy the given predicates, one after the other. -/
def InOrder : List (Event O A → Prop) → Trace O A → Prop
  | [], _ => True
  | P :: Ps, tr => ∃ pre e post, tr = pre ++ e :: post ∧ P e ∧ InOrder Ps post

theorem InOrder.prepend {Ps : List (Event O A → Prop)} {tr : Trace O A} (h : InOrder Ps tr)
    (tr₀ : Trace O A) : InOrder Ps (tr₀ ++ tr) := by
  cases Ps with
  | nil => trivial
  | cons P Ps =>
    obtain ⟨pre, e, post, rfl, he, hpost⟩ := h
    exact ⟨tr₀ ++ pre, e, post, by rw [List.append_assoc], he, hpost⟩

theorem InOrder.append {Ps Qs : List (Event O A → Prop)} {tr tr' : Trace O A} (h : InOrder Ps tr)
    (h' : InOrder Qs tr') : InOrder (Ps ++ Qs) (tr ++ tr') := by
  induction Ps generalizing tr with
  | nil => exact h'.prepend tr
  | cons P Ps ih =>
    obtain ⟨pre, e, post, rfl, he, hpost⟩ := h
    exact ⟨pre, e, post ++ tr', by rw [List.append_assoc, List.cons_append], he, ih hpost⟩

/-- Earlier events were in order already. -/
theorem InOrder.left {Ps Qs : List (Event O A → Prop)} {tr : Trace O A}
    (h : InOrder (Ps ++ Qs) tr) : InOrder Ps tr := by
  induction Ps generalizing tr with
  | nil => trivial
  | cons P Ps ih =>
    obtain ⟨pre, e, post, rfl, he, hpost⟩ := h
    exact ⟨pre, e, post, rfl, he, ih hpost⟩

/-- Later events do not matter. -/
theorem InOrder.extend {Ps : List (Event O A → Prop)} {tr : Trace O A} (h : InOrder Ps tr)
    (tr' : Trace O A) : InOrder Ps (tr ++ tr') := by
  rw [← List.append_nil Ps]
  exact h.append trivial

/-- One more event. -/
theorem InOrder.snoc {Ps : List (Event O A → Prop)} {tr : Trace O A} (h : InOrder Ps tr)
    {P : Event O A → Prop} {e : Event O A} (he : P e) : InOrder (Ps ++ [P]) (tr ++ [e]) :=
  h.append ⟨[], e, [], rfl, he, trivial⟩

/-- The first event of a kind, and what came before it. -/
theorem exists_first {P : Event O A → Prop} [DecidablePred P] {tr : Trace O A} (h : ∃ e ∈ tr, P e) :
    ∃ e post, tr = tr.takeWhile (fun d => ¬P d) ++ e :: post ∧ P e := by
  induction tr with
  | nil => simp at h
  | cons d tr ih =>
    by_cases hd : P d
    · exact ⟨d, tr, by simp [hd], hd⟩
    · obtain ⟨e, post, split, he⟩ := ih (by simpa [hd] using h)
      refine ⟨e, post, ?_, he⟩
      rw [List.takeWhile_cons_of_pos (by simpa using hd), List.cons_append, ← split]

/-! ## Permitted operations and postconditions -/

namespace Prog

/-- Started in `w`, the program performs operations only in worlds that permit them (`ok`), and
if it returns `a` in a world `w'` then `Q a w'`. -/
def Sat (env : Env O A W) (ok : W → O → Prop) : Prog O A α → (α → W → Prop) → W → Prop
  | ret a, Q, w => Q a w
  | halt, _, _ => True
  | call o k, Q, w => ok w o ∧ ∀ r w', env w o r w' → (k r).Sat env ok Q w'

variable {env : Env O A W} {ok ok' : W → O → Prop}

theorem sat_bind_iff {p : Prog O A α} {f : α → Prog O A β} {Q : β → W → Prop} {w : W} :
    (p.bind f).Sat env ok Q w ↔ p.Sat env ok (fun a w' => (f a).Sat env ok Q w') w := by
  induction p generalizing w with
  | ret a => rfl
  | halt => rfl
  | call o k ih => simp only [bind, Sat, ih]

theorem Sat.mono {p : Prog O A α} {Q Q' : α → W → Prop} {w : W} (h : p.Sat env ok Q w)
    (hok : ∀ w o, ok w o → ok' w o) (hQ : ∀ a w, Q a w → Q' a w) : p.Sat env ok' Q' w := by
  induction p generalizing w with
  | ret a => exact hQ a w h
  | halt => trivial
  | call o k ih => exact ⟨hok _ _ h.1, fun r w' step => ih r (h.2 r w' step)⟩

theorem Sat.and {p : Prog O A α} {Q Q' : α → W → Prop} {w : W} (h : p.Sat env ok Q w)
    (h' : p.Sat env ok' Q' w) : p.Sat env ok (fun a w => Q a w ∧ Q' a w) w := by
  induction p generalizing w with
  | ret a => exact ⟨h, h'⟩
  | halt => trivial
  | call o k ih => exact ⟨h.1, fun r w' step => ih r (h.2 r w' step) (h'.2 r w' step)⟩

/-- What `Sat` says about the runs that an environment accepts. -/
theorem Sat.of_runs {p : Prog O A α} {Q : α → W → Prop} {w w' : W} {tr : Trace O A}
    {out : Outcome O α} (h : p.Sat env ok Q w) (run : p.Runs tr out) (acc : Accepts env w tr w') :
    (∀ a, out = .returned a → Q a w') ∧ ∀ o, out = .killed o → ok w' o := by
  induction run generalizing w with
  | returned a =>
    cases acc
    exact ⟨fun b hb => by cases hb; exact h, fun o ho => by cases ho⟩
  | running => exact ⟨fun b hb => (by cases hb), fun o ho => (by cases ho)⟩
  | killed o k =>
    cases acc
    exact ⟨fun b hb => (by cases hb), fun o' ho => by cases ho; exact h.1⟩
  | event o k r rest ih =>
    cases acc with
    | cons step acc => exact ih (h.2 r _ step) acc

/-- Every operation of a run was performed in a world that permits it. -/
theorem Sat.permits {p : Prog O A α} {Q : α → W → Prop} {w w' : W} {pre post : Trace O A}
    {e : Event O A} {out : Outcome O α} (h : p.Sat env ok Q w) (run : p.Runs (pre ++ e :: post) out)
    (acc : Accepts env w pre w') : ok w' e.1 :=
  (h.of_runs run.killed_of_event acc).2 _ rfl

/-- What every permitted operation leaves behind is there at the end of a run. -/
theorem Sat.leaves {p : Prog O A α} {Q : α → W → Prop} {w : W} (h : p.Sat env ok Q w) {K : W → Prop}
    (step : ∀ w o r w', K w → ok w o → env w o r w' → K w') (hK : K w) {tr : Trace O A} {out : Outcome O α} {w' : W}
    (run : p.Runs tr out) (acc : Accepts env w tr w') : K w' := by
  induction run generalizing w with
  | returned _ =>
    cases acc
    exact hK
  | running =>
    cases acc
    exact hK
  | killed _ _ =>
    cases acc
    exact hK
  | event o k r rest ih =>
    cases acc with
    | cons answered acc => exact ih (h.2 r _ answered) (step _ _ _ _ hK h.1 answered) acc

/-- The program performs only operations that satisfy `P`. -/
def Performs (P : O → Prop) : Prog O A α → Prop
  | ret _ => True
  | halt => True
  | call o k => P o ∧ ∀ r, (k r).Performs P

theorem Performs.bind {P : O → Prop} {p : Prog O A α} {f : α → Prog O A β} (hp : p.Performs P)
    (hf : ∀ a, (f a).Performs P) : (p.bind f).Performs P := by
  induction p with
  | ret a => exact hf a
  | halt => trivial
  | call o k ih => exact ⟨hp.1, fun r => ih r (hp.2 r)⟩

theorem Performs.mono {P P' : O → Prop} {p : Prog O A α} (hp : p.Performs P)
    (h : ∀ o, P o → P' o) : p.Performs P' := by
  induction p with
  | ret a => trivial
  | halt => trivial
  | call o k ih => exact ⟨h _ hp.1, fun r => ih r (hp.2 r)⟩

/-- An invariant of the operations a program performs holds throughout. -/
theorem Performs.sat {P : O → Prop} {p : Prog O A α} (hp : p.Performs P) {I : W → Prop}
    (hok : ∀ w o, I w → P o → ok w o) (step : ∀ w o r w', I w → P o → env w o r w' → I w') {w : W}
    (h : I w) : p.Sat env ok (fun _ => I) w := by
  induction p generalizing w with
  | ret a => exact h
  | halt => trivial
  | call o k ih =>
    exact ⟨hok w o h hp.1, fun r w' answer => ih r (hp.2 r) (step w o r w' h hp.1 answer)⟩

/-- The program returns only values that satisfy `P`. -/
def Returns (P : α → Prop) : Prog O A α → Prop
  | ret a => P a
  | halt => True
  | call _ k => ∀ r, (k r).Returns P

theorem Returns.bind {P : α → Prop} {P' : β → Prop} {p : Prog O A α} {f : α → Prog O A β}
    (hp : p.Returns P) (hf : ∀ a, P a → (f a).Returns P') : (p.bind f).Returns P' := by
  induction p with
  | ret a => exact hf a hp
  | halt => trivial
  | call o k ih => exact fun r => ih r (hp r)

theorem Returns.sat {P : α → Prop} {p : Prog O A α} {Q : α → W → Prop} {w : W} (hp : p.Returns P)
    (h : p.Sat env ok Q w) : p.Sat env ok (fun a w => P a ∧ Q a w) w := by
  induction p generalizing w with
  | ret a => exact ⟨hp, h⟩
  | halt => trivial
  | call o k ih => exact ⟨h.1, fun r w' step => ih r (hp r) (h.2 r w' step)⟩

end Prog

end Interaction
