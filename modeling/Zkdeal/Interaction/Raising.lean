import Zkdeal.Interaction.Program

/-!
# Programs that raise, and programs with a memory

A `Raising` program ends with a value or an exception.  A `Stateful` program also has a memory,
which an exception does not roll back.  `Meets` and `Keeps` are `Sat` with one postcondition for
returning and one for raising, and their rules follow the structure of a program.

`interpret` runs a program over one signature inside another one: each operation of the first is
carried out by a program over the second, which has a memory and may raise.  `keeps_interpret`
transports what is known of the first program along a relation between the two worlds.
-/

namespace Interaction

variable {O O' : Type} {A : O → Type} {A' : O' → Type} {α β ε σ W W' : Type}

/-- A program that returns an `α` or raises an `ε`. -/
abbrev Raising (ε O : Type) (A : O → Type) (α : Type) := ExceptT ε (Prog O A) α

/-- A program with a memory `σ` that returns an `α` or raises an `ε`. -/
abbrev Stateful (ε σ O : Type) (A : O → Type) (α : Type) := ExceptT ε (StateT σ (Prog O A)) α

/-- A postcondition for each way to end. -/
def ends (Q : α → W → Prop) (R : ε → W → Prop) : Except ε α → W → Prop
  | .ok a => Q a
  | .error e => R e

@[simp] theorem ends_ok (Q : α → W → Prop) (R : ε → W → Prop) (a : α) :
    ends Q R (.ok a) = Q a := rfl

@[simp] theorem ends_error (Q : α → W → Prop) (R : ε → W → Prop) (e : ε) :
    ends Q R (.error e) = R e := rfl

theorem ends_mono {Q Q' : α → W → Prop} {R R' : ε → W → Prop} (hQ : ∀ a w, Q a w → Q' a w)
    (hR : ∀ e w, R e w → R' e w) : ∀ (r : Except ε α) w, ends Q R r w → ends Q' R' r w
  | .ok a => hQ a
  | .error e => hR e

/-- `if c: raise e` -/
def raiseIf {m : Type → Type} [Monad m] [MonadExceptOf ε m] (c : Prop) [Decidable c] (e : ε) : m Unit :=
  if c then throw e else pure ()

theorem raiseIf_eq_ok {c : Prop} [Decidable c] {e : ε} {u : Unit} : (raiseIf c e : Except ε Unit) = .ok u ↔ ¬c := by
  unfold raiseIf
  by_cases h : c
  · rw [if_pos h]
    exact ⟨nofun, fun hn => absurd h hn⟩
  · rw [if_neg h]
    exact ⟨fun _ => h, fun _ => rfl⟩

/-- `if c: x` -/
def whenTrue {m : Type → Type} [Monad m] (c : Prop) [Decidable c] (x : m Unit) : m Unit :=
  if c then x else pure ()

/-! ## Raising programs -/

namespace Raising

variable {env : Env O A W} {ok ok' : W → O → Prop}
variable {Q Q' : α → W → Prop} {R R' : ε → W → Prop} {w : W}

/-- Perform an operation, and read a value or an exception off its answer. -/
def attempt (o : O) (f : A o → Except ε α) : Raising ε O A α :=
  ExceptT.mk (.call o fun r => .ret (f r))

/-- Perform an operation whose answer is the value. -/
def perform (o : O) : Raising ε O A (A o) := attempt o .ok

/-- A program still running when its observation ends. -/
def halt : Raising ε O A α := ExceptT.mk .halt

/-- The program meets `Q` when it returns and `R` when it raises. -/
def Meets (env : Env O A W) (ok : W → O → Prop) (x : Raising ε O A α) (Q : α → W → Prop)
    (R : ε → W → Prop) (w : W) : Prop :=
  x.run.Sat env ok (ends Q R) w

theorem meets_pure_iff {a : α} : Meets env ok (pure a : Raising ε O A α) Q R w ↔ Q a w := Iff.rfl

theorem meets_throw_iff {e : ε} : Meets env ok (throw e : Raising ε O A α) Q R w ↔ R e w := Iff.rfl

theorem meets_raiseIf_iff {c : Prop} [Decidable c] {e : ε} {Q : Unit → W → Prop} :
    Meets env ok (raiseIf c e : Raising ε O A Unit) Q R w ↔ (c → R e w) ∧ (¬c → Q () w) := by
  by_cases hc : c <;> simp [raiseIf, hc, meets_pure_iff, meets_throw_iff]

theorem meets_whenTrue_iff {c : Prop} [Decidable c] {x : Raising ε O A Unit} {Q : Unit → W → Prop} :
    Meets env ok (whenTrue c x) Q R w ↔ (c → Meets env ok x Q R w) ∧ (¬c → Q () w) := by
  by_cases hc : c <;> simp [whenTrue, hc, meets_pure_iff]

theorem meets_liftExcept_iff {x : Except ε α} :
    Meets env ok (liftExcept x : Raising ε O A α) Q R w ↔ ends Q R x w := by
  cases x <;> exact Iff.rfl

theorem meets_halt : Meets env ok (halt : Raising ε O A α) Q R w := trivial

theorem meets_attempt_iff {o : O} {f : A o → Except ε α} :
    Meets env ok (attempt o f) Q R w ↔ ok w o ∧ ∀ r w', env w o r w' → ends Q R (f r) w' := Iff.rfl

theorem meets_perform_iff {o : O} {Q : A o → W → Prop} :
    Meets env ok (perform o : Raising ε O A (A o)) Q R w ↔
      ok w o ∧ ∀ r w', env w o r w' → Q r w' := Iff.rfl

theorem run_bind (x : Raising ε O A α) (f : α → Raising ε O A β) :
    (x >>= f).run = x.run.bind fun
      | .ok a => (f a).run
      | .error e => .ret (.error e) := by
  rw [ExceptT.run_bind, Prog.bind_eq]
  congr 1
  funext r
  cases r <;> rfl

theorem meets_bind_iff {x : Raising ε O A α} {f : α → Raising ε O A β} {Q : β → W → Prop} :
    Meets env ok (x >>= f) Q R w ↔
      Meets env ok x (fun a w' => Meets env ok (f a) Q R w') R w := by
  unfold Meets
  rw [run_bind, Prog.sat_bind_iff]
  have post : (fun (r : Except ε α) w' => (match r with
      | .ok a => (f a).run
      | .error e => .ret (.error e) : Prog O A (Except ε β)).Sat env ok (ends Q R) w') =
      ends (fun a w' => (f a).run.Sat env ok (ends Q R) w') R := by
    funext r w'
    cases r <;> rfl
  rw [← post]

theorem Meets.mono {x : Raising ε O A α} (h : Meets env ok x Q R w)
    (hok : ∀ w o, ok w o → ok' w o) (hQ : ∀ a w, Q a w → Q' a w) (hR : ∀ e w, R e w → R' e w) :
    Meets env ok' x Q' R' w :=
  Prog.Sat.mono h hok (ends_mono hQ hR)

/-- Sequencing, with an intermediate assertion. -/
theorem Meets.bind {x : Raising ε O A α} {f : α → Raising ε O A β} {Q : β → W → Prop}
    {M : α → W → Prop} (hx : Meets env ok x M R w)
    (hf : ∀ a w', M a w' → Meets env ok (f a) Q R w') : Meets env ok (x >>= f) Q R w :=
  meets_bind_iff.2 (hx.mono (fun _ _ h => h) hf fun _ _ h => h)

/-- A loop with a memory keeps an invariant of the items that are done. -/
theorem Meets.foldlM {δ : Type} {items : List β} {f : δ → β → Raising ε O A δ} {I : List β → δ → W → Prop}
    (step : ∀ done item rest s w, I done s w → done ++ item :: rest = items → Meets env ok (f s item) (I (done ++ [item])) R w)
    {s : δ} (h : I [] s w) : Meets env ok (items.foldlM f s) (I items) R w := by
  have loop (rest : List β) {done : List β} {s : δ} {w : W} (h : I done s w) (all : done ++ rest = items) :
      Meets env ok (rest.foldlM f s) (I items) R w := by
    induction rest generalizing done s w with
    | nil =>
      rw [List.append_nil] at all
      exact meets_pure_iff.2 (all ▸ h)
    | cons item rest ih =>
      rw [List.foldlM_cons]
      refine (step done item rest s w h all).bind fun s' w' h' => ih h' ?_
      rw [List.append_assoc]
      exact all
  exact loop items h rfl

/-- A loop keeps an invariant. -/
theorem Meets.forM {items : List β} {f : β → Raising ε O A PUnit} {I : W → Prop}
    (step : ∀ item ∈ items, ∀ w, I w → Meets env ok (f item) (fun _ => I) R w) (h : I w) :
    Meets env ok (items.forM f) (fun _ => I) R w := by
  induction items generalizing w with
  | nil => exact meets_pure_iff.2 h
  | cons item items ih =>
    show Meets env ok (f item >>= fun _ => items.forM f) (fun _ => I) R w
    refine (step item List.mem_cons_self w h).bind fun _ w' h' => ih (fun other hother => ?_) h'
    exact step other (List.mem_cons_of_mem item hother)

/-- What `Meets` says about the runs that an environment accepts. -/
theorem Meets.of_runs {x : Raising ε O A α} (h : Meets env ok x Q R w) {tr : Trace O A}
    {out : Outcome O (Except ε α)} {w' : W} (run : x.run.Runs tr out) (acc : Accepts env w tr w') :
    (∀ r, out = .returned r → ends Q R r w') ∧ ∀ o, out = .killed o → ok w' o :=
  Prog.Sat.of_runs h run acc

/-- Every operation of a run was performed in a world that permits it. -/
theorem Meets.permits {x : Raising ε O A α} (h : Meets env ok x Q R w) {pre post : Trace O A}
    {e : Event O A} {out : Outcome O (Except ε α)} {w' : W} (run : x.run.Runs (pre ++ e :: post) out)
    (acc : Accepts env w pre w') : ok w' e.1 :=
  Prog.Sat.permits h run acc

/-- What every permitted operation leaves behind is there at the end of a run. -/
theorem Meets.leaves {x : Raising ε O A α} (h : Meets env ok x Q R w) {K : W → Prop}
    (step : ∀ w o r w', K w → ok w o → env w o r w' → K w') (hK : K w) {tr : Trace O A} {out : Outcome O (Except ε α)}
    {w' : W} (run : x.run.Runs tr out) (acc : Accepts env w tr w') : K w' :=
  Prog.Sat.leaves h step hK run acc

/-- Run a program, and give what it raises as a value. -/
def trying (x : Raising ε O A α) : Raising ε O A (Except ε α) := ExceptT.mk (x.run.bind fun r => .ret (.ok r))

theorem meets_trying_iff {x : Raising ε O A α} {Q : Except ε α → W → Prop} :
    Meets env ok (trying x) Q R w ↔ Meets env ok x (fun a => Q (.ok a)) (fun e => Q (.error e)) w := by
  have post : (fun (r : Except ε α) (w' : W) => (Prog.ret (.ok r) : Prog O A (Except ε (Except ε α))).Sat env ok
        (ends Q R) w') = ends (fun a => Q (.ok a)) fun e => Q (.error e) := by
    funext r w'
    cases r <;> rfl
  unfold Meets
  rw [← post]
  exact Prog.sat_bind_iff

/-! ### Traces -/

/-- Whatever it is answered, after the trace `tr` the program performs only operations that `ok`
permits after the trace so far, and returns only what `Q` says of the whole trace. -/
def Ensures (ok : Trace O A → O → Prop) (x : Raising ε O A α) (Q : α → Trace O A → Prop)
    (tr : Trace O A) : Prop :=
  Meets recording ok x Q (fun _ _ => True) tr

section Ensures

variable {ok : Trace O A → O → Prop} {x : Raising ε O A α} {Q : α → Trace O A → Prop} {tr : Trace O A}

theorem ensures_pure_iff {a : α} : Ensures ok (pure a : Raising ε O A α) Q tr ↔ Q a tr := Iff.rfl

theorem ensures_throw {e : ε} : Ensures ok (throw e : Raising ε O A α) Q tr := trivial

theorem ensures_halt : Ensures ok (halt : Raising ε O A α) Q tr := trivial

theorem ensures_raiseIf {c : Prop} [Decidable c] {e : ε} {Q : Unit → Trace O A → Prop}
    (hQ : ¬c → Q () tr) : Ensures ok (raiseIf c e : Raising ε O A Unit) Q tr :=
  meets_raiseIf_iff.2 ⟨fun _ => trivial, hQ⟩

theorem ensures_whenTrue {c : Prop} [Decidable c] {x : Raising ε O A Unit}
    {Q : Unit → Trace O A → Prop} (hx : c → Ensures ok x Q tr) (hQ : ¬c → Q () tr) :
    Ensures ok (whenTrue c x) Q tr :=
  meets_whenTrue_iff.2 ⟨hx, hQ⟩

theorem ensures_attempt {o : O} {f : A o → Except ε α} (hok : ok tr o)
    (hQ : ∀ r a, f r = .ok a → Q a (tr ++ [⟨o, r⟩])) : Ensures ok (attempt o f) Q tr := by
  refine meets_attempt_iff.2 ⟨hok, ?_⟩
  rintro r tr' rfl
  rcases hr : f r with e | a
  · trivial
  · exact hQ r a hr

theorem ensures_perform {o : O} {Q : A o → Trace O A → Prop} (hok : ok tr o)
    (hQ : ∀ r, Q r (tr ++ [⟨o, r⟩])) : Ensures ok (perform o : Raising ε O A (A o)) Q tr :=
  ensures_attempt hok fun r _ h => by cases h; exact hQ r

/-- Where every operation is permitted, every program ensures what always holds. -/
theorem ensures_any (hQ : ∀ a tr', Q a tr') : Ensures (fun _ _ => True) x Q tr := by
  unfold Ensures Meets
  generalize x.run = p
  induction p generalizing tr with
  | ret r =>
    cases r with
    | ok a => exact hQ a tr
    | error e => trivial
  | halt => trivial
  | call o k ih => exact ⟨trivial, fun r w _ => ih r⟩

theorem ensures_bind_iff {f : α → Raising ε O A β} {Q : β → Trace O A → Prop} :
    Ensures ok (x >>= f) Q tr ↔ Ensures ok x (fun a tr' => Ensures ok (f a) Q tr') tr :=
  meets_bind_iff

theorem Ensures.mono {Q' : α → Trace O A → Prop} (h : Ensures ok x Q tr)
    (hQ : ∀ a tr', Q a tr' → Q' a tr') : Ensures ok x Q' tr :=
  Meets.mono h (fun _ _ h => h) hQ fun _ _ h => h

theorem Ensures.weaken {ok' : Trace O A → O → Prop} (h : Ensures ok x Q tr)
    (hok : ∀ tr o, ok tr o → ok' tr o) : Ensures ok' x Q tr :=
  Meets.mono h hok (fun _ _ h => h) fun _ _ h => h

theorem Ensures.and {ok' : Trace O A → O → Prop} {Q' : α → Trace O A → Prop} (h : Ensures ok x Q tr)
    (h' : Ensures ok' x Q' tr) : Ensures ok x (fun a tr' => Q a tr' ∧ Q' a tr') tr := by
  refine (Prog.Sat.and h h').mono (fun _ _ h => h) fun r tr' both => ?_
  cases r with
  | ok a => exact both
  | error e => trivial

/-- A program only adds to the trace. -/
theorem Ensures.grows (h : Ensures ok x Q tr) : Ensures ok x (fun a tr' => tr <+: tr' ∧ Q a tr') tr := by
  unfold Ensures Meets at h ⊢
  have ended {tr tr' : Trace O A} {r : Except ε α} (pre : tr <+: tr')
      (h : ends Q (fun _ _ => True) r tr') :
      ends (fun a tr'' => tr <+: tr'' ∧ Q a tr'') (fun _ _ => True) r tr' := by
    cases r with
    | ok a => exact ⟨pre, h⟩
    | error e => trivial
  have whole (p : Prog O A (Except ε α)) {tr tr' : Trace O A} (pre : tr <+: tr')
      (h : p.Sat recording ok (ends Q fun _ _ => True) tr') :
      p.Sat recording ok (ends (fun a tr'' => tr <+: tr'' ∧ Q a tr'') fun _ _ => True) tr' := by
    induction p generalizing tr' with
    | ret r => exact ended pre h
    | halt => trivial
    | call o k ih =>
      refine ⟨h.1, fun r w hw => ih r ?_ (h.2 r w hw)⟩
      rw [show w = tr' ++ [⟨o, r⟩] from hw]
      exact pre.trans (List.prefix_append ..)
  exact whole x.run (List.prefix_refl tr) h

/-- Every operation of a run was permitted. -/
theorem Ensures.issued (h : Ensures ok x Q []) {pre post : Trace O A} {e : Event O A}
    {out : Outcome O (Except ε α)} (run : x.run.Runs (pre ++ e :: post) out) : ok pre e.1 :=
  Meets.permits h run (accepts_recording [] pre)

/-- What a run that returned says. -/
theorem Ensures.returned (h : Ensures ok x Q []) {tr : Trace O A} {a : α}
    (run : x.run.Runs tr (.returned (.ok a))) : Q a tr :=
  (Meets.of_runs h run (accepts_recording [] tr)).1 _ rfl

end Ensures

/-! ### Operations performed -/

/-- The program performs only operations that satisfy `P`. -/
def Performs (P : O → Prop) (x : Raising ε O A α) : Prop := x.run.Performs P

variable {P : O → Prop}

theorem performs_pure {a : α} : Performs P (pure a : Raising ε O A α) := trivial

theorem performs_throw {e : ε} : Performs P (throw e : Raising ε O A α) := trivial

theorem performs_halt : Performs P (halt : Raising ε O A α) := trivial

theorem performs_raiseIf {c : Prop} [Decidable c] {e : ε} :
    Performs P (raiseIf c e : Raising ε O A Unit) := by
  by_cases hc : c <;> simp only [raiseIf, hc, if_true, if_false] <;> trivial

theorem performs_attempt {o : O} {f : A o → Except ε α} (h : P o) : Performs P (attempt o f) :=
  ⟨h, fun _ => trivial⟩

theorem performs_perform {o : O} (h : P o) : Performs P (perform o : Raising ε O A (A o)) :=
  performs_attempt h

theorem Performs.bind {x : Raising ε O A α} {f : α → Raising ε O A β} (hx : Performs P x)
    (hf : ∀ a, Performs P (f a)) : Performs P (x >>= f) := by
  unfold Performs
  rw [run_bind]
  refine Prog.Performs.bind hx fun r => ?_
  cases r with
  | ok a => exact hf a
  | error e => trivial

/-- An invariant of the operations a program performs holds throughout. -/
theorem Performs.meets {x : Raising ε O A α} (hx : Performs P x) {I : W → Prop}
    (hok : ∀ w o, I w → P o → ok w o) (step : ∀ w o r w', I w → P o → env w o r w' → I w')
    (h : I w) : Meets env ok x (fun _ => I) (fun _ => I) w := by
  refine (Prog.Performs.sat hx hok step h).mono (fun _ _ h => h) fun r w' hw' => ?_
  cases r <;> exact hw'

/-- A program whose operations are always permitted adds only such operations to the trace. -/
theorem Performs.ensures {x : Raising ε O A α} (hx : Performs P x) {ok : Trace O A → O → Prop}
    {Q : α → Trace O A → Prop} {tr : Trace O A} (hok : ∀ tr o, P o → ok tr o)
    (hQ : ∀ a l, (∀ e ∈ l, P e.1) → Q a (tr ++ l)) : Ensures ok x Q tr := by
  have grows : Meets recording ok x (fun _ tr' => ∃ l, tr' = tr ++ l ∧ ∀ e ∈ l, P e.1)
      (fun _ tr' => ∃ l, tr' = tr ++ l ∧ ∀ e ∈ l, P e.1) tr := by
    refine hx.meets (fun tr' o _ => hok tr' o) ?_ ⟨[], (List.append_nil tr).symm, by simp⟩
    rintro _ o r _ ⟨l, rfl, hl⟩ ho rfl
    refine ⟨l ++ [⟨o, r⟩], List.append_assoc .., fun e he => ?_⟩
    rcases List.mem_append.1 he with he | he
    · exact hl e he
    · rwa [List.mem_singleton.1 he]
  refine Meets.mono grows (fun _ _ h => h) ?_ fun _ _ _ => trivial
  rintro a _ ⟨l, rfl, hl⟩
  exact hQ a l hl

/-! ### Exceptions -/

/-- The program raises only exceptions that satisfy `E`. -/
structure Throws (E : ε → Prop) (x : Raising ε O A α) : Prop where
  returns : x.run.Returns fun r => ∀ e, r = .error e → E e

section Throws

variable {E : ε → Prop}

theorem throws_pure {a : α} : Throws E (pure a : Raising ε O A α) := ⟨nofun⟩

theorem throws_throw {e : ε} (h : E e) : Throws E (throw e : Raising ε O A α) := by
  refine ⟨fun e' he => ?_⟩
  cases he
  exact h

theorem throws_halt : Throws E (halt : Raising ε O A α) := ⟨trivial⟩

theorem throws_raiseIf {c : Prop} [Decidable c] {e : ε} (h : E e) :
    Throws E (raiseIf c e : Raising ε O A Unit) := by
  by_cases hc : c <;> simp only [raiseIf, hc, if_true, if_false]
  · exact throws_throw h
  · exact throws_pure

theorem throws_whenTrue {c : Prop} [Decidable c] {x : Raising ε O A Unit} (hx : Throws E x) :
    Throws E (whenTrue c x) := by
  by_cases hc : c <;> simp only [whenTrue, hc, if_true, if_false]
  · exact hx
  · exact throws_pure

theorem throws_attempt {o : O} {f : A o → Except ε α} (h : ∀ r e, f r = .error e → E e) :
    Throws E (attempt o f) := ⟨h⟩

theorem throws_perform {o : O} : Throws E (perform o : Raising ε O A (A o)) := ⟨fun _ => nofun⟩

theorem Throws.bind {x : Raising ε O A α} {f : α → Raising ε O A β} (hx : Throws E x)
    (hf : ∀ a, Throws E (f a)) : Throws E (x >>= f) := by
  constructor
  rw [run_bind]
  refine Prog.Returns.bind hx.returns fun r hr => ?_
  cases r with
  | ok a => exact (hf a).returns
  | error e =>
    intro e' he
    cases he
    exact hr e rfl

theorem Throws.meets_and {x : Raising ε O A α} (hx : Throws E x) (h : Meets env ok x Q R w) :
    Meets env ok x Q (fun e w' => E e ∧ R e w') w := by
  refine (Prog.Returns.sat hx.returns h).mono (fun _ _ h => h) fun r w' hw => ?_
  cases r with
  | ok a => exact hw.2
  | error e => exact ⟨hw.1 e rfl, hw.2⟩

theorem Throws.meets {x : Raising ε O A α} (hx : Throws E x) (h : Meets env ok x Q R w) :
    Meets env ok x Q (fun e _ => E e) w :=
  (hx.meets_and h).mono (fun _ _ h => h) (fun _ _ h => h) fun _ _ h => h.1

end Throws

end Raising

/-! ## Programs with a memory -/

namespace Stateful

variable {env : Env O A W} {ok ok' : W → O → Prop}
variable {Q Q' : α → σ → W → Prop} {R R' : ε → σ → W → Prop} {s : σ} {w : W}

/-- The tree of a program started with the memory `s`. -/
def start (x : Stateful ε σ O A α) (s : σ) : Prog O A (Except ε α × σ) := x.run.run s

/-- Perform an operation, and read a value or an exception off its answer. -/
def attempt (o : O) (f : A o → Except ε α) : Stateful ε σ O A α :=
  ExceptT.mk fun s => .call o fun r => .ret (f r, s)

/-- Perform an operation whose answer is the value. -/
def perform (o : O) : Stateful ε σ O A (A o) := attempt o .ok

/-- A program without a memory, run beside one. -/
def lift (x : Raising ε O A α) : Stateful ε σ O A α :=
  ExceptT.mk fun s => x.run.bind fun r => .ret (r, s)

/-- Started with the memory `s`, the program meets `Q` when it returns and `R` when it raises. -/
def Keeps (env : Env O A W) (ok : W → O → Prop) (x : Stateful ε σ O A α) (Q : α → σ → W → Prop)
    (R : ε → σ → W → Prop) (s : σ) (w : W) : Prop :=
  (start x s).Sat env ok (fun r w' => ends (fun a => Q a r.2) (fun e => R e r.2) r.1 w') w

theorem keeps_pure_iff {a : α} :
    Keeps env ok (pure a : Stateful ε σ O A α) Q R s w ↔ Q a s w := Iff.rfl

theorem keeps_throw_iff {e : ε} :
    Keeps env ok (throw e : Stateful ε σ O A α) Q R s w ↔ R e s w := Iff.rfl

theorem keeps_raiseIf_iff {c : Prop} [Decidable c] {e : ε} {Q : Unit → σ → W → Prop} :
    Keeps env ok (raiseIf c e : Stateful ε σ O A Unit) Q R s w ↔ (c → R e s w) ∧ (¬c → Q () s w) := by
  by_cases hc : c <;> simp [raiseIf, hc, keeps_pure_iff, keeps_throw_iff]

theorem keeps_get_iff {Q : σ → σ → W → Prop} :
    Keeps env ok (get : Stateful ε σ O A σ) Q R s w ↔ Q s s w := Iff.rfl

theorem keeps_modify_iff {f : σ → σ} {Q : Unit → σ → W → Prop} :
    Keeps env ok (modify f : Stateful ε σ O A Unit) Q R s w ↔ Q () (f s) w := Iff.rfl

theorem keeps_set_iff {s' : σ} {Q : PUnit → σ → W → Prop} :
    Keeps env ok (set s' : Stateful ε σ O A PUnit) Q R s w ↔ Q ⟨⟩ s' w := Iff.rfl

theorem keeps_liftExcept_iff {x : Except ε α} :
    Keeps env ok (liftExcept x : Stateful ε σ O A α) Q R s w ↔ ends (fun a => Q a s) (fun e => R e s) x w := by
  cases x <;> rfl

theorem keeps_attempt_iff {o : O} {f : A o → Except ε α} :
    Keeps env ok (attempt o f) Q R s w ↔
      ok w o ∧ ∀ r w', env w o r w' → ends (fun a => Q a s) (fun e => R e s) (f r) w' := Iff.rfl

theorem keeps_perform_iff {o : O} {Q : A o → σ → W → Prop} :
    Keeps env ok (perform o : Stateful ε σ O A (A o)) Q R s w ↔
      ok w o ∧ ∀ r w', env w o r w' → Q r s w' := Iff.rfl

theorem keeps_lift_iff {x : Raising ε O A α} :
    Keeps env ok (lift x) Q R s w ↔ Raising.Meets env ok x (fun a => Q a s) (fun e => R e s) w :=
  Prog.sat_bind_iff

/-- Run a program, and give what it raises as a value. -/
def catching (x : Stateful ε σ O A α) : Stateful ε σ O A (Except ε α) :=
  ExceptT.mk fun s => (start x s).bind fun r => .ret (.ok r.1, r.2)

theorem keeps_catching_iff {x : Stateful ε σ O A α} {Q : Except ε α → σ → W → Prop} :
    Keeps env ok (catching x) Q R s w ↔
      Keeps env ok x (fun a => Q (.ok a)) (fun e => Q (.error e)) s w := by
  have post : (fun (r : Except ε α × σ) (w' : W) => (Prog.ret (.ok r.1, r.2) : Prog O A (Except ε (Except ε α) × σ)).Sat env ok
        (fun r w' => ends (fun a => Q a r.2) (fun e => R e r.2) r.1 w') w') =
      fun r w' => ends (fun a => Q (.ok a) r.2) (fun e => Q (.error e) r.2) r.1 w' := by
    funext ⟨r, s'⟩ w'
    cases r <;> rfl
  unfold Keeps
  rw [← post]
  exact Prog.sat_bind_iff

theorem start_bind (x : Stateful ε σ O A α) (f : α → Stateful ε σ O A β) (s : σ) :
    start (x >>= f) s = (start x s).bind fun
      | (.ok a, s') => start (f a) s'
      | (.error e, s') => .ret (.error e, s') := by
  unfold start
  rw [ExceptT.run_bind, StateT.run_bind, Prog.bind_eq]
  congr 1
  funext ⟨r, s'⟩
  cases r <;> rfl

theorem start_get_bind (f : σ → Stateful ε σ O A α) (s : σ) : start (get >>= f) s = start (f s) s := rfl

theorem start_raises {c : Prop} [Decidable c] (hc : c) (e : ε) (f : Unit → Stateful ε σ O A α) (s : σ) :
    start (raiseIf c e >>= f) s = .ret (.error e, s) := by
  rw [raiseIf, if_pos hc]
  rfl

theorem start_continues {c : Prop} [Decidable c] (hc : ¬c) (e : ε) (f : Unit → Stateful ε σ O A α) (s : σ) :
    start (raiseIf c e >>= f) s = start (f ()) s := by
  rw [raiseIf, if_neg hc]
  rfl

theorem keeps_bind_iff {x : Stateful ε σ O A α} {f : α → Stateful ε σ O A β}
    {Q : β → σ → W → Prop} :
    Keeps env ok (x >>= f) Q R s w ↔
      Keeps env ok x (fun a s' w' => Keeps env ok (f a) Q R s' w') R s w := by
  unfold Keeps
  rw [start_bind, Prog.sat_bind_iff]
  have post : (fun (r : Except ε α × σ) w' => (match r with
      | (.ok a, s') => start (f a) s'
      | (.error e, s') => .ret (.error e, s') : Prog O A (Except ε β × σ)).Sat env ok
        (fun r w' => ends (fun a => Q a r.2) (fun e => R e r.2) r.1 w') w') =
      fun r w' => ends (fun a w' => (start (f a) r.2).Sat env ok
        (fun r w' => ends (fun a => Q a r.2) (fun e => R e r.2) r.1 w') w')
        (fun e => R e r.2) r.1 w' := by
    funext ⟨r, s'⟩ w'
    cases r <;> rfl
  rw [← post]

theorem Keeps.mono {x : Stateful ε σ O A α} (h : Keeps env ok x Q R s w)
    (hok : ∀ w o, ok w o → ok' w o) (hQ : ∀ a s w, Q a s w → Q' a s w)
    (hR : ∀ e s w, R e s w → R' e s w) : Keeps env ok' x Q' R' s w :=
  Prog.Sat.mono h hok fun r => ends_mono (fun a => hQ a r.2) (fun e => hR e r.2) r.1

/-- Sequencing, with an intermediate assertion. -/
theorem Keeps.bind {x : Stateful ε σ O A α} {f : α → Stateful ε σ O A β} {Q : β → σ → W → Prop}
    {M : α → σ → W → Prop} (hx : Keeps env ok x M R s w)
    (hf : ∀ a s' w', M a s' w' → Keeps env ok (f a) Q R s' w') : Keeps env ok (x >>= f) Q R s w :=
  keeps_bind_iff.2 (hx.mono (fun _ _ h => h) hf fun _ _ _ h => h)

/-- What `Keeps` says about the runs that an environment accepts. -/
theorem Keeps.of_runs {x : Stateful ε σ O A α} (h : Keeps env ok x Q R s w) {tr : Trace O A}
    {out : Outcome O (Except ε α × σ)} {w' : W} (run : (start x s).Runs tr out)
    (acc : Accepts env w tr w') : (∀ a s', out = .returned (.ok a, s') → Q a s' w') ∧
      (∀ e s', out = .returned (.error e, s') → R e s' w') ∧ ∀ o, out = .killed o → ok w' o := by
  obtain ⟨returned, killed⟩ := Prog.Sat.of_runs h run acc
  exact ⟨fun a s' ho => returned _ ho, fun e s' ho => returned _ ho, killed⟩

/-- Every operation of a run was performed in a world that permits it. -/
theorem Keeps.permits {x : Stateful ε σ O A α} (h : Keeps env ok x Q R s w) {pre post : Trace O A}
    {e : Event O A} {out : Outcome O (Except ε α × σ)} {w' : W}
    (run : (start x s).Runs (pre ++ e :: post) out) (acc : Accepts env w pre w') : ok w' e.1 :=
  Prog.Sat.permits h run acc

/-- What every permitted operation leaves behind is there at the end of a run. -/
theorem Keeps.leaves {x : Stateful ε σ O A α} (h : Keeps env ok x Q R s w) {K : W → Prop}
    (step : ∀ w o r w', K w → ok w o → env w o r w' → K w') (hK : K w) {tr : Trace O A} {out : Outcome O (Except ε α × σ)}
    {w' : W} (run : (start x s).Runs tr out) (acc : Accepts env w tr w') : K w' :=
  Prog.Sat.leaves h step hK run acc

/-! ## Programs inside programs -/

/-- Carry out every operation of a program by a program of another signature, whose exceptions
interrupt the first one. -/
def interpret (h : (o : O) → Stateful ε σ O' A' (A o)) :
    Prog O A (Except ε α) → Stateful ε σ O' A' α
  | .ret r => ExceptT.mk fun s => .ret (r, s)
  | .halt => ExceptT.mk fun _ => .halt
  | .call o k => do
    let r ← h o
    interpret h (k r)

/-- If each permitted operation is carried out the way the first environment answers it, up to a
relation `B` between the worlds, the interpreted program inherits the postcondition. -/
theorem keeps_interpret {env : Env O A W} {ok : W → O → Prop} {env' : Env O' A' W'}
    {ok' : W' → O' → Prop} {h : (o : O) → Stateful ε σ O' A' (A o)} {B : W → σ → W' → Prop}
    {R : ε → σ → W' → Prop}
    (simulates : ∀ o w s w', B w s w' → ok w o → Keeps env' ok' (h o)
      (fun r s₁ w₁' => ∃ w₁, env w o r w₁ ∧ B w₁ s₁ w₁') R s w')
    {p : Prog O A (Except ε α)} {Q : α → W → Prop} {Q' : ε → W → Prop}
    (raises : ∀ e w s w', Q' e w → B w s w' → R e s w')
    {w : W} {s : σ} {w' : W'} (hp : p.Sat env ok (ends Q Q') w) (rel : B w s w') :
    Keeps env' ok' (interpret h p) (fun a s₁ w₁' => ∃ w₁, Q a w₁ ∧ B w₁ s₁ w₁') R s w' := by
  induction p generalizing w s w' with
  | ret r =>
    cases r with
    | ok a => exact ⟨w, hp, rel⟩
    | error e => exact raises e w s w' hp rel
  | halt => trivial
  | call o k ih =>
    refine keeps_bind_iff.2 ((simulates o w s w' rel hp.1).mono (fun _ _ h => h) ?_ fun _ _ _ h => h)
    intro r s₁ w₁' answered
    obtain ⟨w₁, step, rel₁⟩ := answered
    exact ih r (hp.2 r w₁ step) rel₁

/-- What every operation keeps, the interpreted program keeps. -/
theorem Keeps.interpret {env' : Env O' A' W'} {ok' : W' → O' → Prop} {h : (o : O) → Stateful ε σ O' A' (A o)}
    {I : σ → W' → Prop} (each : ∀ o s w, I s w → Keeps env' ok' (h o) (fun _ => I) (fun _ => I) s w)
    (p : Prog O A (Except ε α)) {s : σ} {w : W'} (hI : I s w) :
    Keeps env' ok' (interpret h p) (fun _ => I) (fun _ => I) s w := by
  induction p generalizing s w with
  | ret r => cases r <;> exact hI
  | halt => trivial
  | call o k ih => exact (each o s w hI).bind fun r s' w' hI' => ih r hI'

end Stateful

end Interaction
