import Zkdeal.Interaction.Raising

/-!
# Services

A service answers requests one at a time.  It has a memory, which is lost when the process is killed
or restarted and is then read back from the world.  Between two calls the world may drift.  `Run` are
the histories of a service: lists of calls, each with what it found, did and left.
-/

namespace Interaction

variable {R ε σ O : Type} {A : O → Type} {α W : Type}

/-- A call: its request, the memory and the world it found, what it did, and the world it left. -/
structure Call (R ε σ O : Type) (A : O → Type) (α W : Type) where
  request : R
  memory : σ
  before : W
  tr : Trace O A
  out : Outcome O (Except ε α × σ)
  after : W

/-- What answers a request, in what environment, and how a memory is read back. -/
structure Service (R ε σ O : Type) (A : O → Type) (α W : Type) where
  serve : R → Stateful ε σ O A α
  env : Env O A W
  load : W → σ
  initial : W → Prop
  drift : W → W → Prop

/-- The value of a call that returned one. -/
def Call.answer (c : Call R ε σ O A α W) : Option α :=
  match c.out with
  | .returned (.ok a, _) => some a
  | _ => none

theorem Call.answer_eq_some {c : Call R ε σ O A α W} {a : α} (h : c.answer = some a) :
    ∃ s, c.out = .returned (.ok a, s) := by
  unfold answer at h
  split at h
  · rename_i b s hout
    exact ⟨s, by rw [hout, Option.some.inj h]⟩
  · cases h

namespace Service

variable (S : Service R ε σ O A α W)

/-- The call is a run of the service that the environment accepts. -/
structure Valid (c : Call R ε σ O A α W) : Prop where
  run : ((S.serve c.request).start c.memory).Runs c.tr c.out
  answered : Accepts S.env c.before c.tr c.after

/-- The memory after a call. -/
def ended (c : Call R ε σ O A α W) : σ :=
  match c.out with
  | .returned (_, s) => s
  | _ => S.load c.after

/-- The histories of a service, with the memory and the world they end in. -/
inductive Run : List (Call R ε σ O A α W) → σ → W → Prop where
  | start {w : W} (h : S.initial w) : Run [] (S.load w) w
  | call {calls : List (Call R ε σ O A α W)} {c : Call R ε σ O A α W}
      (earlier : Run calls c.memory c.before) (valid : S.Valid c) : Run (calls ++ [c]) (S.ended c) c.after
  | restart {calls : List (Call R ε σ O A α W)} {s : σ} {w : W} (earlier : Run calls s w) :
      Run calls (S.load w) w
  | drift {calls : List (Call R ε σ O A α W)} {s : σ} {w w' : W} (earlier : Run calls s w)
      (step : S.drift w w') : Run calls s w'

variable {S}

/-- Every call of a history was made after a shorter history. -/
theorem Run.split {pre post : List (Call R ε σ O A α W)} {c : Call R ε σ O A α W} {s : σ} {w : W}
    (h : S.Run (pre ++ c :: post) s w) : S.Run pre c.memory c.before ∧ S.Valid c := by
  generalize hcalls : pre ++ c :: post = calls at h
  induction h generalizing post with
  | start _ => simp at hcalls
  | @call calls b earlier valid ih =>
    rcases List.eq_nil_or_concat post with rfl | ⟨post, d, rfl⟩
    · obtain ⟨rfl, rfl⟩ : pre = calls ∧ c = b := by simpa using hcalls
      exact ⟨earlier, valid⟩
    · rw [List.concat_eq_append, ← List.cons_append, ← List.append_assoc] at hcalls
      exact ih (List.append_inj_left' hcalls rfl)
  | restart _ ih => exact ih hcalls
  | drift _ _ ih => exact ih hcalls

/-- An invariant of the memory and the world that calls, restarts and drifts keep. -/
theorem Run.invariant {I : σ → W → Prop} {calls : List (Call R ε σ O A α W)} {s : σ} {w : W}
    (h : S.Run calls s w) (start : ∀ w, S.initial w → I (S.load w) w)
    (call : ∀ c ∈ calls, S.Valid c → I c.memory c.before → I (S.ended c) c.after)
    (restart : ∀ s w, I s w → I (S.load w) w) (drift : ∀ s w w', I s w → S.drift w w' → I s w') :
    I s w := by
  induction h with
  | start h => exact start _ h
  | call earlier valid ih =>
    exact call _ (by simp) valid (ih fun c hc => call c (List.mem_append_left _ hc))
  | restart earlier ih => exact restart _ _ (ih call)
  | drift earlier step ih => exact drift _ _ _ (ih call) step

/-- What holds before a call, and is kept from then on, holds before every later call. -/
theorem Run.stable {P : σ → W → Prop} {pre mid post : List (Call R ε σ O A α W)}
    {b c : Call R ε σ O A α W} {s : σ} {w : W} (h : S.Run (pre ++ b :: mid ++ c :: post) s w)
    (hb : P b.memory b.before) (call : ∀ d ∈ b :: mid, S.Valid d → P d.memory d.before →
      P (S.ended d) d.after) (restart : ∀ s w, P s w → P (S.load w) w)
    (drift : ∀ s w w', P s w → S.drift w w' → P s w') : P c.memory c.before := by
  have later : ∀ mid s w, S.Run (pre ++ b :: mid) s w → (∀ d ∈ b :: mid, S.Valid d →
      P d.memory d.before → P (S.ended d) d.after) → P s w := by
    intro mid s w h
    generalize hcalls : pre ++ b :: mid = calls at h
    induction h generalizing mid with
    | start _ => simp at hcalls
    | @call calls d earlier valid ih =>
      intro call
      rcases List.eq_nil_or_concat mid with rfl | ⟨mid, e, rfl⟩
      · obtain ⟨-, rfl⟩ : pre = calls ∧ b = d := by simpa using hcalls
        exact call b (by simp) valid hb
      · rw [List.concat_eq_append, ← List.cons_append, ← List.append_assoc] at hcalls
        obtain ⟨rfl, hde⟩ := List.append_inj' hcalls rfl
        obtain rfl : e = d := by simpa using hde
        exact call e (by simp) valid (ih mid rfl fun d hd => call d (by
          simp only [List.concat_eq_append, List.mem_cons, List.mem_append] at hd ⊢
          tauto))
    | restart _ ih => exact fun call => restart _ _ (ih mid hcalls call)
    | drift _ step ih => exact fun call => drift _ _ _ (ih mid hcalls call) step
  exact later mid _ _ h.split.1 call

/-! ## Played runs -/

section Play

variable {V : Type} (S) (answer : V → (o : O) → Option (A o × V)) (view : V → W)

/-- The call that a world gives rise to which answers by a function. -/
def called (r : R) (s : σ) (v : V) : Call R ε σ O A α W × V :=
  let p := ((S.serve r).start s).simulate answer v
  ({ request := r, memory := s, before := view v, tr := p.1, out := p.2.1, after := view p.2.2 }, p.2.2)

/-- The calls for a list of requests. -/
def play : List R → σ → V → List (Call R ε σ O A α W) × σ × V
  | [], s, v => ([], s, v)
  | r :: rs, s, v =>
    let c := S.called answer view r s v
    let rest := play rs (S.ended c.1) c.2
    (c.1 :: rest.1, rest.2)

variable {S answer}

theorem called_valid (h : ∀ v o r v', answer v o = some (r, v') → S.env (view v) o r (view v'))
    (r : R) (s : σ) (v : V) : S.Valid (S.called answer view r s v).1 where
  run := Prog.simulate_runs answer _ v
  answered := Prog.simulate_accepts h _ v

theorem play_run (h : ∀ v o r v', answer v o = some (r, v') → S.env (view v) o r (view v'))
    (rs : List R) {calls : List (Call R ε σ O A α W)} {s : σ} {v : V} (earlier : S.Run calls s (view v)) :
    S.Run (calls ++ (S.play answer view rs s v).1) (S.play answer view rs s v).2.1
      (view (S.play answer view rs s v).2.2) := by
  induction rs generalizing calls s v with
  | nil => rwa [play, List.append_nil]
  | cons r rs ih =>
    have called := Run.call (c := (S.called answer view r s v).1) earlier (called_valid view h r s v)
    have rest := ih (v := (S.called answer view r s v).2) called
    rwa [List.append_assoc] at rest

end Play

end Service

end Interaction
