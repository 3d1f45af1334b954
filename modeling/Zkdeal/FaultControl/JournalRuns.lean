import Zkdeal.FaultControl.Journal
import Zkdeal.Python.Sha256

/-!
# Runs of the fault-control journal

A run is a sequence of `Journal.execute` calls on one directory, each of which may be killed at
any operation.  `Progress` describes the directory and the callbacks run at every point of one
call; `Authored` is the invariant of whole runs: a closure was written under the newest key that
started its operation.
-/

namespace Zkdeal.FaultControl

open Interaction Python

/-! ## One call -/

/-- The operation whose callback an operation runs. -/
def Op.callbacks : Op → List String
  | .callback operationId => [operationId]
  | _ => []

/-- The operation ids for which a trace runs the callback. -/
def callbacks (tr : Trace Op Answer) : List String := tr.flatMap fun e => e.1.callbacks

/-- The journal directory, with the callbacks run so far. -/
def logged : Env Op Answer (Directory × List String) := fun w o r w' =>
  disk w.1 o r w'.1 ∧ w'.2 = w.2 ++ o.callbacks

theorem accepts_logged {d d' : Directory} {tr : Trace Op Answer} (h : Accepts disk d tr d')
    (ran : List String) : Accepts logged (d, ran) tr (d', ran ++ callbacks tr) := by
  induction h generalizing ran with
  | nil d =>
    rw [show ran ++ callbacks [] = ran from List.append_nil ran]
    exact .nil _
  | @cons d d₁ d₂ o r tr step rest ih =>
    have now_ : logged (d, ran) o r (d₁, ran ++ o.callbacks) := ⟨step, rfl⟩
    have later := ih (ran ++ o.callbacks)
    rw [List.append_assoc] at later
    exact .cons now_ later

/-- The record a file holds or was meant to hold. -/
def File.contents {α : Type} : File α → α
  | .torn r => r
  | .whole r => r

section Call

variable (sha256 : String → String) (q : Request) (d : Directory)

/-- The closure `f` was produced under the intent that the key of `q` addresses in `d`. -/
def ProducedUnder (f : File Closure) : Prop :=
  ∃ i : Intent, d (.intent (q.keyHash sha256)) = some (.whole i) ∧
    f.contents.intentSha256 = sha256 (canonicalBytes i.record)

/-- What holds at every point of a call of `execute q` that started in the directory `d`. -/
structure Progress (w : Directory × List String) : Prop where
  frame : ∀ p, p ≠ .intent (q.keyHash sha256) → p ≠ .closure (q.operationId sha256) → w.1 p = d p
  presented : d (.intent (q.keyHash sha256)) ≠ none → w = (d, [])
  ran : w.2 = [] ∨ w.2 = [q.operationId sha256] ∧
    ∃ i : Intent, w.1 (.intent (q.keyHash sha256)) = some (.whole i)
  closed : w.1 (.closure (q.operationId sha256)) = d (.closure (q.operationId sha256)) ∨
    d (.closure (q.operationId sha256)) = none ∧
      ∃ f, w.1 (.closure (q.operationId sha256)) = some f ∧ ProducedUnder sha256 q w.1 f

/-- The callback runs for the operation of the call, whose key had no intent, while the closure
is as the call found it. -/
def Permitted (w : Directory × List String) (o : Op) : Prop :=
  Progress sha256 q d w ∧ ∀ operationId, o = .callback operationId →
    operationId = q.operationId sha256 ∧ d (.intent (q.keyHash sha256)) = none ∧
      w.1 (.closure operationId) = d (.closure operationId)

/-- What a returned result says. -/
def Returns (r : Dict × Bool) (w : Directory × List String) : Prop :=
  Progress sha256 q d w ∧ (r.2 = true → ∃ f g, d (.intent (q.keyHash sha256)) = some f ∧
    d (.closure (q.operationId sha256)) = some g ∧
    r.1 = answerWith g.contents.publicResult (q.operationId sha256)
      (sha256 (canonicalBytes g.contents.record)) g.contents.correlationId)

/-- What a raised exception says. -/
def Raises (e : Raised) (w : Directory × List String) : Prop :=
  Progress sha256 q d w ∧ ((∃ m s, e = .control m s "JOURNAL_CONFLICT") →
    w.2 = [] ∨ d (.closure (q.operationId sha256)) ≠ none)

variable {sha256 q d}

theorem progress_initial : Progress sha256 q d (d, []) where
  frame _ _ _ := rfl
  presented _ := rfl
  ran := .inl rfl
  closed := .inl rfl

/-- Away from the callback, only the progress of the call matters. -/
theorem Progress.permitted {w : Directory × List String} (h : Progress sha256 q d w) {o : Op}
    (ho : o.callbacks = []) : Permitted sha256 q d w o :=
  ⟨h, fun operationId e => by subst e; cases ho⟩

theorem Progress.raises {w : Directory × List String} (h : Progress sha256 q d w) {e : Raised}
    (he : ∀ m s, e ≠ .control m s "JOURNAL_CONFLICT") : Raises sha256 q d e w :=
  ⟨h, fun ⟨m, s, hm⟩ => absurd hm (he m s)⟩

/-- While the intent of a new key is being written, nothing else has happened. -/
theorem progress_intent (hd : d (.intent (q.keyHash sha256)) = none) (f : Option (File Intent)) :
    Progress sha256 q d (d.set (.intent (q.keyHash sha256)) f, []) where
  frame p hp _ := Directory.set_of_ne hp
  presented h := absurd hd h
  ran := .inl rfl
  closed := .inl (by simp)

/-- Once the intent is written, the callback may run. -/
theorem progress_started (hd : d (.intent (q.keyHash sha256)) = none) (i : Intent) {ran : List String}
    (hran : ran = [] ∨ ran = [q.operationId sha256]) :
    Progress sha256 q d (d.set (.intent (q.keyHash sha256)) (some (.whole i)), ran) where
  frame p hp _ := Directory.set_of_ne hp
  presented h := absurd hd h
  ran := hran.imp_right fun h => ⟨h, i, by simp⟩
  closed := .inl (by simp)

/-- While the closure of an operation without one is being written. -/
theorem progress_closing (hd : d (.intent (q.keyHash sha256)) = none)
    (hc : d (.closure (q.operationId sha256)) = none) (i : Intent) {f : Option (File Closure)}
    (hf : ∀ g, f = some g → g.contents.intentSha256 = sha256 (canonicalBytes i.record)) :
    Progress sha256 q d ((d.set (.intent (q.keyHash sha256)) (some (.whole i))).set
      (.closure (q.operationId sha256)) f, [q.operationId sha256]) where
  frame p hp hp' := (Directory.set_of_ne hp').trans (Directory.set_of_ne hp)
  presented h := absurd hd h
  ran := .inr ⟨rfl, i, by simp⟩
  closed := by
    cases hg : f with
    | none => exact .inl (by simp [hc])
    | some g => exact .inr ⟨hc, g, by simp, i, by simp, hf g hg⟩

/-! ### The operations -/

section Rules

variable {α : Type} {ok : Directory × List String → Op → Prop} {R : Raised → Directory × List String → Prop}
  {w : Directory × List String}

theorem meets_pathExists {p : Path} {Q : Bool → Directory × List String → Prop}
    (hok : ok w (.exists p)) (hQ : Q (w.1 p).isSome w) :
    Raising.Meets logged ok (pathExists p) Q R w := by
  refine ⟨hok, ?_⟩
  rintro r ⟨d', ran⟩ ⟨⟨rfl, rfl⟩, hran⟩
  rw [show ran = w.2 from hran.trans (List.append_nil _)]
  exact hQ

theorem meets_utcNow {Q : String → Directory × List String → Prop} (hok : ok w .utcNow)
    (hQ : ∀ t, Q t w) : Raising.Meets logged ok utcNow Q R w := by
  refine ⟨hok, ?_⟩
  rintro r ⟨d', ran⟩ ⟨rfl, hran⟩
  rw [show ran = w.2 from hran.trans (List.append_nil _)]
  exact hQ r

theorem meets_readRecord {p : Path} {Q : p.Record → Directory × List String → Prop}
    (hok : ok w (.readRecord p)) (hQ : ∀ a, Readable w.1 p (.ok a) → Q a w)
    (hR : ∀ e, Readable w.1 p (.error e) → R e w) :
    Raising.Meets logged ok (readRecord p) Q R w := by
  refine ⟨hok, ?_⟩
  rintro r ⟨d', ran⟩ ⟨⟨hr, rfl⟩, hran⟩
  rw [show ran = w.2 from hran.trans (List.append_nil _)]
  cases r with
  | ok a => exact hQ a hr
  | error e => exact hR e hr

theorem meets_readBytes {p : Path} {Q : String → Directory × List String → Prop}
    (hok : ok w (.readBytes p))
    (hQ : ∀ text, (∀ a, w.1 p = some (.whole a) → text = canonicalBytes (p.json a)) → Q text w)
    (hR : R .other w) : Raising.Meets logged ok (readBytes p) Q R w := by
  refine ⟨hok, ?_⟩
  rintro (e | text) ⟨d', ran⟩ ⟨step, hran⟩
  · obtain ⟨rfl, rfl⟩ := step
    rw [show ran = w.2 from hran.trans (List.append_nil _)]
    exact hR
  · obtain ⟨htext, rfl⟩ := step
    rw [show ran = w.2 from hran.trans (List.append_nil _)]
    exact hQ text htext

theorem meets_callback {operationId : String} {Q : Dict × Dict → Directory × List String → Prop}
    (hok : ok w (.callback operationId)) (hQ : ∀ r, Q r (w.1, w.2 ++ [operationId]))
    (hR : ∀ e, (∀ m s, e ≠ .control m s "JOURNAL_CONFLICT") → R e (w.1, w.2 ++ [operationId])) :
    Raising.Meets logged ok (callback operationId) Q R w := by
  refine ⟨hok, ?_⟩
  rintro (e | r) ⟨d', ran⟩ ⟨step, rfl⟩
  · obtain ⟨he, rfl⟩ := step
    exact hR e he
  · obtain rfl := step
    exact hQ r

/-- `durable_create` either finds the file, or leaves it absent or torn, or writes it. -/
theorem meets_durableCreate {p : Path} {r : p.Record} {Q : String → Directory × List String → Prop}
    (hopen : ok w (.openExclusive p r))
    (hexists : w.1 p ≠ none → ∀ m s, R (.control m s "JOURNAL_CONFLICT") w)
    (hfailed : R .other w)
    (hwrite : w.1 p = none → ok (w.1.set p (some (.torn r)), w.2) (.write p r))
    (hunlink : w.1 p = none → ok (w.1.set p (some (.torn r)), w.2) (.unlink p))
    (hremoved : w.1 p = none → R .other (w.1.set p none, w.2))
    (hQ : w.1 p = none → Q (sha256 (canonicalBytes (p.json r)))
      (w.1.set p (some (.whole r)), w.2)) :
    Raising.Meets logged ok (durableCreate sha256 p r) Q R w := by
  obtain ⟨d, ran⟩ := w
  refine Raising.meets_bind_iff.2 ⟨hopen, ?_⟩
  rintro how ⟨d₁, ran₁⟩ ⟨step, hran⟩
  obtain rfl : ran₁ = ran := hran.trans (List.append_nil _)
  cases how with
  | fileExists =>
    obtain ⟨he, rfl⟩ := step
    exact hexists he _ _
  | failed =>
    obtain rfl := step
    exact hfailed
  | opened =>
    obtain ⟨hnone, rfl⟩ := step
    refine Raising.meets_bind_iff.2 ⟨hwrite hnone, ?_⟩
    rintro (e | u) ⟨d₂, ran₂⟩ ⟨step, hran⟩ <;>
      obtain rfl : ran₂ = ran₁ := hran.trans (List.append_nil _)
    · obtain ⟨rfl, rfl⟩ := step
      refine Raising.meets_bind_iff.2 ⟨hunlink hnone, ?_⟩
      rintro u ⟨d₃, ran₃⟩ ⟨step, hran⟩
      obtain rfl : ran₃ = ran₂ := hran.trans (List.append_nil _)
      obtain rfl := step
      rw [Directory.set_set]
      exact hremoved hnone
    · obtain rfl := step
      rw [Directory.set_set]
      exact hQ hnone

end Rules

/-! ### The call -/

/-- A readable file is the one at the path. -/
theorem Readable.contents {p : Path} {r : p.Record} (h : Readable d p (.ok r)) :
    ∃ f, d p = some f ∧ r = f.contents := by
  unfold Readable at h
  rcases hp : d p with _ | f
  · rw [hp] at h
    cases h
  · rw [hp] at h
    cases f with
    | torn a =>
      rcases h with h | h
      · cases h
      · exact ⟨_, rfl, Except.ok.inj h⟩
    | whole a =>
      dsimp only at h
      split at h
      · cases h
      · exact ⟨_, rfl, Except.ok.inj h⟩

theorem Readable.ne_conflict {p : Path} {e : Raised} (h : Readable d p (.error e)) (m : String) (s : ℕ) :
    e ≠ .control m s "JOURNAL_CONFLICT" := by
  rintro rfl
  unfold Readable at h
  split at h
  · simp at h
  · simp [invalidRequest] at h
  · split at h <;> simp at h

theorem replay_meets : Raising.Meets logged (Permitted sha256 q d) (replay sha256 q)
    (Returns sha256 q d) (Raises sha256 q d) (d, []) := by
  have here : Progress sha256 q d (d, []) := progress_initial
  unfold replay
  refine Raising.meets_bind_iff.2 (meets_readRecord (here.permitted rfl) (fun intent hi => ?_)
    fun e he => here.raises he.ne_conflict)
  obtain ⟨f, hf, rfl⟩ := hi.contents
  refine Raising.meets_bind_iff.2 (Raising.meets_raiseIf_iff.2 ⟨fun _ => here.raises (by simp), ?_⟩)
  intro _
  refine Raising.meets_bind_iff.2 (meets_pathExists (here.permitted rfl) ?_)
  refine Raising.meets_bind_iff.2 (Raising.meets_raiseIf_iff.2 ⟨fun _ => here.raises (by simp), ?_⟩)
  intro _
  refine Raising.meets_bind_iff.2 (meets_readRecord (here.permitted rfl) (fun closure hc => ?_)
    fun e he => here.raises he.ne_conflict)
  obtain ⟨g, hg, rfl⟩ := hc.contents
  exact ⟨here, fun _ => ⟨f, g, hf, hg, rfl⟩⟩

theorem start_meets (hd : d (.intent (q.keyHash sha256)) = none) :
    Raising.Meets logged (Permitted sha256 q d) (start sha256 q) (Returns sha256 q d)
      (Raises sha256 q d) (d, []) := by
  have here : Progress sha256 q d (d, []) := progress_initial
  unfold start
  refine Raising.meets_bind_iff.2 (meets_utcNow (here.permitted rfl) fun startedAt => ?_)
  refine Raising.meets_bind_iff.2 (meets_durableCreate (here.permitted rfl)
    (fun h => absurd hd h) (here.raises (by simp))
    (fun _ => (progress_intent hd _).permitted rfl) (fun _ => (progress_intent hd _).permitted rfl)
    (fun _ => (progress_intent hd _).raises (by simp)) fun _ => ?_)
  -- The intent is durable: the callback runs once, whatever happens next.
  have started := progress_started hd (q.intent sha256 startedAt) (.inl (Eq.refl []))
  have ran := progress_started hd (q.intent sha256 startedAt) (.inr (Eq.refl [q.operationId sha256]))
  refine Raising.meets_bind_iff.2 (meets_callback ⟨started, ?_⟩ ?_ fun e he => ran.raises he)
  · rintro operationId ⟨⟩
    exact ⟨rfl, hd, by simp⟩
  rintro ⟨publicResult, privateResult⟩
  refine Raising.meets_bind_iff.2 (meets_readBytes (ran.permitted rfl) (fun text htext => ?_)
    (ran.raises (by simp)))
  obtain rfl := htext _ (by simp; rfl)
  refine Raising.meets_bind_iff.2 (meets_utcNow (ran.permitted rfl) fun completedAt => ?_)
  have closing := fun hc (f : Option (File Closure)) hf =>
    progress_closing (q := q) hd hc (q.intent sha256 startedAt) (f := f) hf
  refine Raising.meets_bind_iff.2 (meets_durableCreate (ran.permitted rfl)
    (fun h => fun m s => ⟨ran, fun _ => .inr (by simpa using h)⟩) (ran.raises (by simp))
    (fun hc => (closing (by simpa using hc) _ ?_).permitted rfl)
    (fun hc => (closing (by simpa using hc) _ ?_).permitted rfl)
    (fun hc => (closing (by simpa using hc) _ ?_).raises (by simp))
    fun hc => ⟨closing (by simpa using hc) _ ?_, ?_⟩)
  · rintro g ⟨⟩
    rfl
  · rintro g ⟨⟩
    rfl
  · rintro g ⟨⟩
  · rintro g ⟨⟩
    rfl
  · rintro ⟨⟩

theorem execute_meets : Raising.Meets logged (Permitted sha256 q d) (execute sha256 q)
    (Returns sha256 q d) (Raises sha256 q d) (d, []) := by
  have here : Progress sha256 q d (d, []) := progress_initial
  unfold execute
  refine Raising.meets_bind_iff.2 (Raising.meets_raiseIf_iff.2
    ⟨fun _ => here.raises (by simp [invalidRequest]), fun _ => ?_⟩)
  refine Raising.meets_bind_iff.2 (meets_pathExists (here.permitted rfl) ?_)
  split
  · exact replay_meets
  · rename_i hd
    exact start_meets (by simpa using hd)

end Call

/-! ## Sequences of calls -/

/-- A call of `Journal.execute`, the directory it found and the one it left. -/
structure Call where
  request : Request
  before : Directory
  trace : Trace Op Answer
  outcome : Outcome Op (Except Raised (Dict × Bool))
  after : Directory

section Runs

variable (sha256 : String → String)

/-- The call is a run of `execute`, observed until it returned or was killed. -/
structure Call.Valid (c : Call) : Prop where
  run : (execute sha256 c.request).run.Runs c.trace c.outcome
  answered : Accepts disk c.before c.trace c.after
  ended : c.outcome ≠ .running

/-- The call created the intent of its key. -/
def Call.starts (c : Call) : Bool :=
  (c.before (.intent (c.request.keyHash sha256))).isNone &&
    (c.after (.intent (c.request.keyHash sha256))).isSome

/-- Sequences of calls, from an empty directory; the process may be killed and restarted between
and inside calls. -/
inductive Run : List Call → Directory → Prop where
  | start : Run [] fun _ => none
  | call {calls : List Call} {d : Directory} (earlier : Run calls d) {c : Call} (found : c.before = d)
      (valid : c.Valid sha256) : Run (calls ++ [c]) c.after

/-- The hash of the key that last started an operation. -/
def newestKey (calls : List Call) (operationId : String) : Option String :=
  (calls.reverse.find? fun c => c.starts sha256 && c.request.operationId sha256 == operationId).map
    fun c => c.request.keyHash sha256

/-- A new key is presented for an operation only while that has no closure, and once it has one,
only the key that last started the operation is presented for it. -/
def KeyIsCurrent (calls : List Call) (c : Call) : Prop :=
  (c.before (.intent (c.request.keyHash sha256)) = none →
    c.before (.closure (c.request.operationId sha256)) = none) ∧
  (c.before (.intent (c.request.keyHash sha256)) ≠ none →
    c.before (.closure (c.request.operationId sha256)) ≠ none →
      newestKey sha256 calls (c.request.operationId sha256) = some (c.request.keyHash sha256))

/-- The journal runs every fault at most once and replays to a key only its own closure. -/
structure AtMostOnce (calls : List Call) : Prop where
  once_per_key : ∀ key, ((calls.filter fun c => c.request.idempotencyKey == key).flatMap
    fun c => callbacks c.trace).length ≤ 1
  not_after_closure : ∀ c ∈ calls, ∀ pre operationId r post d,
    c.trace = pre ++ ⟨.callback operationId, r⟩ :: post → Accepts disk c.before pre d →
      d (.closure operationId) = none
  conflict_without_callback : ∀ c ∈ calls, ∀ m s,
    c.outcome = .returned (.error (.control m s "JOURNAL_CONFLICT")) → callbacks c.trace = []
  replays_own_closure : ∀ c ∈ calls, ∀ response, c.outcome = .returned (.ok (response, true)) →
    ∃ f, c.before (.closure (c.request.operationId sha256)) = some f ∧
      response = answerWith f.contents.publicResult (c.request.operationId sha256)
        (sha256 (canonicalBytes f.contents.record)) f.contents.correlationId ∧
      ProducedUnder sha256 c.request c.before f

variable {sha256}

theorem Call.Valid.progress {c : Call} (h : c.Valid sha256) :
    Progress sha256 c.request c.before (c.after, callbacks c.trace) := by
  obtain ⟨returned, killed⟩ := execute_meets.of_runs h.run (accepts_logged h.answered [])
  cases ho : c.outcome with
  | returned r =>
    have post := returned r ho
    cases r with
    | ok a => exact post.1
    | error e => exact post.1
  | killed o => exact (killed o ho).1
  | running => exact absurd ho h.ended

/-- Presenting a key again changes nothing. -/
theorem Call.Valid.after_eq {c : Call} (h : c.Valid sha256)
    (hk : c.before (.intent (c.request.keyHash sha256)) ≠ none) : c.after = c.before :=
  congrArg Prod.fst (h.progress.presented hk)

/-- An intent stays as it was written. -/
theorem Call.Valid.intent_kept {c : Call} (h : c.Valid sha256) {keyHash : String}
    (hk : c.before (.intent keyHash) ≠ none) :
    c.after (.intent keyHash) = c.before (.intent keyHash) := by
  by_cases he : Path.intent keyHash = .intent (c.request.keyHash sha256)
  · rw [he] at hk ⊢
    rw [h.after_eq hk]
  · exact h.progress.frame _ he (by simp)

theorem Call.Valid.callbacks_eq_nil {c : Call} (h : c.Valid sha256)
    (hk : c.before (.intent (c.request.keyHash sha256)) ≠ none) : callbacks c.trace = [] :=
  congrArg Prod.snd (h.progress.presented hk)

theorem newestKey_append (calls : List Call) (c : Call) (operationId : String) :
    newestKey sha256 (calls ++ [c]) operationId =
      if c.starts sha256 = true ∧ c.request.operationId sha256 = operationId then
        some (c.request.keyHash sha256)
      else newestKey sha256 calls operationId := by
  unfold newestKey
  rw [List.reverse_append, List.reverse_singleton, List.singleton_append, List.find?_cons]
  split_ifs with h
  · simp [h]
  · have : (c.starts sha256 && c.request.operationId sha256 == operationId) = false := by
      simpa using h
    rw [this]

/-- The invariant of runs: a closure was produced under the key that last started its
operation. -/
def Authored (sha256 : String → String) (calls : List Call) (d : Directory) : Prop :=
  ∀ operationId f, d (.closure operationId) = some f →
    ∃ keyHash i, newestKey sha256 calls operationId = some keyHash ∧
      d (.intent keyHash) = some (.whole i) ∧
      f.contents.intentSha256 = sha256 (canonicalBytes i.record)

/-- A call that presents its key as required keeps the invariant. -/
theorem Authored.call {calls : List Call} {c : Call} (h : Authored sha256 calls c.before)
    (valid : c.Valid sha256) (current : KeyIsCurrent sha256 calls c) :
    Authored sha256 (calls ++ [c]) c.after := by
  intro operationId f hf
  by_cases hop : operationId = c.request.operationId sha256
  · subst hop
    rcases valid.progress.closed with same | ⟨hnone, g, hg, i, hi, hsha⟩
    · -- The closure was there: the key is presented again, and nothing changes.
      rw [show c.after _ = _ from same] at hf
      have presented : c.before (.intent (c.request.keyHash sha256)) ≠ none := fun hn => by
        rw [current.1 hn] at hf
        cases hf
      obtain ⟨keyHash, i, hnew, hi, hsha⟩ := h _ f hf
      refine ⟨keyHash, i, ?_, ?_, hsha⟩
      · rw [newestKey_append, if_neg, hnew]
        rintro ⟨hs, -⟩
        rw [Call.starts, Option.isNone_iff_eq_none.not.2 presented |> Bool.eq_false_iff.2] at hs
        simp at hs
      · rw [valid.intent_kept (by rw [hi]; simp), hi]
    · -- The call wrote it, under the intent it had just written.
      obtain rfl : f = g := by
        rw [show c.after _ = _ from hg] at hf
        exact (Option.some.inj hf).symm
      have fresh : c.before (.intent (c.request.keyHash sha256)) = none := by
        by_contra hne
        rw [valid.after_eq hne, hnone] at hf
        cases hf
      refine ⟨c.request.keyHash sha256, i, ?_, hi, hsha⟩
      rw [newestKey_append, if_pos]
      refine ⟨?_, rfl⟩
      rw [Call.starts, fresh, show c.after _ = _ from hi]
      rfl
  · have same : c.after (.closure operationId) = c.before (.closure operationId) :=
      valid.progress.frame _ (by simp) (by simpa using hop)
    rw [same] at hf
    obtain ⟨keyHash, i, hnew, hi, hsha⟩ := h _ f hf
    refine ⟨keyHash, i, ?_, ?_, hsha⟩
    · rw [newestKey_append, if_neg fun hc => hop hc.2.symm, hnew]
    · rw [valid.intent_kept (by rw [hi]; simp), hi]

/-- A key that ran a callback has an intent. -/
theorem Run.intents {calls : List Call} {d : Directory} (h : Run sha256 calls d) :
    ∀ c ∈ calls, callbacks c.trace ≠ [] → d (.intent (c.request.keyHash sha256)) ≠ none := by
  induction h with
  | start => simp
  | @call calls d earlier c found valid ih =>
    subst found
    intro b hb hran
    rw [List.mem_append, List.mem_singleton] at hb
    rcases hb with hb | rfl
    · rw [valid.intent_kept (ih b hb hran)]
      exact ih b hb hran
    · rcases valid.progress.ran with hnone | ⟨-, i, hi⟩
      · exact absurd hnone hran
      · rw [show b.after (.intent (b.request.keyHash sha256)) = _ from hi]
        simp

/-- Whatever the keys and operations presented, a key runs at most one callback. -/
theorem Run.once_per_key {calls : List Call} {d : Directory} (h : Run sha256 calls d) (key : String) :
    ((calls.filter fun c => c.request.idempotencyKey == key).flatMap
      fun c => callbacks c.trace).length ≤ 1 := by
  induction h with
  | start => simp
  | @call calls d earlier c found valid ih =>
    subst found
    rw [List.filter_append, List.flatMap_append, List.length_append]
    by_cases hkey : c.request.idempotencyKey = key
    · by_cases hk : c.before (.intent (c.request.keyHash sha256)) = none
      · -- A new key: no earlier call under it ran its callback.
        have none_ran : ((calls.filter fun c => c.request.idempotencyKey == key).flatMap
            fun c => callbacks c.trace) = [] := by
          rw [List.flatMap_eq_nil_iff]
          intro b hb
          rw [List.mem_filter, beq_iff_eq] at hb
          by_contra hran
          refine earlier.intents b hb.1 hran ?_
          rwa [Request.keyHash, hb.2, ← hkey]
        rw [none_ran, List.filter_singleton]
        rcases valid.progress.ran with hnone | ⟨hone, -⟩
        · simp [hkey, show callbacks c.trace = [] from hnone]
        · simp [hkey, show callbacks c.trace = _ from hone]
      · simpa [hkey, valid.callbacks_eq_nil hk] using ih
    · simpa [hkey] using ih

theorem Run.split {pre post : List Call} {c : Call} {d : Directory}
    (h : Run sha256 (pre ++ c :: post) d) : Run sha256 pre c.before ∧ c.Valid sha256 := by
  induction post using List.reverseRecOn generalizing d with
  | nil =>
    generalize hcalls : pre ++ [c] = calls at h
    cases h with
    | start => simp at hcalls
    | call earlier found valid =>
      obtain ⟨rfl, hc⟩ := List.append_inj' hcalls rfl
      obtain rfl := List.singleton_inj.1 hc
      exact ⟨found ▸ earlier, valid⟩
  | append_singleton post b ih =>
    generalize hcalls : pre ++ c :: (post ++ [b]) = calls at h
    cases h with
    | start => simp at hcalls
    | call earlier found valid =>
      rw [← List.cons_append, ← List.append_assoc] at hcalls
      obtain ⟨rfl, -⟩ := List.append_inj' hcalls rfl
      exact ih earlier

theorem Run.authored {calls : List Call} {d : Directory} (h : Run sha256 calls d)
    (current : ∀ pre c, pre ++ [c] <+: calls → KeyIsCurrent sha256 pre c) :
    Authored sha256 calls d := by
  induction h with
  | start => intro _ _ h; cases h
  | @call calls d earlier c found valid ih =>
    subst found
    exact (ih fun pre b hb => current pre b (hb.trans (List.prefix_append _ _))).call valid
      (current calls c (List.prefix_refl _))

/-- The journal meets its contract in every run in which keys are presented as `KeyIsCurrent`
says. -/
theorem journal_atMostOnce {calls : List Call} {d : Directory} (h : Run sha256 calls d)
    (current : ∀ pre c, pre ++ [c] <+: calls → KeyIsCurrent sha256 pre c) :
    AtMostOnce sha256 calls := by
  have at_call : ∀ c ∈ calls, c.Valid sha256 ∧ ∃ pre, KeyIsCurrent sha256 pre c ∧
      Authored sha256 pre c.before := by
    intro c hc
    obtain ⟨pre, post, rfl⟩ := List.append_of_mem hc
    obtain ⟨earlier, valid⟩ := h.split
    have prior : pre ++ [c] <+: pre ++ c :: post := ⟨post, by simp⟩
    exact ⟨valid, pre, current pre c prior, earlier.authored fun p b hb =>
      current p b (hb.trans ((List.prefix_append pre [c]).trans prior))⟩
  refine ⟨h.once_per_key, ?_, ?_, ?_⟩
  · intro c hc pre operationId r post d' htr hd'
    obtain ⟨valid, earlier, isCurrent, -⟩ := at_call c hc
    have permitted := execute_meets.permits (htr ▸ valid.run) (accepts_logged hd' [])
    obtain ⟨rfl, fresh, same⟩ := permitted.2 operationId rfl
    exact same.trans (isCurrent.1 fresh)
  · intro c hc m s hout
    obtain ⟨valid, earlier, isCurrent, -⟩ := at_call c hc
    have raised := (execute_meets.of_runs valid.run (accepts_logged valid.answered [])).1 _ hout
    rcases raised.2 ⟨m, s, rfl⟩ with hnone | hclosed
    · exact hnone
    · exact valid.callbacks_eq_nil fun fresh => hclosed (isCurrent.1 fresh)
  · intro c hc response hout
    obtain ⟨valid, earlier, isCurrent, authored⟩ := at_call c hc
    have returned := (execute_meets.of_runs valid.run (accepts_logged valid.answered [])).1 _ hout
    obtain ⟨f, g, hf, hg, hresponse⟩ := returned.2 rfl
    refine ⟨g, hg, hresponse, ?_⟩
    obtain ⟨keyHash, i, hnew, hi, hsha⟩ := authored _ g hg
    rw [isCurrent.2 (by rw [hf]; simp) (by rw [hg]; simp)] at hnew
    obtain rfl := Option.some.inj hnew
    exact ⟨i, hi, hsha⟩

end Runs

/-! ## Two keys for one operation -/

section Repeated

variable (sha256 : String → String) (q : Request) (result : Dict × Dict) (now : String)

/-- The closure that `q` writes when it started at `now` and its callback returned at once. -/
def Request.closureAt : Closure :=
  q.closure sha256 (sha256 (canonicalBytes (q.intent sha256 now).record)) now result.1 result.2

/-- The operations of a fresh call whose callback returned, up to the creation of the closure. -/
def startedTrace : Trace Op Answer := [
  ⟨.exists (.intent (q.keyHash sha256)), false⟩,
  ⟨.utcNow, now⟩,
  ⟨.openExclusive (.intent (q.keyHash sha256)) (q.intent sha256 now), .opened⟩,
  ⟨.write (.intent (q.keyHash sha256)) (q.intent sha256 now), .ok ()⟩,
  ⟨.callback (q.operationId sha256), .ok result⟩,
  ⟨.readBytes (.intent (q.keyHash sha256)), .ok (canonicalBytes (q.intent sha256 now).record)⟩,
  ⟨.utcNow, now⟩]

/-- The directory at the end of `startedTrace`. -/
def startedDirectory (d : Directory) : Directory :=
  d.set (.intent (q.keyHash sha256)) (some (.whole (q.intent sha256 now)))

/-- A call whose key is new, for an operation without a closure. -/
def completedCall (d : Directory) : Call where
  request := q
  before := d
  trace := startedTrace sha256 q result now ++ [
    ⟨.openExclusive (.closure (q.operationId sha256)) (q.closureAt sha256 result now), .opened⟩,
    ⟨.write (.closure (q.operationId sha256)) (q.closureAt sha256 result now), .ok ()⟩]
  outcome := .returned (.ok (answerWith result.1 (q.operationId sha256)
    (sha256 (canonicalBytes (q.closureAt sha256 result now).record)) q.correlationId, false))
  after := (startedDirectory sha256 q now d).set (.closure (q.operationId sha256))
    (some (.whole (q.closureAt sha256 result now)))

/-- A call whose key is new, for an operation that has a closure. -/
def repeatedCall (d : Directory) : Call where
  request := q
  before := d
  trace := startedTrace sha256 q result now ++ [
    ⟨.openExclusive (.closure (q.operationId sha256)) (q.closureAt sha256 result now), .fileExists⟩]
  outcome := .returned (.error (.control ("write-once journal record already exists: " ++
    (Path.closure (q.operationId sha256)).name) 409 "JOURNAL_CONFLICT"))
  after := startedDirectory sha256 q now d

variable {sha256 q result now}

theorem execute_eq_of_isIdempotencyKey (hkey : isIdempotencyKey q.idempotencyKey = true) :
    execute sha256 q = (do
      if (← pathExists (.intent (q.keyHash sha256))) = true then replay sha256 q
      else start sha256 q) := by
  unfold execute raiseIf
  rw [if_neg (by simp [hkey]), pure_bind]

theorem accepts_startedTrace {d : Directory} (hk : d (.intent (q.keyHash sha256)) = none) :
    Accepts disk d (startedTrace sha256 q result now) (startedDirectory sha256 q now d) := by
  have absent : disk d (.exists (.intent (q.keyHash sha256))) false d := ⟨by simp [hk], rfl⟩
  have clock (d : Directory) : disk d .utcNow now d := rfl
  have written : disk (d.set (.intent (q.keyHash sha256)) (some (.torn (q.intent sha256 now))))
      (.write (.intent (q.keyHash sha256)) (q.intent sha256 now)) (.ok ()) (startedDirectory sha256 q now d) :=
    Directory.set_set.symm
  refine .cons absent (.cons (clock d) (.cons ⟨hk, rfl⟩ (.cons written (.cons rfl ?_))))
  refine .cons ⟨fun a ha => ?_, rfl⟩ (.cons (clock _) (.nil _))
  rw [startedDirectory, Directory.set_self, Option.some.injEq, File.whole.injEq] at ha
  rw [← ha]
  rfl

theorem completedCall_valid {d : Directory} (hkey : isIdempotencyKey q.idempotencyKey = true)
    (hk : d (.intent (q.keyHash sha256)) = none)
    (hc : d (.closure (q.operationId sha256)) = none) :
    (completedCall sha256 q result now d).Valid sha256 where
  run := by
    rw [completedCall, execute_eq_of_isIdempotencyKey hkey]
    exact .event _ _ _ (.event _ _ _ (.event _ _ _ (.event _ _ _ (.event _ _ _
      (.event _ _ _ (.event _ _ _ (.event _ _ _ (.event _ _ _ (.returned _)))))))))
  answered := by
    refine accepts_append_iff.2 ⟨_, accepts_startedTrace hk, ?_⟩
    refine .cons ⟨by simpa [completedCall, startedDirectory] using hc, rfl⟩ (.cons ?_ (.nil _))
    exact Directory.set_set.symm
  ended := nofun

theorem completedCall_intent {d : Directory} {keyHash : String} (h : keyHash ≠ q.keyHash sha256) :
    (completedCall sha256 q result now d).after (.intent keyHash) = d (.intent keyHash) := by
  simp only [completedCall, startedDirectory, Directory.set_closure_intent]
  exact Directory.set_of_ne (by simpa using h)

theorem repeatedCall_valid {d : Directory} (hkey : isIdempotencyKey q.idempotencyKey = true)
    (hk : d (.intent (q.keyHash sha256)) = none)
    (hc : d (.closure (q.operationId sha256)) ≠ none) :
    (repeatedCall sha256 q result now d).Valid sha256 where
  run := by
    rw [repeatedCall, execute_eq_of_isIdempotencyKey hkey]
    exact .event _ _ _ (.event _ _ _ (.event _ _ _ (.event _ _ _ (.event _ _ _
      (.event _ _ _ (.event _ _ _ (.event _ _ _ (.returned _))))))))
  answered := by
    refine accepts_append_iff.2 ⟨_, accepts_startedTrace hk, ?_⟩
    exact .cons ⟨by simpa [repeatedCall, startedDirectory] using hc, rfl⟩ (.nil _)
  ended := nofun

end Repeated

/-- A fault requested under its first key. -/
def firstRequest : Request where
  action := "stop"
  bindingDigest := "2222222222222222222222222222222222222222222222222222222222222222"
  body := [("target", .str "sequencer")]
  idempotencyKey := "fault-stop-key-0001"
  correlationId := "fault-stop-correlation-0001"

/-- The same fault, requested under a second key. -/
def secondRequest : Request := { firstRequest with idempotencyKey := "fault-stop-key-0002" }

/-- The call that completes the fault. -/
def firstCall : Call :=
  completedCall Sha256.hexdigest firstRequest ([("stopped", .bool true)], []) "2024-01-01T00:00:00Z"
    fun _ => none

/-- The call that applies it again. -/
def secondCall : Call :=
  repeatedCall Sha256.hexdigest secondRequest ([("stopped", .bool true)], []) "2024-01-01T00:01:00Z"
    firstCall.after

theorem run_firstCall : Run Sha256.hexdigest [firstCall] firstCall.after :=
  .call (c := firstCall) .start rfl (completedCall_valid (by decide) rfl rfl)

theorem journal_atMostOnce_firstCall : Run Sha256.hexdigest [firstCall] firstCall.after ∧
    AtMostOnce Sha256.hexdigest [firstCall] := by
  refine ⟨run_firstCall, journal_atMostOnce run_firstCall fun pre c hc => ?_⟩
  obtain ⟨rfl, rfl⟩ : pre = [] ∧ c = firstCall := by
    obtain ⟨post, h⟩ := hc
    cases pre with
    | nil => simpa using congrArg List.head? h
    | cons b pre => simp at h
  exact ⟨fun _ => rfl, fun h => absurd rfl h⟩

/-- A completed fault is applied again under a new key, and its caller sees a conflict. -/
theorem journal_not_atMostOnce : Run Sha256.hexdigest [firstCall, secondCall] secondCall.after ∧
    ¬AtMostOnce Sha256.hexdigest [firstCall, secondCall] := by
  have otherKey : secondRequest.keyHash Sha256.hexdigest ≠ firstRequest.keyHash Sha256.hexdigest := by
    decide +kernel
  refine ⟨run_firstCall.call (c := secondCall) rfl (repeatedCall_valid (by decide) ?_ ?_), ?_⟩
  · exact completedCall_intent otherKey
  · change firstCall.after (.closure (firstRequest.operationId _)) ≠ none
    simp [firstCall, completedCall]
  · intro h
    have := h.conflict_without_callback secondCall (by simp) _ _ rfl
    simp [secondCall, repeatedCall, startedTrace, callbacks, Op.callbacks] at this

end Zkdeal.FaultControl
