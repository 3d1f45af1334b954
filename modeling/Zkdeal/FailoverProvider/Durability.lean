import Zkdeal.FailoverProvider.ProviderRuns

/-!
# Durable before effect

A call saves every change of a record before it goes on, but it changes the record in memory first:
after a save that raised, a retry finds the change in memory and skips the save.  A call keeps to the
contract where what it reads in memory is in the state file.
-/

namespace Zkdeal.FailoverProvider

open Interaction Python

/-! ## What a promotion rests on -/

theorem exists_mem_of_inOrder {Ps : List (Event Op Answer → Prop)} {tr : Trace Op Answer}
    (h : InOrder Ps tr) {P : Event Op Answer → Prop} (hP : P ∈ Ps) : ∃ e ∈ tr, P e := by
  induction Ps generalizing tr with
  | nil => cases hP
  | cons P' Ps ih =>
    obtain ⟨pre, e, post, rfl, he, hpost⟩ := h
    rcases List.mem_cons.1 hP with rfl | hP
    · exact ⟨e, by simp, he⟩
    · obtain ⟨d, hd, hPd⟩ := ih hpost hP
      exact ⟨d, by simp [hd], hPd⟩

namespace Driver

/-- The primary answered that it has flushed up to `target`. -/
def Flushed : Driver → String → Event Op Answer → Prop
  | docker settings, target, e => ∃ primary, DockerDriver.Answered settings primary flushQuery target e
  | kubernetes settings, target, e =>
    KubernetesDriver.Answered settings settings.primaryDbPod flushQuery target e

/-- The standby answered that it has replayed up to `replay`. -/
def Replayed : Driver → String → Event Op Answer → Prop
  | docker settings, replay, e => ∃ standby, DockerDriver.Answered settings standby replayQuery replay e
  | kubernetes settings, replay, e =>
    KubernetesDriver.Answered settings settings.standbyDbPod replayQuery replay e

variable {driver : Driver} {existing : Option String} {dtr : Trace Op Answer} {o : Op}

theorem Flushed.external {target : String} {e : Event Op Answer} (h : driver.Flushed target e) :
    External e.1 := by
  cases driver with
  | docker settings =>
    obtain ⟨primary, output, ⟨timeout, p, rfl, -⟩, -⟩ := h
    trivial
  | kubernetes settings =>
    obtain ⟨output, ⟨timeout, p, rfl, -⟩, -⟩ := h
    trivial

theorem Replayed.external {replay : String} {e : Event Op Answer} (h : driver.Replayed replay e) :
    External e.1 := by
  cases driver with
  | docker settings =>
    obtain ⟨primary, output, ⟨timeout, p, rfl, -⟩, -⟩ := h
    trivial
  | kubernetes settings =>
    obtain ⟨output, ⟨timeout, p, rfl, -⟩, -⟩ := h
    trivial

/-- What either driver observed before it promotes. -/
theorem Fenced.observed (h : driver.Fenced existing dtr o) :
    ∃ target replay, Targets existing target (checkpoints dtr) ∧ AtOrAfter replay target ∧
      (∀ t ∈ checkpoints dtr, ∃ e ∈ dtr, driver.Flushed t e) ∧ ∃ e ∈ dtr, driver.Replayed replay e := by
  cases driver with
  | docker settings =>
    obtain ⟨active, primary, standbyDb, signer, target, replay, _, targets, rfl, order, caughtUp, -⟩ := h
    refine ⟨target, replay, targets, caughtUp, fun t ht => ?_, ?_⟩
    · obtain ⟨e, he, flushed⟩ := exists_mem_of_inOrder order
        (P := DockerDriver.Answered settings primary flushQuery t)
        (List.mem_append_left _ (List.mem_append_right _ (List.mem_flatMap.2 ⟨t, ht, by simp⟩)))
      exact ⟨e, he, primary, flushed⟩
    · obtain ⟨e, he, replayed⟩ := exists_mem_of_inOrder order
        (P := DockerDriver.Answered settings standbyDb replayQuery replay) (by simp)
      exact ⟨e, he, standbyDb, replayed⟩
  | kubernetes settings =>
    obtain ⟨active, primary, target, replay, _, targets, rfl, order, caughtUp, -⟩ := h
    refine ⟨target, replay, targets, caughtUp, fun t ht => ?_, ?_⟩
    · exact exists_mem_of_inOrder order (P := KubernetesDriver.Answered settings
        settings.primaryDbPod flushQuery t)
        (List.mem_append_left _ (List.mem_append_right _ (List.mem_flatMap.2 ⟨t, ht, by simp⟩)))
    · exact exists_mem_of_inOrder order (P := KubernetesDriver.Answered settings
        settings.standbyDbPod replayQuery replay) (by simp)

end Driver

namespace Provider

/-- A driver was called, and a target that it was given or captured was replayed. -/
def RestsOn (driver : Driver) (target : String) (tr : Trace Op Answer) : Prop :=
  ∃ tr₀ request existing ptr replay,
    tr = tr₀ ++ ⟨.enter (.prepare request existing), ()⟩ :: ptr ∧
    (existing = some target ∨ ∃ e ∈ ptr, driver.Flushed target e) ∧
    AtOrAfter replay target ∧ ∃ e ∈ ptr, driver.Replayed replay e

theorem Carried.mem {k : OpKey} {s₀ s : State} {dtr ptr : Trace Op Answer} (h : Carried k s₀ dtr ptr s)
    {e : Event Op Answer} (he : e ∈ dtr) (external : External e.1) : e ∈ ptr := by
  induction h with
  | start => cases he
  | event r _ _ ih =>
    rcases List.mem_append.1 he with he | he
    · exact List.mem_append_left _ (ih he)
    · exact List.mem_append_right _ he
  | recorded capturedAt _ _ _ ih =>
    rcases List.mem_append.1 he with he | he
    · exact List.mem_append_left _ (ih he)
    · rw [List.mem_singleton.1 he] at external
      exact external.elim

/-- The target that a promotion rests on is in the record. -/
theorem Driving.restsOn {driver : Driver} {k : OpKey} {key : String} {request : Dict} {m s : State}
    {existing : Option String} {dtr tr : Trace Op Answer} {o : Op}
    (h : Driving k key request m existing dtr tr s) (fenced : driver.Fenced existing dtr o) :
    ∃ target a, RestsOn driver target tr ∧ s.find k = some a ∧ a.primaryTargetLsn = some target ∧
      target ≠ "" ∧ Bound key request a ∧ stored a.prepareResponse = none := by
  obtain ⟨a, found, htarget, unanswered, bound⟩ := h.record
  obtain ⟨target, replay, targets, caughtUp, flushed, e, he, replayed⟩ := fenced.observed
  obtain ⟨tr₀, ptr, s₀, a₀, rfl, -, -, -, -, -, carried⟩ := h
  have rests (source : existing = some target ∨ ∃ e ∈ ptr, driver.Flushed target e) :
      RestsOn driver target (tr₀ ++ ⟨.enter (.prepare request existing), ()⟩ :: ptr) :=
    ⟨tr₀, request, existing, ptr, replay, rfl, source, caughtUp, e, carried.mem he replayed.external,
      replayed⟩
  rcases targets with ⟨rfl, hne, hnone⟩ | ⟨-, hone⟩
  · exact ⟨target, a, rests (.inl rfl), found, by rw [htarget, hnone]; rfl, hne, bound, unanswered⟩
  · obtain ⟨d, hd, captured⟩ := flushed target (by simp [hone])
    exact ⟨target, a, rests (.inr ⟨d, carried.mem hd captured.external, captured⟩), found,
      by rw [htarget, hone]; rfl, carried.checkpoint_ne target (by simp [hone]), bound, unanswered⟩

/-! ## The contract -/

/-- The state file holds a record for the operation that satisfies `P`. -/
def Recorded (d : Option State) (k : OpKey) (P : Operation → Prop) : Prop :=
  ∃ (l : OpKey) (a : Operation), l.same k = true ∧ (.text l.dumped, a) ∈ loadJson d ∧ P a

/-- The record is ready for the driver to commit it under the key, for the request. -/
def ReadyToCommit (key : String) (request : Dict) (a : Operation) : Prop :=
  a.phase ≠ .preparing ∧ a.commitKeySha256 = some (Sha256.hexdigest key) ∧
    a.commitRequestSha256 = some (canonicalHash (.obj request))

/-- What a call may do only after it is in the state file. -/
structure DurableBeforeEffect (driver : Driver) (c : ServiceCall) : Prop where
  /-- A response of `prepare` is in the file when it is returned. -/
  prepared : ∀ key request response s, c.request = .prepare key request →
    c.out = .returned (.ok response, s) →
    Recorded c.after c.request.operation fun a => a.prepareResponse = some (Dict.sorted response)
  /-- A response of `commit` is in the file when it is returned. -/
  committed : ∀ operationId key request response s, c.request = .commit operationId key request →
    c.out = .returned (.ok response, s) →
    Recorded c.after c.request.operation fun a => a.commitResponse = some (Dict.sorted response)
  /-- The driver commits only what the file holds as prepared and bound to this call. -/
  entered : ∀ pre post operationId owner d,
    c.tr = pre ++ ⟨.enter (.commit operationId owner), ()⟩ :: post → Accepts disk c.before pre d →
    ∃ key request, c.request = .commit operationId key request ∧
      Recorded d (.text operationId) (ReadyToCommit key request)
  /-- A promotion rests on a target that the file holds. -/
  promoted : ∀ pre e post d, c.tr = pre ++ e :: post → Promotes e.1 → Accepts disk c.before pre d →
    ∃ target, RestsOn driver target pre ∧
      Recorded d c.request.operation fun a => a.primaryTargetLsn = some target

/-- What a call reads of its record in memory, in place of saving it, is in the state file. -/
def ReadsDurable (c : ServiceCall) : Prop :=
  match c.request with
  | .prepare key request => ∀ a, c.memory.find c.request.operation = some a → Bound key request a →
    match stored a.prepareResponse with
    | some response =>
      Recorded c.before c.request.operation fun a => a.prepareResponse = some (Dict.sorted response)
    | none => ∀ target, a.primaryTargetLsn = some target → target ≠ "" →
      Recorded c.before c.request.operation fun a => a.primaryTargetLsn = some target
  | .commit _ key request => ∀ a, c.memory.find c.request.operation = some a → Committing key request a →
    match stored a.commitResponse with
    | some response =>
      Recorded c.before c.request.operation fun a => a.commitResponse = some (Dict.sorted response)
    | none => Recorded c.before c.request.operation (ReadyToCommit key request)

section Contract

variable {config : Config} {driver : Driver} {rounds : ℕ} {c : ServiceCall}

theorem recorded_saved {s : State} {k : OpKey} {a : Operation} {P : Operation → Prop}
    (found : s.find k = some a) (hP : P a.saved) : Recorded (some (State.saved s)) k P := by
  obtain ⟨l, hl, hmem⟩ := State.exists_mem_of_find found
  exact ⟨l, a.saved, hl, List.mem_map.2 ⟨(l, a), hmem, rfl⟩, hP⟩

/-- What the memory holds is in the file, if the call saved it or found it there. -/
theorem Progress.recorded {k : OpKey} {m s : State} {tr : Trace Op Answer} {d d' : Option State}
    (h : Progress k m tr s) (acc : Accepts disk d tr d') {a : Operation} (found : s.find k = some a)
    {P : Operation → Prop} (hP : P a.saved) (read : m.find k = some a → Recorded d k P) :
    Recorded d' k P := by
  rcases h.onDisk acc with ⟨rfl, rfl⟩ | ⟨rfl, -⟩
  · exact read found
  · exact recorded_saved found hP

theorem Committing.ready {key : String} {request : Dict} {a : Operation} (h : Committing key request a) :
    ReadyToCommit key request a.saved := by
  refine ⟨h.1, ?_, h.2.2⟩
  have hkey := h.2.1
  unfold boundKey at hkey
  exact (Option.filter_eq_some_iff.1 hkey).1

theorem durable_prepare {key : String} {request : Dict} (hr : c.request = .prepare key request)
    (v : (service config driver rounds).Valid c) (reads : ReadsDurable c) : DurableBeforeEffect driver c := by
  obtain ⟨r, m, d, tr, out, d'⟩ := c
  obtain rfl : r = .prepare key request := hr
  have run : (Stateful.start (serve config driver rounds (.prepare key request)) m).Runs tr out := v.run
  have reads : ∀ a, m.find (Request.operation (.prepare key request)) = some a → Bound key request a → _ := reads
  refine ⟨?_, nofun, ?_, ?_⟩
  · intro _ _ response s _ hout
    obtain ⟨progress, a, found, bound, hresponse, -⟩ :=
      (keeps_prepare.of_runs run (accepts_recording [] tr)).1 response s hout
    refine progress.recorded v.answered found ?_ fun hm => ?_
    · simp [Operation.saved, (stored_eq_some_iff.1 hresponse).1]
    · have read := reads a hm bound
      rwa [hresponse] at read
  · intro pre post operationId owner d' split _
    obtain rfl : tr = pre ++ ⟨.enter (.commit operationId owner), ()⟩ :: post := split
    obtain ⟨s, -, may⟩ := keeps_prepare.permits run (accepts_recording [] pre)
    rcases may with plain | ⟨s₁, h₁, -⟩ | ⟨_, _, h₁, -⟩ | ⟨_, _, -, fenced⟩
    · exact plain.elim
    · cases h₁
    · cases h₁
    · exact absurd (Driver.Fenced.external fenced) id
  · intro pre e post d' split promotes acc
    obtain rfl : tr = pre ++ e :: post := split
    obtain ⟨s, progress, may⟩ := keeps_prepare.permits run (accepts_recording [] pre)
    rcases may with plain | ⟨s₁, h₁, -⟩ | ⟨_, _, h₁, -⟩ | ⟨_, _, driving, fenced⟩
    · exact absurd promotes plain.not_promotes
    · rw [h₁] at promotes
      exact promotes.elim
    · rw [h₁] at promotes
      exact promotes.elim
    · obtain ⟨target, a, rests, found, htarget, hne, bound, unanswered⟩ := driving.restsOn fenced
      refine ⟨target, rests, progress.recorded acc found htarget fun hm => ?_⟩
      have read := reads a hm bound
      rw [unanswered] at read
      exact read target htarget hne

theorem durable_commit {operationId key : String} {request : Dict}
    (hr : c.request = .commit operationId key request) (v : (service config driver rounds).Valid c)
    (wf : c.memory.WellFormed) (reads : ReadsDurable c) : DurableBeforeEffect driver c := by
  obtain ⟨r, m, d, tr, out, d'⟩ := c
  obtain rfl : r = .commit operationId key request := hr
  have run : (Stateful.start (serve config driver rounds (.commit operationId key request)) m).Runs tr out :=
    v.run
  have reads : ∀ a, m.find (.text operationId) = some a → Committing key request a → _ := reads
  have keeps : Stateful.Keeps recording (CommitOk operationId key request m)
    (serve config driver rounds (.commit operationId key request)) _ _ m [] := commit_keeps config rounds wf
  refine ⟨nofun, ?_, ?_, ?_⟩
  · intro _ _ _ response s _ hout
    obtain ⟨progress, a, found, committing, hresponse, -⟩ :=
      (keeps.of_runs run (accepts_recording [] tr)).1 response s hout
    refine progress.recorded v.answered found ?_ fun hm => ?_
    · simp [Operation.saved, (stored_eq_some_iff.1 hresponse).1]
    · have read := reads a hm committing
      rwa [hresponse] at read
  · intro pre post operationId' owner d' split acc
    obtain rfl : tr = pre ++ ⟨.enter (.commit operationId' owner), ()⟩ :: post := split
    obtain ⟨s, progress, may⟩ := keeps.permits run (accepts_recording [] pre)
    rcases may with ⟨external, -⟩ | ⟨s₁, h₁, -⟩ | ⟨_, a, h₁, found, committing, unanswered⟩
    · exact external.elim
    · cases h₁
    · cases h₁
      refine ⟨key, request, rfl, progress.recorded acc found committing.ready fun hm => ?_⟩
      have read := reads a hm committing
      rwa [unanswered] at read
  · intro pre e post d' split promotes _
    obtain rfl : tr = pre ++ e :: post := split
    obtain ⟨s, -, may⟩ := keeps.permits run (accepts_recording [] pre)
    rcases may with ⟨-, quiet⟩ | ⟨s₁, h₁, -⟩ | ⟨_, _, h₁, -⟩
    · exact absurd promotes quiet
    · rw [h₁] at promotes
      exact promotes.elim
    · rw [h₁] at promotes
      exact promotes.elim

end Contract

/-- Where the file holds the memory, a call reads nothing else. -/
theorem readsDurable_of_saved {c : ServiceCall} (h : State.saved c.memory = loadJson c.before) :
    ReadsDurable c := by
  have inFile {k : OpKey} {a : Operation} {P : Operation → Prop} (found : c.memory.find k = some a)
      (hP : P a.saved) : Recorded c.before k P := by
    have recorded := recorded_saved found hP
    unfold Recorded at recorded ⊢
    rwa [← h]
  unfold ReadsDurable
  split
  · intro a found _
    split
    · rename_i response hresponse
      exact inFile found (by simp [Operation.saved, (stored_eq_some_iff.1 hresponse).1])
    · exact fun target htarget _ => inFile found htarget
  · intro a found committing
    split
    · rename_i response hresponse
      exact inFile (a := a) (by assumption) (by simp [Operation.saved, (stored_eq_some_iff.1 hresponse).1])
    · exact inFile (a := a) (by assumption) committing.ready

/-- While all saves succeed, no call reads anything that is not in the state file. -/
theorem readsDurable_of_savesSucceed {config : Config} {driver : Driver} {rounds : ℕ}
    {calls : List ServiceCall} {s : State} {d : Option State}
    (run : (service config driver rounds).Run calls s d) (succeed : ∀ c ∈ calls, SavesSucceed c) :
    ∀ c ∈ calls, ReadsDurable c := by
  intro c hc
  obtain ⟨pre, post, rfl⟩ := List.append_of_mem hc
  have earlier := run.split.1
  exact readsDurable_of_saved (run_clean earlier fun b hb => succeed b (List.mem_append_left _ hb)).saved

/-- In every run whose calls read nothing that is not in the state file, every call keeps to the
contract. -/
theorem durable_before_effect {config : Config} {driver : Driver} {rounds : ℕ}
    {calls : List ServiceCall} {s : State} {d : Option State}
    (run : (service config driver rounds).Run calls s d) (reads : ∀ c ∈ calls, ReadsDurable c) :
    ∀ c ∈ calls, DurableBeforeEffect driver c := by
  intro c hc
  obtain ⟨pre, post, rfl⟩ := List.append_of_mem hc
  obtain ⟨earlier, valid⟩ := run.split
  cases hr : c.request with
  | prepare key request => exact durable_prepare hr valid (reads c hc)
  | commit operationId key request =>
    exact durable_commit hr valid (run_wellFormed earlier).1 (reads c hc)

theorem durable_before_effect_failover : ∃ calls s d,
    (service Deployment.config (.docker Deployment.dockerSettings) 3).Run calls s d ∧
      calls.map Call.request = [Deployment.prepareCall, Deployment.commitCall] ∧
      ∀ c ∈ calls, c.answer.isSome ∧ DurableBeforeEffect (.docker Deployment.dockerSettings) c := by
  obtain ⟨s, d, run⟩ := Deployment.calls_run [Deployment.prepareCall, Deployment.commitCall] []
  have observed : ∀ c ∈ Deployment.calls [Deployment.prepareCall, Deployment.commitCall] [],
      c.answer.isSome ∧ c.tr.any failedSave = false := by decide +kernel
  have reads := readsDurable_of_savesSucceed run fun c hc => savesSucceed_of_any (observed c hc).2
  exact ⟨_, s, d, run, rfl, fun c hc => ⟨(observed c hc).1, durable_before_effect run reads c hc⟩⟩

/-! ## A failed save -/

/-- A response that is returned while the file has none is not durable. -/
theorem not_durable {driver : Driver} {c : ServiceCall} {key : String} {request : Dict}
    (hr : c.request = .prepare key request) (answered : c.answer.isSome)
    (unsaved : ∀ entry ∈ loadJson c.after, entry.2.prepareResponse = none) :
    ¬DurableBeforeEffect driver c := by
  intro durable
  obtain ⟨response, hresponse⟩ := Option.isSome_iff_exists.1 answered
  obtain ⟨s, hout⟩ := Call.answer_eq_some hresponse
  obtain ⟨l, a, -, hmem, hstored⟩ := durable.prepared key request response s hr hout
  have := unsaved _ hmem
  simp [hstored] at this

/-- The save of the response fails, and a second call answers from memory. -/
theorem not_durable_before_effect : ¬∀ (config : Config) (driver : Driver) (rounds : ℕ)
    (calls : List ServiceCall) (s : State) (d : Option State),
    (service config driver rounds).Run calls s d → ∀ c ∈ calls, DurableBeforeEffect driver c := by
  intro always
  let requests := [Deployment.prepareCall, Deployment.prepareCall]
  obtain ⟨s, d, run⟩ := Deployment.calls_run requests [true, true, false]
  have observed : ∃ c ∈ Deployment.calls requests [true, true, false], c.answer.isSome ∧
      ∀ entry ∈ loadJson c.after, entry.2.prepareResponse = none := by decide +kernel
  obtain ⟨c, hc, answered, unsaved⟩ := observed
  have hrequest : c.request ∈ requests := List.mem_map_of_mem (f := Call.request) hc
  have hr : c.request = Deployment.prepareCall := by simpa [requests] using hrequest
  exact not_durable hr answered unsaved (always _ _ _ _ _ _ run c hc)

end Provider

end Zkdeal.FailoverProvider
