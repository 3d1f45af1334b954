import Zkdeal.FailoverProvider.ProviderCalls
import Zkdeal.FailoverProvider.Worlds

/-!
# Runs of the provider

Sequences of calls of one provider on one state file, killed and restarted anywhere.  Whatever
happens, every record in memory and in the file is well formed.
-/

namespace Zkdeal.FailoverProvider

open Interaction Python

namespace Provider

/-- A call of the provider, with the state file it found and left. -/
abbrev ServiceCall := Call Request Raised State Op Answer Dict (Option State)

/-- The operation that a request is for. -/
def Request.operation : Request → OpKey
  | .prepare _ request => (candidate request).getD (.text "")
  | .commit operationId _ _ => .text operationId

/-! ## The state file -/

section Disk

variable {k : OpKey} {m s : State} {tr : Trace Op Answer} {d d' : Option State}

theorem disk_of_not_save {o : Op} {r : Answer o} (h : disk d o r d') (other : ∀ s, o ≠ .save s) : d' = d := by
  cases o with
  | save s => exact absurd rfl (other s)
  | _ => exact h

/-- The file after an accepted trace is the one before, or what a save of the trace wrote. -/
theorem disk_written (acc : Accepts disk d tr d') :
    d' = d ∨ ∃ pre s post, tr = pre ++ ⟨.save s, some ()⟩ :: post ∧ d' = some (State.saved s) := by
  induction acc with
  | nil => exact .inl rfl
  | @cons d d₁ d₂ o r tr step _ ih =>
    rcases ih with rfl | ⟨pre, s, post, rfl, rfl⟩
    · by_cases hs : ∃ s, o = .save s
      · obtain ⟨s, rfl⟩ := hs
        rcases r with _ | ⟨⟩
        · exact .inl step
        · exact .inr ⟨[], s, tr, rfl, step.2⟩
      · exact .inl (disk_of_not_save step fun s h => hs ⟨s, h⟩)
    · exact .inr ⟨_ :: pre, s, post, rfl, rfl⟩

/-- While all saves succeed, the file holds the memory, unless nothing was saved yet. -/
theorem Progress.onDisk (h : Progress k m tr s) (acc : Accepts disk d tr d') :
    s = m ∧ d' = d ∨ d' = some (State.saved s) ∧ s.dumpable = true := by
  induction h generalizing d' with
  | start =>
    cases acc
    exact .inl ⟨rfl, rfl⟩
  | event r _ other ih =>
    obtain ⟨d₁, before, last⟩ := accepts_append_iff.1 acc
    rw [disk_of_not_save (accepts_singleton_iff.1 last) other]
    exact ih before
  | saved =>
    obtain ⟨d₁, before, last⟩ := accepts_append_iff.1 acc
    obtain ⟨dumpable, written⟩ := accepts_singleton_iff.1 last
    exact .inr ⟨written, dumpable⟩

/-- What is read back of a saved state is saved as it is. -/
theorem saved_saved (s : State) : State.saved (State.saved s) = State.saved s := by
  unfold State.saved
  rw [List.map_map]
  refine List.map_congr_left fun entry _ => ?_
  simp [OpKey.dumped, Operation.saved, Function.comp_def, Dict.sorted_sorted]

theorem Progress.wellFormed (h : Progress k m tr s) (wf : m.WellFormed) : s.WellFormed := by
  induction h with
  | start => exact wf
  | event _ _ _ ih => exact ih
  | saved _ update ih => exact update.wellFormed ih

theorem Interrupted.wellFormed (h : Interrupted k m tr s) (wf : m.WellFormed) : s.WellFormed := by
  rcases h with h | ⟨_, _, h, update, -⟩
  · exact h.wellFormed wf
  · exact update.wellFormed (h.wellFormed wf)

/-- A call only advances records, and adds new ones. -/
theorem Progress.extends (h : Progress k m tr s) (wf : m.WellFormed) :
    State.Extends Operation.Advances m s := by
  induction h with
  | start => exact State.extends_refl Operation.advances_refl m
  | event _ _ _ ih => exact ih
  | saved before update ih =>
    have step := (update.extends (before.wellFormed wf)).mono fun _ _ h => h.1
    exact Trans.trans ih step

/-- The memory is well formed, and it is what the file holds. -/
structure Clean (s : State) (d : Option State) : Prop where
  wellFormed : s.WellFormed
  dumpable : s.dumpable = true
  saved : State.saved s = loadJson d

theorem Clean.uniform (h : Clean s d) : s.uniform = true := (Bool.and_eq_true_iff.1 h.dumpable).1

theorem clean_nil : Clean [] none where
  wellFormed := by simp [State.WellFormed]
  dumpable := rfl
  saved := rfl

theorem Clean.load (h : Clean s d) : Clean (loadJson d) d where
  wellFormed := h.saved ▸ h.wellFormed.saved
  dumpable := h.saved ▸ State.dumpable_saved h.dumpable
  saved := by rw [← h.saved, saved_saved]

theorem Clean.progress (clean : Clean m d) (h : Progress k m tr s) (acc : Accepts disk d tr d') :
    Clean s d' := by
  rcases h.onDisk acc with ⟨rfl, rfl⟩ | ⟨rfl, dumpable⟩
  · exact clean
  · exact ⟨h.wellFormed clean.wellFormed, dumpable, rfl⟩

end Disk

/-! ## Calls -/

section Calls

variable {config : Config} {driver : Driver} {rounds : ℕ} {c : ServiceCall}

theorem keeps_prepare {key : String} {request : Dict} {m : State} :
    Stateful.Keeps recording (PrepareOk driver (Request.operation (.prepare key request)) key request m)
      (serve config driver rounds (.prepare key request))
      (PrepareAnswers (Request.operation (.prepare key request)) key request m)
      (PrepareRaises (Request.operation (.prepare key request)) key request m) m [] :=
  prepare_keeps config rounds fun k' hk => by simp [Request.operation, hk]

/-- Before each operation of a call, the memory is on its way, and a save saves an update of it. -/
theorem issued (v : (service config driver rounds).Valid c) (wf : c.memory.WellFormed)
    {pre post : Trace Op Answer} {e : Event Op Answer} (split : c.tr = pre ++ e :: post) :
    ∃ s, Progress c.request.operation c.memory pre s ∧
      ∀ s', e.1 = .save s' → State.Update c.request.operation s s' := by
  have run : (Stateful.start (serve config driver rounds c.request) c.memory).Runs (pre ++ e :: post) c.out :=
    split ▸ v.run
  generalize hr : c.request = r at run
  cases r with
  | prepare key request =>
    obtain ⟨s, h, may⟩ := keeps_prepare.permits run (accepts_recording [] pre)
    refine ⟨s, h, fun s' hs' => ?_⟩
    rw [hs'] at may
    rcases may with plain | ⟨s₁, h₁, update⟩ | ⟨_, _, h₁, -⟩ | ⟨_, _, -, fenced⟩
    · exact plain.elim
    · cases h₁
      exact update
    · cases h₁
    · exact absurd (Driver.Fenced.external fenced) id
  | commit operationId key request =>
    obtain ⟨s, h, may⟩ := (commit_keeps config rounds wf).permits run (accepts_recording [] pre)
    refine ⟨s, h, fun s' hs' => ?_⟩
    rw [hs'] at may
    rcases may with ⟨external, -⟩ | ⟨s₁, h₁, update⟩ | ⟨_, _, h₁, -⟩
    · exact external.elim
    · cases h₁
      exact update
    · cases h₁

/-- What the memory is after a call that ended by itself. -/
theorem left (v : (service config driver rounds).Valid c) (wf : c.memory.WellFormed) :
    (∀ response s, c.out = .returned (.ok response, s) →
      Progress c.request.operation c.memory c.tr s) ∧
    ∀ e s, c.out = .returned (.error e, s) → Interrupted c.request.operation c.memory c.tr s := by
  have run : (Stateful.start (serve config driver rounds c.request) c.memory).Runs c.tr c.out := v.run
  generalize hr : c.request = r at run
  cases r with
  | prepare key request =>
    obtain ⟨returned, raised, -⟩ := keeps_prepare.of_runs run (accepts_recording [] c.tr)
    exact ⟨fun _ _ ho => (returned _ _ ho).1, fun _ _ ho => (raised _ _ ho).1⟩
  | commit operationId key request =>
    obtain ⟨returned, raised, -⟩ :=
      (commit_keeps config rounds wf).of_runs run (accepts_recording [] c.tr)
    exact ⟨fun _ _ ho => (returned _ _ ho).1, fun _ _ ho => (raised _ _ ho).1⟩

theorem wellFormed_after (v : (service config driver rounds).Valid c) (wf : c.memory.WellFormed)
    (wfd : (loadJson c.before).WellFormed) : (loadJson c.after).WellFormed := by
  rcases disk_written v.answered with h | ⟨pre, s, post, split, h⟩
  · rwa [h]
  · obtain ⟨s₀, before, update⟩ := issued v wf split
    rw [h]
    exact ((update s rfl).wellFormed (before.wellFormed wf)).saved

/-- Every record is well formed, in memory and in the file. -/
theorem run_wellFormed {calls : List ServiceCall} {s : State} {d : Option State}
    (run : (service config driver rounds).Run calls s d) : s.WellFormed ∧ (loadJson d).WellFormed := by
  refine run.invariant (I := fun s d => s.WellFormed ∧ (loadJson d).WellFormed) (fun d hd => ?_)
    (fun c _ v wf => ?_) (fun s d wf => ⟨wf.2, wf.2⟩) ?_
  · rw [show d = none from hd]
    have empty : State.WellFormed [] := by simp [State.WellFormed]
    exact ⟨empty, empty⟩
  · have after := wellFormed_after v wf.1 wf.2
    refine ⟨?_, after⟩
    obtain ⟨returned, raised⟩ := left v wf.1
    unfold Service.ended
    split
    · rename_i r s hout
      cases r with
      | ok response => exact (returned response s hout).wellFormed wf.1
      | error e => exact (raised e s hout).wellFormed wf.1
    · exact after
  · rintro s d _ wf rfl
    exact wf

/-! ## Calls whose saves succeed -/

/-- No save of the call raised. -/
def SavesSucceed (c : ServiceCall) : Prop := ∀ s, (⟨.save s, none⟩ : Event Op Answer) ∉ c.tr

/-- A save that raised. -/
def failedSave : Event Op Answer → Bool
  | ⟨.save _, none⟩ => true
  | _ => false

theorem savesSucceed_of_any {c : ServiceCall} (h : c.tr.any failedSave = false) : SavesSucceed c := by
  intro s hs
  have failed := List.any_eq_false.1 h _ hs
  exact failed rfl

/-- Wherever the call stopped, the memory was on its way. -/
theorem progress_whole (v : (service config driver rounds).Valid c) (wf : c.memory.WellFormed)
    (succeed : SavesSucceed c) : ∃ s, Progress c.request.operation c.memory c.tr s := by
  rcases List.eq_nil_or_concat c.tr with h | ⟨pre, e, h⟩
  · exact ⟨c.memory, h ▸ .start⟩
  · rw [List.concat_eq_append] at h
    obtain ⟨s, before, update⟩ := issued v wf h
    obtain ⟨o, r⟩ := e
    by_cases hs : ∃ s', o = .save s'
    · obtain ⟨s', rfl⟩ := hs
      rcases r with _ | ⟨⟩
      · exact absurd (h ▸ by simp) (succeed s')
      · exact ⟨s', h ▸ .saved before (update s' rfl)⟩
    · exact ⟨s, h ▸ .event r before fun s' h' => hs ⟨s', h'⟩⟩

theorem Interrupted.progress {k : OpKey} {m s : State} {tr : Trace Op Answer}
    (h : Interrupted k m tr s) (succeed : ∀ s, (⟨.save s, none⟩ : Event Op Answer) ∉ tr) :
    Progress k m tr s := by
  rcases h with h | ⟨tr₀, s₀, -, -, rfl⟩
  · exact h
  · exact absurd (by simp) (succeed s)

/-- The memory after a call, and how the call got there. -/
theorem ended_progress (v : (service config driver rounds).Valid c) (wf : c.memory.WellFormed)
    (succeed : SavesSucceed c) :
    ∃ s, Progress c.request.operation c.memory c.tr s ∧
      ((service config driver rounds).ended c = s ∨
        (service config driver rounds).ended c = loadJson c.after) := by
  obtain ⟨returned, raised⟩ := left v wf
  unfold Service.ended
  split
  · rename_i r s hout
    cases r with
    | ok response => exact ⟨s, returned response s hout, .inl rfl⟩
    | error e => exact ⟨s, (raised e s hout).progress succeed, .inl rfl⟩
  · obtain ⟨s, h⟩ := progress_whole v wf succeed
    exact ⟨s, h, .inr rfl⟩

theorem Clean.call (clean : Clean c.memory c.before) (v : (service config driver rounds).Valid c)
    (succeed : SavesSucceed c) : Clean ((service config driver rounds).ended c) c.after := by
  obtain ⟨s, h, hended⟩ := ended_progress v clean.wellFormed succeed
  have after := clean.progress h v.answered
  rcases hended with he | he
  · rwa [he]
  · rw [he]
    exact after.load

/-- While all saves succeed, memory and file stay clean. -/
theorem run_clean {calls : List ServiceCall} {s : State} {d : Option State}
    (run : (service config driver rounds).Run calls s d) (succeed : ∀ c ∈ calls, SavesSucceed c) :
    Clean s d := by
  refine run.invariant (I := Clean) (fun d hd => ?_) (fun c hc v clean => clean.call v (succeed c hc))
    (fun s d clean => clean.load) ?_
  · rw [show d = none from hd]
    exact clean_nil
  · rintro s d _ clean rfl
    exact clean

end Calls

end Provider

/-! ## Played runs -/

/-- A platform beside a state file treats the file as a disk. -/
theorem Hosted.disk {W : Type} {command : W → List String → String × W} {config : Config}
    (w : Hosted W) (o : Op) (r : Answer o) (w' : Hosted W)
    (h : Hosted.answer command config w o = some (r, w')) : Provider.disk w.file o r w'.file := by
  cases o with
  | save s =>
    rw [Hosted.answer] at h
    by_cases written : w.saves.headD true = true ∧ s.dumpable = true
    · rw [if_pos written] at h
      cases h
      exact ⟨written.2, rfl⟩
    · rw [if_neg written] at h
      cases h
      rfl
  | _ =>
    cases h
    rfl

namespace Deployment

/-- The provider of the Docker deployment. -/
abbrev provider : Service Provider.Request Raised State Op Answer Dict (Option State) :=
  Provider.service config (.docker dockerSettings) 3

def prepareCall : Provider.Request := .prepare "prepare-key-0001" prepareRequest

def commitCall : Provider.Request := .commit "candidate-20260821-001" "commit-key-00001" commitRequest

/-- Before the failover, with what is known of the next saves. -/
def hosted (saves : List Bool) : Hosted DockerWorld where
  platform := dockerWorld
  file := none
  saves := saves

/-- The calls for a list of requests, on the Docker deployment. -/
def calls (requests : List Provider.Request) (saves : List Bool) : List Provider.ServiceCall :=
  (provider.play (Hosted.answer DockerWorld.command config) Hosted.file requests [] (hosted saves)).1

/-- The memory that the calls leave. -/
def left (requests : List Provider.Request) (saves : List Bool) : State :=
  (provider.play (Hosted.answer DockerWorld.command config) Hosted.file requests [] (hosted saves)).2.1

/-- The state file that the calls leave. -/
def file (requests : List Provider.Request) (saves : List Bool) : Option State :=
  (provider.play (Hosted.answer DockerWorld.command config) Hosted.file requests [] (hosted saves)).2.2.file

theorem played_run (requests : List Provider.Request) (saves : List Bool) :
    provider.Run (calls requests saves) (left requests saves) (file requests saves) := by
  have fresh : provider.Run [] [] (hosted saves).file := Service.Run.start (S := provider) rfl
  exact Service.play_run Hosted.file (@Hosted.disk _ DockerWorld.command config) requests fresh

theorem calls_run (requests : List Provider.Request) (saves : List Bool) :
    ∃ s d, provider.Run (calls requests saves) s d := ⟨_, _, played_run requests saves⟩

end Deployment

end Zkdeal.FailoverProvider
