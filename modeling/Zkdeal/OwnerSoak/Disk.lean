import Zkdeal.OwnerSoak.Driver

/-!
# What workers leave on disk

Saves and lines are atomic here: a worker that is killed leaves what it saved and wrote before.  The rules
below follow the operations of a worker in any surroundings that keep its two files.
-/

namespace Zkdeal.OwnerSoak

open Python Json Soak Interaction Stateful

/-- The two files of a run. -/
structure Disk where
  journal : Option Bytes
  state : Option DriverState

namespace Disk

/-- No run has started. -/
def empty : Disk := ⟨none, none⟩

/-- The disk after an operation. -/
def after (d : Disk) : Op → Disk
  | .save state => { d with state := some state }
  | .write event => { d with journal := some (d.journal.getD [] ++ canonicalEventBytes [event]) }
  | _ => d

/-- What the operations that read the files are answered. -/
def Reads (d : Disk) : (o : Op) → Answer o → Prop
  | .readJournal, file => file = d.journal
  | .readState, file => file = d.state
  | _, _ => True

/-- The surroundings with nothing but the disk. -/
def env : Env Op Answer Disk := fun d o r d' => d.Reads o r ∧ d' = d.after o

end Disk

/-- The surroundings keep the disk as the worker leaves it. -/
structure Persistent {W : Type} (env : Env Op Answer W) (disk : W → Disk) : Prop where
  reads : ∀ {w o r w'}, env w o r w' → (disk w).Reads o r
  after : ∀ {w o r w'}, env w o r w' → disk w' = (disk w).after o

theorem Disk.persistent : Persistent Disk.env id := ⟨fun h => h.1, fun h => h.2⟩

variable {W : Type} {env : Env Op Answer W} {ok : W → Op → Prop} {disk : W → Disk} {s : Worker} {w : W}

/-! ## State -/

theorem keeps_update_iff {f : DriverState → DriverState} {Q : Unit → Worker → W → Prop} {R : Raised → Worker → W → Prop} :
    Keeps env ok (update f) Q R s w ↔ ok w (.save (f s.state)) ∧
      ∀ w', env w (.save (f s.state)) () w' → Q () { s with state := f s.state } w' :=
  ⟨fun ⟨h, rest⟩ => ⟨h, fun w' => rest () w'⟩, fun ⟨h, rest⟩ => ⟨h, fun _ w' => rest w'⟩⟩

/-! ## Journal -/

/-- What a call writes does not depend on the file. -/
theorem perform_file {sha256 : Bytes → String} {j : Journal} {call : Call} {event : Event} {u : Store}
    (h : call.perform sha256 ⟨j, none⟩ = .ok (some event, u)) (file : Option Bytes) :
    call.perform sha256 ⟨j, file⟩ = .ok (some event, ⟨u.journal, some (file.getD [] ++ canonicalEventBytes [event])⟩) := by
  have appended {kind : String} {fields : Dict} {event : Event} {u : Store}
      (h : Store.append ⟨j, none⟩ kind fields = .ok (event, u)) : Store.append ⟨j, file⟩ kind fields =
        .ok (event, ⟨u.journal, some (file.getD [] ++ canonicalEventBytes [event])⟩) := by
    obtain ⟨opened, rfl, print, rfl⟩ := append_eq_ok h
    unfold Store.append
    rw [show (⟨j, file⟩ : Store).journal.closed = false from opened]
    exact bind_eq_ok.2 ⟨_, payload_eq_ok.2 ⟨print, rfl⟩, rfl⟩
  have closed {fields : Dict} {event : Event} {u : Store} (h : Store.close sha256 ⟨j, none⟩ fields = .ok (event, u)) :
      Store.close sha256 ⟨j, file⟩ fields =
        .ok (event, ⟨u.journal, some (file.getD [] ++ canonicalEventBytes [event])⟩) := by
    obtain ⟨opened, rfl, print, rfl⟩ := close_eq_ok h
    unfold Store.close
    rw [show (⟨j, file⟩ : Store).journal.closed = false from opened]
    exact bind_eq_ok.2 ⟨_, payload_eq_ok.2 ⟨print, rfl⟩, rfl⟩
  cases call with
  | append kind open' fields =>
    obtain ⟨⟨event', u'⟩, happend, heq⟩ := map_eq_ok.1 h
    cases heq
    exact map_eq_ok.2 ⟨_, appended happend, rfl⟩
  | emitOnce eventId kind open' fields =>
    change Store.emitOnce _ _ _ _ = _ at h ⊢
    unfold Store.emitOnce at h ⊢
    by_cases hid : eventId ∈ j.eventIds
    · rw [if_pos hid] at h
      cases h
    rw [if_neg hid] at h ⊢
    obtain ⟨⟨event', u'⟩, happend, heq⟩ := bind_eq_ok.1 h
    cases heq
    exact bind_eq_ok.2 ⟨_, appended happend, rfl⟩
  | close fields =>
    obtain ⟨⟨event', u'⟩, hclose, heq⟩ := map_eq_ok.1 h
    cases heq
    exact map_eq_ok.2 ⟨_, closed hclose, rfl⟩

/-- The journal of a worker, with its file. -/
abbrev stored (s : Worker) (d : Disk) : Store := ⟨s.journal, d.journal⟩

/-- A call of the journal raises, finds its event there, or writes one. -/
theorem keeps_record_wrote {call : Call} {Q : Option Event → Worker → W → Prop} {R : Raised → Worker → W → Prop}
    (file : Option Bytes) (raises : ∀ e, R e s w)
    (present : (∃ eventId, call.onceId = some eventId ∧ eventId ∈ s.journal.eventIds) → Q none s w)
    (permitted : ∀ event u, Wrote Sha256.sha256 ⟨s.journal, file⟩ call event u → ok w (.write event))
    (written : ∀ event u w', Wrote Sha256.sha256 ⟨s.journal, file⟩ call event u → env w (.write event) () w' →
      Q (some event) { s with journal := u.journal } w') :
    Keeps env ok (record call) Q R s w := by
  unfold record
  refine keeps_bind_iff.2 (keeps_get_iff.2 ?_)
  cases hperform : call.perform Sha256.sha256 ⟨s.journal, none⟩ with
  | error e => exact raises e
  | ok r =>
    obtain ⟨event, u⟩ := r
    cases event with
    | none =>
      refine present ?_
      cases call with
      | append kind open' fields =>
        obtain ⟨_, -, heq⟩ := map_eq_ok.1 hperform
        cases heq
      | emitOnce eventId kind open' fields =>
        change Store.emitOnce _ _ _ _ = _ at hperform
        unfold Store.emitOnce at hperform
        by_cases hid : eventId ∈ s.journal.eventIds
        · exact ⟨eventId, rfl, hid⟩
        · rw [if_neg hid] at hperform
          obtain ⟨_, -, heq⟩ := bind_eq_ok.1 hperform
          cases heq
      | close fields =>
        obtain ⟨_, -, heq⟩ := map_eq_ok.1 hperform
        cases heq
    | some event =>
      have wrote := perform_wrote (perform_file hperform file)
      refine keeps_bind_iff.2 ⟨permitted event _ wrote, fun r w' step => ?_⟩
      have post := written event _ w' wrote step
      exact keeps_bind_iff.2 (keeps_modify_iff.2 post)

/-- An event that is written is on disk. -/
theorem Persistent.wrote {log : List Entry} {call : Call} {event : Event} {u : Store} {w' : W} (persistent : Persistent env disk)
    (holds : Holds Sha256.sha256 log (stored s (disk w))) (wrote : Wrote Sha256.sha256 (stored s (disk w)) call event u)
    (step : env w (.write event) () w') : Holds Sha256.sha256 (log ++ [(call, event)]) ⟨u.journal, (disk w').journal⟩ := by
  have grown := holds.wrote wrote
  have file : u.file = ((disk w).after (.write event)).journal := wrote.file
  rw [persistent.after step]
  rwa [← file]

/-- A call of the journal, on a journal that holds a log. -/
theorem keeps_record {call : Call} {log : List Entry} {Q : Option Event → Worker → W → Prop}
    {R : Raised → Worker → W → Prop} (persistent : Persistent env disk)
    (holds : Holds Sha256.sha256 log (stored s (disk w))) (raises : ∀ e, R e s w)
    (present : (∃ eventId, call.onceId = some eventId ∧ eventId ∈ s.journal.eventIds) → Q none s w)
    (permitted : ∀ event u, Wrote Sha256.sha256 (stored s (disk w)) call event u → ok w (.write event))
    (written : ∀ event u w', Wrote Sha256.sha256 (stored s (disk w)) call event u → env w (.write event) () w' →
      Holds Sha256.sha256 (log ++ [(call, event)]) (stored { s with journal := u.journal } (disk w')) →
      Q (some event) { s with journal := u.journal } w') :
    Keeps env ok (record call) Q R s w := by
  refine keeps_record_wrote (disk w).journal raises present permitted fun event u w' wrote step => ?_
  exact written event u w' wrote step (persistent.wrote holds wrote step)

/-! ## The start of a worker -/

/-- An operation that reads what a worker starts from. -/
def Op.reads : Op → Bool
  | .readJournal | .readState | .newRunId => true
  | _ => false

/-- A worker that has started from a disk. -/
structure Booted (manifestSha256 : String) (before : Disk) (s : Worker) (d : Disk) : Prop where
  journal : Journal.load before.journal = .ok s.journal
  kept : d.journal = before.journal
  saved : d.state = some s.state
  state : ∃ state, (before.state = some state ∨ before.state = none ∧ ∃ runId, state = .fresh manifestSha256 runId) ∧
    s.state = { state with workerBoots := state.workerBoots + 1 }

/-- The start of a worker, in surroundings that allow it to read, to create a state and to count its boots. -/
theorem keeps_boot (ok : W → Op → Prop) (manifestSha256 : String) {P : W → Prop} (persistent : Persistent env disk)
    (reads : ∀ o w, o.reads = true → P w → ok w o ∧ ∀ r w', env w o r w' → P w')
    (creates : ∀ runId w, (disk w).state = none → P w → ok w (.save (.fresh manifestSha256 runId)) ∧
      ∀ w', env w (.save (.fresh manifestSha256 runId)) () w' → P w')
    (counts : ∀ state w, (disk w).state = some state → P w →
      ok w (.save { state with workerBoots := state.workerBoots + 1 }) ∧
      ∀ w', env w (.save { state with workerBoots := state.workerBoots + 1 }) () w' → P w') (h : P w) :
    Keeps env ok (boot manifestSha256)
      (fun opened s' w' => P w' ∧ (opened = true → Booted manifestSha256 (disk w) s' (disk w')) ∧ (opened = false → s' = s))
      (fun _ s' w' => P w' ∧ s' = s) s w := by
  unfold boot
  obtain ⟨allowed, next⟩ := reads .readJournal w rfl h
  refine keeps_bind_iff.2 (keeps_perform_iff.2 ⟨allowed, fun file w₁ step => ?_⟩)
  have h := next file w₁ step
  obtain rfl : file = (disk w).journal := persistent.reads step
  have same : disk w₁ = disk w := persistent.after step
  cases hload : Journal.load (disk w).journal with
  | error e => exact ⟨h, rfl⟩
  | ok journal =>
    dsimp only
    split
    · exact ⟨h, nofun, fun _ => rfl⟩
    have loads : Keeps env ok (loadState manifestSha256)
        (fun state _ w' => P w' ∧ (disk w').journal = (disk w).journal ∧ (disk w').state = some state ∧
          ((disk w).state = some state ∨ (disk w).state = none ∧ ∃ runId, state = .fresh manifestSha256 runId))
        (fun _ s' w' => P w' ∧ s' = s) s w₁ := by
      unfold loadState
      obtain ⟨allowed, next⟩ := reads .readState w₁ rfl h
      refine keeps_bind_iff.2 (keeps_perform_iff.2 ⟨allowed, fun file w₂ step => ?_⟩)
      have h := next file w₂ step
      have hfile : file = (disk w).state := (persistent.reads step).trans (congrArg Disk.state same)
      have same : disk w₂ = disk w := (persistent.after step).trans same
      cases file with
      | some state =>
        refine keeps_bind_iff.2 (keeps_raiseIf_iff.2 ⟨fun _ => ⟨h, rfl⟩, fun _ => ⟨h, ?_, ?_, .inl hfile.symm⟩⟩)
        · rw [same]
        · rw [same, ← hfile]
      | none =>
        obtain ⟨allowed, next⟩ := reads .newRunId w₂ rfl h
        refine keeps_bind_iff.2 (keeps_perform_iff.2 ⟨allowed, fun runId w₃ step => ?_⟩)
        have h := next runId w₃ step
        have same : disk w₃ = disk w := (persistent.after step).trans same
        obtain ⟨allowed, next⟩ := creates runId w₃ (by rw [same, ← hfile]) h
        refine keeps_bind_iff.2 (keeps_perform_iff.2 ⟨allowed, fun _ w₄ step => ?_⟩)
        refine ⟨next w₄ step, ?_, ?_, .inr ⟨hfile.symm, runId, rfl⟩⟩
        · rw [persistent.after step, Disk.after, same]
        · rw [persistent.after step, Disk.after]
    refine loads.bind fun state s w₂ ⟨h, kept, saved, origin⟩ => keeps_bind_iff.2 (keeps_set_iff.2 ?_)
    obtain ⟨allowed, next⟩ := counts state w₂ saved h
    refine keeps_bind_iff.2 (keeps_update_iff.2 ⟨allowed, fun w₃ step => ?_⟩)
    refine ⟨next w₃ step, fun _ => ?_, nofun⟩
    rw [persistent.after step]
    exact ⟨hload, kept, rfl, state, origin, rfl⟩

/-! ## Requests -/

/-- An attempt succeeds when its answer has an expected status. -/
theorem judge_eq_ok {texts : Texts} {expect : List ℕ} {reply : Reply} {answer : ℕ × Option Json × Bytes}
    (h : judge texts expect reply = .ok answer) : reply = .answered answer.1 answer.2.1 answer.2.2 ∧ answer.1 ∈ expect := by
  cases reply with
  | failed error => cases h
  | answered status body raw =>
    unfold judge at h
    dsimp only at h
    by_cases expected : status ∈ expect
    · rw [if_pos expected] at h
      cases h
      exact ⟨rfl, expected⟩
    · rw [if_neg expected] at h
      cases h

section Request

variable {texts : Texts} {r : Request} {expect : List ℕ} {attempts : ℕ} {interval : ℚ} {I : Worker → W → Prop}

/-- A request keeps what the waits and the attempts keep, and returns what an attempt gives it. -/
theorem keeps_request_answered {Q : ℕ × Option Json × Bytes → Worker → W → Prop}
    (prepares : ∀ s w, I s w → ok w (.prepare r) ∧ ∀ a w', env w (.prepare r) a w' → I s w')
    (sends : ∀ s w, I s w → ok w (.send r) ∧ ∀ reply w', env w (.send r) reply w' → I s w' ∧
      ∀ answer, judge texts expect reply = .ok answer → Q answer s w')
    (waits : ∀ s w wait, I s w → Keeps env ok (backOff wait) (fun _ => I) (fun _ => I) s w) (h : I s w) :
    Keeps env ok (request texts r expect attempts interval) Q (fun _ => I) s w := by
  have rest (left : ℕ) : ∀ lastError s w, I s w → Keeps env ok
      (attemptsFrom texts r expect attempts interval left lastError) Q (fun _ => I) s w := by
    induction left with
    | zero => exact fun _ s w h => h
    | succ left ih =>
      intro lastError s w h
      unfold attemptsFrom
      refine keeps_bind_iff.2 (keeps_perform_iff.2 ⟨(sends s w h).1, fun reply w' step => ?_⟩)
      have sent := (sends s w h).2 reply w' step
      cases hjudge : judge texts expect reply with
      | ok answer => exact sent.2 answer hjudge
      | error error =>
        have h := sent.1
        dsimp only
        split
        · exact (waits s w' _ h).bind fun _ s' w' h => ih error s' w' h
        · exact ih error s w' h
  unfold request
  refine keeps_bind_iff.2 (keeps_raiseIf_iff.2 ⟨fun _ => h, fun _ => ?_⟩)
  refine keeps_bind_iff.2 (keeps_raiseIf_iff.2 ⟨fun _ => h, fun _ => ?_⟩)
  refine keeps_bind_iff.2 (keeps_perform_iff.2 ⟨(prepares s w h).1, fun refused w' step => ?_⟩)
  have h := (prepares s w h).2 refused w' step
  cases refused with
  | some error => exact h
  | none => exact rest attempts _ s w' h

theorem keeps_request (prepares : ∀ s w, I s w → ok w (.prepare r) ∧ ∀ a w', env w (.prepare r) a w' → I s w')
    (sends : ∀ s w, I s w → ok w (.send r) ∧ ∀ a w', env w (.send r) a w' → I s w')
    (waits : ∀ s w wait, I s w → Keeps env ok (backOff wait) (fun _ => I) (fun _ => I) s w) (h : I s w) :
    Keeps env ok (request texts r expect attempts interval) (fun _ => I) (fun _ => I) s w := by
  refine keeps_request_answered prepares (fun s w h => ⟨(sends s w h).1, fun reply w' step => ?_⟩) waits h
  have sent := (sends s w h).2 reply w' step
  exact ⟨sent, fun _ _ => sent⟩

end Request

end Zkdeal.OwnerSoak
