import Zkdeal.FailoverProvider.DockerFencing
import Zkdeal.FailoverProvider.Errors
import Zkdeal.FailoverProvider.KubernetesFencing
import Zkdeal.FailoverProvider.Records

/-!
# Calls of the provider

What a call of `prepare` or `commit` does, whatever it is answered and wherever it is killed: the
memory changes by an `Update` at a time, and each update is saved before anything else happens
(`Progress`).  The operations of a driver appear among those of the call, with a save in place of
each checkpoint (`Carried`).
-/

namespace Zkdeal.FailoverProvider

open Interaction Python

/-! ## Drivers -/

namespace Driver

/-- What a driver observed before it promotes. -/
def Fenced : Driver → Option String → Trace Op Answer → Op → Prop
  | docker settings => DockerDriver.Fenced settings
  | kubernetes settings => KubernetesDriver.Fenced settings

variable (config : Config) (driver : Driver) (rounds : ℕ)

theorem prepare_ensures (request : Dict) (existingTarget : Option String) :
    Raising.Ensures (PrepareIssues (driver.Fenced existingTarget) existingTarget)
      (driver.prepare config rounds request existingTarget)
      (PrepareReturns request existingTarget) [] := by
  cases driver with
  | docker settings => exact DockerDriver.prepare_ensures config rounds request existingTarget
  | kubernetes settings => exact KubernetesDriver.prepare_ensures config rounds request existingTarget

theorem Fenced.external {driver : Driver} {existingTarget : Option String} {tr : Trace Op Answer}
    {o : Op} (h : driver.Fenced existingTarget tr o) : External o := by
  cases driver with
  | docker settings =>
    obtain ⟨_, _, _, _, _, _, _, _, _, _, _, rfl⟩ := h
    trivial
  | kubernetes settings =>
    obtain ⟨_, _, _, _, _, _, _, _, _, rfl⟩ := h
    trivial

theorem commit_ensures (operationId : String) :
    Raising.Ensures (fun _ o => ¬Promotes o ∧ External o) (driver.commit config rounds operationId)
      (fun response _ => response = commitResponse config operationId) [] := by
  cases driver with
  | kubernetes settings => exact KubernetesDriver.commit_ensures rounds operationId
  | docker settings =>
    refine (DockerDriver.commit_ensures config rounds operationId).weaken fun tr o h => ?_
    rcases h with plain | activated
    · exact ⟨plain.not_promotes, plain.external⟩
    · refine ⟨activated.not_promotes, ?_⟩
      obtain ⟨_, _, _, _, rfl⟩ := activated
      trivial

theorem prepare_throws (request : Dict) (existingTarget : Option String) :
    Raising.Throws Foreign (driver.prepare config rounds request existingTarget) := by
  cases driver with
  | docker settings => exact DockerDriver.throws_prepare config settings rounds request existingTarget
  | kubernetes settings =>
    exact KubernetesDriver.throws_prepare settings config rounds request existingTarget

theorem commit_throws (operationId : String) :
    Raising.Throws Foreign (driver.commit config rounds operationId) := by
  cases driver with
  | docker settings => exact DockerDriver.throws_commit config settings rounds operationId
  | kubernetes settings => exact KubernetesDriver.throws_commit settings config rounds operationId

end Driver

namespace Provider

/-! ## Progress of a call -/

section Progress

variable {k : OpKey} {m s s' s₀ : State} {tr dtr ptr : Trace Op Answer}

/-- The memory of a call that started with `m` is `s` after the trace `tr`, all of it saved. -/
inductive Progress (k : OpKey) (m : State) : Trace Op Answer → State → Prop where
  | start : Progress k m [] m
  | event {tr : Trace Op Answer} {s : State} {o : Op} (r : Answer o) (h : Progress k m tr s)
      (other : ∀ s', o ≠ .save s') : Progress k m (tr ++ [⟨o, r⟩]) s
  | saved {tr : Trace Op Answer} {s s' : State} (h : Progress k m tr s) (update : State.Update k s s') :
      Progress k m (tr ++ [⟨.save s', some ()⟩]) s'

/-- The memory of a call that raised: the last save may have failed. -/
def Interrupted (k : OpKey) (m : State) (tr : Trace Op Answer) (s : State) : Prop :=
  Progress k m tr s ∨ ∃ tr₀ s₀, Progress k m tr₀ s₀ ∧ State.Update k s₀ s ∧ tr = tr₀ ++ [⟨.save s, none⟩]

theorem Progress.extend {l : Trace Op Answer} (h : Progress k m tr s)
    (hl : ∀ e ∈ l, ∀ s', e.1 ≠ .save s') : Progress k m (tr ++ l) s := by
  induction l using List.reverseRecOn with
  | nil => rwa [List.append_nil]
  | append_singleton l e ih =>
    rw [← List.append_assoc]
    exact .event e.2 (ih fun d hd => hl d (List.mem_append_left _ hd)) (hl e (by simp))

/-- The operations `dtr` of a driver, called with the memory `s₀`, appear as `ptr` among those of the
provider, and the memory is then `s`. -/
inductive Carried (k : OpKey) (s₀ : State) : Trace Op Answer → Trace Op Answer → State → Prop where
  | start : Carried k s₀ [] [] s₀
  | event {dtr ptr : Trace Op Answer} {s : State} {o : Op} (r : Answer o) (h : Carried k s₀ dtr ptr s)
      (external : External o) : Carried k s₀ (dtr ++ [⟨o, r⟩]) (ptr ++ [⟨o, r⟩]) s
  | recorded {dtr ptr : Trace Op Answer} {s : State} {target : String} (capturedAt : ℤ)
      (h : Carried k s₀ dtr ptr s) (hne : target ≠ "")
      (update : State.Update k s (s.modify k (Operation.captured target capturedAt))) :
      Carried k s₀ (dtr ++ [⟨.checkpoint target, ()⟩])
        (ptr ++ [⟨.unixMs, capturedAt⟩,
          ⟨.save (s.modify k (Operation.captured target capturedAt)), some ()⟩])
        (s.modify k (Operation.captured target capturedAt))

theorem External.ne_save {o : Op} (h : External o) (s : State) : o ≠ .save s := by
  rintro rfl
  exact h

theorem Carried.progress (h : Carried k s₀ dtr ptr s) (before : Progress k m tr s₀) :
    Progress k m (tr ++ ptr) s := by
  induction h with
  | start => rwa [List.append_nil]
  | event r _ external ih =>
    rw [← List.append_assoc]
    exact .event r ih (External.ne_save external)
  | recorded capturedAt _ _ update ih =>
    have clocked := Progress.event (o := .unixMs) capturedAt ih nofun
    rw [List.append_assoc] at clocked
    rw [show ∀ (a b : Event Op Answer), [a, b] = [a] ++ [b] from fun _ _ => rfl, ← List.append_assoc,
      ← List.append_assoc, List.append_assoc tr]
    exact .saved clocked update

/-- What carrying out a driver's operations does to the record of the operation. -/
theorem Carried.record (h : Carried k s₀ dtr ptr s) {a : Operation} (found : s₀.find k = some a) :
    ∃ b, s.find k = some b ∧ b.primaryTargetLsn = (checkpoints dtr).getLast?.or a.primaryTargetLsn ∧
      b.prepareResponse = a.prepareResponse ∧ b.prepareKeySha256 = a.prepareKeySha256 ∧
      b.prepareRequestSha256 = a.prepareRequestSha256 := by
  induction h with
  | start => exact ⟨a, found, rfl, rfl, rfl, rfl⟩
  | @event dtr _ _ o r _ external ih =>
    have silent : checkpoints [⟨o, r⟩] = [] := by
      cases o <;> first | rfl | exact external.elim
    rw [checkpoints_append, silent, List.append_nil]
    exact ih
  | @recorded _ _ s target capturedAt _ _ _ ih =>
    obtain ⟨b, hb, -, hresponse, hkey, hrequest⟩ := ih
    refine ⟨_, State.find_modify hb, ?_, hresponse, hkey, hrequest⟩
    rw [checkpoints_append, show checkpoints [⟨.checkpoint target, ()⟩] = [target] from rfl,
      List.getLast?_concat]
    rfl

theorem Carried.eq_of_checkpoints (h : Carried k s₀ dtr ptr s) (hnone : checkpoints dtr = []) : s = s₀ := by
  induction h with
  | start => rfl
  | event r _ external ih =>
    rw [checkpoints_append, List.append_eq_nil_iff] at hnone
    exact ih hnone.1
  | recorded =>
    rw [checkpoints_append, List.append_eq_nil_iff] at hnone
    exact absurd hnone.2 (List.cons_ne_nil _ _)

theorem Carried.checkpoint_ne (h : Carried k s₀ dtr ptr s) : ∀ target ∈ checkpoints dtr, target ≠ "" := by
  induction h with
  | start => simp [checkpoints]
  | @event dtr _ _ o r _ external ih =>
    have silent : checkpoints [⟨o, r⟩] = [] := by
      cases o <;> first | rfl | exact external.elim
    rwa [checkpoints_append, silent, List.append_nil]
  | @recorded _ _ _ target _ _ hne _ ih =>
    rw [checkpoints_append]
    intro t ht
    rcases List.mem_append.1 ht with ht | ht
    · exact ih t ht
    · obtain rfl : t = target := by simpa [checkpoints] using ht
      exact hne

end Progress

/-! ## Rules -/

section Rules

variable {ok : Trace Op Answer → Op → Prop} {R : Raised → State → Trace Op Answer → Prop}
variable {k : OpKey} {m s : State} {tr : Trace Op Answer}

theorem keeps_now {Q : ℤ → State → Trace Op Answer → Prop} (hok : ok tr .unixMs)
    (hQ : ∀ t, Q t s (tr ++ [⟨.unixMs, t⟩])) : Stateful.Keeps recording ok now Q R s tr :=
  Stateful.keeps_perform_iff.2 ⟨hok, fun t _ step => step ▸ hQ t⟩

theorem keeps_save {Q : Unit → State → Trace Op Answer → Prop} (hok : ok tr (.save s))
    (hQ : Q () s (tr ++ [⟨.save s, some ()⟩])) (hR : R .other s (tr ++ [⟨.save s, none⟩])) :
    Stateful.Keeps recording ok save Q R s tr := by
  refine Stateful.keeps_bind_iff.2 (Stateful.keeps_get_iff.2 (Stateful.keeps_attempt_iff.2 ⟨hok, ?_⟩))
  rintro (_ | ⟨⟩) _ rfl
  · exact hR
  · exact hQ

/-- An update of the memory and its save. -/
theorem keeps_update {f : State → State} {Q : Unit → State → Trace Op Answer → Prop}
    (h : Progress k m tr s) (update : State.Update k s (f s))
    (hok : ok tr (.save (f s))) (hR : ∀ s' tr', Interrupted k m tr' s' → R .other s' tr')
    (hQ : Progress k m (tr ++ [⟨.save (f s), some ()⟩]) (f s) →
      Q () (f s) (tr ++ [⟨.save (f s), some ()⟩])) :
    Stateful.Keeps recording ok (do
      modify f
      save) Q R s tr := by
  refine Stateful.keeps_bind_iff.2 (Stateful.keeps_modify_iff.2 (keeps_save hok ?_ ?_))
  · exact hQ (.saved h update)
  · exact hR _ _ (.inr ⟨tr, s, h, update, rfl⟩)

theorem keeps_update_then {α : Type} {x : Serving α} {f : State → State}
    {Q : α → State → Trace Op Answer → Prop} (h : Progress k m tr s) (update : State.Update k s (f s))
    (hok : ok tr (.save (f s))) (hR : ∀ s' tr', Interrupted k m tr' s' → R .other s' tr')
    (hQ : Progress k m (tr ++ [⟨.save (f s), some ()⟩]) (f s) →
      Stateful.Keeps recording ok x Q R (f s) (tr ++ [⟨.save (f s), some ()⟩])) :
    Stateful.Keeps recording ok (do
      modify f
      save
      x) Q R s tr := by
  have saved := Stateful.keeps_bind_iff.1 (keeps_update
    (Q := fun _ s' tr' => Stateful.Keeps recording ok x Q R s' tr') h update hok hR hQ)
  exact Stateful.keeps_bind_iff.2 (saved.mono (fun _ _ h => h)
    (fun _ _ _ h => Stateful.keeps_bind_iff.2 h) fun _ _ _ h => h)

/-- A program of the driver's signature that performs plain operations. -/
theorem keeps_plain {α : Type} {x : Platform α} {Q : α → State → Trace Op Answer → Prop}
    (hx : Raising.Performs Plain x) (ht : Raising.Throws Foreign x) (h : Progress k m tr s)
    (hok : ∀ tr' o, Progress k m tr' s → Plain o → ok tr' o)
    (hR : ∀ e tr', Progress k m tr' s → Foreign e → R e s tr')
    (hQ : ∀ a l, (∀ e ∈ l, Plain e.1) → Progress k m (tr ++ l) s → Q a s (tr ++ l)) :
    Stateful.Keeps recording ok (Stateful.lift x) Q R s tr := by
  have grows : Raising.Meets recording ok x
      (fun _ tr' => ∃ l, tr' = tr ++ l ∧ (∀ e ∈ l, Plain e.1) ∧ Progress k m tr' s)
      (fun _ tr' => ∃ l, tr' = tr ++ l ∧ (∀ e ∈ l, Plain e.1) ∧ Progress k m tr' s) tr := by
    refine hx.meets (fun tr' o => ?_) ?_ ⟨[], (List.append_nil tr).symm, nofun, h⟩
    · rintro ⟨_, _, _, h'⟩ plain
      exact hok tr' o h' plain
    · rintro tr' o r _ ⟨l, rfl, hl, h'⟩ plain rfl
      refine ⟨l ++ [⟨o, r⟩], List.append_assoc .., fun e he => ?_, .event r h' fun s' => ?_⟩
      · rcases List.mem_append.1 he with he | he
        · exact hl e he
        · rwa [List.mem_singleton.1 he]
      · exact External.ne_save plain.external s'
  refine Stateful.keeps_lift_iff.2 (Raising.Meets.mono (ht.meets_and grows) (fun _ _ h => h) ?_ ?_)
  · rintro a _ ⟨l, rfl, hl, h'⟩
    exact hQ a l hl h'
  · rintro e _ ⟨foreign, l, rfl, hl, h'⟩
    exact hR e _ h' foreign

end Rules

/-! ## Prepare -/

section Prepare

variable (config : Config) (driver : Driver) (rounds : ℕ)
variable (k : OpKey) (key : String) (request : Dict) (m : State)

/-- The record is the one of the request, presented with its own key. -/
def Bound (a : Operation) : Prop :=
  a.prepareKeySha256 = Sha256.hexdigest key ∧ a.prepareRequestSha256 = canonicalHash (.obj request)

/-- The driver was called with what the memory held, and has performed `dtr` since. -/
def Driving (existing : Option String) (dtr tr : Trace Op Answer) (s : State) : Prop :=
  ∃ tr₀ ptr s₀ a, tr = tr₀ ++ ⟨.enter (.prepare request existing), ()⟩ :: ptr ∧
    Progress k m tr₀ s₀ ∧ s₀.find k = some a ∧ a.primaryTargetLsn = existing ∧
    stored a.prepareResponse = none ∧ Bound key request a ∧ Carried k s₀ dtr ptr s

/-- The operations of a `prepare` call, after the trace `tr` and with the memory `s`. -/
def PrepareMay (s : State) (tr : Trace Op Answer) (o : Op) : Prop :=
  Plain o ∨ (∃ s', o = .save s' ∧ State.Update k s s') ∨
    (∃ existing a, o = .enter (.prepare request existing) ∧ s.find k = some a ∧
      stored a.prepareResponse = none) ∨
    ∃ existing dtr, Driving k key request m existing dtr tr s ∧ driver.Fenced existing dtr o

/-- A `prepare` call performs operations that it may perform. -/
def PrepareOk (tr : Trace Op Answer) (o : Op) : Prop :=
  ∃ s, Progress k m tr s ∧ PrepareMay driver k key request m s tr o

/-- What a `prepare` call answers: the response of the record, which was stored before or is saved
with the last operation of the call. -/
def PrepareAnswers (response : Dict) (s : State) (tr : Trace Op Answer) : Prop :=
  Progress k m tr s ∧ ∃ a, s.find k = some a ∧ Bound key request a ∧
    stored a.prepareResponse = some response ∧ (tr = [] ∨ ∃ tr₀, tr = tr₀ ++ [⟨.save s, some ()⟩])

/-- What a `prepare` call raises. -/
def PrepareRaises (e : Raised) (s : State) (tr : Trace Op Answer) : Prop :=
  Interrupted k m tr s ∧
    (¬Foreign e → Coded "idempotency-conflict" e ∧ ∃ a, m.find k = some a ∧ ¬Bound key request a)

variable {driver k key request m} {s : State} {tr : Trace Op Answer}

theorem Interrupted.prepareRaises (h : Interrupted k m tr s) {e : Raised} (he : Foreign e) :
    PrepareRaises k key request m e s tr := ⟨h, fun hne => absurd he hne⟩

theorem Progress.prepareOk (h : Progress k m tr s) {o : Op} (may : PrepareMay driver k key request m s tr o) :
    PrepareOk driver k key request m tr o := ⟨s, h, may⟩

theorem Driving.progress {existing : Option String} {dtr : Trace Op Answer}
    (h : Driving k key request m existing dtr tr s) : Progress k m tr s := by
  obtain ⟨tr₀, ptr, s₀, a, rfl, before, -, -, -, -, carried⟩ := h
  have entered : Progress k m (tr₀ ++ [⟨.enter (.prepare request existing), ()⟩]) s₀ :=
    .event _ before nofun
  simpa using carried.progress entered

/-- The record while the driver is working. -/
theorem Driving.record {existing : Option String} {dtr : Trace Op Answer}
    (h : Driving k key request m existing dtr tr s) : ∃ b, s.find k = some b ∧
      b.primaryTargetLsn = (checkpoints dtr).getLast?.or existing ∧ stored b.prepareResponse = none ∧
      Bound key request b := by
  obtain ⟨tr₀, ptr, s₀, a, -, -, found, rfl, unanswered, bound, carried⟩ := h
  obtain ⟨b, hb, htarget, hresponse, hkey, hrequest⟩ := carried.record found
  exact ⟨b, hb, htarget, by rw [hresponse, unanswered], hkey.trans bound.1, hrequest.trans bound.2⟩

/-- Carrying out an operation of the driver. -/
theorem keeps_carry {existing : Option String} {dtr : Trace Op Answer} {o : Op}
    (h : Driving k key request m existing dtr tr s)
    (issues : PrepareIssues (driver.Fenced existing) existing dtr o) :
    Stateful.Keeps recording (PrepareOk driver k key request m) (carry k o)
      (fun r s' tr' => Driving k key request m existing (dtr ++ [⟨o, r⟩]) tr' s')
      (PrepareRaises k key request m) s tr := by
  have step (external : External o) (may : PrepareMay driver k key request m s tr o) :
      Stateful.Keeps recording (PrepareOk driver k key request m)
        (Stateful.perform o : Serving (Answer o))
        (fun r s' tr' => Driving k key request m existing (dtr ++ [⟨o, r⟩]) tr' s')
        (PrepareRaises k key request m) s tr := by
    refine Stateful.keeps_perform_iff.2 ⟨h.progress.prepareOk may, ?_⟩
    rintro r _ rfl
    obtain ⟨tr₀, ptr, s₀, a, rfl, before, found, htarget, unanswered, bound, carried⟩ := h
    exact ⟨tr₀, ptr ++ [⟨o, r⟩], s₀, a, by simp, before, found, htarget, unanswered, bound,
      carried.event r external⟩
  rcases issues with plain | ⟨target, rfl, hlsn, hnone, first⟩ | fenced
  · have external := plain.external
    cases o <;> first | exact step external (.inl plain) | exact plain.elim
  · obtain ⟨b, found, htarget, unanswered, bound⟩ := h.record
    have hne : target ≠ "" := by
      rintro rfl
      exact absurd hlsn (by decide)
    have untargeted : b.primaryTargetLsn.getD "" = "" := by rw [htarget, first]; exact hnone
    refine Stateful.keeps_bind_iff.2 (keeps_now (h.progress.prepareOk (.inl trivial)) fun capturedAt => ?_)
    have clocked : Progress k m (tr ++ [⟨.unixMs, capturedAt⟩]) s := .event (o := .unixMs) _ h.progress nofun
    have update : State.Update k s (s.modify k (Operation.captured target capturedAt)) :=
      .modify found (.capture capturedAt untargeted hne unanswered)
    refine keeps_update clocked update (clocked.prepareOk (.inr (.inl ⟨_, rfl, update⟩)))
      (fun _ _ h => h.prepareRaises foreign_other) fun _ => ?_
    obtain ⟨tr₀, ptr, s₀, a, rfl, before, found, htarget, unanswered, bound, carried⟩ := h
    exact ⟨tr₀, _, s₀, a, by simp, before, found, htarget, unanswered, bound,
      carried.recorded capturedAt hne update⟩
  · have external := Driver.Fenced.external fenced
    have may : PrepareMay driver k key request m s tr o := .inr (.inr (.inr ⟨existing, dtr, h, fenced⟩))
    cases o <;> first | exact step external may | exact external.elim

/-- The call of the driver. -/
theorem keeps_enter_prepare {existing : Option String} {a : Operation} (h : Progress k m tr s)
    (found : s.find k = some a) (htarget : a.primaryTargetLsn = existing)
    (unanswered : stored a.prepareResponse = none) (bound : Bound key request a) :
    Stateful.Keeps recording (PrepareOk driver k key request m)
      (enter k (.prepare request existing) (driver.prepare config rounds request existing))
      (fun response s' tr' => ∃ dtr, PrepareReturns request existing response dtr ∧
        Driving k key request m existing dtr tr' s')
      (PrepareRaises k key request m) s tr := by
  refine Stateful.keeps_bind_iff.2 (Stateful.keeps_perform_iff.2
    ⟨h.prepareOk (.inr (.inr (.inl ⟨existing, a, rfl, found, unanswered⟩))), ?_⟩)
  rintro ⟨⟩ _ rfl
  have entered : Driving k key request m existing []
      (tr ++ [⟨.enter (.prepare request existing), ()⟩]) s :=
    ⟨tr, [], s, a, by simp, h, found, htarget, unanswered, bound, .start⟩
  have driven := (driver.prepare_throws config rounds request existing).meets
    (driver.prepare_ensures config rounds request existing)
  let B (dtr : Trace Op Answer) (s' : State) (tr' : Trace Op Answer) : Prop :=
    Driving k key request m existing dtr tr' s'
  refine Stateful.keeps_interpret (B := B) ?_ ?_ driven entered
  · intro o dtr s' tr' driving issues
    exact (keeps_carry driving issues).mono (fun _ _ h => h) (fun r _ _ h => ⟨_, rfl, h⟩) fun _ _ _ h => h
  · intro e dtr s' tr' foreign driving
    exact Interrupted.prepareRaises (.inl (Driving.progress driving)) foreign

/-- A target that a `prepare` call rests on is the one of the record. -/
theorem Driving.returned {existing : Option String} {dtr : Trace Op Answer} {response : Dict}
    (h : Driving k key request m existing dtr tr s) (returns : PrepareReturns request existing response dtr) :
    ∃ b id target replay, s.find k = some b ∧ b.primaryTargetLsn.getD "" ≠ "" ∧
      response = prepareResponse id target replay ∧ stored b.prepareResponse = none ∧ Bound key request b := by
  obtain ⟨b, found, htarget, unanswered, bound⟩ := h.record
  obtain ⟨target, replay, targets, rfl⟩ := returns
  refine ⟨b, _, target, replay, found, ?_, rfl, unanswered, bound⟩
  rcases targets with ⟨rfl, hne, hnone⟩ | ⟨-, hone⟩
  · simpa [htarget, hnone] using hne
  · obtain ⟨tr₀, ptr, s₀, a, -, -, -, -, -, -, carried⟩ := h
    simpa [htarget, hone] using carried.checkpoint_ne target (by simp [hone])

theorem keeps_perform {a : Operation} (h : Progress k m tr s) (found : s.find k = some a)
    (unanswered : stored a.prepareResponse = none) (bound : Bound key request a) :
    Stateful.Keeps recording (PrepareOk driver k key request m) (perform config driver rounds k request)
      (PrepareAnswers k key request m) (PrepareRaises k key request m) s tr := by
  have plain {tr' : Trace Op Answer} (o : Op) (h : Progress k m tr' s) (ho : Plain o) :
      PrepareOk driver k key request m tr' o := h.prepareOk (.inl ho)
  unfold perform
  refine Stateful.keeps_bind_iff.2 (keeps_plain (performs_verifyWitnessFailures config request)
    (throws_verifyWitnessFailures config request) h (fun _ => plain)
    (fun _ _ h => Interrupted.prepareRaises (.inl h)) fun _ _ _ h => ?_)
  refine Stateful.keeps_bind_iff.2 (keeps_plain (performs_verifyStandby config _)
    (throws_verifyStandby config _) h (fun _ => plain)
    (fun _ _ h => Interrupted.prepareRaises (.inl h)) fun _ _ _ h => ?_)
  refine Stateful.keeps_bind_iff.2 (Stateful.keeps_get_iff.2 ?_)
  rw [found, Option.bind_some]
  refine Stateful.keeps_bind_iff.2 ((keeps_enter_prepare config rounds h found rfl unanswered bound).mono
    (fun _ _ h => h) ?_ fun _ _ _ h => h)
  rintro response s tr ⟨dtr, returns, driving⟩
  refine Stateful.keeps_bind_iff.2 (Stateful.keeps_raiseIf_iff.2
    ⟨fun _ => Interrupted.prepareRaises (.inl driving.progress) (by simp), fun right => ?_⟩)
  obtain ⟨b, id, target, replay, found, htarget, rfl, unanswered, bound⟩ := driving.returned returns
  have same : k.json.eq id = true := by simpa [prepareResponse, Dict.get] using right
  have hne : prepareResponse id target replay ≠ [] := List.cons_ne_nil _ _
  have update : State.Update k s (s.modify k (Operation.prepared (prepareResponse id target replay))) :=
    .modify found (.prepare unanswered htarget same)
  refine keeps_update_then driving.progress update
    (driving.progress.prepareOk (.inr (.inl ⟨_, rfl, update⟩)))
    (fun _ _ h => h.prepareRaises foreign_other) fun h => ?_
  exact ⟨h, b.prepared (prepareResponse id target replay), State.find_modify found, bound, 
    stored_eq_some_iff.2 ⟨rfl, hne⟩,
    .inr ⟨tr, rfl⟩⟩

theorem prepare_keeps (hk : ∀ k', candidate request = some k' → k' = k) :
    Stateful.Keeps recording (PrepareOk driver k key request m) (prepare config driver rounds key request)
      (PrepareAnswers k key request m) (PrepareRaises k key request m) m [] := by
  have here : Progress k m [] m := .start
  have stop {e : Raised} (he : Foreign e) : PrepareRaises k key request m e m [] :=
    Interrupted.prepareRaises (.inl here) he
  unfold prepare
  refine Stateful.keeps_bind_iff.2 (Stateful.keeps_raiseIf_iff.2 ⟨fun _ => stop (by simp), fun _ => ?_⟩)
  refine Stateful.keeps_bind_iff.2 (Stateful.keeps_raiseIf_iff.2 ⟨fun _ => stop (by simp), fun _ => ?_⟩)
  split
  · exact stop (by simp)
  rename_i k' hcandidate
  obtain rfl := hk k' hcandidate
  refine Stateful.keeps_bind_iff.2 (Stateful.keeps_raiseIf_iff.2 ⟨fun _ => stop (by simp), fun _ => ?_⟩)
  refine Stateful.keeps_bind_iff.2 (Stateful.keeps_raiseIf_iff.2 ⟨fun _ => stop (by simp), fun _ => ?_⟩)
  refine Stateful.keeps_bind_iff.2 (Stateful.keeps_get_iff.2 ?_)
  split
  · rename_i a found
    refine Stateful.keeps_bind_iff.2 (Stateful.keeps_raiseIf_iff.2 ⟨fun other => ?_, fun same => ?_⟩)
    · refine ⟨.inl here, fun _ => ⟨by simp, a, found, fun bound => ?_⟩⟩
      simp [bound.1, bound.2] at other
    have bound : Bound key request a := by simpa [Bound, not_or] using same
    split
    · rename_i response hresponse
      exact ⟨here, a, found, bound, hresponse, .inl rfl⟩
    · exact keeps_perform config rounds here found ‹_› bound
  · rename_i fresh
    refine Stateful.keeps_bind_iff.2 (Stateful.keeps_bind_iff.2
      (keeps_now (here.prepareOk (.inl trivial)) fun createdAt => ?_))
    have clocked : Progress k' m ([] ++ [⟨.unixMs, createdAt⟩]) m := .event (o := .unixMs) _ here nofun
    have update : State.Update k' m (m.insert k' (Operation.opened k'.json (Sha256.hexdigest key)
        (canonicalHash (.obj request)) createdAt)) := .insert _ _ _ fresh
    refine keeps_update clocked update (clocked.prepareOk (.inr (.inl ⟨_, rfl, update⟩)))
      (fun _ _ h => h.prepareRaises foreign_other) fun saved => ?_
    exact keeps_perform config rounds saved (State.find_insert fresh) rfl ⟨rfl, rfl⟩

end Prepare

/-! ## Commit -/

section Commit

variable (config : Config) (driver : Driver) (rounds : ℕ)
variable (operationId key : String) (request : Dict) (m : State)

/-- The record is being committed under the key, for the request. -/
def Committing (a : Operation) : Prop :=
  a.phase ≠ .preparing ∧ boundKey a = some (Sha256.hexdigest key) ∧
    a.commitRequestSha256 = some (canonicalHash (.obj request))

/-- The operations of a `commit` call, after the trace `tr` and with the memory `s`. -/
def CommitMay (s : State) (o : Op) : Prop :=
  External o ∧ ¬Promotes o ∨ (∃ s', o = .save s' ∧ State.Update (.text operationId) s s') ∨
    ∃ owner a, o = .enter (.commit operationId owner) ∧ s.find (.text operationId) = some a ∧
      Committing key request a ∧ stored a.commitResponse = none

/-- A `commit` call performs operations that it may perform. -/
def CommitOk (tr : Trace Op Answer) (o : Op) : Prop :=
  ∃ s, Progress (.text operationId) m tr s ∧ CommitMay operationId key request s o

/-- What a `commit` call answers: the response of the record, which was stored before or is saved
with the last operation of the call. -/
def CommitAnswers (response : Dict) (s : State) (tr : Trace Op Answer) : Prop :=
  Progress (.text operationId) m tr s ∧ ∃ a, s.find (.text operationId) = some a ∧
    Committing key request a ∧ stored a.commitResponse = some response ∧
    (tr = [] ∨ ∃ tr₀, tr = tr₀ ++ [⟨.save s, some ()⟩])

/-- The record is being committed under another key, or for another request. -/
def Conflicting (a : Operation) : Prop :=
  a.phase ≠ .preparing ∧ boundKey a ≠ none ∧ ¬Committing key request a

/-- What a `commit` call raises. -/
def CommitRaises (e : Raised) (s : State) (tr : Trace Op Answer) : Prop :=
  Interrupted (.text operationId) m tr s ∧
    (Coded "idempotency-conflict" e → ∃ a, m.find (.text operationId) = some a ∧ Conflicting key request a) ∧
    (Coded "checkpoint-missing" e → ∃ a, s.find (.text operationId) = some a ∧
      a.phase ≠ .preparing ∧ a.targetCapturedAtUnixMs = none)

variable {driver operationId key request m} {s : State} {tr : Trace Op Answer}

theorem Progress.commitOk (h : Progress (.text operationId) m tr s) {o : Op}
    (may : CommitMay operationId key request s o) : CommitOk operationId key request m tr o :=
  ⟨s, h, may⟩

theorem Interrupted.commitRaises (h : Interrupted (.text operationId) m tr s) {e : Raised}
    (he : Foreign e) : CommitRaises operationId key request m e s tr :=
  ⟨h, fun hc => absurd hc he.1, fun hc => absurd hc he.2⟩

/-- The call of the driver leaves the memory alone. -/
theorem keeps_enter_commit {owner : Json} {a : Operation} (h : Progress (.text operationId) m tr s)
    (found : s.find (.text operationId) = some a) (committing : Committing key request a)
    (unanswered : stored a.commitResponse = none) :
    Stateful.Keeps recording (CommitOk operationId key request m)
      (enter (.text operationId) (.commit operationId owner) (driver.commit config rounds operationId))
      (fun response s' tr' => response = commitResponse config operationId ∧ s' = s ∧
        Progress (.text operationId) m tr' s)
      (CommitRaises operationId key request m) s tr := by
  refine Stateful.keeps_bind_iff.2 (Stateful.keeps_perform_iff.2
    ⟨h.commitOk (.inr (.inr ⟨owner, a, rfl, found, committing, unanswered⟩)), ?_⟩)
  rintro ⟨⟩ _ rfl
  have driven := (driver.commit_throws config rounds operationId).meets
    (driver.commit_ensures config rounds operationId)
  let B (_ : Trace Op Answer) (s' : State) (tr' : Trace Op Answer) : Prop :=
    s' = s ∧ Progress (.text operationId) m tr' s
  have entered : B [] s (tr ++ [⟨.enter (.commit operationId owner), ()⟩]) := ⟨rfl, .event _ h nofun⟩
  refine (Stateful.keeps_interpret (B := B) ?_ ?_ driven entered).mono (fun _ _ h => h) ?_
    fun _ _ _ h => h
  · rintro o dtr s' tr' ⟨rfl, before⟩ ⟨quiet, external⟩
    have step : Stateful.Keeps recording (CommitOk operationId key request m)
        (Stateful.perform o : Serving (Answer o))
        (fun r s₁ tr₁ => ∃ dtr', recording dtr o r dtr' ∧ B dtr' s₁ tr₁)
        (CommitRaises operationId key request m) s' tr' := by
      refine Stateful.keeps_perform_iff.2 ⟨before.commitOk (.inl ⟨external, quiet⟩), ?_⟩
      rintro r _ rfl
      exact ⟨_, rfl, rfl, .event r before (External.ne_save external)⟩
    cases o <;> first | exact step | exact external.elim
  · rintro e dtr s' tr' foreign ⟨rfl, before⟩
    exact Interrupted.commitRaises (.inl before) foreign
  · rintro response s' tr' ⟨dtr, rfl, rfl, before⟩
    exact ⟨rfl, rfl, before⟩

theorem keeps_finish {owner : Json} {a : Operation} (h : Progress (.text operationId) m tr s)
    (found : s.find (.text operationId) = some a) (committing : Committing key request a)
    (unanswered : stored a.commitResponse = none) :
    Stateful.Keeps recording (CommitOk operationId key request m)
      (finish config driver rounds operationId owner) (CommitAnswers operationId key request m)
      (CommitRaises operationId key request m) s tr := by
  unfold finish
  refine Stateful.keeps_bind_iff.2 ((keeps_enter_commit config rounds h found committing unanswered).mono
    (fun _ _ h => h) ?_ fun _ _ _ h => h)
  rintro response s tr ⟨rfl, rfl, h⟩
  refine Stateful.keeps_bind_iff.2 (Stateful.keeps_raiseIf_iff.2
    ⟨fun _ => Interrupted.commitRaises (.inl h) (by simp), fun _ => ?_⟩)
  refine Stateful.keeps_bind_iff.2 (keeps_now (h.commitOk (o := .unixMs) (.inl ⟨trivial, id⟩)) fun committedAt => ?_)
  have h : Progress (.text operationId) m (tr ++ [⟨.unixMs, committedAt⟩]) s := .event (o := .unixMs) _ h (by simp)
  refine Stateful.keeps_bind_iff.2 (Stateful.keeps_get_iff.2 ?_)
  rw [found, Option.bind_some]
  split
  · exact ⟨.inl h, fun hc => absurd hc (by simp), fun _ => ⟨a, found, committing.1, ‹_›⟩⟩
  · have hne : measured (commitResponse config operationId) ‹ℤ› committedAt ≠ [] :=
      Dict.set_ne_nil _ _ _
    have update : State.Update (.text operationId) s (s.modify (.text operationId)
        (Operation.committed (measured (commitResponse config operationId) ‹ℤ› committedAt) committedAt)) :=
      .modify found (.commit config operationId _ committedAt unanswered (by simp [committing.2.1])
        committing.1)
    refine keeps_update_then h update (h.commitOk (.inr (.inl ⟨_, rfl, update⟩)))
      (fun _ _ h => h.commitRaises foreign_other) fun h => ?_
    exact ⟨h, _, State.find_modify found, ⟨by simp [Operation.committed], committing.2⟩, stored_eq_some_iff.2 ⟨rfl, hne⟩,
      .inr ⟨_, rfl⟩⟩

theorem text_of_ownerHash {owner : Json} (h : ownerHash request = some owner) :
    ∃ text, owner.text = some text ∧ isHex64 text = true := by
  unfold ownerHash at h
  obtain ⟨value, -, h⟩ := Option.bind_eq_some_iff.1 h
  obtain ⟨text, htext, h⟩ := Option.bind_eq_some_iff.1 h
  split at h
  · cases h
    exact ⟨text, htext, ‹_›⟩
  · cases h

theorem commit_keeps (wf : State.WellFormed m) :
    Stateful.Keeps recording (CommitOk operationId key request m)
      (commit config driver rounds operationId key request) (CommitAnswers operationId key request m)
      (CommitRaises operationId key request m) m [] := by
  have here : Progress (.text operationId) m [] m := .start
  have stop {e : Raised} (he : Foreign e) : CommitRaises operationId key request m e m [] :=
    Interrupted.commitRaises (.inl here) he
  unfold commit
  refine Stateful.keeps_bind_iff.2 (Stateful.keeps_raiseIf_iff.2
    ⟨fun _ => stop (by simp), fun _ => ?_⟩)
  refine Stateful.keeps_bind_iff.2 (Stateful.keeps_raiseIf_iff.2
    ⟨fun _ => stop (by simp), fun _ => ?_⟩)
  split
  · exact stop (by simp)
  rename_i owner howner
  obtain ⟨text, howner, hex⟩ := text_of_ownerHash howner
  refine Stateful.keeps_bind_iff.2 (Stateful.keeps_get_iff.2 ?_)
  split
  · exact stop (by simp)
  rename_i a found
  refine Stateful.keeps_bind_iff.2 (Stateful.keeps_raiseIf_iff.2
    ⟨fun _ => stop (by simp), fun prepared => ?_⟩)
  split
  · rename_i commitKey hkey
    refine Stateful.keeps_bind_iff.2 (Stateful.keeps_raiseIf_iff.2 ⟨fun other => ?_, fun same => ?_⟩)
    · refine ⟨.inl here, fun _ => ⟨a, found, prepared, by simp [hkey], fun committing => ?_⟩, by simp⟩
      obtain ⟨-, hkey', hrequest⟩ := committing
      simp_all
    obtain ⟨rfl, hrequest⟩ : commitKey = Sha256.hexdigest key ∧
        a.commitRequestSha256 = some (canonicalHash (.obj request)) := by simpa [not_or] using same
    have committing : Committing key request a := ⟨prepared, hkey, hrequest⟩
    split
    · rename_i response hresponse
      exact ⟨here, a, found, committing, hresponse, .inl rfl⟩
    · exact keeps_finish config rounds here found committing ‹_›
  · rename_i fresh
    have update : State.Update (.text operationId) m (m.modify (.text operationId)
        (Operation.bound (Sha256.hexdigest key) (canonicalHash (.obj request)) owner)) :=
      .modify found (.bind _ fresh prepared (Sha256.hexdigest_ne_empty key) howner hex)
    refine keeps_update_then here update (here.commitOk (.inr (.inl ⟨_, rfl, update⟩)))
      (fun _ _ h => h.commitRaises foreign_other) fun h => ?_
    refine keeps_finish config rounds h (State.find_modify found) ⟨prepared, ?_, rfl⟩ ?_
    · simp [boundKey, Operation.bound, Sha256.hexdigest_ne_empty]
    · refine Option.eq_none_iff_forall_ne_some.2 fun response hresponse => ?_
      have bound := ((wf.find found).commitResponse response (stored_eq_some_iff.1 hresponse).1).2
      simp [fresh] at bound

end Commit

end Provider

end Zkdeal.FailoverProvider
