import Zkdeal.FailoverProvider.ProviderRuns

/-!
# The responses of the provider

Every response that the provider stores, and so every response that it answers, has the fields that a
driver gave it: those of a `prepare` for the candidate of the request, with a replay position at or after
the target, and those of a `commit` for the operation.  Sorting the members of a response, as a restart
does, changes none of its fields.
-/

namespace Zkdeal.FailoverProvider

open Interaction Python

/-! ## Drivers -/

/-- The response has the fields of a `prepare` for the candidate. -/
def PrepareShaped (candidateId : Json) (response : Dict) : Prop :=
  ∃ target replay, AtOrAfter replay target ∧
    ∀ field, response.get field = (prepareResponse candidateId target replay).get field

/-- The candidate of a prepare request. -/
def candidateOf (request : Dict) : Json := (request.get "candidateId").getD .null

section Drivers

variable {tr : Trace Op Answer}

theorem DockerDriver.awaitReplay_shaped {settings : DockerSettings} {standbyDb target : String} {deadline : ℚ}
    {rounds : ℕ} : Raising.Ensures (fun _ _ => True) (awaitReplay settings standbyDb target deadline rounds)
      (fun replay _ => AtOrAfter replay target) tr := by
  induction rounds generalizing tr with
  | zero => exact Raising.ensures_halt
  | succ rounds ih =>
    unfold awaitReplay
    refine Raising.ensures_bind_iff.2 (Raising.ensures_any fun now tr => ?_)
    split
    · refine Raising.ensures_bind_iff.2 (Raising.ensures_any fun recovery tr => ?_)
      refine Raising.ensures_bind_iff.2 (Raising.ensures_any fun replay tr => ?_)
      refine Raising.ensures_bind_iff.2 (ensures_reached fun b hb => ?_)
      split
      · exact hb ‹_›
      · exact Raising.ensures_bind_iff.2 (Raising.ensures_any fun _ tr => ih)
    · exact Raising.ensures_throw

theorem KubernetesDriver.awaitReplay_shaped {settings : KubernetesSettings} {target : String} {deadline : ℚ}
    {rounds : ℕ} : Raising.Ensures (fun _ _ => True) (awaitReplay settings target deadline rounds)
      (fun replay _ => AtOrAfter replay target) tr := by
  induction rounds generalizing tr with
  | zero => exact Raising.ensures_halt
  | succ rounds ih =>
    unfold awaitReplay
    refine Raising.ensures_bind_iff.2 (Raising.ensures_any fun now tr => ?_)
    split
    · refine Raising.ensures_bind_iff.2 (Raising.ensures_any fun recovery tr => ?_)
      refine Raising.ensures_bind_iff.2 (Raising.ensures_any fun replay tr => ?_)
      refine Raising.ensures_bind_iff.2 (ensures_reached fun b hb => ?_)
      split
      · exact hb ‹_›
      · exact Raising.ensures_bind_iff.2 (Raising.ensures_any fun _ tr => ih)
    · exact Raising.ensures_throw

variable (config : Config) (rounds : ℕ) (request : Dict) (existingTarget : Option String)

theorem DockerDriver.prepare_shaped (settings : DockerSettings) :
    Raising.Ensures (fun _ _ => True) (prepare config settings rounds request existingTarget)
      (fun response _ => PrepareShaped (candidateOf request) response) tr := by
  have shaped {target replay : String} (h : AtOrAfter replay target) :
      PrepareShaped (candidateOf request) (prepareResponse (candidateOf request) target replay) :=
    ⟨target, replay, h, fun _ => rfl⟩
  unfold prepare
  refine Raising.ensures_bind_iff.2 (Raising.ensures_any fun active tr => ?_)
  refine Raising.ensures_bind_iff.2 (Raising.ensures_any fun _ tr => ?_)
  refine Raising.ensures_bind_iff.2 (Raising.ensures_any fun primary tr => ?_)
  refine Raising.ensures_bind_iff.2 (Raising.ensures_any fun standbyDb tr => ?_)
  refine Raising.ensures_bind_iff.2 (Raising.ensures_any fun signer tr => ?_)
  refine Raising.ensures_bind_iff.2 (Raising.ensures_any fun _ tr => ?_)
  refine Raising.ensures_bind_iff.2 (Raising.ensures_any fun _ tr => ?_)
  refine Raising.ensures_bind_iff.2 (Raising.ensures_any fun _ tr => ?_)
  refine Raising.ensures_bind_iff.2 (Raising.ensures_any fun target tr => ?_)
  refine Raising.ensures_bind_iff.2 (Raising.ensures_any fun now tr => ?_)
  refine Raising.ensures_bind_iff.2 (awaitReplay_shaped.mono fun replay tr reached => ?_)
  refine Raising.ensures_bind_iff.2 (Raising.ensures_any fun _ tr => ?_)
  refine Raising.ensures_bind_iff.2 (Raising.ensures_any fun _ tr => ?_)
  refine Raising.ensures_bind_iff.2 (Raising.ensures_any fun _ tr => ?_)
  exact Raising.ensures_bind_iff.2 (Raising.ensures_any fun _ tr => shaped reached)

theorem KubernetesDriver.prepare_shaped (settings : KubernetesSettings) :
    Raising.Ensures (fun _ _ => True) (prepare config settings rounds request existingTarget)
      (fun response _ => PrepareShaped (candidateOf request) response) tr := by
  have shaped {target replay : String} (h : AtOrAfter replay target) :
      PrepareShaped (candidateOf request) (prepareResponse (candidateOf request) target replay) :=
    ⟨target, replay, h, fun _ => rfl⟩
  unfold prepare
  refine Raising.ensures_bind_iff.2 (Raising.ensures_any fun _ tr => ?_)
  refine Raising.ensures_bind_iff.2 (Raising.ensures_any fun signer tr => ?_)
  refine Raising.ensures_bind_iff.2 (Raising.ensures_any fun replicas tr => ?_)
  refine Raising.ensures_bind_iff.2 (Raising.ensures_any fun _ tr => ?_)
  refine Raising.ensures_bind_iff.2 (Raising.ensures_any fun target tr => ?_)
  refine Raising.ensures_bind_iff.2 (Raising.ensures_any fun now tr => ?_)
  refine Raising.ensures_bind_iff.2 (awaitReplay_shaped.mono fun replay tr reached => ?_)
  refine Raising.ensures_bind_iff.2 (Raising.ensures_any fun _ tr => ?_)
  refine Raising.ensures_bind_iff.2 (Raising.ensures_any fun _ tr => ?_)
  refine Raising.ensures_bind_iff.2 (Raising.ensures_any fun _ tr => ?_)
  exact Raising.ensures_bind_iff.2 (Raising.ensures_any fun _ tr => shaped reached)

/-- Whatever it is answered, a driver saves nothing itself, and it returns a response for the candidate. -/
theorem Driver.prepare_shaped (driver : Driver) :
    Raising.Ensures (fun _ o => ∀ s, o ≠ .save s) (driver.prepare config rounds request existingTarget)
      (fun response _ => PrepareShaped (candidateOf request) response) [] := by
  have shaped : Raising.Ensures (fun _ _ => True) (driver.prepare config rounds request existingTarget)
      (fun response _ => PrepareShaped (candidateOf request) response) [] := by
    cases driver with
    | docker settings => exact DockerDriver.prepare_shaped config rounds request existingTarget settings
    | kubernetes settings => exact KubernetesDriver.prepare_shaped config rounds request existingTarget settings
  refine (((driver.prepare_ensures config rounds request existingTarget).and shaped).mono fun _ _ h => h.2).weaken ?_
  rintro tr o (plain | ⟨target, rfl, -⟩ | fenced) s
  · exact Provider.External.ne_save plain.external s
  · exact nofun
  · exact Provider.External.ne_save fenced.external s

end Drivers

/-! ## Records -/

/-- The response has the fields of a `commit` of the operation, with the measured times. -/
def CommitShaped (config : Config) (operationId : String) (response : Dict) : Prop :=
  ∃ capturedAt committedAt, ∀ field, response.get field =
    (Provider.measured (commitResponse config operationId) capturedAt committedAt).get field

namespace State

variable {J : OpKey → Operation → Prop} {s : State} {k : OpKey} {a : Operation} {f : Operation → Operation}

/-- What is true of every record, with its key. -/
def All (J : OpKey → Operation → Prop) (s : State) : Prop := ∀ entry ∈ s, J entry.1 entry.2

theorem All.find (h : All J s) (found : s.find k = some a) : ∃ l, l.same k = true ∧ J l a := by
  obtain ⟨l, hl, hmem⟩ := exists_mem_of_find found
  exact ⟨l, hl, h _ hmem⟩

theorem All.insert (h : All J s) (ha : J k a) : All J (s.insert k a) := by
  intro entry hentry
  rcases List.mem_append.1 hentry with hmem | hmem
  · exact h entry hmem
  · rw [List.mem_singleton.1 hmem]
    exact ha

/-- A change of the record of `k`, which is the one that is found. -/
theorem All.modify (h : All J s)
    (hf : ∀ l a, l.same k = true → s.find k = some a → J l a → J l (f a)) : All J (s.modify k f) := by
  induction s with
  | nil => exact h
  | cons e s ih =>
    obtain ⟨l, a⟩ := e
    have here : J l a := h _ List.mem_cons_self
    have rest : All J s := fun entry hentry => h entry (List.mem_cons_of_mem _ hentry)
    unfold State.modify
    by_cases hl : l.same k = true
    · have changed : J l (f a) := hf l a hl (by rw [find_cons, if_pos hl]) here
      rw [if_pos hl]
      intro entry hentry
      rcases List.mem_cons.1 hentry with rfl | hmem
      · exact changed
      · exact rest entry hmem
    · have later := ih rest fun l' a' hl' found => hf l' a' hl' (by rw [find_cons, if_neg hl, found])
      rw [if_neg hl]
      intro entry hentry
      rcases List.mem_cons.1 hentry with rfl | hmem
      · exact here
      · exact later entry hmem

theorem All.saved (h : All J s) (hJ : ∀ l a, J l a → J (.text l.dumped) a.saved) : All J (State.saved s) := by
  intro entry hentry
  obtain ⟨e, he, rfl⟩ := List.mem_map.1 hentry
  exact hJ _ _ (h e he)

end State

/-- The responses of a record answer requests that were made. -/
structure Answered (config : Config) (made : Dict → Prop) (k : OpKey) (a : Operation) : Prop where
  prepare : ∀ response, a.prepareResponse = some response → ∃ request, made request ∧
    a.prepareRequestSha256 = canonicalHash (.obj request) ∧ PrepareShaped (candidateOf request) response
  commit : ∀ response, a.commitResponse = some response → ∃ operationId, k = .text operationId ∧
    CommitShaped config operationId response

theorem Answered.saved {config : Config} {made : Dict → Prop} {k : OpKey} {a : Operation}
    (h : Answered config made k a) : Answered config made (.text k.dumped) a.saved where
  prepare response hr := by
    obtain ⟨r, stored, rfl⟩ := Option.map_eq_some_iff.1 hr
    obtain ⟨request, hmade, hash, target, replay, reached, fields⟩ := h.prepare r stored
    exact ⟨request, hmade, hash, target, replay, reached, fun field => by rw [Dict.get_sorted, fields]⟩
  commit response hr := by
    obtain ⟨r, stored, rfl⟩ := Option.map_eq_some_iff.1 hr
    obtain ⟨operationId, rfl, capturedAt, committedAt, fields⟩ := h.commit r stored
    exact ⟨operationId, rfl, capturedAt, committedAt, fun field => by rw [Dict.get_sorted, fields]⟩

namespace Provider

/-! ## Calls -/

section Calls

variable {config : Config} {driver : Driver} {rounds : ℕ} {made : Dict → Prop}
variable {k : OpKey} {key operationId : String} {request : Dict} {m s : State} {tr : Trace Op Answer}

/-- The responses of every record are answered. -/
abbrev AllAnswered (config : Config) (made : Dict → Prop) : State → Prop := State.All (Answered config made)

/-- A call saves only answered states. -/
def SavesAnswered (config : Config) (made : Dict → Prop) (_ : Trace Op Answer) (o : Op) : Prop :=
  ∀ s, o = .save s → AllAnswered config made s

/-- The response answers a request with the hash of this one. -/
def PrepareAnswered (made : Dict → Prop) (request response : Dict) : Prop :=
  ∃ r, made r ∧ canonicalHash (.obj r) = canonicalHash (.obj request) ∧ PrepareShaped (candidateOf r) response

/-- The states of a call that prepares: the record has the hash of the request. -/
def Preparing (config : Config) (made : Dict → Prop) (k : OpKey) (request : Dict) (s : State) : Prop :=
  AllAnswered config made s ∧ ∃ a, s.find k = some a ∧ a.prepareRequestSha256 = canonicalHash (.obj request)

theorem keeps_save_answered {Q : Unit → State → Trace Op Answer → Prop} (h : AllAnswered config made s)
    (hQ : Q () s (tr ++ [⟨.save s, some ()⟩])) :
    Stateful.Keeps recording (SavesAnswered config made) save Q (fun _ s _ => AllAnswered config made s) s tr :=
  keeps_save (fun _ hs => Op.save.inj hs ▸ h) hQ h

/-- A program of the driver's signature that saves nothing. -/
theorem keeps_lift_answered {α : Type} {x : Platform α} {Q : α → State → Trace Op Answer → Prop}
    (hx : Raising.Performs Plain x) (h : AllAnswered config made s) (hQ : ∀ a tr', Q a s tr') :
    Stateful.Keeps recording (SavesAnswered config made) (Stateful.lift x) Q
      (fun _ s _ => AllAnswered config made s) s tr := by
  refine Stateful.keeps_lift_iff.2 (Raising.Meets.mono (hx.meets (I := fun _ => True) ?_ ?_ trivial) (fun _ _ h => h)
    (fun a tr' _ => hQ a tr') fun _ _ _ => h)
  · intro tr o _ plain s hs
    exact absurd hs (External.ne_save plain.external s)
  · exact fun _ _ _ _ _ _ _ => trivial

theorem Preparing.captured (h : Preparing config made k request s) (target : String) (capturedAt : ℤ) :
    Preparing config made k request (s.modify k (Operation.captured target capturedAt)) := by
  obtain ⟨all, a, found, hash⟩ := h
  refine ⟨all.modify fun l a _ _ answered => ⟨answered.prepare, answered.commit⟩, _, State.find_modify found, hash⟩

/-- Carrying out an operation of the driver. -/
theorem keeps_carry_answered {o : Op} (h : Preparing config made k request s) (unsaved : ∀ s, o ≠ .save s) :
    Stateful.Keeps recording (SavesAnswered config made) (carry k o) (fun _ s' _ => Preparing config made k request s')
      (fun _ s' _ => AllAnswered config made s') s tr := by
  have step : Stateful.Keeps recording (SavesAnswered config made) (Stateful.perform o : Serving (Answer o))
      (fun _ s' _ => Preparing config made k request s') (fun _ s' _ => AllAnswered config made s') s tr :=
    Stateful.keeps_perform_iff.2 ⟨fun s hs => absurd hs (unsaved s), fun _ _ _ => h⟩
  cases o with
  | checkpoint target =>
    refine Stateful.keeps_bind_iff.2 (keeps_now (fun _ => nofun) fun capturedAt => ?_)
    refine Stateful.keeps_bind_iff.2 (Stateful.keeps_modify_iff.2 ?_)
    exact keeps_save_answered (h.captured target capturedAt).1 (h.captured target capturedAt)
  | _ => exact step

theorem keeps_enter_answered {existing : Option String} (h : Preparing config made k request s) :
    Stateful.Keeps recording (SavesAnswered config made)
      (enter k (.prepare request existing) (driver.prepare config rounds request existing))
      (fun response s' _ => PrepareShaped (candidateOf request) response ∧ Preparing config made k request s')
      (fun _ s' _ => AllAnswered config made s') s tr := by
  refine Stateful.keeps_bind_iff.2 (Stateful.keeps_perform_iff.2 ⟨fun _ => nofun, fun _ _ _ => ?_⟩)
  let B (_ : Trace Op Answer) (s' : State) (_ : Trace Op Answer) : Prop := Preparing config made k request s'
  refine (Stateful.keeps_interpret (B := B) ?_ ?_ (driver.prepare_shaped config rounds request existing) h).mono
    (fun _ _ h => h) ?_ fun _ _ _ h => h
  · intro o dtr s' tr' preparing unsaved
    exact (keeps_carry_answered preparing unsaved).mono (fun _ _ h => h) (fun r _ _ h => ⟨_, rfl, h⟩) fun _ _ _ h => h
  · exact fun _ _ _ _ _ preparing => preparing.1
  · rintro response s' tr' ⟨_, shaped, preparing⟩
    exact ⟨shaped, preparing⟩

theorem keeps_perform_answered (asked : made request) (h : Preparing config made k request s) :
    Stateful.Keeps recording (SavesAnswered config made) (perform config driver rounds k request)
      (fun response s' _ => AllAnswered config made s' ∧ PrepareAnswered made request response)
      (fun _ s' _ => AllAnswered config made s') s tr := by
  unfold perform
  refine Stateful.keeps_bind_iff.2 (keeps_lift_answered (performs_verifyWitnessFailures config request) h.1
    fun _ _ => ?_)
  refine Stateful.keeps_bind_iff.2 (keeps_lift_answered (performs_verifyStandby config _) h.1 fun _ _ => ?_)
  refine Stateful.keeps_bind_iff.2 (Stateful.keeps_get_iff.2 ?_)
  refine Stateful.keeps_bind_iff.2 ((keeps_enter_answered h).mono (fun _ _ h => h) ?_ fun _ _ _ h => h)
  rintro response s tr ⟨shaped, all, a, found, hash⟩
  refine Stateful.keeps_bind_iff.2 (Stateful.keeps_raiseIf_iff.2 ⟨fun _ => all, fun _ => ?_⟩)
  refine Stateful.keeps_bind_iff.2 (Stateful.keeps_modify_iff.2 (Stateful.keeps_bind_iff.2 ?_))
  have stored : AllAnswered config made (s.modify k (Operation.prepared response)) := by
    refine all.modify fun l b _ foundb answered => ⟨fun r hr => ?_, answered.commit⟩
    obtain rfl := Option.some.inj (found.symm.trans foundb)
    obtain rfl := Option.some.inj hr
    exact ⟨request, asked, hash, shaped⟩
  exact keeps_save_answered stored ⟨stored, request, asked, rfl, shaped⟩

theorem keeps_prepare_answered (asked : made request) (h : AllAnswered config made m) :
    Stateful.Keeps recording (SavesAnswered config made) (prepare config driver rounds key request)
      (fun response s' _ => AllAnswered config made s' ∧ PrepareAnswered made request response)
      (fun _ s' _ => AllAnswered config made s') m tr := by
  unfold prepare
  refine Stateful.keeps_bind_iff.2 (Stateful.keeps_raiseIf_iff.2 ⟨fun _ => h, fun _ => ?_⟩)
  refine Stateful.keeps_bind_iff.2 (Stateful.keeps_raiseIf_iff.2 ⟨fun _ => h, fun _ => ?_⟩)
  split
  · exact h
  refine Stateful.keeps_bind_iff.2 (Stateful.keeps_raiseIf_iff.2 ⟨fun _ => h, fun _ => ?_⟩)
  refine Stateful.keeps_bind_iff.2 (Stateful.keeps_raiseIf_iff.2 ⟨fun _ => h, fun _ => ?_⟩)
  refine Stateful.keeps_bind_iff.2 (Stateful.keeps_get_iff.2 ?_)
  split
  · rename_i a found
    refine Stateful.keeps_bind_iff.2 (Stateful.keeps_raiseIf_iff.2 ⟨fun _ => h, fun same => ?_⟩)
    have hash : a.prepareRequestSha256 = canonicalHash (.obj request) := by
      rw [not_or, not_not, not_not] at same
      exact same.2
    split
    · rename_i response hresponse
      obtain ⟨l, -, answered⟩ := h.find found
      obtain ⟨r, hmade, hr, shaped⟩ := answered.prepare response (stored_eq_some_iff.1 hresponse).1
      exact ⟨h, r, hmade, hr.symm.trans hash, shaped⟩
    · exact keeps_perform_answered asked ⟨h, a, found, hash⟩
  · rename_i fresh
    refine Stateful.keeps_bind_iff.2 (Stateful.keeps_bind_iff.2 (keeps_now (fun _ => nofun) fun createdAt => ?_))
    refine Stateful.keeps_bind_iff.2 (Stateful.keeps_modify_iff.2 ?_)
    have opened := h.insert (k := ‹OpKey›) (a := Operation.opened (OpKey.json ‹OpKey›) (Sha256.hexdigest key)
      (canonicalHash (.obj request)) createdAt) ⟨nofun, nofun⟩
    exact keeps_save_answered opened (keeps_perform_answered asked ⟨opened, _, State.find_insert fresh, rfl⟩)

/-! ### Commit -/

/-- The call of the driver leaves the memory alone. -/
theorem keeps_enter_commit_answered {owner : Json} (h : AllAnswered config made s) :
    Stateful.Keeps recording (SavesAnswered config made)
      (enter (.text operationId) (.commit operationId owner) (driver.commit config rounds operationId))
      (fun response s' _ => response = commitResponse config operationId ∧ AllAnswered config made s')
      (fun _ s' _ => AllAnswered config made s') s tr := by
  refine Stateful.keeps_bind_iff.2 (Stateful.keeps_perform_iff.2 ⟨fun _ => nofun, fun _ _ _ => ?_⟩)
  let B (_ : Trace Op Answer) (s' : State) (_ : Trace Op Answer) : Prop := AllAnswered config made s'
  refine (Stateful.keeps_interpret (B := B) ?_ ?_ (driver.commit_ensures config rounds operationId) h).mono
    (fun _ _ h => h) ?_ fun _ _ _ h => h
  · rintro o dtr s' tr' all ⟨-, external⟩
    have step : Stateful.Keeps recording (SavesAnswered config made) (Stateful.perform o : Serving (Answer o))
        (fun r s₁ _ => ∃ dtr', recording dtr o r dtr' ∧ B dtr' s₁ tr') (fun _ s₁ _ => AllAnswered config made s₁) s' tr' :=
      Stateful.keeps_perform_iff.2 ⟨fun s hs => absurd hs (External.ne_save external s), fun _ _ _ => ⟨_, rfl, all⟩⟩
    cases o <;> first | exact step | exact external.elim
  · exact fun _ _ _ _ _ all => all
  · rintro response s' tr' ⟨_, rfl, all⟩
    exact ⟨rfl, all⟩

theorem keeps_finish_answered {owner : Json} (h : AllAnswered config made s) :
    Stateful.Keeps recording (SavesAnswered config made) (finish config driver rounds operationId owner)
      (fun response s' _ => AllAnswered config made s' ∧ CommitShaped config operationId response)
      (fun _ s' _ => AllAnswered config made s') s tr := by
  unfold finish
  refine Stateful.keeps_bind_iff.2 ((keeps_enter_commit_answered h).mono (fun _ _ h => h) ?_ fun _ _ _ h => h)
  rintro response s tr ⟨rfl, h⟩
  refine Stateful.keeps_bind_iff.2 (Stateful.keeps_raiseIf_iff.2 ⟨fun _ => h, fun _ => ?_⟩)
  refine Stateful.keeps_bind_iff.2 (keeps_now (fun _ => nofun) fun committedAt => ?_)
  refine Stateful.keeps_bind_iff.2 (Stateful.keeps_get_iff.2 ?_)
  split
  · exact h
  · rename_i capturedAt _
    refine Stateful.keeps_bind_iff.2 (Stateful.keeps_modify_iff.2 (Stateful.keeps_bind_iff.2 ?_))
    have shaped : CommitShaped config operationId
        (measured (commitResponse config operationId) capturedAt committedAt) := ⟨_, _, fun _ => rfl⟩
    have stored : AllAnswered config made (s.modify (.text operationId)
        (Operation.committed (measured (commitResponse config operationId) capturedAt committedAt) committedAt)) := by
      refine h.modify fun l b hl _ answered => ⟨answered.prepare, fun r hr => ?_⟩
      obtain rfl := Option.some.inj hr
      exact ⟨operationId, OpKey.same_text hl, shaped⟩
    exact keeps_save_answered stored ⟨stored, shaped⟩

theorem AllAnswered.bound (h : AllAnswered config made s) (keySha256 requestSha256 : String) (owner : Json) :
    AllAnswered config made (s.modify k (Operation.bound keySha256 requestSha256 owner)) :=
  State.All.modify h fun _ _ _ _ answered => ⟨answered.prepare, answered.commit⟩

theorem keeps_commit_answered (h : AllAnswered config made m) :
    Stateful.Keeps recording (SavesAnswered config made) (commit config driver rounds operationId key request)
      (fun response s' _ => AllAnswered config made s' ∧ CommitShaped config operationId response)
      (fun _ s' _ => AllAnswered config made s') m tr := by
  unfold commit
  refine Stateful.keeps_bind_iff.2 (Stateful.keeps_raiseIf_iff.2 ⟨fun _ => h, fun _ => ?_⟩)
  refine Stateful.keeps_bind_iff.2 (Stateful.keeps_raiseIf_iff.2 ⟨fun _ => h, fun _ => ?_⟩)
  split
  · exact h
  refine Stateful.keeps_bind_iff.2 (Stateful.keeps_get_iff.2 ?_)
  split
  · exact h
  rename_i a found
  refine Stateful.keeps_bind_iff.2 (Stateful.keeps_raiseIf_iff.2 ⟨fun _ => h, fun _ => ?_⟩)
  split
  · refine Stateful.keeps_bind_iff.2 (Stateful.keeps_raiseIf_iff.2 ⟨fun _ => h, fun _ => ?_⟩)
    split
    · rename_i response hresponse
      obtain ⟨l, hl, answered⟩ := h.find found
      obtain ⟨id, rfl, shaped⟩ := answered.commit response (stored_eq_some_iff.1 hresponse).1
      cases OpKey.same_text hl
      exact ⟨h, shaped⟩
    · exact keeps_finish_answered h
  · refine Stateful.keeps_bind_iff.2 (Stateful.keeps_modify_iff.2 (Stateful.keeps_bind_iff.2 ?_))
    exact keeps_save_answered (AllAnswered.bound h _ _ _) (keeps_finish_answered (AllAnswered.bound h _ _ _))

end Calls

/-! ## Runs -/

section Runs

variable {config : Config} {driver : Driver} {rounds : ℕ} {made : Dict → Prop} {c : ServiceCall}

/-- A prepare request that was made is one of these. -/
def Request.Among (made : Dict → Prop) : Request → Prop
  | .prepare _ request => made request
  | .commit _ _ _ => True

/-- The response answers the request. -/
def Request.AnsweredBy (config : Config) (made : Dict → Prop) : Request → Dict → Prop
  | .prepare _ request, response => PrepareAnswered made request response
  | .commit operationId _ _, response => CommitShaped config operationId response

theorem keeps_answered {r : Request} {m : State} (among : r.Among made) (h : AllAnswered config made m) :
    Stateful.Keeps recording (SavesAnswered config made) (serve config driver rounds r)
      (fun response s' _ => AllAnswered config made s' ∧ r.AnsweredBy config made response)
      (fun _ s' _ => AllAnswered config made s') m [] := by
  cases r with
  | prepare key request => exact keeps_prepare_answered among h
  | commit operationId key request => exact keeps_commit_answered h

theorem answered_call (v : (service config driver rounds).Valid c) (among : c.request.Among made)
    (h : AllAnswered config made c.memory ∧ AllAnswered config made (loadJson c.before)) :
    AllAnswered config made ((service config driver rounds).ended c) ∧ AllAnswered config made (loadJson c.after) := by
  have keeps : Stateful.Keeps recording (SavesAnswered config made) (serve config driver rounds c.request) _ _
      c.memory [] := keeps_answered among h.1
  have after : AllAnswered config made (loadJson c.after) := by
    rcases disk_written v.answered with hd | ⟨pre, s, post, split, hd⟩
    · rw [hd]
      exact h.2
    · have run : (Stateful.start (serve config driver rounds c.request) c.memory).Runs
          (pre ++ ⟨.save s, some ()⟩ :: post) c.out := split ▸ v.run
      have saved := keeps.permits run (accepts_recording [] pre) s rfl
      rw [hd]
      exact saved.saved fun _ _ answered => answered.saved
  refine ⟨?_, after⟩
  obtain ⟨returned, raised, -⟩ := keeps.of_runs v.run (accepts_recording [] c.tr)
  unfold Service.ended
  split
  · rename_i r s hout
    cases r with
    | ok response => exact (returned response s hout).1
    | error e => exact raised e s hout
  · exact after

/-- What a service of this provider has in memory and in its file answers requests that were made. -/
theorem run_answered {calls : List ServiceCall} {s : State} {d : Option State}
    (run : (service config driver rounds).Run calls s d) (among : ∀ c ∈ calls, c.request.Among made) :
    AllAnswered config made s ∧ AllAnswered config made (loadJson d) := by
  refine run.invariant (I := fun s d => AllAnswered config made s ∧ AllAnswered config made (loadJson d))
    (fun d hd => ?_) (fun c hc v h => answered_call v (among c hc) h) (fun s d h => ⟨h.2, h.2⟩) ?_
  · rw [show d = none from hd]
    exact ⟨fun _ h => absurd h List.not_mem_nil, fun _ h => absurd h List.not_mem_nil⟩
  · rintro s d _ h rfl
    exact h

/-- Every response of a run answers its request, from the platform or from a record. -/
theorem run_answers (made : Dict → Prop) {pre post : List ServiceCall} {s : State} {d : Option State}
    (run : (service config driver rounds).Run (pre ++ c :: post) s d)
    (among : ∀ b ∈ pre ++ [c], b.request.Among made) {response : Dict} (answer : c.answer = some response) :
    c.request.AnsweredBy config made response := by
  obtain ⟨earlier, v⟩ := run.split
  obtain ⟨s', hout⟩ := Call.answer_eq_some answer
  have before := (run_answered earlier fun b hb => among b (List.mem_append_left _ hb)).1
  have keeps : Stateful.Keeps recording (SavesAnswered config made) (serve config driver rounds c.request) _ _
      c.memory [] := keeps_answered (among c (by simp)) before
  exact ((keeps.of_runs v.run (accepts_recording [] c.tr)).1 response s' hout).2

end Runs

end Provider

end Zkdeal.FailoverProvider
