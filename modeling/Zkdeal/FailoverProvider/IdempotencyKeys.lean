import Zkdeal.FailoverProvider.ProviderRuns

/-!
# Idempotency keys

A key is compared only with the record that the candidate id of the same request selects.  So a call
is refused as a conflict exactly where that record is another one than the request's, and not where
the key belongs to another candidate.
-/

namespace Zkdeal.FailoverProvider

open Interaction Python

namespace Provider

/-! ## What a key is presented with -/

/-- The record was accepted under the key of the request. -/
def AcceptedUnder : Request → Operation → Prop
  | .prepare key _, a => a.prepareKeySha256 = Sha256.hexdigest key
  | .commit _ key _, a => boundKey a = some (Sha256.hexdigest key)

/-- The request is for another candidate than the record `a` of `k`, or its input has changed. -/
def Changed : Request → OpKey → Operation → Prop
  | .prepare key request, k, a => Request.operation (.prepare key request) ≠ k ∨
    a.prepareRequestSha256 ≠ canonicalHash (.obj request)
  | .commit operationId _ request, k, a => .text operationId ≠ k ∨
    a.commitRequestSha256 ≠ some (canonicalHash (.obj request))

/-- The call presents a key that was accepted, with another candidate or changed input. -/
def Reuses (c : ServiceCall) : Prop :=
  ∃ k a, c.memory.find k = some a ∧ AcceptedUnder c.request a ∧ Changed c.request k a

/-- The request passes the checks that are made before its record is looked up. -/
def Admissible (config : Config) : Request → Prop
  | .prepare key request => isSafeId key = true ∧ request.hasKeys prepareFields = true ∧
    (candidate request).isSome ∧ fieldIs request "activeCoordinatorId" config.activeCoordinatorId = true ∧
    fieldIs request "standbyCoordinatorId" config.standbyCoordinatorId = true ∧
    (request.get "failedWitnessCount").any Json.isInt = true
  | .commit operationId key request => isSafeId operationId = true ∧ isSafeId key = true ∧
    request.hasKeys ["ownerResponseSha256"] = true ∧ (ownerHash request).isSome

/-- The memory has a record for the operation, which is not the one of the request and its key. -/
def Selects (s : State) : Request → Prop
  | .prepare key request => ∃ a, s.find (Request.operation (.prepare key request)) = some a ∧
    ¬Bound key request a
  | .commit operationId key request => ∃ a, s.find (.text operationId) = some a ∧ Conflicting key request a

/-- The call was refused as a conflict. -/
def Rejected (c : ServiceCall) : Prop :=
  ∃ e s, c.out = .returned (.error e, s) ∧ Coded "idempotency-conflict" e

/-- A key that was accepted is refused with another candidate or changed input. -/
def KeyBinds (c : ServiceCall) : Prop := Reuses c → Rejected c

/-! ## Conflicts -/

section Conflicts

variable {config : Config} {driver : Driver} {rounds : ℕ} {m : State} {key operationId : String}
variable {request : Dict}

variable (driver rounds m) in
/-- A request that is not admissible is refused for that. -/
theorem serve_inadmissible {r : Request} (h : ¬Admissible config r) :
    ∃ e, Foreign e ∧ Stateful.start (serve config driver rounds r) m = .ret (.error e, m) := by
  cases r with
  | prepare key request =>
    unfold serve prepare
    by_cases unsafe_ : isSafeId key = false
    · exact ⟨_, by simp, Stateful.start_raises unsafe_ ..⟩
    rw [Stateful.start_continues unsafe_]
    by_cases fields : request.hasKeys prepareFields = false
    · exact ⟨_, by simp, Stateful.start_raises fields ..⟩
    rw [Stateful.start_continues fields]
    cases hcandidate : candidate request with
    | none => exact ⟨_, by simp, rfl⟩
    | some k =>
      by_cases topology : fieldIs request "activeCoordinatorId" config.activeCoordinatorId = false ∨
          fieldIs request "standbyCoordinatorId" config.standbyCoordinatorId = false
      · exact ⟨_, by simp, Stateful.start_raises topology ..⟩
      by_cases uncounted : (request.get "failedWitnessCount").any Json.isInt = false
      · exact ⟨_, by simp, (Stateful.start_continues topology ..).trans (Stateful.start_raises uncounted ..)⟩
      · simp_all [Admissible, not_or]
  | commit operationId key request =>
    unfold serve commit
    by_cases unsafe_ : isSafeId operationId = false ∨ isSafeId key = false
    · exact ⟨_, by simp, Stateful.start_raises unsafe_ ..⟩
    rw [Stateful.start_continues unsafe_]
    by_cases fields : request.hasKeys ["ownerResponseSha256"] = false
    · exact ⟨_, by simp, Stateful.start_raises fields ..⟩
    rw [Stateful.start_continues fields]
    cases howner : ownerHash request with
    | none => exact ⟨_, by simp, rfl⟩
    | some owner => simp_all [Admissible, not_or]

variable (driver rounds) in
/-- A request whose record is another one is refused before anything else happens. -/
theorem serve_conflict {r : Request} (h : Admissible config r) (selects : Selects m r) :
    ∃ e, Coded "idempotency-conflict" e ∧
      Stateful.start (serve config driver rounds r) m = .ret (.error e, m) := by
  cases r with
  | prepare key request =>
    obtain ⟨safe, fields, hcandidate, active, standby, counted⟩ := h
    obtain ⟨a, found, other⟩ := selects
    obtain ⟨k, hk⟩ := Option.isSome_iff_exists.1 hcandidate
    have found : m.find k = some a := by simpa [Request.operation, hk] using found
    have differs : a.prepareKeySha256 ≠ Sha256.hexdigest key ∨
        a.prepareRequestSha256 ≠ canonicalHash (.obj request) := not_and_or.1 other
    unfold serve prepare
    rw [Stateful.start_continues (by simp [safe]), Stateful.start_continues (by simp [fields]), hk]
    dsimp only
    rw [Stateful.start_continues (by simp [active, standby]), Stateful.start_continues (by simp [counted]),
      Stateful.start_get_bind, found]
    exact ⟨_, by simp, Stateful.start_raises differs ..⟩
  | commit operationId key request =>
    obtain ⟨safe, safeKey, fields, howner⟩ := h
    obtain ⟨a, found, prepared, bound, other⟩ := selects
    obtain ⟨owner, howner⟩ := Option.isSome_iff_exists.1 howner
    obtain ⟨commitKey, hkey⟩ := Option.ne_none_iff_exists'.1 bound
    have differs : commitKey ≠ Sha256.hexdigest key ∨
        a.commitRequestSha256 ≠ some (canonicalHash (.obj request)) := by
      by_contra same
      rw [not_or, not_not, not_not] at same
      exact other ⟨prepared, by rw [hkey, same.1], same.2⟩
    unfold serve commit
    rw [Stateful.start_continues (by simp [safe, safeKey]), Stateful.start_continues (by simp [fields]),
      howner]
    dsimp only
    rw [Stateful.start_get_bind, found]
    dsimp only
    rw [Stateful.start_continues prepared, hkey]
    exact ⟨_, by simp, Stateful.start_raises differs ..⟩

variable {c : ServiceCall}

theorem rejected_of_start {e : Raised} (v : (service config driver rounds).Valid c)
    (h : Stateful.start (serve config driver rounds c.request) c.memory = .ret (.error e, c.memory)) :
    c.out = .returned (.error e, c.memory) := by
  have run : (Stateful.start (serve config driver rounds c.request) c.memory).Runs c.tr c.out := v.run
  rw [h] at run
  generalize c.out = out, c.tr = tr at run
  cases run
  rfl

/-- Exactly when a call is refused as a conflict. -/
theorem rejected_iff (v : (service config driver rounds).Valid c) (wf : c.memory.WellFormed) :
    Rejected c ↔ Admissible config c.request ∧ Selects c.memory c.request := by
  constructor
  · rintro ⟨e, s, hout, coded⟩
    constructor
    · by_contra h
      obtain ⟨e', foreign, hstart⟩ := serve_inadmissible driver rounds c.memory h
      rw [rejected_of_start v hstart] at hout
      cases hout
      exact foreign.1 coded
    · have run : (Stateful.start (serve config driver rounds c.request) c.memory).Runs c.tr c.out := v.run
      generalize hr : c.request = r at run ⊢
      cases r with
      | prepare key request =>
        have raises := (keeps_prepare.of_runs run (accepts_recording [] c.tr)).2.1 e s hout
        exact (raises.2 fun foreign => foreign.1 coded).2
      | commit operationId key request =>
        have raises := ((commit_keeps config rounds wf).of_runs run (accepts_recording [] c.tr)).2.1 e s hout
        exact raises.2.1 coded
  · rintro ⟨h, selects⟩
    obtain ⟨e, coded, hstart⟩ := serve_conflict driver rounds h selects
    exact ⟨e, _, rejected_of_start v hstart, coded⟩

/-- In every run, a key binds exactly where the candidate id of the request selects another record. -/
theorem keyBinds_iff {calls : List ServiceCall} {s : State} {d : Option State}
    (run : (service config driver rounds).Run calls s d) :
    ∀ c ∈ calls, KeyBinds c ↔ (Reuses c → Admissible config c.request ∧ Selects c.memory c.request) := by
  intro c hc
  obtain ⟨pre, post, rfl⟩ := List.append_of_mem hc
  obtain ⟨earlier, v⟩ := run.split
  unfold KeyBinds
  rw [rejected_iff v (run_wellFormed earlier).1]

end Conflicts

/-! ## Two presentations of one key -/

/-- The calls after the first one, which presents the key again. -/
theorem request_of_tail {requests : List Request} {saves : List Bool} {r : Request} {c : ServiceCall}
    (hr : requests.tail = [r]) (hc : c ∈ (Deployment.calls requests saves).tail) : c.request = r := by
  cases requests with
  | nil => cases hr
  | cons first rest =>
    obtain rfl : rest = [r] := hr
    have hmem := List.mem_map_of_mem (f := Call.request) hc
    exact List.mem_singleton.1 hmem

def changedCall : Request :=
  .prepare "prepare-key-0001" (Deployment.prepareRequest.set "failedWitnessCount" (.int 3))

theorem keyBinds_changed : ∃ calls s d,
    (service Deployment.config (.docker Deployment.dockerSettings) 3).Run calls s d ∧
      ∃ c ∈ calls, c.request = changedCall ∧ Reuses c ∧ KeyBinds c := by
  obtain ⟨s, d, run⟩ := Deployment.calls_run [Deployment.prepareCall, changedCall] []
  have observed : ∃ c ∈ (Deployment.calls [Deployment.prepareCall, changedCall] []).tail,
      (c.memory.find (.text "candidate-20260821-001")).any (fun a =>
        a.prepareKeySha256 = Sha256.hexdigest "prepare-key-0001" ∧ a.prepareRequestSha256 ≠
          canonicalHash (.obj (Deployment.prepareRequest.set "failedWitnessCount" (.int 3)))) = true := by
    decide +kernel
  obtain ⟨c, hc, selected⟩ := observed
  have hr := request_of_tail rfl hc
  have hmem := List.mem_of_mem_tail hc
  obtain ⟨a, found, ha⟩ := (Option.any_eq_true _ _).1 selected
  obtain ⟨hkey, hrequest⟩ := of_decide_eq_true ha
  have reuses : Reuses c := ⟨_, a, found, by rwa [hr], by rw [hr]; exact .inr hrequest⟩
  have admissible : Admissible Deployment.config changedCall := by
    unfold changedCall Admissible
    decide
  have selects : Selects c.memory changedCall := ⟨a, found, fun bound => hrequest bound.2⟩
  refine ⟨_, s, d, run, c, hmem, hr, reuses, (keyBinds_iff run c hmem).2 fun _ => ?_⟩
  rw [hr]
  exact ⟨admissible, selects⟩

def otherCall : Request :=
  .prepare "prepare-key-0001" (Deployment.prepareRequest.set "candidateId" (.str "candidate-20260821-002"))

theorem otherCall_operation : Request.operation otherCall = .text "candidate-20260821-002" := by
  decide

/-- The key of one candidate is presented with another one, and a record is made for that. -/
theorem not_keyBinds : ¬∀ (config : Config) (driver : Driver) (rounds : ℕ) (calls : List ServiceCall)
    (s : State) (d : Option State), (service config driver rounds).Run calls s d →
      ∀ c ∈ calls, Admissible config c.request → KeyBinds c := by
  intro always
  obtain ⟨s, d, run⟩ := Deployment.calls_run [Deployment.prepareCall, otherCall] []
  have observed : ∃ c ∈ (Deployment.calls [Deployment.prepareCall, otherCall] []).tail,
      (c.memory.find (.text "candidate-20260821-001")).any (fun a =>
        a.prepareKeySha256 = Sha256.hexdigest "prepare-key-0001") = true ∧
      c.memory.find (.text "candidate-20260821-002") = none := by
    simp only [← Option.isNone_iff_eq_none]
    decide +kernel
  obtain ⟨c, hc, selected, fresh⟩ := observed
  have hr := request_of_tail rfl hc
  have hmem := List.mem_of_mem_tail hc
  obtain ⟨a, found, ha⟩ := (Option.any_eq_true _ _).1 selected
  have hkey : a.prepareKeySha256 = Sha256.hexdigest "prepare-key-0001" := of_decide_eq_true ha
  have accepted : AcceptedUnder otherCall a := hkey
  have changed : Changed otherCall (.text "candidate-20260821-001") a := by
    refine .inl fun h => ?_
    have := otherCall_operation.symm.trans h
    simp at this
  have reuses : Reuses c := ⟨_, a, found, by rwa [hr], by rwa [hr]⟩
  have admissible : Admissible Deployment.config c.request := by
    rw [hr]
    unfold otherCall Admissible
    decide
  have rejected := always _ _ _ _ _ _ run c hmem admissible reuses
  obtain ⟨pre, post, hsplit⟩ := List.append_of_mem hmem
  rw [hsplit] at run
  obtain ⟨earlier, v⟩ := run.split
  obtain ⟨-, selects⟩ := (rejected_iff v (run_wellFormed earlier).1).1 rejected
  rw [hr] at selects
  obtain ⟨b, hb, -⟩ := selects
  have hb : c.memory.find (Request.operation otherCall) = some b := hb
  rw [otherCall_operation, fresh] at hb
  cases hb

end Provider

end Zkdeal.FailoverProvider
