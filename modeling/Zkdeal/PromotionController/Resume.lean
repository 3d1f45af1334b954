import Zkdeal.Interaction.Total
import Zkdeal.PromotionController.Ordering

/-!
# Resuming a promotion

The controller keeps no step of its own: after it was killed, it is run again and repeats its requests,
to a provider and an owner that answer a repeated request with the stored response.  The second run gets
through exactly when the first one was killed before the owner had promoted the standby.
-/

namespace Zkdeal.PromotionController

open Interaction Python

/-! ## The services -/

/-- An idempotent service: it works and stores a response, or answers with the stored one.  The answer
may be lost, and while there is no response the work may stay incomplete. -/
def Idempotent (valid : Dict → Prop) (stored : Option Dict) (answer : Received) (stored' : Option Dict) : Prop :=
  match stored with
  | some value => stored' = some value ∧ (answer = .object value ∨ answer.lost = true)
  | none => (∃ value, valid value ∧ stored' = some value ∧ (answer = .object value ∨ answer.lost = true)) ∨
      stored' = none ∧ answer.lost = true

/-- The standby reports its role: active once the owner has promoted it. -/
def Truthful (config : Config) (promoted : Bool) (value : Dict) : Prop :=
  value.get "coordinatorId" = some (.str config.standbyCoordinatorId) ∧
    value.get "configuredRole" = some (.str "standby") ∧
    value.get "effectiveRole" = some (.str (if promoted then "active" else "standby")) ∧
    value.get "acceptingWrites" = some (.bool promoted)

/-- A request of the kind `c` is served; others leave what is stored alone. -/
def Handled (c : Prop) (valid : Dict → Prop) (stored : Option Dict) (answer : Received)
    (stored' : Option Dict) : Prop :=
  (c → Idempotent valid stored answer stored') ∧ (¬c → stored' = stored)

/-- The answer to a request, and what it does to the stored responses. -/
structure Served (config : Config) (s : Stores) (request : HttpRequest) (answer : Received) (s' : Stores) : Prop where
  standby : request = getRequest config config.standbyHealthUrl → ∀ value, answer = .object value →
    Truthful config s.owner.isSome value
  prepare : Handled (request = prepareRequest config)
    (fun value => validatePrepare config value = .ok config.candidateId.1) s.prepare answer s'.prepare
  owner : Handled (request = ownerRequest config)
    (fun value => validateOwnerPromotion value = .ok ()) s.owner answer s'.owner
  commit : Handled (∃ value ∈ s.owner, request = commitOf config value)
    (fun value => validateCommit config config.candidateId value = .ok ()) s.commit answer s'.commit

/-- The services, in an environment that may do anything else. -/
def services (config : Config) : Env Op Answer Stores := fun s o answer s' =>
  match o, answer with
  | .requestJson request, answer => Served config s request answer s'
  | _, _ => s' = s

/-- The stored responses were valid when they were made. -/
structure Stores.Valid (config : Config) (s : Stores) : Prop where
  prepare : ∀ value ∈ s.prepare, validatePrepare config value = .ok config.candidateId.1
  owner : ∀ value ∈ s.owner, validateOwnerPromotion value = .ok ()
  commit : ∀ value ∈ s.commit, validateCommit config config.candidateId value = .ok ()

/-- No witness is healthy, and the standby, the provider and the owner are reached. -/
structure Reached (config : Config) (request : HttpRequest) (answer : Received) : Prop where
  witness : ∀ url ∈ config.activeHealthUrls, request = getRequest config url → answer ≠ .failed ∧
    ∀ value, answer = .object value → FailoverProvider.activeHealthy value config.activeCoordinatorId = false
  standby : request = getRequest config config.standbyHealthUrl → answer.lost = false
  post : request.method = .post → answer.lost = false

/-- The environment in which the failure threshold is met again: besides, the notes are stored.  The
readings of the clock are kept. -/
def outage (config : Config) : Env Op Answer (Stores × List Float) := fun w o answer w' =>
  services config w.1 o answer w'.1 ∧
  match o, answer with
  | .requestJson request, answer => w'.2 = w.2 ∧ Reached config request answer
  | .monotonic, x => w'.2 = w.2 ++ [x]
  | .atomicJson _, stored => w'.2 = w.2 ∧ stored = some ()
  | .print _, printed => w'.2 = w.2 ∧ printed = some ()
  | _, _ => w'.2 = w.2

section Resume

variable {config : Config} {s s' : Stores} {request : HttpRequest} {answer : Received}

theorem Idempotent.valid {valid : Dict → Prop} {stored stored' : Option Dict}
    (h : Idempotent valid stored answer stored') (hv : ∀ value ∈ stored, valid value) :
    ∀ value ∈ stored', valid value := by
  cases stored with
  | some value =>
    obtain ⟨rfl, -⟩ := h
    exact hv
  | none =>
    rcases h with ⟨value, hvalue, rfl, -⟩ | ⟨rfl, -⟩
    · intro v hv
      obtain rfl := Option.some.inj hv
      exact hvalue
    · simp

/-- An idempotent service that is reached answers with what it has stored then. -/
theorem Idempotent.reached {valid : Dict → Prop} {stored stored' : Option Dict}
    (h : Idempotent valid stored answer stored') (hv : ∀ value ∈ stored, valid value) (reached : answer.lost = false) :
    ∃ value, valid value ∧ answer = .object value ∧ stored' = some value := by
  cases stored with
  | some value =>
    obtain ⟨rfl, rfl | lost⟩ := h
    · exact ⟨value, hv value rfl, rfl, rfl⟩
    · rw [reached] at lost
      cases lost
  | none =>
    rcases h with ⟨value, hvalue, rfl, rfl | lost⟩ | ⟨-, lost⟩
    · exact ⟨value, hvalue, rfl, rfl⟩
    · rw [reached] at lost
      cases lost
    · rw [reached] at lost
      cases lost

theorem Handled.valid {c : Prop} {valid : Dict → Prop} {stored stored' : Option Dict}
    (h : Handled c valid stored answer stored') (hv : ∀ value ∈ stored, valid value) :
    ∀ value ∈ stored', valid value := by
  by_cases hc : c
  · exact (h.1 hc).valid hv
  · rwa [h.2 hc]

theorem Served.valid (h : Served config s request answer s') (hv : s.Valid config) : s'.Valid config where
  prepare := h.prepare.valid hv.prepare
  owner := h.owner.valid hv.owner
  commit := h.commit.valid hv.commit

theorem services_valid {o : Op} {answer : Answer o} (h : services config s o answer s') (hv : s.Valid config) :
    s'.Valid config := by
  cases o with
  | requestJson request => exact Served.valid h hv
  | _ =>
    obtain rfl : s' = s := h
    exact hv

theorem accepts_valid {tr : Trace Op Answer} (acc : Accepts (services config) s tr s') (hv : s.Valid config) :
    s'.Valid config := by
  induction acc with
  | nil => exact hv
  | cons step _ ih => exact ih (services_valid step hv)

/-- A request that is none of the three effects changes nothing. -/
theorem Served.get (h : Served config s request answer s') (hget : request.method = .get) : s' = s := by
  have prepare := h.prepare.2 (by rintro rfl; cases hget)
  have owner := h.owner.2 (by rintro rfl; cases hget)
  have commit := h.commit.2 (by rintro ⟨value, -, rfl⟩; cases hget)
  obtain ⟨p, o, c⟩ := s
  obtain ⟨p', o', c'⟩ := s'
  rw [Stores.mk.injEq]
  exact ⟨prepare, owner, commit⟩

theorem truthful_ready {promoted : Bool} {value : Dict} (h : Truthful config promoted value) :
    standbyReady value config.standbyCoordinatorId = !promoted := by
  obtain ⟨coordinator, configured, effective, writes⟩ := h
  cases promoted <;> simp [standbyReady, FailoverProvider.fieldIs, FailoverProvider.fieldIsBool, coordinator,
    configured, effective, writes, Json.eqStr, Json.isBool]

/-! ## The second run -/

section Rerun

variable {times : List Float} {Q : Unit → Stores × List Float → Prop} {R : Raised → Stores × List Float → Prop}

theorem delivers_emit {status : String} {fields : Dict} (h : Q () (s, times)) :
    Raising.Delivers (outage config) (emit config status fields) Q R (s, times) := by
  unfold emit
  rw [Raising.delivers_bind_iff]
  refine Raising.delivers_perform_iff.2 ?_
  rintro now ⟨s₁, times₁⟩ ⟨rfl, rfl⟩
  dsimp only
  rw [Raising.delivers_bind_iff]
  refine Raising.delivers_attempt_iff.2 ?_
  rintro _ ⟨s₂, times₂⟩ ⟨rfl, rfl, rfl⟩
  refine Raising.delivers_attempt_iff.2 ?_
  rintro _ ⟨s₃, times₃⟩ ⟨rfl, rfl, rfl⟩
  exact h

/-- No witness is healthy. -/
theorem delivers_askWitnesses {urls : List String} (hurls : ∀ url ∈ urls, url ∈ config.activeHealthUrls)
    {Q : List Bool → Stores × List Float → Prop} (hQ : ∀ verdicts, true ∉ verdicts → Q verdicts (s, times)) :
    Raising.Delivers (outage config) (askWitnesses config urls) Q R (s, times) := by
  induction urls generalizing Q with
  | nil => exact hQ [] (by simp)
  | cons url urls ih =>
    rw [List.forall_mem_cons] at hurls
    unfold askWitnesses witnessHealthy
    rw [Raising.delivers_bind_iff]
    refine Raising.delivers_attempt_iff.2 ?_
    rintro answer ⟨s₁, times₁⟩ ⟨served, htimes, reached⟩
    obtain rfl : s₁ = s := Served.get served rfl
    obtain rfl : times₁ = times := htimes
    obtain ⟨ended, unhealthy⟩ := reached.witness url hurls.1 rfl
    have continues : Raising.Delivers (outage config) (do return false :: (← askWitnesses config urls)) Q R
        (s₁, times₁) := by
      rw [Raising.delivers_bind_iff]
      refine ih hurls.2 fun verdicts hverdicts => ?_
      exact hQ (false :: verdicts) (by simpa using hverdicts)
    cases answer with
    | object value =>
      have hvalue := unhealthy value rfl
      simp only [hvalue]
      exact continues
    | refused _ => exact continues
    | failed => exact absurd rfl ended

theorem delivers_observe (cycle : ℕ) {n : ℕ} {firstFailure : Float}
    (start : n = 0 ∧ times = [] ∨ n ≠ 0 ∧ times = [firstFailure])
    {Q : ℕ × Float × Bool → Stores × List Float → Prop}
    (hQ : ∀ x, Q (n + 1, x, decide (config.failureThreshold ≤ n + 1)) (s, [x])) :
    Raising.Delivers (outage config) (observe config cycle n firstFailure) Q R (s, times) := by
  unfold observe
  rw [Raising.delivers_bind_iff]
  refine delivers_askWitnesses (fun _ h => h) fun verdicts hverdicts => ?_
  rw [if_neg hverdicts]
  unfold streakStart
  rw [Raising.delivers_bind_iff]
  rcases start with ⟨hn, rfl⟩ | ⟨hn, rfl⟩
  · rw [if_pos hn]
    refine Raising.delivers_perform_iff.2 ?_
    rintro x ⟨s₁, times₁⟩ ⟨hs, htimes⟩
    obtain rfl : s₁ = s := hs
    obtain rfl : times₁ = [x] := htimes
    rw [Raising.delivers_bind_iff]
    exact delivers_emit (hQ x)
  · rw [if_neg hn]
    refine Raising.delivers_pure_iff.2 ?_
    rw [Raising.delivers_bind_iff]
    exact delivers_emit (hQ firstFailure)

/-- The threshold is met, if the window of monitoring is long enough. -/
theorem delivers_monitor (window : config.maxMonitorCycles.1 = 0 ∨ config.failureThreshold.1 ≤ config.maxMonitorCycles)
    {rounds cycle n : ℕ} {firstFailure : Float} (enough : config.failureThreshold.1 ≤ n + rounds)
    (hcycle : cycle = n + 1) (below : n < config.failureThreshold.1)
    (start : n = 0 ∧ times = [] ∨ n ≠ 0 ∧ times = [firstFailure])
    {Q : Option Float → Stores × List Float → Prop} (hQ : ∀ x, Q (some x) (s, [x])) :
    Raising.Delivers (outage config) (monitor config rounds cycle n firstFailure) Q R (s, times) := by
  induction rounds generalizing cycle n firstFailure times with
  | zero => omega
  | succ rounds ih =>
    unfold monitor
    rw [Raising.delivers_bind_iff]
    refine delivers_observe cycle start fun x => ?_
    dsimp only
    by_cases met : config.failureThreshold.1 ≤ n + 1
    · rw [if_pos (by simpa using met)]
      exact hQ x
    · have within_ : ¬(config.maxMonitorCycles.1 ≠ 0 ∧ config.maxMonitorCycles.1 ≤ cycle) := by omega
      rw [if_neg (by simpa using met), if_neg within_, Raising.delivers_bind_iff]
      refine Raising.delivers_perform_iff.2 ?_
      rintro _ ⟨s₁, times₁⟩ ⟨hs, htimes⟩
      obtain rfl : s₁ = s := hs
      obtain rfl : times₁ = [x] := htimes
      exact ih (by omega) (by omega) (by omega) (.inr ⟨by omega, rfl⟩)

/-- A request that is answered. -/
theorem delivers_requestJson {Q : Dict → Stores × List Float → Prop} (lost : request.method = .post ∨
      request = getRequest config config.standbyHealthUrl)
    (hQ : ∀ value s', Served config s request (.object value) s' → Q value (s', times)) :
    Raising.Delivers (outage config) (requestJson request) Q R (s, times) := by
  refine Raising.delivers_attempt_iff.2 ?_
  rintro answer ⟨s', times'⟩ ⟨served, rfl, reached⟩
  have answered : answer.lost = false := lost.elim reached.post reached.standby
  cases answer with
  | object value => exact hQ value s' served
  | refused _ => cases answered
  | failed => cases answered

/-- What a second run needs: the controller is armed, the owner has not promoted the standby before, and
the promotion takes at most as long as it may, where its start and its end were read off the clock. -/
structure Resumable (config : Config) (s : Stores) (times : List Float) : Prop where
  armed : config.armed = true
  unpromoted : s.owner = none
  timely : ∀ first last, times = [first, last] → exceeds (rtoSeconds first last) config.maxRtoSeconds = false

theorem resumable_of_times {first last : Float} (armed : config.armed = true) (unpromoted : s.owner = none)
    (htimes : times = [first, last]) (timely : exceeds (rtoSeconds first last) config.maxRtoSeconds = false) :
    Resumable config s times := by
  subst htimes
  refine ⟨armed, unpromoted, ?_⟩
  rintro _ _ ⟨⟩
  exact timely

/-- From the threshold on, the promotion completes exactly when it is resumable. -/
theorem delivers_promote (hv : s.Valid config) (firstFailure : Float) :
    Raising.Delivers (outage config) (promote config firstFailure) (fun _ w => Resumable config s w.2)
      (fun _ w => ¬Resumable config s w.2) (s, [firstFailure]) := by
  unfold promote
  rw [Raising.delivers_bind_iff]
  refine Raising.delivers_raiseIf_iff.2 ⟨fun disarmed resumable => ?_, fun armed => ?_⟩
  · simp [resumable.armed] at disarmed
  rw [Raising.delivers_bind_iff]
  refine delivers_requestJson (.inr rfl) fun standby s₁ served => ?_
  obtain rfl : s₁ = s := served.get rfl
  have hready := truthful_ready (served.standby rfl standby rfl)
  rw [Raising.delivers_bind_iff]
  refine Raising.delivers_raiseIf_iff.2 ⟨fun refused resumable => ?_, fun standing => ?_⟩
  · simp [refused, resumable.unpromoted] at hready
  have unpromoted : s₁.owner = none := by simpa [hready] using standing
  -- The provider prepares, which leaves the owner alone.
  rw [Raising.delivers_bind_iff]
  refine delivers_requestJson (.inl rfl) fun prepare s₂ served => ?_
  have hv₂ := served.valid hv
  have unpromoted₂ : s₂.owner = none := (served.owner.2 (Ne.symm ownerRequest_ne)).trans unpromoted
  obtain ⟨_, valid, ⟨⟩, -⟩ := (served.prepare.1 rfl).reached hv.prepare rfl
  rw [valid, Raising.delivers_bind_iff]
  refine Raising.delivers_pure_iff.2 ?_
  rw [Raising.delivers_bind_iff]
  refine delivers_emit ?_
  -- The owner promotes.
  rw [Raising.delivers_bind_iff]
  refine delivers_requestJson (.inl rfl) fun owner s₃ served => ?_
  have hv₃ := served.valid hv₂
  obtain ⟨_, accepted, ⟨⟩, stored⟩ := (served.owner.1 rfl).reached hv₂.owner rfl
  rw [accepted, Raising.delivers_bind_iff]
  refine Raising.delivers_pure_iff.2 ?_
  rw [Raising.delivers_bind_iff]
  refine delivers_emit ?_
  -- The provider commits.
  rw [Raising.delivers_bind_iff]
  refine delivers_requestJson (.inl rfl) fun commit s₄ served => ?_
  obtain ⟨_, committed, ⟨⟩, -⟩ := (served.commit.1 ⟨owner, stored, rfl⟩).reached hv₃.commit rfl
  rw [committed, Raising.delivers_bind_iff]
  refine Raising.delivers_pure_iff.2 ?_
  rw [Raising.delivers_bind_iff]
  refine Raising.delivers_perform_iff.2 ?_
  rintro now ⟨s₅, times₅⟩ ⟨-, htimes⟩
  obtain rfl : times₅ = [firstFailure, now] := htimes
  dsimp only
  rw [Raising.delivers_bind_iff]
  refine Raising.delivers_raiseIf_iff.2 ⟨fun late resumable => ?_, fun within_ => ?_⟩
  · rw [resumable.timely firstFailure now rfl] at late
    cases late
  · rw [Raising.delivers_bind_iff]
    exact delivers_emit (resumable_of_times (by simpa using armed) unpromoted rfl (by simpa using within_))

/-- The second run ends by itself; it returns a result exactly when the promotion is resumable. -/
theorem delivers_run (window : config.maxMonitorCycles.1 = 0 ∨ config.failureThreshold.1 ≤ config.maxMonitorCycles)
    {rounds : ℕ} (enough : config.failureThreshold.1 ≤ rounds) (hv : s.Valid config) :
    Raising.Delivers (outage config) (run config rounds) (fun r w => Resumable config s w.2 ∧ r.isSome)
      (fun _ w => ¬Resumable config s w.2) (s, []) := by
  have positive : 0 < config.failureThreshold.1 := Nat.lt_of_lt_of_le (by decide) config.failureThreshold.2.1
  unfold run
  rw [Raising.delivers_bind_iff]
  refine delivers_emit ?_
  rw [Raising.delivers_bind_iff]
  refine delivers_monitor window (by omega) rfl positive (.inl ⟨rfl, rfl⟩) fun x => ?_
  dsimp only
  rw [Raising.delivers_bind_iff]
  exact (delivers_promote hv x).mono (fun _ _ resumable => ⟨resumable, rfl⟩) fun _ _ h => h

end Rerun

/-- The run returned its result, which it noted as complete. -/
def Completes (tr : Trace Op Answer) (out : Outcome Op (Except Raised (Option Dict))) : Prop :=
  (∃ result, out = .returned (.ok (some result))) ∧ Noted "promotion-complete" tr

/-- After the controller was killed anywhere, a second run through an outage reaches `promotion-complete`
exactly when the promotion is resumable. -/
theorem resume_completes_iff {s s' : Stores} {w : Stores × List Float} {rounds rounds' : ℕ} {o : Op}
    {tr tr' : Trace Op Answer} {out : Outcome Op (Except Raised (Option Dict))}
    (window : config.maxMonitorCycles.1 = 0 ∨ config.failureThreshold.1 ≤ config.maxMonitorCycles)
    (valid : s.Valid config) (_ : (run config rounds).run.Runs tr (.killed o))
    (served : Accepts (services config) s tr s') (again : (run config rounds').run.Runs tr' out)
    (answered : Accepts (outage config) (s', []) tr' w) (enough : config.failureThreshold.1 ≤ rounds')
    (survives : ∀ o, out ≠ .killed o) : Completes tr' out ↔ Resumable config s' w.2 := by
  have hv := accepts_valid served valid
  obtain ⟨r, rfl, hr⟩ | ⟨o, hkilled⟩ := (delivers_run window enough hv).of_runs again answered
  · cases r with
    | ok r =>
      obtain ⟨resumable, hr⟩ := hr
      obtain ⟨result, rfl⟩ := Option.isSome_iff_exists.1 hr
      have noted := (ensures_run config rounds').returned again
      exact ⟨fun _ => resumable, fun _ => ⟨⟨result, rfl⟩, noted rfl⟩⟩
    | error e =>
      refine ⟨?_, fun resumable => absurd resumable hr⟩
      rintro ⟨⟨result, h⟩, -⟩
      cases h
  · exact absurd hkilled (survives o)

end Resume

/-! ## Two runs of a deployment -/

namespace Deployment

theorem valid_responses : validatePrepare config prepareResponse = .ok config.candidateId.1 ∧
    validateOwnerPromotion ownerResponse = .ok () ∧
    validateCommit config config.candidateId commitResponse = .ok () := by
  decide +kernel

theorem truthful_standbyDocument (promoted : Bool) : Truthful config promoted (standbyDocument promoted) := by
  unfold Truthful
  cases promoted <;> decide +kernel

namespace Play

variable {p p' : Play} {request : HttpRequest}

/-- A stored response is given again, and a new one is stored. -/
theorem idempotent_getD {valid : Dict → Prop} {value : Dict} (h : valid value) (stored : Option Dict) :
    Idempotent valid stored (.object (stored.getD value)) (some (stored.getD value)) := by
  cases stored with
  | none => exact .inl ⟨value, h, rfl, .inl rfl⟩
  | some v => exact ⟨rfl, .inl rfl⟩

theorem served (p : Play) (request : HttpRequest) :
    Served config p.stores request (p.serve request).1 (p.serve request).2 := by
  obtain ⟨prepares, promotes, commits⟩ := valid_responses
  have get_ne {url : String} {other : HttpRequest} (h : other.method = .post) : other ≠ getRequest config url := by
    rintro rfl
    cases h
  have commit_iff : (p.stores.owner.any fun value => request = commitOf config value) = true ↔
      ∃ value ∈ p.stores.owner, request = commitOf config value := by
    rw [Option.any_eq_true]
    exact exists_congr fun value => and_congr Iff.rfl decide_eq_true_iff
  unfold serve
  by_cases hp : request = prepareRequest config
  · subst hp
    rw [if_pos rfl]
    refine ⟨fun h => absurd h (get_ne rfl), ⟨fun _ => idempotent_getD prepares _, fun h => absurd rfl h⟩,
      ⟨fun h => absurd h.symm ownerRequest_ne, fun _ => rfl⟩, ⟨?_, fun _ => rfl⟩⟩
    rintro ⟨value, -, h⟩
    exact absurd h.symm (commitRequest_ne _ _).1
  rw [if_neg hp]
  by_cases ho : request = ownerRequest config
  · subst ho
    rw [if_pos rfl]
    refine ⟨fun h => absurd h (get_ne rfl), ⟨fun h => absurd h hp, fun _ => rfl⟩,
      ⟨fun _ => idempotent_getD promotes _, fun h => absurd rfl h⟩, ⟨?_, fun _ => rfl⟩⟩
    rintro ⟨value, -, h⟩
    exact absurd h.symm (commitRequest_ne _ _).2
  rw [if_neg ho]
  by_cases hc : ∃ value ∈ p.stores.owner, request = commitOf config value
  · rw [if_pos (commit_iff.2 hc)]
    refine ⟨fun h => ?_, ⟨fun h => absurd h hp, fun _ => rfl⟩, ⟨fun h => absurd h ho, fun _ => rfl⟩,
      ⟨fun _ => idempotent_getD commits _, fun h => absurd hc h⟩⟩
    obtain ⟨value, -, hvalue⟩ := hc
    exact absurd (hvalue.symm.trans h) (get_ne rfl)
  rw [if_neg (mt commit_iff.1 hc)]
  have kept (answer : Received) (h : request = getRequest config config.standbyHealthUrl → ∀ value,
      answer = .object value → Truthful config p.stores.owner.isSome value) :
      Served config p.stores request answer p.stores :=
    ⟨h, ⟨fun h => absurd h hp, fun _ => rfl⟩, ⟨fun h => absurd h ho, fun _ => rfl⟩,
      ⟨fun h => absurd h hc, fun _ => rfl⟩⟩
  by_cases hs : request = getRequest config config.standbyHealthUrl
  · rw [if_pos hs]
    refine kept _ fun _ value h => ?_
    obtain rfl := Received.object.inj h
    exact truthful_standbyDocument _
  · rw [if_neg hs]
    exact kept _ fun h => absurd h hs

theorem reached (p : Play) (served : ¬(request.method = .post ∧ (p.serve request).1.lost = true)) :
    Reached config request (p.serve request).1 where
  witness := by
    rintro url hurl rfl
    have other : getRequest config url ≠ getRequest config config.standbyHealthUrl := by
      intro h
      have heq : url = config.standbyHealthUrl := congrArg HttpRequest.url h
      rw [heq] at hurl
      exact absurd hurl (by decide)
    have refused : (p.serve (getRequest config url)).1 = .refused "request failed" := by
      have ne_post {request : HttpRequest} (h : request.method = .post) : getRequest config url ≠ request := by
        rintro rfl
        cases h
      have not_commit : ¬(p.stores.owner.any fun value => getRequest config url = commitOf config value) = true := by
        simp only [Option.any_eq_true, decide_eq_true_eq, not_exists, not_and]
        exact fun value _ => ne_post rfl
      rw [serve, if_neg (ne_post rfl), if_neg (ne_post rfl), if_neg not_commit, if_neg other]
    rw [refused]
    exact ⟨by simp, by simp⟩
  standby := by
    rintro rfl
    unfold serve
    repeat' split
    all_goals first | rfl | exact absurd rfl ‹_›
  post h := by simpa [h] using served

theorem answer_outage {o : Op} {r : Answer o} (h : p.answer o = some (r, p')) :
    outage config (p.stores, p.times) o r (p'.stores, p'.times) := by
  unfold answer at h
  split at h
  · cases h
  · cases o with
    | requestJson request =>
      dsimp only at h
      split at h
      · cases h
      · cases h
        exact ⟨served { p with lives := _ } request, rfl, reached { p with lives := _ } ‹_›⟩
    | monotonic =>
      cases h
      exact ⟨rfl, rfl⟩
    | atomicJson _ | print _ =>
      cases h
      exact ⟨rfl, rfl, rfl⟩
    | unixMs | sleep _ =>
      cases h
      exact ⟨rfl, rfl⟩

theorem answer_services {o : Op} {r : Answer o} (h : p.answer o = some (r, p')) :
    services config p.stores o r p'.stores := (answer_outage h).1

theorem played_services (p : Play) : Accepts (services config) p.stores p.played.1 p.played.2.2.stores :=
  Prog.simulate_accepts (fun _ _ _ _ h => answer_services h) _ p

theorem played_outage (p : Play) :
    Accepts (outage config) (p.stores, p.times) p.played.1 (p.played.2.2.stores, p.played.2.2.times) :=
  Prog.simulate_accepts (fun _ _ _ _ h => answer_outage h) _ p

end Play

theorem valid_fresh : Stores.fresh.Valid config where
  prepare := by simp [Stores.fresh]
  owner := by simp [Stores.fresh]
  commit := by simp [Stores.fresh]

/-- The process was killed. -/
def died : Outcome Op (Except Raised (Option Dict)) → Bool
  | .killed _ => true
  | _ => false

theorem died_iff {out : Outcome Op (Except Raised (Option Dict))} : died out = true ↔ ∃ o, out = .killed o := by
  cases out <;> simp [died]

/-- The first run is killed before it asks the owner, and the second one completes. -/
theorem resume_completes_prepared : ∃ tr out tr' out' s w,
    (run config 3).run.Runs tr out ∧ Accepts (services config) .fresh tr s ∧ (run config 3).run.Runs tr' out' ∧
      Accepts (outage config) (s, []) tr' w ∧ s.prepare.isSome ∧ Completes tr' out' := by
  have stored : (start .fresh 26).played.2.2.stores.prepare.isSome = true ∧
      (start .fresh 26).played.2.2.stores.owner.isNone = true ∧ died (start .fresh 26).played.2.1 = true ∧
      died (start (start .fresh 26).played.2.2.stores 50).played.2.1 = false ∧
      (start (start .fresh 26).played.2.2.stores 50).played.2.2.times = [1000.25, 1042.5] ∧
      exceeds (rtoSeconds 1000.25 1042.5) config.maxRtoSeconds = false := by
    decide +kernel
  obtain ⟨prepared, unpromoted, killed, survives, times, timely⟩ := stored
  obtain ⟨o, ho⟩ := died_iff.1 killed
  have first := (start .fresh 26).played_runs
  have again := (start (start .fresh 26).played.2.2.stores 50).played_runs
  have served := (start .fresh 26).played_services
  have answered := (start (start .fresh 26).played.2.2.stores 50).played_outage
  have alive : ∀ o, (start (start .fresh 26).played.2.2.stores 50).played.2.1 ≠ .killed o := by
    intro o h
    rw [died_iff.2 ⟨o, h⟩] at survives
    cases survives
  have armed : config.armed = true := rfl
  have resumable : Resumable config (start .fresh 26).played.2.2.stores
      (start (start .fresh 26).played.2.2.stores 50).played.2.2.times :=
    resumable_of_times armed (Option.isNone_iff_eq_none.1 unpromoted) times timely
  have window : config.maxMonitorCycles.1 = 0 ∨ config.failureThreshold.1 ≤ config.maxMonitorCycles := .inl rfl
  have interrupted := first
  rw [ho] at interrupted
  have iff := resume_completes_iff window valid_fresh interrupted served again answered (by decide) alive
  dsimp only at iff
  have completes := iff.2 resumable
  exact ⟨_, _, _, _, _, _, first, served, again, answered, prepared, completes⟩

/-- The first run is killed right after the owner has promoted the standby, and the second one refuses
the standby, which is active now. -/
theorem not_resume_completes : ¬∀ (config : Config) (s s' : Stores) (w : Stores × List Float) (rounds rounds' : ℕ)
    (o : Op) (tr tr' : Trace Op Answer) (out : Outcome Op (Except Raised (Option Dict))), config.armed = true →
    (∀ first last, w.2 = [first, last] → exceeds (rtoSeconds first last) config.maxRtoSeconds = false) →
    (config.maxMonitorCycles.1 = 0 ∨ config.failureThreshold.1 ≤ config.maxMonitorCycles) → s.Valid config →
    (run config rounds).run.Runs tr (.killed o) → Accepts (services config) s tr s' →
    (run config rounds').run.Runs tr' out → Accepts (outage config) (s', []) tr' w →
    config.failureThreshold.1 ≤ rounds' → (∀ o, out ≠ .killed o) → Completes tr' out := by
  intro always
  have observed : died (start .fresh 27).played.2.1 = true ∧
      died (start (start .fresh 27).played.2.2.stores 50).played.2.1 = false ∧
      (start (start .fresh 27).played.2.2.stores 50).played.2.1.value.isNone = true ∧
      (start (start .fresh 27).played.2.2.stores 50).played.2.2.times = [1000.25] := by
    decide +kernel
  obtain ⟨killed, survives, raised, times⟩ := observed
  obtain ⟨o, ho⟩ := died_iff.1 killed
  have first := (start .fresh 27).played_runs
  have again := (start (start .fresh 27).played.2.2.stores 50).played_runs
  have served := (start .fresh 27).played_services
  have answered := (start (start .fresh 27).played.2.2.stores 50).played_outage
  have alive : ∀ o, (start (start .fresh 27).played.2.2.stores 50).played.2.1 ≠ .killed o := by
    intro o h
    rw [died_iff.2 ⟨o, h⟩] at survives
    cases survives
  have timely : ∀ first last, (start (start .fresh 27).played.2.2.stores 50).played.2.2.times = [first, last] →
      exceeds (rtoSeconds first last) config.maxRtoSeconds = false := by
    intro first last h
    have lengths := congrArg List.length (times.symm.trans h)
    cases lengths
  obtain ⟨⟨result, hout⟩, -⟩ := always _ _ _ _ _ _ _ _ _ _ rfl timely (.inl rfl) valid_fresh (ho ▸ first) served again
    answered (by decide) alive
  rw [hout] at raised
  cases raised

end Deployment

end Zkdeal.PromotionController
