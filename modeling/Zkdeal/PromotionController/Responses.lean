import Zkdeal.FailoverProvider.Responses
import Zkdeal.PromotionController.Worlds

/-!
# The responses of the provider at the controller

The checks of the controller look up fields only, so that they accept every response with the fields of
those that the provider gives.
-/

namespace Zkdeal.PromotionController

open Interaction Python
open FailoverProvider (AtOrAfter PrepareShaped CommitShaped candidateOf lsnNumber fieldIs fieldIsBool canonicalHash)
open FailoverProvider.Provider (Request ServiceCall service)

variable {config : Config} {value value' : Dict}

theorem validatePrepare_congr (h : ∀ field, value.get field = value'.get field) :
    validatePrepare config value = validatePrepare config value' := by
  simp only [validatePrepare, fieldIs, fieldIsBool, proved, textField, h]

theorem validateCommit_congr (h : ∀ field, value.get field = value'.get field) (operationId : String) :
    validateCommit config operationId value = validateCommit config operationId value' := by
  simp only [validateCommit, h]

/-- The controller accepts the response of a `prepare` for its candidate. -/
theorem validatePrepare_shaped (h : PrepareShaped (.str config.candidateId) value) :
    validatePrepare config value = .ok config.candidateId.1 := by
  obtain ⟨target, replay, ⟨wanted, observed, htarget, hreplay, behind⟩, fields⟩ := h
  rw [validatePrepare_congr fields]
  have reported : lsnValue replay = .ok observed := by rw [lsnValue, hreplay]
  have recorded : lsnValue target = .ok wanted := by rw [lsnValue, htarget]
  generalize hr : FailoverProvider.prepareResponse (.str config.candidateId) target replay = response
  have id : fieldIs response "operationId" config.candidateId = true := by
    have field : response.get "operationId" = some (.str config.candidateId) := by rw [← hr]; rfl
    simp [fieldIs, field, Json.eqStr]
  have evidence : proved response ["activeFenced", "oldWriterTerminated", "targetCapturedByProvider",
      "databasePromoted", "standbyReplayAtOrAfterTarget", "indexerHeadMatchesL1", "stableDatabaseEndpointRouted"]
      "failover provider" = .ok () := by rw [← hr]; rfl
  have status : fieldIs response "status" "READY_FOR_APPLICATION_PROMOTION" = true := by rw [← hr]; rfl
  have source : fieldIs response "primaryTargetSource" "durable-fenced-wal-checkpoint" = true := by rw [← hr]; rfl
  have signer : fieldIsBool response "standbySignerAuthorityActive" false = true := by rw [← hr]; rfl
  have replayText : textField response "standbyReplayLsn" = replay := by rw [← hr]; rfl
  have targetText : textField response "primaryTargetLsn" = target := by rw [← hr]; rfl
  have age : response.get "checkpointAgeSeconds" = some (.int 0) := by rw [← hr]; rfl
  have fresh : freshAge config.maxCheckpointAgeSeconds (some (.int 0)) = true := by simp [freshAge]
  unfold validatePrepare
  rw [id, evidence, status, source, signer, replayText, targetText, reported, recorded, age, fresh]
  simp [bind, Except.bind, pure, Except.pure, not_lt.2 behind]

theorem validateCommit_shaped {provider : FailoverProvider.Config} {operationId : String}
    (topology : provider.standbyCoordinatorId = config.standbyCoordinatorId) (h : CommitShaped provider operationId value) :
    validateCommit config operationId value = .ok () := by
  obtain ⟨capturedAt, committedAt, fields⟩ := h
  rw [validateCommit_congr fields]
  generalize hr : FailoverProvider.Provider.measured (FailoverProvider.commitResponse provider operationId)
    capturedAt committedAt = response
  have id : response.get "operationId" = some (.str operationId) := by rw [← hr]; rfl
  have route : response.get "writerRouteCommitted" = some (.bool true) := by rw [← hr]; rfl
  have writer : response.get "writerCoordinatorId" = some (.str config.standbyCoordinatorId) := by
    rw [← hr, ← topology]
    rfl
  have old : response.get "oldWriterRouteRemoved" = some (.bool true) := by rw [← hr]; rfl
  have database : response.get "stableDatabaseEndpointRouted" = some (.bool true) := by rw [← hr]; rfl
  have signer : response.get "signerAuthorityActivatedAfterFence" = some (.bool true) := by rw [← hr]; rfl
  simp [validateCommit, expectedCommit, id, route, writer, old, database, signer, Json.eq, Json.number]

/-! ## Runs of the provider -/

/-- SHA-256 tells the candidates of the prepare requests apart. -/
def HashesApart (calls : List ServiceCall) : Prop :=
  ∀ b ∈ calls, ∀ c ∈ calls, ∀ key key' r r', b.request = .prepare key r → c.request = .prepare key' r' →
    canonicalHash (.obj r) = canonicalHash (.obj r') → candidateOf r = candidateOf r'

/-- The request is about the candidate of the controller. -/
def IsFor (config : Config) : Request → Prop
  | .prepare _ request => request.get "candidateId" = some (.str config.candidateId)
  | .commit operationId _ _ => operationId = config.candidateId.1

/-- The controller accepts the response to the request. -/
def AcceptsResponse (config : Config) (response : Dict) : Request → Prop
  | .prepare _ _ => validatePrepare config response = .ok config.candidateId.1
  | .commit _ _ _ => validateCommit config config.candidateId response = .ok ()

/-- In every run of the provider, the controller accepts every response for its candidate. -/
theorem responses_accepted {provider : FailoverProvider.Config} {driver : FailoverProvider.Driver} {rounds : ℕ}
    {calls : List ServiceCall} {s : FailoverProvider.State} {d : Option FailoverProvider.State}
    (run : (service provider driver rounds).Run calls s d) (apart : HashesApart calls)
    (topology : provider.standbyCoordinatorId = config.standbyCoordinatorId) :
    ∀ c ∈ calls, IsFor config c.request → ∀ response, c.answer = some response →
      AcceptsResponse config response c.request := by
  intro c hc own response answer
  let made (request : Dict) : Prop := ∃ b ∈ calls, ∃ key, b.request = .prepare key request
  have among : ∀ b ∈ calls, b.request.Among made := by
    intro b hb
    cases hr : b.request with
    | prepare key request => exact ⟨b, hb, key, hr⟩
    | commit operationId key request => trivial
  obtain ⟨pre, post, rfl⟩ := List.append_of_mem hc
  have among' : ∀ b ∈ pre ++ [c], b.request.Among made := by
    intro b hb
    refine among b ?_
    simp only [List.mem_append, List.mem_cons, List.not_mem_nil, or_false] at hb ⊢
    tauto
  have answered := FailoverProvider.Provider.run_answers made run among' answer
  cases hr : c.request with
  | prepare key request =>
    rw [hr] at own answered
    obtain ⟨r, ⟨b, hb, key', hmade⟩, hash, shaped⟩ := answered
    have same : candidateOf r = .str config.candidateId := by
      rw [apart b hb c hc key' key r request hmade hr hash, candidateOf, own]
      rfl
    rw [same] at shaped
    exact validatePrepare_shaped shaped
  | commit operationId key request =>
    rw [hr] at own answered
    obtain rfl := own
    exact validateCommit_shaped topology answered

/-- A failover whose requests are repeated. -/
theorem responses_accepted_failover : ∃ calls s d,
    (service FailoverProvider.Deployment.config (.docker FailoverProvider.Deployment.dockerSettings) 3).Run calls s d ∧
      calls.map Call.request = [FailoverProvider.Deployment.prepareCall, FailoverProvider.Deployment.prepareCall,
        FailoverProvider.Deployment.commitCall] ∧
      (∀ c ∈ calls, c.answer.isSome) ∧ ∀ c ∈ calls, ∀ response, c.answer = some response →
        AcceptsResponse Deployment.config response c.request := by
  let requests := [FailoverProvider.Deployment.prepareCall, FailoverProvider.Deployment.prepareCall,
    FailoverProvider.Deployment.commitCall]
  have run := FailoverProvider.Deployment.played_run requests []
  have observed : ∀ c ∈ FailoverProvider.Deployment.calls requests [], c.answer.isSome := by decide +kernel
  have known : ∀ c ∈ FailoverProvider.Deployment.calls requests [], c.request ∈ requests :=
    fun c hc => List.mem_map_of_mem (f := Call.request) hc
  have own : ∀ r ∈ requests, IsFor Deployment.config r := by
    intro r hr
    simp only [requests, List.mem_cons, List.not_mem_nil, or_false, or_self_left] at hr
    rcases hr with rfl | rfl <;> rfl
  have apart : HashesApart (FailoverProvider.Deployment.calls requests []) := by
    intro b hb c hc key key' r r' hr hr' _
    have first := own _ (known b hb)
    have second := own _ (known c hc)
    rw [hr] at first
    rw [hr'] at second
    rw [candidateOf, candidateOf, first, second]
  exact ⟨_, _, _, run, rfl, observed, fun c hc => responses_accepted run apart rfl c hc (own _ (known c hc))⟩

end Zkdeal.PromotionController
