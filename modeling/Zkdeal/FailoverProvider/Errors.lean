import Zkdeal.FailoverProvider.DockerDriver
import Zkdeal.FailoverProvider.KubernetesDriver

/-!
# The exceptions of the drivers

The provider alone raises `idempotency-conflict` and `checkpoint-missing`: whatever they are answered,
the drivers and the checks that the provider makes before it calls one raise other exceptions.
-/

namespace Zkdeal.FailoverProvider

open Interaction Python

/-- A `ProviderError` with the code. -/
def Coded (code : String) (e : Raised) : Prop := ∃ status message, e = .provider status code message

/-- An exception that the provider does not raise itself. -/
def Foreign (e : Raised) : Prop := ¬Coded "idempotency-conflict" e ∧ ¬Coded "checkpoint-missing" e

@[simp] theorem coded_provider {status : ℕ} {code code' message : String} :
    Coded code (.provider status code' message) ↔ code' = code := by
  simp [Coded]

@[simp] theorem foreign_other : Foreign .other := ⟨nofun, nofun⟩

@[simp] theorem foreign_provider {status : ℕ} {code message : String} :
    Foreign (.provider status code message) ↔
      code ≠ "idempotency-conflict" ∧ code ≠ "checkpoint-missing" := by
  simp [Foreign]

/-! ## Checks -/

theorem throws_orRaise {α : Type} {o : Op} {f : Answer o → Option α} :
    Raising.Throws Foreign (Raising.attempt o fun r => orRaise (f r)) := by
  refine Raising.throws_attempt fun r e he => ?_
  cases hr : f r with
  | none =>
    rw [hr] at he
    cases he
    exact foreign_other
  | some a =>
    rw [hr] at he
    cases he

theorem throws_runCommand (command : List String) (timeout : ℕ) :
    Raising.Throws Foreign (runCommand command timeout) := throws_orRaise

theorem throws_requestJson (url : String) (timeout : ℕ) (allowHttp : Bool) :
    Raising.Throws Foreign (requestJson url timeout allowHttp) := throws_orRaise

theorem throws_signerStatuses (config : Config) (urls : List String) :
    Raising.Throws Foreign (signerStatuses config urls) := by
  induction urls with
  | nil => exact Raising.throws_pure
  | cons url urls ih =>
    exact (throws_requestJson ..).bind fun _ => ih.bind fun _ => Raising.throws_pure

theorem throws_awaitSigners (config : Config) (deadline : ℚ) (rounds : ℕ) (last : List (String × ℤ)) :
    Raising.Throws Foreign (awaitSigners config deadline rounds last) := by
  induction rounds generalizing last with
  | zero => exact Raising.throws_halt
  | succ rounds ih =>
    refine Raising.throws_perform.bind fun _ => ?_
    split
    · refine (throws_signerStatuses ..).bind fun _ => ?_
      split
      · exact Raising.throws_pure
      · exact Raising.throws_perform.bind fun _ => ih _
    · exact Raising.throws_throw (by simp)

theorem throws_verifySignerAuthority (config : Config) (rounds : ℕ) :
    Raising.Throws Foreign (verifySignerAuthority config rounds) :=
  Raising.throws_perform.bind fun _ => throws_awaitSigners ..

theorem throws_lsnValue (value : String) : Raising.Throws Foreign (lsnValue value) := by
  unfold lsnValue
  split
  · exact Raising.throws_pure
  · exact Raising.throws_throw (by simp)

theorem throws_reached (recovery replay target : String) :
    Raising.Throws Foreign (reached recovery replay target) := by
  unfold reached
  split
  · exact (throws_lsnValue _).bind fun _ => (throws_lsnValue _).bind fun _ => Raising.throws_pure
  · exact Raising.throws_pure

theorem throws_witnessNetwork (url : String) : Raising.Throws Foreign (witnessNetwork url) := by
  unfold witnessNetwork
  split
  · exact Raising.throws_throw foreign_other
  · split
    · exact Raising.throws_throw foreign_other
    · refine Raising.throws_perform.bind fun r => ?_
      split
      · exact Raising.throws_throw (by simp)
      · exact Raising.throws_throw foreign_other
      · exact Raising.throws_throw (by simp)
      · exact Raising.throws_pure

theorem throws_witnessNetworks (urls : List String) : Raising.Throws Foreign (witnessNetworks urls) := by
  have each : ∀ urls, Raising.Throws Foreign (List.mapM witnessNetwork urls) := by
    intro urls
    induction urls with
    | nil => exact Raising.throws_pure
    | cons url urls ih =>
      rw [List.mapM_cons]
      exact (throws_witnessNetwork url).bind fun _ => ih.bind fun _ => Raising.throws_pure
  exact (each urls).bind fun _ => (Raising.throws_raiseIf (by simp)).bind fun _ => Raising.throws_pure

theorem throws_verifyWitnessFailures (config : Config) (request : Dict) :
    Raising.Throws Foreign (verifyWitnessFailures config request) := by
  have counted (coordinatorId : String) : ∀ urls failed,
      Raising.Throws Foreign (countFailedWitnesses config coordinatorId urls failed) := by
    intro urls
    induction urls with
    | nil => exact fun _ => Raising.throws_pure
    | cons url urls ih =>
      exact fun _ => (throws_requestJson ..).bind fun _ => (Raising.throws_raiseIf (by simp)).bind fun _ => ih _
  exact (throws_witnessNetworks _).bind fun _ => (counted _ _ _).bind fun _ =>
    Raising.throws_raiseIf (by simp)

theorem throws_verifyStandby (config : Config) (coordinatorId : String) :
    Raising.Throws Foreign (verifyStandby config coordinatorId) :=
  (throws_requestJson ..).bind fun _ => Raising.throws_raiseIf (by simp)

theorem throws_verifyIndexer (config : Config) : Raising.Throws Foreign (verifyIndexer config) :=
  (throws_requestJson ..).bind fun _ => Raising.throws_raiseIf (by simp)

/-! ## Docker -/

namespace DockerDriver

theorem throws_run (args : List String) (tolerate : Bool) (timeout : ℕ) :
    Raising.Throws Foreign (run args tolerate timeout) :=
  (throws_runCommand ..).bind fun _ => (Raising.throws_raiseIf (by simp)).bind fun _ => Raising.throws_pure

theorem throws_container (settings : DockerSettings) (service : String) :
    Raising.Throws Foreign (container settings service) := by
  refine (throws_run ..).bind fun _ => ?_
  split
  · exact (Raising.throws_raiseIf (by simp)).bind fun _ => Raising.throws_pure
  · exact Raising.throws_throw (by simp)

theorem throws_running (container : String) : Raising.Throws Foreign (running container) :=
  (throws_run ..).bind fun _ => Raising.throws_pure

theorem throws_stop (container : String) : Raising.Throws Foreign (stop container) := by
  refine (throws_running _).bind fun _ => (Raising.throws_whenTrue ?_).bind fun _ =>
    (throws_running _).bind fun _ => Raising.throws_raiseIf (by simp)
  exact (throws_run ..).bind fun _ => Raising.throws_pure

theorem throws_routeAlias (settings : DockerSettings) (container aliasName : String) :
    Raising.Throws Foreign (routeAlias settings container aliasName) :=
  (throws_run ..).bind fun _ => (throws_run ..).bind fun _ => Raising.throws_pure

theorem throws_commit (config : Config) (settings : DockerSettings) (rounds : ℕ) (operationId : String) :
    Raising.Throws Foreign (commit config settings rounds operationId) := by
  have started (signer : String) : Raising.Throws Foreign (awaitSigner config rounds signer) :=
    (throws_running _).bind fun _ => (Raising.throws_raiseIf (by simp)).bind fun _ =>
      throws_verifySignerAuthority ..
  refine (throws_container ..).bind fun _ => (throws_container ..).bind fun _ =>
    (throws_container ..).bind fun _ => (throws_stop _).bind fun _ => (throws_run ..).bind fun _ =>
    (throws_routeAlias ..).bind fun _ => (throws_running _).bind fun _ =>
    (Raising.throws_whenTrue ?_).bind fun _ => (started _).bind fun _ => Raising.throws_pure
  exact (throws_run ..).bind fun _ => Raising.throws_pure

theorem throws_psql (settings : DockerSettings) (container query : String) :
    Raising.Throws Foreign (psql settings container query) :=
  (throws_run ..).bind fun _ => Raising.throws_pure

theorem throws_fencedTarget (settings : DockerSettings) (primary : String)
    (existingTarget : Option String) :
    Raising.Throws Foreign (fencedTarget settings primary existingTarget) := by
  unfold fencedTarget captureTarget
  split
  · exact (throws_running _).bind fun _ => (Raising.throws_raiseIf (by simp)).bind fun _ =>
      (throws_psql ..).bind fun _ => (Raising.throws_raiseIf foreign_other).bind fun _ =>
      (Raising.throws_raiseIf (by simp)).bind fun _ => (throws_psql ..).bind fun _ =>
      (throws_lsnValue _).bind fun _ => Raising.throws_perform.bind fun _ => Raising.throws_pure
  · exact Raising.throws_pure

theorem throws_awaitReplay (settings : DockerSettings) (standbyDb target : String) (deadline : ℚ)
    (rounds : ℕ) : Raising.Throws Foreign (awaitReplay settings standbyDb target deadline rounds) := by
  induction rounds with
  | zero => exact Raising.throws_halt
  | succ rounds ih =>
    refine Raising.throws_perform.bind fun _ => ?_
    split
    · refine (throws_psql ..).bind fun _ => (throws_psql ..).bind fun _ =>
        (throws_reached ..).bind fun _ => ?_
      split
      · exact Raising.throws_pure
      · exact Raising.throws_perform.bind fun _ => ih
    · exact Raising.throws_throw (by simp)

theorem throws_prepare (config : Config) (settings : DockerSettings) (rounds : ℕ) (request : Dict)
    (existingTarget : Option String) :
    Raising.Throws Foreign (prepare config settings rounds request existingTarget) := by
  have routed (primary standbyDb : String) :
      Raising.Throws Foreign (routePromoted config settings primary standbyDb) :=
    (throws_psql ..).bind fun _ => (Raising.throws_raiseIf (by simp)).bind fun _ =>
      (throws_run ..).bind fun _ => (throws_routeAlias ..).bind fun _ => throws_verifyIndexer config
  refine (throws_container ..).bind fun _ => (throws_container ..).bind fun _ =>
    (throws_container ..).bind fun _ => (throws_container ..).bind fun _ =>
    (throws_container ..).bind fun _ => (throws_stop _).bind fun _ => (throws_running _).bind fun _ =>
    (Raising.throws_raiseIf (by simp)).bind fun _ => (throws_fencedTarget ..).bind fun _ =>
    Raising.throws_perform.bind fun _ => (throws_awaitReplay ..).bind fun _ => (throws_stop _).bind fun _ =>
    (throws_psql ..).bind fun _ => (Raising.throws_whenTrue ?_).bind fun _ =>
    (routed _ _).bind fun _ => Raising.throws_pure
  exact (throws_run ..).bind fun _ => Raising.throws_pure

end DockerDriver

/-! ## Kubernetes -/

namespace KubernetesDriver

variable (settings : KubernetesSettings)

theorem throws_run (args : List String) : Raising.Throws Foreign (run settings args) :=
  (throws_runCommand ..).bind fun _ => (Raising.throws_raiseIf (by simp)).bind fun _ => Raising.throws_pure

theorem throws_getJson (kindName : String) : Raising.Throws Foreign (getJson settings kindName) := by
  refine (throws_run ..).bind fun _ => ?_
  split
  · exact Raising.throws_throw foreign_other
  · exact Raising.throws_pure
  · exact Raising.throws_throw (by simp)

theorem throws_readCount (value : Dict) (section_ key : String) :
    Raising.Throws Foreign (readCount value section_ key) := by
  unfold readCount
  split
  · exact Raising.throws_pure
  · exact Raising.throws_throw foreign_other

theorem throws_awaitScale (kind name : String) (replicas : ℕ) (deadline : ℚ) (rounds : ℕ) :
    Raising.Throws Foreign (awaitScale settings kind name replicas deadline rounds) := by
  induction rounds with
  | zero => exact Raising.throws_halt
  | succ rounds ih =>
    refine Raising.throws_perform.bind fun _ => ?_
    split
    · refine (throws_getJson ..).bind fun _ => (throws_readCount ..).bind fun _ => ?_
      split
      · exact Raising.throws_pure
      · exact Raising.throws_perform.bind fun _ => ih
    · exact Raising.throws_throw (by simp)

theorem throws_scaleWorkload (config : Config) (rounds : ℕ) (kind name : String) (replicas : ℕ) :
    Raising.Throws Foreign (scaleWorkload config settings rounds kind name replicas) :=
  (Raising.throws_raiseIf (by simp)).bind fun _ => (throws_run ..).bind fun _ =>
    Raising.throws_perform.bind fun _ => throws_awaitScale ..

theorem throws_patchRoute (service : String) : Raising.Throws Foreign (patchRoute settings service) := by
  refine (throws_run ..).bind fun _ => (throws_getJson ..).bind fun _ => ?_
  split
  · exact Raising.throws_throw foreign_other
  · exact Raising.throws_raiseIf (by simp)

theorem throws_commit (config : Config) (rounds : ℕ) (operationId : String) :
    Raising.Throws Foreign (commit config settings rounds operationId) :=
  (throws_scaleWorkload ..).bind fun _ => (throws_patchRoute ..).bind fun _ =>
    (throws_scaleWorkload ..).bind fun _ => (throws_verifySignerAuthority ..).bind fun _ =>
    Raising.throws_pure

theorem throws_psql (pod query : String) : Raising.Throws Foreign (psql settings pod query) :=
  (throws_run ..).bind fun _ => Raising.throws_pure

theorem throws_fencedTarget (existingTarget : Option String) :
    Raising.Throws Foreign (fencedTarget settings existingTarget) := by
  unfold fencedTarget captureTarget
  split
  · exact (throws_psql ..).bind fun _ => (Raising.throws_raiseIf foreign_other).bind fun _ =>
      (Raising.throws_raiseIf (by simp)).bind fun _ => (throws_psql ..).bind fun _ =>
      (throws_lsnValue _).bind fun _ => Raising.throws_perform.bind fun _ => Raising.throws_pure
  · exact Raising.throws_pure

theorem throws_awaitReplay (target : String) (deadline : ℚ) (rounds : ℕ) :
    Raising.Throws Foreign (awaitReplay settings target deadline rounds) := by
  induction rounds with
  | zero => exact Raising.throws_halt
  | succ rounds ih =>
    refine Raising.throws_perform.bind fun _ => ?_
    split
    · refine (throws_psql ..).bind fun _ => (throws_psql ..).bind fun _ =>
        (throws_reached ..).bind fun _ => ?_
      split
      · exact Raising.throws_pure
      · exact Raising.throws_perform.bind fun _ => ih
    · exact Raising.throws_throw (by simp)

theorem throws_prepare (config : Config) (rounds : ℕ) (request : Dict) (existingTarget : Option String) :
    Raising.Throws Foreign (prepare config settings rounds request existingTarget) := by
  have routed : Raising.Throws Foreign (routePromoted config settings) :=
    (throws_psql ..).bind fun _ => (Raising.throws_raiseIf (by simp)).bind fun _ =>
      (throws_patchRoute ..).bind fun _ => throws_verifyIndexer config
  refine (throws_scaleWorkload ..).bind fun _ => (throws_getJson ..).bind fun _ =>
    (throws_readCount ..).bind fun _ => (Raising.throws_raiseIf (by simp)).bind fun _ =>
    (throws_fencedTarget ..).bind fun _ => Raising.throws_perform.bind fun _ =>
    (throws_awaitReplay ..).bind fun _ => (throws_scaleWorkload ..).bind fun _ =>
    (throws_psql ..).bind fun _ => (Raising.throws_whenTrue ?_).bind fun _ =>
    routed.bind fun _ => Raising.throws_pure
  exact (throws_run ..).bind fun _ => Raising.throws_pure

end KubernetesDriver

end Zkdeal.FailoverProvider
