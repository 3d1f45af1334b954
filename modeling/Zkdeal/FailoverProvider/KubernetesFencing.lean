import Zkdeal.FailoverProvider.Fencing
import Zkdeal.FailoverProvider.KubernetesDriver

/-!
# The order of a Kubernetes failover

The operations of a Kubernetes `prepare`, and what it observed before it promotes: a report of the
active deployment and one of the primary stateful set in which the awaited field is zero.
-/

namespace Zkdeal.FailoverProvider.KubernetesDriver

open Interaction Python

/-! ## Observations -/

section Observations

variable (settings : KubernetesSettings)

/-- A workload was reported with none of its replicas ready. -/
def Drained (kind name : String) (value : Dict) (e : Event Op Answer) : Prop :=
  ∃ output, Ran (kubectl settings (getArgs (kind ++ "/" ++ name))) output e ∧
    Json.loads output = some (.obj value) ∧ count value "status" (readyField kind) = some 0

/-- A query to the database in `pod` answered `text`. -/
def Answered (pod query text : String) (e : Event Op Answer) : Prop :=
  ∃ output, Ran (kubectl settings ("exec" :: ("pod/" ++ pod) :: "-c" ::
    settings.postgresContainer :: "--" :: psqlCommand settings query)) output e ∧ strip output = text

end Observations

/-! ## Rules -/

section Rules

variable {config : Config} {settings : KubernetesSettings} {ok : Trace Op Answer → Op → Prop}
variable {Ps : List (Event Op Answer → Prop)} {recorded : List String} {tr : Trace Op Answer}

theorem ensures_run {args : List String} {Q : String → Trace Op Answer → Prop}
    (hok : ok tr (.run (kubectl settings args) 30))
    (hQ : ∀ output e, e.1 = .run (kubectl settings args) 30 →
      Ran (kubectl settings args) output e → Q output (tr ++ [e])) :
    Raising.Ensures ok (run settings args) Q tr := by
  refine Raising.ensures_bind_iff.2 (Raising.ensures_attempt hok ?_)
  intro r p hr
  obtain rfl := orRaise_eq_ok hr
  refine Raising.ensures_bind_iff.2 (Raising.ensures_raiseIf fun h => ?_)
  exact hQ _ _ rfl ⟨30, p, rfl, not_not.1 h, rfl⟩

theorem plain_get (kindName : String) : Plain (.run (kubectl settings (getArgs kindName)) 30) := by
  simp [Plain, Promotes, Starts, kubectl, getArgs]

theorem plain_scale (kind name : String) :
    Plain (.run (kubectl settings (scaleArgs kind name 0)) 30) := by
  have zero : "--replicas=" ++ Nat.repr 0 = "--replicas=0" := by decide
  simp [Plain, Promotes, Starts, kubectl, scaleArgs, zero]

theorem plain_psql (pod query : String) : Plain (.run (kubectl settings ("exec" :: ("pod/" ++ pod) ::
    "-c" :: settings.postgresContainer :: "--" :: psqlCommand settings query)) 30) := by
  simp [Plain, Promotes, Starts, kubectl, psqlCommand]

theorem plain_patch (service : String) :
    Plain (.run (kubectl settings (patchArgs settings service)) 30) := by
  simp [Plain, Promotes, Starts, kubectl, patchArgs]

theorem ensures_readCount {value : Dict} {section_ key : String} {Q : ℤ → Trace Op Answer → Prop}
    (hQ : ∀ n, count value section_ key = some n → Q n tr) :
    Raising.Ensures ok (readCount value section_ key) Q tr := by
  unfold readCount
  split
  · exact hQ _ ‹_›
  · exact Raising.ensures_throw

/-! ### Operations performed -/

section Performs

variable {P : Op → Prop}

theorem performs_run {args : List String} (h : P (.run (kubectl settings args) 30)) :
    Raising.Performs P (run settings args) :=
  (Raising.performs_attempt h).bind fun _ => Raising.performs_raiseIf.bind fun _ => trivial

theorem performs_getJson {kindName : String} (h : P (.run (kubectl settings (getArgs kindName)) 30)) :
    Raising.Performs P (getJson settings kindName) :=
  (performs_run h).bind fun _ => by split <;> trivial

theorem performs_readCount (value : Dict) (section_ key : String) :
    Raising.Performs P (readCount value section_ key) := by
  unfold readCount
  split <;> trivial

theorem performs_scaleWorkload {rounds : ℕ} {kind name : String} {replicas : ℕ}
    (hscale : P (.run (kubectl settings (scaleArgs kind name replicas)) 30))
    (hget : P (.run (kubectl settings (getArgs (kind ++ "/" ++ name))) 30)) (hclock : P .monotonic)
    (hsleep : P (.sleep 1)) :
    Raising.Performs P (scaleWorkload config settings rounds kind name replicas) := by
  have clock : Raising.Performs P monotonic := Raising.performs_perform hclock
  have wait : Raising.Performs P (sleep 1) := Raising.performs_perform hsleep
  have polls (deadline : ℚ) (rounds : ℕ) :
      Raising.Performs P (awaitScale settings kind name replicas deadline rounds) := by
    induction rounds with
    | zero => exact Raising.performs_halt
    | succ rounds ih =>
      refine clock.bind fun _ => ?_
      split
      · refine (performs_getJson hget).bind fun value => (performs_readCount value _ _).bind fun _ => ?_
        split
        · trivial
        · exact wait.bind fun _ => ih
      · trivial
  refine Raising.performs_raiseIf.bind fun _ => (performs_run hscale).bind fun _ => ?_
  exact clock.bind fun _ => polls _ _

end Performs

/-! ### Traces -/

variable (hok : ∀ tr o, Plain o → ok tr o)
include hok

theorem ensures_getJson {kindName : String} {Q : Dict → Trace Op Answer → Prop}
    (hQ : ∀ value output e, Plain e.1 → Ran (kubectl settings (getArgs kindName)) output e →
      Json.loads output = some (.obj value) → Q value (tr ++ [e])) :
    Raising.Ensures ok (getJson settings kindName) Q tr := by
  refine Raising.ensures_bind_iff.2 (ensures_run (hok _ _ (plain_get kindName)) fun out e he ran => ?_)
  split
  · exact Raising.ensures_throw
  · exact hQ _ out e (he ▸ plain_get kindName) ran ‹_›
  · exact Raising.ensures_throw

/-- The report that ends the polling is the last event. -/
theorem ensures_awaitScale {kind name : String} {deadline : ℚ} {rounds : ℕ}
    {Q : Unit → Trace Op Answer → Prop}
    (hQ : ∀ value l e, (∀ e ∈ l, Plain e.1) → Plain e.1 → Drained settings kind name value e →
      Q () (tr ++ l ++ [e])) :
    Raising.Ensures ok (awaitScale settings kind name 0 deadline rounds) Q tr := by
  induction rounds generalizing tr with
  | zero => exact Raising.ensures_halt
  | succ rounds ih =>
    refine Raising.ensures_bind_iff.2 (performs_monotonic.ensures hok fun _ l hl => ?_)
    split
    · refine Raising.ensures_bind_iff.2 (ensures_getJson hok fun value out e plain ran hloads => ?_)
      refine Raising.ensures_bind_iff.2 (ensures_readCount fun observed hcount => ?_)
      split
      · rename_i hzero
        rw [hzero] at hcount
        exact hQ value l e hl plain ⟨out, ran, hloads, hcount⟩
      · refine Raising.ensures_bind_iff.2 ((Raising.performs_perform trivial).ensures hok
          fun _ l' hl' => ih fun value l'' e' hl'' plain' drained => ?_)
        have := hQ value (l ++ [e] ++ l' ++ l'') e' (by
          simp only [List.mem_append, List.mem_singleton]
          rintro d (((h | rfl) | h) | h)
          exacts [hl d h, plain, hl' d h, hl'' d h]) plain' drained
        simpa using this
    · exact Raising.ensures_throw

theorem ensures_scaleWorkload {rounds : ℕ} {kind name : String} {Q : Unit → Trace Op Answer → Prop}
    (hQ : ∀ value l e, (∀ e ∈ l, Plain e.1) → Plain e.1 → Drained settings kind name value e →
      Q () (tr ++ l ++ [e])) :
    Raising.Ensures ok (scaleWorkload config settings rounds kind name 0) Q tr := by
  refine Raising.ensures_bind_iff.2 (Raising.ensures_raiseIf fun _ => ?_)
  refine Raising.ensures_bind_iff.2 (ensures_run (hok _ _ (plain_scale kind name)) fun _ e he _ => ?_)
  refine Raising.ensures_bind_iff.2 (performs_monotonic.ensures hok fun _ l hl => ?_)
  refine ensures_awaitScale hok fun value l' e' hl' plain drained => ?_
  have := hQ value (e :: (l ++ l')) e' (by
    simp only [List.mem_cons, List.mem_append]
    rintro d (rfl | h | h)
    exacts [he ▸ plain_scale kind name, hl d h, hl' d h]) plain drained
  simpa using this

/-- A workload was drained. -/
theorem ensures_drained {rounds : ℕ} {kind name : String} {Q : Unit → Trace Op Answer → Prop}
    (h : Reached Ps recorded tr)
    (hQ : ∀ value tr', Reached (Ps ++ [Drained settings kind name value]) recorded tr' → Q () tr') :
    Raising.Ensures ok (scaleWorkload config settings rounds kind name 0) Q tr :=
  ensures_scaleWorkload hok fun value _ _ hl plain drained =>
    hQ value _ ((h.extend hl).snoc plain drained)

theorem ensures_psql {pod query : String} {Q : String → Trace Op Answer → Prop}
    (h : Reached Ps recorded tr)
    (hQ : ∀ text tr', Reached (Ps ++ [Answered settings pod query text]) recorded tr' → Q text tr') :
    Raising.Ensures ok (psql settings pod query) Q tr := by
  refine Raising.ensures_bind_iff.2 (ensures_run (hok _ _ (plain_psql pod query)) fun out e he ran => ?_)
  exact hQ _ _ (h.snoc (he ▸ plain_psql pod query) ⟨out, ran, rfl⟩)

theorem ensures_patchRoute {service : String} {Q : Unit → Trace Op Answer → Prop}
    (h : Reached Ps recorded tr) (hQ : ∀ tr', Reached Ps recorded tr' → Q () tr') :
    Raising.Ensures ok (patchRoute settings service) Q tr := by
  refine Raising.ensures_bind_iff.2 (ensures_run (hok _ _ (plain_patch service)) fun _ e he _ => ?_)
  have h := h.extend (l := [e]) (by simpa [he] using plain_patch service)
  refine Raising.ensures_bind_iff.2 (ensures_getJson hok fun _ _ e plain _ _ => ?_)
  split
  · exact Raising.ensures_throw
  · exact Raising.ensures_raiseIf fun _ => hQ _ (h.extend (l := [e]) (by simpa using plain))

theorem ensures_captureTarget {Q : String → Trace Op Answer → Prop}
    (hcheckpoint : ∀ target tr', (lsnNumber target).isSome → checkpoints tr' = recorded →
      ok tr' (.checkpoint target))
    (h : Reached Ps recorded tr)
    (hQ : ∀ target tr', Reached (Ps ++ [Answered settings settings.primaryDbPod flushQuery target,
      Checkpointed target]) (recorded ++ [target]) tr' → Q target tr') :
    Raising.Ensures ok (captureTarget settings) Q tr := by
  unfold captureTarget
  refine Raising.ensures_bind_iff.2 (ensures_psql hok h fun _ tr h => ?_)
  refine Raising.ensures_bind_iff.2 (Raising.ensures_raiseIf fun _ => ?_)
  refine Raising.ensures_bind_iff.2 (Raising.ensures_raiseIf fun _ => ?_)
  refine Raising.ensures_bind_iff.2 (ensures_psql hok h.left fun target tr h => ?_)
  refine Raising.ensures_bind_iff.2 (ensures_lsnValue fun n hn => ?_)
  refine Raising.ensures_bind_iff.2 (Raising.ensures_perform
    (hcheckpoint target tr (by simp [hn]) h.recorded) fun _ => ?_)
  have recordedNow := h.checkpoint target
  rw [List.append_assoc] at recordedNow
  exact hQ target _ recordedNow

theorem ensures_fencedTarget {existingTarget : Option String} {Q : String → Trace Op Answer → Prop}
    (hcheckpoint : existingTarget.getD "" = "" → ∀ target tr', (lsnNumber target).isSome →
      checkpoints tr' = [] → ok tr' (.checkpoint target))
    (h : Reached Ps [] tr)
    (hQ : ∀ target recorded tr', Targets existingTarget target recorded →
      Reached (Ps ++ recorded.flatMap fun target =>
        [Answered settings settings.primaryDbPod flushQuery target, Checkpointed target]) recorded
        tr' → Q target tr') :
    Raising.Ensures ok (fencedTarget settings existingTarget) Q tr := by
  unfold fencedTarget
  split
  · rename_i hnone
    refine ensures_captureTarget hok (hcheckpoint hnone) h
      fun target tr' h => hQ target [target] tr' (.inr ⟨hnone, rfl⟩) ?_
    simpa using h
  · rename_i hsome
    obtain ⟨target, rfl⟩ := exists_of_getD_ne hsome
    exact hQ target [] tr (.inl ⟨rfl, hsome, rfl⟩) (by simpa using h)

theorem ensures_awaitReplay {target : String} {deadline : ℚ} {rounds : ℕ}
    {Q : String → Trace Op Answer → Prop} (h : Reached Ps recorded tr)
    (hQ : ∀ replay tr', Reached (Ps ++ [Answered settings settings.standbyDbPod replayQuery replay])
      recorded tr' → AtOrAfter replay target → Q replay tr') :
    Raising.Ensures ok (awaitReplay settings target deadline rounds) Q tr := by
  induction rounds generalizing tr with
  | zero => exact Raising.ensures_halt
  | succ rounds ih =>
    refine Raising.ensures_bind_iff.2 (ensures_plain hok performs_monotonic h fun now tr h => ?_)
    split
    · refine Raising.ensures_bind_iff.2 (ensures_psql hok h fun recovery tr h => ?_)
      refine Raising.ensures_bind_iff.2 (ensures_psql hok h.left fun replay tr h => ?_)
      refine Raising.ensures_bind_iff.2 (ensures_reached fun b hb => ?_)
      split
      · exact hQ replay tr h (hb ‹_›)
      · exact Raising.ensures_bind_iff.2 (ensures_plain hok (Raising.performs_perform trivial) h.left
          fun _ tr h => ih h)
    · exact Raising.ensures_throw

theorem ensures_routePromoted {Q : Unit → Trace Op Answer → Prop} (h : Reached [] recorded tr)
    (hQ : ∀ tr', checkpoints tr' = recorded → Q () tr') :
    Raising.Ensures ok (routePromoted config settings) Q tr := by
  unfold routePromoted
  refine Raising.ensures_bind_iff.2 (ensures_psql hok h fun _ _ h => ?_)
  refine Raising.ensures_bind_iff.2 (Raising.ensures_raiseIf fun _ => ?_)
  refine Raising.ensures_bind_iff.2 (ensures_patchRoute hok h fun _ h => ?_)
  exact ensures_plain hok (performs_verifyIndexer config) h fun _ tr' h => hQ tr' h.recorded

end Rules

/-! ## Commit -/

section Commit

variable {config : Config} {settings : KubernetesSettings}

/-- A `commit` call neither promotes nor touches the record of the failover. -/
theorem commit_ensures (rounds : ℕ) (operationId : String) :
    Raising.Ensures (fun _ o => ¬Promotes o ∧ External o) (commit config settings rounds operationId)
      (fun response _ => response = commitResponse config operationId) [] := by
  have hok : ∀ (tr : Trace Op Answer) o, Plain o → ¬Promotes o ∧ External o :=
    fun _ _ plain => ⟨plain.not_promotes, plain.external⟩
  unfold commit
  refine Raising.ensures_bind_iff.2 (ensures_scaleWorkload hok fun _ _ _ _ _ _ => ?_)
  refine Raising.ensures_bind_iff.2 (ensures_patchRoute hok (reached_any _) fun tr _ => ?_)
  have scaled : Raising.Performs (fun o => ¬Promotes o ∧ External o)
      (scaleWorkload config settings rounds "deployment" settings.signerDeployment 1) := by
    have one : "--replicas=" ++ Nat.repr 1 = "--replicas=1" := by decide
    refine performs_scaleWorkload ⟨?_, trivial⟩ (hok [] _ (plain_get _)) (hok [] _ trivial)
      (hok [] _ trivial)
    simp [Promotes, kubectl, scaleArgs, one]
  refine Raising.ensures_bind_iff.2 (scaled.ensures (fun _ _ h => h) fun _ _ _ => ?_)
  exact Raising.ensures_bind_iff.2 ((performs_verifySignerAuthority config rounds).ensures hok
    fun _ _ _ => rfl)

end Commit

/-! ## Prepare -/

section Prepare

variable (config : Config) (settings : KubernetesSettings)

/-- What a `prepare` call observed before it promotes. -/
def Fenced (existingTarget : Option String) (tr : Trace Op Answer) (o : Op) : Prop :=
  ∃ active primary target replay captured,
    Targets existingTarget target (checkpoints tr) ∧
    captured = (checkpoints tr).flatMap (fun target =>
      [Answered settings settings.primaryDbPod flushQuery target, Checkpointed target]) ∧
    InOrder ([Drained settings "deployment" settings.activeDeployment active] ++ captured ++
      [Answered settings settings.standbyDbPod replayQuery replay,
        Drained settings "statefulset" settings.primaryDbStatefulset primary]) tr ∧
    AtOrAfter replay target ∧
    o = .run (kubectl settings ("exec" :: ("pod/" ++ settings.standbyDbPod) :: "-c" ::
      settings.postgresContainer :: "--" :: promoteCommand settings)) 30

variable {settings}

/-- The operations of a `prepare` call, and what it returns. -/
theorem prepare_ensures (rounds : ℕ) (request : Dict) (existingTarget : Option String) :
    Raising.Ensures (PrepareIssues (Fenced settings existingTarget) existingTarget)
      (prepare config settings rounds request existingTarget)
      (PrepareReturns request existingTarget) [] := by
  have hok : ∀ tr o, Plain o → PrepareIssues (Fenced settings existingTarget) existingTarget tr o :=
    fun tr o plain => .inl plain
  unfold prepare
  refine Raising.ensures_bind_iff.2 (ensures_drained hok reached_nil fun active tr h => ?_)
  refine Raising.ensures_bind_iff.2 (ensures_getJson hok fun _ _ e plain _ _ => ?_)
  have h := h.extend (l := [e]) (by simpa using plain)
  refine Raising.ensures_bind_iff.2 (ensures_readCount fun _ _ => ?_)
  refine Raising.ensures_bind_iff.2 (Raising.ensures_raiseIf fun _ => ?_)
  refine Raising.ensures_bind_iff.2 (ensures_fencedTarget hok
    (fun hnone target _ hlsn htr => .inr (.inl ⟨target, rfl, hlsn, hnone, htr⟩)) h
    fun target recorded _ targets h => ?_)
  refine Raising.ensures_bind_iff.2 (ensures_plain hok performs_monotonic h fun _ _ h => ?_)
  refine Raising.ensures_bind_iff.2 (ensures_awaitReplay hok h fun replay _ h caughtUp => ?_)
  refine Raising.ensures_bind_iff.2 (ensures_drained hok h fun primary _ h => ?_)
  refine Raising.ensures_bind_iff.2 (ensures_psql hok h fun _ tr h => ?_)
  -- The only operation that is not plain: everything it rests on was observed by now.
  have fenced : Fenced settings existingTarget tr (.run (kubectl settings ("exec" ::
      ("pod/" ++ settings.standbyDbPod) :: "-c" :: settings.postgresContainer :: "--" ::
      promoteCommand settings)) 30) :=
    ⟨active, primary, target, replay, _, h.recorded ▸ targets, rfl,
      by simpa [h.recorded] using h.left.order, caughtUp, rfl⟩
  have finish : ∀ tr', Reached [] recorded tr' → Raising.Ensures
      (PrepareIssues (Fenced settings existingTarget) existingTarget) (do
        routePromoted config settings
        return prepareResponse ((request.get "candidateId").getD .null) target replay)
      (PrepareReturns request existingTarget) tr' := fun tr' h =>
    Raising.ensures_bind_iff.2 (ensures_routePromoted hok h fun tr' hrecorded =>
      Raising.ensures_pure_iff.2 ⟨target, replay, hrecorded ▸ targets, rfl⟩)
  refine Raising.ensures_bind_iff.2 (Raising.ensures_whenTrue (fun _ => ?_) fun _ =>
    finish _ ⟨trivial, h.recorded⟩)
  refine Raising.ensures_bind_iff.2 (ensures_run (.inr (.inr fenced)) fun _ e he _ => ?_)
  refine finish _ ⟨trivial, ?_⟩
  obtain ⟨o, r⟩ := e
  obtain rfl := he
  rw [checkpoints_append, h.recorded]
  exact List.append_nil recorded

end Prepare

end Zkdeal.FailoverProvider.KubernetesDriver
