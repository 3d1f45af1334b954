import Zkdeal.FailoverProvider.Worlds
import Zkdeal.FailoverProvider.Fencing

/-!
# The order of a Docker failover

Whatever Docker and PostgreSQL answer, and whenever the driver is killed: `pg_ctl promote` is
issued only after the writers were observed to be stopped and the standby to have replayed the
recorded target, and the signer is started only by `commit`, after the active coordinator was
observed to be stopped and the application alias was moved.
-/

namespace Zkdeal.FailoverProvider.DockerDriver

open Interaction Python

/-! ## Observations -/

section Observations

variable (settings : DockerSettings)

/-- `service` was resolved to `container`. -/
def LookedUp (service container : String) (e : Event Op Answer) : Prop :=
  ∃ output, Ran ("docker" :: psArgs settings service) output e ∧ splitlines output = [container]

/-- The container was observed not running. -/
def Stopped (container : String) (e : Event Op Answer) : Prop :=
  ∃ output, Ran ("docker" :: inspectArgs container) output e ∧ output ≠ "true"

/-- A query to the database in `container` answered `text`. -/
def Answered (container query text : String) (e : Event Op Answer) : Prop :=
  ∃ output, Ran ("docker" :: "exec" :: container :: psqlCommand settings query) output e ∧
    strip output = text

/-- The container was connected under the alias. -/
def Connected (container aliasName : String) (e : Event Op Answer) : Prop :=
  ∃ output, Ran ("docker" :: connectArgs settings container aliasName) output e

end Observations

/-! ## Rules -/

section Rules

variable {config : Config} {settings : DockerSettings} {ok : Trace Op Answer → Op → Prop}
variable {Ps : List (Event Op Answer → Prop)} {recorded : List String} {tr : Trace Op Answer}

theorem ensures_run {args : List String} {tolerate : Bool} {timeout : ℕ}
    {Q : String → Trace Op Answer → Prop} (hok : ok tr (.run ("docker" :: args) timeout))
    (hQ : ∀ output e, e.1 = .run ("docker" :: args) timeout →
      (tolerate = false → Ran ("docker" :: args) output e) → Q output (tr ++ [e])) :
    Raising.Ensures ok (run args tolerate timeout) Q tr := by
  refine Raising.ensures_bind_iff.2 (Raising.ensures_attempt hok ?_)
  intro r p hr
  obtain rfl := orRaise_eq_ok hr
  refine Raising.ensures_bind_iff.2 (Raising.ensures_raiseIf fun h => ?_)
  refine hQ _ _ rfl fun strict => ⟨timeout, p, rfl, ?_, rfl⟩
  by_contra hp
  exact h ⟨hp, strict⟩

theorem plain_ps (service : String) (timeout : ℕ) :
    Plain (.run ("docker" :: psArgs settings service) timeout) := by
  simp [Plain, Promotes, Starts, psArgs]

theorem plain_inspect (container : String) (timeout : ℕ) :
    Plain (.run ("docker" :: inspectArgs container) timeout) := by
  simp [Plain, Promotes, Starts, inspectArgs]

theorem plain_stop (container : String) (timeout : ℕ) :
    Plain (.run ("docker" :: stopArgs container) timeout) := by
  simp [Plain, Promotes, Starts, stopArgs]

theorem plain_psql {query : String} (hquery : query ≠ "-w") (container : String) (timeout : ℕ) :
    Plain (.run ("docker" :: "exec" :: container :: psqlCommand settings query) timeout) := by
  simp [Plain, Promotes, Starts, psqlCommand, hquery]

theorem plain_disconnect (container : String) (timeout : ℕ) : Plain (.run
    ["docker", "network", "disconnect", "-f", settings.network, container] timeout) := by
  simp [Plain, Promotes, Starts]

theorem plain_connect (container aliasName : String) (timeout : ℕ) :
    Plain (.run ("docker" :: connectArgs settings container aliasName) timeout) := by
  simp [Plain, Promotes, Starts, connectArgs]

variable (hok : ∀ tr o, Plain o → ok tr o)
include hok

theorem ensures_container {service : String} {Q : String → Trace Op Answer → Prop}
    (h : Reached Ps recorded tr)
    (hQ : ∀ c tr', Reached (Ps ++ [LookedUp settings service c]) recorded tr' → Q c tr') :
    Raising.Ensures ok (container settings service) Q tr := by
  refine Raising.ensures_bind_iff.2 (ensures_run (hok _ _ (plain_ps service 30)) fun out e he ran => ?_)
  split
  · rename_i value hvalue
    refine Raising.ensures_bind_iff.2 (Raising.ensures_raiseIf fun _ => ?_)
    exact hQ value _ (h.snoc (he ▸ plain_ps service 30) ⟨out, ran rfl, hvalue⟩)
  · exact Raising.ensures_throw

theorem ensures_running {c : String} {Q : Bool → Trace Op Answer → Prop}
    (h : Reached Ps recorded tr)
    (hQ : ∀ b tr', Reached Ps recorded tr' →
      (b = false → Reached (Ps ++ [Stopped c]) recorded tr') → Q b tr') :
    Raising.Ensures ok (running c) Q tr := by
  refine Raising.ensures_bind_iff.2 (ensures_run (hok _ _ (plain_inspect c 30)) fun out e he ran => ?_)
  have plain : Plain e.1 := he ▸ plain_inspect c 30
  refine hQ _ _ (h.extend (by simpa using plain)) fun hb => h.snoc plain ⟨out, ran rfl, ?_⟩
  simpa using hb

theorem ensures_stop {c : String} {Q : Unit → Trace Op Answer → Prop} (h : Reached Ps recorded tr)
    (hQ : ∀ tr', Reached (Ps ++ [Stopped c]) recorded tr' → Q () tr') :
    Raising.Ensures ok (stop c) Q tr := by
  have last : ∀ tr', Reached Ps recorded tr' → Raising.Ensures ok (do
      raiseIf ((← running c) = true)
        (Raised.provider 503 "docker-fence-failed" "container remained running after fence")) Q tr' := by
    intro tr' h'
    refine Raising.ensures_bind_iff.2 (ensures_running hok h' fun b tr'' _ hb => ?_)
    exact Raising.ensures_raiseIf fun hne => hQ _ (hb (by simpa using hne))
  refine Raising.ensures_bind_iff.2 (ensures_running hok h fun b tr' h' _ => ?_)
  refine Raising.ensures_bind_iff.2 (Raising.ensures_whenTrue (fun _ => ?_) fun _ => last _ h')
  refine Raising.ensures_bind_iff.2 (ensures_run (hok _ _ (plain_stop c 20)) fun out e he _ => ?_)
  exact last _ (h'.extend (by simpa [he] using plain_stop c 20))

theorem ensures_psql {c query : String} (hquery : query ≠ "-w") {Q : String → Trace Op Answer → Prop}
    (h : Reached Ps recorded tr)
    (hQ : ∀ text tr', Reached (Ps ++ [Answered settings c query text]) recorded tr' → Q text tr') :
    Raising.Ensures ok (psql settings c query) Q tr := by
  refine Raising.ensures_bind_iff.2 (ensures_run (hok _ _ (plain_psql hquery c 30))
    fun out e he ran => ?_)
  exact hQ _ _ (h.snoc (he ▸ plain_psql hquery c 30) ⟨out, ran rfl, rfl⟩)

theorem ensures_disconnect {c : String} {Q : String → Trace Op Answer → Prop}
    (h : Reached Ps recorded tr) (hQ : ∀ out tr', Reached Ps recorded tr' → Q out tr') :
    Raising.Ensures ok (disconnect settings c) Q tr :=
  ensures_run (hok _ _ (plain_disconnect c 30)) fun out e he _ =>
    hQ out _ (h.extend (by simpa [he] using plain_disconnect c 30))

theorem ensures_routeAlias {c aliasName : String} {Q : Unit → Trace Op Answer → Prop}
    (h : Reached Ps recorded tr)
    (hQ : ∀ tr', Reached (Ps ++ [Connected settings c aliasName]) recorded tr' → Q () tr') :
    Raising.Ensures ok (routeAlias settings c aliasName) Q tr := by
  refine Raising.ensures_bind_iff.2 (ensures_disconnect hok h fun _ tr' h' => ?_)
  refine Raising.ensures_bind_iff.2 (ensures_run (hok _ _ (plain_connect c aliasName 30))
    fun out e he ran => ?_)
  exact hQ _ (h'.snoc (he ▸ plain_connect c aliasName 30) ⟨out, ran rfl⟩)

theorem ensures_captureTarget {primary : String} {Q : String → Trace Op Answer → Prop}
    (hcheckpoint : ∀ target tr', (lsnNumber target).isSome → checkpoints tr' = recorded →
      ok tr' (.checkpoint target))
    (h : Reached Ps recorded tr)
    (hQ : ∀ target tr', Reached (Ps ++ [Answered settings primary flushQuery target,
      Checkpointed target]) (recorded ++ [target]) tr' → Q target tr') :
    Raising.Ensures ok (captureTarget settings primary) Q tr := by
  unfold captureTarget
  refine Raising.ensures_bind_iff.2 (ensures_running hok h fun _ tr h _ => ?_)
  refine Raising.ensures_bind_iff.2 (Raising.ensures_raiseIf fun _ => ?_)
  refine Raising.ensures_bind_iff.2 (ensures_psql hok (by decide) h fun _ tr h => ?_)
  refine Raising.ensures_bind_iff.2 (Raising.ensures_raiseIf fun _ => ?_)
  refine Raising.ensures_bind_iff.2 (Raising.ensures_raiseIf fun _ => ?_)
  refine Raising.ensures_bind_iff.2 (ensures_psql hok (by decide) h.left fun target tr h => ?_)
  refine Raising.ensures_bind_iff.2 (ensures_lsnValue fun n hn => ?_)
  refine Raising.ensures_bind_iff.2 (Raising.ensures_perform
    (hcheckpoint target tr (by simp [hn]) h.recorded) fun _ => ?_)
  have recordedNow := h.checkpoint target
  rw [List.append_assoc] at recordedNow
  exact hQ target _ recordedNow

theorem ensures_awaitReplay {standbyDb target : String} {deadline : ℚ} {rounds : ℕ}
    {Q : String → Trace Op Answer → Prop} (h : Reached Ps recorded tr)
    (hQ : ∀ replay tr', Reached (Ps ++ [Answered settings standbyDb replayQuery replay]) recorded tr' →
      AtOrAfter replay target → Q replay tr') :
    Raising.Ensures ok (awaitReplay settings standbyDb target deadline rounds) Q tr := by
  induction rounds generalizing tr with
  | zero => exact Raising.ensures_halt
  | succ rounds ih =>
    refine Raising.ensures_bind_iff.2 (ensures_plain hok performs_monotonic h fun now tr h => ?_)
    split
    · refine Raising.ensures_bind_iff.2 (ensures_psql hok (by decide) h fun recovery tr h => ?_)
      refine Raising.ensures_bind_iff.2 (ensures_psql hok (by decide) h.left fun replay tr h => ?_)
      refine Raising.ensures_bind_iff.2 (ensures_reached fun b hb => ?_)
      split
      · exact hQ replay tr h (hb ‹_›)
      · exact Raising.ensures_bind_iff.2 (ensures_plain hok (Raising.performs_perform trivial) h.left
          fun _ tr h => ih h)
    · exact Raising.ensures_throw

end Rules

/-! ## Prepare -/

section Prepare

variable (config : Config) (settings : DockerSettings)

/-- What a `prepare` call observed before it promotes. -/
def Fenced (existingTarget : Option String) (tr : Trace Op Answer) (o : Op) : Prop :=
  ∃ active primary standbyDb signer target replay captured,
    Targets existingTarget target (checkpoints tr) ∧
    captured = (checkpoints tr).flatMap
      (fun target => [Answered settings primary flushQuery target, Checkpointed target]) ∧
    InOrder ([LookedUp settings settings.activeService active,
      LookedUp settings settings.primaryDbService primary,
      LookedUp settings settings.standbyDbService standbyDb,
      LookedUp settings settings.signerService signer, Stopped active, Stopped signer] ++ captured ++
      [Answered settings standbyDb replayQuery replay, Stopped primary]) tr ∧
    AtOrAfter replay target ∧
    o = .run ("docker" :: "exec" :: "--user" :: "postgres" :: standbyDb :: promoteCommand settings) 30

variable {settings}

theorem ensures_fencedTarget {ok : Trace Op Answer → Op → Prop} (hok : ∀ tr o, Plain o → ok tr o)
    {Ps : List (Event Op Answer → Prop)} {tr : Trace Op Answer} {primary : String}
    {existingTarget : Option String} {Q : String → Trace Op Answer → Prop}
    (hcheckpoint : existingTarget.getD "" = "" → ∀ target tr', (lsnNumber target).isSome →
      checkpoints tr' = [] → ok tr' (.checkpoint target))
    (h : Reached Ps [] tr)
    (hQ : ∀ target recorded tr', Targets existingTarget target recorded →
      Reached (Ps ++ recorded.flatMap fun target =>
        [Answered settings primary flushQuery target, Checkpointed target]) recorded tr' →
      Q target tr') :
    Raising.Ensures ok (fencedTarget settings primary existingTarget) Q tr := by
  unfold fencedTarget
  split
  · rename_i hnone
    refine ensures_captureTarget hok (hcheckpoint hnone) h
      fun target tr' h => hQ target [target] tr' (.inr ⟨hnone, rfl⟩) ?_
    simpa using h
  · rename_i hsome
    obtain ⟨target, rfl⟩ := exists_of_getD_ne hsome
    exact hQ target [] tr (.inl ⟨rfl, hsome, rfl⟩) (by simpa using h)

theorem ensures_routePromoted {ok : Trace Op Answer → Op → Prop} (hok : ∀ tr o, Plain o → ok tr o)
    {recorded : List String} {tr : Trace Op Answer} {primary standbyDb : String}
    {Q : Unit → Trace Op Answer → Prop} (h : Reached [] recorded tr)
    (hQ : ∀ tr', checkpoints tr' = recorded → Q () tr') :
    Raising.Ensures ok (routePromoted config settings primary standbyDb) Q tr := by
  unfold routePromoted
  refine Raising.ensures_bind_iff.2 (ensures_psql hok (by decide) h fun _ _ h => ?_)
  refine Raising.ensures_bind_iff.2 (Raising.ensures_raiseIf fun _ => ?_)
  refine Raising.ensures_bind_iff.2 (ensures_disconnect hok h fun _ _ h => ?_)
  refine Raising.ensures_bind_iff.2 (ensures_routeAlias hok h fun _ h => ?_)
  exact ensures_plain hok (performs_verifyIndexer config) h fun _ tr' h => hQ tr' h.recorded

/-- The operations of a `prepare` call, and what it returns. -/
theorem prepare_ensures (rounds : ℕ) (request : Dict) (existingTarget : Option String) :
    Raising.Ensures (PrepareIssues (Fenced settings existingTarget) existingTarget)
      (prepare config settings rounds request existingTarget)
      (PrepareReturns request existingTarget) [] := by
  have hok : ∀ tr o, Plain o → PrepareIssues (Fenced settings existingTarget) existingTarget tr o :=
    fun tr o plain => .inl plain
  unfold prepare
  refine Raising.ensures_bind_iff.2 (ensures_container hok reached_nil fun active _ h => ?_)
  refine Raising.ensures_bind_iff.2 (ensures_container hok h fun _ _ h => ?_)
  refine Raising.ensures_bind_iff.2 (ensures_container hok h.left fun primary _ h => ?_)
  refine Raising.ensures_bind_iff.2 (ensures_container hok h fun standbyDb _ h => ?_)
  refine Raising.ensures_bind_iff.2 (ensures_container hok h fun signer _ h => ?_)
  refine Raising.ensures_bind_iff.2 (ensures_stop hok h fun _ h => ?_)
  refine Raising.ensures_bind_iff.2 (ensures_running hok h fun b _ _ h => ?_)
  refine Raising.ensures_bind_iff.2 (Raising.ensures_raiseIf fun hb => ?_)
  refine Raising.ensures_bind_iff.2 (ensures_fencedTarget hok
    (fun hnone target _ hlsn htr => .inr (.inl ⟨target, rfl, hlsn, hnone, htr⟩)) (h (by simpa using hb))
    fun target recorded _ targets h => ?_)
  refine Raising.ensures_bind_iff.2 (ensures_plain hok performs_monotonic h fun _ _ h => ?_)
  refine Raising.ensures_bind_iff.2 (ensures_awaitReplay hok h fun replay _ h caughtUp => ?_)
  refine Raising.ensures_bind_iff.2 (ensures_stop hok h fun _ h => ?_)
  refine Raising.ensures_bind_iff.2 (ensures_psql hok (by decide) h fun _ tr h => ?_)
  -- The only operation that is not plain: everything it rests on was observed by now.
  have fenced : Fenced settings existingTarget tr (.run ("docker" :: "exec" :: "--user" :: "postgres" ::
      standbyDb :: promoteCommand settings) 30) :=
    ⟨active, primary, standbyDb, signer, target, replay, _, h.recorded ▸ targets, rfl,
      by simpa [h.recorded] using h.left.order, caughtUp, rfl⟩
  have finish : ∀ tr', Reached [] recorded tr' → Raising.Ensures
      (PrepareIssues (Fenced settings existingTarget) existingTarget) (do
        routePromoted config settings primary standbyDb
        return prepareResponse ((request.get "candidateId").getD .null) target replay)
      (PrepareReturns request existingTarget) tr' := fun tr' h =>
    Raising.ensures_bind_iff.2 (ensures_routePromoted config hok h fun tr' hrecorded =>
      Raising.ensures_pure_iff.2 ⟨target, replay, hrecorded ▸ targets, rfl⟩)
  refine Raising.ensures_bind_iff.2 (Raising.ensures_whenTrue (fun _ => ?_) fun _ =>
    finish _ ⟨trivial, h.recorded⟩)
  refine Raising.ensures_bind_iff.2 (ensures_run (.inr (.inr fenced)) fun _ e he _ => ?_)
  refine finish _ ⟨trivial, ?_⟩
  obtain ⟨o, r⟩ := e
  obtain rfl := he
  rw [checkpoints_append, h.recorded]
  exact List.append_nil recorded

end Prepare

/-! ## Commit -/

section Commit

variable (config : Config) (settings : DockerSettings)

/-- What a `commit` call observed before it starts the signer. -/
def Activated (tr : Trace Op Answer) (o : Op) : Prop :=
  ∃ active standby signer,
    InOrder [LookedUp settings settings.activeService active,
      LookedUp settings settings.standbyService standby,
      LookedUp settings settings.signerService signer, Stopped active,
      Connected settings standby settings.applicationAlias] tr ∧
    o = .run ("docker" :: startArgs signer) 30

/-- The operations of a `commit` call: besides plain ones, it starts the signer. -/
def CommitIssues (tr : Trace Op Answer) (o : Op) : Prop := Plain o ∨ Activated settings tr o

variable {settings}

theorem ensures_awaitSigner {ok : Trace Op Answer → Op → Prop} (hok : ∀ tr o, Plain o → ok tr o)
    {recorded : List String} {tr : Trace Op Answer} {rounds : ℕ} {signer : String}
    {Q : Unit → Trace Op Answer → Prop} (h : Reached [] recorded tr) (hQ : ∀ tr', Q () tr') :
    Raising.Ensures ok (awaitSigner config rounds signer) Q tr := by
  unfold awaitSigner
  refine Raising.ensures_bind_iff.2 (ensures_running hok h fun _ _ h _ => ?_)
  refine Raising.ensures_bind_iff.2 (Raising.ensures_raiseIf fun _ => ?_)
  exact ensures_plain hok (performs_verifySignerAuthority config rounds) h fun _ tr' _ => hQ tr'

theorem commit_ensures (rounds : ℕ) (operationId : String) :
    Raising.Ensures (CommitIssues settings) (commit config settings rounds operationId)
      (fun response _ => response = commitResponse config operationId) [] := by
  have hok : ∀ tr o, Plain o → CommitIssues settings tr o := fun tr o plain => .inl plain
  unfold commit
  refine Raising.ensures_bind_iff.2 (ensures_container hok reached_nil fun active _ h => ?_)
  refine Raising.ensures_bind_iff.2 (ensures_container hok h fun standby _ h => ?_)
  refine Raising.ensures_bind_iff.2 (ensures_container hok h fun signer _ h => ?_)
  refine Raising.ensures_bind_iff.2 (ensures_stop hok h fun _ h => ?_)
  refine Raising.ensures_bind_iff.2 (ensures_disconnect hok h fun _ _ h => ?_)
  refine Raising.ensures_bind_iff.2 (ensures_routeAlias hok h fun _ h => ?_)
  refine Raising.ensures_bind_iff.2 (ensures_running hok h fun _ tr h _ => ?_)
  have activated : Activated settings tr (.run ("docker" :: startArgs signer) 30) :=
    ⟨active, standby, signer, by simpa using h.order, rfl⟩
  have finish : ∀ tr', Raising.Ensures (CommitIssues settings) (do
      awaitSigner config rounds signer
      return commitResponse config operationId)
      (fun response _ => response = commitResponse config operationId) tr' := fun tr' =>
    Raising.ensures_bind_iff.2 (ensures_awaitSigner config hok ⟨trivial, rfl⟩ fun _ => rfl)
  refine Raising.ensures_bind_iff.2 (Raising.ensures_whenTrue (fun _ => ?_) fun _ => finish _)
  exact Raising.ensures_bind_iff.2 (ensures_run (.inr activated) fun _ _ _ _ => finish _)

end Commit

/-! ## Fencing order -/

theorem Fenced.not_starts {settings : DockerSettings} {existingTarget : Option String}
    {tr : Trace Op Answer} {o : Op} (h : Fenced settings existingTarget tr o) : ¬Starts o := by
  obtain ⟨_, _, _, _, _, _, _, _, _, _, _, rfl⟩ := h
  simp [Starts]

theorem Activated.not_promotes {settings : DockerSettings} {tr : Trace Op Answer} {o : Op}
    (h : Activated settings tr o) : ¬Promotes o := by
  obtain ⟨_, _, _, _, rfl⟩ := h
  simp [Promotes, startArgs]

/-- In every run, `pg_ctl promote` and `docker start` are issued only where they may be. -/
theorem fencing_order (config : Config) (settings : DockerSettings) (rounds : ℕ)
    {pre post : Trace Op Answer} {e : Event Op Answer} {out : Outcome Op (Except Raised Dict)} :
    (∀ request existingTarget,
      (prepare config settings rounds request existingTarget).run.Runs (pre ++ e :: post) out →
        (Promotes e.1 → Fenced settings existingTarget pre e.1) ∧ ¬Starts e.1) ∧
    ∀ operationId, (commit config settings rounds operationId).run.Runs (pre ++ e :: post) out →
      (Starts e.1 → Activated settings pre e.1) ∧ ¬Promotes e.1 := by
  refine ⟨fun request existingTarget run => ?_, fun operationId run => ?_⟩
  · rcases (prepare_ensures config rounds request existingTarget).issued run with
      plain | ⟨target, htarget, -⟩ | fenced
    · exact ⟨fun h => absurd h plain.not_promotes, plain.not_starts⟩
    · rw [htarget]
      exact ⟨by simp [Promotes], by simp [Starts]⟩
    · exact ⟨fun _ => fenced, fenced.not_starts⟩
  · rcases (commit_ensures config rounds operationId).issued run with plain | activated
    · exact ⟨fun h => absurd h plain.not_starts, plain.not_promotes⟩
    · exact ⟨fun _ => activated, activated.not_promotes⟩

/-- The run of a driver program in the deployment. -/
def deployed (x : Platform Dict) : Trace Op Answer × Outcome Op (Except Raised Dict) × DockerWorld :=
  x.run.simulate (fun w o => some (platformAnswer DockerWorld.command Deployment.config w o)) Deployment.dockerWorld

theorem fencing_order_deployed :
    (∃ pre e post, (deployed (prepare Deployment.config Deployment.dockerSettings 1
        Deployment.prepareRequest none)).1 = pre ++ e :: post ∧ Promotes e.1 ∧
      Fenced Deployment.dockerSettings none pre e.1) ∧
    ∃ pre e post, (deployed (commit Deployment.config Deployment.dockerSettings 1
        "candidate-20260821-001")).1 = pre ++ e :: post ∧ Starts e.1 ∧
      Activated Deployment.dockerSettings pre e.1 := by
  constructor
  · obtain ⟨e, he, promotes⟩ := List.any_eq_true.1 (show (deployed (prepare Deployment.config
      Deployment.dockerSettings 1 Deployment.prepareRequest none)).1.any
        (fun e => decide (Promotes e.1)) = true by decide +kernel)
    obtain ⟨pre, post, split⟩ := List.append_of_mem he
    have run := Prog.simulate_runs (fun w o => some (platformAnswer DockerWorld.command Deployment.config w o))
      (prepare Deployment.config Deployment.dockerSettings 1 Deployment.prepareRequest none).run
      Deployment.dockerWorld
    rw [show (Prog.simulate _ _ _).1 = pre ++ e :: post from split] at run
    exact ⟨pre, e, post, split, of_decide_eq_true promotes,
      ((fencing_order _ _ _).1 _ _ run).1 (of_decide_eq_true promotes)⟩
  · obtain ⟨e, he, starts⟩ := List.any_eq_true.1 (show (deployed (commit Deployment.config
      Deployment.dockerSettings 1 "candidate-20260821-001")).1.any
        (fun e => decide (Starts e.1)) = true by decide)
    obtain ⟨pre, post, split⟩ := List.append_of_mem he
    have run := Prog.simulate_runs (fun w o => some (platformAnswer DockerWorld.command Deployment.config w o))
      (commit Deployment.config Deployment.dockerSettings 1 "candidate-20260821-001").run
      Deployment.dockerWorld
    rw [show (Prog.simulate _ _ _).1 = pre ++ e :: post from split] at run
    exact ⟨pre, e, post, split, of_decide_eq_true starts,
      ((fencing_order _ _ _).2 _ run).1 (of_decide_eq_true starts)⟩

end Zkdeal.FailoverProvider.DockerDriver
