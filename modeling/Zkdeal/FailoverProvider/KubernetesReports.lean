import Zkdeal.FailoverProvider.KubernetesFencing
import Zkdeal.FailoverProvider.Worlds

/-!
# What a Kubernetes driver saw last

`scale_workload` stops polling at the first report whose awaited field is zero.  That field counts
ready replicas; the pods that still exist are counted by `status.replicas`.  A workload is
terminated when its last report has no replicas.
-/

namespace Zkdeal.FailoverProvider.KubernetesDriver

open Interaction Python

section Reports

variable (settings : KubernetesSettings)

/-- The document that an event reports about a workload. -/
def report (kindName : String) (e : Event Op Answer) : Option Dict :=
  match e with
  | ⟨.run command _, some p⟩ =>
    if command = kubectl settings (getArgs kindName) ∧ p.returncode = 0 then
      match Json.loads (strip p.stdout) with
      | some (.obj value) => some value
      | _ => none
    else none
  | _ => none

/-- The documents that a trace reports about a workload. -/
def reports (kindName : String) (tr : Trace Op Answer) : List Dict := tr.filterMap (report settings kindName)

/-- The awaited field of a report is zero. -/
def Idle (kind : String) (value : Dict) : Prop := count value "status" (readyField kind) = some 0

/-- A report has no existing replicas. -/
def Gone (value : Dict) : Prop := count value "status" "replicas" = some 0

/-- The last report about a workload satisfies `P`. -/
def LastReport (kindName : String) (P : Dict → Prop) (tr : Trace Op Answer) : Prop :=
  ∃ value, (reports settings kindName tr).getLast? = some value ∧ P value

/-- The operation does not ask for a report about the workload. -/
def Elsewhere (kindName : String) (o : Op) : Prop :=
  ∀ timeout, o ≠ .run (kubectl settings (getArgs kindName)) timeout

variable {settings} {kindName : String} {P : Dict → Prop} {tr : Trace Op Answer}

instance (kind : String) : DecidablePred (Idle kind) := fun _ => inferInstanceAs (Decidable (_ = _))

instance : DecidablePred Gone := fun _ => inferInstanceAs (Decidable (_ = _))

instance [DecidablePred P] : Decidable (LastReport settings kindName P tr) :=
  decidable_of_iff (((reports settings kindName tr).getLast?.any fun value => P value) = true) <| by
    simp [LastReport, Option.any_eq_true]

theorem reports_append (tr tr' : Trace Op Answer) :
    reports settings kindName (tr ++ tr') = reports settings kindName tr ++ reports settings kindName tr' :=
  List.filterMap_append ..

theorem report_eq_none {e : Event Op Answer} (h : Elsewhere settings kindName e.1) :
    report settings kindName e = none := by
  unfold report
  split
  · rename_i command timeout p
    exact if_neg fun hc => h timeout (by rw [hc.1])
  · rfl

theorem reports_eq_nil {l : Trace Op Answer} (h : ∀ e ∈ l, Elsewhere settings kindName e.1) :
    reports settings kindName l = [] :=
  List.filterMap_eq_nil_iff.2 fun e he => report_eq_none (h e he)

theorem report_eq_some {e : Event Op Answer} {output : String} {value : Dict}
    (ran : Ran (kubectl settings (getArgs kindName)) output e)
    (hloads : Json.loads output = some (.obj value)) : report settings kindName e = some value := by
  obtain ⟨timeout, p, rfl, hcode, rfl⟩ := ran
  simp [report, hcode, hloads]

/-- Operations elsewhere change nothing. -/
theorem LastReport.extend (h : LastReport settings kindName P tr) {l : Trace Op Answer}
    (hl : ∀ e ∈ l, Elsewhere settings kindName e.1) : LastReport settings kindName P (tr ++ l) := by
  obtain ⟨value, hlast, hP⟩ := h
  exact ⟨value, by rw [reports_append, reports_eq_nil hl, List.append_nil, hlast], hP⟩

theorem lastReport_snoc {e : Event Op Answer} {value : Dict}
    (he : report settings kindName e = some value) (hP : P value) :
    LastReport settings kindName P (tr ++ [e]) :=
  ⟨value, by simp [reports, he], hP⟩

theorem LastReport.mono {P' : Dict → Prop} (h : LastReport settings kindName P tr)
    (hP : ∀ value ∈ reports settings kindName tr, P value → P' value) :
    LastReport settings kindName P' tr := by
  obtain ⟨value, hlast, hv⟩ := h
  exact ⟨value, hlast, hP value (List.mem_of_getLast? hlast) hv⟩

end Reports

/-! ## Polling -/

section Polling

variable {config : Config} {settings : KubernetesSettings} {kind name : String} {tr : Trace Op Answer}

/-- No report about the workload was idle. -/
def Waiting (settings : KubernetesSettings) (kind name : String) (tr : Trace Op Answer) : Prop :=
  ∀ value ∈ reports settings (kind ++ "/" ++ name) tr, ¬Idle kind value

/-- The last report about the workload is the first that was idle. -/
def Stopped (settings : KubernetesSettings) (kind name : String) (tr : Trace Op Answer) : Prop :=
  ∃ l value, reports settings (kind ++ "/" ++ name) tr = l ++ [value] ∧ (∀ v ∈ l, ¬Idle kind v) ∧
    Idle kind value

theorem Waiting.snoc (h : Waiting settings kind name tr) {e : Event Op Answer}
    (he : ∀ value, report settings (kind ++ "/" ++ name) e = some value → ¬Idle kind value) :
    Waiting settings kind name (tr ++ [e]) := by
  intro value hv
  rw [reports_append, List.mem_append] at hv
  rcases hv with hv | hv
  · exact h value hv
  · obtain ⟨d, hd, hreport⟩ := List.mem_filterMap.1 hv
    rw [List.mem_singleton.1 hd] at hreport
    exact he value hreport

theorem elsewhere_of_not_run {kindName : String} {o : Op} (h : ∀ command timeout, o ≠ .run command timeout) :
    Elsewhere settings kindName o := fun timeout => h _ timeout

/-- A program that asks for no report about the workload. -/
theorem meets_elsewhere {α : Type} {x : Platform α}
    (hx : Raising.Performs (Elsewhere settings (kind ++ "/" ++ name)) x)
    (h : Waiting settings kind name tr) :
    Raising.Meets recording (fun tr _ => Waiting settings kind name tr) x
      (fun _ => Waiting settings kind name) (fun _ => Waiting settings kind name) tr := by
  refine hx.meets (fun _ _ h _ => h) ?_ h
  rintro tr o r _ h ho rfl
  exact h.snoc fun value he => by
    rw [report_eq_none (e := ⟨o, r⟩) ho] at he
    cases he

theorem meets_getJson {Q : Dict → Trace Op Answer → Prop} (h : Waiting settings kind name tr)
    (hQ : ∀ value tr', reports settings (kind ++ "/" ++ name) tr' =
      reports settings (kind ++ "/" ++ name) tr ++ [value] → Q value tr') :
    Raising.Meets recording (fun tr _ => Waiting settings kind name tr)
      (getJson settings (kind ++ "/" ++ name)) Q (fun _ => Waiting settings kind name) tr := by
  refine Raising.meets_bind_iff.2 (Raising.meets_bind_iff.2 ⟨h, ?_⟩)
  rintro (_ | p) _ rfl
  · exact h.snoc nofun
  refine Raising.meets_bind_iff.2 (Raising.meets_raiseIf_iff.2 ⟨fun hcode => ?_, fun hcode => ?_⟩)
  · refine h.snoc fun value he => ?_
    simp [report, hcode] at he
  · have hcode : p.returncode = 0 := not_not.1 hcode
    refine Raising.meets_pure_iff.2 ?_
    rcases hloads : Json.loads (strip p.stdout) with _ | v
    · exact h.snoc fun value he => by simp [report, hloads] at he
    cases v with
    | obj value => exact hQ value _ (by simp [reports, report, hcode, hloads])
    | _ => exact h.snoc fun value he => by simp [report, hloads] at he

theorem meets_awaitScale {deadline : ℚ} {rounds : ℕ} (h : Waiting settings kind name tr) :
    Raising.Meets recording (fun tr _ => Waiting settings kind name tr)
      (awaitScale settings kind name 0 deadline rounds) (fun _ => Stopped settings kind name)
      (fun _ => Waiting settings kind name) tr := by
  induction rounds generalizing tr with
  | zero => exact Raising.meets_halt
  | succ rounds ih =>
    have clock : Raising.Performs (Elsewhere settings (kind ++ "/" ++ name)) monotonic :=
      Raising.performs_perform (elsewhere_of_not_run (by simp))
    refine Raising.meets_bind_iff.2 ((meets_elsewhere clock h).mono (fun _ _ h => h) (fun now tr h => ?_)
      fun _ _ h => h)
    split
    · refine Raising.meets_bind_iff.2 (meets_getJson h fun value tr' hreports => ?_)
      have waiting (hv : ¬Idle kind value) : Waiting settings kind name tr' := by
        intro v hmem
        rw [hreports, List.mem_append, List.mem_singleton] at hmem
        rcases hmem with hmem | rfl
        exacts [h v hmem, hv]
      unfold readCount
      rcases hcount : count value "status" (readyField kind) with _ | observed
      · exact Raising.meets_throw_iff.2 (waiting (by simp [Idle, hcount]))
      refine Raising.meets_bind_iff.2 (Raising.meets_pure_iff.2 ?_)
      split
      · rename_i hzero
        exact Raising.meets_pure_iff.2 ⟨_, value, hreports, h, hcount.trans (congrArg some hzero)⟩
      · rename_i hne
        have wait : Raising.Performs (Elsewhere settings (kind ++ "/" ++ name)) (sleep 1) :=
          Raising.performs_perform (elsewhere_of_not_run (by simp))
        exact Raising.meets_bind_iff.2 ((meets_elsewhere wait (waiting fun hv => hne
          (Option.some.inj (hcount.symm.trans hv)))).mono (fun _ _ h => h) (fun _ _ h => ih h)
          fun _ _ h => h)
    · exact Raising.meets_throw_iff.2 h

theorem elsewhere_kubectl {kindName : String} {args : List String} {timeout : ℕ}
    (h : args.head? ≠ some "get" ∨ args.tail.head? ≠ some kindName) :
    Elsewhere settings kindName (.run (kubectl settings args) timeout) := by
  rintro t ht
  obtain ⟨rfl, -⟩ : args = getArgs kindName ∧ timeout = t := by simpa [kubectl] using ht
  simp [getArgs] at h

theorem meets_scaleWorkload {rounds : ℕ} (h : Waiting settings kind name tr) :
    Raising.Meets recording (fun tr _ => Waiting settings kind name tr)
      (scaleWorkload config settings rounds kind name 0) (fun _ => Stopped settings kind name)
      (fun _ => Waiting settings kind name) tr := by
  unfold scaleWorkload
  refine Raising.meets_bind_iff.2 (Raising.meets_raiseIf_iff.2 ⟨fun _ => h, fun _ => ?_⟩)
  refine Raising.meets_bind_iff.2 ((meets_elsewhere (performs_run (elsewhere_kubectl (.inl (by simp [scaleArgs])))) h).mono
    (fun _ _ h => h) (fun _ tr h => ?_) fun _ _ h => h)
  have clock : Raising.Performs (Elsewhere settings (kind ++ "/" ++ name)) monotonic :=
    Raising.performs_perform (elsewhere_of_not_run (by simp))
  exact Raising.meets_bind_iff.2 ((meets_elsewhere clock h).mono (fun _ _ h => h)
    (fun _ _ h => meets_awaitScale h) fun _ _ h => h)

/-- A run of `scale_workload(kind, name, 0)` that was not cut short returns only after a last report
without existing replicas if and only if no report was idle while replicas existed. -/
theorem scaleWorkload_terminates_iff {rounds : ℕ} {out : Outcome Op (Except Raised Unit)}
    (run : (scaleWorkload config settings rounds kind name 0).run.Runs tr out) (ended : out ≠ .running) :
    (out = .returned (.ok ()) → LastReport settings (kind ++ "/" ++ name) Gone tr) ↔
      ∀ value ∈ reports settings (kind ++ "/" ++ name) tr, Idle kind value → Gone value := by
  have start : Waiting settings kind name [] := by simp [Waiting, reports]
  obtain ⟨returned, killed⟩ := (meets_scaleWorkload start).of_runs run (accepts_recording [] tr)
  have split : Waiting settings kind name tr ∧ out ≠ .returned (.ok ()) ∨
      out = .returned (.ok ()) ∧ Stopped settings kind name tr := by
    rcases out with (e | _) | o | _
    · exact .inl ⟨returned _ rfl, by simp⟩
    · exact .inr ⟨rfl, returned _ rfl⟩
    · exact .inl ⟨killed o rfl, by simp⟩
    · exact absurd rfl ended
  rcases split with ⟨waiting, hout⟩ | ⟨rfl, l, value, hreports, hl, idle⟩
  · exact ⟨fun _ v hv idle => absurd idle (waiting v hv), fun _ h => absurd h hout⟩
  · constructor
    · intro h v hv hidle
      obtain ⟨w, hlast, gone⟩ := h rfl
      rw [hreports, List.mem_append, List.mem_singleton] at hv
      rcases hv with hv | rfl
      · exact absurd hidle (hl v hv)
      · rw [hreports, List.getLast?_concat] at hlast
        rwa [Option.some.inj hlast]
    · intro h _
      exact ⟨value, by rw [hreports, List.getLast?_concat], h value (by simp [hreports]) idle⟩

end Polling

/-! ## Prepare -/

section Prepare

variable (config : Config) (settings : KubernetesSettings)

/-- The active deployment, as `kubectl` names it. -/
def activeName : String := "deployment" ++ "/" ++ settings.activeDeployment

/-- The primary database, as `kubectl` names it. -/
def primaryName : String := "statefulset" ++ "/" ++ settings.primaryDbStatefulset

/-- A report with which `prepare` goes on past the active deployment: its awaited field is zero, or
it is read as the one of the signer and asks for no replicas. -/
def PassesActive (value : Dict) : Prop :=
  Idle "deployment" value ∨
    settings.signerDeployment = settings.activeDeployment ∧ count value "spec" "replicas" = some 0

/-- `prepare` may promote or return: its last reports about the old writers let it pass. -/
def Passed (tr : Trace Op Answer) : Prop :=
  LastReport settings (activeName settings) (PassesActive settings) tr ∧
    LastReport settings (primaryName settings) (Idle "statefulset") tr

/-- The operation neither promotes nor asks for a report about an old writer. -/
def Aside (o : Op) : Prop :=
  ¬Promotes o ∧ Elsewhere settings (activeName settings) o ∧ Elsewhere settings (primaryName settings) o

variable {config settings}

theorem service_ne (service : String) :
    "service/" ++ service ≠ activeName settings ∧ "service/" ++ service ≠ primaryName settings := by
  constructor <;> intro h <;>
    simpa [activeName, primaryName] using congrArg (fun s => s.toList.take 2) h

theorem primaryName_ne_activeName : primaryName settings ≠ activeName settings := by
  intro h
  simpa [activeName, primaryName] using congrArg (fun s => s.toList.take 1) h

theorem aside_of_not_run {o : Op} (h : ∀ command timeout, o ≠ .run command timeout) :
    Aside settings o := by
  refine ⟨?_, elsewhere_of_not_run h, elsewhere_of_not_run h⟩
  cases o with
  | run command timeout => exact absurd rfl (h command timeout)
  | _ => simp [Promotes]

theorem performs_aside_run {args : List String} (plain : Plain (.run (kubectl settings args) 30))
    (h : args.head? ≠ some "get") : Raising.Performs (Aside settings) (run settings args) :=
  (Raising.performs_attempt ⟨plain.not_promotes, elsewhere_kubectl (.inl h),
    elsewhere_kubectl (.inl h)⟩).bind fun _ => Raising.performs_raiseIf.bind fun _ => trivial

theorem performs_aside_psql (pod query : String) :
    Raising.Performs (Aside settings) (psql settings pod query) :=
  (performs_aside_run (plain_psql pod query) (by simp)).bind fun _ => trivial

theorem performs_aside_fencedTarget (existingTarget : Option String) :
    Raising.Performs (Aside settings) (fencedTarget settings existingTarget) := by
  unfold fencedTarget captureTarget
  split
  · refine (performs_aside_psql _ _).bind fun _ => Raising.performs_raiseIf.bind fun _ =>
      Raising.performs_raiseIf.bind fun _ => (performs_aside_psql _ _).bind fun target => ?_
    have position : Raising.Performs (Aside settings) (lsnValue target) := by
      unfold lsnValue
      split <;> trivial
    have recording : Raising.Performs (Aside settings) (checkpoint target) :=
      Raising.performs_perform (aside_of_not_run (by simp))
    exact position.bind fun _ => recording.bind fun _ => trivial
  · trivial

theorem performs_aside_awaitReplay (target : String) (deadline : ℚ) (rounds : ℕ) :
    Raising.Performs (Aside settings) (awaitReplay settings target deadline rounds) := by
  have clock : Raising.Performs (Aside settings) monotonic :=
    Raising.performs_perform (aside_of_not_run (by simp))
  have wait : Raising.Performs (Aside settings) (sleep 1) :=
    Raising.performs_perform (aside_of_not_run (by simp))
  induction rounds with
  | zero => exact Raising.performs_halt
  | succ rounds ih =>
    refine clock.bind fun _ => ?_
    split
    · refine (performs_aside_psql _ _).bind fun recovery => (performs_aside_psql _ _).bind fun replay => ?_
      have comparison : Raising.Performs (Aside settings) (reached recovery replay target) := by
        unfold reached lsnValue
        split
        · split
          · exact Raising.performs_pure.bind fun _ => by split <;> trivial
          · exact Raising.performs_throw.bind fun _ => by split <;> trivial
        · trivial
      refine comparison.bind fun _ => ?_
      split
      · trivial
      · exact wait.bind fun _ => ih
    · trivial

theorem performs_aside_routePromoted : Raising.Performs (Aside settings) (routePromoted config settings) := by
  unfold routePromoted patchRoute verifyIndexer
  refine (performs_aside_psql _ _).bind fun _ => Raising.performs_raiseIf.bind fun _ => ?_
  have checked : Raising.Performs (Aside settings) (requestJson config.indexerFreshnessUrl
      config.requestTimeoutSeconds config.allowHttp) :=
    Raising.performs_attempt (aside_of_not_run (by simp))
  have asked (service : String) :
      Raising.Performs (Aside settings) (getJson settings ("service/" ++ service)) := by
    obtain ⟨active, primary⟩ : _ ∧ "service/" ++ service ≠ primaryName settings := service_ne service
    exact performs_getJson ⟨(plain_get _).not_promotes,
      elsewhere_kubectl (.inr (by simpa [getArgs] using active)),
      elsewhere_kubectl (.inr (by simpa [getArgs] using primary))⟩
  refine Raising.Performs.bind ((performs_aside_run (plain_patch _) (by simp [patchArgs])).bind
    fun _ => (asked _).bind fun _ => ?_) fun _ => checked.bind fun _ => Raising.performs_raiseIf
  split
  · trivial
  · exact Raising.performs_raiseIf

/-- Draining the primary does not look at the active deployment. -/
theorem performs_drainPrimary (rounds : ℕ) :
    Raising.Performs (Elsewhere settings (activeName settings))
      (scaleWorkload config settings rounds "statefulset" settings.primaryDbStatefulset 0) := by
  have other : primaryName settings ≠ activeName settings := primaryName_ne_activeName
  refine performs_scaleWorkload ?_ ?_ ?_ ?_
  · exact elsewhere_kubectl (.inl (by simp [scaleArgs]))
  · exact elsewhere_kubectl (.inr (by simpa [getArgs, primaryName] using other))
  · exact elsewhere_of_not_run (by simp)
  · exact elsewhere_of_not_run (by simp)

theorem Passed.extend {tr l : Trace Op Answer} (h : Passed settings tr)
    (hl : ∀ e ∈ l, Aside settings e.1) : Passed settings (tr ++ l) :=
  ⟨h.1.extend fun e he => (hl e he).2.1, h.2.extend fun e he => (hl e he).2.2⟩

theorem signerName_ne (h : settings.signerDeployment ≠ settings.activeDeployment) :
    "deployment/" ++ settings.signerDeployment ≠ activeName settings := by
  intro he
  have := congrArg (fun s => s.toList.drop 11) he
  exact h (String.toList_injective (by simpa [activeName] using this))

/-- Draining the primary ends with a report that it is idle. -/
theorem ensures_drainsPrimary {ok : Trace Op Answer → Op → Prop} (hok : ∀ tr o, Plain o → ok tr o)
    {rounds : ℕ} {tr : Trace Op Answer} :
    Raising.Ensures ok (scaleWorkload config settings rounds "statefulset" settings.primaryDbStatefulset 0)
      (fun _ => LastReport settings (primaryName settings) (Idle "statefulset")) tr := by
  refine ensures_scaleWorkload hok fun value l e _ _ drained => ?_
  obtain ⟨output, ran, hloads, idle⟩ := drained
  exact lastReport_snoc (report_eq_some ran hloads) idle

/-- Before `prepare` promotes or returns, its last reports about the old writers let it pass. -/
theorem prepare_passed (rounds : ℕ) (request : Dict) (existingTarget : Option String) :
    Raising.Ensures (fun tr o => Promotes o → Passed settings tr)
      (prepare config settings rounds request existingTarget) (fun _ => Passed settings) [] := by
  have hok : ∀ tr o, Plain o → Promotes o → Passed settings tr :=
    fun _ _ plain h => absurd h plain.not_promotes
  have aside : ∀ tr o, Aside settings o → Promotes o → Passed settings tr :=
    fun _ _ h hp => absurd hp h.1
  unfold prepare
  refine Raising.ensures_bind_iff.2 (ensures_scaleWorkload hok fun _ l e _ _ drained => ?_)
  obtain ⟨output, ran, hloads, idle⟩ := drained
  have active : LastReport settings (activeName settings) (PassesActive settings) ([] ++ l ++ [e]) :=
    lastReport_snoc (report_eq_some ran hloads) (.inl idle)
  revert active
  generalize [] ++ l ++ [e] = tr
  intro active
  -- The report about the signer is the last one about the active deployment if they are the same.
  refine Raising.ensures_bind_iff.2 (ensures_getJson hok fun value output e _ ran hloads => ?_)
  refine Raising.ensures_bind_iff.2 (ensures_readCount fun replicas hreplicas => ?_)
  refine Raising.ensures_bind_iff.2 (Raising.ensures_raiseIf fun hzero => ?_)
  have active : LastReport settings (activeName settings) (PassesActive settings) (tr ++ [e]) := by
    by_cases hs : settings.signerDeployment = settings.activeDeployment
    · rw [hs] at ran
      exact lastReport_snoc (report_eq_some ran hloads) (.inr ⟨hs, by rwa [not_not.1 hzero] at hreplicas⟩)
    · obtain ⟨timeout, p, rfl, -⟩ := ran
      refine active.extend (l := [_]) fun e he => ?_
      rw [List.mem_singleton.1 he]
      exact elsewhere_kubectl (.inr (by simpa [getArgs] using signerName_ne hs))
  refine Raising.ensures_bind_iff.2 ((performs_aside_fencedTarget _).ensures aside fun target l hl => ?_)
  have active := active.extend fun e he => (hl e he).2.1
  have clock : Raising.Performs (Aside settings) monotonic :=
    Raising.performs_perform (aside_of_not_run (by simp))
  refine Raising.ensures_bind_iff.2 (clock.ensures aside fun now l hl => ?_)
  have active := active.extend fun e he => (hl e he).2.1
  refine Raising.ensures_bind_iff.2 ((performs_aside_awaitReplay _ _ _).ensures aside fun replay l hl => ?_)
  have active := active.extend fun e he => (hl e he).2.1
  have stays : Raising.Ensures (fun _ _ => True) (scaleWorkload config settings rounds "statefulset"
      settings.primaryDbStatefulset 0)
      (fun _ => LastReport settings (activeName settings) (PassesActive settings)) _ :=
    (performs_drainPrimary rounds).ensures (fun _ _ _ => trivial) fun _ l hl => active.extend hl
  refine Raising.ensures_bind_iff.2 (((ensures_drainsPrimary hok).and stays).mono fun _ tr passed => ?_)
  have passed : Passed settings tr := passed.symm
  refine Raising.ensures_bind_iff.2 ((performs_aside_psql _ _).ensures aside fun _ l hl => ?_)
  have passed := passed.extend hl
  -- The promotion is the only operation that is not aside, and it asks for no report.
  have finish : ∀ tr', Passed settings tr' → Raising.Ensures (fun tr o => Promotes o → Passed settings tr)
      (do
        routePromoted config settings
        return prepareResponse ((request.get "candidateId").getD .null) target replay)
      (fun _ => Passed settings) tr' := fun tr' passed =>
    Raising.ensures_bind_iff.2 (performs_aside_routePromoted.ensures aside fun _ l hl =>
      Raising.ensures_pure_iff.2 (passed.extend hl))
  refine Raising.ensures_bind_iff.2 (Raising.ensures_whenTrue (fun _ => ?_) fun _ => finish _ passed)
  refine Raising.ensures_bind_iff.2 (ensures_run (fun _ => passed) fun _ e he _ => finish _ ?_)
  have elsewhere (kindName : String) : ∀ d ∈ [e], Elsewhere settings kindName d.1 := fun d hd => by
    rw [List.mem_singleton.1 hd, he]
    exact elsewhere_kubectl (.inl (by simp))
  exact ⟨passed.1.extend (elsewhere _), passed.2.extend (elsewhere _)⟩

end Prepare

/-! ## Termination of the old writers -/

section Termination

variable (settings : KubernetesSettings)

instance : DecidablePred (PassesActive settings) := fun _ => inferInstanceAs (Decidable (_ ∨ _))

/-- The last report about either old writer counts no existing replicas. -/
def Terminated (tr : Trace Op Answer) : Prop :=
  LastReport settings (activeName settings) Gone tr ∧ LastReport settings (primaryName settings) Gone tr

/-- No report lets `prepare` pass an old writer of which replicas exist. -/
def PassesGone (tr : Trace Op Answer) : Prop :=
  (∀ value ∈ reports settings (activeName settings) tr, PassesActive settings value → Gone value) ∧
    ∀ value ∈ reports settings (primaryName settings) tr, Idle "statefulset" value → Gone value

/-- What the Kubernetes API is assumed to report of a workload: no more ready than existing replicas. -/
def Plausible (kind : String) (value : Dict) : Prop :=
  (count value "status" (readyField kind)).getD 0 ≤ (count value "status" "replicas").getD 0

instance (tr : Trace Op Answer) : Decidable (Terminated settings tr) := inferInstanceAs (Decidable (_ ∧ _))

instance (tr : Trace Op Answer) : Decidable (PassesGone settings tr) := inferInstanceAs (Decidable (_ ∧ _))

instance (kind : String) : DecidablePred (Plausible kind) := fun _ => inferInstanceAs (Decidable (_ ≤ _))

variable {settings}

theorem PassesGone.left {tr tr' : Trace Op Answer} (h : PassesGone settings (tr ++ tr')) :
    PassesGone settings tr := by
  refine ⟨fun value hv => h.1 value ?_, fun value hv => h.2 value ?_⟩ <;>
    exact reports_append tr tr' ▸ List.mem_append_left _ hv

theorem Passed.terminated {tr : Trace Op Answer} (h : Passed settings tr) (hgone : PassesGone settings tr) :
    Terminated settings tr :=
  ⟨h.1.mono hgone.1, h.2.mono hgone.2⟩

/-- A scaling to zero ends with a terminated workload if and only if no report was idle while
replicas existed, and where that is so of the old writers, `prepare` promotes and returns only when
both are terminated. -/
theorem fence_terminates_iff (settings : KubernetesSettings) (config : Config) (rounds : ℕ)
    {tr : Trace Op Answer} :
    (∀ kind name out, (scaleWorkload config settings rounds kind name 0).run.Runs tr out →
      out ≠ .running →
      ((out = .returned (.ok ()) → LastReport settings (kind ++ "/" ++ name) Gone tr) ↔
        ∀ value ∈ reports settings (kind ++ "/" ++ name) tr, Idle kind value → Gone value)) ∧
    ∀ request existingTarget out,
      (prepare config settings rounds request existingTarget).run.Runs tr out →
      PassesGone settings tr →
      (∀ pre e post, tr = pre ++ e :: post → Promotes e.1 → Terminated settings pre) ∧
        ∀ response, out = .returned (.ok response) → Terminated settings tr := by
  refine ⟨fun kind name out run ended => scaleWorkload_terminates_iff run ended, ?_⟩
  intro request existingTarget out run gone
  have passed : Raising.Ensures _ (prepare config settings rounds request existingTarget) _ [] :=
    prepare_passed rounds request existingTarget
  constructor
  · intro pre e post split promotes
    subst split
    exact (passed.issued run promotes).terminated gone.left
  · intro response returned
    subst returned
    exact (passed.returned run).terminated gone

/-- The run of a driver program in the deployment, for what scaling leaves of a pod. -/
def deployed {α : Type} (drained : Pod) (x : Platform α) :
    Trace Op Answer × Outcome Op (Except Raised α) × KubernetesWorld :=
  x.run.simulate (fun w o => some (platformAnswer KubernetesWorld.command Deployment.config w o))
    (Deployment.kubernetesWorld drained)

theorem deployed_runs {α : Type} (drained : Pod) (x : Platform α) :
    x.run.Runs (deployed drained x).1 (deployed drained x).2.1 :=
  Prog.simulate_runs _ x.run _

/-- A `prepare` call of the deployment. -/
def deployedPrepare : Platform Dict :=
  prepare Deployment.config Deployment.kubernetesSettings 1 Deployment.prepareRequest none

/-- The scaling of the active deployment to zero. -/
def deployedScale : Platform Unit :=
  scaleWorkload Deployment.config Deployment.kubernetesSettings 1 "deployment" "coordinator-active" 0

theorem fence_terminates_immediate :
    LastReport Deployment.kubernetesSettings "deployment/coordinator-active" Gone
        (deployed .gone deployedScale).1 ∧
      (∃ pre e post, (deployed .gone deployedPrepare).1 = pre ++ e :: post ∧ Promotes e.1 ∧
        Terminated Deployment.kubernetesSettings pre) ∧
      ∃ response, (deployed .gone deployedPrepare).2.1 = .returned (.ok response) ∧
        Terminated Deployment.kubernetesSettings (deployed .gone deployedPrepare).1 := by
  constructor
  · have returned : (deployed .gone deployedScale).2.1 = .returned (.ok ()) :=
      Outcome.value_eq_some (by decide +kernel)
    have ended := (fence_terminates_iff _ _ _).1 "deployment" "coordinator-active" _
      (deployed_runs .gone deployedScale) (by rw [returned]; exact nofun)
    exact ended.2 (by decide +kernel) returned
  · obtain ⟨promotes, returns⟩ := (fence_terminates_iff _ _ _).2 Deployment.prepareRequest none _
      (deployed_runs .gone deployedPrepare) (by decide +kernel)
    constructor
    · obtain ⟨e, post, split, he⟩ := exists_first (show
        ∃ e ∈ (deployed .gone deployedPrepare).1, Promotes e.1 by decide +kernel)
      exact ⟨_, e, post, split, he, promotes _ e post split he⟩
    · obtain ⟨response, hresponse⟩ := Option.isSome_iff_exists.1 (show
        (deployed .gone deployedPrepare).2.1.value.isSome = true by decide +kernel)
      have returned := Outcome.value_eq_some hresponse
      exact ⟨response, returned, returns response returned⟩

/-- While pods terminate the deployment answers as the API may, and yet the scaling returns while the
old pod exists, and `prepare` promotes and then returns `oldWriterTerminated`. -/
theorem fence_not_terminates :
    ((∀ value ∈ reports Deployment.kubernetesSettings (activeName Deployment.kubernetesSettings)
        (deployed .terminating deployedPrepare).1, Plausible "deployment" value) ∧
      ∀ value ∈ reports Deployment.kubernetesSettings (primaryName Deployment.kubernetesSettings)
        (deployed .terminating deployedPrepare).1, Plausible "statefulset" value) ∧
    ((deployed .terminating deployedScale).2.1 = .returned (.ok ()) ∧
      ¬LastReport Deployment.kubernetesSettings "deployment/coordinator-active" Gone
        (deployed .terminating deployedScale).1) ∧
    (∃ pre e post, (deployed .terminating deployedPrepare).1 = pre ++ e :: post ∧ Promotes e.1 ∧
      ¬Terminated Deployment.kubernetesSettings pre) ∧
    ∃ response, (deployed .terminating deployedPrepare).2.1 = .returned (.ok response) ∧
      fieldIsBool response "oldWriterTerminated" true = true ∧
      ¬Terminated Deployment.kubernetesSettings (deployed .terminating deployedPrepare).1 := by
  refine ⟨by decide +kernel, ⟨Outcome.value_eq_some (by decide +kernel), by decide +kernel⟩, ?_, ?_⟩
  · obtain ⟨e, post, split, he⟩ := exists_first (show
      ∃ e ∈ (deployed .terminating deployedPrepare).1, Promotes e.1 by decide +kernel)
    exact ⟨_, e, post, split, he, by decide +kernel⟩
  · obtain ⟨response, hresponse, said⟩ := (Option.any_eq_true _ _).1 (show
      (deployed .terminating deployedPrepare).2.1.value.any
        (fun response => fieldIsBool response "oldWriterTerminated" true) = true by decide +kernel)
    exact ⟨response, Outcome.value_eq_some hresponse, said, by decide +kernel⟩

end Termination

end Zkdeal.FailoverProvider.KubernetesDriver
