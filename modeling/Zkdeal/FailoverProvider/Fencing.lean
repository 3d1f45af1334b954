import Zkdeal.FailoverProvider.Platform

/-!
# Commands and observations

The operations that matter for a failover, and the observations that a driver makes.  `Reached` is
the state of a driver call on its way: the observations made so far, in order, and the targets
handed to `checkpoint`.
-/

namespace Zkdeal.FailoverProvider

open Interaction Python

/-- `pg_ctl -D <data> promote -w`, in some container. -/
def Promotes : Op → Prop
  | .run command _ =>
    command.reverse.take 2 = ["-w", "promote"] ∧ (command.reverse.drop 3).take 2 = ["-D", "pg_ctl"]
  | _ => False

/-- `docker start`, or a scaling to something else than zero. -/
def Starts : Op → Prop
  | .run command _ => command.take 2 = ["docker", "start"] ∨
      (command.drop 3).head? = some "scale" ∧ command.getLast? ≠ some "--replicas=0"
  | _ => False

instance : DecidablePred Promotes
  | .run command _ => inferInstanceAs (Decidable (command.reverse.take 2 = ["-w", "promote"] ∧ _))
  | .requestJson _ _ _ | .getaddrinfo _ _ | .monotonic | .unixMs | .sleep _ | .checkpoint _
  | .save _ | .enter _ => isFalse nofun

instance : DecidablePred Starts
  | .run command _ => inferInstanceAs (Decidable (command.take 2 = ["docker", "start"] ∨ _))
  | .requestJson _ _ _ | .getaddrinfo _ _ | .monotonic | .unixMs | .sleep _ | .checkpoint _
  | .save _ | .enter _ => isFalse nofun

/-- An operation that neither promotes, nor starts, nor touches the record of the failover. -/
def Plain : Op → Prop
  | .run command timeout => ¬Promotes (.run command timeout) ∧ ¬Starts (.run command timeout)
  | .checkpoint _ | .save _ | .enter _ => False
  | _ => True

theorem Plain.not_promotes {o : Op} (h : Plain o) : ¬Promotes o := by
  cases o <;> first | exact h.1 | exact nofun

theorem Plain.not_starts {o : Op} (h : Plain o) : ¬Starts o := by
  cases o <;> first | exact h.2 | exact nofun

/-- An operation on the environment, and not on the record of the failover. -/
def External : Op → Prop
  | .checkpoint _ | .save _ | .enter _ => False
  | _ => True

theorem Plain.external {o : Op} (h : Plain o) : External o := by
  cases o <;> trivial

/-- A command succeeded with the given output. -/
def Ran (command : List String) (output : String) (e : Event Op Answer) : Prop :=
  ∃ timeout p, e = ⟨.run command timeout, some p⟩ ∧ p.returncode = 0 ∧ strip p.stdout = output

/-- Two positions of the write-ahead log, the first at or after the second. -/
def AtOrAfter (replay target : String) : Prop :=
  ∃ wanted observed, lsnNumber target = some wanted ∧ lsnNumber replay = some observed ∧
    wanted ≤ observed

/-- The target was recorded. -/
def Checkpointed (target : String) (e : Event Op Answer) : Prop := e = ⟨.checkpoint target, ()⟩

/-- The targets that a trace hands to `checkpoint`. -/
def checkpoints (tr : Trace Op Answer) : List String :=
  tr.filterMap fun e =>
    match e.1 with
    | .checkpoint target => some target
    | _ => none

theorem checkpoints_append (tr tr' : Trace Op Answer) :
    checkpoints (tr ++ tr') = checkpoints tr ++ checkpoints tr' := List.filterMap_append ..

theorem checkpoints_eq_nil {tr : Trace Op Answer} (h : ∀ e ∈ tr, Plain e.1) : checkpoints tr = [] := by
  rw [checkpoints, List.filterMap_eq_nil_iff]
  rintro ⟨o, r⟩ he
  have plain := h _ he
  cases o <;> first | rfl | exact plain.elim

/-- The observations `Ps` were made, in order, and the targets `recorded` handed out. -/
structure Reached (Ps : List (Event Op Answer → Prop)) (recorded : List String)
    (tr : Trace Op Answer) : Prop where
  order : InOrder Ps tr
  recorded : checkpoints tr = recorded

section Reached

variable {Ps : List (Event Op Answer → Prop)} {recorded : List String} {tr : Trace Op Answer}

theorem reached_nil : Reached [] [] [] := ⟨trivial, rfl⟩

/-- Nothing was observed yet. -/
theorem reached_any (tr : Trace Op Answer) : Reached [] (checkpoints tr) tr := ⟨trivial, rfl⟩

theorem Reached.left {Qs : List (Event Op Answer → Prop)} (h : Reached (Ps ++ Qs) recorded tr) :
    Reached Ps recorded tr := ⟨h.order.left, h.recorded⟩

/-- Plain operations change nothing. -/
theorem Reached.extend (h : Reached Ps recorded tr) {l : Trace Op Answer}
    (hl : ∀ e ∈ l, Plain e.1) : Reached Ps recorded (tr ++ l) where
  order := h.order.extend l
  recorded := by rw [checkpoints_append, checkpoints_eq_nil hl, List.append_nil, h.recorded]

/-- One more observation. -/
theorem Reached.snoc (h : Reached Ps recorded tr) {P : Event Op Answer → Prop}
    {e : Event Op Answer} (plain : Plain e.1) (he : P e) : Reached (Ps ++ [P]) recorded (tr ++ [e]) where
  order := h.order.snoc he
  recorded := (h.extend (l := [e]) (by simpa using plain)).recorded

/-- The target was recorded. -/
theorem Reached.checkpoint (h : Reached Ps recorded tr) (target : String) :
    Reached (Ps ++ [Checkpointed target]) (recorded ++ [target])
      (tr ++ [⟨.checkpoint target, ()⟩]) where
  order := h.order.snoc rfl
  recorded := by rw [checkpoints_append, h.recorded]; rfl

end Reached

theorem ensures_lsnValue {ok : Trace Op Answer → Op → Prop} {tr : Trace Op Answer} {value : String}
    {Q : ℕ → Trace Op Answer → Prop} (hQ : ∀ n, lsnNumber value = some n → Q n tr) :
    Raising.Ensures ok (lsnValue value) Q tr := by
  unfold lsnValue
  split
  · exact hQ _ ‹_›
  · exact Raising.ensures_throw

theorem ensures_reached {ok : Trace Op Answer → Op → Prop} {tr : Trace Op Answer}
    {recovery replay target : String} {Q : Bool → Trace Op Answer → Prop}
    (hQ : ∀ b, (b = true → AtOrAfter replay target) → Q b tr) :
    Raising.Ensures ok (reached recovery replay target) Q tr := by
  unfold reached
  split
  · refine Raising.ensures_bind_iff.2 (ensures_lsnValue fun observed hobserved => ?_)
    refine Raising.ensures_bind_iff.2 (ensures_lsnValue fun wanted hwanted => ?_)
    exact hQ _ fun hle => ⟨wanted, observed, hwanted, hobserved, by simpa using hle⟩
  · exact hQ false nofun

/-- A program that performs only plain operations. -/
theorem ensures_plain {ok : Trace Op Answer → Op → Prop} (hok : ∀ tr o, Plain o → ok tr o) {α : Type}
    {Ps : List (Event Op Answer → Prop)} {recorded : List String} {tr : Trace Op Answer}
    {x : Platform α} {Q : α → Trace Op Answer → Prop} (hx : Raising.Performs Plain x)
    (h : Reached Ps recorded tr) (hQ : ∀ a tr', Reached Ps recorded tr' → Q a tr') :
    Raising.Ensures ok x Q tr :=
  hx.ensures hok fun a _ hl => hQ a _ (h.extend hl)

/-! ## Calls of a driver -/

/-- The target of a `prepare` call: the one it was given, or one that it records. -/
def Targets (existingTarget : Option String) (target : String) (recorded : List String) : Prop :=
  existingTarget = some target ∧ target ≠ "" ∧ recorded = [] ∨
    existingTarget.getD "" = "" ∧ recorded = [target]

theorem exists_of_getD_ne {existingTarget : Option String} (h : existingTarget.getD "" ≠ "") :
    ∃ target, existingTarget = some target := by
  cases existingTarget with
  | none => exact absurd rfl h
  | some target => exact ⟨target, rfl⟩

/-- The operations of a `prepare` call: it records a position at most once, and only when it was
given none, and it promotes where `Fenced` says so. -/
def PrepareIssues (Fenced : Trace Op Answer → Op → Prop) (existingTarget : Option String)
    (tr : Trace Op Answer) (o : Op) : Prop :=
  Plain o ∨ (∃ target, o = .checkpoint target ∧ (lsnNumber target).isSome ∧
    existingTarget.getD "" = "" ∧ checkpoints tr = []) ∨ Fenced tr o

/-- What a `prepare` call returns. -/
def PrepareReturns (request : Dict) (existingTarget : Option String) (response : Dict)
    (tr : Trace Op Answer) : Prop :=
  ∃ target replay, Targets existingTarget target (checkpoints tr) ∧
    response = prepareResponse ((request.get "candidateId").getD .null) target replay

/-! ## The checks are plain -/

theorem performs_requestJson (url : String) (timeout : ℕ) (allowHttp : Bool) :
    Raising.Performs Plain (requestJson url timeout allowHttp) :=
  Raising.performs_attempt trivial

theorem performs_monotonic : Raising.Performs Plain monotonic := Raising.performs_perform trivial

theorem performs_lsnValue (value : String) : Raising.Performs Plain (lsnValue value) := by
  unfold lsnValue
  split <;> trivial

variable (config : Config)

theorem performs_witnessNetwork (url : String) : Raising.Performs Plain (witnessNetwork url) := by
  unfold witnessNetwork
  split
  · trivial
  · split
    · trivial
    · refine (Raising.performs_perform trivial).bind fun r => ?_
      split <;> trivial

theorem performs_witnessNetworks (urls : List String) :
    Raising.Performs Plain (witnessNetworks urls) := by
  have each : ∀ urls, Raising.Performs Plain (List.mapM witnessNetwork urls) := by
    intro urls
    induction urls with
    | nil => exact Raising.performs_pure
    | cons url urls ih =>
      rw [List.mapM_cons]
      exact (performs_witnessNetwork url).bind fun _ => ih.bind fun _ => trivial
  exact (each urls).bind fun _ => Raising.performs_raiseIf.bind fun _ => trivial

theorem performs_countFailedWitnesses (coordinatorId : String) (urls : List String) (failed : ℕ) :
    Raising.Performs Plain (countFailedWitnesses config coordinatorId urls failed) := by
  induction urls generalizing failed with
  | nil => exact Raising.performs_pure
  | cons url urls ih =>
    exact (performs_requestJson ..).bind fun _ => Raising.performs_raiseIf.bind fun _ => ih _

theorem performs_verifyWitnessFailures (request : Dict) :
    Raising.Performs Plain (verifyWitnessFailures config request) :=
  (performs_witnessNetworks _).bind fun _ => (performs_countFailedWitnesses ..).bind fun _ =>
    Raising.performs_raiseIf

theorem performs_verifyStandby (coordinatorId : String) :
    Raising.Performs Plain (verifyStandby config coordinatorId) :=
  (performs_requestJson ..).bind fun _ => Raising.performs_raiseIf

theorem performs_verifyIndexer : Raising.Performs Plain (verifyIndexer config) :=
  (performs_requestJson ..).bind fun _ => Raising.performs_raiseIf

theorem performs_signerStatuses (urls : List String) :
    Raising.Performs Plain (signerStatuses config urls) := by
  induction urls with
  | nil => exact Raising.performs_pure
  | cons url urls ih => exact (performs_requestJson ..).bind fun _ => ih.bind fun _ => trivial

theorem performs_awaitSigners (deadline : ℚ) (rounds : ℕ) (last : List (String × ℤ)) :
    Raising.Performs Plain (awaitSigners config deadline rounds last) := by
  induction rounds generalizing last with
  | zero => exact Raising.performs_halt
  | succ rounds ih =>
    refine performs_monotonic.bind fun now => ?_
    split
    · refine (performs_signerStatuses ..).bind fun statuses => ?_
      split
      · trivial
      · exact (Raising.performs_perform trivial).bind fun _ => ih _
    · trivial

theorem performs_verifySignerAuthority (rounds : ℕ) :
    Raising.Performs Plain (verifySignerAuthority config rounds) :=
  performs_monotonic.bind fun _ => performs_awaitSigners ..

end Zkdeal.FailoverProvider
