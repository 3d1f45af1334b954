import Mathlib.Data.List.Chain
import Zkdeal.FailoverProvider.ProviderRuns

/-!
# Single shot

While all saves succeed, what is stored for an operation is stored once: the responses that the
memory holds are the ones that every later call answers, and no call asks the driver again.
-/

namespace Zkdeal.FailoverProvider

open Interaction Python

namespace Provider

/-! ## What stays -/

/-- A property of a record that later states of the record have too, and what is read back. -/
structure Kept (Q : Operation → Prop) : Prop where
  advances : ∀ a b, a.Advances b → Q a → Q b
  saved : ∀ a, Q a → Q a.saved

/-- The state was read back, so a candidate that is no text is not found in it, and no record of one
can be saved beside the ones that are there. -/
structure Hidden (k : OpKey) (s : State) : Prop where
  other : k.isText = false
  nonempty : s ≠ []
  texts : ∀ entry ∈ s, entry.1.isText = true

/-- A record of the operation satisfies `Q`, or is hidden. -/
def Held (Q : Operation → Prop) (k : OpKey) (s : State) : Prop :=
  (∃ a, s.find k = some a ∧ Q a) ∨ Hidden k s

section Held

variable {Q : Operation → Prop} {k k' : OpKey} {m s : State} {tr : Trace Op Answer} {d d' : Option State}

theorem Hidden.find (h : Hidden k s) : s.find k = none := by
  by_contra hne
  obtain ⟨a, found⟩ := Option.ne_none_iff_exists'.1 hne
  obtain ⟨l, hl, hmem⟩ := State.exists_mem_of_find found
  have htext := h.texts _ hmem
  have hk := h.other
  cases l with
  | text t => cases k <;> simp_all [OpKey.same, OpKey.json, OpKey.isText, Json.eq, Json.number]
  | _ => cases htext

theorem Held.of_find (held : Held Q k s) {a : Operation} (found : s.find k = some a) : Q a := by
  rcases held with ⟨b, hb, hQ⟩ | hidden
  · rw [found] at hb
    obtain rfl := Option.some.inj hb
    exact hQ
  · rw [hidden.find] at found
    cases found

theorem Hidden.extends {P : Operation → Operation → Prop} (h : Hidden k m) (ext : State.Extends P m s)
    (uniform : s.uniform = true) : Hidden k s := by
  obtain ⟨s₁, s₂, rfl, hs⟩ := ext
  have hne := h.nonempty
  cases hs with
  | nil => exact absurd rfl hne
  | @cons e e' m s₁ he hs =>
    have htext : e'.1.isText = true := by
      rw [he.1]
      exact h.texts e (by simp)
    refine ⟨h.other, by simp, fun entry hentry => ?_⟩
    rcases Bool.or_eq_true_iff.1 uniform with hall | hall
    · exact List.all_eq_true.1 hall entry hentry
    · have := List.all_eq_true.1 hall e' (by simp)
      simp [htext] at this

/-- A call keeps what is held, for whatever operation it is. -/
theorem Held.progress (hQ : Kept Q) (held : Held Q k m) (clean : Clean m d) (h : Progress k' m tr s)
    (acc : Accepts disk d tr d') : Held Q k s := by
  have ext := h.extends clean.wellFormed
  rcases held with ⟨a, found, ha⟩ | hidden
  · obtain ⟨b, hb, advanced⟩ := ext.find found
    exact .inl ⟨b, hb, hQ.advances a b advanced ha⟩
  · exact .inr (hidden.extends ext (clean.progress h acc).uniform)

/-- A restart keeps what is held. -/
theorem Held.load (hQ : Kept Q) (held : Held Q k s) (clean : Clean s d) : Held Q k (loadJson d) := by
  rw [← clean.saved]
  have hidden (hk : k.isText = false) (hne : s ≠ []) : Hidden k (State.saved s) :=
    ⟨hk, by simpa [State.saved] using hne, State.saved_texts s⟩
  rcases held with ⟨a, found, ha⟩ | h
  · cases k with
    | text t => exact .inl ⟨a.saved, State.find_saved clean.uniform found, hQ.saved a ha⟩
    | int n => exact .inr (hidden rfl (by rintro rfl; cases found))
    | float x => exact .inr (hidden rfl (by rintro rfl; cases found))
  · exact .inr (hidden h.other h.nonempty)

variable {config : Config} {driver : Driver} {rounds : ℕ} {c : ServiceCall}

theorem Held.call (hQ : Kept Q) (held : Held Q k c.memory) (clean : Clean c.memory c.before)
    (v : (service config driver rounds).Valid c) (succeed : SavesSucceed c) :
    Held Q k ((service config driver rounds).ended c) := by
  obtain ⟨s, h, hended⟩ := ended_progress v clean.wellFormed succeed
  have after := held.progress hQ clean h v.answered
  rcases hended with he | he
  · rwa [he]
  · rw [he]
    exact after.load hQ (clean.progress h v.answered)

/-- What the memory holds before a call, it holds before every later one. -/
theorem Held.later (hQ : Kept Q) {pre mid post : List ServiceCall} {b : ServiceCall}
    (run : (service config driver rounds).Run (pre ++ b :: mid ++ c :: post) s d)
    (succeed : ∀ e ∈ pre ++ b :: mid ++ c :: post, SavesSucceed e) (held : Held Q k b.memory) :
    Held Q k c.memory := by
  let P (s : State) (d : Option State) : Prop := Clean s d ∧ Held Q k s
  have earlier : (service config driver rounds).Run pre b.memory b.before := by
    rw [List.append_assoc, List.cons_append] at run
    exact run.split.1
  have clean : Clean b.memory b.before :=
    run_clean earlier fun c hc => succeed c (by simp [hc])
  refine (run.stable (P := P) ⟨clean, held⟩ ?_ ?_ ?_).2
  · rintro c hc v ⟨clean, held⟩
    have hs : SavesSucceed c := by
      refine succeed c ?_
      simp only [List.mem_append, List.mem_cons] at hc ⊢
      tauto
    exact ⟨clean.call v hs, held.call hQ clean v hs⟩
  · rintro s d ⟨clean, held⟩
    exact ⟨clean.load, held.load hQ clean⟩
  · rintro s d _ h rfl
    exact h

end Held

/-! ## Replays -/

/-- The call asks no driver, and what it answers is `r`. -/
structure Replays (r : Dict) (c : ServiceCall) : Prop where
  quiet : ∀ call, (⟨.enter call, ()⟩ : Event Op Answer) ∉ c.tr
  answers : ∀ response, c.answer = some response → Dict.sorted response = Dict.sorted r

/-- The record has the response of `prepare`. -/
def HasPrepared (r : Dict) (a : Operation) : Prop := a.prepareResponse.map Dict.sorted = some (Dict.sorted r)

/-- The record has the response of `commit`. -/
def HasCommitted (r : Dict) (a : Operation) : Prop := a.commitResponse.map Dict.sorted = some (Dict.sorted r)

theorem kept_prepared (r : Dict) : Kept (HasPrepared r) where
  advances a b advanced h := by
    obtain ⟨r', hr', hsorted⟩ := Option.map_eq_some_iff.1 h
    simp [HasPrepared, advanced.prepareResponse r' hr', hsorted]
  saved a h := by
    obtain ⟨r', hr', hsorted⟩ := Option.map_eq_some_iff.1 h
    simp [HasPrepared, Operation.saved, hr', hsorted, Dict.sorted_sorted]

theorem kept_committed (r : Dict) : Kept (HasCommitted r) where
  advances a b advanced h := by
    obtain ⟨r', hr', hsorted⟩ := Option.map_eq_some_iff.1 h
    simp [HasCommitted, advanced.commitResponse r' hr', hsorted]
  saved a h := by
    obtain ⟨r', hr', hsorted⟩ := Option.map_eq_some_iff.1 h
    simp [HasCommitted, Operation.saved, hr', hsorted, Dict.sorted_sorted]

section Replays

variable {config : Config} {driver : Driver} {rounds : ℕ} {c : ServiceCall}

theorem replays_prepare {key : String} {request r : Dict} (hr : c.request = .prepare key request)
    (v : (service config driver rounds).Valid c) (clean : Clean c.memory c.before)
    (held : Held (HasPrepared r) c.request.operation c.memory) : Replays r c := by
  obtain ⟨q, m, d, tr, out, d'⟩ := c
  obtain rfl : q = .prepare key request := hr
  have run : (Stateful.start (serve config driver rounds (.prepare key request)) m).Runs tr out := v.run
  have acc : Accepts disk d tr d' := v.answered
  refine ⟨fun call hcall => ?_, fun response hresponse => ?_⟩
  · obtain ⟨pre, post, rfl⟩ := List.append_of_mem (show _ ∈ tr from hcall)
    obtain ⟨d₁, before, -⟩ := accepts_append_iff.1 acc
    obtain ⟨s, progress, may⟩ := keeps_prepare.permits run (accepts_recording [] pre)
    rcases may with plain | ⟨s₁, h₁, -⟩ | ⟨_, a, -, found, unanswered⟩ | ⟨_, _, -, fenced⟩
    · exact plain.elim
    · cases h₁
    · have wf := (progress.wellFormed clean.wellFormed).find found
      have has := (held.progress (kept_prepared r) clean progress before).of_find found
      rw [wf.stored_prepareResponse] at unanswered
      simp [HasPrepared, unanswered] at has
    · exact absurd (Driver.Fenced.external fenced) id
  · obtain ⟨s, hout⟩ := Call.answer_eq_some hresponse
    obtain ⟨progress, a, found, -, answered, -⟩ :=
      (keeps_prepare.of_runs run (accepts_recording [] tr)).1 response s hout
    have has := (held.progress (kept_prepared r) clean progress acc).of_find found
    simpa [HasPrepared, (stored_eq_some_iff.1 answered).1] using has

theorem replays_commit {operationId key : String} {request r : Dict}
    (hr : c.request = .commit operationId key request) (v : (service config driver rounds).Valid c)
    (clean : Clean c.memory c.before) (held : Held (HasCommitted r) c.request.operation c.memory) :
    Replays r c := by
  obtain ⟨q, m, d, tr, out, d'⟩ := c
  obtain rfl : q = .commit operationId key request := hr
  have run : (Stateful.start (serve config driver rounds (.commit operationId key request)) m).Runs tr out :=
    v.run
  have acc : Accepts disk d tr d' := v.answered
  have keeps : Stateful.Keeps recording (CommitOk operationId key request m)
    (serve config driver rounds (.commit operationId key request)) _ _ m [] :=
      commit_keeps config rounds clean.wellFormed
  refine ⟨fun call hcall => ?_, fun response hresponse => ?_⟩
  · obtain ⟨pre, post, rfl⟩ := List.append_of_mem (show _ ∈ tr from hcall)
    obtain ⟨d₁, before, -⟩ := accepts_append_iff.1 acc
    obtain ⟨s, progress, may⟩ := keeps.permits run (accepts_recording [] pre)
    rcases may with ⟨external, -⟩ | ⟨s₁, h₁, -⟩ | ⟨_, a, -, found, -, unanswered⟩
    · exact external.elim
    · cases h₁
    · have wf := (progress.wellFormed clean.wellFormed).find found
      have has := (held.progress (kept_committed r) clean progress before).of_find found
      rw [wf.stored_commitResponse] at unanswered
      simp [HasCommitted, unanswered] at has
  · obtain ⟨s, hout⟩ := Call.answer_eq_some hresponse
    obtain ⟨progress, a, found, -, answered, -⟩ :=
      (keeps.of_runs run (accepts_recording [] tr)).1 response s hout
    have has := (held.progress (kept_committed r) clean progress acc).of_find found
    simpa [HasCommitted, (stored_eq_some_iff.1 answered).1] using has

end Replays

/-! ## The states written -/

/-- The state that an operation writes to the file. -/
def writes : Event Op Answer → Option State
  | ⟨.save s, some ()⟩ => some s.saved
  | _ => none

/-- The states written by the calls, in order. -/
def written (calls : List ServiceCall) : List State := calls.flatMap fun c => c.tr.filterMap writes

section Written

variable {k : OpKey} {m s : State} {tr : Trace Op Answer}

theorem saved_steps {s s' : State} (update : State.Update k s s') (wf : s.WellFormed) :
    State.Extends State.Steps (State.saved s) (State.saved s') :=
  (update.extends wf).saved fun _ _ h => ⟨h.1.saved, h.2⟩

/-- The states that a call writes follow each other, from the one it started with. -/
theorem Progress.chain (h : Progress k m tr s) (wf : m.WellFormed) :
    (State.saved m :: tr.filterMap writes).IsChain (State.Extends State.Steps) ∧
      (State.saved m :: tr.filterMap writes).getLast? = some (State.saved s) := by
  induction h with
  | start => exact ⟨.singleton _, rfl⟩
  | @event tr s o r _ other ih =>
    have silent : writes ⟨o, r⟩ = none := by
      cases o with
      | save s' => exact absurd rfl (other s')
      | _ => rfl
    rw [List.filterMap_append, List.filterMap_cons_none silent, List.filterMap_nil, List.append_nil]
    exact ih
  | @saved tr s s' before update ih =>
    have step := saved_steps update (before.wellFormed wf)
    have wrote : List.filterMap writes [⟨.save s', some ()⟩] = [State.saved s'] := rfl
    rw [List.filterMap_append, wrote, ← List.cons_append]
    refine ⟨List.isChain_append.2 ⟨ih.1, .singleton _, fun x hx y hy => ?_⟩, List.getLast?_concat ..⟩
    rw [ih.2] at hx
    obtain rfl := Option.some.inj hx
    obtain rfl := Option.some.inj hy
    exact step

variable {config : Config} {driver : Driver} {rounds : ℕ} {calls : List ServiceCall} {d : Option State}

/-- The states written in a run follow each other, and the last one is in the file. -/
theorem run_chain (run : (service config driver rounds).Run calls s d)
    (succeed : ∀ c ∈ calls, SavesSucceed c) :
    ([] :: written calls).IsChain (State.Extends State.Steps) ∧
      ([] :: written calls).getLast? = some (loadJson d) := by
  induction run with
  | start h =>
    rw [show _ = none from h]
    exact ⟨.singleton _, rfl⟩
  | @call calls c earlier v ih =>
    have before : ∀ b ∈ calls, SavesSucceed b := fun b hb => succeed b (List.mem_append_left _ hb)
    have clean := run_clean earlier before
    obtain ⟨s', progress⟩ := progress_whole v clean.wellFormed (succeed c (by simp))
    obtain ⟨chain, last⟩ := ih before
    obtain ⟨chain', last'⟩ := progress.chain clean.wellFormed
    have after := (clean.progress progress v.answered).saved
    have split : written (calls ++ [c]) = written calls ++ c.tr.filterMap writes := by simp [written]
    rw [split, ← List.cons_append]
    refine ⟨List.isChain_append.2 ⟨chain, chain'.tail, fun x hx y hy => ?_⟩, ?_⟩
    · rw [last, ← clean.saved] at hx
      obtain rfl := Option.some.inj hx
      obtain ⟨rest, hrest⟩ := List.head?_eq_some_iff.1 hy
      rw [hrest] at chain'
      exact (List.isChain_cons_cons.1 chain').1
    · rw [← after, ← last', List.getLast?_append, last, ← clean.saved]
      cases c.tr.filterMap writes <;> simp [List.getLast?_cons]
  | restart _ ih => exact ih succeed
  | drift _ step ih =>
    rw [← show _ = _ from step]
    exact ih succeed

end Written

/-! ## Every run -/

/-- Whatever is asked, an operation is prepared once and committed once. -/
structure SingleShot (calls : List ServiceCall) : Prop where
  /-- Once the memory holds a response of `prepare`, `prepare` replays it. -/
  prepared : ∀ pre b rest c key request a r, calls = pre ++ b :: rest → c ∈ b :: rest →
    c.request = .prepare key request → b.memory.find c.request.operation = some a →
    a.prepareResponse = some r → Replays r c
  /-- Once the memory holds a response of `commit`, `commit` replays it. -/
  committed : ∀ pre b rest c operationId key request a r, calls = pre ++ b :: rest → c ∈ b :: rest →
    c.request = .commit operationId key request → b.memory.find c.request.operation = some a →
    a.commitResponse = some r → Replays r c
  /-- From one state written to the next, a record moves by one phase at most. -/
  steps : ([] :: written calls).IsChain (State.Extends State.Steps)
  /-- The target, its time and the other facts of a record are written once. -/
  once : ([] :: written calls).Pairwise (State.Extends Operation.Advances)
  /-- A prepared operation has the time at which its target was captured. -/
  captured : ∀ s, s ∈ written calls ∨ s ∈ calls.map Call.memory → ∀ entry ∈ s,
    entry.2.phase ≠ .preparing → entry.2.targetCapturedAtUnixMs.isSome
  /-- No call misses that time. -/
  checkpoint : ∀ c ∈ calls, ∀ e s, c.out = .returned (.error e, s) → ¬Coded "checkpoint-missing" e

section Runs

variable {config : Config} {driver : Driver} {rounds : ℕ} {calls : List ServiceCall} {s : State}
variable {d : Option State} {c : ServiceCall}

theorem written_wellFormed (run : (service config driver rounds).Run calls s d) :
    ∀ s ∈ written calls, s.WellFormed := by
  intro s hs
  obtain ⟨c, hc, hs⟩ := List.mem_flatMap.1 hs
  obtain ⟨e, he, hwrites⟩ := List.mem_filterMap.1 hs
  obtain ⟨pre, post, rfl⟩ := List.append_of_mem hc
  obtain ⟨earlier, v⟩ := run.split
  have wf := (run_wellFormed earlier).1
  obtain ⟨pre, post, split⟩ := List.append_of_mem he
  obtain ⟨s₀, before, update⟩ := issued v wf split
  unfold writes at hwrites
  split at hwrites
  · obtain rfl := Option.some.inj hwrites
    exact ((update _ rfl).wellFormed (before.wellFormed wf)).saved
  · cases hwrites

theorem memory_wellFormed (run : (service config driver rounds).Run calls s d) :
    ∀ s ∈ calls.map Call.memory, s.WellFormed := by
  intro s hs
  obtain ⟨c, hc, rfl⟩ := List.mem_map.1 hs
  obtain ⟨pre, post, rfl⟩ := List.append_of_mem hc
  exact (run_wellFormed run.split.1).1

theorem checkpoint_kept (v : (service config driver rounds).Valid c) (wf : c.memory.WellFormed) {e : Raised}
    (hout : c.out = .returned (.error e, s)) : ¬Coded "checkpoint-missing" e := by
  intro coded
  have run : (Stateful.start (serve config driver rounds c.request) c.memory).Runs c.tr c.out := v.run
  generalize hr : c.request = r at run
  cases r with
  | prepare key request =>
    have raises := (keeps_prepare.of_runs run (accepts_recording [] c.tr)).2.1 e s hout
    obtain ⟨conflict, -⟩ := raises.2 fun foreign => foreign.2 coded
    cases e <;> simp_all [Coded]
  | commit operationId key request =>
    obtain ⟨interrupted, -, missing⟩ :=
      ((commit_keeps config rounds wf).of_runs run (accepts_recording [] c.tr)).2.1 e s hout
    obtain ⟨a, found, prepared, untimed⟩ := missing coded
    have timed := ((interrupted.wellFormed wf).find found).timed prepared
    simp [untimed] at timed

/-- Before a later call, the memory holds what it held before an earlier one. -/
theorem held_later {Q : Operation → Prop} (hQ : Kept Q) {k : OpKey} {pre rest : List ServiceCall}
    {b : ServiceCall} (run : (service config driver rounds).Run (pre ++ b :: rest) s d)
    (succeed : ∀ c ∈ pre ++ b :: rest, SavesSucceed c) (hc : c ∈ b :: rest) (held : Held Q k b.memory) :
    Held Q k c.memory ∧ Clean c.memory c.before ∧ (service config driver rounds).Valid c := by
  rcases List.mem_cons.1 hc with rfl | hc
  · obtain ⟨earlier, v⟩ := run.split
    exact ⟨held, run_clean earlier fun c hc => succeed c (by simp [hc]), v⟩
  · obtain ⟨mid, post, rfl⟩ := List.append_of_mem hc
    have shape : pre ++ b :: (mid ++ c :: post) = pre ++ b :: mid ++ c :: post := by simp
    rw [shape] at run succeed
    obtain ⟨earlier, v⟩ := run.split
    have clean := run_clean earlier fun c hc => succeed c (List.mem_append_left _ hc)
    exact ⟨held.later hQ run succeed, clean, v⟩

/-- While all saves succeed, every run is single-shot. -/
theorem single_shot (run : (service config driver rounds).Run calls s d)
    (succeed : ∀ c ∈ calls, SavesSucceed c) : SingleShot calls := by
  have chain := (run_chain run succeed).1
  have advancing : ([] :: written calls).IsChain (State.Extends Operation.Advances) :=
    chain.imp fun _ _ h => h.mono fun _ _ h => h.1
  have wellFormed : ∀ s, s ∈ written calls ∨ s ∈ calls.map Call.memory → s.WellFormed :=
    fun s hs => hs.elim (written_wellFormed run s) (memory_wellFormed run s)
  refine ⟨?_, ?_, chain, advancing.pairwise, fun s hs entry hentry => (wellFormed s hs entry hentry).timed, ?_⟩
  · rintro pre b rest c key request a r rfl hc hr found hresponse
    have held : Held (HasPrepared r) c.request.operation b.memory :=
      .inl ⟨a, found, by simp [HasPrepared, hresponse]⟩
    obtain ⟨held, clean, v⟩ := held_later (kept_prepared r) run succeed hc held
    exact replays_prepare hr v clean held
  · rintro pre b rest c operationId key request a r rfl hc hr found hresponse
    have held : Held (HasCommitted r) c.request.operation b.memory :=
      .inl ⟨a, found, by simp [HasCommitted, hresponse]⟩
    obtain ⟨held, clean, v⟩ := held_later (kept_committed r) run succeed hc held
    exact replays_commit hr v clean held
  · intro c hc e s hout
    obtain ⟨pre, post, rfl⟩ := List.append_of_mem hc
    obtain ⟨earlier, v⟩ := run.split
    exact checkpoint_kept v (run_wellFormed earlier).1 hout

end Runs

theorem single_shot_failover : ∃ calls s d,
    (service Deployment.config (.docker Deployment.dockerSettings) 3).Run calls s d ∧
      calls.map Call.request = [Deployment.prepareCall, Deployment.prepareCall, Deployment.commitCall,
        Deployment.commitCall] ∧
      (∀ c ∈ calls, c.answer.isSome) ∧ SingleShot calls := by
  let requests := [Deployment.prepareCall, Deployment.prepareCall, Deployment.commitCall, Deployment.commitCall]
  obtain ⟨s, d, run⟩ := Deployment.calls_run requests []
  have observed : ∀ c ∈ Deployment.calls requests [], c.answer.isSome ∧ c.tr.any failedSave = false := by
    decide +kernel
  have succeed : ∀ c ∈ Deployment.calls requests [], SavesSucceed c :=
    fun c hc => savesSucceed_of_any (observed c hc).2
  exact ⟨_, s, d, run, rfl, fun c hc => (observed c hc).1, single_shot run succeed⟩

end Provider

end Zkdeal.FailoverProvider
