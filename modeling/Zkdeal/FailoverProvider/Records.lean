import Zkdeal.FailoverProvider.Provider

/-!
# The life of a record

What a call may do to the record of an operation: capture a target, store the response of `prepare`,
bind the key of a commit, store the response of `commit`.  Each change keeps a record well formed
and advances it, so that what is written once stays.
-/

namespace Zkdeal.FailoverProvider

open Interaction Python

/-! ## States as dictionaries -/

@[simp] theorem OpKey.same_self (k : OpKey) : k.same k = true := by simp [OpKey.same]

theorem OpKey.same_text {k : OpKey} {t : String} (h : k.same (.text t) = true) : k = .text t := by
  simp only [same, Bool.or_eq_true, decide_eq_true_eq] at h
  rcases h with h | h
  · exact h
  · cases k <;> simp_all [json, Json.eq, Json.number]

/-- Sorting the responses of a record does not change its integers. -/
theorem Operation.printable_saved (operation : Operation) :
    Json.printableFields operation.saved.document = Json.printableFields operation.document := by
  have sorted (response : Option Dict) (key : String) :
      Json.printableFields (((response.map Dict.sorted).map Json.obj).map fun v => (key, v)).toList =
        Json.printableFields ((response.map Json.obj).map fun v => (key, v)).toList := by
    cases response with
    | none => rfl
    | some r => simp [Json.printableFields, Json.printable, Json.printableFields_sorted]
  simp only [document, Json.printableFields_append, saved, sorted]

namespace State

variable {s s' s'' : State} {k : OpKey} {operation : Operation} {f : Operation → Operation}

@[simp] theorem find_nil : find [] k = none := rfl

@[simp] theorem find_cons {l : OpKey} :
    find ((l, operation) :: s) k = if l.same k = true then some operation else s.find k := by
  unfold find
  rw [List.find?_cons]
  split <;> simp_all

theorem find_append (s s' : State) : find (s ++ s') k = (s.find k).or (s'.find k) := by
  induction s with
  | nil => rfl
  | cons e s ih =>
    obtain ⟨l, operation⟩ := e
    rw [List.cons_append, find_cons, find_cons, ih]
    split <;> simp

theorem find_insert (h : s.find k = none) : (s.insert k operation).find k = some operation := by
  simp [insert, find_append, h]

theorem find_modify (h : s.find k = some operation) : (s.modify k f).find k = some (f operation) := by
  induction s with
  | nil => cases h
  | cons e s ih =>
    obtain ⟨l, other⟩ := e
    by_cases hl : l.same k = true
    · simp_all [modify]
    · simp_all [modify]

theorem exists_mem_of_find (h : s.find k = some operation) :
    ∃ l, l.same k = true ∧ (l, operation) ∈ s := by
  obtain ⟨entry, hentry, rfl⟩ := Option.map_eq_some_iff.1 h
  exact ⟨entry.1, by simpa using List.find?_some hentry, List.mem_of_find?_eq_some hentry⟩

/-- `s'` has the records of `s`, each related by `P` to the one before, and then new ones. -/
def Extends (P : Operation → Operation → Prop) (s s' : State) : Prop :=
  ∃ s₁ s₂, s' = s₁ ++ s₂ ∧ List.Forall₂ (fun e e' => e'.1 = e.1 ∧ P e.2 e'.2) s s₁

variable {P : Operation → Operation → Prop}

theorem extends_refl (hP : ∀ operation, P operation operation) (s : State) : Extends P s s :=
  ⟨s, [], (List.append_nil s).symm, List.forall₂_same.2 fun e _ => ⟨rfl, hP e.2⟩⟩

theorem Extends.trans (hP : ∀ a b c, P a b → P b c → P a c) (h : Extends P s s')
    (h' : Extends P s' s'') : Extends P s s'' := by
  obtain ⟨s₁, s₂, rfl, hs⟩ := h
  obtain ⟨t, s₃, rfl, ht⟩ := h'
  suffices split : ∃ t₁ t₂, t = t₁ ++ t₂ ∧ List.Forall₂ (fun e e' => e'.1 = e.1 ∧ P e.2 e'.2) s t₁ by
    obtain ⟨t₁, t₂, rfl, h₁⟩ := split
    exact ⟨t₁, t₂ ++ s₃, List.append_assoc .., h₁⟩
  induction hs generalizing t with
  | nil => exact ⟨[], t, rfl, .nil⟩
  | cons he _ ih =>
    cases ht with
    | cons he' ht =>
      obtain ⟨t₁, t₂, rfl, h₁⟩ := ih _ ht
      exact ⟨_ :: t₁, t₂, rfl, .cons ⟨he'.1.trans he.1, hP _ _ _ he.2 he'.2⟩ h₁⟩

theorem Extends.mono {P' : Operation → Operation → Prop} (h : Extends P s s')
    (hP : ∀ a b, P a b → P' a b) : Extends P' s s' := by
  obtain ⟨s₁, s₂, rfl, hs⟩ := h
  exact ⟨s₁, s₂, rfl, hs.imp fun _ _ he => ⟨he.1, hP _ _ he.2⟩⟩

theorem Extends.find (h : Extends P s s') (hk : s.find k = some operation) :
    ∃ operation', s'.find k = some operation' ∧ P operation operation' := by
  obtain ⟨s₁, s₂, rfl, hs⟩ := h
  induction hs with
  | nil => cases hk
  | @cons e e' s s₁ he _ ih =>
    obtain ⟨l, a⟩ := e
    obtain ⟨l', b⟩ := e'
    obtain ⟨rfl, hab⟩ : l' = l ∧ P a b := he
    rw [find_cons] at hk
    rw [List.cons_append, find_cons]
    split at hk
    · obtain rfl := Option.some.inj hk
      exact ⟨b, if_pos ‹_›, hab⟩
    · rw [if_neg ‹_›]
      exact ih hk

theorem extends_insert (hP : ∀ operation, P operation operation) :
    Extends P s (s.insert k operation) := by
  obtain ⟨s₁, s₂, h, hs⟩ := extends_refl hP s
  exact ⟨s₁, s₂ ++ [(k, operation)], by rw [insert, ← List.append_assoc, ← h], hs⟩

theorem extends_modify (hP : ∀ operation, P operation operation) (h : s.find k = some operation)
    (hf : P operation (f operation)) : Extends P s (s.modify k f) := by
  refine ⟨s.modify k f, [], (List.append_nil _).symm, ?_⟩
  induction s with
  | nil => cases h
  | cons e s ih =>
    obtain ⟨l, other⟩ := e
    rw [find_cons] at h
    unfold modify
    split at h
    · obtain rfl := Option.some.inj h
      rw [if_pos ‹_›]
      exact .cons ⟨rfl, hf⟩ (List.forall₂_same.2 fun e _ => ⟨rfl, hP e.2⟩)
    · rw [if_neg ‹_›]
      exact .cons ⟨rfl, hP other⟩ (ih h)

theorem Extends.saved (h : Extends P s s') (hP : ∀ a b, P a b → P a.saved b.saved) :
    Extends P (State.saved s) (State.saved s') := by
  obtain ⟨s₁, s₂, rfl, hs⟩ := h
  refine ⟨State.saved s₁, State.saved s₂, List.map_append .., ?_⟩
  rw [State.saved, State.saved, List.forall₂_map_left_iff, List.forall₂_map_right_iff]
  exact hs.imp fun e e' he => ⟨by rw [he.1], hP _ _ he.2⟩

theorem saved_texts (s : State) : ∀ entry ∈ State.saved s, entry.1.isText = true := by
  intro entry hentry
  obtain ⟨e, -, rfl⟩ := List.mem_map.1 hentry
  rfl

/-- What is read back can be saved again. -/
theorem dumpable_saved (h : s.dumpable = true) : (State.saved s).dumpable = true := by
  rw [dumpable, Bool.and_eq_true, List.all_eq_true] at h ⊢
  refine ⟨Bool.or_eq_true_iff.2 (.inl (List.all_eq_true.2 (saved_texts s))), fun entry hentry => ?_⟩
  obtain ⟨e, he, rfl⟩ := List.mem_map.1 hentry
  have printable := h.2 e he
  rw [← Operation.printable_saved] at printable
  exact printable

/-- A candidate whose id is a text is found again in a saved state. -/
theorem find_saved {t : String} (hd : s.uniform = true) (h : s.find (.text t) = some operation) :
    (State.saved s).find (.text t) = some operation.saved := by
  have texts : s.all (fun entry => entry.1.isText) = true := by
    obtain ⟨l, hl, hmem⟩ := exists_mem_of_find h
    rw [OpKey.same_text hl] at hmem
    rcases Bool.or_eq_true_iff.1 hd with hall | hall
    · exact hall
    · exact absurd (List.all_eq_true.1 hall _ hmem) (by simp [OpKey.isText])
  clear hd
  induction s with
  | nil => cases h
  | cons e s ih =>
    obtain ⟨l, other⟩ := e
    rw [List.all_cons, Bool.and_eq_true] at texts
    rw [find_cons] at h
    cases l with
    | text u =>
      change find ((.text u, other.saved) :: State.saved s) _ = _
      rw [find_cons]
      split at h
      · rw [if_pos ‹_›, Option.some.inj h]
      · rw [if_neg ‹_›]
        exact ih h texts.2
    | _ => exact absurd texts.1 (by simp [OpKey.isText])

end State

/-! ## Changes -/

/-- The place of a phase in `PREPARING -> PREPARED -> COMMITTED`. -/
def Phase.rank : Phase → ℕ
  | preparing => 0
  | prepared => 1
  | committed => 2

/-- A stored response is not empty. -/
theorem stored_eq_some_iff {response : Option Dict} {r : Dict} :
    stored response = some r ↔ response = some r ∧ r ≠ [] := by
  simp [stored, Option.filter_eq_some_iff]

namespace Operation

/-- What a call may do to a record, under the conditions under which it does. -/
inductive Change (k : OpKey) : Operation → Operation → Prop where
  | capture {a : Operation} {target : String} (capturedAt : ℤ) (first : a.primaryTargetLsn.getD "" = "")
      (h : target ≠ "") (open_ : stored a.prepareResponse = none) :
      Change k a (a.captured target capturedAt)
  | prepare {a : Operation} {id : Json} {target replay : String} (open_ : stored a.prepareResponse = none)
      (targeted : a.primaryTargetLsn.getD "" ≠ "") (same : k.json.eq id = true) :
      Change k a (a.prepared (FailoverProvider.prepareResponse id target replay))
  | bind {a : Operation} {keySha256 : String} (requestSha256 : String) {owner : Json} {text : String}
      (first : Provider.boundKey a = none) (prepared : a.phase ≠ .preparing) (h : keySha256 ≠ "")
      (howner : owner.text = some text) (hex : isHex64 text = true) :
      Change k a (a.bound keySha256 requestSha256 owner)
  | commit {a : Operation} (config : Config) (operationId : String) (capturedAt committedAt : ℤ)
      (open_ : stored a.commitResponse = none) (bound : Provider.boundKey a ≠ none)
      (prepared : a.phase ≠ .preparing) :
      Change k a (a.committed
        (Provider.measured (FailoverProvider.commitResponse config operationId) capturedAt committedAt)
        committedAt)

/-- What is true of every record. -/
structure WellFormed (a : Operation) : Prop where
  target : ∀ t, a.primaryTargetLsn = some t → t ≠ ""
  captured : a.targetCapturedAtUnixMs.isSome = a.primaryTargetLsn.isSome
  preparing : a.phase = .preparing ↔ a.prepareResponse = none
  prepareResponse : ∀ r, a.prepareResponse = some r → r ≠ [] ∧ a.primaryTargetLsn.isSome
  committed : a.phase = .committed ↔ a.commitResponse.isSome
  commitResponse : ∀ r, a.commitResponse = some r → r ≠ [] ∧ (Provider.boundKey a).isSome

/-- What a later state of a record keeps of an earlier one. -/
structure Advances (a b : Operation) : Prop where
  candidate : b.candidateId = a.candidateId
  prepareKey : b.prepareKeySha256 = a.prepareKeySha256
  prepareRequest : b.prepareRequestSha256 = a.prepareRequestSha256
  phase : a.phase.rank ≤ b.phase.rank
  target : ∀ t, a.primaryTargetLsn = some t → b.primaryTargetLsn = some t
  captured : ∀ t, a.targetCapturedAtUnixMs = some t → b.targetCapturedAtUnixMs = some t
  prepareResponse : ∀ r, a.prepareResponse = some r → b.prepareResponse = some r
  commitKey : ∀ h, Provider.boundKey a = some h →
    Provider.boundKey b = some h ∧ b.commitRequestSha256 = a.commitRequestSha256
  commitResponse : ∀ r, a.commitResponse = some r → b.commitResponse = some r

theorem advances_refl (a : Operation) : a.Advances a where
  candidate := rfl
  prepareKey := rfl
  prepareRequest := rfl
  phase := le_rfl
  target _ h := h
  captured _ h := h
  prepareResponse _ h := h
  commitKey _ h := ⟨h, rfl⟩
  commitResponse _ h := h

theorem Advances.trans {a b c : Operation} (h : a.Advances b) (h' : b.Advances c) : a.Advances c where
  candidate := h'.candidate.trans h.candidate
  prepareKey := h'.prepareKey.trans h.prepareKey
  prepareRequest := h'.prepareRequest.trans h.prepareRequest
  phase := h.phase.trans h'.phase
  target t ht := h'.target t (h.target t ht)
  captured t ht := h'.captured t (h.captured t ht)
  prepareResponse r hr := h'.prepareResponse r (h.prepareResponse r hr)
  commitKey k hk := ⟨(h'.commitKey k (h.commitKey k hk).1).1,
    (h'.commitKey k (h.commitKey k hk).1).2.trans (h.commitKey k hk).2⟩
  commitResponse r hr := h'.commitResponse r (h.commitResponse r hr)

theorem wellFormed_opened (candidateId : Json) (key request : String) (createdAt : ℤ) :
    (opened candidateId key request createdAt).WellFormed := by
  constructor <;> simp [opened]

theorem WellFormed.stored_prepareResponse {a : Operation} (h : a.WellFormed) :
    stored a.prepareResponse = a.prepareResponse := by
  cases hr : a.prepareResponse with
  | none => rfl
  | some r => exact stored_eq_some_iff.2 ⟨rfl, (h.prepareResponse r hr).1⟩

theorem WellFormed.stored_commitResponse {a : Operation} (h : a.WellFormed) :
    stored a.commitResponse = a.commitResponse := by
  cases hr : a.commitResponse with
  | none => rfl
  | some r => exact stored_eq_some_iff.2 ⟨rfl, (h.commitResponse r hr).1⟩

/-- A prepared operation has the time at which its target was captured. -/
theorem WellFormed.timed {a : Operation} (h : a.WellFormed) (prepared : a.phase ≠ .preparing) :
    a.targetCapturedAtUnixMs.isSome := by
  obtain ⟨r, hr⟩ := Option.ne_none_iff_exists'.1 (mt h.preparing.2 prepared)
  rw [h.captured]
  exact (h.prepareResponse r hr).2

theorem WellFormed.not_captured {a : Operation} (h : a.WellFormed)
    (first : a.primaryTargetLsn.getD "" = "") :
    a.primaryTargetLsn = none ∧ a.targetCapturedAtUnixMs = none := by
  have hnone : a.primaryTargetLsn = none := by
    cases ht : a.primaryTargetLsn with
    | none => rfl
    | some t => exact absurd (by simpa [ht] using first) (h.target t ht)
  exact ⟨hnone, by simpa [hnone] using h.captured⟩

theorem WellFormed.uncommitted {a : Operation} (h : a.WellFormed) (hp : a.phase ≠ .committed) :
    a.commitResponse = none := by
  have := mt h.committed.2 hp
  simpa using this

/-- A change keeps a record well formed. -/
theorem Change.wellFormed {k : OpKey} {a b : Operation} (change : Change k a b) (h : a.WellFormed) :
    b.WellFormed := by
  cases change with
  | @capture target capturedAt first hne open_ =>
    rw [h.stored_prepareResponse] at open_
    exact {
      target := fun t ht => Option.some.inj ht ▸ hne
      captured := rfl
      preparing := h.preparing
      prepareResponse := fun r hr => absurd hr (by simp [captured, open_])
      committed := h.committed
      commitResponse := h.commitResponse }
  | @prepare id t replay open_ target same =>
    rw [h.stored_prepareResponse] at open_
    have hne : FailoverProvider.prepareResponse id t replay ≠ [] := List.cons_ne_nil _ _
    have uncommitted := h.uncommitted (by rw [h.preparing.2 open_]; exact nofun)
    have captured : a.primaryTargetLsn.isSome := by
      cases ht : a.primaryTargetLsn with
      | none => simp [ht] at target
      | some t => rfl
    exact {
      target := h.target
      captured := h.captured
      preparing := by simp [prepared]
      prepareResponse := fun r hr => ⟨Option.some.inj hr ▸ hne, captured⟩
      committed := by simp [prepared, uncommitted]
      commitResponse := h.commitResponse }
  | @bind key request owner text first prepared hne howner hex =>
    have key : Provider.boundKey (a.bound key request owner) = some key := by
      simp [Provider.boundKey, bound, hne]
    exact {
      target := h.target
      captured := h.captured
      preparing := h.preparing
      prepareResponse := h.prepareResponse
      committed := h.committed
      commitResponse := fun r hr => ⟨(h.commitResponse r hr).1, by rw [key]; rfl⟩ }
  | commit config operationId capturedAt committedAt open_ hbound prepared =>
    have hne : Provider.measured (FailoverProvider.commitResponse config operationId) capturedAt committedAt ≠ [] :=
      Dict.set_ne_nil _ _ _
    have responded : a.prepareResponse ≠ none := mt h.preparing.2 prepared
    exact {
      target := h.target
      captured := h.captured
      preparing := by simpa [Operation.committed] using responded
      prepareResponse := h.prepareResponse
      committed := by simp [Operation.committed]
      commitResponse := fun r hr => ⟨Option.some.inj hr ▸ hne, Option.isSome_iff_ne_none.2 hbound⟩ }

/-- A change advances a record, by one phase at most. -/
theorem Change.advances {k : OpKey} {a b : Operation} (change : Change k a b) (h : a.WellFormed) :
    a.Advances b ∧ b.phase.rank ≤ a.phase.rank + 1 := by
  cases change with
  | capture capturedAt first hne open_ =>
    obtain ⟨target, at_⟩ := h.not_captured first
    exact ⟨{ advances_refl a with
      target := fun t ht => absurd ht (by simp [target])
      captured := fun t ht => absurd ht (by simp [at_]) }, Nat.le_succ _⟩
  | prepare open_ target same =>
    rw [h.stored_prepareResponse] at open_
    have preparing := h.preparing.2 open_
    refine ⟨{ advances_refl a with
      phase := by simp [preparing, Phase.rank]
      prepareResponse := fun r hr => absurd hr (by simp [open_]) }, ?_⟩
    simp [preparing, prepared, Phase.rank]
  | bind request first prepared hne howner hex =>
    refine ⟨{ advances_refl a with commitKey := fun k hk => absurd hk (by simp [first]) }, ?_⟩
    exact Nat.le_succ _
  | commit config operationId capturedAt committedAt open_ bound prepared =>
    rw [h.stored_commitResponse] at open_
    have committing : a.phase = .prepared := by
      cases hp : a.phase with
      | preparing => exact absurd hp prepared
      | prepared => rfl
      | committed => exact absurd (h.committed.1 hp) (by simp [open_])
    refine ⟨{ advances_refl a with
      phase := by simp [committing, Operation.committed, Phase.rank]
      commitResponse := fun r hr => absurd hr (by simp [open_]) }, ?_⟩
    simp [committing, Operation.committed, Phase.rank]

theorem Advances.saved {a b : Operation} (h : a.Advances b) : a.saved.Advances b.saved := by
  have mapped {x y : Option Dict} (hxy : ∀ r, x = some r → y = some r) (r : Dict)
      (hr : x.map Dict.sorted = some r) : y.map Dict.sorted = some r := by
    obtain ⟨r', hr', rfl⟩ := Option.map_eq_some_iff.1 hr
    rw [hxy r' hr']
    rfl
  exact { h with
    prepareResponse := mapped h.prepareResponse
    commitResponse := mapped h.commitResponse }

theorem WellFormed.saved {a : Operation} (h : a.WellFormed) : a.saved.WellFormed where
  target := h.target
  captured := h.captured
  preparing := by simpa [Operation.saved] using h.preparing
  prepareResponse r hr := by
    obtain ⟨r', hr', rfl⟩ := Option.map_eq_some_iff.1 hr
    refine ⟨fun he => (h.prepareResponse r' hr').1 ?_, (h.prepareResponse r' hr').2⟩
    exact List.perm_nil.1 (he ▸ (List.perm_insertionSort _ r').symm)
  committed := by simpa [Operation.saved] using h.committed
  commitResponse r hr := by
    obtain ⟨r', hr', rfl⟩ := Option.map_eq_some_iff.1 hr
    refine ⟨fun he => (h.commitResponse r' hr').1 ?_, (h.commitResponse r' hr').2⟩
    exact List.perm_nil.1 (he ▸ (List.perm_insertionSort _ r').symm)

end Operation

/-! ## Updates -/

namespace State

/-- What a call for the operation `k` may do to the memory between two saves. -/
inductive Update (k : OpKey) : State → State → Prop where
  | insert {s : State} (key request : String) (createdAt : ℤ) (fresh : s.find k = none) :
      Update k s (s.insert k (Operation.opened k.json key request createdAt))
  | modify {s : State} {f : Operation → Operation} {a : Operation} (found : s.find k = some a)
      (change : Operation.Change k a (f a)) : Update k s (s.modify k f)

instance : Trans (Extends Operation.Advances) (Extends Operation.Advances) (Extends Operation.Advances) where
  trans h h' := h.trans (fun _ _ _ h h' => h.trans h') h'

/-- Every record is well formed. -/
def WellFormed (s : State) : Prop := ∀ entry ∈ s, entry.2.WellFormed

variable {s s' : State} {k : OpKey}

theorem WellFormed.find {a : Operation} (h : WellFormed s) (hk : s.find k = some a) : a.WellFormed := by
  obtain ⟨l, -, hl⟩ := exists_mem_of_find hk
  exact h _ hl

theorem WellFormed.saved (h : WellFormed s) : WellFormed (State.saved s) := by
  intro entry hentry
  obtain ⟨e, he, rfl⟩ := List.mem_map.1 hentry
  exact (h e he).saved

/-- One step of the records that a state keeps. -/
def Steps (a b : Operation) : Prop := a.Advances b ∧ b.phase.rank ≤ a.phase.rank + 1

theorem steps_refl (a : Operation) : Steps a a := ⟨a.advances_refl, Nat.le_succ _⟩

theorem mem_modify {f : Operation → Operation} {entry : OpKey × Operation} (h : entry ∈ s.modify k f) :
    entry ∈ s ∨ ∃ a, s.find k = some a ∧ entry.2 = f a := by
  induction s with
  | nil => cases h
  | cons e s ih =>
    obtain ⟨l, other⟩ := e
    unfold modify at h
    rw [find_cons]
    split at h
    · rcases List.mem_cons.1 h with rfl | h
      · exact .inr ⟨other, if_pos ‹_›, rfl⟩
      · exact .inl (List.mem_cons_of_mem _ h)
    · rw [if_neg ‹_›]
      rcases List.mem_cons.1 h with rfl | h
      · exact .inl List.mem_cons_self
      · exact (ih h).imp_left (List.mem_cons_of_mem _)

theorem Update.wellFormed (update : Update k s s') (h : WellFormed s) : WellFormed s' := by
  intro entry hentry
  cases update with
  | insert key request createdAt fresh =>
    rcases List.mem_append.1 hentry with hmem | hmem
    · exact h entry hmem
    · rw [List.mem_singleton.1 hmem]
      exact Operation.wellFormed_opened ..
  | modify found change =>
    rcases mem_modify hentry with hmem | ⟨a, ha, heq⟩
    · exact h entry hmem
    · rw [found] at ha
      obtain rfl := Option.some.inj ha
      rw [heq]
      exact change.wellFormed (h.find found)

theorem Update.extends (update : Update k s s') (h : WellFormed s) : Extends Steps s s' := by
  cases update with
  | insert => exact extends_insert steps_refl
  | modify found change => exact extends_modify steps_refl found (change.advances (h.find found))

end State

end Zkdeal.FailoverProvider
