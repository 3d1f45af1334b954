import Zkdeal.FailoverProvider.ProviderRuns
import Zkdeal.Interaction.Similar
import Zkdeal.Python.JsonRoundTrip

/-!
# Restarts

A provider whose candidate ids are texts loses nothing when it is restarted: the state file reads back
as the dictionary that is in memory, and every later request is answered the same way from either.
-/

namespace Zkdeal.FailoverProvider

open Interaction Python

/-! ## States that are the same dictionary -/

namespace State

variable {s t : State}

/-- Every candidate has the same record in both, but for the order of the members of its responses. -/
def Same (s t : State) : Prop :=
  ∀ u, (s.find (.text u)).map Operation.saved = (t.find (.text u)).map Operation.saved

theorem find_modify_text (s : State) (u v : String) (f : Operation → Operation) :
    (s.modify (.text u) f).find (.text v) =
      if v = u then (s.find (.text u)).map f else s.find (.text v) := by
  induction s with
  | nil =>
    split <;> rfl
  | cons e s ih =>
    obtain ⟨l, a⟩ := e
    unfold modify
    by_cases hl : l.same (.text u) = true
    · obtain rfl := OpKey.same_text hl
      rw [if_pos hl, find_cons, find_cons, find_cons]
      by_cases hv : v = u
      · subst hv
        simp
      · have other : (OpKey.text u).same (.text v) = false := by
          by_contra h
          have := OpKey.same_text (by simpa using h)
          simp [Ne.symm hv] at this
        simp [other, hv]
    · rw [if_neg hl, find_cons, find_cons, find_cons, ih]
      by_cases hv : v = u
      · subst hv
        simp [hl]
      · simp [hv]

theorem find_insert_text (s : State) (u v : String) (a : Operation) :
    (s.insert (.text u) a).find (.text v) = (s.find (.text v)).or (if v = u then some a else none) := by
  rw [insert, find_append, find_cons, find_nil]
  by_cases hv : v = u
  · subst hv
    simp
  · have other : (OpKey.text u).same (.text v) = false := by
      by_contra h
      have := OpKey.same_text (by simpa using h)
      simp [Ne.symm hv] at this
    simp [other, hv]

/-- What both hold for a candidate. -/
theorem Same.find (h : Same s t) (u : String) : s.find (.text u) = none ∧ t.find (.text u) = none ∨
    ∃ a b, s.find (.text u) = some a ∧ t.find (.text u) = some b ∧ a.saved = b.saved := by
  have hu := h u
  cases hs : s.find (.text u) with
  | none =>
    rw [hs, Option.map_none, eq_comm, Option.map_eq_none_iff] at hu
    exact .inl ⟨rfl, hu⟩
  | some a =>
    rw [hs, Option.map_some, eq_comm, Option.map_eq_some_iff] at hu
    obtain ⟨b, hb, hsaved⟩ := hu
    exact .inr ⟨a, b, rfl, hb, hsaved.symm⟩

theorem Same.modify (h : Same s t) {u : String} {f : Operation → Operation}
    (hf : ∀ a b, a.saved = b.saved → (f a).saved = (f b).saved) :
    Same (s.modify (.text u) f) (t.modify (.text u) f) := by
  intro v
  rw [find_modify_text, find_modify_text]
  by_cases hv : v = u
  · rw [if_pos hv, if_pos hv]
    rcases h.find u with ⟨hs, ht⟩ | ⟨a, b, hs, ht, hsaved⟩
    · rw [hs, ht]
    · rw [hs, ht]
      exact congrArg some (hf a b hsaved)
  · rw [if_neg hv, if_neg hv]
    exact h v

theorem Same.insert (h : Same s t) (u : String) (a : Operation) :
    Same (s.insert (.text u) a) (t.insert (.text u) a) := by
  intro v
  rw [find_insert_text, find_insert_text]
  rcases h.find v with ⟨hs, ht⟩ | ⟨b, c, hs, ht, hsaved⟩
  · rw [hs, ht]
  · rw [hs, ht]
    exact congrArg some hsaved

end State

/-! ## Requests -/

namespace Provider

/-- The same operation; the state that is saved may be the same dictionary only. -/
inductive SameOp : Op → Op → Prop where
  | refl (o : Op) : SameOp o o
  | save {s t : State} (h : s.Same t) : SameOp (.save s) (.save t)

/-- The same response, but for the order of its members. -/
def SameResponse (r r' : Dict) : Prop := Dict.sorted r = Dict.sorted r'

/-- From either memory, the program does the same. -/
abbrev Alike {α : Type} (B : α → α → Prop) (x y : Serving α) (s t : State) : Prop :=
  Stateful.Alike SameOp State.Same B x y s t

section Alike

variable {s t : State} {a b : Operation}

/-- What records that are the same agree on. -/
structure Agrees (a b : Operation) : Prop where
  prepareKey : a.prepareKeySha256 = b.prepareKeySha256
  prepareRequest : a.prepareRequestSha256 = b.prepareRequestSha256
  phase : a.phase = b.phase
  createdAt : a.createdAtUnixMs = b.createdAtUnixMs
  target : a.primaryTargetLsn = b.primaryTargetLsn
  captured : a.targetCapturedAtUnixMs = b.targetCapturedAtUnixMs
  commitKey : a.commitKeySha256 = b.commitKeySha256
  commitRequest : a.commitRequestSha256 = b.commitRequestSha256
  committedAt : a.committedAtUnixMs = b.committedAtUnixMs
  prepareResponse : a.prepareResponse.map Dict.sorted = b.prepareResponse.map Dict.sorted
  commitResponse : a.commitResponse.map Dict.sorted = b.commitResponse.map Dict.sorted

theorem agrees_of_saved (h : a.saved = b.saved) : Agrees a b := by
  simp only [Operation.saved, Operation.mk.injEq] at h
  constructor <;> tauto

/-- What is stored in records that are the same. -/
theorem stored_of_sorted {x y : Option Dict} (h : x.map Dict.sorted = y.map Dict.sorted) :
    stored x = none ∧ stored y = none ∨ ∃ r r', stored x = some r ∧ stored y = some r' ∧ SameResponse r r' := by
  have nonempty (r : Dict) : r.sorted = [] ↔ r = [] := by
    have perm := List.perm_insertionSort (fun a b : String × Json => a.1 ≤ b.1) r
    exact ⟨fun h => List.nil_perm.1 (h ▸ perm), by rintro rfl; rfl⟩
  cases x with
  | none =>
    rw [Option.map_none, eq_comm, Option.map_eq_none_iff] at h
    exact .inl ⟨rfl, by rw [h]; rfl⟩
  | some r =>
    rw [Option.map_some, eq_comm, Option.map_eq_some_iff] at h
    obtain ⟨r', rfl, hsorted⟩ := h
    by_cases hr : r = []
    · have hr' : r' = [] := (nonempty r').1 (hsorted.trans ((nonempty r).2 hr))
      exact .inl ⟨by simp [stored, hr], by simp [stored, hr']⟩
    · have hr' : r' ≠ [] := fun h => hr ((nonempty r).1 (hsorted.symm.trans ((nonempty r').2 h)))
      exact .inr ⟨r, r', stored_eq_some_iff.2 ⟨rfl, hr⟩, stored_eq_some_iff.2 ⟨rfl, hr'⟩, hsorted.symm⟩

theorem alike_save (h : s.Same t) : Alike Eq save save s t :=
  .call (.save h) rfl fun r => by
    refine .ret ⟨?_, h⟩
    cases r <;> rfl

/-- Change the record of a candidate and save the state. -/
theorem alike_update {α : Type} {B : α → α → Prop} {u : String} {f : Operation → Operation} {x y : Serving α}
    (h : s.Same t) (hf : ∀ a b, a.saved = b.saved → (f a).saved = (f b).saved)
    (hx : ∀ s t, s.Same t → Alike B x y s t) : Alike B
      (do
        modify fun s => s.modify (.text u) f
        save
        x)
      (do
        modify fun s => s.modify (.text u) f
        save
        y) s t := by
  refine (Stateful.alike_modify (h.modify hf)).bind ?_
  rintro _ _ s t - h
  refine (alike_save h).bind ?_
  rintro _ _ s t - h
  exact hx s t h

theorem saved_captured (target : String) (at_ : ℤ) (a b : Operation) (h : a.saved = b.saved) :
    (a.captured target at_).saved = (b.captured target at_).saved := by
  simp_all [Operation.saved, Operation.captured]

theorem saved_prepared (response : Dict) (a b : Operation) (h : a.saved = b.saved) :
    (a.prepared response).saved = (b.prepared response).saved := by
  simp_all [Operation.saved, Operation.prepared]

theorem saved_bound (key request : String) (owner : Json) (a b : Operation) (h : a.saved = b.saved) :
    (a.bound key request owner).saved = (b.bound key request owner).saved := by
  simp_all [Operation.saved, Operation.bound]

theorem saved_committed (response : Dict) (at_ : ℤ) (a b : Operation) (h : a.saved = b.saved) :
    (a.committed response at_).saved = (b.committed response at_).saved := by
  simp_all [Operation.saved, Operation.committed]

theorem alike_carry (u : String) (o : Op) (s t : State) (h : s.Same t) :
    Alike Eq (carry (.text u) o) (carry (.text u) o) s t := by
  cases o with
  | checkpoint target =>
    refine (Stateful.alike_perform (.refl _) h).bind ?_
    rintro capturedAt _ s t rfl h
    refine (Stateful.alike_modify (h.modify (saved_captured target capturedAt))).bind ?_
    rintro _ _ s t - h
    exact alike_save h
  | _ => exact Stateful.alike_perform (.refl _) h

theorem alike_enter (u : String) (call : DriverCall) (x : Platform Dict) (h : s.Same t) :
    Alike Eq (enter (.text u) call x) (enter (.text u) call x) s t := by
  refine (Stateful.alike_perform (.refl _) h).bind ?_
  rintro _ _ s t - h
  exact Stateful.alike_interpret (alike_carry u) x.run h

variable (config : Config) (driver : Driver) (rounds : ℕ)

theorem alike_perform (u : String) (request : Dict) (h : s.Same t) :
    Alike SameResponse (perform config driver rounds (.text u) request)
      (perform config driver rounds (.text u) request) s t := by
  unfold perform
  refine (Stateful.alike_lift .refl _ h).bind ?_
  rintro _ _ s t - h
  refine (Stateful.alike_lift .refl _ h).bind ?_
  rintro _ _ s t - h
  refine Stateful.alike_get_bind ?_
  have existing : (s.find (.text u)).bind Operation.primaryTargetLsn =
      (t.find (.text u)).bind Operation.primaryTargetLsn := by
    rcases h.find u with ⟨hs, ht⟩ | ⟨a, b, hs, ht, hsaved⟩
    · rw [hs, ht]
    · rw [hs, ht]
      exact (agrees_of_saved hsaved).target
  rw [existing]
  refine (alike_enter u _ _ h).bind ?_
  rintro response _ s t rfl h
  refine (Stateful.alike_raiseIf h).bind ?_
  rintro _ _ s t - h
  exact alike_update h (saved_prepared response) fun s t h => Stateful.alike_pure rfl h

theorem alike_prepare {key : String} {request : Dict} (hk : ∀ k, candidate request = some k → k.isText = true)
    (h : s.Same t) : Alike SameResponse (prepare config driver rounds key request)
      (prepare config driver rounds key request) s t := by
  unfold prepare
  refine (Stateful.alike_raiseIf h).bind ?_
  rintro _ _ s t - h
  refine (Stateful.alike_raiseIf h).bind ?_
  rintro _ _ s t - h
  cases hcandidate : candidate request with
  | none => exact Stateful.alike_throw h
  | some k =>
    obtain ⟨u, rfl⟩ : ∃ u, k = .text u := by
      have := hk k hcandidate
      cases k with
      | text u => exact ⟨u, rfl⟩
      | _ => cases this
    refine (Stateful.alike_raiseIf h).bind ?_
    rintro _ _ s t - h
    refine (Stateful.alike_raiseIf h).bind ?_
    rintro _ _ s t - h
    refine Stateful.alike_get_bind ?_
    rcases h.find u with ⟨hs, ht⟩ | ⟨a, b, hs, ht, hsaved⟩
    · rw [hs, ht]
      refine Stateful.Alike.bind (B := Eq) ?_ ?_
      · refine (Stateful.alike_perform (.refl _) h).bind ?_
        rintro createdAt _ s t rfl h
        refine (Stateful.alike_modify (h.insert u _)).bind ?_
        rintro _ _ s t - h
        exact alike_save h
      · rintro _ _ s t - h
        exact alike_perform config driver rounds u request h
    · rw [hs, ht]
      have agrees := agrees_of_saved hsaved
      dsimp only
      rw [agrees.prepareKey, agrees.prepareRequest]
      refine (Stateful.alike_raiseIf h).bind ?_
      rintro _ _ s t - h
      rcases stored_of_sorted agrees.prepareResponse with ⟨hx, hy⟩ | ⟨r, r', hx, hy, hsame⟩
      · rw [hx, hy]
        exact alike_perform config driver rounds u request h
      · rw [hx, hy]
        exact Stateful.alike_pure hsame h

theorem alike_finish (u : String) (owner : Json) (h : s.Same t) :
    Alike SameResponse (finish config driver rounds u owner) (finish config driver rounds u owner) s t := by
  unfold finish
  refine (alike_enter u _ _ h).bind ?_
  rintro response _ s t rfl h
  refine (Stateful.alike_raiseIf h).bind ?_
  rintro _ _ s t - h
  refine (Stateful.alike_perform (.refl _) h).bind ?_
  rintro committedAt _ s t rfl h
  refine Stateful.alike_get_bind ?_
  have captured : (s.find (.text u)).bind Operation.targetCapturedAtUnixMs =
      (t.find (.text u)).bind Operation.targetCapturedAtUnixMs := by
    rcases h.find u with ⟨hs, ht⟩ | ⟨a, b, hs, ht, hsaved⟩
    · rw [hs, ht]
    · rw [hs, ht]
      exact (agrees_of_saved hsaved).captured
  rw [captured]
  split
  · exact Stateful.alike_throw h
  · exact alike_update h (saved_committed _ committedAt) fun s t h => Stateful.alike_pure rfl h

theorem alike_commit (operationId key : String) (request : Dict) (h : s.Same t) :
    Alike SameResponse (commit config driver rounds operationId key request)
      (commit config driver rounds operationId key request) s t := by
  unfold commit
  refine (Stateful.alike_raiseIf h).bind ?_
  rintro _ _ s t - h
  refine (Stateful.alike_raiseIf h).bind ?_
  rintro _ _ s t - h
  cases ownerHash request with
  | none => exact Stateful.alike_throw h
  | some owner =>
    refine Stateful.alike_get_bind ?_
    rcases h.find operationId with ⟨hs, ht⟩ | ⟨a, b, hs, ht, hsaved⟩
    · rw [hs, ht]
      exact Stateful.alike_throw h
    · rw [hs, ht]
      have agrees := agrees_of_saved hsaved
      have hbound : boundKey a = boundKey b := by rw [boundKey, boundKey, agrees.commitKey]
      dsimp only
      rw [agrees.phase, hbound, agrees.commitRequest]
      refine (Stateful.alike_raiseIf h).bind ?_
      rintro _ _ s t - h
      cases boundKey b with
      | none =>
        exact alike_update h (saved_bound _ _ owner) fun s t h => alike_finish config driver rounds _ owner h
      | some commitKey =>
        refine (Stateful.alike_raiseIf h).bind ?_
        rintro _ _ s t - h
        rcases stored_of_sorted agrees.commitResponse with ⟨hx, hy⟩ | ⟨r, r', hx, hy, hsame⟩
        · rw [hx, hy]
          exact alike_finish config driver rounds _ owner h
        · rw [hx, hy]
          exact Stateful.alike_pure hsame h

theorem alike_status (operationId : String) (h : s.Same t) :
    Alike SameResponse (status operationId) (status operationId) s t := by
  unfold status
  refine (Stateful.alike_raiseIf h).bind ?_
  rintro _ _ s t - h
  refine Stateful.alike_get_bind ?_
  rcases h.find operationId with ⟨hs, ht⟩ | ⟨a, b, hs, ht, hsaved⟩
  · rw [hs, ht]
    exact Stateful.alike_throw h
  · rw [hs, ht]
    have agrees := agrees_of_saved hsaved
    have rto : (stored a.commitResponse).bind (·.get "rtoSeconds") =
        (stored b.commitResponse).bind (·.get "rtoSeconds") := by
      rcases stored_of_sorted agrees.commitResponse with ⟨hx, hy⟩ | ⟨r, r', hx, hy, hsame⟩
      · rw [hx, hy]
      · rw [hx, hy, Option.bind_some, Option.bind_some, ← Dict.get_sorted r, ← Dict.get_sorted r', hsame]
    dsimp only
    rw [agrees.phase, agrees.createdAt, agrees.captured, agrees.committedAt, rto]
    exact Stateful.alike_pure rfl h

/-! ## Sequences of requests -/

/-- A request of any kind. -/
inductive Asked : Type where
  | request (r : Request)
  | status (operationId : String)

def ask : Asked → Serving Dict
  | .request r => serve config driver rounds r
  | .status operationId => status operationId

/-- What the requests are answered, one after the other. -/
def replies : List Asked → State → Prog Op Answer (List (Except Raised Dict) × State)
  | [], s => .ret ([], s)
  | q :: qs, s => (Stateful.start (ask config driver rounds q) s).bind fun r =>
    (replies qs r.2).bind fun rs => .ret (r.1 :: rs.1, rs.2)

/-- The candidate id of the request is a text, unless the request is refused for it. -/
def TextCandidate : Asked → Prop
  | .request (.prepare _ request) => ∀ k, candidate request = some k → k.isText = true
  | _ => True

theorem alike_ask {q : Asked} (hq : TextCandidate q) (h : s.Same t) :
    Alike SameResponse (ask config driver rounds q) (ask config driver rounds q) s t := by
  cases q with
  | request r =>
    cases r with
    | prepare key request => exact alike_prepare config driver rounds hq h
    | commit operationId key request => exact alike_commit config driver rounds operationId key request h
  | status operationId => exact alike_status operationId h

/-- From either memory, the requests are answered the same. -/
theorem similar_replies {qs : List Asked} (hqs : ∀ q ∈ qs, TextCandidate q) (h : s.Same t) :
    (replies config driver rounds qs s).Similar SameOp
      (fun x y => List.Forall₂ (Stateful.SameEnd SameResponse) x.1 y.1 ∧ x.2.Same y.2)
      (replies config driver rounds qs t) := by
  induction qs generalizing s t with
  | nil => exact .ret ⟨.nil, h⟩
  | cons q qs ih =>
    refine Prog.Similar.bind (alike_ask config driver rounds (hqs q (by simp)) h) ?_
    rintro ⟨r, s⟩ ⟨r', t⟩ ⟨hr, h⟩
    refine (ih (fun q hq => hqs q (by simp [hq])) h).bind ?_
    rintro ⟨rs, s⟩ ⟨rs', t⟩ ⟨hrs, h⟩
    exact .ret ⟨.cons hr hrs, h⟩

end Alike

end Provider

/-! ## The state file -/

/-- The text of a float is not a hash. -/
theorem isHex64_reprFloat (x : Float) : isHex64 (reprFloat x) = false := by
  have marked {cs : List Char} (h : ∃ c ∈ cs, c = '.' ∨ c = '-' ∨ c = '+') : between isLowerHex 64 64 cs = false := by
    obtain ⟨c, hc, mark⟩ := h
    by_contra hex
    have lower := (between_iff.1 (by simpa using hex)).1 c hc
    rcases mark with rfl | rfl | rfl <;> exact absurd lower (by decide)
  unfold isHex64 reprFloat
  split
  · rename_i negative num den _
    rw [String.toList_ofList]
    refine marked ?_
    have body : ∃ c ∈ (if num = 0 then "0.0".toList else
        layOut (stripZeros (toString (shortest num den).1).toList)
          ((toString (shortest num den).1).toList.length - (shortest num den).2)), c = '.' ∨ c = '-' ∨ c = '+' := by
      split
      · exact ⟨'.', by decide, .inl rfl⟩
      · exact mark_mem_layOut ..
    obtain ⟨c, hc, mark⟩ := body
    refine ⟨c, ?_, mark⟩
    split
    · exact List.mem_cons_of_mem _ hc
    · exact hc
  · split <;> decide

namespace Operation

/-- What is stored of the requests and the responses has no floats, and no key twice. -/
structure Simple (a : Operation) : Prop where
  candidate : a.candidateId.simple = true
  prepareResponse : ∀ r, a.prepareResponse = some r → Json.simple (.obj r) = true
  owner : ∀ v, a.ownerResponseSha256 = some v → v.simple = true
  commitResponse : ∀ r, a.commitResponse = some r → Json.simple (.obj r) = true

/-- The fields of a record, each as long as it is present. -/
theorem simple_document {a : Operation} (h : a.Simple) : Json.simple (.obj a.document) = true := by
  have keys : (a.document.map Prod.fst).Sublist ["candidateId", "prepareKeySha256", "prepareRequestSha256",
      "phase", "createdAtUnixMs", "primaryTargetLsn", "targetCapturedAtUnixMs", "prepareResponse",
      "prepareResponseSha256", "commitKeySha256", "commitRequestSha256", "ownerResponseSha256",
      "commitResponse", "commitResponseSha256", "committedAtUnixMs"] := by
    have present (key : String) (value : Option Json) :
        ((value.map fun v => (key, v)).toList.map Prod.fst).Sublist [key] := by
      cases value with
      | none => exact List.nil_sublist _
      | some v => exact List.Sublist.refl _
    simp only [document, List.map_append]
    exact ((((((((((List.Sublist.refl _).append (present _ _)).append (present _ _)).append (present _ _)).append
      (present _ _)).append (present _ _)).append (present _ _)).append (present _ _)).append (present _ _)).append
      (present _ _)).append (present _ _)
  have nodup : (a.document.map Prod.fst).Nodup := keys.nodup (by decide)
  have field {key : String} {value : Option Json} (hv : ∀ v, value = some v → v.simple = true) :
      Json.simpleFields (value.map fun v => (key, v)).toList = true := by
    cases value with
    | none => rfl
    | some v => simp [Json.simpleFields, hv v rfl]
  have text {key : String} (value : Option String) :
      Json.simpleFields ((value.map Json.str).map fun v => (key, v)).toList = true := by
    cases value <;> rfl
  have int {key : String} (value : Option ℤ) :
      Json.simpleFields ((value.map Json.int).map fun v => (key, v)).toList = true := by
    cases value <;> rfl
  have response {key : String} {value : Option Dict} (hr : ∀ r, value = some r → Json.simple (.obj r) = true) :
      Json.simpleFields ((value.map Json.obj).map fun v => (key, v)).toList = true := by
    refine field fun v hv => ?_
    obtain ⟨r, hvalue, rfl⟩ := Option.map_eq_some_iff.1 hv
    exact hr r hvalue
  have phase : a.phase.json.simple = true := by cases a.phase <;> rfl
  rw [Json.simple, Bool.and_eq_true, decide_eq_true_eq]
  refine ⟨nodup, ?_⟩
  simp only [document, Json.simpleFields_append, Json.simpleFields, Json.simple, h.candidate, phase, text,
    int, response h.prepareResponse, response h.commitResponse, field h.owner, Bool.and_self]

theorem simple_opened {k : OpKey} (hk : k.isText = true) (key request : String) (createdAt : ℤ) :
    (opened k.json key request createdAt).Simple where
  candidate := by cases k <;> first | rfl | cases hk
  prepareResponse := nofun
  owner := nofun
  commitResponse := nofun

theorem simple_prepareResponse {id : Json} (target replay : String) (h : id.simple = true) :
    Json.simple (.obj (FailoverProvider.prepareResponse id target replay)) = true := by
  rw [Json.simple, Bool.and_eq_true]
  exact ⟨rfl, by simp [FailoverProvider.prepareResponse, Json.simpleFields, Json.simple, h]⟩

theorem simple_commitResponse (config : Config) (operationId : String) (capturedAt committedAt : ℤ) :
    Json.simple (.obj (Provider.measured (FailoverProvider.commitResponse config operationId)
      capturedAt committedAt)) = true := by
  rfl

/-- The hash of an owner is a text or an integer. -/
theorem simple_owner {owner : Json} {text : String} (howner : owner.text = some text)
    (hex : isHex64 text = true) : owner.simple = true := by
  cases owner with
  | float x =>
    obtain rfl := Option.some.inj howner
    rw [isHex64_reprFloat] at hex
    cases hex
  | arr items => cases howner
  | obj fields => cases howner
  | _ => rfl

theorem Change.simple {k : OpKey} {a b : Operation} (change : Change k a b) (hk : k.isText = true)
    (h : a.Simple) : b.Simple := by
  cases change with
  | capture => exact { h with }
  | @prepare id target replay open_ targeted same =>
    have hid : id.simple = true := by
      cases k with
      | text u => cases id <;> first | rfl | simp [OpKey.json, Json.eq, Json.number] at same
      | _ => cases hk
    exact { h with
      prepareResponse := fun r hr => Option.some.inj hr ▸ simple_prepareResponse target replay hid }
  | bind request first prepared hne howner hex =>
    exact { h with owner := fun v hv => Option.some.inj hv ▸ simple_owner howner hex }
  | commit config operationId capturedAt committedAt open_ hbound prepared =>
    exact { h with
      commitResponse := fun r hr =>
        Option.some.inj hr ▸ simple_commitResponse config operationId capturedAt committedAt }

theorem Simple.saved {a : Operation} (h : a.Simple) : a.saved.Simple where
  candidate := h.candidate
  prepareResponse r hr := by
    obtain ⟨r', hr', rfl⟩ := Option.map_eq_some_iff.1 hr
    rw [Json.simple_sorted]
    exact h.prepareResponse r' hr'
  owner := h.owner
  commitResponse r hr := by
    obtain ⟨r', hr', rfl⟩ := Option.map_eq_some_iff.1 hr
    rw [Json.simple_sorted]
    exact h.commitResponse r' hr'

/-- But for the order of members, the dictionary of a record is what is read back. -/
theorem canonical_saved (a : Operation) :
    Json.canonical (.obj a.saved.document) = Json.canonical (.obj a.document) := by
  have response (key : String) (value : Option Dict) :
      Json.canonicalFields (((value.map Dict.sorted).map Json.obj).map fun v => (key, v)).toList =
        Json.canonicalFields ((value.map Json.obj).map fun v => (key, v)).toList := by
    cases value with
    | none => rfl
    | some r => simp [Json.canonicalFields, Json.canonical_sorted]
  have fields : Json.canonicalFields a.saved.document = Json.canonicalFields a.document := by
    simp only [document, Json.canonicalFields_append, saved, response]
  exact congrArg (fun fields => Json.obj (Dict.sorted fields)) fields

end Operation

namespace State

/-- The keys are texts, each there once, and the records are simple: `json` reads the state unchanged. -/
structure Legible (s : State) : Prop where
  texts : ∀ entry ∈ s, entry.1.isText = true
  distinct : (s.map fun entry => entry.1.dumped).Nodup
  simple : ∀ entry ∈ s, entry.2.Simple

variable {s s' : State} {k : OpKey}

theorem legible_nil : Legible [] where
  texts := by simp
  distinct := List.nodup_nil
  simple := by simp

theorem keys_modify (s : State) (k : OpKey) (f : Operation → Operation) :
    (s.modify k f).map Prod.fst = s.map Prod.fst := by
  induction s with
  | nil => rfl
  | cons e s ih =>
    unfold modify
    split
    · rfl
    · rw [List.map_cons, List.map_cons, ih]

/-- A key that is not found differs from all keys. -/
theorem find_eq_none (h : s.find k = none) : ∀ entry ∈ s, entry.1 ≠ k := by
  rintro entry hentry rfl
  rw [find, Option.map_eq_none_iff, List.find?_eq_none] at h
  exact h entry hentry (by simp)

theorem Update.legible (update : Update k s s') (hk : k.isText = true) (h : Legible s) : Legible s' := by
  cases update with
  | insert key request createdAt fresh =>
    have new := find_eq_none fresh
    refine ⟨?_, ?_, ?_⟩
    · intro entry hentry
      rcases List.mem_append.1 hentry with hmem | hmem
      · exact h.texts entry hmem
      · rw [List.mem_singleton.1 hmem]
        exact hk
    · rw [State.insert, List.map_append, List.nodup_append]
      refine ⟨h.distinct, List.nodup_singleton _, ?_⟩
      intro t ht t' ht'
      obtain ⟨entry, hentry, rfl⟩ := List.mem_map.1 ht
      obtain rfl := List.mem_singleton.1 ht'
      have text := h.texts entry hentry
      have hne := new entry hentry
      cases hl : entry.1 with
      | text u =>
        cases k with
        | text v => simpa [hl, OpKey.dumped] using hne
        | _ => cases hk
      | _ => simp [hl, OpKey.isText] at text
    · intro entry hentry
      rcases List.mem_append.1 hentry with hmem | hmem
      · exact h.simple entry hmem
      · rw [List.mem_singleton.1 hmem]
        exact Operation.simple_opened hk ..
  | @modify f a found change =>
    have keys := keys_modify s k f
    refine ⟨?_, ?_, ?_⟩
    · intro entry hentry
      have hmem : entry.1 ∈ s.map Prod.fst := keys ▸ List.mem_map_of_mem hentry
      obtain ⟨e, he, heq⟩ := List.mem_map.1 hmem
      rw [← heq]
      exact h.texts e he
    · have dumped (s : State) : (s.map fun entry => entry.1.dumped) = (s.map Prod.fst).map OpKey.dumped := by
        rw [List.map_map]
        rfl
      rw [dumped, keys, ← dumped]
      exact h.distinct
    · intro entry hentry
      rcases mem_modify hentry with hmem | ⟨b, hb, heq⟩
      · exact h.simple entry hmem
      · obtain ⟨l, -, hl⟩ := exists_mem_of_find hb
        rw [found] at hb
        obtain rfl := Option.some.inj hb
        rw [heq]
        exact change.simple hk (h.simple _ hl)

theorem Legible.saved (h : Legible s) : Legible (State.saved s) where
  texts := saved_texts s
  distinct := by
    have dumped : (State.saved s).map (fun entry => entry.1.dumped) = s.map fun entry => entry.1.dumped := by
      rw [State.saved, List.map_map]
      rfl
    rw [dumped]
    exact h.distinct
  simple := by
    intro entry hentry
    obtain ⟨e, he, rfl⟩ := List.mem_map.1 hentry
    exact (h.simple e he).saved

theorem Legible.plain_document (h : Legible s) (dumpable : s.dumpable = true) : s.document.plain = true := by
  have printable := List.all_eq_true.1 (Bool.and_eq_true_iff.1 dumpable).2
  have operations : Json.plain (.obj (s.map fun entry => (entry.1.dumped, .obj entry.2.document))) = true := by
    rw [Json.plain_obj_iff, List.map_map]
    refine ⟨h.distinct, ?_⟩
    intro kv hkv
    obtain ⟨entry, hentry, rfl⟩ := List.mem_map.1 hkv
    rw [Json.plain, Bool.and_eq_true]
    exact ⟨Operation.simple_document (h.simple entry hentry), printable entry hentry⟩
  rw [document, Json.plain_obj_iff]
  refine ⟨by simp, ?_⟩
  simp only [List.forall_mem_cons]
  exact ⟨by decide, operations, nofun⟩

/-- But for the order of members, what is read back is the state that was saved. -/
theorem canonical_saved (s : State) : (State.saved s).document.canonical = s.document.canonical := by
  have entries : Json.canonicalFields ((State.saved s).map fun entry => (entry.1.dumped, .obj entry.2.document)) =
      Json.canonicalFields (s.map fun entry => (entry.1.dumped, .obj entry.2.document)) := by
    induction s with
    | nil => rfl
    | cons e s ih =>
      rw [State.saved, List.map_cons, List.map_cons, List.map_cons, Json.canonicalFields, Json.canonicalFields,
        Operation.canonical_saved]
      exact congrArg _ ih
  simp only [document, Json.canonical, Json.canonicalFields, entries]

/-- `load_json` reads the state that was saved. -/
theorem Legible.loads_stateFile (h : Legible s) (dumpable : s.dumpable = true) :
    Json.loads s.stateFile = some (State.saved s).document.canonical := by
  rw [canonical_saved]
  exact Json.loads_dumps_append true (h.plain_document dumpable) "\n" (Json.stops_cons (c := '\n') [] (by decide)) rfl

/-- What is read back is the same dictionary. -/
theorem Legible.same_saved (h : Legible s) : Same s (State.saved s) := by
  intro u
  have twice (a : Operation) : a.saved.saved = a.saved := by
    simp [Operation.saved, Function.comp_def, Dict.sorted_sorted]
  have htexts := h.texts
  clear h
  induction s with
  | nil => rfl
  | cons e s ih =>
    rw [List.forall_mem_cons] at htexts
    obtain ⟨l, a⟩ := e
    cases l with
    | text v =>
      change _ = (find ((.text v, a.saved) :: State.saved s) _).map _
      rw [find_cons, find_cons]
      split
      · exact congrArg some (twice a).symm
      · exact ih htexts.2
    | _ => exact absurd htexts.1 (by simp [OpKey.isText])

end State

namespace Provider

variable {config : Config} {driver : Driver} {rounds : ℕ}

/-! ## Runs -/

theorem Progress.legible {k : OpKey} {m s : State} {tr : Trace Op Answer} (h : Progress k m tr s)
    (hk : k.isText = true) (legible : m.Legible) : s.Legible := by
  induction h with
  | start => exact legible
  | event _ _ _ ih => exact ih
  | saved _ update ih => exact update.legible hk ih

theorem isText_operation {r : Request} (h : TextCandidate (.request r)) : r.operation.isText = true := by
  cases r with
  | prepare key request =>
    change ((candidate request).getD (.text "")).isText = true
    cases hk : candidate request with
    | none => rfl
    | some k => exact h k hk
  | commit => rfl

/-- While all candidate ids are texts and all saves succeed, the memory is what the file holds, and legible. -/
theorem run_legible {calls : List ServiceCall} {s : State} {d : Option State}
    (run : (service config driver rounds).Run calls s d)
    (texts : ∀ c ∈ calls, TextCandidate (.request c.request)) (succeed : ∀ c ∈ calls, SavesSucceed c) :
    Clean s d ∧ s.Legible := by
  have load {s : State} {d : Option State} (h : Clean s d ∧ s.Legible) :
      Clean (loadJson d) d ∧ (loadJson d).Legible := ⟨h.1.load, h.1.saved ▸ h.2.saved⟩
  refine run.invariant (I := fun s d => Clean s d ∧ s.Legible) (fun d hd => ?_) (fun c hc v h => ?_)
    (fun s d h => load h) ?_
  · rw [show d = none from hd]
    exact ⟨clean_nil, State.legible_nil⟩
  · obtain ⟨clean, legible⟩ := h
    obtain ⟨s, progress, hended⟩ := ended_progress v clean.wellFormed (succeed c hc)
    have after := clean.progress progress v.answered
    have legible := progress.legible (isText_operation (texts c hc)) legible
    rcases hended with he | he
    · rw [he]
      exact ⟨after, legible⟩
    · rw [he]
      exact load ⟨after, legible⟩
  · rintro s d _ h rfl
    exact h

/-- A restart between the memory `s` and the state file `d` changes nothing. -/
structure Transparent (config : Config) (driver : Driver) (rounds : ℕ) (s : State) (d : Option State) : Prop where
  texts : ∀ entry ∈ s, entry.1.isText = true
  same : s.Same (loadJson d)
  /-- What `json.dumps` writes of the memory, `json.loads` reads as the dictionary of the file. -/
  reads : Json.loads s.stateFile = some (loadJson d).document.canonical
  /-- Later requests are answered the same, on the same answers of the platform. -/
  replies : ∀ qs, (∀ q ∈ qs, TextCandidate q) → (replies config driver rounds qs s).Similar SameOp
    (fun x y => List.Forall₂ (Stateful.SameEnd SameResponse) x.1 y.1 ∧ x.2.Same y.2)
    (replies config driver rounds qs (loadJson d))

/-- While all candidate ids are texts and all saves succeed, a restart changes nothing. -/
theorem run_transparent {calls : List ServiceCall} {s : State} {d : Option State}
    (run : (service config driver rounds).Run calls s d)
    (texts : ∀ c ∈ calls, TextCandidate (.request c.request)) (succeed : ∀ c ∈ calls, SavesSucceed c) :
    Transparent config driver rounds s d := by
  obtain ⟨clean, legible⟩ := run_legible run texts succeed
  have same : s.Same (loadJson d) := clean.saved ▸ legible.same_saved
  exact {
    texts := legible.texts
    same := same
    reads := clean.saved ▸ legible.loads_stateFile clean.dumpable
    replies := fun qs hqs => similar_replies config driver rounds hqs same }

theorem run_transparent_failover : ∃ calls s d,
    (service Deployment.config (.docker Deployment.dockerSettings) 3).Run calls s d ∧
      calls.map Call.request = [Deployment.prepareCall, Deployment.commitCall] ∧
      Transparent Deployment.config (.docker Deployment.dockerSettings) 3 s d := by
  let requests := [Deployment.prepareCall, Deployment.commitCall]
  have run := Deployment.played_run requests []
  have observed : ∀ c ∈ Deployment.calls requests [],
      c.request.operation.isText = true ∧ c.tr.any failedSave = false := by
    decide +kernel
  have texts : ∀ c ∈ Deployment.calls requests [], TextCandidate (.request c.request) := by
    intro c hc
    have hrequest : c.request ∈ requests := List.mem_map_of_mem (f := Call.request) hc
    have known := (observed c hc).1
    simp only [requests, List.mem_cons, List.not_mem_nil, or_false] at hrequest
    rcases hrequest with hr | hr
    · rw [hr] at known ⊢
      intro k hk
      change ((candidate Deployment.prepareRequest).getD (.text "")).isText = true at known
      rwa [hk] at known
    · rw [hr]
      trivial
  have succeed : ∀ c ∈ Deployment.calls requests [], SavesSucceed c :=
    fun c hc => savesSucceed_of_any (observed c hc).2
  exact ⟨_, _, _, run, rfl, run_transparent run texts succeed⟩

/-! ## A candidate id that is a number -/

theorem start_status {operationId : String} {s : State} (safe : isSafeId operationId = true) :
    (∃ e, s.find (.text operationId) = none ∧
      Stateful.start (status operationId) s = .ret (.error e, s)) ∨
    ∃ a r, s.find (.text operationId) = some a ∧
      Stateful.start (status operationId) s = .ret (.ok r, s) := by
  unfold status
  rw [Stateful.start_continues (by simp [safe]), Stateful.start_get_bind]
  cases s.find (.text operationId) with
  | none => exact .inl ⟨_, rfl, rfl⟩
  | some a => exact .inr ⟨a, _, rfl, rfl⟩

def numberCall : Request :=
  .prepare "prepare-key-0001" (Deployment.prepareRequest.set "candidateId" (.int 1234567890123))

/-- The memory knows the candidate as a number and the state file as a text, so its status is unknown
before a restart only. -/
theorem not_transparent : ¬∀ (config : Config) (driver : Driver) (rounds : ℕ) (calls : List ServiceCall)
    (s : State) (d : Option State), (service config driver rounds).Run calls s d →
      (∀ c ∈ calls, SavesSucceed c) → Transparent config driver rounds s d := by
  intro always
  have run := Deployment.played_run [numberCall] []
  have observed : (∀ c ∈ Deployment.calls [numberCall] [], c.tr.any failedSave = false) ∧
      ((Deployment.left [numberCall] []).find (.text "1234567890123")).isNone = true ∧
      ((loadJson (Deployment.file [numberCall] [])).find (.text "1234567890123")).isSome = true := by
    decide +kernel
  obtain ⟨succeed, unknown, known⟩ := observed
  have transparent := always _ _ _ _ _ _ run fun c hc => savesSucceed_of_any (succeed c hc)
  have similar := transparent.replies [.status "1234567890123"] (by simp [TextCandidate])
  have safe : isSafeId "1234567890123" = true := by decide
  unfold replies ask at similar
  rcases start_status (s := Deployment.left [numberCall] []) safe with ⟨e, -, hs⟩ | ⟨a, r, hs, -⟩
  · rcases start_status (s := loadJson (Deployment.file [numberCall] [])) safe with ⟨e, ht, -⟩ | ⟨a, r, -, ht⟩
    · simp [ht] at known
    · rw [hs, ht] at similar
      cases similar with
      | ret h =>
        cases h.1 with
        | cons h _ => exact h
  · simp [hs] at unknown

end Provider

end Zkdeal.FailoverProvider
