import Zkdeal.OwnerSoak.Admissions
import Zkdeal.OwnerSoak.Pacer

/-!
# Admissions over kills

Whatever the services answer, and wherever the workers are killed: what is sent for an admission was saved before
(`sent_as_saved`), no nonce of an L2 transaction is sent with two requests (`posted_once`), and a deposit is only
replaced after the request for its admission was sent (`deposit_replaced_after_post`).
-/

namespace Zkdeal.OwnerSoak

open Python Json Soak Interaction Stateful

/-! ## Histories -/

theorem forall_splits_concat {α : Type} {P : List α → α → Prop} {l : List α} {a : α} :
    (∀ pre b post, l ++ [a] = pre ++ b :: post → P pre b) ↔ (∀ pre b post, l = pre ++ b :: post → P pre b) ∧ P l a := by
  constructor
  · intro h
    refine ⟨fun pre b post hl => h pre b (post ++ [a]) ?_, h l a [] rfl⟩
    rw [hl, List.append_assoc, List.cons_append]
  · rintro ⟨earlier, last⟩ pre b post hl
    rcases List.eq_nil_or_concat post with rfl | ⟨post, c, rfl⟩
    · obtain ⟨rfl, hab⟩ := List.append_inj' hl rfl
      obtain rfl := List.singleton_inj.1 hab
      exact last
    · rw [List.concat_eq_append, ← List.cons_append, ← List.append_assoc] at hl
      exact earlier pre b post (List.append_inj_left' hl rfl)

/-- An operation of a worker, with its answer and the files it found. -/
structure Moment where
  before : Disk
  event : Interaction.Event Op Answer

/-- The operation of a moment. -/
abbrev Moment.op (m : Moment) : Op := m.event.1

/-- The files of a run, and all that its workers did. -/
structure Chronicle where
  disk : Disk
  history : List Moment

namespace Chronicle

/-- No run has started. -/
def empty : Chronicle := ⟨.empty, []⟩

/-- The world after an operation. -/
def after (w : Chronicle) (o : Op) (r : Answer o) : Chronicle := ⟨w.disk.after o, w.history ++ [⟨w.disk, ⟨o, r⟩⟩]⟩

/-- The checks of a request raise texts of their own, and none of them tells of a refusal. -/
def Speaks : (o : Op) → Answer o → Prop
  | .prepare _, some error => occursIn "admission was refused" error = false
  | _, _ => True

/-- The surroundings keep the files; the services answer anything. -/
def env : Env Op Answer Chronicle := fun w o r w' => w.disk.Reads o r ∧ Speaks o r ∧ w' = w.after o r

theorem persistent : Persistent env disk where
  reads := fun h => h.1
  after := fun h => congrArg disk h.2.2

end Chronicle

/-! ## Records -/

/-- A key of the record of an admission. -/
def IsAdmissionKey (key : String) : Prop := "admission:".toList <+: key.toList

/-- The record of a key. -/
def recordOf (s : DriverState) (key : String) : Dict := dictOf ((s.data.get key).getD .null)

/-- The deposit of a record. -/
def depositIn (record : Dict) : Dict := dictOf (item record "deposit")

/-- The request of a record. -/
def requestIn (record : Dict) : Option Dict :=
  match item record "request" with
  | .obj request => some request
  | _ => none

/-- The deposit of a key. -/
def depositOf (s : DriverState) (key : String) : Dict := depositIn (recordOf s key)

/-- The request of a key. -/
def requestOf (s : DriverState) (key : String) : Option Dict := requestIn (recordOf s key)

/-- The next L2 nonce. -/
def nonceOf (s : DriverState) : ℤ :=
  match s.data.get "l2TransactionNonce" with
  | some (.int n) => n
  | _ => 0

/-- The L2 nonces are counted from zero. -/
def Counts (s : DriverState) : Prop :=
  s.data.get "l2TransactionNonce" = none ∨ ∃ n, 0 ≤ n ∧ s.data.get "l2TransactionNonce" = some (.int n)

/-- The signed transaction has the nonce. -/
def HasNonce (raw : String) (n : ℤ) : Prop :=
  ∃ (t : LegacyTransaction) (key : PrivateKey) (hash : String), t.nonce = n ∧ signLegacyTransaction t key = .ok (raw, hash)

/-- What a request for an admission says. -/
structure AdmissionRequest where
  rawSignedTransaction : String
  depositInboxId : String
  deadlineBlock : String
  maximumBatchIndex : String
  admissionFee : String
  transactionHash : String
  l2Nonce : ℤ
  headBlock : String
  hasNonce : HasNonce rawSignedTransaction l2Nonce

namespace AdmissionRequest

/-- The request as it is saved. -/
def saved (q : AdmissionRequest) : Dict :=
  [("rawSignedTransaction", .str q.rawSignedTransaction), ("depositInboxId", .str q.depositInboxId),
    ("deadlineBlock", .str q.deadlineBlock), ("maximumBatchIndex", .str q.maximumBatchIndex),
    ("admissionFee", .str q.admissionFee), ("transactionHash", .str q.transactionHash), ("l2Nonce", .int q.l2Nonce),
    ("headBlock", .str q.headBlock)]

/-- The body that is sent. -/
def body (q : AdmissionRequest) : Json :=
  .obj [("rawSignedTransaction", .str q.rawSignedTransaction), ("depositInboxId", .str q.depositInboxId),
    ("deadlineBlock", .str q.deadlineBlock), ("maximumBatchIndex", .str q.maximumBatchIndex), ("admissionFee", .str q.admissionFee)]

theorem saved_injective : Function.Injective saved := by
  rintro ⟨a, b, c, d, e, f, g, h, _⟩ ⟨a', b', c', d', e', f', g', h', _⟩ same
  simp only [saved, List.cons.injEq, Prod.mk.injEq, Json.str.injEq, Json.int.injEq, true_and, and_true] at same
  obtain ⟨rfl, rfl, rfl, rfl, rfl, rfl, rfl, rfl⟩ := same
  rfl

end AdmissionRequest

/-- The state has this request under the key. -/
def Requests (s : DriverState) (key : String) (q : AdmissionRequest) : Prop :=
  IsAdmissionKey key ∧ requestOf s key = some q.saved

/-- The state has a deposit with this signed transaction under the key. -/
def Deposits (s : DriverState) (key : String) (raw : Json) : Prop :=
  IsAdmissionKey key ∧ (depositOf s key).get "rawTransaction" = some raw

/-! ## What may be done -/

/-- A request for an admission. -/
def IsPost (r : Request) : Prop := ∃ roomId, r.endpoint = "coordinator" ∧ r.method = "POST" ∧ r.path = Workload.admissionPath roomId

/-- The broadcast of a signed transaction. -/
def IsBroadcast (r : Request) (raw : Json) : Prop := r.body = some (l1Body "eth_sendRawTransaction" [raw])

/-- A worker saved the request. -/
def Recorded (history : List Moment) (key : String) (q : AdmissionRequest) : Prop :=
  ∃ m ∈ history, ∃ s, m.op = .save s ∧ Requests s key q

/-- A worker sent the request. -/
def Posted (history : List Moment) (q : AdmissionRequest) : Prop :=
  ∃ m ∈ history, ∃ r, m.op = .send r ∧ IsPost r ∧ r.body = some q.body

/-- A state may be saved after another one. -/
structure Advances (history : List Moment) (s s' : DriverState) : Prop where
  counts : Counts s'
  grows : nonceOf s ≤ nonceOf s'
  /-- A new request is the only one, and it has a nonce of its own. -/
  request : ∀ key, IsAdmissionKey key → requestOf s' key = requestOf s key ∨ requestOf s' key = none ∨
    ∃ q : AdmissionRequest, requestOf s' key = some q.saved ∧ q.l2Nonce + 1 = nonceOf s' ∧
      (∀ key' p, Recorded history key' p → p.l2Nonce < q.l2Nonce) ∧ ∀ key' ≠ key, requestOf s' key' = requestOf s key'
  /-- A deposit is kept until its request was sent. -/
  deposit : ∀ key raw, Deposits s key raw → raw.truthy = true →
    Deposits s' key raw ∨ ∃ q : AdmissionRequest, Requests s key q ∧ Posted history q

/-- What a worker may do, after a history. -/
def Lawful (w : Chronicle) : Op → Prop
  | .save s' => (w.disk.state = none → s'.data = []) ∧ ∀ s, w.disk.state = some s → Advances w.history s s'
  | .send r =>
    (IsPost r → ∃ s step roomId index, ∃ q : AdmissionRequest, w.disk.state = some s ∧ isDecimal roomId.toList = true ∧
      Requests s (Workload.stateKey step roomId index) q ∧ Recorded w.history (Workload.stateKey step roomId index) q ∧
      r.path = Workload.admissionPath roomId ∧ r.body = some q.body) ∧
    ∀ raw, IsBroadcast r raw → ∃ s key, w.disk.state = some s ∧ Deposits s key raw
  | _ => True

/-- The world of workers that only did what they may do. -/
structure Orderly (w : Chronicle) : Prop where
  lawful : ∀ pre m post, w.history = pre ++ m :: post → Lawful ⟨m.before, pre⟩ m.op
  saved : ∀ s, w.disk.state = some s → ∃ m ∈ w.history, m.op = .save s
  counts : ∀ s, w.disk.state = some s → Counts s
  requests : ∀ s key q, w.disk.state = some s → IsAdmissionKey key → requestOf s key = some q → ∃ p : AdmissionRequest, q = p.saved
  bounded : ∀ key q, Recorded w.history key q → ∃ s, w.disk.state = some s ∧ q.l2Nonce < nonceOf s
  distinct : ∀ key q key' q', Recorded w.history key q → Recorded w.history key' q' → q.l2Nonce = q'.l2Nonce →
    key = key' ∧ q.saved = q'.saved

/-! ## Saves -/

section Saves

variable {w : Chronicle} {s s' : DriverState} {key : String} {record : Dict} {q : AdmissionRequest} {raw : Json}

end Saves

/-! ## Steps -/

section Steps

variable {w w' : Chronicle}

/-- The operation saves no state. -/
def Op.keeps : Op → Bool
  | .save _ => false
  | _ => true

theorem Chronicle.after_state {o : Op} (h : o.keeps = true) (r : Answer o) : (w.after o r).disk.state = w.disk.state := by
  cases o <;> first | rfl | cases h

theorem recorded_after_iff {o : Op} {r : Answer o} {key : String} {q : AdmissionRequest} :
    Recorded (w.after o r).history key q ↔ Recorded w.history key q ∨ ∃ s, o = .save s ∧ Requests s key q := by
  unfold Recorded Chronicle.after
  simp only [List.mem_append, List.mem_singleton, or_and_right, exists_or, exists_eq_left]

theorem Orderly.no_record (h : Orderly w) (none : w.disk.state = none) (key : String) (q : AdmissionRequest) :
    ¬Recorded w.history key q := by
  intro hq
  obtain ⟨s, hs, -⟩ := h.bounded key q hq
  rw [none] at hs
  cases hs

theorem Orderly.recorded (h : Orderly w) {s : DriverState} (hs : w.disk.state = some s) {key : String} {q : AdmissionRequest}
    (hq : Requests s key q) : Recorded w.history key q := by
  obtain ⟨m, hm, hop⟩ := h.saved s hs
  exact ⟨m, hm, s, hop, hq⟩

/-- What a state that may be saved requests was recorded before, or is the one new request. -/
theorem Orderly.requested (h : Orderly w) {s' : DriverState} (allowed : Lawful w (.save s')) {key : String} {q : AdmissionRequest}
    (hq : Requests s' key q) : Recorded w.history key q ∨ q.l2Nonce + 1 = nonceOf s' ∧
      (∀ key' p, Recorded w.history key' p → p.l2Nonce < q.l2Nonce) ∧
      ∀ key' ≠ key, ∀ p, Requests s' key' p → Recorded w.history key' p := by
  obtain ⟨fresh, advances⟩ := allowed
  cases hs : w.disk.state with
  | none =>
    have hdata := fresh hs
    have hrequest := hq.2
    rw [requestOf, recordOf, hdata] at hrequest
    cases hrequest
  | some s =>
    rcases (advances s hs).request key hq.1 with same | gone | ⟨p, hp, hnonce, unused, others⟩
    · exact .inl (h.recorded hs ⟨hq.1, same.symm.trans hq.2⟩)
    · rw [hq.2] at gone
      cases gone
    · obtain rfl := AdmissionRequest.saved_injective (Option.some.inj (hp.symm.trans hq.2))
      exact .inr ⟨hnonce, unused, fun key' hne p' hp' => h.recorded hs ⟨hp'.1, (others key' hne).symm.trans hp'.2⟩⟩

theorem Orderly.lawful_after (h : Orderly w) {o : Op} (allowed : Lawful w o) (r : Answer o) :
    ∀ pre m post, (w.after o r).history = pre ++ m :: post → Lawful ⟨m.before, pre⟩ m.op :=
  forall_splits_concat.2 ⟨h.lawful, allowed⟩

theorem Orderly.save (h : Orderly w) {s' : DriverState} (allowed : Lawful w (.save s')) : Orderly (w.after (.save s') ()) where
  lawful := h.lawful_after allowed ()
  saved := by
    rintro s hs
    obtain rfl := Option.some.inj hs
    exact ⟨_, List.mem_append_right _ (List.mem_singleton_self _), rfl⟩
  counts := by
    rintro s hs
    obtain rfl := Option.some.inj hs
    cases hstate : w.disk.state with
    | none => exact .inl (by rw [allowed.1 hstate]; rfl)
    | some s => exact (allowed.2 s hstate).counts
  requests := by
    rintro s key q hs hkey hq
    obtain rfl := Option.some.inj hs
    cases hstate : w.disk.state with
    | none =>
      rw [requestOf, recordOf, allowed.1 hstate] at hq
      cases hq
    | some s =>
      rcases (allowed.2 s hstate).request key hkey with same | gone | ⟨p, hp, -⟩
      · exact h.requests s key q hstate hkey (same.symm.trans hq)
      · rw [hq] at gone
        cases gone
      · exact ⟨p, Option.some.inj (hq.symm.trans hp)⟩
  bounded := by
    intro key q hq
    refine ⟨s', rfl, ?_⟩
    have older (hq : Recorded w.history key q) : q.l2Nonce < nonceOf s' := by
      obtain ⟨s, hs, hlt⟩ := h.bounded key q hq
      exact hlt.trans_le (allowed.2 s hs).grows
    rcases recorded_after_iff.1 hq with hq | ⟨s, hs, hq⟩
    · exact older hq
    · cases hs
      rcases h.requested allowed hq with hq | ⟨hnonce, -⟩
      · exact older hq
      · omega
  distinct := by
    intro key q key' q' hq hq' same
    rcases recorded_after_iff.1 hq with hq | ⟨s, hs, hq⟩
    · rcases recorded_after_iff.1 hq' with hq' | ⟨s, hs, hq'⟩
      · exact h.distinct key q key' q' hq hq' same
      · cases hs
        rcases h.requested allowed hq' with hq' | ⟨-, unused, -⟩
        · exact h.distinct key q key' q' hq hq' same
        · have := unused key q hq
          omega
    · cases hs
      rcases recorded_after_iff.1 hq' with hq' | ⟨s, hs, hq'⟩
      · rcases h.requested allowed hq with hq | ⟨-, unused, -⟩
        · exact h.distinct key q key' q' hq hq' same
        · have := unused key' q' hq'
          omega
      · cases hs
        by_cases hkey : key = key'
        · subst hkey
          exact ⟨rfl, Option.some.inj (hq.2.symm.trans hq'.2)⟩
        · rcases h.requested allowed hq with hq | ⟨-, unused, others⟩
          · rcases h.requested allowed hq' with hq' | ⟨-, unused, -⟩
            · exact h.distinct key q key' q' hq hq' same
            · have := unused key q hq
              omega
          · have := unused key' q' (others key' (Ne.symm hkey) q' hq')
            omega

theorem Orderly.keep (h : Orderly w) {o : Op} (keeps : o.keeps = true) (allowed : Lawful w o) (r : Answer o) :
    Orderly (w.after o r) := by
  have recorded {key : String} {q : AdmissionRequest} (hq : Recorded (w.after o r).history key q) : Recorded w.history key q := by
    rcases recorded_after_iff.1 hq with hq | ⟨s, rfl, -⟩
    · exact hq
    · cases keeps
  refine ⟨h.lawful_after allowed r, ?_, ?_, ?_, ?_, ?_⟩
  · rw [Chronicle.after_state keeps]
    intro s hs
    obtain ⟨m, hm, hop⟩ := h.saved s hs
    exact ⟨m, List.mem_append_left _ hm, hop⟩
  · rw [Chronicle.after_state keeps]
    exact h.counts
  · rw [Chronicle.after_state keeps]
    exact h.requests
  · rw [Chronicle.after_state keeps]
    exact fun key q hq => h.bounded key q (recorded hq)
  · exact fun key q key' q' hq hq' => h.distinct key q key' q' (recorded hq) (recorded hq')

theorem Orderly.step (h : Orderly w) {o : Op} {r : Answer o} (allowed : Lawful w o) (step : Chronicle.env w o r w') : Orderly w' := by
  obtain ⟨-, -, rfl⟩ := step
  cases o with
  | save s' => exact h.save allowed
  | _ => exact h.keep rfl allowed r

end Steps

/-! ## Programs that leave the state -/

/-- A predicate that everything keeps but saves. -/
structure Steady (I : Worker → Chronicle → Prop) : Prop where
  state : ∀ {s s' w}, s'.state = s.state → I s w → I s' w
  step : ∀ {s w o r w'}, o.keeps = true → Lawful w o → Chronicle.env w o r w' → I s w → I s w'

theorem Steady.and {I J : Worker → Chronicle → Prop} (hI : Steady I) (hJ : Steady J) : Steady fun s w => I s w ∧ J s w :=
  ⟨fun same h => ⟨hI.state same h.1, hJ.state same h.2⟩, fun keeps allowed step h =>
    ⟨hI.step keeps allowed step h.1, hJ.step keeps allowed step h.2⟩⟩

/-- An operation that is always allowed. -/
def Op.harmless : Op → Prop
  | .save _ => False
  | .send r => ¬IsPost r ∧ ∀ raw, ¬IsBroadcast r raw
  | _ => True

theorem Op.harmless.keeps {o : Op} (h : o.harmless) : o.keeps = true := by
  cases o <;> first | rfl | exact h.elim

theorem Op.harmless.allowed {o : Op} (h : o.harmless) (w : Chronicle) : Lawful w o := by
  cases o with
  | save _ => exact h.elim
  | send r => exact ⟨fun post => absurd post h.1, fun raw broadcast => absurd broadcast (h.2 raw)⟩
  | _ => trivial

/-- The program saves nothing, sends nothing of an admission, and returns only values that satisfy `P`. -/
structure Calm {α : Type} (x : Driver α) (P : α → Prop) : Prop where
  keeps : ∀ {I s w}, Steady I → I s w → Keeps Chronicle.env Lawful x (fun a s' w' => P a ∧ I s' w') (fun _ => I) s w

section Calm

variable {α β : Type} {P : α → Prop} {Q : β → Prop}

theorem Calm.bind {x : Driver α} {f : α → Driver β} (hx : Calm x P) (hf : ∀ a, P a → Calm (f a) Q) : Calm (x >>= f) Q :=
  ⟨fun steady hI => (hx.keeps steady hI).bind fun a _ _ h => (hf a h.1).keeps steady h.2⟩

theorem Calm.mono {P' : α → Prop} {x : Driver α} (hx : Calm x P) (h : ∀ a, P a → P' a) : Calm x P' :=
  ⟨fun steady hI => (hx.keeps steady hI).mono (fun _ _ h => h) (fun a _ _ ha => ⟨h a ha.1, ha.2⟩) fun _ _ _ h => h⟩

end Calm

/-! ## Reading the chain -/

namespace Workload

variable {wl : Workload}

end Workload

/-! ## Programs that save -/

/-- The worker, with its state on disk, in an orderly world. -/
structure At (st : DriverState) (s : Worker) (w : Chronicle) : Prop where
  state : s.state = st
  disk : w.disk.state = some st
  orderly : Orderly w

section Worker

variable {st : DriverState} {s : Worker} {w w' : Chronicle} {key : String} {q : AdmissionRequest}

theorem Posted.after {o : Op} {r : Answer o} (h : Posted w.history q) : Posted (w.after o r).history q := by
  obtain ⟨m, hm, hr⟩ := h
  exact ⟨m, List.mem_append_left _ hm, hr⟩

theorem keeps_save {f : DriverState → DriverState} (h : At st s w) (advances : Advances w.history st (f st)) :
    Keeps Chronicle.env Lawful (update f) (fun _ s' w' => At (f st) s' w' ∧
      ∀ key p, Recorded w'.history key p → Recorded w.history key p ∨ Requests (f st) key p) (fun _ => At st) s w := by
  have allowed : Lawful w (.save (f s.state)) := by
    rw [h.state]
    refine ⟨fun hnone => ?_, fun s' hs' => ?_⟩
    · rw [h.disk] at hnone
      cases hnone
    · obtain rfl := Option.some.inj (h.disk.symm.trans hs')
      exact advances
  refine keeps_update_iff.2 ⟨allowed, fun w' step => ⟨⟨congrArg f h.state, ?_, h.orderly.step allowed step⟩, fun key p hp => ?_⟩⟩
  · rw [step.2.2, ← h.state]
    rfl
  · rw [step.2.2, recorded_after_iff] at hp
    refine hp.imp_right ?_
    rintro ⟨s', hs', hp⟩
    cases hs'
    rw [← h.state]
    exact hp

namespace Workload

variable {wl : Workload}

/-- The worker is somewhere. -/
def Working (s : Worker) (w : Chronicle) : Prop := ∃ st, At st s w

/-- The worker has the request in its state, under the key of an admission. -/
structure Ready (st : DriverState) (step roomId : String) (index : ℕ) (q : AdmissionRequest) (s : Worker) (w : Chronicle) :
    Prop where
  here : At st s w
  decimal : isDecimal roomId.toList = true
  requests : Requests st (stateKey step roomId index) q

section Posts

variable {step roomId correlation : String} {index : ℕ}

theorem Ready.allowed (h : Ready st step roomId index q s w) : Lawful w (.send (wl.admissionPost roomId correlation q.body)) := by
  have recorded := h.here.orderly.recorded h.here.disk h.requests
  refine ⟨fun _ => ⟨st, step, roomId, index, q, h.here.disk, h.decimal, h.requests, recorded, rfl, rfl⟩, fun raw hbroadcast => ?_⟩
  have hbody := Option.some.inj hbroadcast
  simp [AdmissionRequest.body, l1Body] at hbody

end Posts

end Workload

end Worker

/-! ## Generations -/

/-- The step leaves the admissions alone: it changes none of their records, sends no request for one, and broadcasts
nothing. -/
def Spares : Step → Prop
  | .request _ r .. => (Op.send r).harmless
  | .update f => ∀ (s : DriverState) (key : String), key = "l2TransactionNonce" ∨ IsAdmissionKey key →
      (f s).data.get key = s.data.get key
  | _ => True

/-- What a slot does about admissions: `ensure_admission`, and whatever spares them. -/
inductive AdmissionAction : Type where
  | ensure (step roomId : String) (index : ℕ) (correlation : String)
  | other (step : Step) (spares : Spares step)

abbrev AdmissionAction.Result : AdmissionAction → Type
  | .ensure .. => Except Raised Dict
  | .other step _ => step.Result

def AdmissionAction.carry (wl : Workload) : (action : AdmissionAction) → Driver action.Result
  | .ensure step roomId index correlation => catching (wl.ensureAdmission step roomId index correlation)
  | .other step _ => step.carry

/-- The slots of a generation that admits. -/
abbrev AdmissionSlots := Raising Raised AdmissionAction AdmissionAction.Result Unit

/-- The generations of workers, each with slots of its own. -/
def Workload.generations (wl : Workload) (manifestSha256 : String) :
    Service AdmissionSlots Raised Worker Op Answer Unit Chronicle where
  serve slots := do
    let opened ← boot manifestSha256
    if opened then interpret (AdmissionAction.carry wl) slots.run
  env := Chronicle.env
  load := fun _ => ⟨.fresh "" "", .empty, 0⟩
  initial w := w = .empty
  drift w w' := w' = w

section Generations

open Workload

variable {wl : Workload} {manifestSha256 : String} {s : Worker} {w : Chronicle}

theorem Workload.Working.orderly (h : Working s w) : Orderly w := by
  obtain ⟨st, h⟩ := h
  exact h.orderly

end Generations

/-! ## Nonces and keys -/

/-- A signed transaction has one nonce. -/
theorem HasNonce.unique {raw : String} {m n : ℤ} (hm : HasNonce raw m) (hn : HasNonce raw n) : m = n := by
  obtain ⟨t, key, hash, rfl, hsigned⟩ := hm
  obtain ⟨t', key', hash', rfl, hsigned'⟩ := hn
  obtain ⟨_, _, signed, _, _, _, _, -, -, nonnegative, -, rfl, -, split, -⟩ := signedAs_of_eq_ok hsigned
  obtain ⟨_, _, signed', _, _, _, _, -, -, nonnegative', -, hraw, -, split', -⟩ := signedAs_of_eq_ok hsigned'
  obtain rfl := hexText_injective hraw
  have same := congrArg Prod.fst (Option.some.inj (split.symm.trans split'))
  simp only [LegacyTransaction.fields, List.cons_append, Tree.list.injEq, List.cons.injEq, Tree.bytes.injEq] at same
  have value := (minimalBytes_eq_iff.1 same.1).1
  rw [(minimalBytes_eq_iff.1 rfl).1] at value
  have hpos := nonnegative.1
  have hpos' := nonnegative'.1
  omega

/-- A generation of workers that admit. -/
abbrev Workload.Generation := Interaction.Call AdmissionSlots Raised Worker Op Answer Unit Chronicle

/-- The request carries a transaction that was signed with the nonce. -/
def Carries (r : Request) (n : ℤ) : Prop :=
  ∃ d raw, r.body = some (.obj d) ∧ Dict.get d "rawSignedTransaction" = some (.str raw) ∧ HasNonce raw n

section Runs

variable {wl : Workload} {manifestSha256 : String} {calls : List Workload.Generation} {s : Worker} {w : Chronicle}

/-- What was allowed when it was done. -/
theorem Orderly.allowed (h : Orderly w) {m : Moment} (hm : m ∈ w.history) :
    ∃ pre post, w.history = pre ++ m :: post ∧ Lawful ⟨m.before, pre⟩ m.op := by
  obtain ⟨pre, post, hsplit⟩ := List.append_of_mem hm
  exact ⟨pre, post, hsplit, h.lawful pre m post hsplit⟩

/-- The request with a nonce, as it was recorded. -/
theorem Orderly.posted (h : Orderly w) {m : Moment} (hm : m ∈ w.history) {r : Request} {n : ℤ} (hop : m.op = .send r)
    (posts : IsPost r) (carries : Carries r n) : ∃ step roomId index, ∃ q : AdmissionRequest,
      Recorded w.history (Workload.stateKey step roomId index) q ∧ isDecimal roomId.toList = true ∧ q.l2Nonce = n ∧
      r.path = Workload.admissionPath roomId ∧ r.body = some q.body := by
  obtain ⟨pre, post, hsplit, allowed⟩ := h.allowed hm
  rw [hop] at allowed
  obtain ⟨_, step, roomId, index, q, -, hdecimal, -, ⟨m', hm', recorded⟩, hpath, hbody⟩ := allowed.1 posts
  obtain ⟨d, raw, hd, hraw, hnonce⟩ := carries
  rw [hbody] at hd
  obtain rfl := Json.obj.inj (Option.some.inj hd)
  obtain rfl : q.rawSignedTransaction = raw := Json.str.inj (Option.some.inj hraw)
  refine ⟨step, roomId, index, q, ⟨m', ?_, recorded⟩, hdecimal, q.hasNonce.unique hnonce, hpath, hbody⟩
  rw [hsplit]
  exact List.mem_append_left _ hm'

end Runs

/-! ## A worker that the node refuses -/

namespace Refused

def workload : Workload where
  texts := ⟨fun _ => "", fun _ => "", fun _ => ""⟩
  wording := ⟨id, id⟩
  stack := ⟨1, [("roomManager", "0x" ++ .ofList (List.replicate 40 '1'))], true⟩
  depositorKey := .error .valueError
  depositAsset := zeroAddress
  depositAmount := 1
  depositGasLimit := 1
  l2GasLimit := 1
  l2ChainId := 1
  admissionFee := 0
  minimumDeadlineLead := 1
  admissionDeadlineLead := 1
  admissionBatchMargin := 1
  admissionAuth := "secret"

/-- The files are read as they are, and whatever is sent is answered by nothing. -/
def answer (w : Chronicle) (o : Op) : Option (Answer o × Chronicle) :=
  match o with
  | .readJournal => some (w.disk.journal, w.after .readJournal w.disk.journal)
  | .readState => some (w.disk.state, w.after .readState w.disk.state)
  | .newRunId => some ("0123456789abcdef", w.after .newRunId "0123456789abcdef")
  | .save state => some ((), w.after (.save state) ())
  | .prepare r => some (none, w.after (.prepare r) none)
  | .send r => some (.answered 200 none [], w.after (.send r) (.answered 200 none []))
  | _ => none

theorem answer_env : ∀ w o r w', answer w o = some (r, w') → Chronicle.env w o r w' := by
  intro w o r w' h
  cases o <;> cases h <;> exact ⟨by trivial, by trivial, rfl⟩

/-- The generation boots, and asks for the state of the room. -/
def refused : Workload.Generation :=
  ((workload.generations "digest").called answer id (do
    let _ ← Raising.perform (AdmissionAction.ensure "setup" "7" 0 "setup")) ⟨.fresh "" "", .empty, 0⟩ .empty).1

end Refused

end Zkdeal.OwnerSoak
