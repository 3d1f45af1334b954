import Zkdeal.OwnerSoak.FaultInjector

/-!
# Scheduled faults are applied once

All requests for a fault have one key, so the controller applies it at the first delivery and answers the
others with its receipt (`applied_once`).
-/

namespace Zkdeal.OwnerSoak

open Python Json Soak Interaction Stateful
open FaultControl (Binding Controller Closure Standing Unapplied Applied strictObject canonicalBytes)

/-! ## One request -/

variable {f : Fault} {c : Controller} {b : Binding} {runId : String}

theorem plain_body : plain (.obj (f.body b)) = true := by
  have parameters := f.plain
  rw [plain, Bool.and_eq_true] at parameters ⊢
  obtain ⟨simple, print⟩ := parameters
  constructor
  · rw [Json.simple, Bool.and_eq_true]
    refine ⟨rfl, ?_⟩
    simp [Fault.body, simpleFields, Json.simple, Binding.dict] at simple ⊢
    exact simple
  · simp [Fault.body, printableFields, printable, Binding.dict] at print ⊢
    exact ⟨by decide, print⟩

/-- The controller reads the request as it was sent. -/
theorem strictObject_body {d : Dict} (h : strictObject (canonicalBytes (.obj (f.body b))) "request" = .ok d) :
    d = reread (f.body b) := by
  have newline : "\n".toList = ['\n'] := by decide
  have hloads := strictLoads_dumps_append false (plain_body (f := f) (b := b)) "\n"
    (by rw [newline]; exact stops_cons [] (.inr (.inr (.inr rfl)))) (by rw [newline]; decide)
  unfold strictObject canonicalBytes at h
  split at h
  · cases h
  rw [hloads] at h
  exact (Except.ok.inj h).symm

theorem item_reread (d : Dict) (key : String) {v : Json} (h : d.get key = some v) :
    FaultControl.item (reread d) key = canonical v := by
  rw [FaultControl.item, get_reread, h]
  rfl

theorem eq_of_eqFields {as bs : List (String × Json)} (h : eqFields as bs = true) {kv : String × Json} (hkv : kv ∈ as) :
    ∃ v, bs.lookup kv.1 = some v ∧ kv.2.eq v = true := by
  induction as with
  | nil => cases hkv
  | cons e as ih =>
    rw [eqFields, Bool.and_eq_true] at h
    rcases List.mem_cons.1 hkv with rfl | hkv
    · cases hlookup : bs.lookup kv.1 with
      | none =>
        rw [hlookup] at h
        exact absurd h.1 Bool.false_ne_true
      | some v =>
        rw [hlookup] at h
        exact ⟨v, rfl, h.1⟩
    · exact ih h.2 hkv

/-- A dictionary of texts equals a binding only if it is the same one. -/
theorem binding_eq_of_eq {b' : Binding} (h : Json.eq (.obj (reread b.dict)) (.obj b'.dict) = true) : b = b' := by
  rw [Json.eq, Bool.and_eq_true] at h
  have texts (key s : String) (hkey : (key, Json.str s) ∈ b.dict) : ∃ v, b'.dict.lookup key = some v ∧ v = .str s := by
    have hmem : (key, Json.str s) ∈ reread b.dict := (List.perm_insertionSort _ _).mem_iff.2 hkey
    obtain ⟨v, hv, heq⟩ := eq_of_eqFields h.2 hmem
    refine ⟨v, hv, ?_⟩
    cases v <;> simp [Json.eq, number] at heq
    rw [heq]
  obtain ⟨_, ⟨⟩, hcandidate⟩ := texts "candidateId" b.candidateId (by simp [Binding.dict])
  obtain ⟨_, ⟨⟩, hplan⟩ := texts "planSha256" b.planSha256 (by simp [Binding.dict])
  obtain ⟨_, ⟨⟩, htoken⟩ := texts "hostedIntegrationToken" b.hostedIntegrationToken (by simp [Binding.dict])
  obtain ⟨candidateId, planSha256, hostedIntegrationToken⟩ := b
  obtain ⟨candidateId', planSha256', hostedIntegrationToken'⟩ := b'
  cases hcandidate
  cases hplan
  cases htoken
  rfl

/-- Only a request with the binding of the controller passes, and it asks for the action of the fault. -/
theorem checkFault_body {correlation action : String} (h : c.checkFault (reread (f.body b)) correlation = .ok action) :
    b = c.binding ∧ action = f.action := by
  have binding : FaultControl.item (reread (f.body b)) "binding" = .obj (reread b.dict) :=
    item_reread (f.body b) "binding" (v := .obj b.dict) rfl
  have hactions : FaultControl.item (reread (f.body b)) "action" = .str f.action :=
    item_reread (f.body b) "action" (v := .str f.action) rfl
  have parameters : FaultControl.item (reread (f.body b)) "parameters" = .obj (reread f.parameters) :=
    item_reread (f.body b) "parameters" (v := .obj f.parameters) rfl
  unfold Controller.checkFault at h
  obtain ⟨_, -, h⟩ := bind_eq_ok.1 h
  rw [binding, hactions, parameters] at h
  split at h
  · cases h
  rename_i same
  rw [Bool.not_eq_false] at same
  obtain ⟨_, -, h⟩ := bind_eq_ok.1 h
  obtain ⟨_, -, h⟩ := bind_eq_ok.1 h
  obtain ⟨_, -, h⟩ := bind_eq_ok.1 h
  exact ⟨binding_eq_of_eq same, (Except.ok.inj h).symm⟩

/-- A closure that is known stays. -/
def Later (before after : Option Closure) : Prop := ∀ closure, before = some closure → after = some closure

theorem Later.refl (o : Option Closure) : Later o o := fun _ h => h

theorem Later.trans {o o' o'' : Option Closure} (h : Later o o') (h' : Later o' o'') : Later o o'' :=
  fun closure hclosure => h' closure (h closure hclosure)

/-- The answer to the driver is a receipt, or a conflict that ends its call. -/
structure Answers (c : Controller) (f : Fault) (runId : String) (after : Option Closure)
    (response : FaultControl.Response) : Prop where
  receipt : response.status = 200 → ∃ closure, after = some closure ∧
    response.document = .obj (c.receipt ((f.applied c runId).result sha256 closure))
  conflict : response.status = 409 → FaultControl.GivesUp response

variable {sent : List Request} {w w' : Faults} {before : Option Closure}

/-- A delivery of a request for the fault. -/
theorem delivered_standing {r : Request} {response : FaultControl.Response} (hr : ∃ b, r = f.request runId 1 b)
    (h : Standing sha256 (f.applied c runId) before w) (d : Delivered c r w response w') :
    ∃ after, Standing sha256 (f.applied c runId) after w' ∧ Later before after ∧ Answers c f runId after response := by
  obtain ⟨b, rfl⟩ := hr
  obtain ⟨body, hbody, delivers⟩ := d
  obtain rfl := Option.some.inj hbody
  obtain ⟨after, standing, later, receipt, conflict⟩ := delivers.standing h fun body action hread hcheck => by
    obtain rfl := strictObject_body hread
    obtain ⟨rfl, rfl⟩ := checkFault_body hcheck
    rfl
  exact ⟨after, standing, later, receipt, conflict⟩

theorem elsewhere_standing (h : Standing sha256 (f.applied c runId) before w) (step : Elsewhere c f w w') :
    Standing sha256 (f.applied c runId) before w' := by
  obtain ⟨intent, closure, count⟩ := step runId
  cases before with
  | none => exact ⟨intent.trans h.intent, closure.trans h.closure, count.trans h.never⟩
  | some _ =>
    obtain ⟨i, hi, digest⟩ := h.intent
    exact ⟨⟨i, intent.trans hi, digest⟩, closure.trans h.closure, count.trans h.once⟩

/-- However the requests are delivered, the fault is applied once. -/
theorem traffic_standing (hsent : ∀ r ∈ sent, ∃ b, r = f.request runId 1 b)
    (h : Standing sha256 (f.applied c runId) before w) (traffic : Traffic c f sent w w') :
    ∃ after, Standing sha256 (f.applied c runId) after w' ∧ Later before after := by
  induction traffic with
  | refl => exact ⟨before, h, .refl _⟩
  | tail _ step ih =>
    obtain ⟨after, standing, later⟩ := ih
    rcases step with step | ⟨r, hr, response, d⟩
    · exact ⟨after, elsewhere_standing standing step, later⟩
    · obtain ⟨after', standing', later', -⟩ := delivered_standing (hsent r hr) standing d
      exact ⟨after', standing', later.trans later'⟩

/-- What nobody sent is not applied. -/
theorem traffic_unapplied (h : Unapplied sha256 (f.applied c runId) w) (traffic : Traffic c f [] w w') :
    Unapplied sha256 (f.applied c runId) w' := by
  induction traffic with
  | refl => exact h
  | tail _ step ih =>
    rcases step with step | ⟨_, hr, -⟩
    · have unapplied : Standing sha256 (f.applied c runId) none _ := ih
      exact elsewhere_standing unapplied step
    · cases hr

/-! ## Sites -/

section Sites

variable (p : Schedule)

/-- A run with an id, whose state counts one attempt, and whose fault stands as it stood or was applied since. -/
structure Established (runId : String) (before : Option Closure) (w : Site) : Prop where
  state : ∃ state, w.disk.state = some state ∧ state.runId = runId ∧ state.attempt p.fault.purpose = 1
  sent : ∀ r ∈ w.sent, ∃ b, r = p.fault.request runId 1 b
  stands : ∃ after, Standing sha256 (p.fault.applied p.controller runId) after w.faults ∧ Later before after

/-- No run has started. -/
structure Blank (w : Site) : Prop where
  state : w.disk.state = none
  sent : w.sent = []
  unapplied : ∀ runId, Unapplied sha256 (p.fault.applied p.controller runId) w.faults

/-- What every worker keeps. -/
def Kept (w : Site) : Prop := Blank p w ∨ ∃ runId, Established p runId none w

/-- The operations of a worker that has counted one attempt. -/
def Tame (w : Site) : Op → Prop
  | .save after => after.attempt p.fault.purpose = 1 ∧ ∀ state, w.disk.state = some state → after.runId = state.runId
  | .send r => r.asksFault = true → ∃ state b, w.disk.state = some state ∧ r = p.fault.request state.runId 1 b
  | _ => True

/-- A site that came from another one. -/
structure Since (base w : Site) : Prop where
  kept : Kept p w
  later : ∀ runId before, Established p runId before base → Established p runId before w

end Sites

variable {p : Schedule} {s s' : Worker} {u v base : Site} {o : Op} {r : Answer o} {cached : Option Binding}

theorem Schedule.persistent : Persistent p.env Site.disk := ⟨fun h => h.1, fun h => h.2.1⟩

/-- Whatever is answered, there was traffic. -/
theorem Answered.traffic {fate : List Request} (h : Answered c f fate w o r w')
    (asked : ∀ q ∈ o.sent, q ∈ fate) : Traffic c f fate w w' := by
  cases o with
  | send q =>
    cases r with
    | failed error => exact h
    | answered status body raw =>
      unfold Answered at h
      dsimp only at h
      split at h
      · rename_i asks
        obtain ⟨w₁, response, w₂, before, delivered, after, -⟩ := h
        have hq : q ∈ fate := asked q (by rw [Op.sent, if_pos asks.1]; exact List.mem_singleton.2 rfl)
        exact (before.tail (.inr ⟨q, hq, response, delivered⟩)).trans after
      · exact h
  | _ => exact h

theorem env_traffic (step : p.env u o r v) : Traffic p.controller p.fault v.sent u.faults v.faults := by
  obtain ⟨-, -, sent, answered⟩ := step
  refine answered.traffic fun q hq => ?_
  rw [sent]
  exact List.mem_append_right _ hq

/-- What an established run sends is the request of its first attempt. -/
theorem Established.sends {before : Option Closure} (h : Established p runId before u) (tame : Tame p u o)
    (step : p.env u o r v) : ∀ q ∈ v.sent, ∃ b, q = p.fault.request runId 1 b := by
  intro q hq
  rw [step.2.2.1, List.mem_append] at hq
  rcases hq with hq | hq
  · exact h.sent q hq
  cases o with
  | send q' =>
    rw [Op.sent] at hq
    split at hq
    · rename_i asks
      obtain rfl := List.mem_singleton.1 hq
      obtain ⟨state, b, hstate, rfl⟩ := tame asks
      obtain ⟨_, hstate', rfl, -⟩ := h.state
      rw [hstate] at hstate'
      cases hstate'
      exact ⟨b, rfl⟩
    · cases hq
  | _ => cases hq

theorem Established.step {before : Option Closure} (h : Established p runId before u) (tame : Tame p u o)
    (step : p.env u o r v) : Established p runId before v := by
  have sent := h.sends tame step
  obtain ⟨state, hstate, hrun, first⟩ := h.state
  obtain ⟨after, standing, later⟩ := h.stands
  obtain ⟨after', standing', later'⟩ := traffic_standing sent standing (env_traffic step)
  refine ⟨?_, sent, after', standing', later.trans later'⟩
  rw [Schedule.persistent.after step]
  cases o with
  | save state' => exact ⟨state', rfl, (tame.2 state hstate).trans hrun, tame.1⟩
  | _ => exact ⟨state, hstate, hrun, first⟩

/-- Nothing is sent before a run has started. -/
theorem Blank.step (h : Blank p u) (tame : Tame p u o) (step : p.env u o r v) : Kept p v := by
  have silent : v.sent = [] := by
    rw [step.2.2.1, h.sent, List.nil_append]
    cases o with
    | send q =>
      rw [Op.sent]
      split
      · rename_i asks
        obtain ⟨state, b, hstate, -⟩ := tame asks
        rw [h.state] at hstate
        cases hstate
      · rfl
    | _ => rfl
  have traffic := env_traffic step
  rw [silent] at traffic
  have unapplied (runId : String) := traffic_unapplied (h.unapplied runId) traffic
  have disk := Schedule.persistent.after step
  cases o with
  | save state =>
    refine .inr ⟨state.runId, ⟨state, by rw [disk, Disk.after], rfl, tame.1⟩, ?_, none, unapplied _, .refl _⟩
    rw [silent]
    exact List.forall_mem_nil _
  | _ => exact .inl ⟨by rw [disk]; exact h.state, silent, unapplied⟩

theorem Kept.step (h : Kept p u) (tame : Tame p u o) (step : p.env u o r v) : Kept p v := by
  rcases h with blank | ⟨runId, established⟩
  · exact blank.step tame step
  · exact .inr ⟨runId, established.step tame step⟩

theorem Since.step (h : Since p base u) (tame : Tame p u o) (step : p.env u o r v) : Since p base v :=
  ⟨h.kept.step tame step, fun runId before established => (h.later runId before established).step tame step⟩

theorem Kept.since (h : Kept p u) : Since p u u := ⟨h, fun _ _ established => established⟩

/-- Between two calls there is traffic. -/
theorem Since.drift (h : Since p base u) (drift : p.workers.drift u v) : Since p base v := by
  obtain ⟨disk, sent, traffic⟩ := drift
  have established {runId : String} {before : Option Closure} (h : Established p runId before u) :
      Established p runId before v := by
    obtain ⟨after, standing, later⟩ := h.stands
    obtain ⟨after', standing', later'⟩ := traffic_standing h.sent standing traffic
    exact ⟨by rw [disk]; exact h.state, by rw [sent]; exact h.sent, after', standing', later.trans later'⟩
  refine ⟨?_, fun runId before earlier => established (h.later runId before earlier)⟩
  rcases h.kept with blank | ⟨runId, kept⟩
  · rw [blank.sent] at traffic
    refine .inl ⟨by rw [disk]; exact blank.state, by rw [sent]; exact blank.sent, fun runId => ?_⟩
    exact traffic_unapplied (blank.unapplied runId) traffic
  · exact .inr ⟨runId, established kept⟩

/-! ## Workers -/

/-- The worker has a state, and it is on disk. -/
structure Running (p : Schedule) (state : DriverState) (s : Worker) (w : Site) : Prop where
  memory : s.state = state
  saved : w.disk.state = some state
  established : Established p state.runId none w

variable {state : DriverState}

theorem Running.first (h : Running p state s u) : state.attempt p.fault.purpose = 1 := by
  obtain ⟨state', hstate, -, first⟩ := h.established.state
  rw [h.saved] at hstate
  cases hstate
  exact first

/-- An operation that leaves the state and asks for no fault. -/
def Op.calm : Op → Bool
  | .save _ => false
  | .send r => !r.asksFault
  | _ => true

theorem tame_of_calm (calm : o.calm = true) : Tame p u o := by
  cases o with
  | save _ => cases calm
  | send r =>
    intro asks
    rw [Op.calm, asks] at calm
    cases calm
  | _ => trivial

theorem Running.step (h : Running p state s u) (tame : Tame p u o) (same : (u.disk.after o).state = u.disk.state)
    (step : p.env u o r v) : Running p state s v := by
  refine ⟨h.memory, ?_, h.established.step tame step⟩
  rw [Schedule.persistent.after step, same]
  exact h.saved

theorem Running.calm (h : Running p state s u) (calm : o.calm = true) :
    Tame p u o ∧ ∀ r v, p.env u o r v → Running p state s v := by
  refine ⟨tame_of_calm calm, fun _ _ step => h.step (tame_of_calm calm) ?_ step⟩
  cases o with
  | save _ => cases calm
  | _ => rfl

/-- A save that keeps the run and the attempts at the fault. -/
theorem keeps_update_running {change : DriverState → DriverState} (h : Running p state s u)
    (hrun : (change state).runId = state.runId)
    (hattempt : (change state).attempt p.fault.purpose = state.attempt p.fault.purpose) :
    Keeps p.env (Tame p) (update change) (fun _ => Running p (change state)) (fun _ => Running p (change state)) s u := by
  have tame : Tame p u (.save (change state)) := by
    refine ⟨hattempt.trans h.first, fun state' hstate => ?_⟩
    rw [h.saved] at hstate
    cases hstate
    exact hrun
  refine keeps_update_iff.2 ?_
  rw [h.memory]
  refine ⟨tame, fun w' step => ⟨rfl, ?_, ?_⟩⟩
  · rw [Schedule.persistent.after step, Disk.after]
  · rw [hrun]
    exact h.established.step tame step

theorem keeps_backOff_running {wait : ℚ} (h : Running p state s u) :
    Keeps p.env (Tame p) (backOff wait) (fun _ => Running p state) (fun _ => Running p state) s u := by
  unfold backOff
  refine keeps_bind_iff.2 (keeps_modify_iff.2 (keeps_perform_iff.2 ?_))
  have h : Running p state { s with maxWaitMs := max s.maxWaitMs (truncate (wait * 1000)) } u :=
    ⟨h.memory, h.saved, h.established⟩
  exact h.calm rfl

theorem keeps_request_running {texts : Texts} {q : Request} {expect : List ℕ} {attempts : ℕ} {interval : ℚ}
    (calm : q.asksFault = false) (h : Running p state s u) : Keeps p.env (Tame p)
      (request texts q expect attempts interval) (fun _ => Running p state) (fun _ => Running p state) s u := by
  have send : (Op.send q).calm = true := by rw [Op.calm, calm]; rfl
  exact keeps_request (fun _ _ h => h.calm rfl) (fun _ _ h => h.calm send) (fun _ _ _ h => keeps_backOff_running h) h

theorem keeps_record_running {call : Call} (h : Running p state s u) :
    Keeps p.env (Tame p) (record call) (fun _ => Running p state) (fun _ => Running p state) s u := by
  refine keeps_record_wrote none (fun _ => h) (fun _ => h) (fun _ _ _ => trivial) fun event t w' _ step => ?_
  have kept := h.step (o := .write event) trivial rfl step
  exact ⟨kept.memory, kept.saved, kept.established⟩

/-! ## A call of `control` -/

/-- The receipt of the operation that applied the fault. -/
def Returned (p : Schedule) (receipt : Dict) (w : Site) : Prop := ∃ runId closure, Established p runId (some closure) w ∧
  loads (canonicalBytes (.obj (p.controller.receipt ((p.fault.applied p.controller runId).result sha256 closure)))) =
    some (.obj receipt)

/-- What a request for the fault is answered: a receipt, or a conflict after which the driver gives up. -/
structure Replied (p : Schedule) (state : DriverState) (answer : ℕ × Option Json × Bytes) (s : Worker) (w : Site) : Prop where
  running : Running p state s w
  receipt : answer.1 = 200 → ∀ receipt, answer.2.1 = some (.obj receipt) → Returned p receipt w
  conflict : answer.1 ≠ 200 → ∀ texts, errorCode texts answer.2.1 ∉ FaultControl.conflictCodes

/-- The driver reads the code of a conflict as it was sent. -/
theorem errorCode_of_givesUp {response : FaultControl.Response} (h : FaultControl.GivesUp response) {document : Json}
    (read : loads (canonicalBytes response.document) = some document) (texts : Texts) :
    errorCode texts (some document) ∉ FaultControl.conflictCodes := by
  obtain ⟨code, message, hdocument, hcode⟩ := h
  have newline : "\n".toList = ['\n'] := by decide
  have read' := loads_dumps_append false (v := .obj [("error", .obj [("code", .str code), ("message", .str message)])])
    rfl "\n" (by rw [newline]; exact stops_cons [] (.inr (.inr (.inr rfl)))) (by rw [newline]; decide)
  rw [hdocument] at read
  obtain rfl := Option.some.inj (read'.symm.trans read)
  have named : itemOr (reread [("code", .str code), ("message", .str message)]) "code" (.str "") = .str code := by
    rw [itemOr, get_reread]
    rfl
  change strOf texts (itemOr (reread [("code", .str code), ("message", .str message)]) "code" (.str "")) ∉ _
  rw [named]
  exact hcode

theorem replied_of_step {texts : Texts} {reply : Reply} {answer : ℕ × Option Json × Bytes}
    (h : Running p state s u) (step : p.env u (.send (p.fault.request state.runId 1 b)) reply v)
    (judged : judge texts [200, 409] reply = .ok answer) : Replied p state answer s v := by
  have tame : Tame p u (.send (p.fault.request state.runId 1 b)) := fun _ => ⟨state, b, h.saved, rfl⟩
  have running := h.step tame rfl step
  obtain ⟨rfl, expected⟩ := judge_eq_ok judged
  have answered := step.2.2.2
  unfold Answered at answered
  dsimp only at answered
  rw [if_pos ⟨rfl, expected⟩] at answered
  obtain ⟨w₁, response, w₂, early, delivered, late, status, document, hbody, read⟩ := answered
  have sent := h.established.sends tame step
  obtain ⟨o₀, standing, -⟩ := h.established.stands
  obtain ⟨o₁, standing, -⟩ := traffic_standing sent standing early
  obtain ⟨o₂, standing, -, receipt, conflict⟩ := delivered_standing ⟨b, rfl⟩ standing delivered
  obtain ⟨o₃, standing, later⟩ := traffic_standing sent standing late
  refine ⟨running, fun ok d hd => ?_, fun refused texts => ?_⟩
  · obtain ⟨closure, hclosure, hdocument⟩ := receipt (status.trans ok)
    refine ⟨state.runId, closure, ⟨running.established.state, running.established.sent, o₃, standing, ?_⟩, ?_⟩
    · rintro _ ⟨⟩
      exact later closure hclosure
    · rw [← hdocument, read, ← hbody, hd]
  · have other : answer.1 = 409 := by
      simp only [List.mem_cons, List.not_mem_nil, or_false] at expected
      exact expected.resolve_left refused
    rw [hbody]
    exact errorCode_of_givesUp (conflict (status.trans other)) read texts

/-- A request for the fault. -/
theorem keeps_request_fault {texts : Texts} (h : Running p state s u) :
    Keeps p.env (Tame p) (request texts (p.fault.request state.runId 1 b) [200, 409] 30 1)
      (Replied p state) (fun _ => Running p state) s u := by
  refine keeps_request_answered (fun _ _ h => h.calm rfl) (fun s w running => ?_) (fun _ _ _ h => keeps_backOff_running h) h
  have tame : Tame p w (.send (p.fault.request state.runId 1 b)) := fun _ => ⟨state, b, running.saved, rfl⟩
  refine ⟨tame, fun reply w' step => ⟨running.step tame rfl step, fun answer judged => ?_⟩⟩
  exact replied_of_step running step judged

theorem keeps_faultBinding {texts : Texts} {environ : Environ} (h : Running p state s u) :
    Keeps p.env (Tame p) (faultBinding texts environ cached) (fun _ => Running p state) (fun _ => Running p state) s u := by
  cases cached with
  | some b => exact h
  | none =>
    unfold faultBinding
    refine (keeps_request_running rfl h).bind fun answer s u h => keeps_bind_iff.2 (keeps_liftExcept_iff.2 ?_)
    cases readBinding answer.2.1 with
    | error e => exact h
    | ok b =>
      rw [ends_ok]
      refine keeps_bind_iff.2 (keeps_raiseIf_iff.2 ⟨fun _ => h, fun _ => ?_⟩)
      exact keeps_bind_iff.2 (keeps_raiseIf_iff.2 ⟨fun _ => h, fun _ => h⟩)

theorem durableOperation_eq_ok {action : String} {body : Option Json} {d : Dict} (h : durableOperation action body = .ok d) :
    body = some (.obj d) := by
  unfold durableOperation at h
  split at h
  · split at h
    · cases h
      rfl
    · cases h
  · cases h

/-- The conflicts that the driver knows do not occur, and what it returns is the receipt. -/
theorem keeps_control (h : Running p state s u) : Keeps p.env (Tame p) (control p.texts p.environ p.fault cached)
    (fun receipt s w => Running p state s w ∧ Returned p receipt w) (fun _ => Running p state) s u := by
  unfold control controlRounds
  refine keeps_bind_iff.2 (keeps_get_iff.2 ?_)
  rw [h.memory, h.first]
  refine (keeps_faultBinding h).bind fun b s u h => ?_
  refine (keeps_request_fault h).bind fun answer s u replied => ?_
  obtain ⟨status, body, raw⟩ := answer
  dsimp only
  by_cases ok : status = 200
  · rw [if_pos ok]
    refine keeps_liftExcept_iff.2 ?_
    cases hoperation : durableOperation p.fault.action body with
    | error e => exact replied.running
    | ok d => exact ⟨replied.running, replied.receipt ok d (durableOperation_eq_ok hoperation)⟩
  · rw [if_neg ok, if_neg (replied.conflict ok p.texts)]
    exact keeps_throw_iff.2 replied.running

/-! ## Runs -/

/-- A worker that has not started, or one with a state. -/
def Live (p : Schedule) (s : Worker) (w : Site) : Prop :=
  Kept p w ∧ (s.state.workerBoots = 0 ∨ w.disk.state = some s.state)

theorem Kept.running (h : Kept p u) (saved : u.disk.state = some s.state) : Running p s.state s u := by
  refine ⟨rfl, saved, ?_⟩
  rcases h with blank | ⟨runId, established⟩
  · rw [blank.state] at saved
    cases saved
  · obtain ⟨state, hstate, rfl, -⟩ := established.state
    rw [saved] at hstate
    cases hstate
    exact established

theorem Running.live (h : Running p state s u) : Live p s u :=
  ⟨.inr ⟨_, h.established⟩, .inr (by rw [h.memory]; exact h.saved)⟩

theorem keeps_started (h : Live p s u) : Keeps p.env (Tame p) p.started
    (fun opened s w => Live p s w ∧ (opened = true → Running p s.state s w)) (fun _ => Live p) s u := by
  unfold Schedule.started
  refine keeps_bind_iff.2 (keeps_get_iff.2 ?_)
  split
  · rename_i fresh
    have reads (o : Op) (w : Site) (reads : o.reads = true) (h : Kept p w) :
        Tame p w o ∧ ∀ r w', p.env w o r w' → Kept p w' := by
      have tame : Tame p w o := tame_of_calm (by cases o <;> first | rfl | cases reads)
      exact ⟨tame, fun r w' step => h.step tame step⟩
    have creates (runId : String) (w : Site) (hstate : w.disk.state = none) (h : Kept p w) :
        Tame p w (.save (.fresh p.manifestSha256 runId)) ∧
          ∀ w', p.env w (.save (.fresh p.manifestSha256 runId)) () w' → Kept p w' := by
      have tame : Tame p w (.save (.fresh p.manifestSha256 runId)) := by
        refine ⟨rfl, fun state saved => ?_⟩
        rw [hstate] at saved
        cases saved
      exact ⟨tame, fun w' step => h.step tame step⟩
    have counts (state : DriverState) (w : Site) (saved : w.disk.state = some state) (h : Kept p w) :
        Tame p w (.save { state with workerBoots := state.workerBoots + 1 }) ∧
          ∀ w', p.env w (.save { state with workerBoots := state.workerBoots + 1 }) () w' → Kept p w' := by
      have running := h.running (s := ⟨state, s.journal, 0⟩) saved
      have tame : Tame p w (.save { state with workerBoots := state.workerBoots + 1 }) := by
        refine ⟨running.first, fun state' hstate => ?_⟩
        rw [saved] at hstate
        cases hstate
        rfl
      exact ⟨tame, fun w' step => h.step tame step⟩
    refine (keeps_boot _ _ Schedule.persistent reads creates counts h.1).mono (fun _ _ h => h) ?_ ?_
    · rintro opened s' w ⟨kept, booted, closed⟩
      cases opened with
      | true =>
        have running := kept.running (booted rfl).saved
        exact ⟨running.live, fun _ => running⟩
      | false =>
        obtain rfl := closed rfl
        exact ⟨⟨kept, .inl fresh⟩, nofun⟩
    · rintro e s' w ⟨kept, rfl⟩
      exact ⟨kept, .inl fresh⟩
  · rename_i started
    exact ⟨h, fun _ => h.1.running (h.2.resolve_left started)⟩

theorem keeps_step {step : Step} (free : p.Free step) (h : Running p state s u) :
    Keeps p.env (Tame p) step.carry (fun _ => Live p) (fun _ => Live p) s u := by
  cases step with
  | request texts q expect attempts interval =>
    refine keeps_catching_iff.2 ((keeps_request_running free h).mono (fun _ _ h => h) ?_ ?_) <;> exact fun _ _ _ h => h.live
  | update change =>
    have same := free state
    refine (keeps_update_running h same.1 same.2).mono (fun _ _ h => h) ?_ ?_ <;> exact fun _ _ _ h => h.live
  | record call open' =>
    refine keeps_catching_iff.2 ((keeps_record_running h).mono (fun _ _ h => h) ?_ ?_) <;> exact fun _ _ _ h => h.live
  | consult => exact h.live
  | monotonic | sleep _ | outside _ =>
    exact keeps_perform_iff.2 ((h.calm rfl).imp_right fun next r w step => (next r w step).live)

theorem keeps_serve (job : p.Job) (h : Live p s u) : Keeps p.env (Tame p) (p.workers.serve job)
    (fun result s w => Live p s w ∧ ∀ receipt, result = some receipt → Returned p receipt w) (fun _ => Live p) s u := by
  refine (keeps_started h).bind fun opened s u ⟨live, running⟩ => ?_
  cases opened with
  | false => exact ⟨live, nofun⟩
  | true =>
    cases job with
    | control cached =>
      refine ((keeps_control (running rfl)).mono (fun _ _ h => h) (fun _ _ _ h => h) fun _ _ _ h => h.live).bind ?_
      rintro receipt s u ⟨running, returned⟩
      refine ⟨running.live, ?_⟩
      rintro _ ⟨⟩
      exact returned
    | other step free => exact (keeps_step free (running rfl)).bind fun _ s u live => ⟨live, nofun⟩

abbrev Schedule.Generation (p : Schedule) := Interaction.Call p.Job Raised Worker Op Answer (Option Dict) Site

variable {calls : List p.Generation}

theorem Returned.since {receipt : Dict} (h : Returned p receipt base) (since : Since p base u) : Returned p receipt u := by
  obtain ⟨runId, closure, established, read⟩ := h
  exact ⟨runId, closure, since.later _ _ established, read⟩

theorem run_live (run : p.workers.Run calls s u) :
    Live p s u ∧ ∀ c ∈ calls, ∀ receipt, c.answer = some (some receipt) → Returned p receipt u := by
  induction run with
  | @start u initial =>
    obtain ⟨disk, sent, unapplied⟩ := initial
    have blank : Blank p u := ⟨by rw [disk, Disk.empty], sent, unapplied⟩
    exact ⟨⟨.inl blank, .inl rfl⟩, fun _ hc => nomatch hc⟩
  | @call calls c earlier valid ih =>
    obtain ⟨live, returned⟩ := ih
    have keeps := keeps_serve c.request live
    have since : Since p c.before c.after :=
      keeps.leaves (fun _ _ _ _ since tame step => since.step tame step) live.1.since valid.run valid.answered
    obtain ⟨returns, raises, -⟩ := keeps.of_runs valid.run valid.answered
    refine ⟨?_, fun d hd receipt answer => ?_⟩
    · unfold Service.ended
      split
      · rename_i result s' hout
        cases result with
        | ok result => exact (returns result s' hout).1
        | error e => exact raises e s' hout
      · exact ⟨since.kept, .inl rfl⟩
    · rcases List.mem_append.1 hd with hd | hd
      · exact (returned d hd receipt answer).since since
      · obtain rfl := List.mem_singleton.1 hd
        obtain ⟨s', hout⟩ := Interaction.Call.answer_eq_some answer
        exact (returns _ s' hout).2 receipt rfl
  | restart _ ih => exact ⟨⟨ih.1.1, .inl rfl⟩, ih.2⟩
  | drift _ step ih =>
    have since := ih.1.1.since.drift step
    refine ⟨⟨since.kept, ?_⟩, fun c hc receipt answer => (ih.2 c hc receipt answer).since since⟩
    rw [step.1]
    exact ih.1.2

/-- The callbacks that the controller ran for the fault in a run. -/
def Schedule.callbacks (p : Schedule) (runId : String) (w : Site) : ℕ :=
  w.faults.2.count ((p.fault.applied p.controller runId).operationId sha256)

/-- However workers are killed and requests are lost, sent again and delivered late, all requests for the fault have
one key, the controller runs its callback at most once, and exactly once as soon as a call of `control` returns; what
the call returns is the receipt of that operation. -/
theorem applied_once (run : p.workers.Run calls s u) :
    (∀ runId, (∀ state, u.disk.state = some state → state.runId = runId) →
      (∀ r ∈ u.sent, ∃ b, r = p.fault.request runId 1 b) ∧ p.callbacks runId u ≤ 1) ∧
    ∀ c ∈ calls, ∀ receipt, c.answer = some (some receipt) → ∃ state closure, u.disk.state = some state ∧
      p.callbacks state.runId u = 1 ∧
      u.faults.1 (.closure ((p.fault.applied p.controller state.runId).operationId sha256)) = some (.whole closure) ∧
      loads (canonicalBytes (.obj (p.controller.receipt ((p.fault.applied p.controller state.runId).result sha256 closure)))) =
        some (.obj receipt) := by
  obtain ⟨⟨kept, -⟩, returned⟩ := run_live run
  refine ⟨fun runId same => ?_, fun c hc receipt answer => ?_⟩
  · rcases kept with blank | ⟨runId', established⟩
    · refine ⟨by rw [blank.sent]; exact nofun, ?_⟩
      have never : p.callbacks runId u = 0 := (blank.unapplied runId).never
      omega
    · obtain ⟨state, hstate, rfl, -⟩ := established.state
      obtain rfl := same state hstate
      refine ⟨established.sent, ?_⟩
      obtain ⟨after, standing, -⟩ := established.stands
      cases after with
      | none =>
        have never : p.callbacks state.runId u = 0 := standing.never
        omega
      | some closure =>
        have once : p.callbacks state.runId u = 1 := standing.once
        omega
  · obtain ⟨runId, closure, established, read⟩ := returned c hc receipt answer
    obtain ⟨state, hstate, rfl, -⟩ := established.state
    obtain ⟨after, standing, later⟩ := established.stands
    obtain rfl := later closure rfl
    exact ⟨state, closure, hstate, standing.once, standing.closure, read⟩

/-! ## A drill -/

theorem utf8ByteSize_ofList_le (l : List Char) : (String.ofList l).utf8ByteSize ≤ 4 * l.length := by
  induction l with
  | nil => decide
  | cons c l ih =>
    have h := Char.utf8Size_le_four c
    simp [String.ofList_cons]
    omega

theorem length_encodeStr_le (s : String) : (encodeStr false s).length ≤ 2 + 6 * s.toList.length := by
  have pieces (l : List Char) : (l.flatMap (escape false)).length ≤ 6 * l.length := by
    induction l with
    | nil => simp
    | cons c l ih =>
      have one : (escape false c).length ≤ 6 := by
        unfold escape
        dsimp only
        repeat' split
        all_goals simp_all [hex4]
      rw [List.flatMap_cons, List.length_append, List.length_cons]
      omega
  have h := pieces s.toList
  rw [encodeStr, List.length_append, List.length_cons, List.length_singleton]
  omega

theorem length_sha256 (s : String) : (sha256 s).toList.length = 64 := by
  have h := (between_iff.1 (Sha256.between_hexdigest s)).2
  exact le_antisymm h.2 h.1

namespace RestartDrill

def binding : Binding := ⟨"candidate", "plan", "token"⟩

def drill : Schedule where
  texts := ⟨fun _ => "", fun _ => "", fun _ => ""⟩
  environ := ⟨"", ""⟩
  manifestSha256 := "digest"
  controller := ⟨binding, "binding", []⟩
  fault := ⟨"database-restart", "database-restart", [], by decide⟩

def firstRun : String := "0123456789abcdef"

/-- The request that the controller makes of the driver's. -/
def asked : FaultControl.Request := drill.fault.applied drill.controller firstRun

def closure : Closure := asked.closureAt sha256 ([], []) "2026-01-01T00:00:00Z"

def receipt : Dict := drill.controller.receipt (asked.result sha256 closure)

/-- The call that applies it. -/
def applying : FaultControl.Call := FaultControl.completedCall sha256 asked ([], []) "2026-01-01T00:00:00Z" fun _ => none

def idle : Faults := (fun _ => none, [])

def restarted : Faults :=
  ((FaultControl.startedDirectory sha256 asked "2026-01-01T00:00:00Z" fun _ => none).set
    (.closure (asked.operationId sha256)) (some (.whole closure)), [asked.operationId sha256])

theorem accepts_healthy {w w' : Faults} {tr : Trace FaultControl.Op FaultControl.Answer}
    (h : Accepts FaultControl.logged w tr w') (succeeds : ∀ e ∈ tr, FaultControl.Succeeds e.1 e.2) :
    Accepts FaultControl.healthy w tr w' := by
  induction h with
  | nil w => exact .nil w
  | cons step _ ih => exact .cons ⟨step, succeeds ⟨_, _⟩ (by simp)⟩ (ih fun e he => succeeds e (by simp [he]))

/-- An answer with short texts fits. -/
theorem short_answer {a b c : String} (operation : a.toList.length ≤ 64) (closureSha : b.toList.length ≤ 64)
    (correlation : c.toList.length ≤ 128) : ¬ FaultControl.maxResponseBytes <
      (canonicalBytes (.obj [("operationId", .str a), ("closureSha256", .str b), ("correlationId", .str c)])).utf8ByteSize := by
  have ha := length_encodeStr_le a
  have hb := length_encodeStr_le b
  have hc := length_encodeStr_le c
  have length : (encode false true (.obj [("operationId", .str a), ("closureSha256", .str b), ("correlationId", .str c)])).length
      ≤ 2000 := by
    have closureKey := length_encodeStr_le "closureSha256"
    have correlationKey := length_encodeStr_le "correlationId"
    have operationKey := length_encodeStr_le "operationId"
    simp [encode, encodeMembers, encodeFields, List.insertionSort, List.orderedInsert, commaSeparated] at *
    omega
  have size := utf8ByteSize_ofList_le
    (encode false true (.obj [("operationId", .str a), ("closureSha256", .str b), ("correlationId", .str c)]))
  rw [canonicalBytes, String.utf8ByteSize_append, FaultControl.maxResponseBytes, dumps,
    show "\n".utf8ByteSize = 1 from rfl]
  omega

theorem small : ¬ FaultControl.maxResponseBytes < (canonicalBytes (.obj receipt)).utf8ByteSize := by
  have answered (a b c : String) : drill.controller.receipt (FaultControl.answerWith [] a b c) =
      [("operationId", .str a), ("closureSha256", .str b), ("correlationId", .str c)] := rfl
  have shape : receipt = _ := answered _ _ _
  have operation (s : String) : ("fc-" ++ take s 40).toList.length ≤ 64 := by
    have taken : (take s 40).toList.length ≤ 40 := by
      rw [take, String.toList_ofList]
      exact List.length_take_le _ _
    have three : "fc-".toList.length = 3 := rfl
    rw [String.toList_append, List.length_append]
    omega
  rw [shape]
  exact short_answer (operation _) (length_sha256 _).le (by decide)

theorem posted : Delivered drill.controller (drill.fault.request firstRun 1 binding) idle ⟨200, .obj receipt⟩ restarted := by
  have text : strictObject (canonicalBytes (.obj (drill.fault.body binding))) "request" =
      .ok (reread (drill.fault.body binding)) := by
    have size : ¬ FaultControl.maxRequestBytes < (canonicalBytes (.obj (drill.fault.body binding))).utf8ByteSize := by
      decide +kernel
    have newline : "\n".toList = ['\n'] := by decide
    have read := strictLoads_dumps_append false (plain_body (f := drill.fault) (b := binding)) "\n"
      (by rw [newline]; exact stops_cons [] (.inr (.inr (.inr rfl)))) (by rw [newline]; decide)
    unfold strictObject
    rw [if_neg size, canonicalBytes, read]
    rfl
  have checked : drill.controller.checkFault (reread (drill.fault.body binding)) (drill.fault.correlation firstRun) =
      .ok "database-restart" := by
    decide
  have keyed : FaultControl.isIdempotencyKey asked.idempotencyKey = true := by decide
  have valid : applying.Valid sha256 := FaultControl.completedCall_valid keyed rfl rfl
  refine ⟨.obj (drill.fault.body binding), rfl, applying.trace, .ok receipt, ?_, ?_, ?_⟩
  · have post : drill.controller.post sha256 (canonicalBytes (.obj (drill.fault.body binding)))
        (drill.fault.idempotency firstRun 1) (drill.fault.correlation firstRun) =
          (FaultControl.execute sha256 asked >>= fun p => pure (drill.controller.receipt p.1)) := by
      unfold Controller.post
      rw [text]
      refine Eq.trans (b := do
        let action ← liftExcept (drill.controller.checkFault (reread (drill.fault.body binding)) (drill.fault.correlation firstRun))
        let p ← FaultControl.execute sha256 (drill.controller.request action (reread (drill.fault.body binding))
          (drill.fault.idempotency firstRun 1) (drill.fault.correlation firstRun))
        return drill.controller.receipt p.1) rfl ?_
      rw [checked]
      rfl
    change (drill.controller.post sha256 (canonicalBytes (.obj (drill.fault.body binding)))
      (drill.fault.idempotency firstRun 1) (drill.fault.correlation firstRun)).run.Runs _ _
    rw [post, FaultControl.execute_eq_of_isIdempotencyKey keyed]
    exact .event _ _ _ (.event _ _ _ (.event _ _ _ (.event _ _ _ (.event _ _ _
      (.event _ _ _ (.event _ _ _ (.event _ _ _ (.event _ _ _ (.returned _)))))))))
  · refine accepts_healthy (FaultControl.accepts_logged valid.answered []) fun e he => ?_
    simp only [applying, FaultControl.completedCall, FaultControl.startedTrace, List.cons_append, List.nil_append, List.mem_cons,
      List.not_mem_nil, or_false] at he
    rcases he with rfl | rfl | rfl | rfl | rfl | rfl | rfl | rfl | rfl <;> trivial
  · unfold FaultControl.respond
    dsimp only
    rw [if_neg small]

/-- The files, the requests that were sent, and whether one was delivered. -/
structure Floor where
  disk : Disk
  sent : List Request
  delivered : Bool

def view (v : Floor) : Site := ⟨v.disk, if v.delivered then restarted else idle, v.sent⟩

/-- The text and the headers of the request that is answered. -/
def marks (r : Request) : Option String × String × String :=
  (r.body.map canonicalBytes, r.header "idempotency-key", r.header "x-correlation-id")

def answer (v : Floor) : (o : Op) → Option (Answer o × Floor)
  | .readJournal => some (v.disk.journal, v)
  | .readState => some (v.disk.state, v)
  | .newRunId => some (firstRun, v)
  | .save state => some ((), { v with disk := v.disk.after (.save state) })
  | .write event => some ((), { v with disk := v.disk.after (.write event) })
  | .monotonic => some (0, v)
  | .sleep _ => some ((), v)
  | .backoff _ => some ((), v)
  | .prepare _ => some (none, v)
  | .send r =>
    if r.asksFault then
      if v.delivered = false ∧ marks r = marks (drill.fault.request firstRun 1 binding) then
        some (.answered 200 (some (.obj (reread receipt))) [], { v with sent := v.sent ++ [r], delivered := true })
      else some (.failed "connection refused", { v with sent := v.sent ++ [r] })
    else some (.answered 200 (some (.obj binding.dict)) [], v)
  | .outside _ => none
  | .runSlot _ _ _ => some ((), v)

theorem delivered_of_marks {r : Request} (h : marks r = marks (drill.fault.request firstRun 1 binding)) :
    Delivered drill.controller r idle ⟨200, .obj receipt⟩ restarted := by
  obtain ⟨body, hbody, delivers⟩ := posted
  unfold marks at h
  rw [hbody] at h
  obtain ⟨htext, hheaders⟩ := Prod.ext_iff.1 h
  obtain ⟨hkey, hcorrelation⟩ := Prod.ext_iff.1 hheaders
  obtain ⟨body', hbody', same⟩ := Option.map_eq_some_iff.1 htext
  refine ⟨body', hbody', ?_⟩
  dsimp only at hkey hcorrelation
  rw [same, hkey, hcorrelation]
  exact delivers

theorem answer_env : ∀ v o r v', answer v o = some (r, v') → drill.workers.env (view v) o r (view v') := by
  intro v o r v' h
  have quiet {sent : List Request} {w : Faults} : Traffic drill.controller drill.fault sent w w := .refl
  cases o with
  | readJournal | readState =>
    cases h
    exact ⟨rfl, rfl, (List.append_nil _).symm, quiet⟩
  | send q =>
    unfold answer at h
    dsimp only at h
    split at h
    · rename_i asks
      split at h
      · rename_i first
        cases h
        refine ⟨trivial, rfl, ?_, ?_⟩
        · rw [Op.sent, if_pos asks]
          rfl
        unfold Answered
        dsimp only
        rw [if_pos ⟨asks, by decide⟩]
        refine ⟨idle, ⟨200, .obj receipt⟩, restarted, ?_, delivered_of_marks first.2, quiet, rfl, _, rfl, ?_⟩
        · have waiting : (view v).faults = idle := by simp [view, first.1]
          rw [waiting]
          exact quiet
        · have newline : "\n".toList = ['\n'] := by decide
          exact loads_dumps_append false (v := .obj receipt) rfl "\n"
            (by rw [newline]; exact stops_cons [] (.inr (.inr (.inr rfl)))) (by rw [newline]; decide)
      · cases h
        refine ⟨trivial, rfl, ?_, quiet⟩
        rw [Op.sent, if_pos asks]
        rfl
    · rename_i other
      cases h
      refine ⟨trivial, rfl, ?_, ?_⟩
      · rw [Op.sent, if_neg other, List.append_nil]
      unfold Answered
      dsimp only
      rw [if_neg fun asks => other asks.1]
      exact quiet
  | outside => cases h
  | _ =>
    cases h
    exact ⟨trivial, rfl, (List.append_nil _).symm, quiet⟩

/-- A worker asks for the restart, and is answered. -/
def asking : drill.Generation :=
  (drill.workers.called answer view (.control none) ⟨.fresh "" "", .empty, 0⟩ ⟨.empty, [], false⟩).1

/-- `applied_once` of its run. -/
theorem applied_once_asking : ∃ receipt, asking.answer = some (some receipt) ∧
    ∃ state closure, asking.after.disk.state = some state ∧ drill.callbacks state.runId asking.after = 1 ∧
      asking.after.faults.1 (.closure ((drill.fault.applied drill.controller state.runId).operationId sha256)) =
        some (.whole closure) ∧
      loads (canonicalBytes (.obj (drill.controller.receipt
        ((drill.fault.applied drill.controller state.runId).result sha256 closure)))) = some (.obj receipt) := by
  have run : drill.workers.Run ([] ++ [asking]) (drill.workers.ended asking) asking.after :=
    .call (.start ⟨rfl, rfl, fun _ => ⟨rfl, rfl, rfl⟩⟩) (Service.called_valid view answer_env _ _ _)
  have returns : (asking.answer.bind id).isSome = true := by decide +kernel
  obtain ⟨receipt, returned⟩ := Option.isSome_iff_exists.1 returns
  obtain ⟨result, hanswer, hresult⟩ := Option.bind_eq_some_iff.1 returned
  obtain rfl : result = some receipt := hresult
  exact ⟨receipt, hanswer, (applied_once run).2 asking (by simp) receipt hanswer⟩

end RestartDrill
end Zkdeal.OwnerSoak
