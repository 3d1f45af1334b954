import Zkdeal.FaultControl.Controller

/-!
# Faults that are applied once

A controller whose disk works and whose targets do as they are told runs the callback of a request at its
first delivery, and answers every delivery with the same receipt.
-/

namespace Zkdeal.FaultControl

open Interaction Python Json Raising

/-! ## Healthy controllers -/

/-- The operation succeeds. -/
def Succeeds : (o : Op) → Answer o → Prop
  | .readBytes _, .error _ => False
  | .openExclusive _ _, .failed => False
  | .write _ _, .error _ => False
  | .callback _, .error _ => False
  | _, _ => True

/-- A journal directory and targets without failures, with the callbacks run so far. -/
def healthy : Env Op Answer (Directory × List String) := fun w o r w' => logged w o r w' ∧ Succeeds o r

section Rules

variable {α : Type} {R : Raised → Directory × List String → Prop} {w : Directory × List String}

theorem logged_silent {o : Op} {r : Answer o} {w' : Directory × List String} (silent : o.callbacks = [])
    (same : w'.1 = w.1) (h : logged w o r w') : w' = w := by
  obtain ⟨-, ran⟩ := h
  rw [silent, List.append_nil] at ran
  exact Prod.ext same ran

theorem healthy_pathExists {p : Path} {Q : Bool → Directory × List String → Prop} (hQ : Q (w.1 p).isSome w) :
    Meets healthy (fun _ _ => True) (pathExists p) Q R w := by
  refine ⟨trivial, fun r w' ⟨step, _⟩ => ?_⟩
  obtain rfl := logged_silent rfl step.1.2 step
  obtain rfl : r = (w'.1 p).isSome := step.1.1
  exact hQ

theorem healthy_utcNow {Q : String → Directory × List String → Prop} (hQ : ∀ t, Q t w) :
    Meets healthy (fun _ _ => True) utcNow Q R w := by
  refine ⟨trivial, fun r w' ⟨step, _⟩ => ?_⟩
  obtain rfl := logged_silent rfl step.1 step
  exact hQ r

/-- A whole file is read, unless it is too large. -/
theorem healthy_readRecord {p : Path} {a : p.Record} {Q : p.Record → Directory × List String → Prop}
    (hp : w.1 p = some (.whole a)) (hQ : Q a w)
    (hR : R (.control "journal record exceeds 1048576 bytes" 413 "DOCUMENT_TOO_LARGE") w) :
    Meets healthy (fun _ _ => True) (readRecord p) Q R w := by
  refine ⟨trivial, fun r w' ⟨step, _⟩ => ?_⟩
  obtain rfl := logged_silent rfl step.1.2 step
  have read : Readable w'.1 p r := step.1.1
  unfold Readable at read
  rw [hp] at read
  dsimp only at read
  split at read
  · rw [read]
    exact hR
  · rw [read]
    exact hQ

theorem healthy_readBytes {p : Path} {Q : String → Directory × List String → Prop} (hQ : ∀ text, Q text w) :
    Meets healthy (fun _ _ => True) (readBytes p) Q R w := by
  refine ⟨trivial, fun r w' ⟨step, succeeds⟩ => ?_⟩
  cases r with
  | error e => exact absurd succeeds id
  | ok text =>
    obtain rfl := logged_silent rfl step.1.2 step
    exact hQ text

theorem healthy_callback {operationId : String} {Q : Dict × Dict → Directory × List String → Prop}
    (hQ : ∀ r, Q r (w.1, w.2 ++ [operationId])) :
    Meets healthy (fun _ _ => True) (callback operationId) Q R w := by
  refine ⟨trivial, fun r w' ⟨⟨step, ran⟩, succeeds⟩ => ?_⟩
  cases r with
  | error e => exact absurd succeeds id
  | ok results =>
    obtain rfl : w' = (w.1, w.2 ++ [operationId]) := Prod.ext step ran
    exact hQ results

/-- A file that does not exist is created in full. -/
theorem healthy_durableCreate {sha256 : String → String} {p : Path} {r : p.Record}
    {Q : String → Directory × List String → Prop} (hp : w.1 p = none)
    (hQ : Q (sha256 (canonicalBytes (p.json r))) (w.1.set p (some (.whole r)), w.2)) :
    Meets healthy (fun _ _ => True) (durableCreate sha256 p r) Q R w := by
  refine meets_bind_iff.2 ⟨trivial, fun how w₁ ⟨⟨step, ran⟩, succeeds⟩ => ?_⟩
  rw [show Op.callbacks (.openExclusive p r) = [] from rfl, List.append_nil] at ran
  cases how with
  | fileExists => exact absurd hp step.1
  | failed => exact absurd succeeds id
  | opened =>
    obtain ⟨-, created⟩ := step
    refine meets_bind_iff.2 ⟨trivial, fun result w₂ ⟨⟨step, ran'⟩, succeeds⟩ => ?_⟩
    rw [show Op.callbacks (.write p r) = [] from rfl, List.append_nil] at ran'
    cases result with
    | error e => exact absurd succeeds id
    | ok _ =>
      have written : w₂.1 = w₁.1.set p (some (.whole r)) := step
      obtain rfl : w₂ = (w.1.set p (some (.whole r)), w.2) := by
        refine Prod.ext ?_ (ran'.trans ran)
        rw [written, created, Directory.set_set]
      exact hQ

end Rules

/-! ## Applied requests -/

section Applied

variable (sha256 : String → String) (q : Request)

/-- Nothing has happened to a request. -/
structure Unapplied (w : Directory × List String) : Prop where
  intent : w.1 (.intent (q.keyHash sha256)) = none
  closure : w.1 (.closure (q.operationId sha256)) = none
  never : w.2.count (q.operationId sha256) = 0

/-- A request was applied once, with a closure. -/
structure Applied (closure : Closure) (w : Directory × List String) : Prop where
  intent : ∃ i : Intent, w.1 (.intent (q.keyHash sha256)) = some (.whole i) ∧ i.requestDigest = q.digest sha256 ∧
    i.operationId = q.operationId sha256
  closure : w.1 (.closure (q.operationId sha256)) = some (.whole closure)
  once : w.2.count (q.operationId sha256) = 1

/-- The result for a closure. -/
def Request.result (closure : Closure) : Dict :=
  answerWith closure.publicResult (q.operationId sha256) (sha256 (canonicalBytes closure.record)) closure.correlationId

/-- The codes for which the caller takes a new idempotency key. -/
def conflictCodes : List String := ["INCOMPLETE_OPERATION", "JOURNAL_CONFLICT", "IDEMPOTENCY_CONFLICT"]

/-- An exception that is neither an answer nor a conflict. -/
def Harmless (e : Raised) : Prop := ∀ message status code, e = .control message status code → status ≠ 200 ∧ code ∉ conflictCodes

variable {sha256 q} {w : Directory × List String} {closure : Closure}

theorem harmless_control {message code : String} {status : ℕ} (h : status ≠ 200) (h' : code ∉ conflictCodes) :
    Harmless (.control message status code) := by
  rintro _ _ _ ⟨⟩
  exact ⟨h, h'⟩

theorem harmless_invalidRequest (message : String) : Harmless (invalidRequest message) :=
  harmless_control (by decide) (by decide)

theorem harmless_other : Harmless .other := nofun

/-- A request that was applied is answered from its closure. -/
theorem healthy_replay (h : Applied sha256 q closure w) : Meets healthy (fun _ _ => True) (replay sha256 q)
    (fun r w' => w' = w ∧ r.1 = q.result sha256 closure) (fun e w' => w' = w ∧ Harmless e) w := by
  obtain ⟨i, hi, digest, operation⟩ := h.intent
  have large : Harmless (.control "journal record exceeds 1048576 bytes" 413 "DOCUMENT_TOO_LARGE") :=
    harmless_control (by decide) (by decide)
  unfold replay
  refine meets_bind_iff.2 (healthy_readRecord hi ?_ ⟨rfl, large⟩)
  refine meets_bind_iff.2 (meets_raiseIf_iff.2 ⟨fun changed => ?_, fun _ => ?_⟩)
  · exact absurd changed (by rw [digest, operation]; simp)
  refine meets_bind_iff.2 (healthy_pathExists ?_)
  rw [h.closure]
  refine meets_bind_iff.2 (meets_raiseIf_iff.2 ⟨nofun, fun _ => ?_⟩)
  exact meets_bind_iff.2 (healthy_readRecord h.closure ⟨rfl, rfl⟩ ⟨rfl, large⟩)

/-- The first delivery of a request applies it. -/
theorem healthy_start (h : Unapplied sha256 q w) : Meets healthy (fun _ _ => True) (start sha256 q)
    (fun r w' => ∃ closure, Applied sha256 q closure w' ∧ r.1 = q.result sha256 closure) (fun _ _ => False) w := by
  unfold start
  refine meets_bind_iff.2 (healthy_utcNow fun startedAt => ?_)
  refine meets_bind_iff.2 (healthy_durableCreate h.intent ?_)
  refine meets_bind_iff.2 (healthy_callback fun ⟨publicResult, privateResult⟩ => ?_)
  refine meets_bind_iff.2 (healthy_readBytes fun text => ?_)
  refine meets_bind_iff.2 (healthy_utcNow fun completedAt => ?_)
  refine meets_bind_iff.2 (healthy_durableCreate (by simp [h.closure]) ?_)
  refine ⟨q.closure sha256 (sha256 text) completedAt publicResult privateResult, ?_, rfl⟩
  refine ⟨⟨q.intent sha256 startedAt, by simp, rfl, rfl⟩, by simp, ?_⟩
  rw [List.count_append, h.never, List.count_singleton_self]

theorem healthy_execute_first (h : Unapplied sha256 q w) : Meets healthy (fun _ _ => True) (execute sha256 q)
    (fun r w' => ∃ closure, Applied sha256 q closure w' ∧ r.1 = q.result sha256 closure)
    (fun e w' => w' = w ∧ Harmless e) w := by
  unfold execute
  refine meets_bind_iff.2 (meets_raiseIf_iff.2 ⟨fun _ => ⟨rfl, harmless_invalidRequest _⟩, fun _ => ?_⟩)
  refine meets_bind_iff.2 (healthy_pathExists ?_)
  rw [h.intent, if_neg (by simp)]
  exact (healthy_start h).mono (fun _ _ h => h) (fun _ _ h => h) fun _ _ h => absurd h id

theorem healthy_execute_again (h : Applied sha256 q closure w) : Meets healthy (fun _ _ => True) (execute sha256 q)
    (fun r w' => w' = w ∧ r.1 = q.result sha256 closure) (fun e w' => w' = w ∧ Harmless e) w := by
  obtain ⟨i, hi, -⟩ := h.intent
  unfold execute
  refine meets_bind_iff.2 (meets_raiseIf_iff.2 ⟨fun _ => ⟨rfl, harmless_invalidRequest _⟩, fun _ => ?_⟩)
  refine meets_bind_iff.2 (healthy_pathExists ?_)
  rw [hi, if_pos (by simp)]
  exact healthy_replay h

end Applied

/-! ## Refused requests -/

/-- A check whose exceptions are harmless. -/
def Polite {α : Type} (x : Except Raised α) : Prop := ∀ e, x = .error e → Harmless e

section Polite

variable {α β : Type}

theorem polite_ok {a : α} : Polite (.ok a : Except Raised α) := nofun

theorem polite_error {e : Raised} (h : Harmless e) : Polite (.error e : Except Raised α) := by
  rintro _ ⟨⟩
  exact h

theorem Polite.bind {x : Except Raised α} {f : α → Except Raised β} (hx : Polite x) (hf : ∀ a, Polite (f a)) :
    Polite (x >>= f) := by
  intro e he
  cases x with
  | error e' =>
    cases he
    exact hx _ rfl
  | ok a => exact hf a e he

theorem polite_require (c : Bool) (message : String) : Polite (require c message) := by
  unfold require
  split
  · exact polite_ok
  · exact polite_error (harmless_invalidRequest _)

theorem polite_exactKeys (value : Dict) (expected : List String) (label : String) : Polite (exactKeys value expected label) := by
  unfold exactKeys
  split
  · exact polite_ok
  · exact polite_error (harmless_invalidRequest _)

theorem polite_isOneOf (value : Json) (texts : List String) : Polite (isOneOf value texts) := by
  unfold isOneOf
  split
  · exact polite_ok
  · split
    · exact polite_ok
    · exact polite_error harmless_other

theorem polite_oneOf (value : Json) (texts : List String) (message : String) :
    Polite (do require (← isOneOf value texts) message) :=
  (polite_isOneOf value texts).bind fun _ => polite_require _ _

theorem polite_boundedInt (value : Json) (label : String) (minimum maximum : ℤ) :
    Polite (boundedInt value label minimum maximum) := by
  unfold boundedInt
  dsimp only
  split
  · split
    · exact polite_ok
    · exact polite_error (harmless_invalidRequest _)
  · exact polite_error (harmless_invalidRequest _)

theorem polite_faultCallback (action : String) (parameters : Dict) : Polite (faultCallback action parameters) := by
  unfold faultCallback
  split
  · refine (polite_exactKeys _ _ _).bind fun _ => (polite_isOneOf _ _).bind fun _ => (polite_require _ _).bind fun _ => ?_
    exact (polite_boundedInt _ _ _ _).bind fun _ => polite_require _ _
  split
  · refine (polite_exactKeys _ _ _).bind fun _ => (polite_isOneOf _ _).bind fun _ => (polite_require _ _).bind fun _ => ?_
    exact polite_require _ _
  split
  · refine (polite_exactKeys _ _ _).bind fun _ => (polite_isOneOf _ _).bind fun _ => (polite_require _ _).bind fun _ => ?_
    exact polite_oneOf _ _ _
  split
  · refine (polite_exactKeys _ _ _).bind fun _ => (polite_isOneOf _ _).bind fun _ => (polite_require _ _).bind fun _ => ?_
    exact polite_oneOf _ _ _
  refine (polite_exactKeys _ _ _).bind fun _ => ?_
  split
  · exact polite_ok
  split
  · exact polite_oneOf _ _ _
  · exact polite_error (harmless_control (by decide) (by decide))

theorem polite_strictObject (text label : String) : Polite (strictObject text label) := by
  unfold strictObject
  split
  · exact polite_error (harmless_control (by decide) (by decide))
  split
  · exact polite_error (harmless_invalidRequest _)
  · exact polite_error (harmless_invalidRequest _)
  · exact polite_ok
  · exact polite_error (harmless_invalidRequest _)

theorem polite_checkFault (c : Controller) (body : Dict) (correlationId : String) : Polite (c.checkFault body correlationId) := by
  unfold Controller.checkFault
  refine (polite_require _ _).bind fun _ => ?_
  split
  · exact polite_error (harmless_control (by decide) (by decide))
  refine (polite_exactKeys _ _ _).bind fun _ => ?_
  split
  · exact (polite_require _ _).bind fun _ => (polite_faultCallback _ _).bind fun _ => polite_ok
  · exact (polite_require _ _).bind fun _ => polite_error (harmless_invalidRequest _)
  · exact polite_error (harmless_invalidRequest _)

end Polite

/-! ## Deliveries -/

/-- A request is delivered to a controller that does not fail, and is answered. -/
def Controller.Delivers (c : Controller) (sha256 : String → String) (text idempotencyKey correlationId : String)
    (w : Directory × List String) (response : Response) (w' : Directory × List String) : Prop :=
  ∃ tr result, (c.post sha256 text idempotencyKey correlationId).run.Runs tr (.returned result) ∧ Accepts healthy w tr w' ∧
    response = respond result

/-- How a request stands: nothing has happened to it, or it was applied with a closure. -/
def Standing (sha256 : String → String) (q : Request) : Option Closure → Directory × List String → Prop
  | none => Unapplied sha256 q
  | some closure => Applied sha256 q closure

/-- The response is a conflict after which a caller gives up. -/
def GivesUp (response : Response) : Prop :=
  ∃ code message, response.document = .obj [("error", .obj [("code", .str code), ("message", .str message)])] ∧
    code ∉ conflictCodes

theorem respond_ok {d : Dict} : (respond (.ok d)).status = 200 → (respond (.ok d)).document = .obj d := by
  unfold respond
  dsimp only
  split
  · exact nofun
  · exact fun _ => rfl

theorem respond_ok_ne_conflict {d : Dict} : (respond (.ok d)).status ≠ 409 := by
  unfold respond
  dsimp only
  split <;> exact nofun

theorem respond_error {e : Raised} (h : Harmless e) :
    (respond (.error e)).status ≠ 200 ∧ ((respond (.error e)).status = 409 → GivesUp (respond (.error e))) := by
  cases e with
  | other =>
    unfold respond
    dsimp only
    split <;> exact ⟨nofun, nofun⟩
  | control message status code =>
    obtain ⟨hstatus, hcode⟩ := h _ _ _ rfl
    unfold respond
    dsimp only
    split
    · exact ⟨nofun, nofun⟩
    · exact ⟨hstatus, fun _ => ⟨code, message, rfl, hcode⟩⟩

/-- However often a request is delivered, it is applied once, and each receipt is the one of its closure. -/
theorem Controller.Delivers.standing {c : Controller} {sha256 : String → String} {text idempotencyKey correlationId : String}
    {q : Request} {w w' : Directory × List String} {response : Response} {before : Option Closure}
    (d : c.Delivers sha256 text idempotencyKey correlationId w response w') (h : Standing sha256 q before w)
    (same : ∀ body action, strictObject text "request" = .ok body → c.checkFault body correlationId = .ok action →
      c.request action body idempotencyKey correlationId = q) :
    ∃ after, Standing sha256 q after w' ∧ (∀ closure, before = some closure → after = some closure) ∧
      (response.status = 200 → ∃ closure, after = some closure ∧ response.document = .obj (c.receipt (q.result sha256 closure))) ∧
      (response.status = 409 → GivesUp response) := by
  have meets : Meets healthy (fun _ _ => True) (c.post sha256 text idempotencyKey correlationId)
      (fun d w' => ∃ closure, Applied sha256 q closure w' ∧ d = c.receipt (q.result sha256 closure) ∧
        ∀ closure', before = some closure' → closure = closure') (fun e w' => w' = w ∧ Harmless e) w := by
    unfold Controller.post
    refine meets_bind_iff.2 (meets_liftExcept_iff.2 ?_)
    cases hbody : strictObject text "request" with
    | error e => exact ⟨rfl, polite_strictObject _ _ e hbody⟩
    | ok body =>
      rw [ends_ok]
      refine meets_bind_iff.2 (meets_liftExcept_iff.2 ?_)
      cases haction : c.checkFault body correlationId with
      | error e => exact ⟨rfl, polite_checkFault _ _ _ e haction⟩
      | ok action =>
        rw [ends_ok, same body action hbody haction]
        refine meets_bind_iff.2 ?_
        cases before with
        | none =>
          refine (healthy_execute_first h).mono (fun _ _ h => h) ?_ fun _ _ h => h
          rintro r w' ⟨closure, applied, result⟩
          exact ⟨closure, applied, by rw [result], nofun⟩
        | some closure =>
          refine (healthy_execute_again h).mono (fun _ _ h => h) ?_ fun _ _ h => h
          rintro r w' ⟨rfl, result⟩
          refine ⟨closure, h, by rw [result], ?_⟩
          rintro _ ⟨⟩
          rfl
  obtain ⟨tr, result, run, acc, rfl⟩ := d
  have post := (meets.of_runs run acc).1 _ rfl
  cases result with
  | error e =>
    obtain ⟨rfl, harmless⟩ := post
    obtain ⟨ne, gives⟩ := respond_error harmless
    exact ⟨before, h, fun _ h => h, fun h => absurd h ne, gives⟩
  | ok d =>
    obtain ⟨closure, applied, rfl, unique⟩ := post
    refine ⟨some closure, applied, fun closure' h => by rw [unique closure' h], fun ok => ?_, fun conflict => ?_⟩
    · exact ⟨closure, rfl, respond_ok ok⟩
    · exact absurd conflict respond_ok_ne_conflict

end Zkdeal.FaultControl
