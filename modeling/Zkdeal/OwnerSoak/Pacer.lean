import Zkdeal.OwnerSoak.Disk
import Zkdeal.Soak.Verifier

/-!
# The timeline of a worker

`Pacer.run` runs the slots of the plan one after the other, and counts the ones that start late.  A slot
is any program over what a slot can do (`Step`).
-/

namespace Zkdeal.OwnerSoak

open Python Json Soak Interaction Stateful

/-! ## Slots -/

/-- What a slot can do: requests, its state, its journal, and everything else. -/
inductive Step : Type where
  | request (texts : Texts) (r : Request) (expect : List ℕ) (attempts : ℕ) (interval : ℚ)
  | update (f : DriverState → DriverState)
  | record (call : Call) (open' : call.closes = false)
  /-- A read of the state and of the journal. -/
  | consult
  | monotonic
  | sleep (seconds : ℚ)
  | outside (effect : String)

/-- What a step gives; a request and a record may raise, and the slot may catch what they raise. -/
abbrev Step.Result : Step → Type
  | .request .. => Except Raised (ℕ × Option Json × Bytes)
  | .update _ => Unit
  | .record .. => Except Raised (Option Event)
  | .consult => DriverState × Journal
  | .monotonic => ℚ
  | .sleep _ => Unit
  | .outside _ => String

/-- How a worker carries out a step. -/
def Step.carry : (step : Step) → Driver step.Result
  | .request texts r expect attempts interval => catching (OwnerSoak.request texts r expect attempts interval)
  | .update f => OwnerSoak.update f
  | .record call _ => catching (OwnerSoak.record call)
  | .consult => do
    let w ← get
    return (w.state, w.journal)
  | .monotonic => perform Op.monotonic
  | .sleep seconds => perform (Op.sleep seconds)
  | .outside effect => perform (Op.outside effect)

/-- A program of a slot. -/
abbrev SlotProg (α : Type) := Raising Raised Step Step.Result α

/-- `slot.run()` -/
def SlotProg.carry {α : Type} (run : SlotProg α) : Driver α := interpret Step.carry run.run

/-- A `Slot`; its `order` only matters for sorting the plan. -/
structure Slot where
  second : ℤ
  key : String
  run : SlotProg (Option Dict)

/-! ## The pacer -/

/-- A `Pacer`, but for its counter. -/
structure Pacer where
  base : ℤ
  started : ℚ

namespace Pacer

/-- `Pacer(clock, state)` -/
def new : Driver Pacer := do
  let w ← get
  let started ← perform Op.monotonic
  return ⟨w.state.elapsedSeconds, started⟩

/-- `pacer.elapsed()` -/
def elapsed (p : Pacer) : Driver ℚ := do
  let now ← perform Op.monotonic
  return p.base + (now - p.started)

/-- `pacer.wait_until(second)` -/
def waitUntil (p : Pacer) (second : ℤ) : ℕ → Driver Unit
  | 0 => ExceptT.mk fun _ => .halt
  | fuel + 1 => do
    let reached ← p.elapsed
    if reached < second then
      let now ← p.elapsed
      perform (Op.sleep (min 60 (max (second - now) (1 / 20))))
      p.waitUntil second fuel

/-- `grace_seconds` -/
def graceSeconds : ℤ := 300

/-- The slot starts more than the grace period late. -/
def late (second : ℤ) (elapsed : ℚ) : Bool := second + graceSeconds < elapsed

/-- The loop of `pacer.run`; it returns `deadline_misses`. -/
def runSlots (p : Pacer) (fuel : ℕ) : List Slot → ℕ → Driver ℕ
  | [], deadlineMisses => return deadlineMisses
  | slot :: slots, deadlineMisses => do
    let w ← get
    if w.state.stepDone slot.key then p.runSlots fuel slots deadlineMisses
    else
      p.waitUntil slot.second fuel
      let reached ← p.elapsed
      perform (Op.runSlot slot.key slot.second reached)
      let result ← slot.run.carry
      let done ← p.elapsed
      update fun s => s.markDone slot.key (truncate done) (result.getD [])
      p.runSlots fuel slots (if late slot.second reached then deadlineMisses + 1 else deadlineMisses)

/-- `pacer.run(slots, duration)` -/
def run (p : Pacer) (fuel : ℕ) (slots : List Slot) (duration : ℤ) : Driver ℕ := do
  let deadlineMisses ← p.runSlots fuel slots 0
  p.waitUntil duration fuel
  return deadlineMisses

end Pacer

/-! ## The closure -/

/-- What `assert_expected` finds. -/
structure Accounting where
  duplicateNonces : ℤ
  duplicateCharges : ℤ

/-- A budget of the manifest. -/
def budget (manifest : Dict) (name : String) (default : ℤ) : Except Raised ℤ :=
  match item manifest "budgets" with
  | .obj budgets => int (itemOr budgets name (.int default))
  | _ => .ok default

/-- `max_fairness` -/
def maxFairness (manifest : Dict) : Except Raised ℤ := budget manifest "maxFairnessWaitMs" 5000

/-- `max_misses` -/
def maxMisses (manifest : Dict) : Except Raised ℤ := budget manifest "maxDeadlineMisses" 0

/-- The fields of the closure. -/
def closureFields (manifestSha256 : String) (durationSeconds : ℤ) (accounting : Accounting) (fairnessMet deadlineMet : Bool) :
    Dict := [
  ("manifestSha256", .str manifestSha256),
  ("durationSeconds", .int durationSeconds),
  ("sealedOutputsUnchanged", .bool true),
  ("resumeVerified", .bool true),
  ("unresolvedSafetyEvents", .int 0),
  ("unresolvedClaims", .int 0),
  ("duplicateNonces", .int accounting.duplicateNonces),
  ("duplicateCharges", .int accounting.duplicateCharges),
  ("fairnessBudgetMet", .bool fairnessMet),
  ("deadlineBudgetMet", .bool deadlineMet)]

theorem closureFields_keys (manifestSha256 : String) (durationSeconds : ℤ) (accounting : Accounting)
    (fairnessMet deadlineMet : Bool) :
    (closureFields manifestSha256 durationSeconds accounting fairnessMet deadlineMet).map Prod.fst = ["manifestSha256",
      "durationSeconds", "sealedOutputsUnchanged", "resumeVerified", "unresolvedSafetyEvents", "unresolvedClaims",
      "duplicateNonces", "duplicateCharges", "fairnessBudgetMet", "deadlineBudgetMet"] := rfl

def closureCall (manifestSha256 : String) (durationSeconds : ℤ) (accounting : Accounting) (fairnessMet deadlineMet : Bool) :
    Call :=
  .close ⟨closureFields manifestSha256 durationSeconds accounting fairnessMet deadlineMet, by
    rw [simple, closureFields_keys]
    simp [closureFields, simpleFields, simple], by
    rw [closureFields_keys]
    decide⟩

/-- What a run is configured with. -/
structure Plan where
  manifestSha256 : String
  manifest : Dict
  slots : List Slot
  capabilities : SlotProg Unit
  assertExpected : SlotProg Accounting

/-- `write_closure(...)` -/
def writeClosure (plan : Plan) (p : Pacer) (deadlineMisses : ℕ) (accounting : Accounting) : Driver Unit := do
  let fairness ← liftExcept (maxFairness plan.manifest)
  let misses ← liftExcept (maxMisses plan.manifest)
  let w ← get
  raiseIf (fairness < w.maxWaitMs) (Raised.driverError ("bounded backoff exceeded the fairness budget: " ++
    toString w.maxWaitMs ++ "ms > " ++ toString fairness ++ "ms"))
  raiseIf (misses < deadlineMisses) (Raised.driverError (toString deadlineMisses ++
    " timeline deadline misses exceed the budget " ++ toString misses))
  let elapsed ← p.elapsed
  let duration ← liftExcept (required plan.manifest "durationSeconds" >>= int)
  let _ ← record (closureCall plan.manifestSha256 (max (truncate elapsed) duration) accounting (w.maxWaitMs ≤ fairness)
    (deadlineMisses ≤ misses))

/-- `run_worker(...)` -/
def runWorker (plan : Plan) (fuel : ℕ) : Driver Unit := do
  let opened ← boot plan.manifestSha256
  if opened then
    plan.capabilities.carry
    let p ← Pacer.new
    let duration ← liftExcept (required plan.manifest "durationSeconds" >>= int)
    let deadlineMisses ← p.run fuel plan.slots duration
    let accounting ← plan.assertExpected.carry
    writeClosure plan p deadlineMisses accounting

/-! ## Invariants -/

/-- An operation that neither is counted nor changes a file. -/
def Op.plain : Op → Bool
  | .monotonic | .sleep _ | .prepare _ | .send _ | .outside _ => true
  | _ => false

/-- What the operations of a slot keep. -/
structure Stable {W : Type} (env : Env Op Answer W) (ok : W → Op → Prop) (I : Worker → W → Prop) : Prop where
  perform : ∀ {o s w}, o.plain = true → I s w → ok w o ∧ ∀ r w', env w o r w' → I s w'
  update : ∀ {f s w}, I s w → Keeps env ok (update f) (fun _ => I) (fun _ => I) s w
  record : ∀ {call s w}, call.closes = false → I s w → Keeps env ok (record call) (fun _ => I) (fun _ => I) s w
  backOff : ∀ {wait s w}, I s w → Keeps env ok (backOff wait) (fun _ => I) (fun _ => I) s w

section Stable

variable {W : Type} {env : Env Op Answer W} {ok : W → Op → Prop} {I : Worker → W → Prop} {s : Worker} {w : W}

theorem Stable.request (h : Stable env ok I) {texts : Texts} {r : Request} {expect : List ℕ} {attempts : ℕ} {interval : ℚ}
    (hI : I s w) : Keeps env ok (request texts r expect attempts interval) (fun _ => I) (fun _ => I) s w :=
  keeps_request (fun _ _ => h.perform rfl) (fun _ _ => h.perform rfl) (fun _ _ _ => h.backOff) hI

theorem Stable.carry (h : Stable env ok I) (step : Step) (hI : I s w) :
    Keeps env ok step.carry (fun _ => I) (fun _ => I) s w := by
  cases step with
  | request texts r expect attempts interval => exact keeps_catching_iff.2 (h.request hI)
  | update f => exact h.update hI
  | record call open' => exact keeps_catching_iff.2 (h.record open' hI)
  | consult => exact hI
  | monotonic => exact keeps_perform_iff.2 (h.perform rfl hI)
  | sleep seconds => exact keeps_perform_iff.2 (h.perform rfl hI)
  | outside effect => exact keeps_perform_iff.2 (h.perform rfl hI)

/-- Every slot keeps what its operations keep. -/
theorem Stable.slot (h : Stable env ok I) {α : Type} (run : SlotProg α) (hI : I s w) :
    Keeps env ok run.carry (fun _ => I) (fun _ => I) s w :=
  Keeps.interpret (fun step _ _ => h.carry step) run.run hI

theorem keeps_elapsed_iff {p : Pacer} {Q : ℚ → Worker → W → Prop} {R : Raised → Worker → W → Prop} :
    Keeps env ok p.elapsed Q R s w ↔
      ok w .monotonic ∧ ∀ now w', env w .monotonic now w' → Q (p.base + (now - p.started)) s w' :=
  keeps_bind_iff.trans keeps_perform_iff

theorem Stable.elapsed (h : Stable env ok I) (p : Pacer) (hI : I s w) :
    Keeps env ok p.elapsed (fun _ => I) (fun _ => I) s w :=
  keeps_elapsed_iff.2 (h.perform rfl hI)

theorem Stable.waitUntil (h : Stable env ok I) (p : Pacer) (second : ℤ) (fuel : ℕ) (hI : I s w) :
    Keeps env ok (p.waitUntil second fuel) (fun _ => I) (fun _ => I) s w := by
  induction fuel generalizing s w with
  | zero => trivial
  | succ fuel ih =>
    unfold Pacer.waitUntil
    refine (h.elapsed p hI).bind fun reached s w hI => ?_
    split
    · refine (h.elapsed p hI).bind fun now s w hI => ?_
      exact keeps_bind_iff.2 (keeps_perform_iff.2 ⟨(h.perform rfl hI).1, fun r w' step => ih ((h.perform rfl hI).2 r w' step)⟩)
    · exact hI

/-- What a worker keeps for every number of misses. -/
structure Worked (env : Env Op Answer W) (ok : W → Op → Prop) (I : ℕ → Worker → W → Prop) : Prop where
  stable : ∀ misses, Stable env ok (I misses)
  starts : ∀ {misses key second reached s w}, I misses s w → ok w (.runSlot key second reached) ∧
    ∀ w', env w (.runSlot key second reached) () w' →
      I (if Pacer.late second reached then misses + 1 else misses) s w'

theorem permitted {α : Type} {x : Driver α} {Q : α → Worker → W → Prop} {R : Raised → Worker → W → Prop}
    (h : Keeps env ok x Q R s w) : Keeps env ok x Q (fun _ _ _ => True) s w :=
  h.mono (fun _ _ h => h) (fun _ _ _ h => h) fun _ _ _ _ => trivial

/-- The closure is recorded when the counters of the worker are within the budgets. -/
theorem Stable.writeClosure (h : Stable env ok I) {plan : Plan} {p : Pacer} {misses : ℕ} {accounting : Accounting}
    (hI : I s w) (records : ∀ fairness budget call w', maxFairness plan.manifest = .ok fairness →
      maxMisses plan.manifest = .ok budget → s.maxWaitMs ≤ fairness → misses ≤ budget → I s w' →
      Keeps env ok (OwnerSoak.record call) (fun _ _ _ => True) (fun _ _ _ => True) s w') :
    Keeps env ok (writeClosure plan p misses accounting) (fun _ _ _ => True) (fun _ _ _ => True) s w := by
  unfold OwnerSoak.writeClosure
  refine keeps_bind_iff.2 (keeps_liftExcept_iff.2 ?_)
  cases hfairness : maxFairness plan.manifest with
  | error e => trivial
  | ok fairness =>
    rw [ends_ok]
    refine keeps_bind_iff.2 (keeps_liftExcept_iff.2 ?_)
    cases hmisses : maxMisses plan.manifest with
    | error e => trivial
    | ok budget =>
      rw [ends_ok]
      refine keeps_bind_iff.2 (keeps_get_iff.2 ?_)
      refine keeps_bind_iff.2 (keeps_raiseIf_iff.2 ⟨fun _ => trivial, fun hfair => ?_⟩)
      refine keeps_bind_iff.2 (keeps_raiseIf_iff.2 ⟨fun _ => trivial, fun hmiss => ?_⟩)
      obtain ⟨ok, next⟩ := h.perform (o := .monotonic) rfl hI
      refine keeps_bind_iff.2 (keeps_elapsed_iff.2 ⟨ok, fun now w' step => ?_⟩)
      refine keeps_bind_iff.2 (keeps_liftExcept_iff.2 ?_)
      cases required plan.manifest "durationSeconds" >>= int with
      | error e => trivial
      | ok duration =>
        rw [ends_ok]
        exact (records fairness budget _ w' hfairness hmisses (not_lt.1 hfair) (not_lt.1 hmiss) (next now w' step)).bind
          fun _ _ _ _ => trivial

variable {I : ℕ → Worker → W → Prop} {misses : ℕ}

theorem Worked.runSlots (h : Worked env ok I) (p : Pacer) (fuel : ℕ) (slots : List Slot) (hI : I misses s w) :
    Keeps env ok (p.runSlots fuel slots misses) I (fun _ _ _ => True) s w := by
  induction slots generalizing misses s w with
  | nil => exact hI
  | cons slot slots ih =>
    unfold Pacer.runSlots
    refine keeps_bind_iff.2 (keeps_get_iff.2 ?_)
    split
    · exact ih hI
    refine (permitted ((h.stable misses).waitUntil p slot.second fuel hI)).bind fun _ s w hI => ?_
    refine (permitted ((h.stable misses).elapsed p hI)).bind fun reached s w hI => ?_
    refine keeps_bind_iff.2 (keeps_perform_iff.2 ⟨(h.starts hI).1, fun _ w' step => ?_⟩)
    have hI := (h.starts hI).2 w' step
    refine (permitted ((h.stable _).slot slot.run hI)).bind fun result s w hI => ?_
    refine (permitted ((h.stable _).elapsed p hI)).bind fun done s w hI => ?_
    exact (permitted ((h.stable _).update hI)).bind fun _ s w hI => ih hI

/-- A worker that boots within an invariant, and may close within it, only does what is permitted. -/
theorem Worked.runWorker (h : Worked env ok I) {plan : Plan} (fuel : ℕ)
    (boots : Keeps env ok (boot plan.manifestSha256) (fun opened s w => opened = true → I 0 s w) (fun _ _ _ => True) s w)
    (closes : ∀ misses p accounting s w, I misses s w →
      Keeps env ok (writeClosure plan p misses accounting) (fun _ _ _ => True) (fun _ _ _ => True) s w) :
    Keeps env ok (runWorker plan fuel) (fun _ _ _ => True) (fun _ _ _ => True) s w := by
  refine boots.bind fun opened s w hI => ?_
  cases opened with
  | false => trivial
  | true =>
    refine (permitted ((h.stable 0).slot plan.capabilities (hI rfl))).bind fun _ s w hI => ?_
    refine keeps_bind_iff.2 (keeps_bind_iff.2 (keeps_get_iff.2 ?_))
    obtain ⟨ok, next⟩ := (h.stable 0).perform (o := .monotonic) rfl hI
    refine keeps_bind_iff.2 (keeps_perform_iff.2 ⟨ok, fun started w' step => keeps_pure_iff.2 ?_⟩)
    have hI := next started w' step
    refine keeps_bind_iff.2 (keeps_liftExcept_iff.2 ?_)
    cases required plan.manifest "durationSeconds" >>= int with
    | error e => trivial
    | ok duration =>
      rw [ends_ok]
      refine keeps_bind_iff.2 ((h.runSlots _ fuel plan.slots hI).bind fun misses s w hI => ?_)
      refine (permitted ((h.stable misses).waitUntil _ duration fuel hI)).bind fun _ s w hI => ?_
      exact (permitted ((h.stable misses).slot plan.assertExpected hI)).bind fun accounting s w hI =>
        closes misses _ accounting s w hI

end Stable

end Zkdeal.OwnerSoak
