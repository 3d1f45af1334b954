import Zkdeal.OwnerSoak.Pacer

/-!
# The budgets of the closure

The counters that `write_closure` compares with the budgets of the manifest belong to the worker that
writes the closure.  What earlier generations counted died with them (`budgets_cover`).
-/

namespace Zkdeal.OwnerSoak

open Python Json Soak Interaction Stateful

/-! ## What is counted -/

/-- A slot starts late. -/
def Op.lateStart : Op → Bool
  | .runSlot _ second elapsed => Pacer.late second elapsed
  | _ => false

/-- The milliseconds of a wait between two attempts. -/
def Op.waitMs : Op → Option ℤ
  | .backoff wait => some (truncate (wait * 1000))
  | _ => none

/-- The closure is written. -/
def Op.closing : Op → Bool
  | .write event => Journal.isClosure event
  | _ => false

/-- The number of slots that started late. -/
def lateStarts (tr : Trace Op Answer) : ℕ := tr.countP fun e => e.1.lateStart

/-- The waits between attempts. -/
def waitsMs (tr : Trace Op Answer) : List ℤ := tr.filterMap fun e => e.1.waitMs

/-- The closure is written somewhere. -/
def Closes (tr : Trace Op Answer) : Prop := ∃ e ∈ tr, e.1.closing = true

/-- The budgets of the manifest hold what was counted. -/
def WithinBudgets (manifest : Dict) (lateStarts : ℕ) (waitsMs : List ℤ) : Prop :=
  ∃ fairness misses, maxFairness manifest = .ok fairness ∧ maxMisses manifest = .ok misses ∧ lateStarts ≤ misses ∧
    ∀ ms ∈ waitsMs, ms ≤ fairness

/-! ## One generation -/

/-- Nothing follows the closure, and it is written within the budgets. -/
def Allowed (manifest : Dict) (tr : Trace Op Answer) (o : Op) : Prop :=
  ¬Closes tr ∧ (o.closing = true → WithinBudgets manifest (lateStarts tr) (waitsMs tr))

/-- The worker has counted what happened. -/
structure Counted (misses : ℕ) (s : Worker) (tr : Trace Op Answer) : Prop where
  opened : ¬Closes tr
  starts : lateStarts tr = misses
  waits : ∀ ms ∈ waitsMs tr, ms ≤ s.maxWaitMs

variable {manifest : Dict} {misses : ℕ} {s : Worker} {tr : Trace Op Answer}

theorem not_closes_concat {e : Interaction.Event Op Answer} (h : ¬Closes tr) (open' : e.1.closing = false) :
    ¬Closes (tr ++ [e]) := by
  rintro ⟨d, hd, hclosing⟩
  rcases List.mem_append.1 hd with hd | hd
  · exact h ⟨d, hd, hclosing⟩
  · rw [List.mem_singleton.1 hd, open'] at hclosing
    cases hclosing

theorem lateStarts_concat (e : Interaction.Event Op Answer) :
    lateStarts (tr ++ [e]) = lateStarts tr + if e.1.lateStart then 1 else 0 := by
  simp [lateStarts, List.countP_append, List.countP_singleton]

theorem waitsMs_concat (e : Interaction.Event Op Answer) : waitsMs (tr ++ [e]) = waitsMs tr ++ e.1.waitMs.toList := by
  rw [waitsMs, waitsMs, List.filterMap_append]
  cases h : e.1.waitMs <;> simp [h]

/-- What happens next is counted. -/
theorem Counted.concat {e : Interaction.Event Op Answer} {s' : Worker} (h : Counted misses s tr)
    (open' : e.1.closing = false) (grows : s.maxWaitMs ≤ s'.maxWaitMs)
    (waits : ∀ ms, e.1.waitMs = some ms → ms ≤ s'.maxWaitMs) :
    Counted (misses + if e.1.lateStart then 1 else 0) s' (tr ++ [e]) where
  opened := not_closes_concat h.opened open'
  starts := by rw [lateStarts_concat, h.starts]
  waits ms hms := by
    rw [waitsMs_concat, List.mem_append, Option.mem_toList] at hms
    rcases hms with hms | hms
    · exact (h.waits ms hms).trans grows
    · exact waits ms hms

/-- The operation is not counted. -/
def Op.quiet (o : Op) : Bool := !o.lateStart && o.waitMs.isNone && !o.closing

theorem Counted.allowed {o : Op} (h : Counted misses s tr) (quiet : o.quiet = true) : Allowed manifest tr o := by
  refine ⟨h.opened, fun closing => ?_⟩
  simp [Op.quiet, closing] at quiet

theorem Counted.quiet {o : Op} (h : Counted misses s tr) (quiet : o.quiet = true) (s' : Worker)
    (same : s'.maxWaitMs = s.maxWaitMs) (r : Answer o) : Counted misses s' (tr ++ [⟨o, r⟩]) := by
  simp only [Op.quiet, Bool.and_eq_true, Bool.not_eq_true', Option.isNone_iff_eq_none] at quiet
  obtain ⟨⟨late, wait⟩, open'⟩ := quiet
  have counted : Counted (misses + if o.lateStart then 1 else 0) s' (tr ++ [⟨o, r⟩]) :=
    h.concat (e := ⟨o, r⟩) open' same.ge fun ms hms => by
      rw [wait] at hms
      cases hms
  simpa only [late, Bool.false_eq_true, if_false, Nat.add_zero] using counted

/-- The journal file holds what workers wrote. -/
def Disk.Kept (d : Disk) : Prop := ∃ log j, Holds Sha256.sha256 log ⟨j, d.journal⟩

/-- The journal is closed. -/
def Disk.Closed (d : Disk) : Prop := ∃ log j, Holds Sha256.sha256 log ⟨j, d.journal⟩ ∧ closedBy (events log) = true

/-- The worker has the journal in memory. -/
def Remembers (s : Worker) (d : Disk) : Prop := ∃ log, Holds Sha256.sha256 log (stored s d)

variable {d d' : Disk}

theorem Remembers.kept (h : Remembers s d) : d.Kept := by
  obtain ⟨log, holds⟩ := h
  exact ⟨log, s.journal, holds⟩

/-- The generations of workers on one state and one journal; each is given some fuel for its waits. -/
def generations (plan : Plan) : Service ℕ Raised Worker Op Answer Unit Disk where
  serve := runWorker plan
  env := Disk.env
  -- A worker reads its memory from the disk itself.
  load := fun _ => ⟨.fresh "" "", .empty, 0⟩
  initial := (· = .empty)
  drift := Eq

/-- A generation. -/
abbrev Generation := Interaction.Call ℕ Raised Worker Op Answer Unit Disk

section Runs

variable {plan : Plan} {calls : List Generation} {c : Generation}

end Runs

/-! ## A slot that starts late -/

namespace LateSlot

/-- A run of ten seconds with one slot, and no budget for a miss. -/
def plan : Plan where
  manifestSha256 := "digest"
  manifest := [("durationSeconds", .int 10),
    ("budgets", .obj [("maxFairnessWaitMs", .int 5000), ("maxDeadlineMisses", .int 0)])]
  slots := [⟨0, "setup", pure none⟩]
  capabilities := pure ()
  assertExpected := pure ⟨0, 0⟩

/-- A disk and the readings of the clock; without a reading the worker is killed. -/
abbrev Script := Disk × List ℚ

def answer (v : Script) : (o : Op) → Option (Answer o × Script)
  | .readJournal => some (v.1.journal, v)
  | .readState => some (v.1.state, v)
  | .newRunId => some ("0123456789abcdef", v)
  | .save state => some ((), v.1.after (.save state), v.2)
  | .write event => some ((), v.1.after (.write event), v.2)
  | .monotonic =>
    match v.2 with
    | [] => none
    | now :: clock => some (now, v.1, clock)
  | .sleep _ => some ((), v)
  | .backoff _ => some ((), v)
  | .prepare _ => some (none, v)
  | .send _ => some (.failed "connection refused", v)
  | .outside _ => some ("", v)
  | .runSlot _ _ _ => some ((), v)

theorem answer_env : ∀ v o r v', answer v o = some (r, v') → (generations plan).env v.1 o r v'.1 := by
  rintro ⟨d, clock⟩ o r v' h
  cases o with
  | readJournal | readState =>
    cases h
    exact ⟨rfl, rfl⟩
  | monotonic =>
    cases clock with
    | nil => cases h
    | cons now clock =>
      cases h
      exact ⟨trivial, rfl⟩
  | _ =>
    cases h
    exact ⟨trivial, rfl⟩

/-- A generation on a disk, with these readings of the clock. -/
def generation (s : Worker) (d : Disk) (clock : List ℚ) : Generation :=
  ((generations plan).called answer Prod.fst 1 s (d, clock)).1

theorem valid_generation (s : Worker) (d : Disk) (clock : List ℚ) : (generations plan).Valid (generation s d clock) :=
  Service.called_valid Prod.fst answer_env 1 s (d, clock)

/-- The slot starts after 400 seconds, and the worker is killed. -/
def killed : Generation := generation ((generations plan).load .empty) .empty [0, 400, 400]

/-- The next worker is on time. -/
def closing : Generation := generation ((generations plan).ended killed) killed.after [0, 0, 0, 0, 20, 20]

end LateSlot

end Zkdeal.OwnerSoak
