import Mathlib.Data.Prod.Lex
import Mathlib.Data.String.Basic
import Zkdeal.OwnerSoak.Charges
import Zkdeal.Python.JsonRoundTrip
import Zkdeal.Python.JsonSize
import Zkdeal.Python.JsonStrict

/-!
# The plan of a soak

`load_manifest` checks the durations and the schedule of the faults, and `build_plan` merges the workload and
the faults into one timeline.  Among the aggregate cycles, one should be before the restart of the docker host
and one after it (`Brackets`); the last one is clamped to a minute before the end, so there is none after a
fault of the last minute (`build_plan_brackets_iff`).
-/

namespace Zkdeal.OwnerSoak

open Python Json Soak

/-! ## The manifest -/

/-- `MAX_DOCUMENT_BYTES` -/
def maxDocumentBytes : ℕ := 4 * 1024 * 1024

/-- `parse_json(raw, label)`; `reason` is the text of the exception for a text that is not JSON. -/
def parseJson (reason : String) (raw : Bytes) (label : String) : Except Raised Json :=
  if maxDocumentBytes < raw.length then
    .error (.driverError (label ++ " exceeds " ++ toString maxDocumentBytes ++ " bytes"))
  else
    match decodeUtf8 raw with
    | none => .error (.driverError (label ++ " is not strict UTF-8 JSON: " ++ reason))
    | some text =>
      match strictLoads text with
      | .error .malformed => .error (.driverError (label ++ " is not strict UTF-8 JSON: " ++ reason))
      | .error (.duplicate key) => .error (.driverError (label ++ " contains duplicate key " ++ Python.reprStr key))
      | .ok value => .ok value

/-- A turn of the loop over the scheduled faults. -/
def seeFault (duration : ℤ) (seen : List (String × ℤ)) : Json → Except Raised (List (String × ℤ))
  | .obj fault => do
    let kind ← requireStr (item fault "kind") "scheduledFaults.kind"
    let atSecond ← requireInt (item fault "atSecond") "scheduledFaults.atSecond" 0
    if kind ∈ seen.map Prod.fst then .error (.driverError ("scheduled fault " ++ kind ++ " appears twice"))
    else if duration ≤ atSecond then .error (.driverError ("scheduled fault " ++ kind ++ " is outside the soak duration"))
    else .ok (seen ++ [(kind, atSecond)])
  | _ => .error (.driverError "every scheduled fault must be an object")

/-- `load_manifest` after the faults. -/
def checkRest (manifest : Dict) : Except Raised Dict :=
  match item manifest "expected" with
  | .obj expected => do
    let _ ← requireInt (item expected "usageUnits") "expected.usageUnits" 0
    let _ ← requireInt (item expected "chargesWei") "expected.chargesWei" 0
    let refused := .error (.driverError "manifest chainSeed.chainId must be a positive integer")
    match item manifest "chainSeed" with
    | .obj seed =>
      match intOf (item seed "chainId") with
      | some chainId => if chainId < 1 then refused else .ok manifest
      | none => refused
    | _ => refused
  | _ => .error (.driverError "manifest expected must be an object")

/-- `load_manifest` of an object. -/
def checkManifest (manifest : Dict) : Except Raised Dict := do
  let duration ← requireInt (item manifest "durationSeconds") "durationSeconds" 1
  match item manifest "scheduledFaults" with
  | .arr faults =>
    let seen ← faults.foldlM (seeFault duration) []
    if seen.map Prod.fst ⊆ requiredFaults ∧ requiredFaults ⊆ seen.map Prod.fst then checkRest manifest
    else
      .error (.driverError ("manifest must schedule exactly the reviewed faults, got " ++ reprSorted (seen.map Prod.fst)))
  | _ => .error (.driverError "manifest scheduledFaults must be a list")

/-- `load_manifest(path)` of a file with the bytes `raw` -/
def loadManifest (reason : String) (raw : Bytes) : Except Raised Dict := do
  let refused := .error (.driverError "manifest must be a zkdeal-release-soak schemaVersion 1 object")
  match ← parseJson reason raw "soak manifest" with
  | .obj manifest =>
    if (item manifest "kind").eq (.str "zkdeal-release-soak") && (item manifest "schemaVersion").eq (.int 1) then
      checkManifest manifest
    else refused
  | _ => refused

/-! ## The plan -/

/-- What a slot runs. -/
inductive Work : Type where
  | setup
  | pulse (index : ℕ)
  | aggregate (index : ℕ)
  | sponsor
  | withdraw
  | fault (name : String) (atSecond : ℤ)
  | reconcile
  deriving DecidableEq

/-- A `Slot` of the plan, with what its `run` calls. -/
structure PlannedSlot where
  second : ℤ
  order : ℕ
  key : String
  work : Work
  deriving DecidableEq

/-- `PULSE_COUNT` -/
def pulseCount : ℕ := 36

/-- `f"{index:02d}"` -/
def twoDigits (index : ℕ) : String := if index < 10 then "0" ++ toString index else toString index

/-- `aggregate_seconds` -/
def aggregateSeconds (duration dockerAt : ℤ) : List ℤ :=
  let seconds := [duration / 12, duration / 2, duration * 7 / 8]
  let seconds := if seconds.any (· < dockerAt) then seconds else seconds.set 0 (max 0 (dockerAt - 60))
  if seconds.any (dockerAt < ·) then seconds else seconds.set 2 (min (duration - 60) (dockerAt + 60))

/-- The slot of the pulse `index`. -/
def pulseSlot (duration : ℤ) (index : ℕ) : PlannedSlot :=
  ⟨index * max 1 (duration / pulseCount), 1, "pulse-" ++ twoDigits index, .pulse index⟩

/-- The slot of an aggregate cycle. -/
def aggregateSlot (second : ℤ) (index : ℕ) : PlannedSlot := ⟨second, 2, "aggregate-" ++ toString index, .aggregate index⟩

/-- The slot of a fault. -/
def faultSlot (name : String) (atSecond : ℤ) : PlannedSlot := ⟨atSecond, 5, "fault-" ++ name, .fault name atSecond⟩

/-- The slot of the reconciliation. -/
def reconcileSlot (duration : ℤ) : PlannedSlot := ⟨max 0 (duration - 60), 6, "reconcile", .reconcile⟩

/-- `faults`, from the items of `scheduledFaults`; a later item replaces an earlier one of its kind. -/
def faultsOf (items : List (String × ℤ)) : List (String × ℤ) :=
  items.foldl (fun faults item =>
    if item.1 ∈ faults.map Prod.fst then faults.map fun e => if e.1 = item.1 then item else e else faults ++ [item]) []

/-- The slots in the order in which they are appended. -/
def appendedSlots (duration dockerAt : ℤ) (faults : List (String × ℤ)) : List PlannedSlot :=
  [⟨0, 0, "setup", .setup⟩] ++ (List.range pulseCount).map (pulseSlot duration) ++
    (((aggregateSeconds duration dockerAt).insertionSort (· ≤ ·)).zipIdx.map fun (second, index) => aggregateSlot second index) ++
    [⟨duration / 3, 3, "sponsor", .sponsor⟩, ⟨duration * 2 / 3, 4, "withdraw", .withdraw⟩] ++
    ((faults.insertionSort fun a b => a.1 ≤ b.1).map fun (name, atSecond) => faultSlot name atSecond) ++
    [reconcileSlot duration]

/-- `slot.second, slot.order, slot.key`, in the order of tuples -/
def PlannedSlot.sortKey (slot : PlannedSlot) : ℤ ×ₗ ℕ ×ₗ String := toLex (slot.second, toLex (slot.order, slot.key))

/-- `sorted(slots, key=lambda slot: (slot.second, slot.order, slot.key))` -/
def sortedSlots (duration dockerAt : ℤ) (faults : List (String × ℤ)) : List PlannedSlot :=
  (appendedSlots duration dockerAt faults).insertionSort fun a b => a.sortKey ≤ b.sortKey

/-- An item of `scheduledFaults`, as `build_plan` reads it. -/
def scheduledFault (texts : Texts) : Json → Except Raised (String × ℤ)
  | .obj fault => do
    let kind ← required fault "kind"
    let atSecond ← Soak.int (← required fault "atSecond")
    return (strOf texts kind, atSecond)
  | _ => .error .typeError

/-- `build_plan(manifest, workload, injector)` -/
def buildPlan (texts : Texts) (manifest : Dict) : Except Raised (List PlannedSlot) := do
  let duration ← Soak.int (← required manifest "durationSeconds")
  let items ← match ← required manifest "scheduledFaults" with
    | .arr items => items.mapM (scheduledFault texts)
    | _ => .error .typeError
  let faults := faultsOf items
  match faults.lookup "docker-host-restart-resume" with
  | some dockerAt => return sortedSlots duration dockerAt faults
  | none => .error .keyError

/-! ## Order -/

/-- `slot` is before `slot'` in the plan. -/
def Precedes (plan : List PlannedSlot) (slot slot' : PlannedSlot) : Prop := [slot, slot'].Sublist plan

/-- The workload between the setup and the reconciliation. -/
def Work.isLoad : Work → Bool
  | .pulse _ | .aggregate _ | .sponsor | .withdraw => true
  | _ => false

def Work.isAggregate : Work → Bool
  | .aggregate _ => true
  | _ => false

def Work.isFault : Work → Bool
  | .fault .. => true
  | _ => false

/-- What the timeline promises: the restart of the docker host is between two aggregate cycles. -/
structure Brackets (plan : List PlannedSlot) : Prop where
  keys : (plan.map PlannedSlot.key).Nodup
  reconcile : ∃ last ∈ plan, last.key = "reconcile" ∧ ∀ slot ∈ plan, slot.work.isLoad = true → Precedes plan slot last
  pulse : ∃ first ∈ plan, first.key = "pulse-00" ∧ ∀ slot ∈ plan, slot.work.isFault = true → Precedes plan first slot
  aggregates : ∃ restart ∈ plan, restart.key = "fault-docker-host-restart-resume" ∧
    (∃ slot ∈ plan, slot.work.isAggregate = true ∧ Precedes plan slot restart) ∧
    ∃ slot ∈ plan, slot.work.isAggregate = true ∧ Precedes plan restart slot

section Sorted

variable {slots : List PlannedSlot} {slot slot' : PlannedSlot}

theorem sortKey_lt_of_second (h : slot.second < slot'.second) : slot.sortKey < slot'.sortKey :=
  Prod.Lex.lt_iff.2 (.inl h)

theorem sortKey_lt_of_order (h : slot.second = slot'.second) (horder : slot.order < slot'.order) :
    slot.sortKey < slot'.sortKey :=
  Prod.Lex.lt_iff.2 (.inr ⟨h, Prod.Lex.lt_iff.2 (.inl horder)⟩)

/-- A slot of an earlier second, or of the same one and a lower order, comes first. -/
theorem sortKey_lt (h : slot.second ≤ slot'.second) (horder : slot.order < slot'.order) : slot.sortKey < slot'.sortKey := by
  obtain hlt | heq := h.lt_or_eq
  · exact sortKey_lt_of_second hlt
  · exact sortKey_lt_of_order heq horder

theorem precedes_of_lt {plan : List PlannedSlot} (hsorted : plan.Pairwise fun a b => a.sortKey ≤ b.sortKey)
    (hslot : slot ∈ plan) (hslot' : slot' ∈ plan) (hlt : slot.sortKey < slot'.sortKey) : Precedes plan slot slot' := by
  induction plan with
  | nil => cases hslot
  | cons head plan ih =>
    rw [List.pairwise_cons] at hsorted
    obtain rfl | htail := List.mem_cons.1 hslot
    · have hne : slot' ≠ slot := by
        rintro rfl
        exact lt_irrefl _ hlt
      have htail : slot' ∈ plan := (List.mem_cons.1 hslot').resolve_left hne
      exact List.Sublist.cons_cons _ (List.singleton_sublist.2 htail)
    · obtain rfl | htail' := List.mem_cons.1 hslot'
      · exact absurd (hsorted.1 slot htail) (not_le.2 hlt)
      · exact List.Sublist.cons _ (ih hsorted.2 htail htail')

theorem le_of_precedes {plan : List PlannedSlot} (hsorted : plan.Pairwise fun a b => a.sortKey ≤ b.sortKey)
    (h : Precedes plan slot slot') : slot.sortKey ≤ slot'.sortKey := by
  have hpair : [slot, slot'].Pairwise fun a b => a.sortKey ≤ b.sortKey := hsorted.sublist h
  exact (List.pairwise_cons.1 hpair).1 slot' (List.mem_singleton_self _)

end Sorted

/-! ## Seconds -/

section Seconds

variable {duration dockerAt : ℤ}

theorem pulseSlot_second_le (hlong : 43200 ≤ duration) {index : ℕ} (hindex : index < pulseCount) :
    (pulseSlot duration index).second ≤ duration - 60 := by
  have hinterval : max 1 (duration / (pulseCount : ℕ)) = duration / 36 := by
    unfold pulseCount
    omega
  have hcount : (index : ℤ) ≤ 35 := by
    unfold pulseCount at hindex
    omega
  have hproduct : (index : ℤ) * (duration / 36) ≤ 35 * (duration / 36) :=
    Int.mul_le_mul_of_nonneg_right hcount (by omega)
  change (index : ℤ) * max 1 (duration / (pulseCount : ℕ)) ≤ duration - 60
  rw [hinterval]
  omega

theorem mem_aggregateSeconds (hlong : 43200 ≤ duration) (hdocker : 0 ≤ dockerAt) (hinside : dockerAt < duration) :
    (∀ second ∈ aggregateSeconds duration dockerAt, second ≤ duration - 60) ∧
    (∃ second ∈ aggregateSeconds duration dockerAt, second ≤ dockerAt) ∧
    (dockerAt < duration - 60 → ∃ second ∈ aggregateSeconds duration dockerAt, dockerAt < second) := by
  have hseconds : aggregateSeconds duration dockerAt =
      [if duration / 12 < dockerAt then duration / 12 else max 0 (dockerAt - 60), duration / 2,
        if dockerAt < duration * 7 / 8 then duration * 7 / 8 else min (duration - 60) (dockerAt + 60)] := by
    unfold aggregateSeconds
    by_cases hearly : duration / 12 < dockerAt
    · have hany : [duration / 12, duration / 2, duration * 7 / 8].any (· < dockerAt) = true := by simp [hearly]
      rw [if_pos hearly]
      simp only [hany, if_true]
      by_cases hlate : dockerAt < duration * 7 / 8
      · simp [hlate]
      · have hnone : ¬(dockerAt < duration / 12 ∨ dockerAt < duration / 2) := by omega
        simp [hlate, not_or.1 hnone]
    · have hhalf : ¬duration / 2 < dockerAt := by omega
      have hend : ¬duration * 7 / 8 < dockerAt := by omega
      have hlate : dockerAt < duration * 7 / 8 := by omega
      simp [hearly, hhalf, hend, hlate]
  rw [hseconds]
  refine ⟨?_, ?_, fun hbefore => ?_⟩
  · simp only [List.mem_cons, List.not_mem_nil, or_false, forall_eq_or_imp, forall_eq]
    refine ⟨?_, by omega, ?_⟩ <;> split_ifs <;> omega
  · refine ⟨_, List.mem_cons_self, ?_⟩
    split_ifs <;> omega
  · refine ⟨_, List.mem_cons_of_mem _ (List.mem_cons_of_mem _ List.mem_cons_self), ?_⟩
    split_ifs <;> omega

end Seconds

/-! ## Slots of the plan -/

section Slots

variable {duration dockerAt : ℤ} {faults : List (String × ℤ)} {slot : PlannedSlot}

theorem length_aggregateSeconds (duration dockerAt : ℤ) : (aggregateSeconds duration dockerAt).length = 3 := by
  unfold aggregateSeconds
  dsimp only
  split_ifs <;> simp

/-- What the slots are, in the order in which they are appended. -/
theorem mem_appendedSlots : slot ∈ appendedSlots duration dockerAt faults ↔
    slot = ⟨0, 0, "setup", .setup⟩ ∨ (∃ index < pulseCount, pulseSlot duration index = slot) ∨
    (∃ second index, ((aggregateSeconds duration dockerAt).insertionSort (· ≤ ·))[index]? = some second ∧
      aggregateSlot second index = slot) ∨
    slot = ⟨duration / 3, 3, "sponsor", .sponsor⟩ ∨ slot = ⟨duration * 2 / 3, 4, "withdraw", .withdraw⟩ ∨
    (∃ fault ∈ faults, faultSlot fault.1 fault.2 = slot) ∨ slot = reconcileSlot duration := by
  simp only [appendedSlots, List.mem_append, List.mem_cons, List.not_mem_nil, or_false, List.mem_map, List.mem_range,
    List.mem_insertionSort, List.mem_zipIdx_iff_getElem?, Prod.exists, or_assoc]

/-- The keys, but for their order. -/
def planKeys : List String :=
  ["setup"] ++ (List.range pulseCount).map (fun index => "pulse-" ++ twoDigits index) ++
    (List.range 3).map (fun index => "aggregate-" ++ toString index) ++ ["sponsor", "withdraw"] ++
    requiredFaults.map ("fault-" ++ ·) ++ ["reconcile"]

theorem nodup_planKeys : planKeys.Nodup := by decide

theorem perm_planKeys (hfaults : (faults.map Prod.fst).Perm requiredFaults) :
    ((appendedSlots duration dockerAt faults).map PlannedSlot.key).Perm planKeys := by
  have haggregates : (((aggregateSeconds duration dockerAt).insertionSort (· ≤ ·)).zipIdx.map fun (second, index) =>
      aggregateSlot second index).map PlannedSlot.key = (List.range 3).map fun index => "aggregate-" ++ toString index := by
    have hindexes := List.zipIdx_map_snd 0 ((aggregateSeconds duration dockerAt).insertionSort (· ≤ ·))
    rw [List.length_insertionSort, length_aggregateSeconds, ← List.range_eq_range'] at hindexes
    rw [← hindexes, List.map_map, List.map_map]
    rfl
  have hnames : ((faults.insertionSort fun a b => a.1 ≤ b.1).map fun (name, atSecond) => faultSlot name atSecond).map
      PlannedSlot.key = ((faults.insertionSort fun a b => a.1 ≤ b.1).map Prod.fst).map ("fault-" ++ ·) := by
    rw [List.map_map, List.map_map]
    rfl
  have hsorted : ((faults.insertionSort fun a b => a.1 ≤ b.1).map Prod.fst).Perm requiredFaults :=
    ((List.perm_insertionSort _ faults).map Prod.fst).trans hfaults
  unfold appendedSlots planKeys
  simp only [List.map_append, haggregates, hnames]
  refine List.Perm.append (List.Perm.append ?_ (hsorted.map _)) (List.Perm.refl _)
  rw [List.map_map]
  exact List.Perm.refl _

theorem mem_sortedSlots : slot ∈ sortedSlots duration dockerAt faults ↔ slot ∈ appendedSlots duration dockerAt faults :=
  List.mem_insertionSort _

instance : Std.Total fun a b : PlannedSlot => a.sortKey ≤ b.sortKey := ⟨fun a b => le_total a.sortKey b.sortKey⟩

instance : IsTrans PlannedSlot fun a b => a.sortKey ≤ b.sortKey := ⟨fun _ _ _ => le_trans⟩

theorem pairwise_sortedSlots : (sortedSlots duration dockerAt faults).Pairwise fun a b => a.sortKey ≤ b.sortKey :=
  List.pairwise_insertionSort _ _

/-- A slot of the plan precedes another one by its second and its order. -/
theorem precedes_sortedSlots {slot' : PlannedSlot} (h : slot ∈ appendedSlots duration dockerAt faults)
    (h' : slot' ∈ appendedSlots duration dockerAt faults) (hsecond : slot.second ≤ slot'.second)
    (horder : slot.order < slot'.order) : Precedes (sortedSlots duration dockerAt faults) slot slot' :=
  precedes_of_lt pairwise_sortedSlots (mem_sortedSlots.2 h) (mem_sortedSlots.2 h') (sortKey_lt hsecond horder)

theorem mem_aggregateSlot {second : ℤ} (h : second ∈ aggregateSeconds duration dockerAt) :
    ∃ index, aggregateSlot second index ∈ appendedSlots duration dockerAt faults := by
  obtain ⟨index, hindex⟩ := List.mem_iff_getElem?.1 ((List.mem_insertionSort (· ≤ ·)).2 h)
  exact ⟨index, mem_appendedSlots.2 (.inr (.inr (.inl ⟨second, index, hindex, rfl⟩)))⟩

theorem exists_of_isAggregate (h : slot ∈ appendedSlots duration dockerAt faults) (hwork : slot.work.isAggregate = true) :
    ∃ index, ∃ second ∈ aggregateSeconds duration dockerAt, slot = aggregateSlot second index := by
  obtain rfl | ⟨_, _, rfl⟩ | ⟨second, index, hindex, rfl⟩ | rfl | rfl | ⟨_, _, rfl⟩ | rfl := mem_appendedSlots.1 h
  case inr.inr.inl => exact ⟨index, second, (List.mem_insertionSort _).1 (List.mem_of_getElem? hindex), rfl⟩
  all_goals cases hwork

theorem exists_of_isFault (h : slot ∈ appendedSlots duration dockerAt faults) (hwork : slot.work.isFault = true) :
    ∃ fault ∈ faults, slot = faultSlot fault.1 fault.2 := by
  obtain rfl | ⟨_, _, rfl⟩ | ⟨_, _, _, rfl⟩ | rfl | rfl | ⟨fault, hfault, rfl⟩ | rfl := mem_appendedSlots.1 h
  case inr.inr.inr.inr.inr.inl => exact ⟨fault, hfault, rfl⟩
  all_goals cases hwork

variable (hlong : 43200 ≤ duration) (hdocker : 0 ≤ dockerAt) (hinside : dockerAt < duration)
include hlong hdocker hinside

/-- The workload ends a minute before the run does. -/
theorem second_le_of_isLoad (h : slot ∈ appendedSlots duration dockerAt faults) (hwork : slot.work.isLoad = true) :
    slot.second ≤ duration - 60 ∧ slot.order < 6 := by
  obtain rfl | ⟨index, hindex, rfl⟩ | ⟨second, index, hindex, rfl⟩ | rfl | rfl | ⟨_, _, rfl⟩ | rfl := mem_appendedSlots.1 h
  · cases hwork
  · exact ⟨pulseSlot_second_le hlong hindex, by simp [pulseSlot]⟩
  · have hmem : second ∈ aggregateSeconds duration dockerAt :=
      (List.mem_insertionSort _).1 (List.mem_of_getElem? hindex)
    exact ⟨(mem_aggregateSeconds hlong hdocker hinside).1 second hmem, by simp [aggregateSlot]⟩
  · refine ⟨?_, by simp⟩
    change duration / 3 ≤ duration - 60
    omega
  · refine ⟨?_, by simp⟩
    change duration * 2 / 3 ≤ duration - 60
    omega
  · cases hwork
  · cases hwork

/-- The restart is bracketed unless it comes in the last minute. -/
theorem brackets_iff (hfaults : (faults.map Prod.fst).Perm requiredFaults)
    (hrestart : ("docker-host-restart-resume", dockerAt) ∈ faults) (hseconds : ∀ fault ∈ faults, 0 ≤ fault.2) :
    Brackets (sortedSlots duration dockerAt faults) ↔ dockerAt < duration - 60 := by
  have hkeys : ((sortedSlots duration dockerAt faults).map PlannedSlot.key).Nodup :=
    (((List.perm_insertionSort _ _).map _).trans (perm_planKeys hfaults)).nodup_iff.2 nodup_planKeys
  have hslot : faultSlot "docker-host-restart-resume" dockerAt ∈ appendedSlots duration dockerAt faults :=
    mem_appendedSlots.2 (.inr (.inr (.inr (.inr (.inr (.inl ⟨_, hrestart, rfl⟩))))))
  have hlast : reconcileSlot duration ∈ appendedSlots duration dockerAt faults :=
    mem_appendedSlots.2 (.inr (.inr (.inr (.inr (.inr (.inr rfl))))))
  have hfirst : pulseSlot duration 0 ∈ appendedSlots duration dockerAt faults :=
    mem_appendedSlots.2 (.inr (.inl ⟨0, by decide, rfl⟩))
  have haggregates := mem_aggregateSeconds hlong hdocker hinside
  constructor
  · intro h
    obtain ⟨restart, hmem, hkey, -, slot, hslotmem, hwork, hprecedes⟩ := h.aggregates
    have hsame : restart = faultSlot "docker-host-restart-resume" dockerAt :=
      List.inj_on_of_nodup_map hkeys hmem (mem_sortedSlots.2 hslot) hkey
    obtain ⟨index, second, hsecond, rfl⟩ := exists_of_isAggregate (mem_sortedSlots.1 hslotmem) hwork
    by_contra hafter
    have hlt : (aggregateSlot second index).sortKey < restart.sortKey := by
      rw [hsame]
      apply sortKey_lt
      · have hclamped := haggregates.1 second hsecond
        change second ≤ dockerAt
        omega
      · simp [aggregateSlot, faultSlot]
    exact absurd (le_of_precedes pairwise_sortedSlots hprecedes) (not_le.2 hlt)
  · intro hbefore
    have hpulse : "pulse-" ++ twoDigits 0 = "pulse-00" := by decide
    refine ⟨hkeys, ⟨_, mem_sortedSlots.2 hlast, rfl, ?_⟩, ⟨_, mem_sortedSlots.2 hfirst, hpulse, ?_⟩,
      ⟨_, mem_sortedSlots.2 hslot, rfl, ?_, ?_⟩⟩
    · intro slot hmem hwork
      obtain ⟨hsecond, horder⟩ := second_le_of_isLoad hlong hdocker hinside (mem_sortedSlots.1 hmem) hwork
      refine precedes_sortedSlots (mem_sortedSlots.1 hmem) hlast ?_ horder
      change slot.second ≤ max 0 (duration - 60)
      omega
    · intro slot hmem hwork
      obtain ⟨fault, hfault, rfl⟩ := exists_of_isFault (mem_sortedSlots.1 hmem) hwork
      refine precedes_sortedSlots hfirst (mem_sortedSlots.1 hmem) ?_ (by simp [pulseSlot, faultSlot])
      have hzero : (pulseSlot duration 0).second = 0 := Int.zero_mul _
      rw [hzero]
      exact hseconds fault hfault
    · obtain ⟨second, hsecond, hle⟩ := haggregates.2.1
      obtain ⟨index, hmem⟩ := mem_aggregateSlot hsecond
      exact ⟨_, mem_sortedSlots.2 hmem, rfl, precedes_sortedSlots hmem hslot hle (by simp [aggregateSlot, faultSlot])⟩
    · obtain ⟨second, hsecond, hlt⟩ := haggregates.2.2 hbefore
      obtain ⟨index, hmem⟩ := mem_aggregateSlot hsecond
      exact ⟨_, mem_sortedSlots.2 hmem, rfl, precedes_of_lt pairwise_sortedSlots (mem_sortedSlots.2 hslot)
        (mem_sortedSlots.2 hmem) (sortKey_lt_of_second hlt)⟩

end Slots

/-! ## Manifests that are accepted -/

/-- `durationSeconds` of a manifest. -/
def durationSeconds (manifest : Dict) : Option ℤ := (item manifest "durationSeconds").toInt

/-- The second that an item of `scheduledFaults` gives for a kind of fault. -/
def secondOf (kind : String) : Json → Option ℤ
  | .obj fault =>
    match item fault "kind" with
    | .str name => if name = kind then (item fault "atSecond").toInt else none
    | _ => none
  | _ => none

/-- The second that a manifest schedules a fault at. -/
def faultSecond (manifest : Dict) (kind : String) : Option ℤ :=
  match item manifest "scheduledFaults" with
  | .arr faults => faults.findSome? (secondOf kind)
  | _ => none

theorem toInt_of_requireInt {v : Json} {field : String} {minimum n : ℤ} (h : requireInt v field minimum = .ok n) :
    v.toInt = some n ∧ minimum ≤ n := by
  unfold requireInt at h
  dsimp only at h
  split at h
  · split at h
    · rename_i hle
      cases h
      exact ⟨rfl, hle⟩
    · cases h
  · split at h
    · split at h
      · rename_i hvalue
        split at h
        · rename_i hle
          cases h
          exact ⟨hvalue, hle⟩
        · cases h
      · cases h
    · cases h
  · cases h

theorem int_of_requireInt {v : Json} {field : String} {minimum n : ℤ} (h : requireInt v field minimum = .ok n) :
    Soak.int v = .ok n := by
  unfold Soak.int
  rw [(toInt_of_requireInt h).1]

theorem requireStr_eq_str {v : Json} {field s : String} (h : requireStr v field = .ok s) : v = .str s := by
  unfold requireStr at h
  split at h
  · split at h
    · cases h
      rfl
    · cases h
  · cases h

theorem required_of_item {d : Dict} {key : String} {v : Json} (h : item d key = v) (hv : v ≠ .null) :
    required d key = .ok v := by
  rw [required_eq_ok]
  unfold item at h
  cases hget : d.get key with
  | none =>
    rw [hget] at h
    exact absurd h.symm hv
  | some value =>
    rw [hget] at h
    exact congrArg some h

/-- What `load_manifest` reads of an item of `scheduledFaults`. -/
def ReadsFault (duration : ℤ) (v : Json) (fault : String × ℤ) : Prop :=
  ∃ fields, v = .obj fields ∧ item fields "kind" = .str fault.1 ∧
    requireInt (item fields "atSecond") "scheduledFaults.atSecond" 0 = .ok fault.2 ∧ fault.2 < duration

theorem seeFault_eq_ok {duration : ℤ} {seen seen' : List (String × ℤ)} {v : Json} (h : seeFault duration seen v = .ok seen') :
    ∃ fault, ReadsFault duration v fault ∧ fault.1 ∉ seen.map Prod.fst ∧ seen' = seen ++ [fault] := by
  cases v with
  | obj fields =>
    rw [seeFault] at h
    obtain ⟨kind, hkind, h⟩ := bind_eq_ok.1 h
    obtain ⟨atSecond, hsecond, h⟩ := bind_eq_ok.1 h
    split at h
    · cases h
    · rename_i hnew
      split at h
      · cases h
      · rename_i hinside
        cases h
        exact ⟨(kind, atSecond), ⟨fields, rfl, requireStr_eq_str hkind, hsecond, not_le.1 hinside⟩, hnew, rfl⟩
  | _ => cases h

/-- The loop over the faults reads each of them, and no kind twice. -/
theorem seeFaults_eq_ok {duration : ℤ} {faults : List Json} {seen seen' : List (String × ℤ)}
    (h : faults.foldlM (seeFault duration) seen = .ok seen') (hseen : (seen.map Prod.fst).Nodup) :
    ∃ items, seen' = seen ++ items ∧ List.Forall₂ (ReadsFault duration) faults items ∧ (seen'.map Prod.fst).Nodup := by
  induction faults generalizing seen with
  | nil =>
    rw [List.foldlM_nil] at h
    cases h
    exact ⟨[], (List.append_nil _).symm, .nil, hseen⟩
  | cons v faults ih =>
    rw [List.foldlM_cons] at h
    obtain ⟨next, hnext, h⟩ := bind_eq_ok.1 h
    obtain ⟨fault, hreads, hnew, rfl⟩ := seeFault_eq_ok hnext
    have hnodup : ((seen ++ [fault]).map Prod.fst).Nodup := by
      rw [List.map_append, List.nodup_append]
      refine ⟨hseen, by simp, ?_⟩
      rintro kind hkind _ hfault rfl
      obtain rfl : kind = fault.1 := by simpa using hfault
      exact hnew hkind
    obtain ⟨items, hitems, hall, hkinds⟩ := ih h hnodup
    exact ⟨fault :: items, by rw [hitems, List.append_assoc]; rfl, .cons hreads hall, hkinds⟩

theorem scheduledFault_eq_ok {texts : Texts} {duration : ℤ} {v : Json} {fault : String × ℤ} (h : ReadsFault duration v fault) :
    scheduledFault texts v = .ok fault := by
  obtain ⟨fields, rfl, hkind, hsecond, -⟩ := h
  have hne : item fields "atSecond" ≠ .null := by
    intro hnull
    rw [hnull] at hsecond
    cases hsecond
  rw [scheduledFault, required_of_item hkind nofun]
  refine bind_eq_ok.2 ⟨_, rfl, bind_eq_ok.2 ⟨_, required_of_item rfl hne, ?_⟩⟩
  exact bind_eq_ok.2 ⟨_, int_of_requireInt hsecond, rfl⟩

/-- Kinds that are all different are kept as they are. -/
theorem faultsOf_eq_self {items : List (String × ℤ)} (h : (items.map Prod.fst).Nodup) : faultsOf items = items := by
  have hfold (faults items : List (String × ℤ)) (h : ((faults ++ items).map Prod.fst).Nodup) :
      items.foldl (fun faults item =>
        if item.1 ∈ faults.map Prod.fst then faults.map fun e => if e.1 = item.1 then item else e
        else faults ++ [item]) faults = faults ++ items := by
    induction items generalizing faults with
    | nil => exact (List.append_nil _).symm
    | cons fault items ih =>
      have hnew : fault.1 ∉ faults.map Prod.fst := by
        rw [List.map_append, List.nodup_append] at h
        intro hmem
        exact h.2.2 _ hmem _ (by simp) rfl
      rw [List.append_cons] at h ⊢
      rw [List.foldl_cons, if_neg hnew]
      exact ih _ h
  exact hfold [] items h

theorem findSome_secondOf {duration : ℤ} {faults : List Json} {items : List (String × ℤ)}
    (h : List.Forall₂ (ReadsFault duration) faults items) (kind : String) :
    faults.findSome? (secondOf kind) = items.lookup kind := by
  induction h with
  | nil => rfl
  | @cons v fault faults items hreads _ ih =>
    obtain ⟨fields, rfl, hkind, hsecond, -⟩ := hreads
    have hvalue : secondOf kind (.obj fields) = if fault.1 = kind then some fault.2 else none := by
      rw [secondOf, hkind, (toInt_of_requireInt hsecond).1]
    rw [List.findSome?_cons, hvalue, List.lookup_cons]
    by_cases hsame : fault.1 = kind
    · rw [if_pos hsame, hsame, beq_self_eq_true]
    · have hother : (kind == fault.1) = false := beq_false_of_ne (Ne.symm hsame)
      rw [if_neg hsame, hother]
      exact ih

/-- What acceptance says about the seconds of a manifest. -/
structure Accepted (manifest : Dict) (duration : ℤ) (faults : List (String × ℤ)) : Prop where
  length : requireInt (item manifest "durationSeconds") "durationSeconds" 1 = .ok duration
  reads : ∃ items, item manifest "scheduledFaults" = .arr items ∧ List.Forall₂ (ReadsFault duration) items faults
  kinds : (faults.map Prod.fst).Perm requiredFaults

theorem accepted_of_load {reason : String} {raw : Bytes} {manifest : Dict} (h : loadManifest reason raw = .ok manifest) :
    ∃ duration faults, Accepted manifest duration faults := by
  obtain ⟨value, -, h⟩ := bind_eq_ok.1 h
  cases value with
  | obj d =>
    dsimp only at h
    split at h
    · obtain ⟨duration, hduration, h⟩ := bind_eq_ok.1 h
      cases hitems : item d "scheduledFaults" with
      | arr items =>
        rw [hitems] at h
        obtain ⟨seen, hseen, h⟩ := bind_eq_ok.1 h
        obtain ⟨faults, hfaults, hall, hkinds⟩ := seeFaults_eq_ok hseen List.nodup_nil
        obtain rfl : seen = faults := hfaults
        split at h
        · rename_i hsame
          have hrest : d = manifest := by
            unfold checkRest at h
            split at h
            · obtain ⟨_, -, h⟩ := bind_eq_ok.1 h
              obtain ⟨_, -, h⟩ := bind_eq_ok.1 h
              split at h
              · split at h
                · split at h
                  · cases h
                  · exact Except.ok.inj h
                · cases h
              · cases h
            · cases h
          subst hrest
          have hperm : (seen.map Prod.fst).Perm requiredFaults :=
            (List.perm_ext_iff_of_nodup hkinds (by decide)).2 fun kind => ⟨(hsame.1 ·), (hsame.2 ·)⟩
          exact ⟨duration, seen, hduration, ⟨items, hitems, hall⟩, hperm⟩
        · cases h
      | _ =>
        rw [hitems] at h
        cases h
    · cases h
  | _ => cases h

theorem buildPlan_eq_ok {manifest : Dict} {duration dockerAt : ℤ} {faults : List (String × ℤ)}
    (h : Accepted manifest duration faults) (hrestart : faults.lookup "docker-host-restart-resume" = some dockerAt)
    (texts : Texts) : buildPlan texts manifest = .ok (sortedSlots duration dockerAt faults) := by
  obtain ⟨items, hitems, hall⟩ := h.reads
  have hnodup : (faults.map Prod.fst).Nodup := h.kinds.nodup_iff.2 (by decide)
  have hne : item manifest "durationSeconds" ≠ .null := by
    intro hnull
    have hlength := h.length
    rw [hnull] at hlength
    cases hlength
  have hread : items.mapM (scheduledFault texts) = .ok faults :=
    mapM_eq_ok.2 (hall.imp fun _ _ hreads => scheduledFault_eq_ok hreads)
  refine bind_eq_ok.2 ⟨_, required_of_item rfl hne, bind_eq_ok.2 ⟨_, int_of_requireInt h.length, ?_⟩⟩
  refine bind_eq_ok.2 ⟨_, required_of_item hitems nofun, bind_eq_ok.2 ⟨_, hread, ?_⟩⟩
  dsimp only
  rw [faultsOf_eq_self hnodup]
  rw [hrestart]
  rfl

/-- The plan of an accepted manifest of at least twelve hours is as promised exactly when the restart of the docker
host is not in the last minute. -/
theorem build_plan_brackets_iff (reason : String) (raw : Bytes) (manifest : Dict) (texts : Texts)
    (hload : loadManifest reason raw = .ok manifest) :
    ∃ duration dockerAt plan, durationSeconds manifest = some duration ∧
      faultSecond manifest "docker-host-restart-resume" = some dockerAt ∧ buildPlan texts manifest = .ok plan ∧
      (43200 ≤ duration → (Brackets plan ↔ dockerAt < duration - 60)) := by
  obtain ⟨duration, faults, haccepted⟩ := accepted_of_load hload
  obtain ⟨items, hitems, hall⟩ := haccepted.reads
  have hkind : "docker-host-restart-resume" ∈ faults.map Prod.fst := haccepted.kinds.mem_iff.2 (by decide)
  obtain ⟨restart, hmem, hname⟩ := List.mem_map.1 hkind
  obtain ⟨dockerAt, hrestart⟩ : ∃ dockerAt, faults.lookup "docker-host-restart-resume" = some dockerAt :=
    Option.isSome_iff_exists.1 (List.lookup_isSome_iff.2 ⟨restart, hmem, by simp [hname]⟩)
  have hdocker : ("docker-host-restart-resume", dockerAt) ∈ faults := by
    obtain ⟨before, after, hsplit, -⟩ := List.lookup_eq_some_iff.1 hrestart
    simp [hsplit]
  have hbounds : ∀ fault ∈ faults, 0 ≤ fault.2 ∧ fault.2 < duration := by
    have hread (fault : String × ℤ) (v : Json) (h : ReadsFault duration v fault) :
        (0 ≤ fault.2 ∧ fault.2 < duration) ∧ True := by
      obtain ⟨_, -, -, hsecond, hinside⟩ := h
      exact ⟨⟨(toInt_of_requireInt hsecond).2, hinside⟩, trivial⟩
    exact ((List.forall₂_and_left _ _).1 (hall.flip.imp hread)).1
  refine ⟨duration, dockerAt, _, (toInt_of_requireInt haccepted.length).1, ?_, buildPlan_eq_ok haccepted hrestart texts,
    fun hlong => ?_⟩
  · unfold faultSecond
    rw [hitems]
    exact (findSome_secondOf hall _).trans hrestart
  · exact brackets_iff hlong (hbounds _ hdocker).1 (hbounds _ hdocker).2 haccepted.kinds hdocker fun fault hfault =>
      (hbounds fault hfault).1

/-! ## A manifest of twelve hours -/

namespace TwelveHours

/-- A manifest that restarts the docker host at `dockerAt`, and does everything else in the first second. -/
def manifest (dockerAt : ℤ) : Dict := [
  ("chainSeed", .obj [("chainId", .int 31337)]),
  ("durationSeconds", .int 43200),
  ("expected", .obj [("chargesWei", .str "0"), ("usageUnits", .int 0)]),
  ("kind", .str "zkdeal-release-soak"),
  ("scheduledFaults", .arr (requiredFaults.map fun kind =>
    .obj [("atSecond", .int (if kind = "docker-host-restart-resume" then dockerAt else 0)), ("kind", .str kind)])),
  ("schemaVersion", .int 1)]

def manifestBytes (dockerAt : ℤ) : Bytes := encodeUtf8 (dumps true (.obj (manifest dockerAt)))

theorem loadManifest_manifestBytes {dockerAt : ℤ} (hplain : plain (.obj (manifest dockerAt)) = true)
    (hcanonical : canonical (.obj (manifest dockerAt)) = .obj (manifest dockerAt))
    (hsize : size (.obj (manifest dockerAt)) ≤ 1048576) (reason : String) :
    loadManifest reason (manifestBytes dockerAt) = checkManifest (manifest dockerAt) := by
  have hloads := strictLoads_dumps_append true hplain "" stops_nil rfl
  rw [String.append_empty, hcanonical] at hloads
  have hbytes : ¬maxDocumentBytes < (manifestBytes dockerAt).length := by
    have hle := length_encodeUtf8_dumps_le true (.obj (manifest dockerAt))
    unfold maxDocumentBytes manifestBytes
    omega
  have hparse : parseJson reason (manifestBytes dockerAt) "soak manifest" = .ok (.obj (manifest dockerAt)) := by
    rw [parseJson, if_neg hbytes, manifestBytes, decodeUtf8_encodeUtf8]
    dsimp only
    rw [hloads]
  unfold loadManifest
  rw [hparse]
  rfl

theorem loads_halfway : loadManifest "" (manifestBytes 21600) = .ok (manifest 21600) := by
  rw [loadManifest_manifestBytes (by decide) (by decide) (by decide)]
  decide

theorem loads_end : loadManifest "" (manifestBytes 43199) = .ok (manifest 43199) := by
  rw [loadManifest_manifestBytes (by decide) (by decide) (by decide)]
  decide

def texts : Texts := ⟨fun _ => "", fun _ => "", fun _ => ""⟩

/-- A restart halfway is bracketed. -/
theorem build_plan_brackets_iff_halfway : ∃ plan, buildPlan texts (manifest 21600) = .ok plan ∧ Brackets plan := by
  obtain ⟨duration, dockerAt, plan, hduration, hdocker, hplan, hbrackets⟩ :=
    build_plan_brackets_iff "" (manifestBytes 21600) (manifest 21600) texts loads_halfway
  obtain rfl : 43200 = duration := Option.some.inj hduration
  have hsecond : faultSecond (manifest 21600) "docker-host-restart-resume" = some 21600 := by decide
  obtain rfl : 21600 = dockerAt := Option.some.inj (hsecond.symm.trans hdocker)
  exact ⟨plan, hplan, (hbrackets le_rfl).2 (by decide)⟩

/-- No aggregate cycle follows a restart in the last second. -/
theorem not_brackets_end : loadManifest "" (manifestBytes 43199) = .ok (manifest 43199) ∧
    durationSeconds (manifest 43199) = some 43200 ∧
    ∃ plan, buildPlan texts (manifest 43199) = .ok plan ∧ ¬Brackets plan := by
  let faults : List (String × ℤ) :=
    requiredFaults.map fun kind => (kind, if kind = "docker-host-restart-resume" then 43199 else 0)
  have hplan : buildPlan texts (manifest 43199) = .ok (sortedSlots 43200 43199 faults) := by
    decide
  have hkinds : (faults.map Prod.fst).Perm requiredFaults := by
    rw [List.map_map]
    exact List.Perm.of_eq (List.map_id _)
  have hseconds : ∀ fault ∈ faults, 0 ≤ fault.2 := by decide
  refine ⟨loads_end, rfl, _, hplan, fun hbrackets => ?_⟩
  have hbefore := (brackets_iff le_rfl (by decide) (by decide) hkinds (by decide) hseconds).1 hbrackets
  exact absurd hbefore (by decide)

end TwelveHours

end Zkdeal.OwnerSoak
