import Zkdeal.FaultControl.Controller
import Zkdeal.Python.JsonSize
import Zkdeal.Python.Url

/-!
# The status of an operation

`do_GET` shows an operation from its closure, and `do_POST` replays it from the same closure.  The two agree if
the closure is of the current binding, and nothing that is stamped on its result replaces a field of it
(`status_agrees_iff`).
-/

namespace Zkdeal.FaultControl

open Interaction Python Json Raising

/-! ## Load runs -/

/-- `"loadProfiles"` in `capabilities()` -/
def allLoadProfiles : List String := ["rpc", "sse", "indexer", "admission", "scheduler", "projection"]

/-- `value in [...]` for a list of texts. -/
def isText (value : Json) (texts : List String) : Bool :=
  match value with
  | .str s => texts.contains s
  | _ => false

/-- The two routes of `do_POST`. -/
inductive Route : Type where
  | fault
  | load

namespace Controller

variable (c : Controller) (profiles : List String)

/-- The checks of `controller.execute("load", ...)`; `profiles` are the keys of `topology.load_profiles`. -/
def checkLoad (body : Dict) (correlationId : String) : Except Raised Unit := do
  require (isCorrelation correlationId) "X-Correlation-Id is malformed"
  if (item body "binding").eq (.obj c.binding.dict) = false then
    .error (.control "request binding differs from the exact candidate plan" 409 "CANDIDATE_BINDING_MISMATCH")
  else
    exactKeys body ["schemaVersion", "binding", "profile", "requests", "concurrency", "durationSeconds"] "load request"
    require ((item body "schemaVersion").eq (.int 1) && isText (item body "profile") allLoadProfiles &&
      isText (item body "profile") profiles) "load profile is not in the candidate allowlist"
    let _ ← boundedInt (item body "requests") "requests" 1 10000
    let _ ← boundedInt (item body "concurrency") "concurrency" 1 64
    let _ ← boundedInt (item body "durationSeconds") "durationSeconds" 1 900

/-- The request that a route hands to the journal. -/
def journaled (route : Route) (text idempotencyKey correlationId : String) : Except Raised Request := do
  let body ← strictObject text "request"
  match route with
  | .fault =>
    let action ← c.checkFault body correlationId
    return c.request action body idempotencyKey correlationId
  | .load =>
    c.checkLoad profiles body correlationId
    return { action := "load", bindingDigest := c.bindingDigest, body, idempotencyKey, correlationId }

/-- What a route makes of the journal's result. -/
def finish (route : Route) (body result : Dict) : Dict :=
  match route with
  | .fault => c.receipt result
  | .load => c.receipt (result.set "profile" (item body "profile"))

/-- `do_POST` of a route, with a token that is right, up to its answer. -/
def postTo (sha256 : String → String) (route : Route) (text idempotencyKey correlationId : String) : Journaling Dict := do
  let q ← liftExcept (c.journaled profiles route text idempotencyKey correlationId)
  let (result, _) ← execute sha256 q
  return c.finish route q.body result

/-- `post` is the route of the faults. -/
theorem post_eq (sha256 : String → String) (text idempotencyKey correlationId : String) :
    c.post sha256 text idempotencyKey correlationId = c.postTo profiles sha256 .fault text idempotencyKey correlationId := by
  unfold post postTo journaled
  cases hbody : strictObject text "request" with
  | error e => rfl
  | ok body =>
    have checked : (do
          let action ← c.checkFault body correlationId
          return c.request action body idempotencyKey correlationId : Except Raised Request) =
        (c.checkFault body correlationId).map fun action => c.request action body idempotencyKey correlationId := by
      cases c.checkFault body correlationId <;> rfl
    change (do
      let action ← liftExcept (c.checkFault body correlationId)
      let (result, _) ← execute sha256 (c.request action body idempotencyKey correlationId)
      return c.receipt result) = (do
      let q ← liftExcept (do
        let action ← c.checkFault body correlationId
        return c.request action body idempotencyKey correlationId : Except Raised Request)
      let (result, _) ← execute sha256 q
      return c.receipt result)
    rw [checked]
    cases c.checkFault body correlationId <;> rfl

end Controller

/-! ## Status -/

/-- `re.fullmatch(r"fc-[0-9a-f]{40}", operation_id)` -/
def isOperationId (s : String) : Bool :=
  match s.toList with
  | 'f' :: 'c' :: '-' :: digits => between isLowerHex 40 40 digits
  | _ => false

/-- The group of `/v1/(?:faults|load-runs)/(fc-[0-9a-f]{40})` in a path. -/
def operationOf (path : List Char) : Option String :=
  ["/v1/faults/", "/v1/load-runs/"].findSome? fun route =>
    if route.toList.isPrefixOf path then
      let operationId := String.ofList (path.drop route.toList.length)
      if isOperationId operationId then some operationId else none
    else none

/-- The fields of `result.update({...})` in `journal.closure`. -/
def statusFields (sha256 : String → String) (operationId : String) (closure : Closure) : Dict := [
  ("operationId", .str operationId),
  ("closureSha256", .str (sha256 (canonicalBytes closure.record))),
  ("correlationId", .str closure.correlationId),
  ("action", .str closure.action)]

/-- `journal.closure(operation_id)` -/
def statusResult (sha256 : String → String) (operationId : String) : Journaling Dict := do
  raiseIf (isOperationId operationId = false) (invalidRequest "operationId is malformed")
  let closure ← readRecord (.closure operationId)
  return merge closure.publicResult (statusFields sha256 operationId closure)

/-- `do_GET` of an operation, with a token that is right, up to its answer. -/
def Controller.get (c : Controller) (sha256 : String → String) (target : String) : Journaling Dict :=
  match urlsplit target with
  | none => throw .other
  | some parsed => do
    raiseIf (parsed.query ≠ [] ∨ parsed.fragment ≠ []) (invalidRequest "query and fragment data are forbidden")
    match operationOf parsed.path with
    | some operationId => do
      let result ← statusResult sha256 operationId
      return c.receipt result
    | none => throw (.control "route not found" 404 "NOT_FOUND")

/-! ## Agreement -/

/-- A request is answered with a document from a directory, and runs no callback. -/
def Answers (program : Journaling Dict) (d : Directory) (document : Dict) : Prop :=
  (∃ tr d', program.run.Runs tr (.returned (.ok document)) ∧ Accepts logged (d, []) tr (d', [])) ∧
    (respond (.ok document)).status = 200

/-- Every field of a document is in another one. -/
def Carries (document part : Dict) : Prop := ∀ key value, part.get key = some value → document.get key = some value

variable (c : Controller) (profiles : List String) (sha256 : String → String) (d : Directory)

/-- A document that a route replays for an operation. -/
def Replays (operationId : String) (route : Route) (q : Request) (document : Dict) : Prop :=
  ∃ text idempotencyKey correlationId, c.journaled profiles route text idempotencyKey correlationId = .ok q ∧
    q.operationId sha256 = operationId ∧ Answers (c.postTo profiles sha256 route text idempotencyKey correlationId) d document

/-- What is shown at a target is of the current binding, has the public result unchanged, and has what a replay
of the operation has. -/
def StatusAgrees (target : String) : Prop := ∀ document, Answers (c.get sha256 target) d document →
  ∃ operationId closure, (urlsplit target).bind (fun parsed => operationOf parsed.path) = some operationId ∧
    Readable d (.closure operationId) (.ok closure) ∧ closure.bindingDigest = c.bindingDigest ∧
    Carries document closure.publicResult ∧
    ∀ route q replayed, Replays c profiles sha256 d operationId route q replayed → Carries document replayed

/-- The fields that are stamped on a result. -/
def stamps (operationId : String) (closure : Closure) : Dict := merge (statusFields sha256 operationId closure) c.receiptBinding

/-- A closure that can be shown: it is of the current binding, nothing is stamped over a field of its result, and
the result of a load run has the profile of its request. -/
structure Showable (operationId : String) (closure : Closure) : Prop where
  current : closure.bindingDigest = c.bindingDigest
  unstamped : ∀ key value stamp, closure.publicResult.get key = some value →
    (stamps c sha256 operationId closure).get key = some stamp → value = stamp
  profile : ∀ q replayed, Replays c profiles sha256 d operationId .load q replayed →
    (stamps c sha256 operationId closure).get "profile" = none →
    closure.publicResult.get "profile" = some (item q.body "profile")

variable {c profiles sha256 d}

theorem Carries.refl (document : Dict) : Carries document document := fun _ _ h => h

/-! ## Merged fields -/

/-- A field of a merged dictionary is the last one of the second, or one of the first. -/
theorem get_merge (a b : Dict) (key : String) : (merge a b).get key = (b.reverse.lookup key).or (a.get key) := by
  unfold merge
  induction b generalizing a with
  | nil => rfl
  | cons kv b ih =>
    rw [List.foldl_cons, ih, Dict.get_set, List.reverse_cons, List.lookup_append, List.lookup_cons, List.lookup_nil]
    by_cases same : key = kv.1
    · rw [if_pos same, beq_iff_eq.2 same]
      cases b.reverse.lookup key <;> rfl
    · rw [if_neg same, beq_eq_false_iff_ne.2 same]
      cases b.reverse.lookup key <;> rfl

theorem lookup_filter_absent (d fields : Dict) {key : String} (h : d.get key = none) :
    (fields.filter fun kv => (d.get kv.1).isNone).lookup key = fields.lookup key := by
  induction fields with
  | nil => rfl
  | cons kv fields ih =>
    rw [List.filter_cons, List.lookup_cons]
    by_cases same : key = kv.1
    · rw [if_pos (by rw [← same, h]; rfl), List.lookup_cons, beq_iff_eq.2 same]
    · rw [beq_eq_false_iff_ne.2 same]
      split
      · rw [List.lookup_cons, beq_eq_false_iff_ne.2 same]
        exact ih
      · exact ih

/-- A field of an answer is a stamp, or one of the public result. -/
theorem get_answerWith (publicResult : Dict) (operationId closureSha256 correlationId key : String) :
    (answerWith publicResult operationId closureSha256 correlationId).get key =
      (Dict.get [("operationId", .str operationId), ("closureSha256", .str closureSha256),
        ("correlationId", .str correlationId)] key).or (publicResult.get key) := by
  unfold answerWith
  generalize ([("operationId", .str operationId), ("closureSha256", .str closureSha256),
    ("correlationId", .str correlationId)] : Dict) = fields
  dsimp only
  rw [Dict.get, List.lookup_append]
  have first := Dict.get_mapValues publicResult (fun k v => (Dict.get fields k).getD v) key
  rw [Dict.get] at first
  rw [first]
  cases hpublic : publicResult.get key with
  | none =>
    rw [lookup_filter_absent publicResult fields hpublic, Option.or_none]
    rfl
  | some v => cases Dict.get fields key <;> rfl

/-! ## Shown and replayed documents -/

variable {q : Request} {operationId : String} {closure : Closure} {document replayed : Dict}

/-- What is shown for a closure. -/
def shownAs (c : Controller) (sha256 : String → String) (operationId : String) (closure : Closure) : Dict :=
  c.receipt (merge closure.publicResult (statusFields sha256 operationId closure))

theorem meets_get (target : String) : Meets logged (fun _ _ => True) (c.get sha256 target) (fun document _ =>
    ∃ operationId closure, (urlsplit target).bind (fun parsed => operationOf parsed.path) = some operationId ∧
      Readable d (.closure operationId) (.ok closure) ∧ document = shownAs c sha256 operationId closure)
    (fun _ _ => True) (d, []) := by
  unfold Controller.get
  split
  · trivial
  rename_i parsed split_
  refine meets_bind_iff.2 (meets_raiseIf_iff.2 ⟨fun _ => trivial, fun _ => ?_⟩)
  cases routed : operationOf parsed.path with
  | none => trivial
  | some operationId =>
    refine meets_bind_iff.2 (meets_bind_iff.2 (meets_raiseIf_iff.2 ⟨fun _ => trivial, fun _ => ?_⟩))
    refine meets_bind_iff.2 (meets_readRecord trivial (fun closure read => ?_) fun _ _ => trivial)
    exact ⟨operationId, closure, by rw [split_, Option.bind_some, routed], read, rfl⟩

/-- Once a callback ran, it stays so. -/
theorem meets_ran {α : Type} {x : Journaling α} {w : Directory × List String} (ran : w.2 ≠ []) :
    Meets logged (fun _ _ => True) x (fun _ w => w.2 ≠ []) (fun _ w => w.2 ≠ []) w := by
  have grows (p : Prog Op Answer (Except Raised α)) : ∀ w : Directory × List String, w.2 ≠ [] →
      p.Sat logged (fun _ _ => True) (fun _ w => w.2 ≠ []) w := by
    induction p with
    | ret a => exact fun w h => h
    | halt => exact fun w h => trivial
    | call o k ih =>
      refine fun w h => ⟨trivial, fun r w' step => ih r w' ?_⟩
      rw [step.2]
      exact List.append_ne_nil_of_left_ne_nil h _
  refine (grows x.run w ran).mono (fun _ _ h => h) fun r w' h => ?_
  cases r <;> exact h

/-- What the journal answers without a callback comes from the closure. -/
theorem meets_execute_replays : Meets logged (fun _ _ => True) (execute sha256 q) (fun r w => w.2 = [] →
    ∃ closure, Readable d (.closure (q.operationId sha256)) (.ok closure) ∧
      r.1 = answerWith closure.publicResult (q.operationId sha256) (sha256 (canonicalBytes closure.record)) closure.correlationId)
    (fun _ _ => True) (d, []) := by
  unfold execute
  refine meets_bind_iff.2 (meets_raiseIf_iff.2 ⟨fun _ => trivial, fun _ => ?_⟩)
  refine meets_bind_iff.2 (meets_pathExists trivial ?_)
  split
  · unfold replay
    refine meets_bind_iff.2 (meets_readRecord trivial (fun _ _ => ?_) fun _ _ => trivial)
    refine meets_bind_iff.2 (meets_raiseIf_iff.2 ⟨fun _ => trivial, fun _ => ?_⟩)
    refine meets_bind_iff.2 (meets_pathExists trivial ?_)
    refine meets_bind_iff.2 (meets_raiseIf_iff.2 ⟨fun _ => trivial, fun _ => ?_⟩)
    refine meets_bind_iff.2 (meets_readRecord trivial (fun closure read => ?_) fun _ _ => trivial)
    exact fun _ => ⟨closure, read, rfl⟩
  · unfold start
    refine meets_bind_iff.2 (meets_utcNow trivial fun _ => ?_)
    refine meets_bind_iff.2 (meets_durableCreate trivial (fun _ _ _ => trivial) trivial (fun _ => trivial)
      (fun _ => trivial) (fun _ => trivial) fun _ => ?_)
    refine meets_bind_iff.2 (meets_callback trivial (fun r => ?_) fun _ _ => trivial)
    refine (meets_ran (List.concat_ne_nil _ _)).mono (fun _ _ h => h) (fun _ _ ran none => ?_) fun _ _ _ => trivial
    exact absurd none ran

theorem shown_of_answers {target : String} (h : Answers (c.get sha256 target) d document) :
    ∃ operationId closure, (urlsplit target).bind (fun parsed => operationOf parsed.path) = some operationId ∧
      Readable d (.closure operationId) (.ok closure) ∧ document = shownAs c sha256 operationId closure := by
  obtain ⟨⟨tr, d', run, acc⟩, -⟩ := h
  exact ((meets_get target).of_runs run acc).1 _ rfl

/-- What a route replays for a closure. -/
theorem replayed_of_replays {route : Route} (h : Replays c profiles sha256 d operationId route q replayed) :
    ∃ closure, Readable d (.closure operationId) (.ok closure) ∧ replayed = c.finish route q.body
      (answerWith closure.publicResult operationId (sha256 (canonicalBytes closure.record)) closure.correlationId) := by
  obtain ⟨text, key, correlation, journaled, rfl, ⟨tr, d', run, acc⟩, -⟩ := h
  have meets : Meets logged (fun _ _ => True) (c.postTo profiles sha256 route text key correlation) (fun document w =>
      w.2 = [] →
      ∃ closure, Readable d (.closure (q.operationId sha256)) (.ok closure) ∧ document = c.finish route q.body
        (answerWith closure.publicResult (q.operationId sha256) (sha256 (canonicalBytes closure.record)) closure.correlationId))
      (fun _ _ => True) (d, []) := by
    unfold Controller.postTo
    refine meets_bind_iff.2 (meets_liftExcept_iff.2 ?_)
    rw [journaled, ends_ok]
    refine (meets_execute_replays.bind ?_)
    rintro r w replays
    refine fun none => ?_
    obtain ⟨closure, read, result⟩ := replays none
    exact ⟨closure, read, by rw [← result]⟩
  exact (meets.of_runs run acc).1 _ rfl rfl

/-- A closure is read the same way each time. -/
theorem Readable.unique {closure' : Closure} (h : Readable d (.closure operationId) (.ok closure))
    (h' : Readable d (.closure operationId) (.ok closure')) : closure = closure' := by
  obtain ⟨f, hf, rfl⟩ := h.contents
  obtain ⟨g, hg, rfl⟩ := h'.contents
  rw [hf] at hg
  cases hg
  rfl

/-! ## The fields of a document -/

theorem lookup_reverse_statusFields (key : String) :
    (statusFields sha256 operationId closure).reverse.lookup key = (statusFields sha256 operationId closure).lookup key := by
  by_cases operation : key = "operationId"
  · rw [operation]
    rfl
  by_cases closureSha : key = "closureSha256"
  · rw [closureSha]
    rfl
  by_cases correlation : key = "correlationId"
  · rw [correlation]
    rfl
  by_cases action : key = "action"
  · rw [action]
    rfl
  simp [statusFields, List.lookup_cons, beq_eq_false_iff_ne.2 operation, beq_eq_false_iff_ne.2 closureSha,
    beq_eq_false_iff_ne.2 correlation, beq_eq_false_iff_ne.2 action]

theorem get_shownAs (key : String) : (shownAs c sha256 operationId closure).get key =
    ((stamps c sha256 operationId closure).get key).or (closure.publicResult.get key) := by
  rw [shownAs, Controller.receipt, stamps, get_merge, get_merge, get_merge, lookup_reverse_statusFields]
  exact (Option.or_assoc).symm

/-- Every public field is shown unless something else is stamped over it. -/
theorem carries_shownAs_iff : Carries (shownAs c sha256 operationId closure) closure.publicResult ↔
    ∀ key value stamp, closure.publicResult.get key = some value →
      (stamps c sha256 operationId closure).get key = some stamp → value = stamp := by
  constructor
  · intro carries key value stamp hvalue hstamp
    have shown := carries key value hvalue
    rw [get_shownAs, hstamp] at shown
    exact (Option.some.inj shown).symm
  · intro unstamped key value hvalue
    rw [get_shownAs]
    cases hstamp : (stamps c sha256 operationId closure).get key with
    | none => exact hvalue
    | some stamp => rw [unstamped key value stamp hvalue hstamp, Option.some_or]

theorem get_stamps (key : String) : (stamps c sha256 operationId closure).get key =
    (c.receiptBinding.reverse.lookup key).or ((statusFields sha256 operationId closure).get key) := get_merge _ _ _

/-- What the journal stamps on a replay is stamped on what is shown. -/
theorem get_statusFields {key : String} {value : Json} (h : Dict.get [("operationId", .str operationId),
      ("closureSha256", .str (sha256 (canonicalBytes closure.record))), ("correlationId", .str closure.correlationId)] key =
        some value) : (statusFields sha256 operationId closure).get key = some value := by
  have fields : statusFields sha256 operationId closure = [("operationId", .str operationId),
      ("closureSha256", .str (sha256 (canonicalBytes closure.record))), ("correlationId", .str closure.correlationId)] ++
    [("action", .str closure.action)] := rfl
  unfold Dict.get at h ⊢
  rw [fields, List.lookup_append, h]
  rfl

theorem carries_replayed {route : Route} (carries : Carries (shownAs c sha256 operationId closure) closure.publicResult)
    (profile : route = .load → (stamps c sha256 operationId closure).get "profile" = none →
      closure.publicResult.get "profile" = some (item q.body "profile")) :
    Carries (shownAs c sha256 operationId closure) (c.finish route q.body
      (answerWith closure.publicResult operationId (sha256 (canonicalBytes closure.record)) closure.correlationId)) := by
  intro key value h
  have answered (bound : c.receiptBinding.reverse.lookup key = none)
      (h : (answerWith closure.publicResult operationId (sha256 (canonicalBytes closure.record)) closure.correlationId).get key =
        some value) : (shownAs c sha256 operationId closure).get key = some value := by
    rw [get_answerWith] at h
    rcases Option.or_eq_some_iff.1 h with stamped | ⟨-, kept⟩
    · rw [get_shownAs, get_stamps, bound, Option.none_or, get_statusFields stamped, Option.some_or]
    · exact carries key value kept
  cases hbound : c.receiptBinding.reverse.lookup key with
  | some stamp =>
    have same : (c.finish route q.body (answerWith closure.publicResult operationId
        (sha256 (canonicalBytes closure.record)) closure.correlationId)).get key = some stamp := by
      cases route <;> exact (get_merge _ _ _).trans (by rw [hbound, Option.some_or])
    rw [get_shownAs, get_stamps, hbound, Option.some_or, Option.some_or, ← h, same]
  | none =>
    cases route with
    | fault =>
      rw [Controller.finish, Controller.receipt, get_merge, hbound, Option.none_or] at h
      exact answered hbound h
    | load =>
      rw [Controller.finish, Controller.receipt, get_merge, hbound, Option.none_or, Dict.get_set] at h
      by_cases same : key = "profile"
      · rw [if_pos same] at h
        have unstamped : (stamps c sha256 operationId closure).get key = none := by
          rw [get_stamps, hbound, same]
          rfl
        rw [same] at unstamped ⊢
        rw [get_shownAs, unstamped, Option.none_or, profile rfl unstamped]
        exact h
      · rw [if_neg same] at h
        exact answered hbound h

/-- The status of an operation agrees with its replays exactly when its closure is showable. -/
theorem status_agrees_iff (target : String) : StatusAgrees c profiles sha256 d target ↔ ∀ operationId closure,
    (urlsplit target).bind (fun parsed => operationOf parsed.path) = some operationId →
    Readable d (.closure operationId) (.ok closure) → (∃ document, Answers (c.get sha256 target) d document) →
    Showable c profiles sha256 d operationId closure := by
  constructor
  · rintro agrees operationId closure routed read ⟨document, answers⟩
    obtain ⟨_, _, routed', read', current, carries, replays⟩ := agrees document answers
    rw [routed] at routed'
    cases routed'
    obtain rfl := read.unique read'
    obtain ⟨_, _, routed', read', rfl⟩ := shown_of_answers answers
    rw [routed] at routed'
    cases routed'
    obtain rfl := read.unique read'
    refine ⟨current, carries_shownAs_iff.1 carries, fun q replayed replay unstamped => ?_⟩
    have shown := replays .load q replayed replay
    obtain ⟨_, read', rfl⟩ := replayed_of_replays replay
    obtain rfl := read.unique read'
    rw [get_stamps] at unstamped
    obtain ⟨unbound, -⟩ := Option.or_eq_none_iff.1 unstamped
    have posted : (c.finish .load q.body (answerWith closure.publicResult operationId
        (sha256 (canonicalBytes closure.record)) closure.correlationId)).get "profile" = some (item q.body "profile") := by
      rw [Controller.finish, Controller.receipt, get_merge, unbound, Option.none_or, Dict.get_set, if_pos rfl]
    have kept := shown _ _ posted
    rw [get_shownAs, get_stamps, unstamped, Option.none_or] at kept
    exact kept
  · intro showable document answers
    obtain ⟨operationId, closure, routed, read, rfl⟩ := shown_of_answers answers
    obtain ⟨current, unstamped, profile⟩ := showable operationId closure routed read ⟨_, answers⟩
    have carries := carries_shownAs_iff.2 unstamped
    refine ⟨operationId, closure, routed, read, current, carries, fun route q replayed replay => ?_⟩
    obtain ⟨_, read', rfl⟩ := replayed_of_replays replay
    obtain rfl := read.unique read'
    refine carries_replayed carries fun load => ?_
    subst load
    exact profile q _ replay

/-! ## A restart and a stale closure -/

/-- A closure that fits is shown. -/
theorem answers_of_whole {target : String} {parsed : SplitResult} (split : urlsplit target = some parsed)
    (bare : parsed.query = [] ∧ parsed.fragment = []) (routed : operationOf parsed.path = some operationId)
    (named : isOperationId operationId = true) (file : d (.closure operationId) = some (.whole closure))
    (fits : (canonicalBytes closure.record).utf8ByteSize ≤ maxResponseBytes)
    (shown : (canonicalBytes (.obj (shownAs c sha256 operationId closure))).utf8ByteSize ≤ maxResponseBytes) :
    Answers (c.get sha256 target) d (shownAs c sha256 operationId closure) := by
  have read : Readable d (.closure operationId) (.ok closure) := by
    unfold Readable
    rw [file]
    exact (if_neg (Nat.not_lt.2 fits)).symm
  have result : statusResult sha256 operationId = (do
      let closure ← readRecord (.closure operationId)
      return merge closure.publicResult (statusFields sha256 operationId closure)) := by
    unfold statusResult raiseIf
    rw [named]
    rfl
  refine ⟨⟨[⟨.readRecord (.closure operationId), .ok closure⟩], d, ?_, ?_⟩, ?_⟩
  · unfold Controller.get raiseIf
    rw [split]
    dsimp only
    rw [if_neg (by simp [bare]), routed]
    dsimp only
    rw [result]
    exact .event _ _ _ (.returned _)
  · exact .cons ⟨⟨read, rfl⟩, rfl⟩ (.nil _)
  · unfold respond
    dsimp only
    rw [if_neg (Nat.not_lt.2 shown)]

namespace Restarted

def restartId : String := "fc-00112233445566778899aabbccddeeff00112233"

def controller : Controller where
  binding := ⟨"candidate-0001", "plan", "token"⟩
  bindingDigest := "current"
  receiptBinding := [("platform", .str "docker")]

/-- The closure of a restart of the prover, under some binding. -/
def restart (bindingDigest : String) : Closure where
  operationId := restartId
  action := "fault:prover-restart"
  bindingDigest := bindingDigest
  requestDigest := "00112233445566778899aabbccddeeff00112233445566778899aabbccddeeff"
  correlationId := "soak-run-prover"
  intentSha256 := "ffeeddccbbaa99887766554433221100ffeeddccbbaa99887766554433221100"
  completedAt := "2026-01-01T00:00:00.000Z"
  publicResult := [("action", .str "prover-restart"), ("applied", .bool true), ("logicalTarget", .str "prover"),
    ("dockerAction", .str "restart"), ("containerId", .str "candidate-0001-prover"),
    ("candidateId", .str "candidate-0001"), ("platformReceipt", .str "0011")]
  privateResult := []

def directory (bindingDigest : String) : Directory
  | .closure id => if id = restartId then some (.whole (restart bindingDigest)) else none
  | .intent _ => none

def target : String := "/v1/faults/" ++ restartId

theorem routed : (urlsplit target).bind (fun parsed => operationOf parsed.path) = some restartId := by decide

theorem shownAs_restart (sha256 : String → String) (bindingDigest : String) :
    shownAs controller sha256 restartId (restart bindingDigest) = [("action", .str "fault:prover-restart"),
      ("applied", .bool true), ("logicalTarget", .str "prover"), ("dockerAction", .str "restart"),
      ("containerId", .str "candidate-0001-prover"), ("candidateId", .str "candidate-0001"), ("platformReceipt", .str "0011"),
      ("operationId", .str restartId), ("closureSha256", .str (sha256 (canonicalBytes (restart bindingDigest).record))),
      ("correlationId", .str "soak-run-prover"), ("platform", .str "docker")] := rfl

theorem small {v : Json} (h : size v ≤ 10000) : (canonicalBytes v).utf8ByteSize ≤ maxResponseBytes := by
  have bytes := utf8ByteSize_dumps_le false v
  rw [canonicalBytes, String.utf8ByteSize_append, maxResponseBytes, show "\n".utf8ByteSize = 1 from rfl]
  omega

theorem size_shownAs {sha256 : String → String} {bindingDigest : String}
    (digest : (sha256 (canonicalBytes (restart bindingDigest).record)).toList.length ≤ 64) :
    size (.obj (shownAs controller sha256 restartId (restart bindingDigest))) ≤ 10000 := by
  rw [shownAs_restart]
  simp [Json.size, sizeFields, strSize, restartId]
  omega

theorem shown {bindingDigest : String} (short : bindingDigest.toList.length ≤ 64) :
    Answers (controller.get Sha256.hexdigest target) (directory bindingDigest)
      (shownAs controller Sha256.hexdigest restartId (restart bindingDigest)) := by
  have bare : (urlsplit target).bind (fun parsed => some (parsed.query, parsed.fragment)) = some ([], []) := by decide
  obtain ⟨parsed, hparsed, hrouted⟩ := Option.bind_eq_some_iff.1 routed
  rw [hparsed, Option.bind_some, Option.some_inj, Prod.mk.injEq] at bare
  refine answers_of_whole hparsed bare hrouted (by decide) (by rw [directory, if_pos rfl]) (small ?_) (small ?_)
  · have one : (Int.repr 1).toList.length = 1 := by decide
    simp [Json.size, sizeFields, strSize, Closure.record, restart, restartId, one]
    omega
  · exact size_shownAs (between_iff.1 (Sha256.between_hexdigest _)).2.2

/-- The status of a restart is not what its replay answers, and the one of a stale closure is shown. -/
theorem not_status_agrees : ¬StatusAgrees controller ["rpc"] Sha256.hexdigest (directory "current") target ∧
    ¬StatusAgrees controller ["rpc"] Sha256.hexdigest (directory "earlier") target := by
  have read {bindingDigest : String} {id : String} {closure : Closure}
      (h : (urlsplit target).bind (fun parsed => operationOf parsed.path) = some id)
      (h' : Readable (directory bindingDigest) (.closure id) (.ok closure)) : closure = restart bindingDigest := by
    rw [routed] at h
    cases h
    obtain ⟨f, hf, rfl⟩ := h'.contents
    rw [directory, if_pos rfl] at hf
    cases hf
    rfl
  constructor
  · intro agrees
    obtain ⟨_, _, routed', read', -, carries, -⟩ := agrees _ (Restarted.shown (by decide))
    obtain rfl := read routed' read'
    have shown := carries "action" (.str "prover-restart") rfl
    rw [shownAs_restart] at shown
    exact absurd (Json.str.inj (Option.some.inj shown)) (by decide)
  · intro agrees
    obtain ⟨_, _, routed', read', current, -⟩ := agrees _ (shown (by decide))
    obtain rfl := read routed' read'
    exact absurd current (by decide)

end Restarted

end Zkdeal.FaultControl
