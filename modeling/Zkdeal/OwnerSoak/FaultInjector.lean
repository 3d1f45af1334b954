import Zkdeal.FaultControl.Applied
import Zkdeal.OwnerSoak.Charges
import Zkdeal.OwnerSoak.Pacer

/-!
# Scheduled faults

`FaultInjector.control` asks the fault controller to apply a fault, under a key that comes from the run, the
purpose and the attempts that the state counts.
-/

namespace Zkdeal.OwnerSoak

open Python Json Soak Interaction Stateful
open FaultControl (Binding Controller Closure Directory canonicalBytes)

/-! ## Requests -/

/-- The variables that `fault_binding` compares with the binding. -/
structure Environ where
  candidateId : String
  hostedIntegrationToken : String

/-- The arguments of `control`; the parameters are literals of the driver and operation ids. -/
structure Fault where
  purpose : String
  action : String
  parameters : Dict
  plain : plain (.obj parameters) = true

namespace Fault

variable (f : Fault)

/-- `self.key(purpose)` -/
def key (runId : String) : String := "soak-" ++ runId ++ "-" ++ f.purpose

def correlation (runId : String) : String := take (f.key runId) 128

def idempotency (runId : String) (attempt : ℤ) : String := f.key runId ++ "-a" ++ toString attempt

def body (binding : Binding) : Dict := [
  ("schemaVersion", .int 1),
  ("binding", .obj binding.dict),
  ("action", .str f.action),
  ("parameters", .obj f.parameters)]

/-- The request for the fault. -/
def request (runId : String) (attempt : ℤ) (binding : Binding) : Request where
  endpoint := "fault"
  method := "POST"
  path := "/v1/faults"
  body := some (.obj (f.body binding))
  auth := some "fault_control"
  headers := [("idempotency-key", f.idempotency runId attempt), ("x-correlation-id", f.correlation runId)]
  label := ""

end Fault

/-! ## The injector -/

/-- The binding in `capabilities()`. -/
def readBinding : Option Json → Except Raised Binding
  | some (.obj d) => do
    let candidateId ← requireStr (item d "candidateId") "fault candidateId"
    let planSha256 ← requireStr (item d "planSha256") "fault planSha256"
    let hostedIntegrationToken ← requireStr (item d "hostedIntegrationToken") "fault hostedIntegrationToken"
    return ⟨candidateId, planSha256, hostedIntegrationToken⟩
  | _ => .error (.driverError "fault-control capabilities response is not an object")

/-- `self.fault_binding()`, with what an earlier call left in `self.binding` -/
def faultBinding (texts : Texts) (environ : Environ) : Option Binding → Driver Binding
  | some binding => return binding
  | none => do
    let (_, body, _) ← request texts ⟨"fault", "GET", "/capabilities", none, none, [], ""⟩ [200] 60 1
    let binding ← liftExcept (readBinding body)
    raiseIf (environ.candidateId ≠ "" ∧ binding.candidateId ≠ environ.candidateId)
      (Raised.driverError "fault-control candidate differs from SOAK_CANDIDATE_ID")
    raiseIf (environ.hostedIntegrationToken ≠ "" ∧ binding.hostedIntegrationToken ≠ environ.hostedIntegrationToken)
      (Raised.driverError "fault-control hostedIntegrationToken differs from the candidate plan")
    return binding

/-- `body["error"]["code"]`, as a text -/
def errorCode (texts : Texts) : Option Json → String
  | some (.obj d) =>
    match item d "error" with
    | .obj error => strOf texts (itemOr error "code" (.str ""))
    | _ => ""
  | _ => ""

/-- The answer to a fault that was applied. -/
def durableOperation (action : String) : Option Json → Except Raised Dict
  | some (.obj d) =>
    match item d "operationId" with
    | .str _ => .ok d
    | _ => .error (.driverError ("fault-control " ++ action ++ " returned no durable operation"))
  | _ => .error (.driverError ("fault-control " ++ action ++ " returned no durable operation"))

/-- The rounds that are left of `control`. -/
def controlRounds (texts : Texts) (environ : Environ) (f : Fault) : ℕ → Option Binding → Driver Dict
  | 0, _ => throw (.driverError ("fault-control " ++ f.action ++ " kept conflicting after a fresh idempotency key"))
  | rounds + 1, cached => do
    let w ← get
    let attempt := w.state.attempt f.purpose
    let binding ← faultBinding texts environ cached
    let (status, body, _) ← request texts (f.request w.state.runId attempt binding) [200, 409] 30 1
    if status = 200 then liftExcept (durableOperation f.action body)
    else if errorCode texts body ∈ FaultControl.conflictCodes then
      update fun s => s.bumpAttempt f.purpose
      controlRounds texts environ f rounds (some binding)
    else throw (.driverError ("fault-control " ++ f.action ++ " conflicted: " ++ errorCode texts body))

/-- `faults.control(purpose, action, parameters)` -/
def control (texts : Texts) (environ : Environ) (f : Fault) (cached : Option Binding) : Driver Dict :=
  controlRounds texts environ f 2 cached

/-! ## Workers and a controller -/

/-- A request that asks for a fault. -/
def Request.asksFault (r : Request) : Bool := r.endpoint == "fault" && r.method == "POST" && r.path == "/v1/faults"

def Request.header (r : Request) (name : String) : String := (r.headers.lookup name).getD ""

/-- SHA-256 of a text, in hexadecimal digits. -/
abbrev sha256 : String → String := Python.Sha256.hexdigest

/-- The journal of a controller, with the callbacks that it ran. -/
abbrev Faults := Directory × List String

/-- A request reaches the controller, and is answered. -/
def Delivered (c : Controller) (r : Request) (w : Faults) (response : FaultControl.Response) (w' : Faults) : Prop :=
  ∃ body, r.body = some body ∧
    c.Delivers sha256 (canonicalBytes body) (r.header "idempotency-key") (r.header "x-correlation-id") w response w'

/-- The journal's request of a fault. -/
def Fault.applied (f : Fault) (c : Controller) (runId : String) : FaultControl.Request :=
  c.request f.action (reread (f.body c.binding)) (f.idempotency runId 1) (f.correlation runId)

/-- What is done under other keys and for other operations. -/
def Elsewhere (c : Controller) (f : Fault) (w w' : Faults) : Prop := ∀ runId,
  w'.1 (.intent ((f.applied c runId).keyHash sha256)) = w.1 (.intent ((f.applied c runId).keyHash sha256)) ∧
  w'.1 (.closure ((f.applied c runId).operationId sha256)) = w.1 (.closure ((f.applied c runId).operationId sha256)) ∧
  w'.2.count ((f.applied c runId).operationId sha256) = w.2.count ((f.applied c runId).operationId sha256)

/-- What happens at the controller while requests are on their way, each of them any number of times. -/
def Traffic (c : Controller) (f : Fault) (sent : List Request) : Faults → Faults → Prop :=
  Relation.ReflTransGen fun w w' => Elsewhere c f w w' ∨ ∃ r ∈ sent, ∃ response, Delivered c r w response w'

/-- The files of a run, a controller, and the requests for faults that were sent. -/
structure Site where
  disk : Disk
  faults : Faults
  sent : List Request

/-- The requests for faults that an operation sends. -/
def Op.sent : Op → List Request
  | .send r => if r.asksFault then [r] else []
  | _ => []

/-- An answer to a request for a fault is one to a delivery of it, if it has a status that the driver expects.
Without an answer, it was delivered or not. -/
def Answered (c : Controller) (f : Fault) (sent : List Request) (w : Faults) : (o : Op) → Answer o → Faults → Prop
  | .send r, .answered status body _, w' =>
    if r.asksFault ∧ status ∈ [200, 409] then ∃ w₁ response w₂, Traffic c f sent w w₁ ∧ Delivered c r w₁ response w₂ ∧
      Traffic c f sent w₂ w' ∧ response.status = status ∧
      ∃ document, body = some document ∧ loads (canonicalBytes response.document) = some document
    else Traffic c f sent w w'
  | _, _, w' => Traffic c f sent w w'

/-- A fault that is scheduled, and what it is scheduled with. -/
structure Schedule where
  texts : Texts
  environ : Environ
  manifestSha256 : String
  controller : Controller
  fault : Fault

namespace Schedule

variable (p : Schedule)

/-- The surroundings keep the files; the controller does not crash, and its targets do as they are told. -/
def env : Env Op Answer Site := fun w o r w' =>
  w.disk.Reads o r ∧ w'.disk = w.disk.after o ∧ w'.sent = w.sent ++ o.sent ∧
    Answered p.controller p.fault w'.sent w.faults o r w'.faults

/-- The step does not ask for a fault, and leaves the run and the attempts at the fault as they are. -/
def Free : Step → Prop
  | .request _ r _ _ _ => r.asksFault = false
  | .update update => ∀ s, (update s).runId = s.runId ∧ (update s).attempt p.fault.purpose = s.attempt p.fault.purpose
  | _ => True

/-- What a worker does: it asks for the fault, with what is in `self.binding`, or does something else. -/
inductive Job : Type where
  | control (cached : Option Binding)
  | other (step : Step) (free : p.Free step)

/-- A worker starts before its first job. -/
def started : Driver Bool := do
  let w ← get
  if w.state.workerBoots = 0 then boot p.manifestSha256 else return true

/-- The workers, one after the other, and what `control` returns to them. -/
def workers : Service p.Job Raised Worker Op Answer (Option Dict) Site where
  serve job := do
    let opened ← p.started
    if opened then
      match job with
      | .control cached => do
        let receipt ← OwnerSoak.control p.texts p.environ p.fault cached
        return some receipt
      | .other step _ => do
        let _ ← step.carry
        return none
    else return none
  env := p.env
  load := fun _ => ⟨.fresh "" "", .empty, 0⟩
  initial w := w.disk = .empty ∧ w.sent = [] ∧ ∀ runId, FaultControl.Unapplied sha256 (p.fault.applied p.controller runId) w.faults
  drift w w' := w'.disk = w.disk ∧ w'.sent = w.sent ∧ Traffic p.controller p.fault w.sent w.faults w'.faults

end Schedule

end Zkdeal.OwnerSoak
