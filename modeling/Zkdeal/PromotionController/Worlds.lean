import Zkdeal.FailoverProvider.Worlds
import Zkdeal.PromotionController.Controller

/-!
# A deployment of the controller

The environment of one controller, and services that answer its requests by a function: a provider and an
owner that store their responses, and a standby that reports its role.
-/

namespace Zkdeal.PromotionController

open Interaction Python

/-- The responses that the provider and the owner have stored. -/
structure Stores where
  prepare : Option Dict
  owner : Option Dict
  commit : Option Dict

/-- An answer that is no object: the controller does not learn what happened. -/
def Received.lost : Received → Bool
  | .object _ => false
  | _ => true

def Stores.fresh : Stores := ⟨none, none, none⟩

/-- The request of the commit that follows the response of the owner. -/
def commitOf (config : Config) (owner : Dict) : HttpRequest :=
  commitRequest config config.candidateId (FailoverProvider.canonicalHash (.obj owner))

namespace Deployment

def environment : Environment where
  get name := [
    ("ACTIVE_HEALTH_URLS", "https://witness-a.example/health, https://witness-b.example/health"),
    ("STANDBY_HEALTH_URL", "http://coordinator-standby:3000/hosting/v1/health"),
    ("FAILOVER_PROVIDER_URL", "https://failover.example/v1/failovers"),
    ("PROMOTION_ENDPOINT", "http://coordinator-standby:3000/hosting/v1/admin/promote"),
    ("ACTIVE_COORDINATOR_ID", "active-region-a"),
    ("STANDBY_COORDINATOR_ID", "standby-region-b"),
    ("PROMOTION_CANDIDATE_ID", "candidate-20260821-001"),
    ("FAILOVER_PROVIDER_TOKEN", "provider-token-0001"),
    ("FAILOVER_APPROVAL_TOKEN", "approval-token-0001"),
    ("PROMOTION_PRINCIPAL_TOKEN_FILE", "/run/secrets/principal"),
    ("PROMOTION_CONTROLLER_ARMED", "true")].lookup name
  file _ := .content "principal-token-0001\n"

/-- The same as read from the environment, for the given candidate. -/
def configFor (candidate : SafeId) : Config where
  activeHealthUrls := ["https://witness-a.example/health", "https://witness-b.example/health"]
  standbyHealthUrl := "http://coordinator-standby:3000/hosting/v1/health"
  failoverProviderUrl := "https://failover.example/v1/failovers"
  promotionEndpoint := "http://coordinator-standby:3000/hosting/v1/admin/promote"
  activeCoordinatorId := ⟨"active-region-a", by decide⟩
  standbyCoordinatorId := ⟨"standby-region-b", by decide⟩
  candidateId := candidate
  providerToken := "provider-token-0001"
  approvalToken := "approval-token-0001"
  principalToken := "principal-token-0001"
  failureThreshold := ⟨3, by decide⟩
  pollSeconds := ⟨10, by decide⟩
  maxMonitorCycles := ⟨0, by decide⟩
  maxRtoSeconds := ⟨300, by decide⟩
  maxCheckpointAgeSeconds := ⟨30, by decide⟩
  requestTimeoutSeconds := ⟨10, by decide⟩
  armed := true
  allowHttp := false
  witnesses := by decide
  identities := by decide
  providerUrl := ⟨"https://failover.example/v1/failovers", by decide⟩

def candidate : SafeId := ⟨"candidate-20260821-001", by decide⟩

def config : Config := configFor candidate

/-- What the environment is read as. -/
example : (Config.fromEnvironment environment).toOption.map (fun c =>
    (c.activeHealthUrls, c.failoverProviderUrl, c.candidateId, c.principalToken, c.failureThreshold.1, c.armed)) =
      some (config.activeHealthUrls, config.failoverProviderUrl, config.candidateId, config.principalToken,
        config.failureThreshold.1, config.armed) := by decide

def prepareResponse : Dict :=
  FailoverProvider.prepareResponse (.str "candidate-20260821-001") "0/16B6C50" "0/16B6D00"

def ownerResponse : Dict := [
  ("promoted", .bool true),
  ("effectiveRole", .str "active"),
  ("indexerHeadMatchesL1", .bool true),
  ("promotionReplication", .obj [("targetLsn", .str "0/1")])]

def commitResponse : Dict :=
  FailoverProvider.commitResponse FailoverProvider.Deployment.config "candidate-20260821-001"

/-- What the standby reports. -/
def standbyDocument (promoted : Bool) : Dict := [
  ("coordinatorId", .str "standby-region-b"),
  ("configuredRole", .str "standby"),
  ("effectiveRole", .str (if promoted then "active" else "standby")),
  ("acceptingWrites", .bool promoted)]

/-- The services beside the clock of the controller, which lives for a number of operations. -/
structure Play where
  stores : Stores
  clock : List Float
  times : List Float
  lives : ℕ

namespace Play

variable (p : Play)

/-- The answer to a request, and what is stored then.  The witnesses are out of reach. -/
def serve (request : HttpRequest) : Received × Stores :=
  if request = prepareRequest config then
    let value := p.stores.prepare.getD prepareResponse
    (.object value, { p.stores with prepare := some value })
  else if request = ownerRequest config then
    let value := p.stores.owner.getD ownerResponse
    (.object value, { p.stores with owner := some value })
  else if (p.stores.owner.any fun value => request = commitOf config value) = true then
    let value := p.stores.commit.getD commitResponse
    (.object value, { p.stores with commit := some value })
  else if request = getRequest config config.standbyHealthUrl then
    (.object (standbyDocument p.stores.owner.isSome), p.stores)
  else (.refused "request failed", p.stores)

def answer (p : Play) (o : Op) : Option (Answer o × Play) :=
  match p.lives with
  | 0 => none
  | lives + 1 =>
    let p := { p with lives := lives }
    match o with
    | .requestJson request =>
      if request.method = .post ∧ (p.serve request).1.lost = true then none
      else some ((p.serve request).1, { p with stores := (p.serve request).2 })
    | .monotonic =>
      let x := p.clock.headD 0
      some (x, { p with clock := p.clock.tail, times := p.times ++ [x] })
    | .unixMs => some (1789000000000, p)
    | .sleep _ => some ((), p)
    | .atomicJson _ => some (some (), p)
    | .print _ => some (some (), p)

/-- The controller, run in the deployment. -/
def played (p : Play) : Trace Op Answer × Outcome Op (Except Raised (Option Dict)) × Play :=
  (run config 3).run.simulate answer p

theorem played_runs (p : Play) : (run config 3).run.Runs p.played.1 p.played.2.1 :=
  Prog.simulate_runs answer _ p

end Play

/-- The services before or after a crash, for a controller that lives for a number of operations. -/
def start (stores : Stores) (lives : ℕ) : Play := ⟨stores, [1000.25, 1042.5], [], lives⟩

end Deployment

end Zkdeal.PromotionController
