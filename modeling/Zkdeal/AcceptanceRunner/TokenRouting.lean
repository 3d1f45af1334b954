import Zkdeal.AcceptanceRunner.HttpExecutor

/-!
# Where the tokens of the acceptance runner go

`validate_scenario_shape` reads the raw values of a step, and `run` converts them to texts and builds the
headers.  `token_routing` says that they agree: each request is made of its step, of the base URL of its own
endpoint and of at most two tokens, and a scoped token is in it only if the endpoint is the token's own.
-/

namespace Zkdeal.AcceptanceRunner

open Interaction Stateful Python Json

/-! ## Headers -/

def authorizationHeader : String := "authorization"

def approvalHeader : String := "x-zkdeal-failover-approval"

/-- The names of headers that have nothing to do with an authority. -/
def plainHeaders : List String := "accept" :: "content-type" :: allowedHeaders

namespace Headers

theorem mem_set {headers : Headers} {name value : String} {kv : String × String} (h : kv ∈ headers.set name value) :
    kv ∈ headers ∨ kv = (name, value) := by
  unfold set at h
  split at h
  · obtain ⟨e, he, rfl⟩ := List.mem_map.1 h
    split
    · exact .inr rfl
    · exact .inl he
  · exact (List.mem_append.1 h).imp_right List.mem_singleton.1

theorem mem_of_lookup {headers : Headers} {name value : String} (h : headers.lookup name = some value) :
    (name, value) ∈ headers := by
  induction headers with
  | nil => cases h
  | cons kv headers ih =>
    obtain ⟨key, v⟩ := kv
    rw [List.lookup_cons] at h
    by_cases hk : name = key
    · subst hk
      rw [beq_self_eq_true] at h
      rw [Option.some.inj h]
      exact List.mem_cons_self
    · rw [show (name == key) = false by simpa using hk] at h
      exact List.mem_cons_of_mem _ (ih h)

theorem names_set {headers : Headers} {name value : String} :
    (headers.set name value).map Prod.fst =
      if (headers.lookup name).isSome then headers.map Prod.fst else headers.map Prod.fst ++ [name] := by
  unfold set
  split
  · rw [List.map_map]
    refine List.map_congr_left fun kv _ => ?_
    by_cases hk : kv.1 = name <;> simp [hk]
  · rw [List.map_append]
    rfl

theorem nodup_set {headers : Headers} {name value : String} (h : (headers.map Prod.fst).Nodup) :
    ((headers.set name value).map Prod.fst).Nodup := by
  rw [names_set]
  split
  · exact h
  · rename_i absent
    rw [List.nodup_append]
    refine ⟨h, List.nodup_singleton _, fun a ha b hb => ?_⟩
    rw [List.mem_singleton.1 hb]
    rintro rfl
    obtain ⟨kv, hkv, rfl⟩ := List.mem_map.1 ha
    exact absent (List.lookup_isSome_iff.2 ⟨kv, hkv, by simp⟩)

end Headers

/-- The headers that a step supplies are plain. -/
theorem supplyHeaders_eq_ok {stepId : String} {headers headers' : Headers} {supplied : List (String × Json)}
    (h : supplyHeaders stepId headers supplied = .ok headers') (plain : ∀ kv ∈ headers, kv.1 ∈ plainHeaders)
    (nodup : (headers.map Prod.fst).Nodup) :
    (∀ kv ∈ headers', kv.1 ∈ plainHeaders) ∧ (headers'.map Prod.fst).Nodup := by
  induction supplied generalizing headers with
  | nil =>
    obtain rfl := Except.ok.inj h
    exact ⟨plain, nodup⟩
  | cons kv supplied ih =>
    unfold supplyHeaders at h
    obtain ⟨_, allowed, h⟩ := bind_eq_ok.1 h
    have allowed := raiseIf_eq_ok.1 allowed
    rw [not_or, not_not] at allowed
    refine ih h (fun kv' hkv' => ?_) (Headers.nodup_set nodup)
    rcases Headers.mem_set hkv' with hkv' | rfl
    · exact plain kv' hkv'
    · exact List.mem_cons_of_mem _ (List.mem_cons_of_mem _ allowed.1)

/-! ## Drafts -/

/-- A request is made of its step and of the base URL of the endpoint of the step. -/
structure Drafted (e : Executor) (step : Dict) (d : Draft) : Prop where
  endpoint : d.endpoint = strAt step "endpoint"
  method : d.method = strAt step "method"
  base : e.endpoints.lookup d.endpoint = some d.base
  path : ∃ more, d.path = .ofList ('/' :: more)
  data : d.data = requestData (optional step "body")
  plain : ∀ kv ∈ d.headers, kv.1 ∈ plainHeaders
  nodup : (d.headers.map Prod.fst).Nodup

theorem safePath_eq_ok {value : Json} {path : String} (h : safePath value = .ok path) :
    ∃ more, path = .ofList ('/' :: more) := by
  cases value with
  | str value =>
    unfold safePath at h
    obtain ⟨_, absolute, h⟩ := bind_eq_ok.1 h
    have absolute := raiseIf_eq_ok.1 absolute
    rw [not_or, not_not] at absolute
    split at h
    · cases h
    · obtain ⟨_, -, h⟩ := bind_eq_ok.1 h
      obtain rfl := Except.ok.inj h
      obtain ⟨more, hmore⟩ := List.head?_eq_some_iff.1 absolute.1
      exact ⟨more, by rw [← hmore, String.ofList_toList]⟩
  | _ => cases h

theorem drafted_of_draft {e : Executor} {step : Dict} {d : Draft} (h : e.draft step = .ok d) : Drafted e step d := by
  unfold Executor.draft at h
  obtain ⟨_, -, h⟩ := bind_eq_ok.1 h
  dsimp only at h
  split at h
  · cases h
  · rename_i base hbase
    obtain ⟨_, -, h⟩ := bind_eq_ok.1 h
    obtain ⟨path, hpath, h⟩ := bind_eq_ok.1 h
    obtain ⟨_, -, h⟩ := bind_eq_ok.1 h
    obtain ⟨_, -, h⟩ := bind_eq_ok.1 h
    split at h
    · cases h
    · obtain ⟨supplied, -, h⟩ := bind_eq_ok.1 h
      obtain ⟨headers, hheaders, h⟩ := bind_eq_ok.1 h
      obtain rfl := Except.ok.inj h
      have own : (∀ kv ∈ (("accept", "application/json") ::
          if optional step "body" = .null then [] else [("content-type", "application/json")] : Headers),
            kv.1 ∈ plainHeaders) ∧
          ((("accept", "application/json") ::
            if optional step "body" = .null then [] else [("content-type", "application/json")] : Headers).map
              Prod.fst).Nodup := by
        split <;> decide
      obtain ⟨plain, nodup⟩ := supplyHeaders_eq_ok hheaders own.1 own.2
      exact ⟨rfl, rfl, hbase, safePath_eq_ok hpath, rfl, plain, nodup⟩

/-! ## Routing -/

/-- The request goes to the host that the URL of the endpoint names. -/
def GoesTo (environment : Environment) (endpoint : String) (request : Request) : Prop :=
  ∃ envName raw parsed, endpointEnv.lookup endpoint = some envName ∧ environment.get envName = some raw ∧
    urlsplit raw = some parsed ∧ requestHost request.url = some parsed.netloc

/-- What a request of a step may be. -/
structure Routed (e : Executor) (step : Dict) (request : Request) : Prop where
  target : GoesTo e.environment (strAt step "endpoint") request
  url : ∃ base more, e.endpoints.lookup (strAt step "endpoint") = some base ∧
    request.url = base ++ .ofList ('/' :: more)
  method : request.method = strAt step "method"
  data : request.data = requestData (optional step "body")
  nodup : (request.headers.map Prod.fst).Nodup
  /-- A bearer is the token of the step's authority, which is not the approval; a scoped one is at home. -/
  bearer : ∀ value, (authorizationHeader, value) ∈ request.headers → ∃ authority token,
    authority = strOf (optional step "auth") ∧ e.readToken authority = .ok token ∧ value = "Bearer " ++ token ∧
      authority ≠ "failover_approval" ∧
      ∀ own, controlAuthEndpoint.lookup authority = some own → strAt step "endpoint" = own
  /-- The approval goes to the failover endpoint, and not with a `GET`. -/
  approval : ∀ value, (approvalHeader, value) ∈ request.headers →
    e.readToken "failover_approval" = .ok value ∧ strAt step "endpoint" = "failover" ∧ request.method ≠ "GET"
  /-- The other headers are not about authorities. -/
  others : ∀ kv ∈ request.headers, kv.1 = authorizationHeader ∨ kv.1 = approvalHeader ∨ kv.1 ∈ plainHeaders

/-- The endpoints of an executor are the base URLs of its environment. -/
theorem bindEndpoint_of_lookup {environment : Environment} {names : List String} {endpoints : List (String × String)}
    (h : names.mapM (bindEndpoint environment) = .ok endpoints) {name base : String}
    (hlookup : endpoints.lookup name = some base) : bindEndpoint environment name = .ok (name, base) := by
  have mem := Headers.mem_of_lookup hlookup
  obtain ⟨name', -, hbind⟩ := mapM_mem_right h mem
  have same : name = name' := by
    unfold bindEndpoint at hbind
    split at hbind
    · cases hbind
    · split at hbind
      · cases hbind
      · obtain ⟨base', -, heq⟩ := map_eq_ok.1 hbind
        exact (Prod.mk.inj heq).1.symm
  rw [same] at hbind ⊢
  exact hbind

theorem goesTo_of_path {environment : Environment} {name base : String}
    (h : bindEndpoint environment name = .ok (name, base)) {more : List Char} {request : Request}
    (hurl : request.url = base ++ .ofList ('/' :: more)) : GoesTo environment name request := by
  unfold bindEndpoint at h
  split at h
  · cases h
  · rename_i envName hname
    split at h
    · cases h
    · rename_i raw hraw
      obtain ⟨base', hbase, heq⟩ := map_eq_ok.1 h
      obtain rfl := (Prod.mk.inj heq).2
      unfold normalizedBase at hbase
      split at hbase
      · cases hbase
      · rename_i parsed hparsed
        obtain ⟨_, host, hbase⟩ := bind_eq_ok.1 hbase
        obtain ⟨_, -, hbase⟩ := bind_eq_ok.1 hbase
        obtain rfl := Except.ok.inj hbase
        have host := raiseIf_eq_ok.1 host
        rw [not_or, not_or, Bool.not_eq_false] at host
        have path := mem_path hparsed
        have slash := (rstripSlashes_spec parsed.path).2 (path.2 (ParseResult.netloc_ne_nil host.2.1))
        refine ⟨envName, raw, parsed, hname, ?_, hparsed, ?_⟩
        · exact (Option.filter_eq_some_iff.1 hraw).1
        · rw [hurl]
          exact requestHost_urlunsplitPath (ParseResult.isHttp_iff.1 host.1) (mem_netloc hparsed).1 slash more

/-- What the tokens of a step have to be for its request. -/
structure Carried (e : Executor) (step : Dict) (d : Draft) (bearer approval : Option String) : Prop where
  bearer : ∀ token, bearer = some token →
    optional step "auth" ≠ .null ∧ e.readToken (strOf (optional step "auth")) = .ok token
  approval : ∀ token, approval = some token →
    optional step "approvalAuth" ≠ .null ∧ e.readToken "failover_approval" = .ok token

/-- The headers of a request. -/
theorem mem_request_headers {d : Draft} {bearer approval : Option String} {kv : String × String}
    (h : kv ∈ (d.request bearer approval).headers) :
    kv ∈ d.headers ∨ (∃ token, bearer = some token ∧ kv = (authorizationHeader, "Bearer " ++ token)) ∨
      ∃ token, approval = some token ∧ kv = (approvalHeader, token) := by
  have first {kv : String × String} (h : kv ∈ (d.request bearer none).headers) :
      kv ∈ d.headers ∨ ∃ token, bearer = some token ∧ kv = (authorizationHeader, "Bearer " ++ token) := by
    cases bearer with
    | none => exact .inl h
    | some token => exact (Headers.mem_set h).imp_right fun he => ⟨token, rfl, he⟩
  cases approval with
  | none => exact (first h).imp_right .inl
  | some token =>
    rcases Headers.mem_set h with h | h
    · exact (first h).imp_right .inl
    · exact .inr (.inr ⟨token, rfl, h⟩)

theorem nodup_request_headers {d : Draft} (h : (d.headers.map Prod.fst).Nodup) (bearer approval : Option String) :
    ((d.request bearer approval).headers.map Prod.fst).Nodup := by
  have first : ((d.request bearer none).headers.map Prod.fst).Nodup := by
    cases bearer with
    | none => exact h
    | some token => exact Headers.nodup_set h
  cases approval with
  | none => exact first
  | some token => exact Headers.nodup_set first

/-- The request of a scoped step is routed. -/
theorem routed_request {environment : Environment} {names : List String} {authHashes : List (String × String)}
    {e : Executor} (built : newExecutor environment names authHashes = .ok e) {step : Dict} (hscoped : Scoped step)
    {d : Draft} (hd : Drafted e step d) {bearer approval : Option String} (carried : Carried e step d bearer approval) :
    Routed e step (d.request bearer approval) := by
  obtain ⟨more, hmore⟩ := hd.path
  have hbase : e.endpoints.lookup (strAt step "endpoint") = some d.base := hd.endpoint ▸ hd.base
  have hurl : (d.request bearer approval).url = d.base ++ .ofList ('/' :: more) := by
    rw [← hmore]
    rfl
  have hbind : bindEndpoint environment (strAt step "endpoint") = .ok (strAt step "endpoint", d.base) := by
    unfold newExecutor at built
    obtain ⟨endpoints, hendpoints, built⟩ := bind_eq_ok.1 built
    obtain ⟨_, -, built⟩ := bind_eq_ok.1 built
    obtain rfl := Except.ok.inj built
    exact bindEndpoint_of_lookup hendpoints hbase
  have henv : e.environment = environment := by
    unfold newExecutor at built
    obtain ⟨endpoints, -, built⟩ := bind_eq_ok.1 built
    obtain ⟨_, -, built⟩ := bind_eq_ok.1 built
    obtain rfl := Except.ok.inj built
    rfl
  have notPlain : authorizationHeader ∉ plainHeaders ∧ approvalHeader ∉ plainHeaders ∧
      authorizationHeader ≠ approvalHeader := by decide
  refine ⟨henv ▸ goesTo_of_path hbind hurl, ⟨d.base, more, hbase, hurl⟩, hd.method, hd.data,
    nodup_request_headers hd.nodup _ _, fun value hvalue => ?_, fun value hvalue => ?_, fun kv hkv => ?_⟩
  · rcases mem_request_headers hvalue with h | ⟨token, htoken, h⟩ | ⟨token, -, h⟩
    · exact absurd (hd.plain _ h) notPlain.1
    · refine ⟨_, token, rfl, (carried.bearer token htoken).2, (Prod.mk.inj h).2, fun he => ?_, hscoped.own⟩
      exact hscoped.bearer (eq_str_of_strOf he (by decide) (by decide))
    · exact absurd (Prod.mk.inj h).1 notPlain.2.2
  · rcases mem_request_headers hvalue with h | ⟨token, -, h⟩ | ⟨token, htoken, h⟩
    · exact absurd (hd.plain _ h) notPlain.2.1
    · exact absurd (Prod.mk.inj h).1.symm notPlain.2.2
    · obtain ⟨present, hread⟩ := carried.approval token htoken
      obtain ⟨-, home, posted⟩ := hscoped.approval present
      refine ⟨(Prod.mk.inj h).2 ▸ hread, home, fun hget => posted ?_⟩
      have text : strAt step "method" = "GET" := hd.method ▸ hget
      unfold strAt at text
      unfold optional
      cases hm : Dict.get step "method" with
      | none =>
        rw [hm] at text
        exact absurd text (by decide)
      | some v =>
        rw [hm] at text
        exact eq_str_of_strOf text (by decide) (by decide)
  · rcases mem_request_headers hkv with h | ⟨token, -, rfl⟩ | ⟨token, -, rfl⟩
    · exact .inr (.inr (hd.plain _ h))
    · exact .inl rfl
    · exact .inr (.inl rfl)

/-! ## Runs -/

/-- The tokens that an executor has read are the ones that it would read. -/
def Consistent (e : Executor) (tokens : Tokens) : Prop :=
  ∀ authority token, tokens.lookup authority = some token → e.readToken authority = .ok token

/-- The operations that the steps may lead to. -/
def Routes (e : Executor) (steps : List Dict) : Op → Prop
  | .send request _ => ∃ step ∈ steps, Routed e step request
  | .sleep _ => True

section Runs

variable {environment : Environment} {names : List String} {authHashes : List (String × String)}
  {env : Env Op Answer Unit} {e : Executor} {steps : List Dict} {tokens : Tokens}

theorem keeps_token {ok : Unit → Op → Prop} (h : Consistent e tokens) (authority : String) :
    Keeps env ok (e.token authority)
      (fun token tokens' _ => e.readToken authority = .ok token ∧ Consistent e tokens') (fun _ _ _ => True) tokens () := by
  refine keeps_bind_iff.2 (keeps_get_iff.2 ?_)
  cases hread : tokens.lookup authority with
  | some token => exact ⟨h authority token hread, h⟩
  | none =>
    refine keeps_bind_iff.2 (keeps_liftExcept_iff.2 ?_)
    cases htoken : e.readToken authority with
    | error _ => trivial
    | ok token =>
      rw [ends_ok]
      refine keeps_bind_iff.2 (keeps_modify_iff.2 (keeps_pure_iff.2 ⟨rfl, fun authority' token' hlookup => ?_⟩))
      rw [List.lookup_cons] at hlookup
      by_cases same : authority' = authority
      · rw [same, beq_self_eq_true] at hlookup
        rw [same, htoken, Option.some.inj hlookup]
      · rw [show (authority' == authority) = false by simpa using same] at hlookup
        exact h authority' token' hlookup

theorem keeps_bearer {ok : Unit → Op → Prop} (h : Consistent e tokens) (auth : Json) :
    Keeps env ok (e.bearer auth)
      (fun bearer tokens' _ => (∀ token, bearer = some token → auth ≠ .null ∧ e.readToken (strOf auth) = .ok token) ∧
        Consistent e tokens') (fun _ _ _ => True) tokens () := by
  unfold Executor.bearer
  split
  · exact keeps_pure_iff.2 ⟨nofun, h⟩
  · rename_i present
    refine (keeps_token h (strOf auth)).bind fun token tokens' _ ⟨hread, hc⟩ => keeps_pure_iff.2 ⟨?_, hc⟩
    rintro _ ⟨⟩
    exact ⟨present, hread⟩

theorem keeps_approval {ok : Unit → Op → Prop} (h : Consistent e tokens) (d : Draft) (approvalAuth : Json) :
    Keeps env ok (e.approval d approvalAuth)
      (fun approval tokens' _ =>
        (∀ token, approval = some token → approvalAuth ≠ .null ∧ e.readToken "failover_approval" = .ok token) ∧
        Consistent e tokens') (fun _ _ _ => True) tokens () := by
  unfold Executor.approval
  split
  · exact keeps_pure_iff.2 ⟨fun token absent => (Option.some_ne_none token absent.symm).elim, h⟩
  · rename_i present
    refine keeps_bind_iff.2 ?_
    refine keeps_raiseIf_iff.2 ⟨fun _ => trivial, fun _ => ?_⟩
    refine (keeps_token h "failover_approval").bind fun token tokens' _ read => keeps_pure_iff.2 ⟨?_, read.2⟩
    rintro _ ⟨⟩
    exact ⟨present, read.1⟩

/-- Every attempt sends the same request. -/
theorem keeps_attemptLoop {d : Draft} {request : Request} (hrequest : ∃ step ∈ steps, Routed e step request)
    (h : Consistent e tokens) (timeout : ℚ) (requiredPointers : List String) (attempts intervalMs : ℤ) (left : ℕ)
    (lastError : String) :
    Keeps env (fun _ => Routes e steps)
      (attemptLoop d request timeout requiredPointers attempts intervalMs left lastError)
      (fun _ tokens' _ => Consistent e tokens') (fun _ _ _ => True) tokens () := by
  induction left generalizing lastError with
  | zero => trivial
  | succ left ih =>
    unfold attemptLoop
    refine keeps_bind_iff.2 (keeps_perform_iff.2 ⟨hrequest, fun opened _ _ => ?_⟩)
    split
    · exact h
    · trivial
    · rename_i message _
      refine keeps_bind_iff.2 ?_
      unfold whenTrue
      split
      · exact keeps_perform_iff.2 ⟨trivial, fun _ _ _ => ih message⟩
      · exact keeps_pure_iff.2 (ih message)

theorem keeps_run (built : newExecutor environment names authHashes = .ok e) {step : Dict} (hmem : step ∈ steps)
    (hscoped : Scoped step) (h : Consistent e tokens) (requiredPointers : List String) :
    Keeps env (fun _ => Routes e steps) (e.run step requiredPointers)
      (fun _ tokens' _ => Consistent e tokens') (fun _ _ _ => True) tokens () := by
  refine keeps_bind_iff.2 (keeps_liftExcept_iff.2 ?_)
  cases hdraft : e.draft step with
  | error _ => trivial
  | ok d =>
    rw [ends_ok]
    refine (keeps_bearer h _).bind fun bearer tokens₁ _ ⟨hbearer, h₁⟩ => ?_
    refine (keeps_approval h₁ d _).bind fun approval tokens₂ _ ⟨happroval, h₂⟩ => ?_
    have routed := routed_request built hscoped (drafted_of_draft hdraft) ⟨hbearer, happroval⟩
    refine keeps_bind_iff.2 (keeps_liftExcept_iff.2 ?_)
    cases intWithin ((step.get "attempts").getD (.int 1)) 1 600 _ with
    | error _ => trivial
    | ok attempts =>
      rw [ends_ok]
      refine keeps_bind_iff.2 (keeps_liftExcept_iff.2 ?_)
      cases intWithin ((step.get "intervalMs").getD (.int 0)) 0 10000 _ with
      | error _ => trivial
      | ok intervalMs =>
        rw [ends_ok]
        split
        · trivial
        · exact keeps_attemptLoop ⟨step, hmem, routed⟩ h₂ _ _ _ _ _ _

theorem keeps_runSteps (built : newExecutor environment names authHashes = .ok e)
    (pointersByStep : List (String × List String)) {rest : List Dict} (hmem : ∀ step ∈ rest, step ∈ steps)
    (hscoped : ∀ step ∈ rest, Scoped step) (h : Consistent e tokens) :
    Keeps env (fun _ => Routes e steps) (e.runSteps pointersByStep rest)
      (fun _ tokens' _ => Consistent e tokens') (fun _ _ _ => True) tokens () := by
  induction rest generalizing tokens with
  | nil => exact keeps_pure_iff.2 h
  | cons step rest ih =>
    rw [List.forall_mem_cons] at hmem hscoped
    refine (keeps_run built hmem.1 hscoped.1 h _).bind fun result tokens₁ _ h₁ => ?_
    exact (ih hmem.2 hscoped.2 h₁).bind fun results tokens₂ _ h₂ => keeps_pure_iff.2 h₂

end Runs

/-- Every request that the steps of an accepted scenario lead to is routed: its tokens are those of its
step, and a scoped one goes to its own endpoint only. -/
theorem token_routing {name : String} {value : Json} {steps : List Dict} {refs : List Ref}
    (accepted : validateScenarioShape name value = .ok (steps, refs)) {environment : Environment} {names : List String}
    {authHashes : List (String × String)} {e : Executor} (built : newExecutor environment names authHashes = .ok e)
    (pointersByStep : List (String × List String)) {pre post : Trace Op Answer} {request : Request} {timeout : ℚ}
    {opened : Opened} {out : Outcome Op (Except Raised (List StepResult) × Tokens)}
    (run : (start (e.runSteps pointersByStep steps) []).Runs (pre ++ ⟨.send request timeout, opened⟩ :: post) out) :
    ∃ step ∈ steps, Routed e step request := by
  have keeps : Keeps (fun _ _ _ _ => True) (fun _ => Routes e steps) (e.runSteps pointersByStep steps)
      (fun _ tokens _ => Consistent e tokens) (fun _ _ _ => True) [] () :=
    keeps_runSteps built pointersByStep (fun step h => h) (scoped_of_validateScenarioShape accepted) nofun
  have accepts (tr : Trace Op Answer) : Accepts (fun _ _ _ _ => True) () tr () := by
    induction tr with
    | nil => exact .nil ()
    | cons e tr ih => exact .cons trivial ih
  exact keeps.permits run (accepts pre)

/-! ## A failover drill -/

namespace FailoverDrill

def controlToken : String := "eph_0123456789abcdef0123456789abcdef"

def approvalToken : String := "eph_fedcba9876543210fedcba9876543210"

def environment : Environment where
  get := fun name => [("COORDINATOR_URL", "https://coordinator.internal:8443/"),
    ("FAILOVER_PROVIDER_URL", "http://failover.internal:8080/api"),
    ("ACCEPTANCE_FAILOVER_CONTROL_TOKEN_FILE", "/tokens/control"),
    ("ACCEPTANCE_FAILOVER_APPROVAL_TOKEN_FILE", "/tokens/approval")].lookup name
  files := fun path => [("/tokens/control", (⟨0o600, some (encodeUtf8 controlToken)⟩ : BackupRestore.File)),
    ("/tokens/approval", ⟨0o600, some (encodeUtf8 approvalToken)⟩)].lookup path
  timeout := some 10

def authHashes : List (String × String) :=
  [("failover_control", "19c89fd299ca0ac73ebe05fcdb074706ebb87049550b91a210e576d92825e0b2"),
    ("failover_approval", "621f84f76e06df6e9260fe6c527c34f24a27be63721ab4c9602ddf508e0439f6")]

/-- The request to fail over, with a correlation id. -/
def failoverStep : Dict :=
  [("id", .str "fail-over"), ("endpoint", .str "failover"), ("method", .str "POST"), ("path", .str "/v1/failovers"),
    ("body", .obj [("activeId", .str "coordinator-a")]), ("expectStatus", .arr [.int 202]),
    ("headers", .obj [("X-Correlation-Id", .str "drill-1")]), ("auth", .str "failover_control"),
    ("approvalAuth", .str "failover_approval")]

def readyStep : Dict :=
  [("id", .str "ready"), ("endpoint", .str "coordinator"), ("method", .str "GET"), ("path", .str "/hosting/v1/ready"),
    ("expectStatus", .arr [.int 200])]

def refTo (step pointer : String) : Json := .obj [("step", .str step), ("pointer", .str pointer)]

def scenario : Json :=
  .obj [("steps", .arr [.obj failoverStep, .obj readyStep]),
    ("evidence", .obj [("activeTerminated", refTo "fail-over" "/body/activeTerminated"),
      ("staleWriterRejected", refTo "fail-over" "/body/staleWriterRejected"),
      ("promotedReady", refTo "ready" "/body/ready"), ("signerAfterFence", refTo "fail-over" "/body/signerAfterFence"),
      ("targetLsn", refTo "fail-over" "/body/targetLsn"), ("replayLsn", refTo "fail-over" "/body/replayLsn"),
      ("rtoSeconds", refTo "fail-over" "/body/rtoSeconds")])]

def executor : Executor where
  endpoints := [("coordinator", "https://coordinator.internal:8443"), ("failover", "http://failover.internal:8080/api")]
  authHashes := authHashes
  environment := environment

/-- The first request of the drill: it has both tokens of the failover endpoint. -/
def failoverRequest : Request where
  url := "http://failover.internal:8080/api/v1/failovers"
  method := "POST"
  data := some (encodeUtf8 "\x7b\"activeId\":\"coordinator-a\"\x7d\n")
  headers := [("accept", "application/json"), ("content-type", "application/json"), ("x-correlation-id", "drill-1"),
    ("authorization", "Bearer " ++ controlToken), ("x-zkdeal-failover-approval", approvalToken)]

theorem accepted : ∃ refs, validateScenarioShape "split-brain-promotion" scenario = .ok ([failoverStep, readyStep], refs) := by
  have steps : (validateScenarioShape "split-brain-promotion" scenario).map Prod.fst = .ok [failoverStep, readyStep] := by
    decide +kernel
  obtain ⟨⟨shown, refs⟩, h, rfl⟩ := map_eq_ok.1 steps
  exact ⟨refs, h⟩

theorem built : newExecutor environment ["failover", "coordinator"] authHashes = .ok executor := by
  have endpoints : ((["failover", "coordinator"].dedup.insertionSort (· ≤ ·)).mapM (bindEndpoint environment)) =
      .ok executor.endpoints := by decide +kernel
  unfold newExecutor
  rw [endpoints]
  rfl

/-- The request that a program starts with. -/
def firstRequest {α : Type} : Prog Op Answer α → Option Request
  | .call (.send request _) _ => some request
  | _ => none

theorem exists_runs {α : Type} {p : Prog Op Answer α} {request : Request} (h : firstRequest p = some request)
    (opened : Opened) : ∃ timeout post out, p.Runs (⟨.send request timeout, opened⟩ :: post) out := by
  have any : ∀ p : Prog Op Answer α, ∃ tr out, p.Runs tr out
    | .ret a => ⟨_, _, .returned a⟩
    | .halt => ⟨_, _, .running⟩
    | .call o k => ⟨_, _, .killed o k⟩
  match p, h with
  | .call (.send _ timeout) k, rfl =>
    obtain ⟨post, out, rest⟩ := any (k opened)
    exact ⟨timeout, post, out, .event _ _ _ rest⟩

/-- In the drill the request with both tokens is one of the failover step. -/
theorem token_routing_failover : ∃ step ∈ [failoverStep, readyStep], Routed executor step failoverRequest := by
  have first : firstRequest (start (executor.runSteps [] [failoverStep, readyStep]) []) = some failoverRequest := by
    decide +kernel
  obtain ⟨refs, accepted⟩ := accepted
  obtain ⟨timeout, post, out, run⟩ := exists_runs first (.answered 202 [])
  exact token_routing accepted built [] (show (start _ []).Runs ([] ++ _) _ from run)

end FailoverDrill

end Zkdeal.AcceptanceRunner
