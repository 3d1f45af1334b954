import Zkdeal.Python.Items
import Zkdeal.Scripts.Common

/-!
# The API reference

The OpenAPI document of the owner is merged with the routes that a scan of the owner's sources finds.  What the owner
says is authoritative; a route that the owner's document does not have is added with a generic operation.
-/

namespace Zkdeal.ReferenceDocs

open Interaction Python Json
open BackupRestore (item)
open Scripts (Raised)

/-! ## Routes -/

/-- The methods that the scan finds. -/
inductive Method : Type where
  | get
  | post
  | put
  | patch
  | delete
  deriving DecidableEq

/-- `route["method"]` -/
def Method.upper : Method → String
  | .get => "GET"
  | .post => "POST"
  | .put => "PUT"
  | .patch => "PATCH"
  | .delete => "DELETE"

/-- `route["method"].lower()` -/
def Method.lower : Method → String
  | .get => "get"
  | .post => "post"
  | .put => "put"
  | .patch => "patch"
  | .delete => "delete"

theorem Method.lower_injective : Function.Injective Method.lower := by
  intro m n h
  cases m <;> cases n <;> first | rfl | exact absurd h (by decide)

/-- A scanned route. -/
structure Route where
  method : Method
  path : String
  source : String

/-- The route is absolute, and its path is no template. -/
def Route.documented (route : Route) : Bool :=
  "/".toList.isPrefixOf route.path.toList && !decide ("$\x7b".toList <:+: route.path.toList)

/-- The route is one of the hosting API. -/
def Route.hosting (route : Route) : Bool := "/hosting/".toList.isPrefixOf route.path.toList

/-- `request_schema` -/
def requestSchema : List ((Method × String) × String) := [
  ((.post, "/hosting/v1/tenants"), "TenantUpsert"),
  ((.post, "/hosting/v1/tenants/\x7btenantId\x7d/principals"), "PrincipalProvision"),
  ((.post, "/hosting/v1/capacity/intents"), "CapacityIntent"),
  ((.post, "/hosting/v1/indexer/blocks"), "CanonicalBlocks"),
  ((.put, "/hosting/v1/indexer/rooms/\x7broomId\x7d"), "RoomObservation"),
  ((.post, "/hosting/v1/admissions/\x7broomId\x7d/lease"), "AdmissionLease"),
  ((.post, "/hosting/v1/admissions/\x7broomId\x7d/ack"), "AdmissionAck"),
  ((.post, "/hosting/v1/json-rpc"), "JsonRpcRequest")]

/-- `response_schema` -/
def responseSchema : List ((Method × String) × String) := [
  ((.post, "/hosting/v1/tenants"), "TenantCreated"),
  ((.post, "/hosting/v1/tenants/\x7btenantId\x7d/principals"), "PrincipalIssued"),
  ((.post, "/hosting/v1/capacity/intents"), "CapacityAccepted"),
  ((.put, "/hosting/v1/indexer/rooms/\x7broomId\x7d"), "RoomObservationResult"),
  ((.post, "/hosting/v1/admissions/\x7broomId\x7d/lease"), "AdmissionLeaseResult"),
  ((.post, "/hosting/v1/admissions/\x7broomId\x7d/ack"), "AdmissionAckResult"),
  ((.post, "/hosting/v1/json-rpc"), "JsonRpcEnvelope")]

/-- `public` -/
def publicRoutes : List (Method × String) := [
  (.get, "/hosting/v1/capabilities"), (.get, "/hosting/v1/health"), (.get, "/hosting/v1/ready"),
  (.get, "/hosting/v1/openapi.json")]

/-- A JSON body with the schema of a name. -/
def jsonContent (name : String) : String × Json :=
  ("content", .obj [("application/json", .obj [("schema", .obj [("$ref", .str ("#/components/schemas/" ++ name))])])])

/-- The response of an error. -/
def errorResponse (description : String) : Json := .obj [("description", .str description), jsonContent "Error"]

/-- `parameters` of a route of the hosting API -/
def versionParameter : Json :=
  .obj [("name", .str "Accept-Schema-Version"), ("in", .str "header"), ("required", .bool false),
    ("schema", .obj [("type", .str "integer"), ("enum", .arr [.int 1])])]

/-- `responses` -/
def responses (route : Route) : Dict :=
  if route.hosting then
    [("200", .obj (("description", .str "Owner response") ::
        ((responseSchema.lookup (route.method, route.path)).map jsonContent).toList)),
      ("400", errorResponse "Malformed request"), ("406", errorResponse "Unsupported schema version"),
      ("429", errorResponse "Principal rate limit"), ("503", errorResponse "Authority unavailable or fenced")]
  else [("default", .obj [("description", .str "Owner response")])]

/-- `operation` -/
def operation (route : Route) : Json :=
  .obj ([("summary", .str ("Owner route from " ++ route.source)),
      ("parameters", .arr (if route.hosting then [versionParameter] else [])), ("responses", .obj (responses route)),
      ("x-owner-source", .str route.source)] ++
    ((requestSchema.lookup (route.method, route.path)).map fun name =>
      ("requestBody", .obj [("required", .bool true), jsonContent name])).toList ++
    if route.hosting then
      [("security", .arr (if (route.method, route.path) ∈ publicRoutes then [] else [.obj [("bearerAuth", .arr [])]]))]
    else [])

/-- What the scan found: the paths, and the operations of their methods. -/
abbrev Scan : Type := List (String × List (Method × Json))

/-- `paths.setdefault(path, {})[route["method"].lower()] = operation` -/
def addRoute (paths : Scan) (route : Route) : Scan :=
  if route.documented then
    assign paths route.path (assign ((paths.lookup route.path).getD []) route.method (operation route))
  else paths

/-- `paths` -/
def scan (routes : List Route) : Scan := routes.foldl addRoute []

/-! ## The merge -/

/-- The text of an added operation. -/
def added (path : String) (method : Method) : String := method.upper ++ " " ++ path

/-- One method of a path: the path item, and the operations that were added so far. -/
def mergeMethod (path : String) (state : Dict × List String) (entry : Method × Json) : Dict × List String :=
  if (state.1.get entry.1.lower).isSome then state
  else (state.1.set entry.1.lower entry.2, state.2 ++ [added path entry.1])

/-- One path of the scan: the paths of the document, and the operations that were added so far. -/
def mergePath (state : Dict × List String) (entry : String × List (Method × Json)) :
    Except Raised (Dict × List String) :=
  match (state.1.get entry.1).getD (.obj []) with
  | .obj existing =>
    let merged := entry.2.foldl (mergeMethod entry.1) (existing, state.2)
    .ok (state.1.set entry.1 (.obj merged.1), merged.2)
  | _ => .error (.deployment ("owner hosting OpenAPI path item is not an object: " ++ entry.1))

/-- `d.setdefault(key, {})`, which has to be an object -/
def objectAt (d : Dict) (key message : String) : Except Raised Dict :=
  Scripts.asObject ((d.get key).getD (.obj [])) message

/--
The document of `render_api(routes, sources, owner_openapi, owner_openapi_source)`; `hosted` are the schemas that the
function adds under names that the owner does not use.
-/
def renderApi (hosted : Dict) (routes : List Route) (sources : List Json) (owner : Dict) (ownerSource : Json) :
    Except Raised Dict := do
  raiseIf ((item owner "openapi").eqStr "3.1.0" = false)
    (Raised.deployment "owner hosting OpenAPI must declare version 3.1.0")
  let ownerPaths ← Scripts.asObject (item owner "paths") "owner hosting OpenAPI has no paths"
  raiseIf (ownerPaths = []) (Raised.deployment "owner hosting OpenAPI has no paths")
  let ownerComponents ← Scripts.asObject (item owner "components") "owner hosting OpenAPI has no components object"
  let ownerSchemas ← objectAt ownerComponents "schemas" "owner hosting OpenAPI components.schemas is not an object"
  let schemas := hosted.foldl (fun d kv => d.setdefault kv.1 kv.2) ownerSchemas
  let securitySchemes ← objectAt ownerComponents "securitySchemes"
    "owner hosting OpenAPI components.securitySchemes is not an object"
  let bearer := Json.obj [("type", .str "http"), ("scheme", .str "bearer")]
  let components := (Dict.set ownerComponents "schemas" (.obj schemas)).set "securitySchemes"
    (.obj (Dict.setdefault securitySchemes "bearerAuth" bearer))
  let (paths, addedOperations) ← (scan routes).foldlM mergePath (ownerPaths, [])
  return ((owner.set "components" (.obj components)).set "paths" (.obj paths)).set "x-deployment-route-inventory"
    (.obj [("ownerOpenapiSource", ownerSource), ("routeSources", .arr sources),
      ("fallbackOperationsAdded", .arr ((addedOperations.insertionSort (· ≤ ·)).map .str)),
      ("authoritativeOperationsPreserved", .bool true)])

/-! ## What the scan finds -/

/-- The paths of the scan are those of the documented routes, with the methods of these. -/
structure Scanned (routes : List Route) (paths : Scan) : Prop where
  distinct : (paths.map Prod.fst).Nodup
  methods : ∀ p ∈ paths, (p.2.map Prod.fst).Nodup
  scanned : ∀ p ∈ paths, ∀ e ∈ p.2, ∃ route ∈ routes, route.documented = true ∧ route.path = p.1 ∧ route.method = e.1
  complete : ∀ route ∈ routes, route.documented = true → ∃ p ∈ paths, p.1 = route.path ∧ ∃ e ∈ p.2, e.1 = route.method

theorem Scanned.addRoute {routes : List Route} {paths : Scan} (h : Scanned routes paths) (route : Route) :
    Scanned (routes ++ [route]) (addRoute paths route) := by
  unfold ReferenceDocs.addRoute
  by_cases hdoc : route.documented = true
  · rw [if_pos hdoc]
    -- what the path had before is of the routes before
    have hold : ∀ e ∈ (paths.lookup route.path).getD [], (route.path, (paths.lookup route.path).getD []) ∈ paths := by
      intro e he
      cases hlookup : paths.lookup route.path with
      | none =>
        rw [hlookup] at he
        nomatch he
      | some methods => exact (lookup_eq_some h.distinct).1 hlookup
    have hmethods : (((paths.lookup route.path).getD []).map Prod.fst).Nodup := by
      cases hlookup : paths.lookup route.path with
      | none => exact List.nodup_nil
      | some methods => exact h.methods _ ((lookup_eq_some h.distinct).1 hlookup)
    refine ⟨nodup_assign h.distinct, ?_, ?_, ?_⟩
    · intro p hp
      obtain rfl | ⟨hp, -⟩ := mem_assign.1 hp
      · exact nodup_assign hmethods
      · exact h.methods p hp
    · intro p hp e he
      obtain rfl | ⟨hp, -⟩ := mem_assign.1 hp
      · obtain rfl | ⟨he, -⟩ := mem_assign.1 he
        · exact ⟨route, by simp, hdoc, rfl, rfl⟩
        · obtain ⟨r, hr, hrest⟩ := h.scanned _ (hold e he) e he
          exact ⟨r, List.mem_append_left _ hr, hrest⟩
      · obtain ⟨r, hr, hrest⟩ := h.scanned p hp e he
        exact ⟨r, List.mem_append_left _ hr, hrest⟩
    · intro r hr hrdoc
      by_cases hpath : r.path = route.path
      · refine ⟨_, mem_assign.2 (.inl rfl), hpath.symm, ?_⟩
        by_cases hmethod : r.method = route.method
        · exact ⟨_, mem_assign.2 (.inl rfl), hmethod.symm⟩
        · have hr : r ∈ routes := by
            obtain hr | hr := List.mem_append.1 hr
            · exact hr
            · exact absurd (congrArg Route.method (List.mem_singleton.1 hr)) hmethod
          obtain ⟨p, hp, hpp, e, he, hem⟩ := h.complete r hr hrdoc
          have hlookup : paths.lookup route.path = some p.2 := (lookup_eq_some h.distinct).2 (by
            rw [← hpath, ← hpp]
            exact hp)
          rw [hlookup, Option.getD_some]
          exact ⟨e, mem_assign.2 (.inr ⟨he, by rw [hem]; exact hmethod⟩), hem⟩
      · have hr : r ∈ routes := by
          obtain hr | hr := List.mem_append.1 hr
          · exact hr
          · exact absurd (congrArg Route.path (List.mem_singleton.1 hr)) hpath
        obtain ⟨p, hp, hpp, he⟩ := h.complete r hr hrdoc
        exact ⟨p, mem_assign.2 (.inr ⟨hp, by rw [hpp]; exact hpath⟩), hpp, he⟩
  · rw [if_neg hdoc]
    refine ⟨h.distinct, h.methods, ?_, ?_⟩
    · intro p hp e he
      obtain ⟨r, hr, hrest⟩ := h.scanned p hp e he
      exact ⟨r, List.mem_append_left _ hr, hrest⟩
    · intro r hr hrdoc
      obtain hr | hr := List.mem_append.1 hr
      · exact h.complete r hr hrdoc
      · rw [List.mem_singleton.1 hr] at hrdoc
        exact absurd hrdoc hdoc

theorem scanned_scan (routes : List Route) : Scanned routes (scan routes) := by
  have hrun (done rest : List Route) (paths : Scan) (h : Scanned done paths) :
      Scanned (done ++ rest) (rest.foldl ReferenceDocs.addRoute paths) := by
    induction rest generalizing done paths with
    | nil => rwa [List.append_nil]
    | cons route rest ih =>
      have hnext := ih (done ++ [route]) _ (h.addRoute route)
      rwa [List.append_assoc, List.singleton_append] at hnext
  exact hrun [] routes [] ⟨List.nodup_nil, nofun, nofun, nofun⟩

/-! ## What the merge does -/

/-- A member of a path item. -/
def operationAt (paths : Dict) (path key : String) : Option Json :=
  match paths.get path with
  | some (.obj members) => Dict.get members key
  | _ => none

/-- The methods of the scan that a path item does not have. -/
def missing (existing : Dict) (methods : List (Method × Json)) : List (Method × Json) :=
  methods.filter fun e => (existing.get e.1.lower).isNone

theorem missing_cons (existing : Dict) (e : Method × Json) (methods : List (Method × Json)) :
    missing existing (e :: methods) =
      if (existing.get e.1.lower).isSome then missing existing methods else e :: missing existing methods := by
  rw [missing, List.filter_cons]
  cases existing.get e.1.lower <;> rfl

theorem missing_set {existing : Dict} {e : Method × Json} {methods : List (Method × Json)}
    (hfresh : e.1 ∉ methods.map Prod.fst) : missing (existing.set e.1.lower e.2) methods = missing existing methods := by
  refine List.filter_congr fun e' he' => ?_
  have hne : e'.1.lower ≠ e.1.lower := fun h => hfresh (Method.lower_injective h ▸ List.mem_map_of_mem he')
  rw [Dict.get_set, if_neg hne]

/-- The methods of a path are added where they are missing, and nothing is replaced. -/
theorem foldl_mergeMethod (path : String) {methods : List (Method × Json)} (hnodup : (methods.map Prod.fst).Nodup)
    (existing : Dict) (ops : List String) :
    methods.foldl (mergeMethod path) (existing, ops) =
      ((missing existing methods).foldl (fun d e => d.set e.1.lower e.2) existing,
        ops ++ (missing existing methods).map fun e => added path e.1) := by
  induction methods generalizing existing ops with
  | nil => rw [List.foldl_nil, missing, List.filter_nil, List.foldl_nil, List.map_nil, List.append_nil]
  | cons e methods ih =>
    rw [List.map_cons, List.nodup_cons] at hnodup
    rw [List.foldl_cons, mergeMethod, missing_cons]
    by_cases hsome : (existing.get e.1.lower).isSome = true
    · rw [if_pos hsome, if_pos hsome]
      exact ih hnodup.2 existing ops
    · rw [if_neg hsome, if_neg hsome, ih hnodup.2, missing_set hnodup.1, List.foldl_cons, List.map_cons,
        List.append_assoc, List.singleton_append]

theorem get_foldl_set_of_some {existing : Dict} {key : String} {v : Json} (h : existing.get key = some v)
    (methods : List (Method × Json)) (hmissing : ∀ e ∈ methods, existing.get e.1.lower = none) :
    Dict.get (methods.foldl (fun d e => d.set e.1.lower e.2) existing) key = some v := by
  have hrun (d : Dict) (hd : d.get key = some v) :
      Dict.get (methods.foldl (fun d e => d.set e.1.lower e.2) d) key = some v := by
    induction methods generalizing d with
    | nil => exact hd
    | cons e methods ih =>
      rw [List.forall_mem_cons] at hmissing
      refine ih hmissing.2 _ ?_
      rw [Dict.get_set, if_neg, hd]
      rintro rfl
      rw [h] at hmissing
      exact absurd hmissing.1 (Option.some_ne_none v)
  exact hrun existing h

theorem get_foldl_set_isSome {e : Method × Json} {methods : List (Method × Json)} (he : e ∈ methods) (d : Dict) :
    (Dict.get (methods.foldl (fun d e => d.set e.1.lower e.2) d) e.1.lower).isSome = true := by
  have hkept (methods : List (Method × Json)) (d : Dict) (h : (d.get e.1.lower).isSome = true) :
      (Dict.get (methods.foldl (fun d e => d.set e.1.lower e.2) d) e.1.lower).isSome = true := by
    induction methods generalizing d with
    | nil => exact h
    | cons e' methods ih =>
      refine ih _ ?_
      rw [Dict.get_set]
      split_ifs
      · rfl
      · exact h
  induction methods generalizing d with
  | nil => nomatch he
  | cons e' methods ih =>
    obtain rfl | he := List.mem_cons.1 he
    · refine hkept methods _ ?_
      rw [Dict.get_set, if_pos rfl]
      rfl
    · exact ih he _

theorem get_foldl_set_cases {methods : List (Method × Json)} {d : Dict} {key : String} {v : Json}
    (h : Dict.get (methods.foldl (fun d e => d.set e.1.lower e.2) d) key = some v) :
    d.get key = some v ∨ ∃ e ∈ methods, key = e.1.lower := by
  induction methods generalizing d with
  | nil => exact .inl h
  | cons e methods ih =>
    obtain h | ⟨e', he', hkey⟩ := ih h
    · rw [Dict.get_set] at h
      split_ifs at h with hkey
      · exact .inr ⟨e, List.mem_cons_self, hkey⟩
      · exact .inl h
    · exact .inr ⟨e', List.mem_cons_of_mem _ he', hkey⟩

/-- What a path item is after a path of the scan. -/
def mergedItem (existing : Dict) (methods : List (Method × Json)) : Dict :=
  (missing existing methods).foldl (fun d e => d.set e.1.lower e.2) existing

/-- The paths of a document before and after the merge with paths of the scan, and the operations that it adds. -/
structure Merged (paths : Scan) (before after : Dict) (ops : List String) : Prop where
  untouched : ∀ path, path ∉ paths.map Prod.fst → after.get path = before.get path
  merged : ∀ p ∈ paths, ∃ existing, (before.get p.1).getD (.obj []) = .obj existing ∧
    after.get p.1 = some (.obj (mergedItem existing p.2))
  mem_ops : ∀ s, s ∈ ops ↔ ∃ p ∈ paths, ∃ e ∈ p.2, s = added p.1 e.1 ∧ operationAt before p.1 e.1.lower = none
  nodup : ops.Nodup

theorem added_injective {path path' : String} {m m' : Method} (h : added path m = added path' m') :
    path = path' ∧ m = m' := by
  have hm : m = m' := by
    have htext := congrArg String.toList h
    cases m <;> cases m' <;> first
      | rfl
      | (rw [added, added, String.toList_append, String.toList_append, String.toList_append, String.toList_append] at htext
         exact absurd (congrArg (List.take 2) htext) (by simp [Method.upper]))
  rw [hm, added, added, String.append_right_inj] at h
  exact ⟨h, hm⟩

theorem operationAt_eq {before : Dict} {path : String} {existing : Dict}
    (h : (before.get path).getD (.obj []) = .obj existing) (key : String) :
    operationAt before path key = existing.get key := by
  unfold operationAt
  cases hget : before.get path with
  | none =>
    rw [hget, Option.getD_none] at h
    rw [← Json.obj.inj h]
    rfl
  | some v =>
    rw [hget, Option.getD_some] at h
    rw [h]

theorem operationAt_congr {before after : Dict} {path : String} (h : after.get path = before.get path) (key : String) :
    operationAt after path key = operationAt before path key := by rw [operationAt, h, operationAt]

theorem mergePath_eq_ok {before mid : Dict} {ops ops' : List String} {p : String × List (Method × Json)}
    (hnodup : (p.2.map Prod.fst).Nodup) (h : mergePath (before, ops) p = .ok (mid, ops')) :
    ∃ existing, (before.get p.1).getD (.obj []) = .obj existing ∧
      mid = before.set p.1 (.obj (mergedItem existing p.2)) ∧
      ops' = ops ++ (missing existing p.2).map fun e => added p.1 e.1 := by
  unfold mergePath at h
  dsimp only at h
  split at h
  · rename_i existing hexisting
    rw [foldl_mergeMethod p.1 hnodup] at h
    obtain ⟨rfl, rfl⟩ := Prod.ext_iff.1 (Except.ok.inj h)
    exact ⟨existing, hexisting, rfl, rfl⟩
  · nomatch h

/-- The merge with the paths of a scan. -/
theorem merged_of_foldlM {paths : Scan} {before after : Dict} {ops ops' : List String}
    (hpaths : (paths.map Prod.fst).Nodup) (hmethods : ∀ p ∈ paths, (p.2.map Prod.fst).Nodup)
    (h : paths.foldlM mergePath (before, ops) = .ok (after, ops')) :
    ∃ new, ops' = ops ++ new ∧ Merged paths before after new := by
  induction paths generalizing before ops with
  | nil =>
    obtain ⟨rfl, rfl⟩ := Prod.ext_iff.1 (Except.ok.inj h)
    exact ⟨[], (List.append_nil _).symm, fun _ _ => rfl, nofun, fun s => ⟨nofun, fun ⟨_, hp, _⟩ => nomatch hp⟩, List.nodup_nil⟩
  | cons p paths ih =>
    rw [List.map_cons, List.nodup_cons] at hpaths
    rw [List.forall_mem_cons] at hmethods
    rw [List.foldlM_cons] at h
    obtain ⟨⟨mid, mids⟩, hstep, h⟩ := bind_eq_ok.1 h
    obtain ⟨existing, hexisting, rfl, rfl⟩ := mergePath_eq_ok hmethods.1 hstep
    obtain ⟨new, rfl, hmerged⟩ := ih hpaths.2 hmethods.2 h
    have hother {path : String} (hne : path ≠ p.1) :
        Dict.get (before.set p.1 (.obj (mergedItem existing p.2))) path = before.get path := by
      rw [Dict.get_set, if_neg hne]
    have hne : ∀ p' ∈ paths, p'.1 ≠ p.1 := fun p' hp' heq => hpaths.1 (heq ▸ List.mem_map_of_mem hp')
    refine ⟨(missing existing p.2).map (fun e => added p.1 e.1) ++ new, List.append_assoc _ _ _, ?_, ?_, ?_, ?_⟩
    · intro path hpath
      rw [List.map_cons, List.mem_cons, not_or] at hpath
      rw [hmerged.untouched path hpath.2, hother hpath.1]
    · intro p' hp'
      obtain rfl | hp' := List.mem_cons.1 hp'
      · refine ⟨existing, hexisting, ?_⟩
        rw [hmerged.untouched _ hpaths.1, Dict.get_set, if_pos rfl]
      · obtain ⟨existing', hexisting', hafter⟩ := hmerged.merged p' hp'
        rw [hother (hne p' hp')] at hexisting'
        exact ⟨existing', hexisting', hafter⟩
    · intro s
      have hfirst : s ∈ (missing existing p.2).map (fun e => added p.1 e.1) ↔
          ∃ e ∈ p.2, s = added p.1 e.1 ∧ operationAt before p.1 e.1.lower = none := by
        simp only [List.mem_map, missing, List.mem_filter, Option.isNone_iff_eq_none, operationAt_eq hexisting]
        exact ⟨fun ⟨e, he, hs⟩ => ⟨e, he.1, hs.symm, he.2⟩, fun ⟨e, he, hs, hnone⟩ => ⟨e, ⟨he, hnone⟩, hs.symm⟩⟩
      rw [List.mem_append, hfirst, hmerged.mem_ops]
      constructor
      · rintro (⟨e, he, hs⟩ | ⟨p', hp', e, he, hs, hnone⟩)
        · exact ⟨p, List.mem_cons_self, e, he, hs⟩
        · exact ⟨p', List.mem_cons_of_mem _ hp', e, he, hs, by rw [← operationAt_congr (hother (hne p' hp')), hnone]⟩
      · rintro ⟨p', hp', e, he, hs, hnone⟩
        obtain rfl | hp' := List.mem_cons.1 hp'
        · exact .inl ⟨e, he, hs, hnone⟩
        · exact .inr ⟨p', hp', e, he, hs, by rw [operationAt_congr (hother (hne p' hp')), hnone]⟩
    · refine List.nodup_append.2 ⟨?_, hmerged.nodup, ?_⟩
      · have hkeys : ((missing existing p.2).map Prod.fst).Nodup := hmethods.1.sublist (List.filter_sublist.map _)
        have hnodup := hkeys.map (f := added p.1) fun m m' heq => (added_injective heq).2
        rwa [List.map_map] at hnodup
      · intro s hs s' hs' heq
        obtain ⟨e, -, rfl⟩ := List.mem_map.1 hs
        obtain ⟨p', hp', e', -, hs', -⟩ := (hmerged.mem_ops s').1 hs'
        exact hne p' hp' (added_injective (heq.trans hs')).1.symm

section

variable {paths : Scan} {before after : Dict} {ops : List String} {path key : String} {v : Json}

theorem Merged.kept (h : Merged paths before after ops) (hv : operationAt before path key = some v) :
    operationAt after path key = some v := by
  by_cases hpath : path ∈ paths.map Prod.fst
  · obtain ⟨p, hp, rfl⟩ := List.mem_map.1 hpath
    obtain ⟨existing, hexisting, hafter⟩ := h.merged p hp
    rw [operationAt_eq hexisting] at hv
    rw [operationAt, hafter]
    exact get_foldl_set_of_some hv _ fun e he => Option.isNone_iff_eq_none.1 (List.mem_filter.1 he).2
  · rw [operationAt_congr (h.untouched path hpath), hv]

/-- A member that the merge added is a method of the scan that is listed. -/
theorem Merged.cases (h : Merged paths before after ops) (hv : operationAt after path key = some v) :
    operationAt before path key = some v ∨
      operationAt before path key = none ∧ ∃ method, key = method.lower ∧ added path method ∈ ops := by
  by_cases hpath : path ∈ paths.map Prod.fst
  · obtain ⟨p, hp, rfl⟩ := List.mem_map.1 hpath
    obtain ⟨existing, hexisting, hafter⟩ := h.merged p hp
    rw [operationAt, hafter] at hv
    obtain hold | ⟨e, he, rfl⟩ := get_foldl_set_cases hv
    · rw [operationAt_eq hexisting]
      exact .inl hold
    · have hnone : operationAt before p.1 e.1.lower = none := by
        rw [operationAt_eq hexisting]
        exact Option.isNone_iff_eq_none.1 (List.mem_filter.1 he).2
      exact .inr ⟨hnone, e.1, rfl, (h.mem_ops _).2 ⟨p, hp, e, (List.mem_filter.1 he).1, rfl, hnone⟩⟩
  · rw [operationAt_congr (h.untouched path hpath)] at hv
    exact .inl hv

theorem Merged.isSome (h : Merged paths before after ops) {p : String × List (Method × Json)} (hp : p ∈ paths)
    {e : Method × Json} (he : e ∈ p.2) : (operationAt after p.1 e.1.lower).isSome = true := by
  obtain ⟨existing, hexisting, hafter⟩ := h.merged p hp
  rw [operationAt, hafter]
  cases hget : Dict.get existing e.1.lower with
  | none => exact get_foldl_set_isSome (List.mem_filter.2 ⟨he, Option.isNone_iff_eq_none.2 hget⟩) existing
  | some v =>
    have hkept := get_foldl_set_of_some hget (missing existing p.2) fun e he =>
      Option.isNone_iff_eq_none.1 (List.mem_filter.1 he).2
    exact Option.isSome_iff_exists.2 ⟨v, hkept⟩

/-- What is listed is what the merge added. -/
theorem Merged.mem_ops_iff (h : Merged paths before after ops) (s : String) :
    s ∈ ops ↔ ∃ path method, s = added path method ∧ operationAt before path method.lower = none ∧
      (operationAt after path method.lower).isSome = true := by
  constructor
  · intro hs
    obtain ⟨p, hp, e, he, rfl, hnone⟩ := (h.mem_ops s).1 hs
    exact ⟨p.1, e.1, rfl, hnone, h.isSome hp he⟩
  · rintro ⟨path, method, rfl, hnone, hsome⟩
    obtain ⟨v, hv⟩ := Option.isSome_iff_exists.1 hsome
    obtain hold | ⟨-, method', hlower, hmem⟩ := h.cases hv
    · rw [hnone] at hold
      nomatch hold
    · rwa [Method.lower_injective hlower]

/-- A path item to which nothing was added is what it was. -/
theorem Merged.item_kept (h : Merged paths before after ops) (hv : before.get path = some v)
    (hnone : ∀ method, added path method ∉ ops) : after.get path = some v := by
  by_cases hpath : path ∈ paths.map Prod.fst
  · obtain ⟨p, hp, rfl⟩ := List.mem_map.1 hpath
    obtain ⟨existing, hexisting, hafter⟩ := h.merged p hp
    have hmissing : missing existing p.2 = [] := by
      refine List.eq_nil_iff_forall_not_mem.2 fun e he => hnone e.1 ((h.mem_ops _).2 ?_)
      refine ⟨p, hp, e, (List.mem_filter.1 he).1, rfl, ?_⟩
      rw [operationAt_eq hexisting]
      exact Option.isNone_iff_eq_none.1 (List.mem_filter.1 he).2
    rw [hv, Option.getD_some] at hexisting
    rw [hafter, mergedItem, hmissing, List.foldl_nil, hexisting]
  · rw [h.untouched path hpath, hv]

end

/-! ## The document -/

/-- The members of an object. -/
def members : Json → Dict
  | .obj d => d
  | _ => []

/-- `document["paths"].get(path)` -/
def pathItem (document : Dict) (path : String) : Option Json := (members (item document "paths")).get path

/-- `document["paths"][path].get(key)`, if there is one -/
def operationIn (document : Dict) (path key : String) : Option Json := operationAt (members (item document "paths")) path key

/-- `document["components"][kind].get(name)`, if there is one -/
def componentIn (document : Dict) (kind name : String) : Option Json :=
  (members (item (members (item document "components")) kind)).get name

/-- `document["x-deployment-route-inventory"]["fallbackOperationsAdded"]` -/
def fallbackOperationsAdded (document : Dict) : Json :=
  item (members (item document "x-deployment-route-inventory")) "fallbackOperationsAdded"

section

variable {hosted : Dict} {routes : List Route} {sources : List Json} {owner document : Dict} {ownerSource : Json}

theorem asObject_eq_ok {value : Json} {message : String} {d : Dict} (h : Scripts.asObject value message = .ok d) :
    value = .obj d := by
  unfold Scripts.asObject at h
  split at h
  · rw [Except.ok.inj h]
  · nomatch h

theorem get_of_objectAt {d object : Dict} {key name message : String} {v : Json} (h : objectAt d key message = .ok object)
    (hget : (members (item d key)).get name = some v) : object.get name = some v := by
  have hobject := asObject_eq_ok h
  unfold item at hget
  cases hkey : d.get key with
  | none =>
    rw [hkey] at hget
    nomatch hget
  | some value =>
    rw [hkey, Option.getD_some] at hobject hget
    rw [hobject] at hget
    exact hget

theorem item_assigned (d : Dict) (key key' : String) (v : Json) :
    item (d.set key v) key' = if key' = key then v else item d key' := by
  rw [item, Dict.get_set]
  split_ifs <;> rfl

/-- What a reference is made of. -/
theorem renderApi_eq_ok (h : renderApi hosted routes sources owner ownerSource = .ok document) :
    ∃ ops, Merged (scan routes) (members (item owner "paths")) (members (item document "paths")) ops ∧
      fallbackOperationsAdded document = .arr ((ops.insertionSort (· ≤ ·)).map .str) ∧
      ∀ kind name v, kind = "schemas" ∨ kind = "securitySchemes" → componentIn owner kind name = some v →
        componentIn document kind name = some v := by
  have hscan := scanned_scan routes
  unfold renderApi at h
  obtain ⟨-, -, h⟩ := bind_eq_ok.1 h
  obtain ⟨ownerPaths, hpaths, h⟩ := bind_eq_ok.1 h
  obtain ⟨-, -, h⟩ := bind_eq_ok.1 h
  obtain ⟨components, hcomponents, h⟩ := bind_eq_ok.1 h
  obtain ⟨schemas, hschemas, h⟩ := bind_eq_ok.1 h
  obtain ⟨schemes, hschemes, h⟩ := bind_eq_ok.1 h
  obtain ⟨⟨paths, ops⟩, hmerge, h⟩ := bind_eq_ok.1 h
  obtain ⟨_, rfl, hmerged⟩ := merged_of_foldlM hscan.distinct hscan.methods hmerge
  have hdocument := (Except.ok.inj h).symm
  have hownerPaths := asObject_eq_ok hpaths
  have hownerComponents := asObject_eq_ok hcomponents
  have hpathsItem : item document "paths" = .obj paths := by
    rw [hdocument, item_assigned, if_neg (by decide), item_assigned, if_pos rfl]
  have hcomponentsItem := congrArg (item · "components") hdocument
  simp only [item_assigned] at hcomponentsItem
  rw [if_neg (by decide), if_neg (by decide), if_pos trivial] at hcomponentsItem
  refine ⟨ops, ?_, ?_, ?_⟩
  · rw [hownerPaths, hpathsItem]
    exact hmerged
  · rw [fallbackOperationsAdded, hdocument, item_assigned, if_pos rfl]
    rfl
  · intro kind name v hkind hv
    rw [componentIn, hownerComponents] at hv
    rw [componentIn, hcomponentsItem]
    obtain rfl | rfl := hkind
    · rw [members, item_assigned, if_neg (by decide), item_assigned, if_pos rfl]
      exact Dict.get_setdefaults_of_some (get_of_objectAt hschemas hv) hosted
    · rw [members, item_assigned, if_pos rfl]
      exact Dict.get_setdefault_of_some (get_of_objectAt hschemes hv) _ _

/--
The reference keeps what the owner's document says: the members of every path item, the schemas and the security
schemes.  It has every documented route of the scan, and `fallbackOperationsAdded` lists, once each, the operations
that the owner's document does not have; nothing else is added to a path item.
-/
theorem renderApi_preserves (h : renderApi hosted routes sources owner ownerSource = .ok document) :
    (∀ path key v, operationIn owner path key = some v → operationIn document path key = some v) ∧
    (∀ kind name v, kind = "schemas" ∨ kind = "securitySchemes" → componentIn owner kind name = some v →
      componentIn document kind name = some v) ∧
    (∀ route ∈ routes, route.documented = true → (operationIn document route.path route.method.lower).isSome = true) ∧
    ∃ ops : List String, fallbackOperationsAdded document = .arr (ops.map .str) ∧ ops.Nodup ∧
      (∀ s, s ∈ ops ↔ ∃ path method, s = added path method ∧ operationIn owner path method.lower = none ∧
        (operationIn document path method.lower).isSome = true) ∧
      (∀ path key v, operationIn document path key = some v → operationIn owner path key = some v ∨
        ∃ method, key = method.lower ∧ added path method ∈ ops) ∧
      ∀ path v, pathItem owner path = some v → (∀ method, added path method ∉ ops) → pathItem document path = some v := by
  obtain ⟨ops, hmerged, hlisted, hcomponents⟩ := renderApi_eq_ok h
  have hmem (s : String) : s ∈ ops.insertionSort (· ≤ ·) ↔ s ∈ ops := List.mem_insertionSort _
  refine ⟨fun path key v hv => hmerged.kept hv, hcomponents, ?_, ops.insertionSort (· ≤ ·), hlisted, ?_, ?_, ?_, ?_⟩
  · intro route hroute hdocumented
    obtain ⟨p, hp, hpath, e, he, hmethod⟩ := (scanned_scan routes).complete route hroute hdocumented
    rw [← hpath, ← hmethod]
    exact hmerged.isSome hp he
  · exact (List.perm_insertionSort _ ops).nodup_iff.2 hmerged.nodup
  · intro s
    rw [hmem]
    exact hmerged.mem_ops_iff s
  · intro path key v hv
    obtain hold | ⟨-, method, hlower, hadded⟩ := hmerged.cases hv
    · exact .inl hold
    · exact .inr ⟨method, hlower, (hmem _).2 hadded⟩
  · intro path v hv hnone
    exact hmerged.item_kept hv fun method hadded => hnone method ((hmem _).2 hadded)

end

/-! ## An extended path item -/

namespace Extended

/-- A document of the owner with one operation. -/
def owner : Dict := [("openapi", .str "3.1.0"),
  ("paths", .obj [("/hosting/v1/health", .obj [("get", .obj [("operationId", .str "ownerHealth")])])]),
  ("components", .obj [])]

def routes : List Route := [⟨.get, "/hosting/v1/health", "a.ts"⟩, ⟨.post, "/hosting/v1/health", "b.ts"⟩]

/-- The reference for the two routes. -/
def document : Dict := (renderApi [] routes [] owner .null).toOption.getD []

theorem renderApi_owner : renderApi [] routes [] owner .null = .ok document := by
  have hok : (renderApi [] routes [] owner .null).toBool = true := by decide
  unfold document
  cases h : renderApi [] routes [] owner .null with
  | error e =>
    rw [h] at hok
    nomatch hok
  | ok d => rfl

/-- The owner's operation is kept, and the other one is listed. -/
theorem renderApi_preserves_owner :
    operationIn document "/hosting/v1/health" "get" = some (.obj [("operationId", .str "ownerHealth")]) :=
  (renderApi_preserves renderApi_owner).1 _ _ _ rfl

/-- The path item of the owner is another one in the reference. -/
theorem pathItem_extended :
    renderApi [] routes [] owner .null = .ok document ∧ (pathItem owner "/hosting/v1/health").isSome = true ∧
      pathItem document "/hosting/v1/health" ≠ pathItem owner "/hosting/v1/health" := by
  refine ⟨renderApi_owner, by decide, fun h => ?_⟩
  have hpost := congrArg (fun v => (v.map fun v => (members v).any fun kv => kv.1 = "post").getD false) h
  exact absurd hpost (by decide)

end Extended

end Zkdeal.ReferenceDocs
