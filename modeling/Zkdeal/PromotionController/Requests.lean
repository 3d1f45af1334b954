import Zkdeal.FailoverProvider.Handler
import Zkdeal.PromotionController.Ordering

/-!
# The requests of the controller at the provider

How the provider receives the requests that the controller sends it: by which route, and whether it
accepts them by their syntax.
-/

namespace Zkdeal.PromotionController

open Interaction Python
open FailoverProvider (isSafeId isSafeIdChar)
open FailoverProvider.Handler
open FailoverProvider.Provider (Request)

/-- What the provider makes of a request, if it arrives there and is routed. -/
def delivered (request : HttpRequest) : Option Request := do
  let path ← requestPath request.url
  (doPost path (request.idempotencyKey.getD "") (request.body.getD [])).toOption

/-- The prepare request arrives as one for the candidate, and so does every commit request; all of them are
accepted. -/
def Agreement (config : Config) : Prop :=
  (∃ key body, delivered (prepareRequest config) = some (.prepare key body) ∧
    FailoverProvider.Provider.candidate body = some (.text config.candidateId) ∧ Accepts (.prepare key body)) ∧
  ∀ owner, ∃ key body, delivered (commitOf config owner) = some (.commit config.candidateId key body) ∧
    Accepts (.commit config.candidateId key body)

/-- There are no other requests than these at the provider. -/
theorem requested_run {config : Config} {rounds : ℕ} {tr : Trace Op Answer} {out : Outcome Op (Except Raised (Option Dict))}
    (h : (run config rounds).run.Runs tr out) {request : HttpRequest} (sent : Sent request tr)
    (posted : request.method = .post) : request = prepareRequest config ∨ request = ownerRequest config ∨
      ∃ owner, request = commitOf config owner := by
  obtain ⟨answer, hmem⟩ := sent
  obtain ⟨pre, post, rfl⟩ := List.append_of_mem hmem
  have allowed := (ensures_run config rounds).issued h
  rcases allowed.post request rfl posted with heq | heq | ⟨ownerHash, rfl⟩
  · exact .inl heq
  · exact .inr (.inl heq)
  · obtain ⟨⟨_, _, owner, _, rfl⟩, _⟩ := allowed.commit ownerHash rfl
    exact .inr (.inr ⟨owner, rfl⟩)

/-! ## Paths -/

section Paths

theorem selector_append {path : List Char} (h : path ≠ []) (more : List Char) :
    selector (path ++ more) = selector path ++ more := by
  obtain ⟨c, path, rfl⟩ := List.exists_cons_of_ne_nil h
  by_cases hc : c = '/'
  · rw [hc]
    rfl
  · have relative (tail : List Char) : selector (c :: tail) = '/' :: c :: tail := by
      unfold selector
      split
      · rename_i heq
        cases heq
      · rename_i heq
        cases heq
        exact absurd rfl hc
      · rfl
    rw [List.cons_append, relative, relative]
    rfl

theorem handlerPath_append {target path : List Char} (h : handlerPath target = path) (long : 2 ≤ path.length)
    (more : List Char) : handlerPath (target ++ more) = path ++ more := by
  unfold handlerPath at h
  split at h
  · rename_i tail
    have rest : (tail.dropWhile (· == '/')).isEmpty = false := by
      rw [← h, List.length_cons] at long
      rw [List.isEmpty_eq_false_iff, ← List.length_pos_iff]
      omega
    rw [List.cons_append, List.cons_append, handlerPath, List.dropWhile_append, if_neg (by simpa using rest), ← h,
      List.cons_append]
  · rename_i single
    obtain rfl := h
    match target, long with
    | a :: b :: tail, _ =>
      rw [List.cons_append, List.cons_append, handlerPath]
      intro tail' heq
      cases heq
      exact single _ rfl

/-- A longer URL is requested at the longer path. -/
theorem requestPath_append {url : String} {path front : List Char} {c : Char} (more : List Char) (d : Char)
    (h : requestPath url = some path) (long : 2 ≤ path.length) (hurl : url.toList = front ++ [c]) (hc : isSpace c = false ∧ endsWrapper c = false)
    (hd : isSpace d = false ∧ endsWrapper d = false) (plain : '#' ∉ url.toList)
    (visible : (more ++ [d]).all isVisible = true) (plain' : '#' ∉ more ++ [d]) :
    requestPath (url ++ .ofList (more ++ [d])) = some (path ++ (more ++ [d])) := by
  have unwrapped : unwrap (url ++ .ofList (more ++ [d])).toList = unwrap url.toList ++ (more ++ [d]) := by
    rw [String.toList_append, String.toList_ofList, hurl, unwrap_append front more hc hd]
  have here : '#' ∉ unwrap url.toList := fun hmem => plain (mem_unwrap hmem)
  have there : '#' ∉ unwrap url.toList ++ (more ++ [d]) := by
    rw [List.mem_append, not_or]
    exact ⟨here, plain'⟩
  obtain ⟨target, htarget, hpath⟩ := Option.map_eq_some_iff.1 h
  unfold requestTarget at htarget
  rw [withoutFragment_of_not_mem here] at htarget
  rw [requestPath, requestTarget, unwrapped, withoutFragment_of_not_mem there]
  split at htarget
  · rename_i scheme rest hparts
    rw [partition_append hparts]
    generalize hnetloc : splitNetloc rest = parts at htarget
    obtain ⟨netloc, tail⟩ := parts
    dsimp only at htarget
    split at htarget
    · cases htarget
    rename_i http
    split at htarget
    · rename_i shown
      obtain rfl := Option.some.inj htarget
      -- A URL without a path would be requested at `/`.
      have ne : tail ≠ [] := by
        rintro rfl
        rw [← hpath] at long
        exact absurd long (by decide)
      have extended : selector (tail ++ (more ++ [d])) = selector tail ++ (more ++ [d]) := selector_append ne _
      simp only [List.cons_append, splitNetloc_append hnetloc ne]
      rw [if_neg http, extended, List.all_append, shown, visible, Bool.and_self, if_pos rfl, Option.map_some,
        handlerPath_append hpath long]
    · cases htarget
  · cases htarget

end Paths

/-! ## The URLs of the controller -/

section Urls

variable {config : Config}

/-- An accepted URL has no `#` before its last character. -/
theorem not_mem_providerUrl {front : List Char} (ends : config.failoverProviderUrl.toList = front ++ ['s']) :
    '#' ∉ config.failoverProviderUrl.toList := by
  obtain ⟨value, hvalue⟩ := config.providerUrl
  unfold checkedUrl at hvalue
  split at hvalue
  · cases hvalue
  rename_i parsed hparsed
  dsimp only at hvalue
  split at hvalue
  · cases hvalue
  split at hvalue
  · cases hvalue
  rename_i acceptable
  have stripped : rstripSlash value = config.failoverProviderUrl := Except.ok.inj hvalue
  have empty : parsed.fragment = [] := by
    rw [Bool.or_eq_true, not_or] at acceptable
    simpa using acceptable.2
  obtain ⟨n, hslashes⟩ := toList_rstripSlash value
  rw [stripped] at hslashes
  have whole : '#' ∉ value.toList := by
    cases n with
    | zero =>
      refine not_mem_of_fragment hparsed empty (d := 's') ?_ (by decide)
      rw [hslashes, ends, List.replicate_zero, List.append_nil, List.getLast?_concat]
    | succ n =>
      refine not_mem_of_fragment hparsed empty (d := '/') ?_ (by decide)
      rw [hslashes, List.replicate_succ', ← List.append_assoc, List.getLast?_concat]
  rw [hslashes, List.mem_append, not_or] at whole
  exact whole.1

theorem isVisible_of_isUnreserved {c : Char} (h : isUnreserved c = true) : isVisible c = true := by
  simp only [isUnreserved, isLower, isUpper, isDigit09, Bool.or_eq_true, Bool.and_eq_true, decide_eq_true_eq,
    beq_iff_eq, Char.le_def, UInt32.le_iff_toNat_le] at h
  rw [isVisible, Bool.and_eq_true, decide_eq_true_eq, decide_eq_true_eq]
  change 0x20 < c.val.toNat ∧ c.val.toNat < 0x7f
  rcases h with ((((((h | h) | h) | rfl) | rfl) | rfl) | rfl)
  · have : 'a'.val.toNat = 97 ∧ 'z'.val.toNat = 122 := by decide
    omega
  · have : 'A'.val.toNat = 65 ∧ 'Z'.val.toNat = 90 := by decide
    omega
  · have : '0'.val.toNat = 48 ∧ '9'.val.toNat = 57 := by decide
    omega
  all_goals decide

/-- What `quote` writes can be sent, and it is no delimiter of a URL or of an id. -/
theorem of_mem_quote {s : String} {c : Char} (h : c ∈ (quote s).toList) : isVisible c = true ∧ c ≠ '#' ∧ c ≠ ':' := by
  rcases mem_quote h with h | rfl
  · refine ⟨isVisible_of_isUnreserved h, ?_, ?_⟩ <;> rintro rfl <;> exact absurd h (by decide)
  · decide

/-- The commit URL is requested at the path of a commit. -/
theorem requestPath_commitUrl (ends : endsWith config.failoverProviderUrl.toList failoversPath = true)
    (path : requestPath config.failoverProviderUrl = some failoversPath) (operationId : String) :
    requestPath (commitUrl config operationId) = some (commitPath (quote operationId).toList) := by
  obtain ⟨front, hfront⟩ := List.isSuffixOf_iff_suffix.1 ends
  have last : config.failoverProviderUrl.toList = (front ++ "/v1/failover".toList) ++ ['s'] := by
    rw [← hfront, List.append_assoc]
    rfl
  have tail : ∀ c ∈ ('/' :: (quote operationId).toList ++ "/commi".toList) ++ ['t'], isVisible c = true ∧ c ≠ '#' := by
    have fixed : ("/commi".toList.all fun c => isVisible c && c != '#') = true := by decide
    intro c hc
    simp only [List.mem_append, List.mem_cons, List.not_mem_nil, or_false] at hc
    rcases hc with ((rfl | hc) | hc) | rfl
    · decide
    · exact ⟨(of_mem_quote hc).1, (of_mem_quote hc).2.1⟩
    · simpa using List.all_eq_true.1 fixed c hc
    · decide
  have extended := requestPath_append ('/' :: (quote operationId).toList ++ "/commi".toList) 't' path (by decide)
    last (by decide) (by decide) (not_mem_providerUrl last) (List.all_eq_true.2 fun c hc => (tail c hc).1)
    fun hc => (tail _ hc).2 rfl
  have whole : ('/' :: (quote operationId).toList ++ "/commi".toList) ++ ['t'] =
      ("/" ++ quote operationId ++ "/commit").toList := by
    rw [String.toList_append, String.toList_append, List.append_assoc]
    rfl
  rw [whole, String.ofList_toList] at extended
  have url : commitUrl config operationId = config.failoverProviderUrl ++ ("/" ++ quote operationId ++ "/commit") := by
    simp only [commitUrl, String.append_assoc]
  rw [url, extended, String.toList_append, String.toList_append, commitPath]
  simp

end Urls

/-! ## Agreement -/

section Agreement

variable {config : Config}

/-- The provider is asked at its own path, and the candidate id has no colon and leaves room for `:commit`. -/
structure Routable (config : Config) : Prop where
  path : requestPath config.failoverProviderUrl = some failoversPath
  plain : ':' ∉ config.candidateId.1.toList
  short : config.candidateId.1.length ≤ 193

theorem delivered_eq_some {request : HttpRequest} {r : Request} : delivered request = some r ↔
    ∃ path, requestPath request.url = some path ∧
      doPost path (request.idempotencyKey.getD "") (request.body.getD []) = .ok r := by
  simp only [delivered, bind, Option.bind_eq_some_iff]
  refine exists_congr fun path => and_congr_right fun _ => ?_
  cases doPost path (request.idempotencyKey.getD "") (request.body.getD []) <;> simp [Except.toOption]

/-- The seven characters of the suffix count, and no others. -/
theorem isSafeId_commitKey {s : String} (h : isSafeId s = true) :
    isSafeId (s ++ ":commit") = true ↔ s.length ≤ 193 := by
  obtain ⟨c, tail, hs, first, rest⟩ := headed_iff.1 h
  obtain ⟨safe, least, -⟩ := between_iff.1 rest
  have suffix : ":commit".toList.all isSafeIdChar = true := by decide
  have length : ":commit".toList.length = 7 := by decide
  rw [isSafeId, headed_iff, String.toList_append, hs, ← String.length_toList, hs, List.length_cons, List.cons_append]
  constructor
  · rintro ⟨_, _, heq, -, long⟩
    obtain ⟨rfl, rfl⟩ := List.cons.inj heq
    have := (between_iff.1 long).2.2
    rw [List.length_append, length] at this
    omega
  · intro short
    refine ⟨c, tail ++ ":commit".toList, rfl, first, between_iff.2 ⟨fun d hd => ?_, ?_, ?_⟩⟩
    · exact (List.mem_append.1 hd).elim (safe d) (List.all_eq_true.1 suffix d)
    · rw [List.length_append]
      omega
    · rw [List.length_append, length]
      omega

/-- An id is its own quotation exactly if it has no colon. -/
theorem quote_eq_iff {s : String} (h : isSafeId s = true) : quote s = s ↔ ':' ∉ s.toList := by
  constructor
  · intro heq hmem
    rw [← heq] at hmem
    exact (of_mem_quote hmem).2.2 rfl
  · intro plain
    refine quote_eq_self fun c hc => ?_
    obtain ⟨d, tail, hs, first, rest⟩ := headed_iff.1 h
    have safe : isSafeIdChar c = true := by
      rw [hs, List.mem_cons] at hc
      rcases hc with rfl | hc
      · rw [isSafeIdChar, first]
        rfl
      · exact (between_iff.1 rest).1 c hc
    have ne : c ≠ ':' := by
      rintro rfl
      exact plain hc
    simp only [isSafeIdChar, isUnreserved, Bool.or_eq_true, beq_iff_eq] at safe ⊢
    tauto

/-- Without a colon the commit URL is the path of the commit. -/
theorem delivered_commit (ends : endsWith config.failoverProviderUrl.toList failoversPath = true)
    (path : requestPath config.failoverProviderUrl = some failoversPath) (operationId ownerHash key : String) (body : Dict) :
    delivered (commitRequest config operationId ownerHash) = some (.commit operationId key body) ↔
      isSafeId operationId = true ∧ ':' ∉ operationId.toList ∧ key = config.candidateId ++ ":commit" ∧
        body = commitBody ownerHash := by
  have at_ := requestPath_commitUrl ends path operationId
  constructor
  · intro h
    obtain ⟨path', hpath', routed⟩ := delivered_eq_some.1 h
    obtain rfl := Option.some.inj (at_.symm.trans hpath')
    rw [doPost, if_neg (commitPath_ne _)] at routed
    split at routed
    · rename_i id hid
      obtain ⟨hpath, safe⟩ := commitId_eq_some.1 hid
      cases routed
      have quoted := String.toList_injective (commitPath_injective hpath)
      exact ⟨safe, (quote_eq_iff safe).1 quoted, rfl, rfl⟩
    · cases routed
  · rintro ⟨safe, plain, rfl, rfl⟩
    refine delivered_eq_some.2 ⟨_, at_, ?_⟩
    rw [(quote_eq_iff safe).2 plain, doPost, if_neg (commitPath_ne _), commitId_eq_some.2 ⟨rfl, safe⟩]
    rfl

theorem candidate_prepareBody (config : Config) :
    FailoverProvider.Provider.candidate (prepareBody config) = some (.text config.candidateId) := by
  have value : (prepareBody config).get "candidateId" = some (.str config.candidateId) := rfl
  simp only [FailoverProvider.Provider.candidate, value, bind, Option.bind_some]
  exact if_pos config.candidateId.2

theorem ownerHash_commitBody (value : Json) :
    FailoverProvider.Provider.ownerHash (commitBody (FailoverProvider.canonicalHash value)) =
      some (.str (FailoverProvider.canonicalHash value)) := by
  have field : (commitBody (FailoverProvider.canonicalHash value)).get "ownerResponseSha256" =
      some (.str (FailoverProvider.canonicalHash value)) := rfl
  simp only [FailoverProvider.Provider.ownerHash, field, bind, Option.bind_some]
  exact if_pos (Sha256.between_hexdigest _)

theorem agreement_iff (ends : endsWith config.failoverProviderUrl.toList failoversPath = true) :
    Agreement config ↔ Routable config := by
  constructor
  · rintro ⟨⟨key, body, prepared, -, -⟩, commits⟩
    obtain ⟨path, hpath, routed⟩ := delivered_eq_some.1 prepared
    have here : path = failoversPath := by
      by_contra other
      rw [doPost, if_neg other] at routed
      split at routed <;> cases routed
    rw [here] at hpath
    obtain ⟨key, body, committed, -, safeKey, -⟩ := commits []
    obtain ⟨-, plain, rfl, -⟩ := (delivered_commit ends hpath _ _ _ _).1 committed
    exact ⟨hpath, plain, (isSafeId_commitKey config.candidateId.2).1 safeKey⟩
  · rintro ⟨path, plain, short⟩
    have safe := config.candidateId.2
    refine ⟨⟨config.candidateId, prepareBody config, ?_, ?_, safe, ?_, ?_, ?_⟩, fun owner =>
      ⟨config.candidateId ++ ":commit", commitBody (FailoverProvider.canonicalHash (.obj owner)), ?_, safe, ?_, ?_, ?_⟩⟩
    · exact delivered_eq_some.2 ⟨_, path, by rw [doPost, if_pos rfl]; rfl⟩
    · exact candidate_prepareBody config
    · rfl
    · rw [candidate_prepareBody]
      rfl
    · rfl
    · exact (delivered_commit ends path _ _ _ _).2 ⟨safe, plain, rfl, rfl⟩
    · exact (isSafeId_commitKey safe).2 short
    · rfl
    · rw [ownerHash_commitBody]
      rfl

theorem agreement_candidate : Agreement Deployment.config :=
  (agreement_iff (by decide)).2 ⟨by decide, by decide, by decide⟩

/-- A candidate id whose colon is quoted in the URL of its commit. -/
theorem not_agreement : ¬∀ config : Config,
    endsWith config.failoverProviderUrl.toList failoversPath = true → Agreement config := by
  intro h
  have agrees := h (Deployment.configFor ⟨"candidate:20260821-001", by decide⟩) (by decide)
  obtain ⟨key, body, committed, -⟩ := agrees.2 []
  have plain := ((delivered_commit (by decide) (by decide) _ _ _ _).1 committed).2.1
  exact plain (by decide)

end Agreement

end Zkdeal.PromotionController
