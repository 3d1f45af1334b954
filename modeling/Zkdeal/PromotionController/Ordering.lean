import Zkdeal.PromotionController.Worlds

/-!
# The order of a promotion

What the controller has seen before each of its effects.  The trace of a run is cut into monitoring
cycles (`Monitored`) and then into the exchanges of the promotion, one predicate for each of them
(`Ready`, `Prepared`, `Promoted`, `Committed`).
-/

namespace Zkdeal.PromotionController

open Interaction Python

/-! ## Monitoring cycles -/

/-- No request among the events. -/
def Quiet (tr : Trace Op Answer) : Prop := ∀ e ∈ tr, ∀ r, e.1 ≠ .requestJson r

/-- The readings of the monotonic clock. -/
def readings (tr : Trace Op Answer) : List Float := tr.filterMap fun
  | ⟨.monotonic, x⟩ => some x
  | _ => none

/-- A witness and what it answered. -/
def asked (config : Config) (url : String) (answer : Received) : Event Op Answer :=
  ⟨.requestJson (getRequest config url), answer⟩

/-- A monitoring cycle: what every witness answered, in order, and what else happened. -/
structure Cycle (config : Config) where
  before : Trace Op Answer
  answers : List Received
  after : Trace Op Answer
  quiet_before : Quiet before
  every : answers.length = config.activeHealthUrls.length
  quiet_after : Quiet after

namespace Cycle

variable {config : Config}

def events (c : Cycle config) : Trace Op Answer :=
  c.before ++ List.zipWith (asked config) config.activeHealthUrls c.answers ++ c.after

/-- Some witness is healthy. -/
def Healthy (c : Cycle config) : Prop := ∃ value, Received.object value ∈ c.answers ∧
  FailoverProvider.activeHealthy value config.activeCoordinatorId = true

end Cycle

variable (config : Config)

/-- The trace consists of the cycles, after an opening without requests. -/
def Monitored (cycles : List (Cycle config)) (tr : Trace Op Answer) : Prop :=
  ∃ opening, Quiet opening ∧ tr = opening ++ cycles.flatMap Cycle.events

/-- The last `n` cycles had no healthy witness, the one before them had, and the clock was read once
in the first of them. -/
def Streak (cycles : List (Cycle config)) (n : ℕ) (firstFailure : Float) : Prop :=
  ∃ earlier streak, cycles = earlier ++ streak ∧ streak.length = n ∧ (∀ c ∈ streak, ¬c.Healthy) ∧
    (∀ c ∈ earlier.getLast?, c.Healthy) ∧ ∀ c ∈ streak.head?, readings c.after = [firstFailure]

/-! ## Exchanges -/

/-- The controller is armed, the streak is as long as the threshold, and then the standby was ready. -/
structure Ready (firstFailure : Float) (tr : Trace Op Answer) : Prop where
  armed : config.armed = true
  observed : ∃ cycles before standby, Monitored config cycles before ∧
    Streak config cycles config.failureThreshold firstFailure ∧
    tr = before ++ [asked config config.standbyHealthUrl (.object standby)] ∧
    standbyReady standby config.standbyCoordinatorId = true

/-- The last request was `request`, answered by `value`; since then the clock was read as `times`. -/
def Exchanged (request : HttpRequest) (value : Dict) (times : List Float) (earlier : Trace Op Answer → Prop)
    (tr : Trace Op Answer) : Prop :=
  ∃ before after, earlier before ∧ Quiet after ∧ readings after = times ∧
    tr = before ++ ⟨.requestJson request, .object value⟩ :: after

/-- The provider answered with `prepare`, and `validate_prepare` accepted that. -/
def Prepared (firstFailure : Float) (prepare : Dict) (tr : Trace Op Answer) : Prop :=
  Exchanged (prepareRequest config) prepare [] (Ready config firstFailure) tr ∧
    validatePrepare config prepare = .ok config.candidateId.1

/-- The owner answered with `owner`, and `validate_owner_promotion` accepted that. -/
def Promoted (firstFailure : Float) (prepare owner : Dict) (tr : Trace Op Answer) : Prop :=
  Exchanged (ownerRequest config) owner [] (Prepared config firstFailure prepare) tr ∧
    validateOwnerPromotion owner = .ok ()

/-- The provider answered with `commit`, and `validate_commit` accepted that. -/
def Committed (firstFailure : Float) (prepare owner commit : Dict) (times : List Float)
    (tr : Trace Op Answer) : Prop :=
  Exchanged (commitOf config owner) commit times (Promoted config firstFailure prepare owner) tr ∧
    validateCommit config config.candidateId commit = .ok ()

/-- The commit was accepted, and the time since the first failure is at most the configured one. -/
def Complete (rto : Option Json) (tr : Trace Op Answer) : Prop :=
  ∃ firstFailure prepare owner commit now, Committed config firstFailure prepare owner commit [now] tr ∧
    rto = some (.float (rtoSeconds firstFailure now)) ∧
    exceeds (rtoSeconds firstFailure now) config.maxRtoSeconds = false

/-- The request was sent. -/
def Sent (request : HttpRequest) (tr : Trace Op Answer) : Prop := ∃ r, ⟨.requestJson request, r⟩ ∈ tr

/-- What the controller has seen when, after the trace, it performs an operation. -/
structure Allowed (tr : Trace Op Answer) (o : Op) : Prop where
  prepare : o = .requestJson (prepareRequest config) →
    (∃ firstFailure, Ready config firstFailure tr) ∧ ¬Sent (prepareRequest config) tr
  owner : o = .requestJson (ownerRequest config) →
    (∃ firstFailure prepare, Prepared config firstFailure prepare tr) ∧ ¬Sent (ownerRequest config) tr
  commit : ∀ ownerHash, o = .requestJson (commitRequest config config.candidateId ownerHash) →
    (∃ firstFailure prepare owner, Promoted config firstFailure prepare owner tr ∧
      ownerHash = FailoverProvider.canonicalHash (.obj owner)) ∧
    ∀ otherHash, ¬Sent (commitRequest config config.candidateId otherHash) tr
  /-- There are no other effects than these. -/
  post : ∀ request, o = .requestJson request → request.method = .post → request = prepareRequest config ∨
    request = ownerRequest config ∨ ∃ ownerHash, request = commitRequest config config.candidateId ownerHash
  complete : ∀ value, o = .atomicJson value ∨ o = .print value →
    value.get "status" = some (.str "promotion-complete") → Complete config (value.get "rtoSeconds") tr

variable {config}

/-! ## Traces -/

section Traces

variable {tr l l' : Trace Op Answer} {o : Op}

/-- No request, and the clock is not read. -/
def Idle : Op → Prop
  | .requestJson _ | .monotonic => False
  | _ => True

theorem quiet_append (h : Quiet l) (h' : Quiet l') : Quiet (l ++ l') := by
  intro e he
  rcases List.mem_append.1 he with he | he
  · exact h e he
  · exact h' e he

theorem quiet_of_idle (h : ∀ e ∈ l, Idle e.1) : Quiet l := by
  intro e he r hr
  have idle := h e he
  rw [hr] at idle
  exact idle

theorem readings_of_idle (h : ∀ e ∈ l, Idle e.1) : readings l = [] := by
  refine List.filterMap_eq_nil_iff.2 fun e he => ?_
  obtain ⟨o, r⟩ := e
  have idle := h _ he
  cases o <;> first | rfl | exact idle.elim

theorem readings_append (l l' : Trace Op Answer) : readings (l ++ l') = readings l ++ readings l' :=
  List.filterMap_append

theorem Exchanged.idle {request : HttpRequest} {value : Dict} {times : List Float}
    {earlier : Trace Op Answer → Prop} (h : Exchanged request value times earlier tr)
    (hl : ∀ e ∈ l, Idle e.1) : Exchanged request value times earlier (tr ++ l) := by
  obtain ⟨before, after, hbefore, quiet, rfl, rfl⟩ := h
  refine ⟨before, after ++ l, hbefore, quiet_append quiet (quiet_of_idle hl), ?_, by simp⟩
  rw [readings_append, readings_of_idle hl, List.append_nil]

theorem Complete.idle {rto : Option Json} (h : Complete config rto tr) (hl : ∀ e ∈ l, Idle e.1) :
    Complete config rto (tr ++ l) := by
  obtain ⟨firstFailure, prepare, owner, commit, now, ⟨exchanged, accepted⟩, hrto, within_⟩ := h
  exact ⟨firstFailure, prepare, owner, commit, now, ⟨exchanged.idle hl, accepted⟩, hrto, within_⟩

/-- Anything but a request, or a note that the promotion is complete, is allowed at any time. -/
theorem allowed_of_silent (request : ∀ r, o ≠ .requestJson r)
    (note : ∀ value, o = .atomicJson value ∨ o = .print value →
      value.get "status" ≠ some (.str "promotion-complete")) : Allowed config tr o where
  prepare h := absurd h (request _)
  owner h := absurd h (request _)
  commit _ h := absurd h (request _)
  post r h := absurd h (request r)
  complete value h complete := absurd complete (note value h)

theorem allowed_get (url : String) : Allowed config tr (.requestJson (getRequest config url)) where
  prepare h := by simp [getRequest, prepareRequest] at h
  owner h := by simp [getRequest, ownerRequest] at h
  commit _ h := by simp [getRequest, commitRequest] at h
  post r h posted := by
    obtain rfl := Op.requestJson.inj h
    cases posted
  complete _ h := by simp at h

/-- The status was noted. -/
def Noted (status : String) (tr : Trace Op Answer) : Prop :=
  ∃ value, ⟨.atomicJson value, some ()⟩ ∈ tr ∧ value.get "status" = some (.str status)

/-- Note a status; `promotion-complete` only when it is. -/
theorem ensures_emit {status : String} {fields : Dict} {Q : Unit → Trace Op Answer → Prop}
    (complete : status = "promotion-complete" → Complete config (fields.get "rtoSeconds") tr)
    (hQ : ∀ l, (∀ e ∈ l, Idle e.1) → Noted status l → Q () (tr ++ l)) :
    Raising.Ensures (Allowed config) (emit config status fields) Q tr := by
  unfold emit
  rw [Raising.ensures_bind_iff]
  refine Raising.ensures_perform (allowed_of_silent (by simp) (by simp)) fun now => ?_
  -- What may be noted, in any state of the trace after the clock was read.
  have noted (l : Trace Op Answer) (hl : ∀ e ∈ l, Idle e.1) (o : Op) (value : Dict)
      (ho : o = .atomicJson value ∨ o = .print value)
      (hv : value.get "status" = some (.str status) ∧ value.get "rtoSeconds" = fields.get "rtoSeconds") : Allowed config (tr ++ l) o := by
    refine ⟨?_, ?_, ?_, ?_, ?_⟩
    · rintro rfl; simp at ho
    · rintro rfl; simp at ho
    · rintro _ rfl; simp at ho
    · rintro _ rfl; simp at ho
    · intro value' ho' done
      obtain rfl : value' = value := by rcases ho with rfl | rfl <;> simp at ho' <;> exact ho'.symm
      rw [hv.1] at done
      rw [hv.2]
      exact (complete (by simpa using done)).idle hl
  dsimp only
  rw [Raising.ensures_bind_iff]
  refine Raising.ensures_attempt (noted [_] (by simp [Idle]) _ _ (.inl rfl) ⟨rfl, rfl⟩) fun saved _ hsaved => ?_
  rw [List.append_assoc]
  refine Raising.ensures_attempt (noted _ (by simp [Idle]) _ _ (.inr rfl) ⟨rfl, rfl⟩) fun printed _ _ => ?_
  rw [List.append_assoc]
  obtain ⟨⟩ | ⟨⟨⟩⟩ := saved
  · cases hsaved
  · exact hQ _ (by simp [Idle]) ⟨_, List.mem_cons_of_mem _ List.mem_cons_self, rfl⟩

end Traces

/-! ## The loop -/

section Loop

variable {tr : Trace Op Answer}

/-- What a verdict says of an answer. -/
def Judged (config : Config) (verdict : Bool) (answer : Received) : Prop :=
  verdict = true ↔ ∃ value, answer = .object value ∧
    FailoverProvider.activeHealthy value config.activeCoordinatorId = true

theorem ensures_askWitnesses (urls : List String) {Q : List Bool → Trace Op Answer → Prop}
    (hQ : ∀ verdicts answers, answers.length = urls.length → List.Forall₂ (Judged config) verdicts answers →
      Q verdicts (tr ++ List.zipWith (asked config) urls answers)) :
    Raising.Ensures (Allowed config) (askWitnesses config urls) Q tr := by
  induction urls generalizing tr Q with
  | nil =>
    have := hQ [] [] rfl .nil
    rwa [List.zipWith_nil_left, List.append_nil] at this
  | cons url urls ih =>
    unfold askWitnesses witnessHealthy
    rw [Raising.ensures_bind_iff]
    refine Raising.ensures_attempt (allowed_get url) fun answer healthy hanswer => ?_
    have judged : Judged config healthy answer := by
      cases answer with
      | object value => simp [Judged, ← Except.ok.inj hanswer]
      | refused _ => simp [Judged, ← Except.ok.inj hanswer]
      | failed => cases hanswer
    rw [Raising.ensures_bind_iff]
    refine ih fun verdicts answers hlength hjudged => ?_
    have := hQ (healthy :: verdicts) (answer :: answers) (by simp [hlength]) (.cons judged hjudged)
    rw [List.zipWith_cons_cons] at this
    rw [Raising.ensures_pure_iff, List.append_assoc]
    exact this

theorem exists_healthy {verdicts : List Bool} {answers : List Received}
    (h : List.Forall₂ (Judged config) verdicts answers) : true ∈ verdicts ↔
      ∃ value, Received.object value ∈ answers ∧
        FailoverProvider.activeHealthy value config.activeCoordinatorId = true := by
  induction h with
  | nil => simp
  | cons judged _ ih =>
    unfold Judged at judged
    rw [List.mem_cons, ih, eq_comm, judged]
    constructor
    · rintro (⟨value, rfl, healthy⟩ | ⟨value, hmem, healthy⟩)
      · exact ⟨value, by simp, healthy⟩
      · exact ⟨value, by simp [hmem], healthy⟩
    · rintro ⟨value, hmem, healthy⟩
      rcases List.mem_cons.1 hmem with heq | hmem
      · exact .inl ⟨value, heq.symm, healthy⟩
      · exact .inr ⟨value, hmem, healthy⟩

/-- The cycles so far, and a pause after the last one. -/
def Watching (config : Config) (consecutive : ℕ) (firstFailure : Float) (tr : Trace Op Answer) : Prop :=
  ∃ cycles before pause, Monitored config cycles before ∧ Streak config cycles consecutive firstFailure ∧
    Quiet pause ∧ tr = before ++ pause

variable {cycles : List (Cycle config)} {n : ℕ} {firstFailure : Float}

theorem monitored_snoc (h : Monitored config cycles tr) (c : Cycle config) :
    Monitored config (cycles ++ [c]) (tr ++ c.events) := by
  obtain ⟨opening, quiet, rfl⟩ := h
  exact ⟨opening, quiet, by simp⟩

theorem streak_healthy {c : Cycle config} (h : c.Healthy) (x : Float) :
    Streak config (cycles ++ [c]) 0 x :=
  ⟨cycles ++ [c], [], by simp, rfl, by simp, by simpa using h, by simp⟩

/-- One more failure; the first one of a streak reads the clock. -/
theorem Streak.failure (h : Streak config cycles n firstFailure) {c : Cycle config} (failed : ¬c.Healthy) {x : Float}
    (first : n = 0 → readings c.after = [x]) (later : n ≠ 0 → x = firstFailure) :
    Streak config (cycles ++ [c]) (n + 1) x := by
  obtain ⟨earlier, streak, rfl, rfl, unhealthy, last, head⟩ := h
  refine ⟨earlier, streak ++ [c], by simp, by simp, ?_, last, ?_⟩
  · intro d hd
    rcases List.mem_append.1 hd with hd | hd
    · exact unhealthy d hd
    · rwa [List.mem_singleton.1 hd]
  · intro d hd
    cases streak with
    | nil =>
      obtain rfl : c = d := by simpa using hd
      exact first rfl
    | cons b streak =>
      rw [later (by simp)]
      exact head d (by simpa using hd)

/-- What is known after a cycle. -/
def Observed (config : Config) (r : ℕ × Float × Bool) (tr : Trace Op Answer) : Prop :=
  (∃ cycles, Monitored config cycles tr ∧ Streak config cycles r.1 r.2.1) ∧
    if r.2.2 then r.1 = config.failureThreshold else r.1 < config.failureThreshold

theorem ensures_observe (cycle : ℕ) (h : Watching config n firstFailure tr) (below : n < config.failureThreshold.1) :
    Raising.Ensures (Allowed config) (observe config cycle n firstFailure) (Observed config) tr := by
  obtain ⟨cycles, before, pause, monitored, streak, quiet, rfl⟩ := h
  unfold observe
  rw [Raising.ensures_bind_iff]
  refine ensures_askWitnesses _ fun verdicts answers every judged => ?_
  have healthy := exists_healthy judged
  by_cases hv : true ∈ verdicts
  · rw [if_pos hv, Raising.ensures_bind_iff]
    refine ensures_emit (by simp) fun l hl _ => ?_
    let c : Cycle config := ⟨pause, answers, l, quiet, every, quiet_of_idle hl⟩
    have after := monitored_snoc monitored c
    refine ⟨⟨cycles ++ [c], ?_, streak_healthy (c := c) (healthy.1 hv) _⟩, ?_⟩
    · simpa [Cycle.events, c] using after
    · exact Nat.lt_of_lt_of_le (by decide) config.failureThreshold.2.1
  · rw [if_neg hv]
    have failed (c : Cycle config) (hc : c.answers = answers) : ¬c.Healthy := fun h => hv (healthy.2 (hc ▸ h))
    -- The rest of the cycle, after the clock was read or not.
    have rest (x : Float) (read : Trace Op Answer) (hread : Quiet read) (first : n = 0 → readings read = [x])
        (later : n ≠ 0 → x = firstFailure) : Raising.Ensures (Allowed config) (do
          emit config "active-unhealthy" [("cycle", .int cycle),
            ("consecutiveFailures", .int (n + 1 : ℕ)), ("failedWitnesses", .int (verdicts.count false))]
          return (n + 1, x, decide (config.failureThreshold ≤ n + 1))) (Observed config)
        (before ++ pause ++ List.zipWith (asked config) config.activeHealthUrls answers ++ read) := by
      rw [Raising.ensures_bind_iff]
      refine ensures_emit (by simp) fun l hl _ => ?_
      let c : Cycle config :=
        ⟨pause, answers, read ++ l, quiet, every, quiet_append hread (quiet_of_idle hl)⟩
      have after := monitored_snoc monitored c
      refine ⟨⟨cycles ++ [c], ?_, streak.failure (failed c rfl) (fun hn => ?_) later⟩, ?_⟩
      · simpa [Cycle.events, c] using after
      · change readings (read ++ l) = _
        rw [readings_append, readings_of_idle hl, first hn, List.append_nil]
      · by_cases met : config.failureThreshold.1 ≤ n + 1
        · simp only [met, decide_true, if_true]
          omega
        · simp only [met, decide_false, Bool.false_eq_true, if_false]
          omega
    unfold streakStart
    rw [Raising.ensures_bind_iff]
    by_cases hn : n = 0
    · rw [if_pos hn]
      refine Raising.ensures_perform (allowed_of_silent (by simp) (by simp)) fun x => ?_
      exact rest x [⟨.monotonic, x⟩] (by simp [Quiet]) (fun _ => rfl) (fun h => absurd hn h)
    · rw [if_neg hn, Raising.ensures_pure_iff]
      have := rest firstFailure [] (by simp [Quiet]) (fun h => absurd h hn) (fun _ => rfl)
      rwa [List.append_nil] at this

/-- When the loop ends for the failures, the streak is as long as the threshold. -/
theorem ensures_monitor (rounds cycle : ℕ) (h : Watching config n firstFailure tr)
    (below : n < config.failureThreshold.1) :
    Raising.Ensures (Allowed config) (monitor config rounds cycle n firstFailure) (fun r tr' => ∀ x, r = some x →
      ∃ cycles, Monitored config cycles tr' ∧ Streak config cycles config.failureThreshold x) tr := by
  induction rounds generalizing cycle n firstFailure tr with
  | zero => exact Raising.ensures_halt
  | succ rounds ih =>
    unfold monitor
    rw [Raising.ensures_bind_iff]
    refine (ensures_observe cycle h below).mono ?_
    rintro ⟨m, x, met⟩ tr' ⟨⟨cycles, monitored, streak⟩, hmet⟩
    cases met with
    | true =>
      have hm : m = config.failureThreshold := hmet
      rw [hm] at streak
      intro y hy
      obtain rfl := Option.some.inj hy
      exact ⟨cycles, monitored, streak⟩
    | false =>
      have hm : m < config.failureThreshold.1 := hmet
      dsimp only
      rw [if_neg Bool.false_ne_true]
      by_cases ended : config.maxMonitorCycles.1 ≠ 0 ∧ config.maxMonitorCycles.1 ≤ cycle
      · rw [if_pos ended, Raising.ensures_bind_iff]
        exact ensures_emit (by simp) fun l _ _ => nofun
      · rw [if_neg ended, Raising.ensures_bind_iff]
        refine Raising.ensures_perform (allowed_of_silent (by simp) (by simp)) fun _ => ?_
        exact ih (cycle + 1) ⟨cycles, tr', _, monitored, streak, by simp [Quiet], rfl⟩ hm

end Loop

/-! ## Effects sent before -/

section Sent

variable {tr : Trace Op Answer} {cycles : List (Cycle config)} {firstFailure : Float} {prepare owner : Dict}
variable {request : HttpRequest}

theorem sent_append {l : Trace Op Answer} : Sent request (tr ++ l) ↔ Sent request tr ∨ Sent request l := by
  simp only [Sent, List.mem_append, exists_or]

theorem not_sent_quiet (h : Quiet tr) : ¬Sent request tr := by
  rintro ⟨r, hr⟩
  exact h _ hr _ rfl

theorem not_sent_asked (posted : request.method = .post) (url : String) (answer : Received) :
    ¬Sent request [asked config url answer] := by
  rintro ⟨r, hr⟩
  have heq := congrArg Sigma.fst (List.mem_singleton.1 hr)
  obtain rfl := Op.requestJson.inj heq
  cases posted

/-- Monitoring has no effects. -/
theorem Monitored.not_sent (h : Monitored config cycles tr) (posted : request.method = .post) :
    ¬Sent request tr := by
  obtain ⟨opening, quiet, rfl⟩ := h
  rw [sent_append, not_or]
  refine ⟨not_sent_quiet quiet, ?_⟩
  rintro ⟨r, hr⟩
  obtain ⟨c, -, hr⟩ := List.mem_flatMap.1 hr
  rcases List.mem_append.1 hr with hr | hr
  · rcases List.mem_append.1 hr with hr | hr
    · exact not_sent_quiet c.quiet_before ⟨r, hr⟩
    · rw [← List.map_uncurry_zip_eq_zipWith, List.mem_map] at hr
      obtain ⟨pair, -, heq⟩ := hr
      exact not_sent_asked posted pair.1 pair.2 ⟨r, List.mem_singleton.2 heq.symm⟩
  · exact not_sent_quiet c.quiet_after ⟨r, hr⟩

theorem Ready.not_sent (h : Ready config firstFailure tr) (posted : request.method = .post) :
    ¬Sent request tr := by
  obtain ⟨cycles, before, standby, monitored, -, rfl, -⟩ := h.observed
  rw [sent_append, not_or]
  exact ⟨monitored.not_sent posted, not_sent_asked posted _ _⟩

/-- An exchange adds its own request. -/
theorem Exchanged.sent {request' : HttpRequest} {value : Dict} {times : List Float}
    {earlier : Trace Op Answer → Prop} (h : Exchanged request' value times earlier tr) (sent : Sent request tr) :
    request = request' ∨ ∃ before, earlier before ∧ Sent request before := by
  obtain ⟨before, after, hbefore, quiet, -, rfl⟩ := h
  rw [← List.singleton_append, ← List.append_assoc, sent_append, sent_append] at sent
  rcases sent with (sent | ⟨r, hr⟩) | sent
  · exact .inr ⟨before, hbefore, sent⟩
  · exact .inl (Op.requestJson.inj (congrArg Sigma.fst (List.mem_singleton.1 hr)))
  · exact absurd sent (not_sent_quiet quiet)

theorem Prepared.sent (h : Prepared config firstFailure prepare tr) (posted : request.method = .post)
    (sent : Sent request tr) : request = prepareRequest config := by
  rcases h.1.sent sent with rfl | ⟨before, ready, sent⟩
  · rfl
  · exact absurd sent (ready.not_sent posted)

theorem Promoted.sent (h : Promoted config firstFailure prepare owner tr) (posted : request.method = .post)
    (sent : Sent request tr) : request = prepareRequest config ∨ request = ownerRequest config := by
  rcases h.1.sent sent with rfl | ⟨before, prepared, sent⟩
  · exact .inr rfl
  · exact .inl (prepared.sent posted sent)

/-- The three effects have different idempotency keys. -/
theorem key_ne {s suffix suffix' : String} (h : suffix ≠ suffix') : s ++ suffix ≠ s ++ suffix' := by
  intro heq
  have := congrArg String.toList heq
  rw [String.toList_append, String.toList_append] at this
  exact h (String.toList_injective (List.append_cancel_left this))

theorem ownerRequest_ne : ownerRequest config ≠ prepareRequest config := by
  intro h
  have hkey := Option.some.inj (congrArg HttpRequest.idempotencyKey h)
  exact key_ne (s := config.candidateId) (show ":owner" ≠ "" by decide) (hkey.trans String.append_empty.symm)

theorem commitRequest_ne (operationId ownerHash : String) :
    commitRequest config operationId ownerHash ≠ prepareRequest config ∧
      commitRequest config operationId ownerHash ≠ ownerRequest config := by
  refine ⟨fun h => ?_, fun h => ?_⟩
  · have hkey := Option.some.inj (congrArg HttpRequest.idempotencyKey h)
    exact key_ne (s := config.candidateId) (show ":commit" ≠ "" by decide) (hkey.trans String.append_empty.symm)
  · have hkey := Option.some.inj (congrArg HttpRequest.idempotencyKey h)
    exact key_ne (by decide) hkey

theorem allowed_prepare (h : Ready config firstFailure tr) :
    Allowed config tr (.requestJson (prepareRequest config)) where
  prepare _ := ⟨⟨firstFailure, h⟩, h.not_sent rfl⟩
  owner heq := absurd (Op.requestJson.inj heq).symm ownerRequest_ne
  commit ownerHash heq := absurd (Op.requestJson.inj heq).symm (commitRequest_ne _ _).1
  post _ heq _ := .inl (Op.requestJson.inj heq).symm
  complete _ heq := by simp at heq

theorem allowed_owner (h : Prepared config firstFailure prepare tr) :
    Allowed config tr (.requestJson (ownerRequest config)) where
  prepare heq := absurd (Op.requestJson.inj heq) ownerRequest_ne
  owner _ := ⟨⟨firstFailure, prepare, h⟩, fun sent => ownerRequest_ne (h.sent rfl sent)⟩
  commit ownerHash heq := absurd (Op.requestJson.inj heq).symm (commitRequest_ne _ _).2
  post _ heq _ := .inr (.inl (Op.requestJson.inj heq).symm)
  complete _ heq := by simp at heq

theorem allowed_commit (h : Promoted config firstFailure prepare owner tr) :
    Allowed config tr (.requestJson (commitOf config owner)) where
  prepare heq := absurd (Op.requestJson.inj heq) (commitRequest_ne _ _).1
  owner heq := absurd (Op.requestJson.inj heq) (commitRequest_ne _ _).2
  commit ownerHash heq := by
    refine ⟨⟨firstFailure, prepare, owner, h, ?_⟩, fun otherHash sent => ?_⟩
    · have body := congrArg HttpRequest.body (Op.requestJson.inj heq)
      simpa [commitOf, commitRequest, commitBody, eq_comm] using body
    · rcases h.sent rfl sent with heq | heq
      · exact (commitRequest_ne _ _).1 heq
      · exact (commitRequest_ne _ _).2 heq
  post _ heq _ := .inr (.inr ⟨_, (Op.requestJson.inj heq).symm⟩)
  complete _ heq := by simp at heq

end Sent

/-! ## Runs -/

section Runs

variable {tr : Trace Op Answer} {cycles : List (Cycle config)} {firstFailure : Float}

theorem ensures_requestJson {request : HttpRequest} {Q : Dict → Trace Op Answer → Prop}
    (hok : Allowed config tr (.requestJson request))
    (hQ : ∀ value, Q value (tr ++ [⟨.requestJson request, .object value⟩])) :
    Raising.Ensures (Allowed config) (requestJson request) Q tr := by
  refine Raising.ensures_attempt hok fun answer value h => ?_
  cases answer with
  | object v =>
    obtain rfl := Except.ok.inj h
    exact hQ v
  | refused _ => cases h
  | failed => cases h

theorem ensures_validated {α : Type} {x : Except Raised α} {Q : α → Trace Op Answer → Prop}
    (hQ : ∀ a, x = .ok a → Q a tr) : Raising.Ensures (Allowed config) (validated x) Q tr := by
  cases x with
  | ok a => exact hQ a rfl
  | error e => exact Raising.ensures_throw

/-- An accepted response is for the candidate. -/
theorem validatePrepare_id {value : Dict} {operationId : String}
    (h : validatePrepare config value = .ok operationId) : operationId = config.candidateId := by
  unfold validatePrepare at h
  simp only [bind, Except.bind, pure, Except.pure, throw, throwThe, MonadExceptOf.throw] at h
  repeat' split at h
  all_goals first | cases h; rfl | cases h

theorem ensures_promote (monitored : Monitored config cycles tr)
    (streak : Streak config cycles config.failureThreshold firstFailure) :
    Raising.Ensures (Allowed config) (promote config firstFailure)
      (fun _ tr' => Noted "promotion-complete" tr') tr := by
  unfold promote
  rw [Raising.ensures_bind_iff]
  refine Raising.ensures_raiseIf fun armed => ?_
  rw [Raising.ensures_bind_iff]
  refine ensures_requestJson (allowed_get _) fun standby => ?_
  rw [Raising.ensures_bind_iff]
  refine Raising.ensures_raiseIf fun standing => ?_
  have ready : Ready config firstFailure (tr ++ [asked config config.standbyHealthUrl (.object standby)]) :=
    ⟨by simpa using armed, cycles, tr, standby, monitored, streak, rfl, by simpa using standing⟩
  rw [Raising.ensures_bind_iff]
  refine ensures_requestJson (allowed_prepare ready) fun prepare => ?_
  rw [Raising.ensures_bind_iff]
  refine ensures_validated fun operationId valid => ?_
  obtain rfl := validatePrepare_id valid
  rw [Raising.ensures_bind_iff]
  refine ensures_emit (by simp) fun l hl _ => ?_
  rw [List.append_assoc _ _ l]
  have prepared : Prepared config firstFailure prepare _ :=
    ⟨⟨_, l, ready, quiet_of_idle hl, readings_of_idle hl, rfl⟩, valid⟩
  rw [Raising.ensures_bind_iff]
  refine ensures_requestJson (allowed_owner prepared) fun owner => ?_
  rw [Raising.ensures_bind_iff]
  refine ensures_validated fun _ accepted => ?_
  dsimp only
  rw [Raising.ensures_bind_iff]
  refine ensures_emit (by simp) fun l hl _ => ?_
  rw [List.append_assoc _ _ l]
  have promoted : Promoted config firstFailure prepare owner _ :=
    ⟨⟨_, l, prepared, quiet_of_idle hl, readings_of_idle hl, rfl⟩, accepted⟩
  rw [Raising.ensures_bind_iff]
  refine ensures_requestJson (allowed_commit promoted) fun commit => ?_
  rw [Raising.ensures_bind_iff]
  refine ensures_validated fun _ committed => ?_
  rw [Raising.ensures_bind_iff]
  refine Raising.ensures_perform (allowed_of_silent (by simp) (by simp)) fun now => ?_
  rw [List.append_assoc _ [_] [_]]
  have done : Committed config firstFailure prepare owner commit [now] _ :=
    ⟨⟨_, [⟨.monotonic, now⟩], promoted, by simp [Quiet], rfl, rfl⟩, committed⟩
  rw [Raising.ensures_bind_iff]
  refine Raising.ensures_raiseIf fun within_ => ?_
  rw [Raising.ensures_bind_iff]
  refine ensures_emit (fun _ => ?_) fun l _ noted => ?_
  · exact ⟨firstFailure, prepare, owner, commit, now, done, rfl, by simpa using within_⟩
  · obtain ⟨value, hmem, status⟩ := noted
    exact ⟨value, List.mem_append_right _ hmem, status⟩

/-- Whatever it is answered, the controller does nothing that is not allowed. -/
theorem ensures_run (config : Config) (rounds : ℕ) :
    Raising.Ensures (Allowed config) (run config rounds)
      (fun r tr => r.isSome → Noted "promotion-complete" tr) [] := by
  unfold run
  rw [Raising.ensures_bind_iff]
  refine ensures_emit (by simp) fun l hl _ => ?_
  rw [Raising.ensures_bind_iff]
  have opening : Watching config 0 0.0 l := by
    refine ⟨[], l, [], ⟨l, quiet_of_idle hl, by simp⟩, ?_, by simp [Quiet], by simp⟩
    exact ⟨[], [], rfl, rfl, by simp, by simp, by simp⟩
  have positive : 0 < config.failureThreshold.1 := Nat.lt_of_lt_of_le (by decide) config.failureThreshold.2.1
  refine (ensures_monitor rounds 1 opening positive).mono ?_
  intro r tr' h
  cases r with
  | none => exact Raising.ensures_pure_iff.2 nofun
  | some firstFailure =>
    obtain ⟨cycles, monitored, streak⟩ := h firstFailure rfl
    dsimp only
    rw [Raising.ensures_bind_iff]
    exact (ensures_promote monitored streak).mono fun _ _ noted _ => noted

/-- In every run, at every operation that was answered, and at the one the process died in. -/
theorem run_ordered {rounds : ℕ} {out : Outcome Op (Except Raised (Option Dict))}
    (h : (run config rounds).run.Runs tr out) :
    (∀ pre e post, tr = pre ++ e :: post → Allowed config pre e.1) ∧
      ∀ o, out = .killed o → Allowed config tr o := by
  have ensures := ensures_run config rounds
  refine ⟨?_, ?_⟩
  · rintro pre e post rfl
    exact ensures.issued h
  · exact (Raising.Meets.of_runs ensures h (accepts_recording [] tr)).2

/-- A promotion that completes. -/
theorem run_ordered_promotion : ∃ tr out, (run Deployment.config 3).run.Runs tr out ∧
    (out.value.bind id).isSome = true ∧ (∀ pre e post, tr = pre ++ e :: post → Allowed Deployment.config pre e.1) ∧
      ∀ o, out = .killed o → Allowed Deployment.config tr o := by
  have completes : ((Deployment.start .fresh 50).played.2.1.value.bind id).isSome = true := by decide +kernel
  exact ⟨_, _, (Deployment.start .fresh 50).played_runs, completes,
    run_ordered (Deployment.start .fresh 50).played_runs⟩

end Runs

end Zkdeal.PromotionController
