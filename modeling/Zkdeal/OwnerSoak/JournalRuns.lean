import Zkdeal.OwnerSoak.Journal

/-!
# Runs on one journal

Whatever calls workers make, and wherever they are killed between two lines, the file holds the events that
were written, numbered from one, and a new worker and the verifier read them back (`sound`).
-/

namespace Zkdeal.OwnerSoak

open Python Json Soak

variable {sha256 : Bytes → String}

/-! ## Reading the file back -/

/-- The last event is a closure. -/
def closedBy (es : List Event) : Bool := (es.getLast?.map Journal.isClosure).getD false

/-- Events that workers can have written: numbered from one, and nothing after a closure. -/
structure Journaled (es : List Event) : Prop where
  writable : ∀ e ∈ es, Writable e
  numbered : Numbered 1 es
  last : ∀ e ∈ es.dropLast, Journal.isClosure e = false

/-- The memory of a worker that read the events back. -/
def reloaded (es : List Event) : Journal where
  events := es.map reread
  eventIds := es.flatMap fun e => (Journal.idOf e).toList
  closed := closedBy es

theorem idOf_reread (e : Event) : Journal.idOf (reread e) = Journal.idOf e := by
  unfold Journal.idOf
  rw [get_reread]
  cases e.get "eventId" with
  | none => rfl
  | some v => cases v <;> rfl

theorem isClosure_reread (e : Event) : Journal.isClosure (reread e) = Journal.isClosure e := by
  unfold Journal.isClosure item
  rw [get_reread]
  cases e.get "kind" with
  | none => rfl
  | some v => cases v <;> rfl

theorem closedBy_concat (es : List Event) (e : Event) : closedBy (es ++ [e]) = Journal.isClosure e := by
  simp [closedBy]

theorem not_isClosure_of_not_closedBy {es : List Event} (h : Journaled es) (open' : closedBy es = false) :
    ∀ e ∈ es, Journal.isClosure e = false := by
  intro e he
  rcases List.eq_nil_or_concat es with rfl | ⟨init, last, rfl⟩
  · cases he
  · rw [List.concat_eq_append] at *
    rw [closedBy_concat] at open'
    rcases List.mem_append.1 he with he | he
    · exact h.last e (by rwa [List.dropLast_concat])
    · rwa [List.mem_singleton.1 he]

/-- The loop reads the lines of events that are no closures, and then the other lines. -/
theorem restore_append {es : List Event} (h : ∀ e ∈ es, Writable e)
    (open' : ∀ e ∈ es, Journal.isClosure e = false) (n : ℕ) (j : Journal) (hj : j.closed = false)
    (lines : List String) :
    Journal.restore n j (es.map (fun e => .ofList (eventLine e)) ++ lines) =
      Journal.restore (n + es.length) ⟨j.events ++ es.map reread,
        j.eventIds ++ es.flatMap (fun e => (Journal.idOf e).toList), false⟩ lines := by
  induction es generalizing n j with
  | nil =>
    rw [List.map_nil, List.map_nil, List.flatMap_nil, List.append_nil, List.append_nil, ← hj]
    rfl
  | cons e es ih =>
    obtain ⟨tail, hstart⟩ := eventLine_start e
    rw [List.map_cons, List.cons_append, Journal.restore, if_neg (strip_ne_of_start hstart),
      loads_eventLine (h e (by simp))]
    dsimp only
    rw [hj, if_neg Bool.false_ne_true, isClosure_reread, open' e (by simp),
      ih (fun d hd => h d (by simp [hd])) (fun d hd => open' d (by simp [hd])) _ _ rfl]
    simp [Journal.add, idOf_reread, Nat.add_assoc, Nat.add_comm 1]

theorem restore_closure {e : Event} (h : Writable e) (n : ℕ) (j : Journal) (hj : j.closed = false) :
    Journal.restore n j [.ofList (eventLine e)] =
      .ok ⟨j.events ++ [reread e], j.eventIds ++ (Journal.idOf e).toList, Journal.isClosure e⟩ := by
  obtain ⟨tail, hstart⟩ := eventLine_start e
  rw [Journal.restore, if_neg (strip_ne_of_start hstart), loads_eventLine h]
  dsimp only
  rw [hj, if_neg Bool.false_ne_true, isClosure_reread]
  simp [Journal.add, Journal.restore, idOf_reread]

theorem restore_events {es : List Event} (h : Journaled es) :
    Journal.restore 1 .empty (es.map fun e => .ofList (eventLine e)) = .ok (reloaded es) := by
  rcases List.eq_nil_or_concat es with rfl | ⟨init, last, rfl⟩
  · rfl
  · rw [List.concat_eq_append] at *
    have open' : ∀ e ∈ init, Journal.isClosure e = false := by
      have := h.last
      rwa [List.dropLast_concat] at this
    rw [List.map_append, restore_append (fun e he => h.writable e (by simp [he])) open' 1 .empty rfl]
    refine (restore_closure (h.writable last (by simp)) _ _ rfl).trans ?_
    simp [reloaded, closedBy, Journal.empty]

/-- A new worker reads the events back. -/
theorem load_canonicalEventBytes {es : List Event} (h : Journaled es) :
    Journal.load (some (canonicalEventBytes es)) = .ok (reloaded es) := by
  have lines := fileLines_events h.writable (nofun : ∀ c ∈ ([] : List Char), isPrintable c = true)
  rw [if_pos rfl, encodeChars, List.flatMap_nil, List.append_nil, List.append_nil] at lines
  rw [Journal.load, lines]
  refine bind_eq_ok.2 ⟨_, rfl, bind_eq_ok.2 ⟨_, restore_events h, ?_⟩⟩
  exact bind_eq_ok.2 ⟨(), checkSequence_reread h.numbered, rfl⟩

/-! ## Every call keeps the journal -/

/-- How the memory and the file of a store are related to the events that were written. -/
structure Holds (sha256 : Bytes → String) (log : List Entry) (s : Store) : Prop where
  journaled : Journaled (events log)
  bytes : s.bytes = canonicalEventBytes (events log)
  absent : s.file = none → log = []
  same : s.journal.events.map reread = (events log).map reread
  closed : s.journal.closed = closedBy (events log)
  ids : closedBy (events log) = false → ∀ e ∈ events log, ∀ eventId, Journal.idOf e = some eventId →
    eventId ∈ s.journal.eventIds
  once : (log.filterMap fun entry => entry.1.onceId).Nodup
  onceIds : ∀ entry ∈ log, ∀ eventId, entry.1.onceId = some eventId → Journal.idOf entry.2 = some eventId
  prior : ∀ pre entry post, log = pre ++ entry :: post → Journal.isClosure entry.2 = true →
    entry.2.get "priorEventsSha256" = some (.str (sha256 (canonicalEventBytes (events pre))))

theorem holds_start : Holds sha256 [] ⟨.empty, none⟩ where
  journaled := ⟨nofun, trivial, nofun⟩
  bytes := rfl
  absent := fun _ => rfl
  same := rfl
  closed := rfl
  ids := fun _ => nofun
  once := List.nodup_nil
  onceIds := nofun
  prior := fun pre entry post h => by simp at h

variable {log : List Entry} {s u : Store}

theorem Holds.length_eq (h : Holds sha256 log s) : s.journal.events.length = log.length := by
  have := congrArg List.length h.same
  simpa using this

/-- What the worker remembers is written as the file has it. -/
theorem Holds.canonical_eq (h : Holds sha256 log s) :
    canonicalEventBytes s.journal.events = canonicalEventBytes (events log) := by
  rw [← canonicalEventBytes_reread, h.same, canonicalEventBytes_reread]

/-- Only `close` writes a closure. -/
theorem Wrote.isClosure_eq {call : Call} {event : Event} (w : Wrote sha256 s call event u) :
    Journal.isClosure event = call.closes := by
  rw [Journal.isClosure, item, w.kind, Option.getD_some, eqStr, Bool.eq_iff_iff, decide_eq_true_eq]
  exact call.eq_closure_iff

theorem Holds.wrote {call : Call} {event : Event} (h : Holds sha256 log s) (w : Wrote sha256 s call event u) :
    Holds sha256 (log ++ [(call, event)]) u := by
  have opened : closedBy (events log) = false := by rw [← h.closed, w.opened]
  have open' := not_isClosure_of_not_closedBy h.journaled opened
  have split : events (log ++ [(call, event)]) = events log ++ [event] := by simp
  have kind := w.isClosure_eq
  have closing : closedBy (events (log ++ [(call, event)])) = call.closes := by rw [split, closedBy_concat, kind]
  have grown : u.bytes = s.bytes ++ canonicalEventBytes [event] := by rw [Store.bytes, w.file, Option.getD_some]
  exact {
    journaled := {
      writable := fun e he => by
        rw [split] at he
        rcases List.mem_append.1 he with he | he
        · exact h.journaled.writable e he
        · rw [List.mem_singleton.1 he]
          exact w.writable
      numbered := by
        rw [split]
        refine numbered_concat h.journaled.numbered ?_
        rw [w.seq, h.length_eq, List.length_map, Nat.add_comm]
      last := by rwa [split, List.dropLast_concat] }
    bytes := by rw [split, grown, h.bytes, canonicalEventBytes_append]
    absent := fun hfile => by
      rw [w.file] at hfile
      cases hfile
    same := by rw [split, w.events, List.map_append, h.same, List.map_append]
    closed := by rw [w.closed, closing]
    ids := fun hopen e he eventId hid => by
      rw [closing] at hopen
      rw [w.eventIds hopen, List.mem_append]
      rw [split] at he
      rcases List.mem_append.1 he with he | he
      · exact .inl (h.ids opened e he eventId hid)
      · rw [List.mem_singleton.1 he] at hid
        rw [hid]
        exact .inr (by simp)
    once := by
      rw [List.filterMap_append]
      cases honce : call.onceId with
      | none => simpa [honce] using h.once
      | some eventId =>
        have fresh : eventId ∉ log.filterMap fun entry => entry.1.onceId := by
          intro hmem
          obtain ⟨entry, hentry, heq⟩ := List.mem_filterMap.1 hmem
          have hid := h.onceIds entry hentry eventId heq
          exact (w.once eventId honce).1 (h.ids opened entry.2 (List.mem_map_of_mem hentry) eventId hid)
        have last : [(call, event)].filterMap (fun entry : Entry => entry.1.onceId) = [eventId] := by simp [honce]
        rw [last]
        exact List.nodup_append.2 ⟨h.once, by simp, fun a ha b hb heq => fresh (by
          rwa [← List.mem_singleton.1 hb, ← heq])⟩
    onceIds := fun entry hentry eventId honce => by
      rcases List.mem_append.1 hentry with hentry | hentry
      · exact h.onceIds entry hentry eventId honce
      · rw [List.mem_singleton.1 hentry] at honce ⊢
        exact (w.once eventId honce).2
    prior := fun pre entry post heq hclosure => by
      rcases List.eq_nil_or_concat post with rfl | ⟨post, last, rfl⟩
      · obtain ⟨rfl, hlast⟩ := List.append_inj' heq rfl
        obtain rfl : (call, event) = entry := List.cons.inj hlast |>.1
        rw [w.prior (by rwa [← kind]), h.canonical_eq]
      · rw [List.concat_eq_append, ← List.cons_append, ← List.append_assoc] at heq
        exact h.prior pre entry post (List.append_inj_left' heq rfl) hclosure }

/-- A new worker takes over what the file has. -/
theorem Holds.load_eq (h : Holds sha256 log s) :
    ∃ j, Journal.load s.file = .ok j ∧ j.events.map reread = (events log).map reread ∧
      j.closed = closedBy (events log) ∧
      ∀ e ∈ events log, ∀ eventId, Journal.idOf e = some eventId → eventId ∈ j.eventIds := by
  cases hfile : s.file with
  | none =>
    obtain rfl := h.absent hfile
    exact ⟨.empty, rfl, rfl, rfl, nofun⟩
  | some file =>
    have hbytes : file = canonicalEventBytes (events log) := by
      rw [← h.bytes, Store.bytes, hfile, Option.getD_some]
    refine ⟨reloaded (events log), ?_, ?_, rfl, ?_⟩
    · rw [hbytes]
      exact load_canonicalEventBytes h.journaled
    · rw [reloaded, List.map_map]
      exact List.map_congr_left fun e _ => reread_reread e
    · intro e he eventId hid
      exact List.mem_flatMap.2 ⟨e, he, by rw [hid]; simp⟩

theorem Holds.restart {j : Journal} (h : Holds sha256 log s) (loaded : Journal.load s.file = .ok j) :
    Holds sha256 log { s with journal := j } := by
  obtain ⟨j', hload, same, closed, ids⟩ := h.load_eq
  obtain rfl : j' = j := Except.ok.inj (hload.symm.trans loaded)
  exact { h with same, closed, ids := fun _ => ids }

/-- Whatever is done from a store on, it keeps the journal. -/
theorem Holds.steps {log' : List Entry} {t : Store} (h : Holds sha256 log s) (steps : Steps sha256 s log' t) :
    Holds sha256 (log ++ log') t := by
  induction steps with
  | start => rwa [List.append_nil]
  | wrote _ performed ih =>
    rw [← List.append_assoc]
    exact ih.wrote (perform_wrote performed)
  | restart _ loaded ih => exact ih.restart loaded

theorem holds_run (run : Run sha256 log s) : Holds sha256 log s := holds_start.steps run

/-! ## What the journal promises -/

/-- The verifier reads the events back. -/
theorem Holds.loadJournal_eq (h : Holds sha256 log s) (hne : log ≠ []) :
    loadJournal s.bytes = .ok ((events log).map reread) := by
  rw [h.bytes]
  exact loadJournal_canonicalEventBytes h.journaled.writable h.journaled.numbered (by simpa using hne)

theorem Holds.closure_last (h : Holds sha256 log s) {pre post : List Entry} {entry : Entry}
    (split : log = pre ++ entry :: post) (closure : Journal.isClosure entry.2 = true) : post = [] := by
  rcases List.eq_nil_or_concat post with rfl | ⟨post, last, rfl⟩
  · rfl
  · have hmem : entry.2 ∈ (events log).dropLast := by
      rw [split, List.concat_eq_append, ← List.cons_append, ← List.append_assoc, events, List.map_append,
        List.map_cons, List.map_nil, List.dropLast_concat]
      simp
    rw [h.journaled.last _ hmem] at closure
    cases closure

/-- Events with the same bytes are the same events. -/
theorem reread_eq_of_canonicalEventBytes {es es' : List Event} (h : ∀ e ∈ es, Writable e)
    (h' : ∀ e ∈ es', Writable e) (heq : canonicalEventBytes es = canonicalEventBytes es') :
    es.map reread = es'.map reread := by
  have read {ds : List Event} (hds : ∀ e ∈ ds, Writable e) :
      (do readEvents .deploymentError 1 (← fileLines (canonicalEventBytes ds))) = .ok (ds.map reread) := by
    have lines := fileLines_events hds (nofun : ∀ c ∈ ([] : List Char), isPrintable c = true)
    rw [if_pos rfl, encodeChars, List.flatMap_nil, List.append_nil] at lines
    rw [lines]
    refine bind_eq_ok.2 ⟨_, rfl, ?_⟩
    rw [readEvents_append _ hds]
    simp [readEvents, Except.map]
  exact Except.ok.inj ((read h).symm.trans (heq ▸ read h'))

/-- The hash of the body that the closure records. -/
def recordedHash (closure : Event) : Json := item closure "priorEventsSha256"

structure Sound (sha256 : Bytes → String) (log : List Entry) (s : Store) : Prop where
  /-- The verifier reads the events from the file. -/
  stored : log ≠ [] → loadJournal s.bytes = .ok ((events log).map reread)
  /-- They are numbered from one. -/
  seq : ∀ stored, loadJournal s.bytes = .ok stored →
    stored.map (item · "seq") = (List.range stored.length).map fun i => .int (i + 1 : ℕ)
  /-- No event id is emitted twice, and the events have the ids. -/
  once : (log.filterMap fun entry => entry.1.onceId).Nodup
  onceIds : ∀ entry ∈ log, ∀ eventId, entry.1.onceId = some eventId → Journal.idOf entry.2 = some eventId
  /-- Nothing follows a closure. -/
  closure_last : ∀ pre entry post, log = pre ++ entry :: post → Journal.isClosure entry.2 = true → post = []
  /-- A new worker reads the same events. -/
  reopened : ∃ j, Journal.load s.file = .ok j ∧ j.events.map reread = s.journal.events.map reread
  /-- The closure has the hash that the verifier computes of the events before it. -/
  prior : ∀ body closure, loadJournal s.bytes = .ok (body ++ [closure]) → Journal.isClosure closure = true →
    recordedHash closure = .str (sha256 (canonicalEventBytes body))
  /-- No other body has this hash. -/
  fixes : Function.Injective sha256 → ∀ body closure, loadJournal s.bytes = .ok (body ++ [closure]) →
    Journal.isClosure closure = true → ∀ other, (∀ e ∈ other, Writable e) →
    recordedHash closure = .str (sha256 (canonicalEventBytes other)) → other.map reread = body

theorem Holds.ne_nil (h : Holds sha256 log s) {stored : List Event} (loaded : loadJournal s.bytes = .ok stored) :
    log ≠ [] := by
  rintro rfl
  rw [h.bytes] at loaded
  exact absurd loaded (by nofun)

theorem Holds.seq_eq (h : Holds sha256 log s) {stored : List Event} (loaded : loadJournal s.bytes = .ok stored) :
    stored.map (item · "seq") = (List.range stored.length).map fun i => .int (i + 1 : ℕ) := by
  rw [h.loadJournal_eq (h.ne_nil loaded)] at loaded
  obtain rfl := Except.ok.inj loaded
  refine List.ext_getElem (by simp) fun i hi hi' => ?_
  have hlt : i < (events log).length := by simpa using hi
  have hseq := numbered_get h.journaled.numbered (List.getElem?_eq_getElem hlt)
  rw [List.getElem_map] at hseq
  simp [item, get_reread, hseq, canonical, Nat.add_comm]

/-- What the verifier reads of a closed journal. -/
theorem Holds.body_eq (h : Holds sha256 log s) {body : List Event} {closure : Event}
    (loaded : loadJournal s.bytes = .ok (body ++ [closure])) :
    ∃ pre entry, log = pre ++ [entry] ∧ body = (events pre).map reread ∧ closure = reread entry.2 := by
  have hne := h.ne_nil loaded
  rw [h.loadJournal_eq hne] at loaded
  rcases List.eq_nil_or_concat log with rfl | ⟨pre, entry, rfl⟩
  · exact absurd rfl hne
  · rw [List.concat_eq_append, events, List.map_append, List.map_append] at loaded
    obtain ⟨hbody, hlast⟩ := List.append_inj' (Except.ok.inj loaded) rfl
    exact ⟨pre, entry, List.concat_eq_append, hbody.symm, (List.cons.inj hlast).1.symm⟩

theorem Holds.prior_eq (h : Holds sha256 log s) {body : List Event} {closure : Event}
    (loaded : loadJournal s.bytes = .ok (body ++ [closure])) (hclosure : Journal.isClosure closure = true) :
    recordedHash closure = .str (sha256 (canonicalEventBytes body)) := by
  obtain ⟨pre, entry, rfl, rfl, rfl⟩ := h.body_eq loaded
  rw [isClosure_reread] at hclosure
  rw [recordedHash, item, get_reread, h.prior pre entry [] rfl hclosure, canonicalEventBytes_reread]
  rfl

/-- In every run, whatever the calls are and wherever workers are replaced. -/
theorem journal_sound (run : Run sha256 log s) : Sound sha256 log s := by
  have h := holds_run run
  obtain ⟨j, hload, same, -, -⟩ := h.load_eq
  exact {
    stored := h.loadJournal_eq
    seq := fun stored => h.seq_eq
    once := h.once
    onceIds := h.onceIds
    closure_last := fun pre entry post => h.closure_last
    reopened := ⟨j, hload, by rw [same, h.same]⟩
    prior := fun body closure => h.prior_eq
    fixes := fun injective body closure loaded hclosure other writable heq => by
      have hash := Json.str.inj (heq.symm.trans (h.prior_eq loaded hclosure))
      obtain ⟨pre, entry, rfl, rfl, rfl⟩ := h.body_eq loaded
      have hpre : ∀ e ∈ (events pre).map reread, Writable e := by
        intro e he
        obtain ⟨d, hd, rfl⟩ := List.mem_map.1 he
        refine (h.journaled.writable d ?_).reread
        rw [events, List.map_append]
        exact List.mem_append_left _ hd
      have := reread_eq_of_canonicalEventBytes writable hpre (injective hash)
      rw [this, List.map_map]
      exact List.map_congr_left fun e _ => reread_reread e }

/-! ## A closed journal -/

namespace ClosedJournal

def room : Call := .emitOnce "room-create:room-1" "room-create" (by decide)
  ⟨[("roomId", .str "room-1")], by decide, by decide⟩

def closing : Call := .close ⟨[("durationSeconds", .int 43200)], by decide, by decide⟩

/-- The event of the room. -/
def roomEvent : Event :=
  [("seq", .int 1), ("kind", .str "room-create"), ("eventId", .str "room-create:room-1"), ("roomId", .str "room-1")]

/-- SHA-256 on the body of this journal. -/
def hash : Bytes → String := Sha256.ideal (canonicalEventBytes [roomEvent])

def closureEvent : Event :=
  [("seq", .int 2), ("kind", .str "closure"),
    ("priorEventsSha256", .str (hash (canonicalEventBytes [reread roomEvent]))), ("durationSeconds", .int 43200)]

def opened : Store := ⟨Journal.empty.add roomEvent, some (canonicalEventBytes [roomEvent])⟩

def reopened : Store := ⟨reloaded [roomEvent], some (canonicalEventBytes [roomEvent])⟩

def closed : Store where
  journal := { reopened.journal with events := [reread roomEvent, closureEvent], closed := true }
  file := some (canonicalEventBytes [roomEvent] ++ canonicalEventBytes [closureEvent])

theorem journaled_room : Journaled [roomEvent] where
  writable e he := by
    rw [List.mem_singleton.1 he]
    decide
  numbered := ⟨rfl, trivial⟩
  last := nofun

/-- The worker that emits the room is killed, and the next one closes the journal. -/
theorem run : Run hash [(room, roomEvent), (closing, closureEvent)] closed := by
  have emitted : room.perform hash ⟨.empty, none⟩ = .ok (some roomEvent, opened) := rfl
  have first : Run hash [(room, roomEvent)] opened := .wrote .start emitted
  have second : Run hash [(room, roomEvent)] reopened := .restart first (load_canonicalEventBytes journaled_room)
  have performed : closing.perform hash reopened = .ok (some closureEvent, closed) := rfl
  exact .wrote second performed

theorem loaded : loadJournal closed.bytes = .ok ([reread roomEvent] ++ [reread closureEvent]) :=
  (holds_run run).loadJournal_eq (by simp)

/-- The hash of the closure fixes the room that was emitted. -/
theorem journal_sound_closed : Sound hash [(room, roomEvent), (closing, closureEvent)] closed ∧
    ∀ other, (∀ e ∈ other, Writable e) →
      recordedHash (reread closureEvent) = .str (hash (canonicalEventBytes other)) →
      other.map reread = [reread roomEvent] :=
  ⟨journal_sound run, (journal_sound run).fixes (Sha256.ideal_injective _) _ _ loaded rfl⟩

end ClosedJournal

end Zkdeal.OwnerSoak
