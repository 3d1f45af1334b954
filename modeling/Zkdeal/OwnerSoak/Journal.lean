import Zkdeal.Soak.Events

/-!
# The journal of the owner soak driver

`Journal` keeps the events of a run in memory and in a file of JSON lines, which it only appends to.  A
worker that is killed loses the memory, and the next one reads it back from the file.
-/

namespace Zkdeal.OwnerSoak

open Python Json Soak

/-- The memory of a `Journal`. -/
structure Journal where
  events : List Event
  eventIds : List String
  closed : Bool

namespace Journal

def empty : Journal := ⟨[], [], false⟩

/-- `value.get("eventId")`, if it is a text -/
def idOf (event : Event) : Option String :=
  match event.get "eventId" with
  | some (.str eventId) => some eventId
  | _ => none

/-- `value.get("kind") == "closure"` -/
def isClosure (event : Event) : Bool := eqStr "closure" (item event "kind")

/-- An event that was read, or appended. -/
def add (j : Journal) (event : Event) : Journal where
  events := j.events ++ [event]
  eventIds := j.eventIds ++ (idOf event).toList
  closed := j.closed

/-- The loop of `Journal.__init__` over the numbered lines of the file. -/
def restore : ℕ → Journal → List String → Except Raised Journal
  | _, j, [] => .ok j
  | n, j, line :: lines =>
    if strip line = "" then restore (n + 1) j lines
    else
      match loads line with
      | none => .error .valueError
      | some (.obj event) =>
        if j.closed then .error (.driverError "journal contains events after its closure")
        else restore (n + 1) { j.add event with closed := isClosure event } lines
      | some _ => .error (.driverError ("journal line " ++ toString n ++ " is not an object"))

/-- `Journal(path)`, for a regular file or none -/
def load : Option Bytes → Except Raised Journal
  | none => .ok empty
  | some file => do
    let j ← restore 1 empty (← fileLines file)
    checkSequence .driverError 1 j.events
    return j

end Journal

/-- A worker's journal and the file under it. -/
structure Store where
  journal : Journal
  file : Option Bytes

/-- `{**d, **fields}` -/
def extend (d fields : Dict) : Dict := fields.foldl (fun d kv => d.set kv.1 kv.2) d

namespace Store

/-- The bytes of the file. -/
def bytes (s : Store) : Bytes := s.file.getD []

/-- `canonical_event_bytes(event)`; Python prints no integer of more than 4300 digits. -/
def payload (event : Event) : Except Raised Bytes :=
  if printable (.obj event) then .ok (canonicalEventBytes [event]) else .error .valueError

/-- `{"seq": len(self.events) + 1, "kind": kind, **fields}` -/
def newEvent (s : Store) (kind : String) (fields : Dict) : Event :=
  extend [("seq", .int (s.journal.events.length + 1 : ℕ)), ("kind", .str kind)] fields

/-- `journal.append(kind, fields)` -/
def append (s : Store) (kind : String) (fields : Dict) : Except Raised (Event × Store) := do
  if s.journal.closed then
    .error (.driverError "journal closure already written; the journal is append-only and closed")
  let event := s.newEvent kind fields
  let line ← payload event
  return (event, { journal := s.journal.add event, file := some (s.bytes ++ line) })

/-- `journal.emit_once(event_id, kind, **fields)` -/
def emitOnce (s : Store) (eventId kind : String) (fields : Dict) : Except Raised (Option Event × Store) :=
  if eventId ∈ s.journal.eventIds then .ok (none, s)
  else do
    let (event, s') ← s.append kind (extend [("eventId", .str eventId)] fields)
    return (some event, s')

/-- `journal.close(fields)` -/
def close (sha256 : Bytes → String) (s : Store) (fields : Dict) : Except Raised (Event × Store) := do
  if s.journal.closed then .error (.driverError "journal closure already written")
  let prior := sha256 (canonicalEventBytes s.journal.events)
  let event := s.newEvent "closure" (extend [("priorEventsSha256", .str prior)] fields)
  let line ← payload event
  return (event, {
    journal := { s.journal with events := s.journal.events ++ [event], closed := true }
    file := some (s.bytes ++ line) })

end Store

/-! ## Calls -/

/-- What callers pass on: no floats, each key once, and none of the keys that the journal sets itself.
Every call in the driver names its keys. -/
structure Fields (reserved : List String) where
  items : Dict
  simple : Json.simple (.obj items) = true
  fresh : ∀ key ∈ reserved, key ∉ items.map Prod.fst

/-- A call that may write an event.  The kinds are literals of the driver, and none is `closure`. -/
inductive Call : Type where
  | append (kind : String) (open' : kind ≠ "closure") (fields : Fields ["seq", "kind"])
  | emitOnce (eventId kind : String) (open' : kind ≠ "closure") (fields : Fields ["seq", "kind", "eventId"])
  | close (fields : Fields ["seq", "kind", "priorEventsSha256"])

/-- The event that the call wrote, if it wrote one, and the store after it. -/
def Call.perform (sha256 : Bytes → String) (s : Store) : Call → Except Raised (Option Event × Store)
  | .append kind _ fields => (s.append kind fields.items).map fun r => (some r.1, r.2)
  | .emitOnce eventId kind _ fields => s.emitOnce eventId kind fields.items
  | .close fields => (s.close sha256 fields.items).map fun r => (some r.1, r.2)

/-- An event with the call that wrote it. -/
abbrev Entry := Call × Event

/-- The events of the entries. -/
abbrev events (log : List Entry) : List Event := log.map Prod.snd

/-- What calls and restarts make of a store, with the events they wrote.  A call that raises, or that finds
its event already there, changes nothing. -/
inductive Steps (sha256 : Bytes → String) (s : Store) : List Entry → Store → Prop where
  | start : Steps sha256 s [] s
  | wrote {log : List Entry} {t u : Store} {call : Call} {event : Event} (earlier : Steps sha256 s log t)
      (performed : call.perform sha256 t = .ok (some event, u)) : Steps sha256 s (log ++ [(call, event)]) u
  | restart {log : List Entry} {t : Store} {j : Journal} (earlier : Steps sha256 s log t)
      (loaded : Journal.load t.file = .ok j) : Steps sha256 s log { t with journal := j }

/-- The runs of workers on one journal, from no file on. -/
abbrev Run (sha256 : Bytes → String) : List Entry → Store → Prop := Steps sha256 ⟨.empty, none⟩

namespace Call

def eventKind : Call → String
  | append kind _ _ | emitOnce _ kind _ _ => kind
  | close _ => "closure"

def closes : Call → Bool
  | close _ => true
  | _ => false

/-- The fields that the caller passes on. -/
def items : Call → Dict
  | append _ _ fields | emitOnce _ _ _ fields | close fields => fields.items

/-- The event id of an `emit_once`. -/
def onceId : Call → Option String
  | emitOnce eventId _ _ _ => some eventId
  | _ => none

theorem eq_closure_iff (call : Call) : call.eventKind = "closure" ↔ call.closes = true := by
  cases call with
  | append kind h fields => simp [eventKind, closes, h]
  | emitOnce eventId kind h fields => simp [eventKind, closes, h]
  | close fields => simp [eventKind, closes]

end Call

/-! ## One call -/

theorem extend_eq {d fields : Dict} (h : ((d ++ fields).map Prod.fst).Nodup) : extend d fields = d ++ fields :=
  foldl_set_nodup fields d h

theorem Fields.nodup {reserved : List String} (fields : Fields reserved) : (fields.items.map Prod.fst).Nodup := by
  have h := fields.simple
  rw [Json.simple, Bool.and_eq_true, decide_eq_true_eq] at h
  exact h.1

theorem Fields.simpleFields {reserved : List String} (fields : Fields reserved) :
    Json.simpleFields fields.items = true := by
  have h := fields.simple
  rw [Json.simple, Bool.and_eq_true] at h
  exact h.2

theorem Fields.keys_nodup {reserved : List String} (fields : Fields reserved) (h : reserved.Nodup) :
    (reserved ++ fields.items.map Prod.fst).Nodup := by
  rw [List.nodup_append]
  refine ⟨h, fields.nodup, fun key hkey key' hkey' heq => ?_⟩
  rw [heq] at hkey
  exact fields.fresh key' hkey hkey'

theorem payload_eq_ok {event : Event} {line : Bytes} :
    Store.payload event = .ok line ↔ printable (.obj event) = true ∧ line = canonicalEventBytes [event] := by
  unfold Store.payload
  split
  · rename_i h
    simp [h, eq_comm]
  · rename_i h
    simp [h]

/-- What a call that wrote an event did. -/
structure Wrote (sha256 : Bytes → String) (s : Store) (call : Call) (event : Event) (u : Store) : Prop where
  opened : s.journal.closed = false
  writable : Writable event
  seq : event.get "seq" = some (.int (s.journal.events.length + 1 : ℕ))
  kind : event.get "kind" = some (.str call.eventKind)
  items : ∀ kv ∈ call.items, event.get kv.1 = some kv.2
  file : u.file = some (s.bytes ++ canonicalEventBytes [event])
  events : u.journal.events = s.journal.events ++ [event]
  closed : u.journal.closed = call.closes
  eventIds : call.closes = false → u.journal.eventIds = s.journal.eventIds ++ (Journal.idOf event).toList
  once : ∀ eventId, call.onceId = some eventId → eventId ∉ s.journal.eventIds ∧ Journal.idOf event = some eventId
  prior : call.closes = true →
    event.get "priorEventsSha256" = some (.str (sha256 (canonicalEventBytes s.journal.events)))

/-- With each key once, every field is found under its key. -/
theorem get_of_mem {d : Dict} (h : (d.map Prod.fst).Nodup) {kv : String × Json} (hkv : kv ∈ d) : d.get kv.1 = some kv.2 := by
  induction d with
  | nil => cases hkv
  | cons e d ih =>
    rw [List.map_cons, List.nodup_cons] at h
    rw [Dict.get, List.lookup_cons]
    rcases List.mem_cons.1 hkv with rfl | hkv
    · rw [beq_self_eq_true]
    · have other : kv.1 ≠ e.1 := fun same => h.1 (same ▸ List.mem_map_of_mem hkv)
      rw [beq_eq_false_iff_ne.2 other]
      exact ih h.2 hkv

theorem newEvent_eq {s : Store} {kind : String} {fields : Dict}
    (h : ("seq" :: "kind" :: fields.map Prod.fst).Nodup) :
    s.newEvent kind fields = ("seq", .int (s.journal.events.length + 1 : ℕ)) :: ("kind", .str kind) :: fields :=
  extend_eq h

theorem simple_newEvent {s : Store} {kind : String} {fields : Dict}
    (h : ("seq" :: "kind" :: fields.map Prod.fst).Nodup) (simple : simpleFields fields = true) :
    Json.simple (.obj (s.newEvent kind fields)) = true := by
  rw [newEvent_eq h, Json.simple, Bool.and_eq_true, decide_eq_true_eq]
  exact ⟨h, simple⟩

/-- `append` writes one event, if the journal is open. -/
theorem append_eq_ok {s u : Store} {kind : String} {fields : Dict} {event : Event}
    (h : s.append kind fields = .ok (event, u)) :
    s.journal.closed = false ∧ event = s.newEvent kind fields ∧ printable (.obj event) = true ∧
      u = { journal := s.journal.add event, file := some (s.bytes ++ canonicalEventBytes [event]) } := by
  unfold Store.append at h
  cases hclosed : s.journal.closed with
  | true =>
    rw [hclosed] at h
    cases h
  | false =>
    rw [hclosed] at h
    obtain ⟨line, hline, h⟩ := bind_eq_ok.1 h
    obtain ⟨hprint, rfl⟩ := payload_eq_ok.1 hline
    cases h
    exact ⟨rfl, rfl, hprint, rfl⟩

theorem close_eq_ok {sha256 : Bytes → String} {s u : Store} {fields : Dict} {event : Event}
    (h : s.close sha256 fields = .ok (event, u)) :
    s.journal.closed = false ∧ event = s.newEvent "closure"
        (extend [("priorEventsSha256", .str (sha256 (canonicalEventBytes s.journal.events)))] fields) ∧
      printable (.obj event) = true ∧
      u = { journal := { s.journal with events := s.journal.events ++ [event], closed := true }
            file := some (s.bytes ++ canonicalEventBytes [event]) } := by
  unfold Store.close at h
  cases hclosed : s.journal.closed with
  | true =>
    rw [hclosed] at h
    cases h
  | false =>
    rw [hclosed] at h
    obtain ⟨line, hline, h⟩ := bind_eq_ok.1 h
    obtain ⟨hprint, rfl⟩ := payload_eq_ok.1 hline
    cases h
    exact ⟨rfl, rfl, hprint, rfl⟩

theorem writable_of_printable {event : Event} (simple : Json.simple (.obj event) = true)
    (printable : printable (.obj event) = true) : Writable event := by
  rw [Writable, plain, simple, printable]
  rfl

/-- An `append` of fields with fresh keys. -/
theorem append_wrote {s u : Store} {kind : String} {fields : Dict} {event : Event}
    (fresh : ("seq" :: "kind" :: fields.map Prod.fst).Nodup) (simple : simpleFields fields = true)
    (h : s.append kind fields = .ok (event, u)) :
    s.journal.closed = false ∧ Writable event ∧
      event = ("seq", .int (s.journal.events.length + 1 : ℕ)) :: ("kind", .str kind) :: fields ∧
      u = { journal := s.journal.add event, file := some (s.bytes ++ canonicalEventBytes [event]) } := by
  obtain ⟨opened, rfl, print, rfl⟩ := append_eq_ok h
  exact ⟨opened, writable_of_printable (simple_newEvent fresh simple) print, newEvent_eq fresh, rfl⟩

theorem perform_wrote {sha256 : Bytes → String} {s u : Store} {call : Call} {event : Event}
    (h : call.perform sha256 s = .ok (some event, u)) : Wrote sha256 s call event u := by
  cases call with
  | append kind open' fields =>
    obtain ⟨⟨event', u'⟩, happend, heq⟩ := map_eq_ok.1 h
    cases heq
    obtain ⟨opened, writable, heq, rfl⟩ := append_wrote (fields.keys_nodup (by decide)) fields.simpleFields happend
    exact {
      opened, writable
      seq := by rw [heq]; rfl
      kind := by rw [heq]; rfl
      items := fun kv hkv => by
        rw [heq]
        refine get_of_mem ?_ (.tail _ (.tail _ hkv))
        exact fields.keys_nodup (by decide)
      file := rfl
      events := rfl
      closed := opened
      eventIds := fun _ => rfl
      once := nofun
      prior := nofun }
  | emitOnce eventId kind open' fields =>
    change s.emitOnce eventId kind fields.items = .ok (some event, u) at h
    unfold Store.emitOnce at h
    by_cases hid : eventId ∈ s.journal.eventIds
    · rw [if_pos hid] at h
      cases h
    rw [if_neg hid] at h
    obtain ⟨⟨event', u'⟩, happend, heq⟩ := bind_eq_ok.1 h
    cases heq
    have keys : ("seq" :: "kind" :: (("eventId", Json.str eventId) :: fields.items).map Prod.fst).Nodup :=
      fields.keys_nodup (by decide)
    have inner : extend [("eventId", .str eventId)] fields.items = ("eventId", .str eventId) :: fields.items :=
      extend_eq keys.of_cons.of_cons
    rw [inner] at happend
    obtain ⟨opened, writable, heq, rfl⟩ := append_wrote keys fields.simpleFields happend
    exact {
      opened, writable
      seq := by rw [heq]; rfl
      kind := by rw [heq]; rfl
      items := fun kv hkv => by
        rw [heq]
        refine get_of_mem ?_ (.tail _ (.tail _ (.tail _ hkv)))
        exact keys
      file := rfl
      events := rfl
      closed := opened
      eventIds := fun _ => rfl
      once := fun eventId' honce => by
        cases Option.some.inj honce
        exact ⟨hid, by rw [heq]; rfl⟩
      prior := nofun }
  | close fields =>
    obtain ⟨⟨event', u'⟩, hclose, heq⟩ := map_eq_ok.1 h
    cases heq
    obtain ⟨opened, heq, print, rfl⟩ := close_eq_ok hclose
    generalize hprior : sha256 (canonicalEventBytes s.journal.events) = prior at heq
    have keys : ("seq" :: "kind" :: (("priorEventsSha256", Json.str prior) :: fields.items).map Prod.fst).Nodup :=
      fields.keys_nodup (by decide)
    have inner : extend [("priorEventsSha256", .str prior)] fields.items =
        ("priorEventsSha256", .str prior) :: fields.items := extend_eq keys.of_cons.of_cons
    rw [inner] at heq
    have simple : Json.simple (.obj event') = true := by
      rw [heq]
      exact simple_newEvent keys fields.simpleFields
    rw [newEvent_eq keys] at heq
    exact {
      opened
      writable := writable_of_printable simple print
      seq := by rw [heq]; rfl
      kind := by rw [heq]; rfl
      items := fun kv hkv => by
        rw [heq]
        refine get_of_mem ?_ (.tail _ (.tail _ (.tail _ hkv)))
        exact keys
      file := rfl
      events := rfl
      closed := rfl
      eventIds := nofun
      once := nofun
      prior := fun _ => by rw [heq, hprior]; rfl }

end Zkdeal.OwnerSoak
