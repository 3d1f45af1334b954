import Zkdeal.Python.JsonLines
import Zkdeal.Python.JsonPrefix

/-!
# Soak journals

The journal of a release soak is a file of JSON lines.  `canonical_event_bytes` writes it, in the driver
and in the verifier alike, and `load_journal` of the verifier reads it.
-/

namespace Zkdeal.Soak

open Python Json

/-- An exception: a `DeploymentError` of the verifier, a `DriverError` of the driver, or one of Python's.
Malformed JSON and malformed UTF-8 raise a `ValueError`. -/
inductive Raised : Type where
  | deploymentError (message : String)
  | driverError (message : String)
  | typeError
  | valueError
  | overflowError
  | keyError
  | attributeError
  deriving DecidableEq

/-- An event of a journal. -/
abbrev Event := Dict

/-- `event.get(key)` -/
def item (event : Event) (key : String) : Json := (event.get key).getD .null

/-- The line of an event, without its end. -/
def eventLine (event : Event) : List Char := encode true true (.obj event)

/-- `canonical_event_bytes(events)` -/
def canonicalEventBytes (events : List Event) : Bytes := encodeChars (unlines (events.map eventLine))

/-- What `json.loads` makes of an event that was written. -/
def reread (event : Event) : Event := Dict.sorted (canonicalFields event)

theorem canonicalEventBytes_append (events events' : List Event) :
    canonicalEventBytes (events ++ events') = canonicalEventBytes events ++ canonicalEventBytes events' := by
  rw [canonicalEventBytes, List.map_append, unlines_append, encodeChars_append]
  rfl

/-! ## Reading -/

/-- The events of numbered lines; blank lines are skipped. -/
def readEvents (refuse : String → Raised) : ℕ → List String → Except Raised (List Event)
  | _, [] => .ok []
  | n, line :: lines =>
    if strip line = "" then readEvents refuse (n + 1) lines
    else
      match loads line with
      | none => .error .valueError
      | some (.obj event) => do return event :: (← readEvents refuse (n + 1) lines)
      | some _ => .error (refuse ("journal line " ++ toString n ++ " is not an object"))

/-- The events are numbered from `n` on. -/
def checkSequence (refuse : String → Raised) : ℕ → List Event → Except Raised Unit
  | _, [] => .ok ()
  | n, event :: events =>
    if (item event "seq").eq (.int n) then checkSequence refuse (n + 1) events
    else .error (refuse ("journal sequence is not contiguous at event " ++ toString n))

/-- `path.read_text(encoding="utf-8").splitlines()` -/
def fileLines (file : Bytes) : Except Raised (List String) :=
  match readText file with
  | some text => .ok (splitlines text)
  | none => .error .valueError

/-- `load_journal(path)` -/
def loadJournal (file : Bytes) : Except Raised (List Event) := do
  let events ← readEvents .deploymentError 1 (← fileLines file)
  if events.isEmpty then .error (.deploymentError "soak journal is empty")
  checkSequence .deploymentError 1 events
  return events

/-! ## Written events -/

/-- The event can be written, and is read back the same but for the order of its members. -/
def Writable (event : Event) : Prop := plain (.obj event) = true

instance (event : Event) : Decidable (Writable event) := inferInstanceAs (Decidable (_ = _))

theorem reread_canonical (event : Event) : canonical (.obj event) = .obj (reread event) := rfl

theorem get_canonicalFields (fields : List (String × Json)) (key : String) :
    Dict.get (canonicalFields fields) key = (Dict.get fields key).map canonical := by
  induction fields with
  | nil => rfl
  | cons kv fields ih =>
    unfold Dict.get at ih ⊢
    rw [canonicalFields, List.lookup_cons, List.lookup_cons, ih]
    cases key == kv.1 <;> rfl

theorem get_reread (event : Event) (key : String) : (reread event).get key = (event.get key).map canonical := by
  rw [reread, Dict.get_sorted, get_canonicalFields]

theorem reread_reread (event : Event) : reread (reread event) = reread event :=
  Json.obj.inj (canonical_canonical (.obj event))

theorem Writable.get {event : Event} {key : String} {v : Json} (h : Writable event) (hv : event.get key = some v) :
    plain v = true := by
  obtain ⟨pre, post, rfl, -⟩ := List.lookup_eq_some_iff.1 hv
  exact (plain_obj_iff.1 h).2 (key, v) (by simp)

theorem Writable.reread {event : Event} (h : Writable event) : Writable (reread event) := plain_canonical _ h

/-- Reading an event and writing it again gives the same line. -/
theorem eventLine_reread (event : Event) : eventLine (reread event) = eventLine event := by
  rw [eventLine, encode_canonical, reread_canonical, reread_reread, ← reread_canonical, ← encode_canonical]
  rfl

theorem canonicalEventBytes_reread (events : List Event) :
    canonicalEventBytes (events.map reread) = canonicalEventBytes events := by
  rw [canonicalEventBytes, List.map_map]
  congr 2
  exact List.map_congr_left fun event _ => eventLine_reread event

theorem isPrintable_eventLine {event : Event} (h : Writable event) : ∀ c ∈ eventLine event, isPrintable c = true := by
  have hplain := plain_canonical _ h
  rw [plain, Bool.and_eq_true] at hplain
  rw [eventLine, encode_canonical]
  exact printable_encode _ hplain.1

theorem eventLine_start (event : Event) : ∃ tail, eventLine event = '{' :: tail := ⟨_, rfl⟩

theorem loads_eventLine {event : Event} (h : Writable event) :
    loads (.ofList (eventLine event)) = some (.obj (reread event)) := loads_dumps true h

theorem strip_ne_of_start {line tail : List Char} (h : line = '{' :: tail) : strip (.ofList line) ≠ "" := by
  rw [h]
  exact strip_ne_empty (c := '{') (by simp) (by decide)

/-- The events that were written are read, and then what follows them. -/
theorem readEvents_append (refuse : String → Raised) {events : List Event} (h : ∀ e ∈ events, Writable e) (n : ℕ)
    (lines : List String) : readEvents refuse n (events.map (fun e => .ofList (eventLine e)) ++ lines) =
      (readEvents refuse (n + events.length) lines).map (events.map reread ++ ·) := by
  induction events generalizing n with
  | nil => cases hr : readEvents refuse n lines <;> simp [hr, Except.map]
  | cons e events ih =>
    obtain ⟨tail, hstart⟩ := eventLine_start e
    rw [List.map_cons, List.cons_append, readEvents, if_neg (strip_ne_of_start hstart), loads_eventLine (h e (by simp))]
    dsimp only
    rw [ih (fun d hd => h d (by simp [hd])), List.length_cons, show n + 1 + events.length = n + (events.length + 1) by omega]
    cases readEvents refuse (n + (events.length + 1)) lines <;> rfl

theorem isLines_events {events : List Event} (h : ∀ e ∈ events, Writable e) : IsLines (events.map eventLine) := by
  intro line hline
  obtain ⟨e, he, rfl⟩ := List.mem_map.1 hline
  exact isPrintable_eventLine (h e he)

/-- The lines of a file, and of the start of another line. -/
theorem fileLines_unlines {lines : List (List Char)} (h : IsLines lines) {torn : List Char}
    (ht : ∀ c ∈ torn, isPrintable c = true) : fileLines (encodeChars (unlines lines ++ torn)) =
      .ok (lines.map String.ofList ++ if torn = [] then [] else [.ofList torn]) := by
  have keep : universalNewlines (unlines lines ++ torn) = unlines lines ++ torn := by
    refine universalNewlines_of_forall fun c hc => ?_
    rcases List.mem_append.1 hc with hc | hc
    · obtain ⟨line, hline, hc⟩ := List.mem_flatMap.1 hc
      rcases List.mem_append.1 hc with hc | hc
      · exact ne_return_of_isPrintable (h line hline c hc)
      · rw [List.mem_singleton.1 hc]
        decide
    · exact ne_return_of_isPrintable (ht c hc)
  rw [fileLines, readText, decodeChars_encodeChars, Option.map_some, keep]
  dsimp only
  rw [splitlines, String.toList_ofList, splitlinesAux_unlines h]
  by_cases hnil : torn = []
  · rw [if_pos hnil, hnil]
    rfl
  · rw [if_neg hnil, splitlinesAux_last ht hnil]

/-- The lines of a file of events, and of the start of another line. -/
theorem fileLines_events {events : List Event} (h : ∀ e ∈ events, Writable e) {torn : List Char}
    (ht : ∀ c ∈ torn, isPrintable c = true) :
    fileLines (canonicalEventBytes events ++ encodeChars torn) =
      .ok (events.map (fun e => .ofList (eventLine e)) ++ if torn = [] then [] else [.ofList torn]) := by
  rw [canonicalEventBytes, ← encodeChars_append, fileLines_unlines (isLines_events h) ht, List.map_map]
  rfl

/-- The events are numbered from `n` on. -/
def Numbered (n : ℕ) : List Event → Prop
  | [] => True
  | event :: events => event.get "seq" = some (.int n) ∧ Numbered (n + 1) events

theorem numbered_concat {n : ℕ} {es : List Event} {e : Event} (h : Numbered n es)
    (he : e.get "seq" = some (.int (n + es.length : ℕ))) : Numbered n (es ++ [e]) := by
  induction es generalizing n with
  | nil => exact ⟨he, trivial⟩
  | cons d es ih =>
    refine ⟨h.1, ih h.2 ?_⟩
    rw [he, List.length_cons, show n + (es.length + 1) = n + 1 + es.length by omega]

theorem numbered_get {n : ℕ} {es : List Event} (h : Numbered n es) {i : ℕ} {e : Event} (he : es[i]? = some e) :
    e.get "seq" = some (.int (n + i : ℕ)) := by
  induction es generalizing n i with
  | nil => simp at he
  | cons d es ih =>
    cases i with
    | zero =>
      obtain rfl : d = e := by simpa using he
      exact h.1
    | succ i =>
      rw [ih h.2 (by simpa using he), show n + 1 + i = n + (i + 1) by omega]

theorem checkSequence_reread {refuse : String → Raised} {events : List Event} {n : ℕ} (h : Numbered n events) :
    checkSequence refuse n (events.map reread) = .ok () := by
  induction events generalizing n with
  | nil => rfl
  | cons e events ih =>
    have hseq : item (reread e) "seq" = .int n := by
      rw [item, get_reread, h.1]
      rfl
    have heq : (Json.int n).eq (.int n) = true := by simp [Json.eq, Json.number]
    rw [List.map_cons, checkSequence, hseq, if_pos heq, ih h.2]

/-- `load_journal` reads back the events that were written. -/
theorem loadJournal_canonicalEventBytes {events : List Event} (writable : ∀ e ∈ events, Writable e)
    (numbered : Numbered 1 events) (hne : events ≠ []) :
    loadJournal (canonicalEventBytes events) = .ok (events.map reread) := by
  have lines := fileLines_events writable (nofun : ∀ c ∈ ([] : List Char), isPrintable c = true)
  rw [if_pos rfl, encodeChars, List.flatMap_nil, List.append_nil] at lines
  have hread := readEvents_append .deploymentError writable 1 []
  have hne' : (events.map reread).isEmpty = false := by simpa using hne
  rw [loadJournal, lines]
  simp only [bind, Except.bind]
  rw [hread]
  simp [readEvents, Except.map, hne, checkSequence_reread numbered, pure, Except.pure]

end Zkdeal.Soak
