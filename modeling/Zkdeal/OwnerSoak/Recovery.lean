import Zkdeal.OwnerSoak.JournalRuns

/-!
# Crashes inside a line

A worker may die when only some bytes of a line have reached the file.  Then no later worker can open the
journal, except when only the end of the line is missing, and then the next line spoils it
(`recovers_iff`).
-/

namespace Zkdeal.OwnerSoak

open Python Json Soak

variable {sha256 : Bytes → String} {log : List Entry} {s u : Store} {call : Call} {event : Event} {k : ℕ}

/-- The file when only `k` bytes of the line of an event have reached it. -/
def torn (s : Store) (event : Event) (k : ℕ) : Bytes := s.bytes ++ (canonicalEventBytes [event]).take k

/-- A new worker opens the file, finds the earlier events with or without the interrupted one, and whatever
is appended then, the verifier reads what the workers have. -/
def Recovers (sha256 : Bytes → String) (log : List Entry) (s : Store) (event : Event) (k : ℕ) : Prop :=
  ∃ j, Journal.load (some (torn s event k)) = .ok j ∧
    (j.events.map reread = (events log).map reread ∨ j.events.map reread = (events log ++ [event]).map reread) ∧
    ∀ more t, Steps sha256 ⟨j, some (torn s event k)⟩ more t → more ≠ [] →
      loadJournal t.bytes = .ok (t.journal.events.map reread)

/-! ## Whole lines -/

/-- From a journal that holds its events everything goes well. -/
theorem Holds.recovers {s' : Store} {log' : List Entry} (h : Holds sha256 log' s')
    (file : s'.file = some (torn s event k))
    (old : (events log').map reread = (events log).map reread ∨ events log' = events log ++ [event]) :
    Recovers sha256 log s event k := by
  obtain ⟨j, hload, same, -, -⟩ := h.load_eq
  have restarted := h.restart hload
  refine ⟨j, by rw [← file, hload], ?_, fun more t steps hne => ?_⟩
  · rw [same]
    exact old.imp_right fun heq => by rw [heq]
  · have steps' : Steps sha256 { s' with journal := j } more t := by rwa [file]
    have after := restarted.steps steps'
    rw [after.loadJournal_eq (by simp [hne]), after.same]

/-! ## Torn lines -/

theorem canonicalEventBytes_singleton (event : Event) :
    canonicalEventBytes [event] = encodeChars (eventLine event ++ ['\n']) := by
  rw [canonicalEventBytes, List.map_singleton, unlines_cons, unlines_nil]

theorem ascii_line (h : Writable event) : ∀ c ∈ eventLine event ++ ['\n'], c.toNat < 0x80 := by
  intro c hc
  rcases List.mem_append.1 hc with hc | hc
  · have := isPrintable_eventLine h c hc
    simp only [isPrintable, Bool.and_eq_true, decide_eq_true_eq] at this
    omega
  · rw [List.mem_singleton.1 hc]
    decide

theorem length_canonicalEventBytes_singleton (h : Writable event) :
    (canonicalEventBytes [event]).length = (eventLine event).length + 1 := by
  rw [canonicalEventBytes_singleton, length_encodeChars (ascii_line h), List.length_append]
  rfl

/-- The file has the earlier lines, and the start of the torn one. -/
theorem torn_eq (h : Holds sha256 log s) (writable : Writable event) (hk : k ≤ (eventLine event).length) :
    torn s event k = canonicalEventBytes (events log) ++ encodeChars ((eventLine event).take k) := by
  rw [torn, h.bytes, canonicalEventBytes_singleton, take_encodeChars (ascii_line writable),
    List.take_append_of_le_length hk]

/-- A line that lacks its last characters cannot be read. -/
theorem not_load_torn (h : Holds sha256 log s) (opened : closedBy (events log) = false) (writable : Writable event)
    (pos : 0 < k) (hk : k < (eventLine event).length) (j : Journal) :
    Journal.load (some (torn s event k)) ≠ .ok j := by
  have printable : ∀ c ∈ (eventLine event).take k, isPrintable c = true := fun c hc =>
    isPrintable_eventLine writable c (List.mem_of_mem_take hc)
  have hne : (eventLine event).take k ≠ [] := by
    rw [Ne, List.take_eq_nil_iff]
    rintro (h | h)
    · omega
    · rw [h] at hk
      exact absurd hk (Nat.not_lt_zero _)
  have lines := fileLines_events h.journaled.writable printable
  rw [if_neg hne, ← torn_eq h writable hk.le] at lines
  have cut : loads (.ofList ((eventLine event).take k)) = none := loads_take true writable hk
  have unread : Journal.restore 1 .empty (((events log).map fun e => .ofList (eventLine e)) ++
      [.ofList ((eventLine event).take k)]) = .error .valueError := by
    rw [restore_append h.journaled.writable (not_isClosure_of_not_closedBy h.journaled opened) 1 .empty rfl,
      Journal.restore, if_neg, cut]
    obtain ⟨tail, hstart⟩ := eventLine_start event
    obtain ⟨k, rfl⟩ := Nat.exists_eq_add_of_le' pos
    rw [hstart, List.take_succ_cons]
    exact strip_ne_of_start rfl
  rw [Journal.load, lines]
  intro hload
  obtain ⟨_, hlines, hload⟩ := bind_eq_ok.1 hload
  cases hlines
  obtain ⟨_, hrestore, -⟩ := bind_eq_ok.1 hload
  rw [unread] at hrestore
  cases hrestore

/-! ## Lines without their end -/

/-- The interrupted event is read if only the end of its line is missing. -/
theorem load_whole_line {es : List Event} (h : Journaled (es ++ [event])) :
    Journal.load (some (canonicalEventBytes es ++ encodeChars (eventLine event))) =
      .ok (reloaded (es ++ [event])) := by
  have writable := h.writable event (by simp)
  have lines := fileLines_events (fun e he => h.writable e (List.mem_append_left _ he)) (isPrintable_eventLine writable)
  obtain ⟨tail, hstart⟩ := eventLine_start event
  have hne : eventLine event ≠ [] := by simp [hstart]
  have joined : (es.map fun e => String.ofList (eventLine e)) ++ [.ofList (eventLine event)] =
      (es ++ [event]).map fun e => .ofList (eventLine e) := by simp
  rw [if_neg hne, joined] at lines
  rw [Journal.load, lines]
  refine bind_eq_ok.2 ⟨_, rfl, bind_eq_ok.2 ⟨_, restore_events h, ?_⟩⟩
  exact bind_eq_ok.2 ⟨(), checkSequence_reread h.numbered, rfl⟩

/-- Two objects on one line cannot be read. -/
theorem loads_two_lines {d e : Event} (hd : Writable d) : loads (.ofList (eventLine d ++ eventLine e)) = none := by
  obtain ⟨tail, hstart⟩ := eventLine_start e
  refine loads_append true hd ?_ ?_
  · intro c hc
    rw [hstart] at hc
    cases Option.some.inj hc
    decide
  · rw [hstart, skipSpace_start tail (by decide)]
    simp

/-- An event that is appended to a line without its end spoils the file. -/
theorem not_loadJournal_joined {es : List Event} {d e : Event} (hes : ∀ e ∈ es, Writable e) (hd : Writable d)
    (he : Writable e) (stored : List Event) :
    loadJournal (canonicalEventBytes es ++ encodeChars (eventLine d) ++ canonicalEventBytes [e]) ≠ .ok stored := by
  have bytes : canonicalEventBytes es ++ encodeChars (eventLine d) ++ canonicalEventBytes [e] =
      encodeChars (unlines (es.map eventLine ++ [eventLine d ++ eventLine e])) := by
    rw [canonicalEventBytes_singleton, canonicalEventBytes, ← encodeChars_append, ← encodeChars_append,
      unlines_append, unlines_cons, unlines_nil]
    simp
  have printable : IsLines (es.map eventLine ++ [eventLine d ++ eventLine e]) := by
    intro line hline c hc
    rcases List.mem_append.1 hline with hline | hline
    · exact isLines_events hes line hline c hc
    · rw [List.mem_singleton.1 hline] at hc
      exact (List.mem_append.1 hc).elim (isPrintable_eventLine hd c) (isPrintable_eventLine he c)
  have lines := fileLines_unlines printable (List.forall_mem_nil (isPrintable · = true))
  rw [List.append_nil, ← bytes, if_pos rfl, List.append_nil, List.map_append, List.map_map] at lines
  have unread : readEvents .deploymentError 1 (es.map (fun e => .ofList (eventLine e)) ++
      [.ofList (eventLine d ++ eventLine e)]) = .error .valueError := by
    obtain ⟨tail, hstart⟩ := eventLine_start d
    rw [readEvents_append _ hes, readEvents, if_neg (strip_ne_of_start (by rw [hstart]; rfl)), loads_two_lines hd]
    rfl
  rw [loadJournal, lines]
  intro hload
  obtain ⟨_, hlines, hload⟩ := bind_eq_ok.1 hload
  cases hlines
  obtain ⟨_, hread, -⟩ := bind_eq_ok.1 hload
  exact absurd (unread.symm.trans hread) (by simp)

/-- Python can print the number of the next event. -/
def NextPrintable (s : Store) : Prop := printable (.int (s.journal.events.length + 1 : ℕ)) = true

def resume : Call := .append "resume" (by decide) ⟨[], by decide, by decide⟩

def resumeEvent (s : Store) : Event := [("seq", .int (s.journal.events.length + 1 : ℕ)), ("kind", .str "resume")]

theorem perform_resume (opened : s.journal.closed = false) (next : NextPrintable s) :
    ∃ u, resume.perform sha256 s = .ok (some (resumeEvent s), u) ∧
      u.file = some (s.bytes ++ canonicalEventBytes [resumeEvent s]) := by
  have print : printable (.obj (resumeEvent s)) = true := by
    rw [resumeEvent, printable, printableFields, printableFields, printableFields, next]
    rfl
  refine ⟨⟨s.journal.add (resumeEvent s), some (s.bytes ++ canonicalEventBytes [resumeEvent s])⟩, ?_, rfl⟩
  have hpayload : Store.payload (s.newEvent "resume" []) = .ok (canonicalEventBytes [resumeEvent s]) :=
    payload_eq_ok.2 ⟨print, rfl⟩
  refine map_eq_ok.2 ⟨(resumeEvent s, _), ?_, rfl⟩
  rw [Store.append, opened, if_neg Bool.false_ne_true]
  exact bind_eq_ok.2 ⟨_, hpayload, rfl⟩

/-- Where the next number cannot be printed nothing is appended. -/
theorem eq_nil_of_not_nextPrintable {file : Bytes} {j : Journal} (loaded : Journal.load (some file) = .ok j)
    (next : ¬NextPrintable ⟨j, some file⟩) {more : List Entry} {t : Store}
    (steps : Steps sha256 ⟨j, some file⟩ more t) : more = [] ∧ t = ⟨j, some file⟩ := by
  induction steps with
  | start => exact ⟨rfl, rfl⟩
  | wrote _ performed ih =>
    obtain ⟨rfl, rfl⟩ := ih
    have w := perform_wrote performed
    have hplain := w.writable.get w.seq
    rw [plain, Bool.and_eq_true] at hplain
    exact absurd hplain.2 next
  | restart _ reloaded ih =>
    obtain ⟨rfl, rfl⟩ := ih
    rw [Except.ok.inj (loaded.symm.trans reloaded)]
    exact ⟨rfl, rfl⟩

/-! ## Exactly when a crash is survived -/

/-- The exact condition: no byte of the line is written, or all of them are; or only the end of the line is
missing, and nothing can be appended any more because Python cannot print the next number. -/
def Survivable (log : List Entry) (event : Event) (k : ℕ) : Prop :=
  k = 0 ∨ k = (canonicalEventBytes [event]).length ∨
    k + 1 = (canonicalEventBytes [event]).length ∧ printable (.int (log.length + 2 : ℕ)) = false

theorem Holds.recovers_whole_line (h : Holds sha256 log s) (w : Wrote sha256 s call event u) (opens : call.closes = false) :
    Recovers sha256 log s event (eventLine event).length ↔ printable (.int (log.length + 2 : ℕ)) = false := by
  have after := h.wrote w
  have journaled : Journaled (events log ++ [event]) := by simpa using after.journaled
  have hload := load_whole_line journaled
  have htorn : torn s event (eventLine event).length =
      canonicalEventBytes (events log) ++ encodeChars (eventLine event) := by
    rw [torn_eq h w.writable le_rfl, List.take_length]
  rw [← htorn] at hload
  have hlength : (reloaded (events log ++ [event])).events.length + 1 = log.length + 2 := by simp [reloaded]
  have hopened : (reloaded (events log ++ [event])).closed = false := by
    have : closedBy (events (log ++ [(call, event)])) = false := by rw [← after.closed, w.closed, opens]
    simpa [reloaded] using this
  constructor
  · rintro ⟨j, hload', -, hmore⟩
    obtain rfl : reloaded (events log ++ [event]) = j := Except.ok.inj (hload.symm.trans hload')
    rw [Bool.eq_false_iff]
    intro hprint
    have next : NextPrintable ⟨reloaded (events log ++ [event]), some (torn s event (eventLine event).length)⟩ := by
      rw [NextPrintable, hlength, hprint]
    obtain ⟨t, performed, hfile⟩ := perform_resume hopened next
    have stored := hmore _ t (.wrote .start performed) (by simp)
    have hbytes : t.bytes = canonicalEventBytes (events log) ++ encodeChars (eventLine event) ++
        canonicalEventBytes [resumeEvent ⟨reloaded (events log ++ [event]), some (torn s event (eventLine event).length)⟩] := by
      rw [Store.bytes, hfile, Option.getD_some, Store.bytes, Option.getD_some, htorn]
    rw [hbytes] at stored
    exact not_loadJournal_joined h.journaled.writable w.writable (perform_wrote performed).writable _ stored
  · intro hprint
    refine ⟨_, hload, .inr ?_, fun more t steps hne => ?_⟩
    · rw [reloaded, List.map_map]
      exact List.map_congr_left fun e _ => reread_reread e
    · have next : ¬NextPrintable ⟨reloaded (events log ++ [event]), some (torn s event (eventLine event).length)⟩ := by
        rw [NextPrintable, hlength, hprint]
        decide
      exact absurd (eq_nil_of_not_nextPrintable hload next steps).1 hne

/-- A crash inside the line of an event is survived exactly when it does not tear the line. -/
theorem recovers_iff (run : Run sha256 log s) (performed : call.perform sha256 s = .ok (some event, u))
    (opens : call.closes = false) (hk : k ≤ (canonicalEventBytes [event]).length) :
    Recovers sha256 log s event k ↔ Survivable log event k := by
  have h := holds_run run
  have w := perform_wrote performed
  have hlength := length_canonicalEventBytes_singleton w.writable
  unfold Survivable
  rcases Nat.eq_zero_or_pos k with rfl | pos
  · have unchanged : Holds sha256 log { s with file := some (torn s event 0) } := by
      have same : torn s event 0 = s.bytes := by simp [torn]
      exact { h with bytes := by rw [← h.bytes, ← same]; rfl, absent := nofun }
    exact iff_of_true (unchanged.recovers rfl (.inl rfl)) (.inl rfl)
  by_cases hwhole : k = (canonicalEventBytes [event]).length
  · have file : u.file = some (torn s event k) := by rw [w.file, torn, hwhole, List.take_length]
    exact iff_of_true ((h.wrote w).recovers file (.inr (by simp))) (.inr (.inl hwhole))
  by_cases hend : k = (eventLine event).length
  · rw [hend, h.recovers_whole_line w opens]
    constructor
    · exact fun hprint => .inr (.inr ⟨by omega, hprint⟩)
    · rintro (hzero | hfull | ⟨-, hprint⟩)
      · omega
      · omega
      · exact hprint
  · have opened : closedBy (events log) = false := by rw [← h.closed, w.opened]
    refine iff_of_false ?_ (by omega)
    rintro ⟨j, hload, -⟩
    exact not_load_torn h opened w.writable pos (by omega) j hload

namespace ClosedJournal

theorem recovers_room : Recovers hash [] ⟨.empty, none⟩ roomEvent (canonicalEventBytes [roomEvent]).length :=
  (recovers_iff .start (rfl : room.perform hash ⟨.empty, none⟩ = .ok (some roomEvent, opened)) rfl le_rfl).2 (.inr (.inl rfl))

/-- The first event of a journal, of which one byte was written. -/
theorem not_recovers_room : room.perform hash ⟨.empty, none⟩ = .ok (some roomEvent, opened) ∧
    ¬Recovers hash [] ⟨.empty, none⟩ roomEvent 1 := by
  refine ⟨rfl, ?_⟩
  rintro ⟨j, hload, -⟩
  have held : Holds hash [] ⟨.empty, none⟩ := holds_start
  exact not_load_torn held rfl (by decide) (by decide) (by decide) j hload

end ClosedJournal

end Zkdeal.OwnerSoak
