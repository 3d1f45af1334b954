import Zkdeal.Python.JsonLines

/-!
# Texts as sequences of lines

`str.splitlines` of a text that ends its lines in any way: the lines of the first part of a text are found
apart from those of the rest (`splitlinesAux_whole`), and one line apart from the next one
(`splitlinesAux_line`).
-/

namespace Python

/-- A text within a line. -/
def Plain (line : List Char) : Prop := ∀ c ∈ line, isLineEnd c = false

/-- Nothing, or lines that the last of which ends with `\n`. -/
def Whole (text : List Char) : Prop := text = [] ∨ ∃ front, text = front ++ ['\n']

/-- `stop` ends a line that `rest` follows. -/
def LineEnd (stop rest : List Char) : Prop :=
  stop = ['\r', '\n'] ∨ ∃ c, stop = [c] ∧ isLineEnd c = true ∧ ¬(c = '\r' ∧ rest.head? = some '\n')

theorem lineEnd_newline (rest : List Char) : LineEnd ['\n'] rest :=
  .inr ⟨'\n', rfl, by decide, fun h => absurd h.1 (by decide)⟩

theorem whole_append_newline (text : List Char) : Whole (text ++ ['\n']) := .inr ⟨text, rfl⟩

theorem Whole.append {text text' : List Char} (h : Whole text) (h' : Whole text') : Whole (text ++ text') := by
  obtain rfl | ⟨front, rfl⟩ := h'
  · rwa [List.append_nil]
  · rw [← List.append_assoc]
    exact whole_append_newline _

theorem Whole.tail {c : Char} {text : List Char} (h : Whole (c :: text)) : Whole text := by
  obtain h | ⟨front, h⟩ := h
  · cases h
  · cases front with
    | nil =>
      have htail : text = [] := (List.cons.inj h).2
      exact .inl htail
    | cons d front =>
      have htail : text = front ++ ['\n'] := (List.cons.inj h).2
      exact .inr ⟨front, htail⟩

theorem plain_of_all {line : List Char} (h : (line.all fun c => !isLineEnd c) = true) : Plain line := by
  intro c hc
  simpa using List.all_eq_true.1 h c hc

/-! ## Splitting -/

theorem splitlinesAux_newline (front read rest : List Char) :
    splitlinesAux read (front ++ '\n' :: rest) = splitlinesAux read (front ++ ['\n']) ++ splitlinesAux [] rest := by
  have hstop (read rest : List Char) : splitlinesAux read ('\n' :: rest) = .ofList read.reverse :: splitlinesAux [] rest :=
    splitlinesAux_cons (fun h => absurd h.1 (by decide)) read
  induction hn : front.length using Nat.strongRecOn generalizing front read with
  | ind n ih =>
    subst hn
    cases front with
    | nil =>
      rw [List.nil_append, List.nil_append, hstop, hstop]
      rfl
    | cons c front =>
      by_cases hreturn : c = '\r' ∧ (front ++ ['\n']).head? = some '\n'
      · obtain ⟨rfl, hhead⟩ := hreturn
        cases front with
        | nil => simp [splitlinesAux]
        | cons d front =>
          obtain rfl : d = '\n' := by simpa using hhead
          have hrest := ih front.length (by simp only [List.length_cons]; omega) front [] rfl
          simp only [List.cons_append, splitlinesAux] at hrest ⊢
          rw [hrest]
      · have hreturn' : ¬(c = '\r' ∧ (front ++ '\n' :: rest).head? = some '\n') := by
          cases front <;> simpa using hreturn
        have hrest (read : List Char) := ih front.length (by simp) front read rfl
        rw [List.cons_append, List.cons_append, splitlinesAux_cons hreturn', splitlinesAux_cons hreturn, hrest, hrest]
        split_ifs <;> rfl

/-- The lines of whole lines and of what follows them. -/
theorem splitlinesAux_whole {text : List Char} (h : Whole text) (rest : List Char) :
    splitlinesAux [] (text ++ rest) = splitlinesAux [] text ++ splitlinesAux [] rest := by
  obtain rfl | ⟨front, rfl⟩ := h
  · rfl
  · rw [List.append_assoc]
    exact splitlinesAux_newline front [] rest

/-- A line and its end. -/
theorem splitlinesAux_line {line stop rest : List Char} (hline : Plain line) (hstop : LineEnd stop rest) :
    splitlinesAux [] (line ++ (stop ++ rest)) = .ofList line :: splitlinesAux [] rest := by
  rw [splitlinesAux_append hline, List.append_nil]
  obtain rfl | ⟨c, rfl, hc, hreturn⟩ := hstop
  · rw [List.cons_append, List.singleton_append, splitlinesAux, List.reverse_reverse]
  · rw [List.singleton_append, splitlinesAux_cons hreturn, if_pos hc, List.reverse_reverse]

/-- Every text of whole lines has a first line. -/
theorem Whole.exists_line {text : List Char} (h : Whole text) (hne : text ≠ []) :
    ∃ line stop rest, text = line ++ (stop ++ rest) ∧ Plain line ∧ LineEnd stop rest ∧ Whole rest := by
  induction text with
  | nil => exact absurd rfl hne
  | cons c text ih =>
    by_cases hc : isLineEnd c = true
    · by_cases hreturn : c = '\r' ∧ text.head? = some '\n'
      · obtain ⟨rfl, hhead⟩ := hreturn
        cases text with
        | nil => cases hhead
        | cons d text =>
          obtain rfl : d = '\n' := by simpa using hhead
          exact ⟨[], ['\r', '\n'], text, rfl, by simp [Plain], .inl rfl, h.tail.tail⟩
      · exact ⟨[], [c], text, rfl, by simp [Plain], .inr ⟨c, rfl, hc, hreturn⟩, h.tail⟩
    · have hne' : text ≠ [] := by
        rintro rfl
        obtain h | ⟨front, h⟩ := h
        · cases h
        · cases front with
          | nil =>
            rw [(List.cons.inj h).1] at hc
            exact hc (by decide)
          | cons d front => simp at h
      obtain ⟨line, stop, rest, rfl, hline, hstop, hrest⟩ := ih h.tail hne'
      refine ⟨c :: line, stop, rest, rfl, ?_, hstop, hrest⟩
      intro d hd
      obtain rfl | hd := List.mem_cons.1 hd
      · exact Bool.eq_false_iff.2 hc
      · exact hline d hd

/-- No line that is found has the end of another one within it. -/
theorem plain_splitlinesAux {read cs : List Char} (hread : Plain read) :
    ∀ line ∈ splitlinesAux read cs, Plain line.toList := by
  have hreverse {read : List Char} (h : Plain read) : Plain (String.ofList read.reverse).toList := by
    intro c hc
    rw [String.toList_ofList, List.mem_reverse] at hc
    exact h c hc
  have hnil : Plain [] := by simp [Plain]
  induction read, cs using splitlinesAux.induct with
  | case1 => simp [splitlinesAux]
  | case2 read hne => simpa [splitlinesAux] using hreverse hread
  | case3 read cs ih =>
    rw [splitlinesAux, List.forall_mem_cons]
    exact ⟨hreverse hread, ih hnil⟩
  | case4 read c cs hpair hc ih =>
    rw [splitlinesAux, if_pos hc, List.forall_mem_cons]
    · exact ⟨hreverse hread, ih hnil⟩
    · exact hpair
  | case5 read c cs hpair hc ih =>
    rw [splitlinesAux, if_neg hc]
    · refine ih ?_
      intro d hd
      obtain rfl | hd := List.mem_cons.1 hd
      · exact Bool.eq_false_iff.2 hc
      · exact hread d hd
    · exact hpair

/-- Universal newlines do not change what the lines are. -/
theorem splitlinesAux_universalNewlines (read cs : List Char) :
    splitlinesAux read (universalNewlines cs) = splitlinesAux read cs := by
  have hstop (read rest : List Char) : splitlinesAux read ('\n' :: rest) = .ofList read.reverse :: splitlinesAux [] rest :=
    splitlinesAux_cons (fun h => absurd h.1 (by decide)) read
  induction cs using universalNewlines.induct generalizing read with
  | case1 => rfl
  | case2 cs ih => rw [universalNewlines, hstop, ih, splitlinesAux]
  | case3 cs hnext ih =>
    have hreturn : ¬('\r' = '\r' ∧ cs.head? = some '\n') := by
      rintro ⟨-, hhead⟩
      cases cs with
      | nil => cases hhead
      | cons d cs =>
        obtain rfl : d = '\n' := by simpa using hhead
        exact hnext _ rfl
    rw [universalNewlines, hstop, ih, splitlinesAux_cons hreturn, if_pos (by decide)]
    exact hnext
  | case4 c cs hpair hreturn ih =>
    have hne : c ≠ '\r' := fun h => hreturn h
    rw [universalNewlines, splitlinesAux_cons fun h => hne h.1, splitlinesAux_cons fun h => hne h.1, ih, ih]
    · exact hpair
    · exact hreturn

end Python
