import Mathlib

/-!
# Lines of records

A record is written as a head from a prefix-free set, a name and the end of the line.  The name is not escaped, so it
may itself read as a name, the end of its line and the beginning of another line.  When no name does so in the order
of the names, the text of a sorted list of records says which records it is of.
-/

namespace Codes.Lines

variable {α : Type} {sep : α}

/-- The line of a record. -/
def line (sep : α) (r : List α × List α) : List α := r.1 ++ (r.2 ++ [sep])

/-- The lines of records. -/
def text (sep : α) (rs : List (List α × List α)) : List α := rs.flatMap (line sep)

theorem text_cons (r : List α × List α) (rs : List (List α × List α)) :
    text sep (r :: rs) = r.1 ++ (r.2 ++ sep :: text sep rs) := by simp [text, line]

/-- A name that splits has the text of two records. -/
theorem text_split (head h p q : List α) :
    text sep [(head, p ++ sep :: (h ++ q))] = text sep [(head, p), (h, q)] := by simp [text, line]

/-- Two texts that are cut at a separator are cut at the same place, or one of them is cut earlier. -/
theorem cut_cases {p q s t : List α} (heq : p ++ sep :: s = q ++ sep :: t) :
    (p = q ∧ s = t) ∨ (∃ w, q = p ++ sep :: w ∧ s = w ++ sep :: t) ∨ (∃ w, p = q ++ sep :: w ∧ t = w ++ sep :: s) := by
  obtain ⟨a, hq, hs⟩ | ⟨a, hp, ht⟩ := List.append_eq_append_iff.1 heq
  · cases a with
    | nil =>
      rw [List.append_nil] at hq
      exact .inl ⟨hq.symm, (List.cons.inj hs).2⟩
    | cons c a =>
      rw [List.cons_append] at hs
      obtain ⟨hc, hrest⟩ := List.cons.inj hs
      exact .inr (.inl ⟨a, hc ▸ hq, hrest⟩)
  · cases a with
    | nil =>
      rw [List.append_nil] at hp
      exact .inl ⟨hp, (List.cons.inj ht).2.symm⟩
    | cons c a =>
      rw [List.cons_append] at ht
      obtain ⟨hc, hrest⟩ := List.cons.inj ht
      exact .inr (.inr ⟨a, hc ▸ hp, hrest⟩)

/-- Two texts without separators that end at one are cut at the same place. -/
theorem cut_eq {p q s t : List α} (hp : sep ∉ p) (hq : sep ∉ q) (heq : p ++ sep :: s = q ++ sep :: t) :
    p = q ∧ s = t := by
  obtain h | ⟨w, rfl, -⟩ | ⟨w, rfl, -⟩ := cut_cases heq
  · exact h
  · simp at hq
  · simp at hp

/-- A head in front of a text ends before the first separator. -/
theorem head_cases {h rest w t : List α} (hsep : sep ∉ h) (heq : w ++ sep :: t = h ++ rest) :
    ∃ s, w = h ++ s ∧ s ++ sep :: t = rest := by
  obtain ⟨a, hh, ht⟩ | ⟨a, hw, hrest⟩ := List.append_eq_append_iff.1 heq
  · cases a with
    | nil => exact ⟨[], by rw [List.append_nil] at hh ⊢; exact hh.symm, ht⟩
    | cons c a =>
      obtain ⟨rfl, -⟩ := List.cons.inj ht
      exact absurd (hh ▸ List.mem_append_right w List.mem_cons_self) hsep
  · exact ⟨a, hw, hrest.symm⟩

/-! ## Sorted records -/

variable [LinearOrder α] {heads : Set (List α)}

/-- The name reads as a name, the end of its line, a head, and a name that comes later. -/
def Splits (heads : Set (List α)) (sep : α) (name : List α) : Prop :=
  ∃ p, ∃ h ∈ heads, ∃ q, p < q ∧ name = p ++ sep :: (h ++ q)

/-- Heads that do not end a line, none of which begins another one. -/
structure IsHeads (heads : Set (List α)) (sep : α) : Prop where
  separate : ∀ h ∈ heads, sep ∉ h
  prefixFree : ∀ h ∈ heads, ∀ h' ∈ heads, ∀ rest rest', h ++ rest = h' ++ rest' → h = h'

/-- Records in the order of their names. -/
def Sorted (rs : List (List α × List α)) : Prop := rs.Pairwise fun r s => r.2 < s.2

theorem le_append (p s : List α) : p ≤ p ++ s := not_lt.1 (show ¬p ++ s < p from List.le_append_left)

theorem sorted_of_cons {r : List α × List α} {rs : List (List α × List α)} (h : Sorted (r :: rs)) :
    (∀ s ∈ rs, r.2 < s.2) ∧ Sorted rs := List.pairwise_cons.1 h

/--
A name that goes on over the end of a line of another list makes some name split: `r` is what that line has of it, and
all later names of that list come after `r`.
-/
theorem exists_splits (hheads : IsHeads heads sep) {n : ℕ} {name r w : List α} {xs ys : List (List α × List α)}
    (hn : xs.length + ys.length = n) (hname : name = r ++ sep :: w) (htext : w ++ sep :: text sep xs = text sep ys)
    (hx : ∀ s ∈ xs, name < s.2) (hxs : Sorted xs) (hy : ∀ s ∈ ys, r < s.2) (hys : Sorted ys)
    (hhead : ∀ s ∈ xs ++ ys, s.1 ∈ heads) :
    Splits heads sep name ∨ ∃ s ∈ xs ++ ys, Splits heads sep s.2 := by
  induction n generalizing name r w xs ys with
  | zero =>
    have hempty : ys = [] := List.eq_nil_of_length_eq_zero (by omega)
    rw [hempty] at htext
    simp [text] at htext
  | succ n ih =>
    cases ys with
    | nil => simp [text] at htext
    | cons b ys =>
      obtain ⟨hb, hys⟩ := sorted_of_cons hys
      have hbhead : b.1 ∈ heads := hhead b (by simp)
      rw [text_cons] at htext
      obtain ⟨s, rfl, hrest⟩ := head_cases (hheads.separate _ hbhead) htext
      have hrb : r < b.2 := hy b List.mem_cons_self
      obtain ⟨rfl, -⟩ | ⟨v, hbv, hv⟩ | ⟨v, rfl, -⟩ := cut_cases hrest
      · exact .inl ⟨r, b.1, hbhead, b.2, hrb, hname⟩
      · by_cases hsplit : r < s
        · exact .inl ⟨r, b.1, hbhead, s, hsplit, hname⟩
        · -- the name of `b` goes on over the end of the name, and `s` is not after `r`
          have hsname : s ≤ name := (not_lt.1 hsplit).trans (hname ▸ le_append r _)
          have hlen : ys.length + xs.length = n := by
            rw [List.length_cons] at hn
            omega
          have hagain := ih hlen hbv hv.symm (fun t ht => hb t ht) hys
            (fun t ht => lt_of_le_of_lt hsname (hx t ht)) hxs
            (fun t ht => hhead t (by
              rw [List.mem_append, List.mem_cons]
              exact (List.mem_append.1 ht).elim (fun h => .inr (.inr h)) .inl))
          obtain h | ⟨t, ht, h⟩ := hagain
          · exact .inr ⟨b, by simp, h⟩
          · refine .inr ⟨t, ?_, h⟩
            rw [List.mem_append, List.mem_cons]
            exact (List.mem_append.1 ht).elim (fun h => .inr (.inr h)) .inl
      · exact .inl ⟨r, b.1, hbhead, _, hrb.trans_le (le_append _ _), hname⟩

/-- Two sorted lists of records with the same text are the same when no name splits. -/
theorem eq_of_text (hheads : IsHeads heads sep) {xs ys : List (List α × List α)} (hxs : Sorted xs) (hys : Sorted ys)
    (hxhead : ∀ r ∈ xs, r.1 ∈ heads) (hyhead : ∀ r ∈ ys, r.1 ∈ heads) (hx : ∀ r ∈ xs, ¬Splits heads sep r.2)
    (hy : ∀ r ∈ ys, ¬Splits heads sep r.2) (htext : text sep xs = text sep ys) : xs = ys := by
  induction xs generalizing ys with
  | nil =>
    cases ys with
    | nil => rfl
    | cons b ys => simp [text, line] at htext
  | cons a xs ih =>
    cases ys with
    | nil => simp [text, line] at htext
    | cons b ys =>
      obtain ⟨ha, hxs⟩ := sorted_of_cons hxs
      obtain ⟨hb, hys⟩ := sorted_of_cons hys
      rw [List.forall_mem_cons] at hxhead hyhead hx hy
      rw [text_cons, text_cons] at htext
      have hsame : a.1 = b.1 := hheads.prefixFree _ hxhead.1 _ hyhead.1 _ _ htext
      rw [hsame] at htext
      have hboth : ∀ t ∈ xs ++ ys, t.1 ∈ heads ∧ ¬Splits heads sep t.2 := fun t ht =>
        (List.mem_append.1 ht).elim (fun h => ⟨hxhead.2 t h, hx.2 t h⟩) fun h => ⟨hyhead.2 t h, hy.2 t h⟩
      obtain ⟨hnames, hrest⟩ | ⟨w, hbw, hw⟩ | ⟨w, haw, hw⟩ := cut_cases (List.append_cancel_left htext)
      · rw [Prod.ext hsame hnames, ih hxs hys hxhead.2 hyhead.2 hx.2 hy.2 hrest]
      · obtain h | ⟨t, ht, h⟩ := exists_splits hheads rfl hbw hw.symm hb hys ha hxs
          fun t ht => (hboth t (List.mem_append.2 (List.mem_append.1 ht).symm)).1
        · exact absurd h hy.1
        · exact absurd h (hboth t (List.mem_append.2 (List.mem_append.1 ht).symm)).2
      · obtain h | ⟨t, ht, h⟩ := exists_splits hheads rfl haw hw.symm ha hxs hb hys fun t ht => (hboth t ht).1
        · exact absurd h hx.1
        · exact absurd h (hboth t ht).2

/-- A name that does not split has a text of its own. -/
theorem eq_singleton_of_text (hheads : IsHeads heads sep) {r : List α × List α} {ys : List (List α × List α)}
    (hys : Sorted ys) (hrhead : r.1 ∈ heads) (hyhead : ∀ s ∈ ys, s.1 ∈ heads) (hr : ¬Splits heads sep r.2)
    (htext : text sep ys = text sep [r]) : ys = [r] := by
  cases ys with
  | nil => simp [text, line] at htext
  | cons b ys =>
    obtain ⟨hb, -⟩ := sorted_of_cons hys
    rw [List.forall_mem_cons] at hyhead
    rw [text_cons, text_cons] at htext
    have hsame : b.1 = r.1 := hheads.prefixFree _ hyhead.1 _ hrhead _ _ htext
    rw [hsame] at htext
    have hlast : b.2 ++ sep :: text sep ys = r.2 ++ sep :: [] := List.append_cancel_left htext
    obtain ⟨hnames, hrest⟩ | ⟨w, hrw, hw⟩ | ⟨w, -, hw⟩ := cut_cases hlast
    · cases ys with
      | nil => rw [Prod.ext hsame hnames]
      | cons c ys => simp [text, line] at hrest
    · cases ys with
      | nil => simp [text] at hw
      | cons c ys =>
        rw [List.forall_mem_cons] at hyhead hb
        rw [text_cons] at hw
        obtain ⟨s, rfl, hrest⟩ := head_cases (hheads.separate _ hyhead.2.1) hw.symm
        have hafter : c.2 ≤ s := by
          obtain ⟨rfl, -⟩ | ⟨v, -, hv⟩ | ⟨v, rfl, -⟩ := cut_cases hrest
          · exact le_rfl
          · simp at hv
          · exact le_append _ _
        exact absurd ⟨b.2, c.1, hyhead.2.1, s, hb.1.trans_le hafter, hrw⟩ hr
    · simp at hw

end Codes.Lines
