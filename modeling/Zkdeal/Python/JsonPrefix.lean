import Zkdeal.Python.JsonRoundTrip

/-!
# JSON texts that were cut off

A scan that ends before a separator or a bracket does not depend on what follows (`scan_append`).  So a
text that `json.loads` accepts as an object is not accepted with its end cut off.
-/

namespace Python.Json

/-- What follows does not continue a value. -/
def Ends (rest : List Char) : Prop :=
  ∃ c tail, rest = c :: tail ∧ (c = ',' ∨ c = ']' ∨ c = '}' ∨ c = ' ' ∨ c = '\t' ∨ c = '\n' ∨ c = '\r')

theorem Ends.ne_nil {rest : List Char} (h : Ends rest) : rest ≠ [] := by
  obtain ⟨c, tail, rfl, -⟩ := h
  simp

theorem Ends.head_ne {rest tail : List Char} {c : Char} (h : Ends rest) (hrest : rest = c :: tail) :
    c ≠ '.' ∧ c ≠ 'e' ∧ c ≠ 'E' := by
  obtain ⟨d, tail', rfl, hd⟩ := h
  obtain ⟨rfl, -⟩ := List.cons.inj hrest
  rcases hd with rfl | rfl | rfl | rfl | rfl | rfl | rfl <;> decide

/-- What a separator or a bracket follows, ends before the space in front of it. -/
theorem ends_of_skipSpace {rest tail : List Char} {c : Char} (h : skipSpace rest = c :: tail)
    (hc : c = ',' ∨ c = ']' ∨ c = '}') : Ends rest := by
  cases rest with
  | nil => cases h
  | cons d rest =>
    by_cases hd : d = ' ' ∨ d = '\t' ∨ d = '\n' ∨ d = '\r'
    · exact ⟨d, rest, rfl, .inr (.inr (.inr hd))⟩
    · have keep : skipSpace (d :: rest) = d :: rest := by
        rw [skipSpace, List.dropWhile_cons_of_neg]
        simpa only [Bool.or_eq_true, decide_eq_true_eq, or_assoc] using hd
      rw [keep] at h
      obtain ⟨rfl, rfl⟩ := List.cons.inj h
      exact ⟨d, rest, rfl, by tauto⟩

theorem skipSpace_append {cs : List Char} (q : List Char) (h : skipSpace cs ≠ []) :
    skipSpace (cs ++ q) = skipSpace cs ++ q := by
  unfold skipSpace at h ⊢
  rw [List.dropWhile_append, if_neg (by simpa using h)]

theorem skipSpace_append_cons {cs rest : List Char} {c : Char} (q : List Char) (h : skipSpace cs = c :: rest) :
    skipSpace (cs ++ q) = c :: (rest ++ q) := by
  rw [skipSpace_append q (by simp [h]), h, List.cons_append]

/-! ## Strings -/

theorem scanString_append (q : List Char) (cs : List Char) : ∀ s rest, scanString cs = some (s, rest) →
    scanString (cs ++ q) = some (s, rest ++ q) := by
  induction cs using scanString.induct with
  | case1 => intro s rest h; cases h
  | case2 cs =>
    intro s rest h
    cases h
    rfl
  | case3 a b c d cs ih ihPair =>
    intro s rest h
    simp only [List.cons_append]
    rw [scanString] at h ⊢
    obtain ⟨n, hn, h⟩ := Option.bind_eq_some_iff.1 h
    rw [hn, Option.bind_eq_bind, Option.bind_some]
    by_cases hlow : n < 0xd800 ∨ 0xdfff < n
    · rw [if_pos hlow] at h ⊢
      obtain ⟨⟨t, after⟩, ht, h⟩ := Option.bind_eq_some_iff.1 h
      rw [ih _ _ ht]
      cases h
      rfl
    rw [if_neg hlow] at h ⊢
    by_cases hhigh : n < 0xdc00
    · rw [if_pos hhigh] at h ⊢
      split at h
      · rename_i e f g k tail
        simp only [List.cons_append]
        obtain ⟨m, hm, h⟩ := Option.bind_eq_some_iff.1 h
        rw [hm, Option.bind_eq_bind, Option.bind_some]
        by_cases hm : 0xdc00 ≤ m ∧ m ≤ 0xdfff
        · rw [if_pos hm] at h ⊢
          obtain ⟨⟨t, after⟩, ht, h⟩ := Option.bind_eq_some_iff.1 h
          rw [ihPair _ _ ht]
          cases h
          rfl
        · rw [if_neg hm] at h
          cases h
      · cases h
    · rw [if_neg hhigh] at h
      cases h
  | case4 c cs hu ih =>
    intro s rest h
    simp only [List.cons_append]
    rw [scanString] at h
    · obtain ⟨⟨t, after⟩, ht, h⟩ := Option.bind_eq_some_iff.1 h
      obtain ⟨u, hc, h⟩ := Option.bind_eq_some_iff.1 h
      have hne : c ≠ 'u' := by
        rintro rfl
        cases hc
      rw [scanString.eq_4, ih _ _ ht]
      · simp only [Option.bind_eq_bind, Option.bind_some, hc]
        cases h
        rfl
      · exact fun _ _ _ _ _ h => absurd h hne
    · exact hu
  | case5 c cs hq hu hb hlow =>
    intro s rest h
    rw [scanString, if_pos hlow] at h
    · cases h
    all_goals assumption
  | case6 c cs hq hu hb hlow ih =>
    intro s rest h
    rw [scanString, if_neg hlow] at h
    · obtain ⟨⟨t, after⟩, ht, h⟩ := Option.bind_eq_some_iff.1 h
      have hne : c ≠ '\\' := by
        rintro rfl
        cases cs with
        | nil => cases ht
        | cons d cs => exact hb d cs rfl rfl
      rw [List.cons_append, scanString.eq_5, if_neg hlow, ih _ _ ht]
      · cases h
        rfl
      · exact hq
      · exact fun _ _ _ _ _ h => absurd h hne
      · exact fun _ _ h => absurd h hne
    all_goals assumption

/-! ## Numbers -/

theorem spanDigits_append_of {cs ds rest : List Char} (q : List Char) (h : spanDigits cs = (ds, rest))
    (hne : rest ≠ []) : spanDigits (cs ++ q) = (ds, rest ++ q) := by
  unfold spanDigits at h ⊢
  rw [List.span_eq_takeWhile_dropWhile] at h ⊢
  obtain ⟨rfl, rfl⟩ := Prod.mk.inj h
  have short : (cs.takeWhile isDigit09).length ≠ cs.length := by
    intro hlen
    apply hne
    have := congrArg List.length (List.takeWhile_append_dropWhile (p := isDigit09) (l := cs))
    rw [List.length_append] at this
    exact List.length_eq_zero_iff.1 (by omega)
  rw [List.takeWhile_append, List.dropWhile_append, if_neg short, if_neg (by simpa using hne)]

theorem scanFraction_append {cs fraction rest : List Char} (q : List Char)
    (h : scanFraction cs = (fraction, rest)) (hne : rest ≠ []) (hdot : rest ≠ ['.']) :
    scanFraction (cs ++ q) = (fraction, rest ++ q) := by
  unfold scanFraction at h
  split at h
  · rename_i c cs
    simp only [List.cons_append, scanFraction]
    by_cases hc : isDigit09 c = true
    · rw [if_pos hc] at h ⊢
      exact spanDigits_append_of q h hne
    · rw [if_neg hc] at h ⊢
      cases h
      rfl
  · rename_i hshape
    cases h
    cases cs with
    | nil => exact absurd rfl hne
    | cons c cs =>
      have hc : c ≠ '.' := by
        rintro rfl
        cases cs with
        | nil => exact hdot rfl
        | cons d cs => exact hshape d cs rfl
      rw [List.cons_append, scanFraction.eq_2]
      exact fun d ds h => absurd (List.cons.inj h).1 hc

/-- The digits of an exponent, where `cs` is left when there are none. -/
def exponentDigits (negative : Bool) (cs tail : List Char) : Option ℤ × List Char :=
  match spanDigits tail with
  | ([], _) => (none, cs)
  | (ds, rest) => (some (if negative then -(digitsNat ds : ℤ) else digitsNat ds), rest)

theorem scanExponent_append {cs rest : List Char} {exponent : Option ℤ} (q : List Char)
    (h : scanExponent cs = (exponent, rest)) (ends : Ends rest) :
    scanExponent (cs ++ q) = (exponent, rest ++ q) := by
  cases cs with
  | nil =>
    cases h
    exact absurd rfl ends.ne_nil
  | cons e tail =>
    by_cases he : e = 'e' ∨ e = 'E'
    · have read (negative : Bool) (tail' : List Char)
          (h : exponentDigits negative (e :: tail) tail' = (exponent, rest)) :
          exponentDigits negative (e :: (tail ++ q)) (tail' ++ q) = (exponent, rest ++ q) := by
        unfold exponentDigits at h ⊢
        rcases hspan : spanDigits tail' with ⟨ds, after⟩
        rw [hspan] at h
        cases ds with
        | nil =>
          cases h
          have := ends.head_ne rfl
          tauto
        | cons d ds =>
          obtain ⟨rfl, rfl⟩ := Prod.mk.inj h
          rw [spanDigits_append_of q hspan ends.ne_nil]
      simp only [scanExponent, if_pos he, List.cons_append] at h ⊢
      split at h
      · exact read false _ h
      · exact read true _ h
      · rename_i hplus hminus
        cases tail with
        | nil =>
          cases h
          have := ends.head_ne rfl
          tauto
        | cons d tail =>
          split
          · rename_i heq
            obtain ⟨rfl, -⟩ := List.cons.inj heq
            exact (hplus tail rfl).elim
          · rename_i heq
            obtain ⟨rfl, -⟩ := List.cons.inj heq
            exact (hminus tail rfl).elim
          · exact read false _ h
    · simp only [scanExponent, if_neg he, List.cons_append] at h ⊢
      cases h
      rfl

/-- The whole part of a number that starts with `c`. -/
def scanWhole (c : Char) (tail : List Char) : Option (List Char × List Char) :=
  if c = '0' then some (['0'], tail) else if isDigit09 c then some (spanDigits (c :: tail)) else none

/-- A number whose whole part was read. -/
def scanAfter (negative : Bool) (whole rest : List Char) : Option (Json × List Char) :=
  let (fraction, rest) := scanFraction rest
  let (exponent, rest) := scanExponent rest
  if fraction = [] ∧ exponent = none then
    if 4300 < whole.length then none
    else some (.int (if negative then -(digitsNat whole : ℤ) else digitsNat whole), rest)
  else
    some (.float (decimal negative (digitsNat (whole ++ fraction)) (fraction.length - exponent.getD 0)), rest)

theorem scanMagnitude_cons (negative : Bool) (c : Char) (tail : List Char) :
    scanMagnitude negative (c :: tail) = (scanWhole c tail).bind fun p => scanAfter negative p.1 p.2 := by
  unfold scanWhole
  by_cases hc : c = '0'
  · simp only [scanMagnitude, if_pos hc]
    rfl
  · by_cases hd : isDigit09 c = true
    · simp only [scanMagnitude, if_neg hc, if_pos hd]
      rfl
    · simp only [scanMagnitude, if_neg hc, if_neg hd]
      rfl

theorem scanWhole_append {c : Char} {tail whole rest : List Char} (q : List Char)
    (h : scanWhole c tail = some (whole, rest)) (hne : rest ≠ []) :
    scanWhole c (tail ++ q) = some (whole, rest ++ q) := by
  unfold scanWhole at h ⊢
  by_cases hc : c = '0'
  · rw [if_pos hc] at h ⊢
    cases h
    rfl
  · rw [if_neg hc] at h ⊢
    by_cases hd : isDigit09 c = true
    · rw [if_pos hd] at h ⊢
      rw [← List.cons_append, spanDigits_append_of q (Option.some.inj h) hne]
    · rw [if_neg hd] at h
      cases h

theorem scanAfter_append {negative : Bool} {whole after rest : List Char} {v : Json} (q : List Char)
    (h : scanAfter negative whole after = some (v, rest)) (ends : Ends rest) :
    after ≠ [] ∧ scanAfter negative whole (after ++ q) = some (v, rest ++ q) := by
  unfold scanAfter at h ⊢
  rcases hfraction : scanFraction after with ⟨fraction, after'⟩
  rcases hexponent : scanExponent after' with ⟨exponent, last⟩
  simp only [hfraction, hexponent] at h
  have hlast : last = rest := by
    split at h
    · split at h
      · cases h
      · exact (Prod.mk.inj (Option.some.inj h)).2
    · exact (Prod.mk.inj (Option.some.inj h)).2
  subst hlast
  have hne : after' ≠ [] := by
    rintro rfl
    cases hexponent
    exact ends.ne_nil rfl
  have hdot : after' ≠ ['.'] := by
    rintro rfl
    cases hexponent
    exact (ends.head_ne rfl).1 rfl
  refine ⟨?_, ?_⟩
  · rintro rfl
    cases hfraction
    exact hne rfl
  · simp only [scanFraction_append q hfraction hne hdot, scanExponent_append q hexponent ends]
    split at h
    · rename_i hint
      rw [if_pos hint]
      split at h
      · cases h
      · rename_i hlen
        rw [if_neg hlen, (Prod.mk.inj (Option.some.inj h)).1]
    · rename_i hint
      rw [if_neg hint, (Prod.mk.inj (Option.some.inj h)).1]

theorem scanMagnitude_append {negative : Bool} {cs rest : List Char} {v : Json} (q : List Char)
    (h : scanMagnitude negative cs = some (v, rest)) (ends : Ends rest) :
    scanMagnitude negative (cs ++ q) = some (v, rest ++ q) := by
  cases cs with
  | nil => cases h
  | cons c tail =>
    rw [List.cons_append, scanMagnitude_cons] at *
    obtain ⟨⟨whole, after⟩, hwhole, h⟩ := Option.bind_eq_some_iff.1 h
    obtain ⟨hne, hafter⟩ := scanAfter_append q h ends
    rw [scanWhole_append q hwhole hne, Option.bind_some, hafter]

theorem scanMagnitude_head {negative : Bool} {c : Char} {cs : List Char} {r : Json × List Char}
    (h : scanMagnitude negative (c :: cs) = some r) : isDigit09 c = true := by
  rw [scanMagnitude_cons] at h
  obtain ⟨p, hp, -⟩ := Option.bind_eq_some_iff.1 h
  unfold scanWhole at hp
  by_cases hc : c = '0'
  · rw [hc]
    decide
  · rw [if_neg hc] at hp
    by_contra hd
    rw [if_neg hd] at hp
    cases hp

/-- A number starts with a digit, or with a sign in front of a digit. -/
theorem scanNumber_head {cs : List Char} {r : Json × List Char} (h : scanNumber cs = some r) :
    ∃ c tail, cs = c :: tail ∧
      (isDigit09 c = true ∨ ∃ d tail', c = '-' ∧ tail = d :: tail' ∧ isDigit09 d = true) := by
  cases cs with
  | nil => cases h
  | cons c tail =>
    refine ⟨c, tail, rfl, ?_⟩
    by_cases hc : c = '-'
    · subst hc
      rw [scanNumber] at h
      cases tail with
      | nil => cases h
      | cons d tail' => exact .inr ⟨d, tail', rfl, rfl, scanMagnitude_head h⟩
    · rw [scanNumber.eq_2 _ (by simp [hc])] at h
      exact .inl (scanMagnitude_head h)

theorem scanNumber_append {cs rest : List Char} {v : Json} (q : List Char)
    (h : scanNumber cs = some (v, rest)) (ends : Ends rest) : scanNumber (cs ++ q) = some (v, rest ++ q) := by
  obtain ⟨c, tail, rfl, -⟩ := scanNumber_head h
  by_cases hc : c = '-'
  · subst hc
    rw [List.cons_append, scanNumber] at *
    exact scanMagnitude_append q h ends
  · rw [List.cons_append, scanNumber.eq_2 _ (by simp [hc])] at *
    exact scanMagnitude_append q h ends

/-! ## Values -/

theorem scanValue_ne_nil {n : ℕ} {cs : List Char} {r : Json × List Char} (h : scanValue n cs = some r) :
    cs ≠ [] := by
  rintro rfl
  cases n with
  | zero => cases h
  | succ n => cases h

theorem scanItems_ne_nil {n : ℕ} {cs : List Char} {r : List Json × List Char} (h : scanItems n cs = some r) :
    cs ≠ [] := by
  cases n with
  | zero => cases h
  | succ n =>
    rw [scanItems] at h
    obtain ⟨p, hp, -⟩ := Option.bind_eq_some_iff.1 h
    exact scanValue_ne_nil hp

theorem scanFields_ne_nil {n : ℕ} {cs : List Char} {r : List (String × Json) × List Char}
    (h : scanFields n cs = some r) : cs ≠ [] := by
  rintro rfl
  cases n with
  | zero => cases h
  | succ n => cases h

/-- A scan that ended before a separator or a bracket ends there whatever follows, and however deep it
may go.  The scan of an object always does. -/
theorem scan_append (q : List Char) (n : ℕ) :
    (∀ m, n ≤ m → ∀ cs v rest, scanValue n cs = some (v, rest) → Ends rest ∨ cs.head? = some '{' →
      scanValue m (cs ++ q) = some (v, rest ++ q)) ∧
    (∀ m, n ≤ m → ∀ cs vs rest, scanItems n cs = some (vs, rest) →
      scanItems m (cs ++ q) = some (vs, rest ++ q)) ∧
    ∀ m, n ≤ m → ∀ cs fs rest, scanFields n cs = some (fs, rest) →
      scanFields m (cs ++ q) = some (fs, rest ++ q) := by
  induction n with
  | zero =>
    refine ⟨fun m _ cs v rest h => ?_, fun m _ cs vs rest h => ?_, fun m _ cs fs rest h => ?_⟩
    · rw [scanValue] at h
      cases h
    · rw [scanItems] at h
      cases h
    · rw [scanFields] at h
      cases h
  | succ n ih =>
    obtain ⟨value, items, fields⟩ := ih
    refine ⟨fun m hm cs v rest h ends => ?_, fun m hm cs vs rest h => ?_, fun m hm cs fs rest h => ?_⟩ <;>
      obtain ⟨m, rfl⟩ := Nat.exists_eq_add_of_le' (Nat.le_trans (Nat.succ_le_succ (Nat.zero_le n)) hm) <;>
      replace hm : n ≤ m := Nat.le_of_succ_le_succ hm
    · rw [scanValue.eq_def] at h
      split at h
      · cases h
      iterate 6
        cases h
        rfl
      · obtain ⟨⟨t, after⟩, ht, h⟩ := Option.bind_eq_some_iff.1 h
        cases h
        rw [List.cons_append, scanValue, scanString_append q _ _ _ ht]
        rfl
      · rename_i n' cs heq
        obtain rfl : n = n' := Nat.succ.inj heq
        rw [List.cons_append, scanValue]
        split at h
        · rename_i last hspace
          cases h
          rw [skipSpace_append_cons q hspace]
          rfl
        · rename_i hne
          obtain ⟨⟨vs, after⟩, hread, h⟩ := Option.bind_eq_some_iff.1 h
          cases h
          have hread' := items m hm _ _ _ hread
          rw [skipSpace_append q (scanItems_ne_nil hread)]
          rcases hspace : skipSpace cs with _ | ⟨c, tail⟩
          · exact absurd hspace (scanItems_ne_nil hread)
          rw [hspace] at hread'
          split
          · rename_i heq
            obtain ⟨rfl, -⟩ := List.cons.inj heq
            exact (hne tail hspace).elim
          · rw [hread']
            rfl
      · rename_i n' cs heq
        obtain rfl : n = n' := Nat.succ.inj heq
        rw [List.cons_append, scanValue]
        split at h
        · rename_i last hspace
          cases h
          rw [skipSpace_append_cons q hspace]
          rfl
        · rename_i hne
          obtain ⟨⟨fs, after⟩, hread, h⟩ := Option.bind_eq_some_iff.1 h
          cases h
          have hread' := fields m hm _ _ _ hread
          rw [skipSpace_append q (scanFields_ne_nil hread)]
          rcases hspace : skipSpace cs with _ | ⟨c, tail⟩
          · exact absurd hspace (scanFields_ne_nil hread)
          rw [hspace] at hread'
          split
          · rename_i heq
            obtain ⟨rfl, -⟩ := List.cons.inj heq
            exact (hne tail hspace).elim
          · rw [hread']
            rfl
      · obtain ⟨c, tail, rfl, hhead⟩ := scanNumber_head h
        replace ends : Ends rest := by
          refine ends.resolve_right fun hbrace => ?_
          cases Option.some.inj hbrace
          rcases hhead with hd | ⟨d, tail', hminus, -⟩
          · exact absurd hd (by decide)
          · exact absurd hminus (by decide)
        rw [List.cons_append, scanValue_number, ← List.cons_append, scanNumber_append q h ends]
        rcases hhead with hd | ⟨d, tail', rfl, rfl, hd⟩
        · exact .inr hd
        · refine .inl ⟨rfl, ?_⟩
          rintro heq
          cases Option.some.inj heq
          exact absurd hd (by decide)
    · rw [scanItems] at h ⊢
      obtain ⟨⟨v, after⟩, hv, h⟩ := Option.bind_eq_some_iff.1 h
      dsimp only at h
      split at h
      · rename_i last hspace
        cases h
        rw [value m hm _ _ _ hv (.inl (ends_of_skipSpace hspace (by simp)))]
        simp [skipSpace_append_cons q hspace]
      · rename_i more hspace
        obtain ⟨⟨ws, last⟩, hws, h⟩ := Option.bind_eq_some_iff.1 h
        cases h
        rw [value m hm _ _ _ hv (.inl (ends_of_skipSpace hspace (by simp)))]
        simp [skipSpace_append_cons q hspace, skipSpace_append q (scanItems_ne_nil hws), items m hm _ _ _ hws]
      · cases h
    · rw [scanFields.eq_def] at h
      split at h
      · cases h
      · rename_i n' cs heq
        obtain rfl : n = n' := Nat.succ.inj heq
        obtain ⟨⟨k, after⟩, hk, h⟩ := Option.bind_eq_some_iff.1 h
        rw [List.cons_append, scanFields, scanString_append q _ _ _ hk, Option.bind_eq_bind, Option.bind_some]
        dsimp only at h ⊢
        split at h
        · rename_i colon hcolon
          obtain ⟨⟨v, after⟩, hv, h⟩ := Option.bind_eq_some_iff.1 h
          simp only [skipSpace_append_cons q hcolon, skipSpace_append q (scanValue_ne_nil hv)]
          dsimp only at h
          split at h
          · rename_i last hspace
            cases h
            rw [value m hm _ _ _ hv (.inl (ends_of_skipSpace hspace (by simp)))]
            simp [skipSpace_append_cons q hspace]
          · rename_i more hspace
            obtain ⟨⟨gs, last⟩, hgs, h⟩ := Option.bind_eq_some_iff.1 h
            cases h
            rw [value m hm _ _ _ hv (.inl (ends_of_skipSpace hspace (by simp)))]
            simp [skipSpace_append_cons q hspace, skipSpace_append q (scanFields_ne_nil hgs), fields m hm _ _ _ hgs]
          · cases h
        · cases h
      · cases h

/-- The text of an object is not read with its end cut off. -/
theorem loads_take (ascii : Bool) {fields : List (String × Json)} (h : plain (obj fields) = true) {k : ℕ}
    (hk : k < (encode ascii true (obj fields)).length) :
    loads (.ofList ((encode ascii true (obj fields)).take k)) = none := by
  have start : encode ascii true (obj fields) =
      '{' :: (encodeMembers ascii true (encodeFields ascii true fields) ++ ['}']) := rfl
  have whole := scanValue_encode ascii (plain_canonical _ h) (n := (encode ascii true (obj fields)).length + 1)
    (by rw [← encode_canonical]; omega) stops_nil
  rw [← encode_canonical, List.append_nil] at whole
  cases k with
  | zero => rfl
  | succ k =>
    generalize encode ascii true (obj fields) = text at start whole hk ⊢
    have hsplit := List.take_append_drop (k + 1) text
    have cut : text.drop (k + 1) ≠ [] := by simpa using hk
    have short : (text.take (k + 1)).length ≤ text.length := List.length_take_le' _ _
    have brace : (text.take (k + 1)).head? = some '{' := by
      rw [start]
      rfl
    generalize text.take (k + 1) = p at hsplit short brace ⊢
    have keep : skipSpace p = p := by
      cases p with
      | nil => cases brace
      | cons c p =>
        obtain rfl := Option.some.inj brace
        exact skipSpace_start p (by decide)
    rw [loads, String.toList_ofList, keep]
    rcases hscan : scanValue (p.length + 1) p with _ | ⟨v, rest⟩
    · rfl
    · have more := (scan_append (text.drop (k + 1)) _).1 (text.length + 1) (by omega) p v rest hscan (.inr brace)
      rw [hsplit, whole] at more
      have hnil := (Prod.mk.inj (Option.some.inj more)).2
      exact absurd (List.append_eq_nil_iff.1 hnil.symm).2 cut

/-- Nothing but space may follow a value. -/
theorem loads_append (ascii : Bool) {v : Json} (h : plain v = true) {rest : List Char} (stops : Stops rest)
    (extra : skipSpace rest ≠ []) : loads (.ofList (encode ascii true v ++ rest)) = none := by
  have hc := plain_canonical v h
  have hscan := scanValue_encode ascii hc (n := (encode ascii false (canonical v) ++ rest).length + 1)
    (by rw [List.length_append]; omega) stops
  rw [loads, String.toList_ofList, encode_canonical, skipSpace_encode ascii hc, hscan]
  dsimp only
  rw [if_neg (by simpa using extra)]

end Python.Json
