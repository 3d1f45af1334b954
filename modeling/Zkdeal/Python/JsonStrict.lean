import Mathlib.Data.List.Forall2
import Zkdeal.Python.Json

/-!
# Strict reading of JSON

`json.loads(s, object_pairs_hook=...)` with a hook that raises at a key that an object has twice.  The
hook sees an object when its closing brace is read, so an error of the hook may come before a
malformed part of the text.
-/

namespace Python

/-- What a `do` block returns when it raises nothing. -/
theorem bind_eq_ok {ε α β : Type} {x : Except ε α} {f : α → Except ε β} {b : β} :
    x >>= f = .ok b ↔ ∃ a, x = .ok a ∧ f a = .ok b := by
  cases x with
  | error e => exact ⟨nofun, fun ⟨_, h, _⟩ => nomatch h⟩
  | ok a => exact ⟨fun h => ⟨a, rfl, h⟩, fun ⟨_, h, hb⟩ => by cases h; exact hb⟩

/-- What `mapM` returns when it raises nothing. -/
theorem map_eq_ok {ε α β : Type} {x : Except ε α} {f : α → β} {b : β} :
    x.map f = .ok b ↔ ∃ a, x = .ok a ∧ f a = b := by
  cases x <;> simp [Except.map]

theorem mapM_eq_ok {ε α β : Type} {f : α → Except ε β} {as : List α} {bs : List β} :
    as.mapM f = .ok bs ↔ List.Forall₂ (fun a b => f a = .ok b) as bs := by
  induction as generalizing bs with
  | nil =>
    rw [List.mapM_nil, List.forall₂_nil_left_iff]
    exact ⟨fun h => (Except.ok.inj h).symm, fun h => by rw [h]; rfl⟩
  | cons a as ih =>
    rw [List.mapM_cons, bind_eq_ok, List.forall₂_cons_left_iff]
    constructor
    · rintro ⟨b, hb, h⟩
      obtain ⟨bs, hbs, h⟩ := bind_eq_ok.1 h
      exact ⟨b, bs, hb, ih.1 hbs, (Except.ok.inj h).symm⟩
    · rintro ⟨b, bs, hb, hbs, rfl⟩
      exact ⟨b, hb, bind_eq_ok.2 ⟨bs, ih.2 hbs, rfl⟩⟩

theorem exists_mapM_eq_ok {ε α β : Type} {f : α → Except ε β} {as : List α} (h : ∀ a ∈ as, ∃ b, f a = .ok b) :
    ∃ bs, as.mapM f = .ok bs := by
  induction as with
  | nil => exact ⟨[], rfl⟩
  | cons a as ih =>
    obtain ⟨b, hb⟩ := h a (by simp)
    obtain ⟨bs, hbs⟩ := ih fun d hd => h d (by simp [hd])
    exact ⟨b :: bs, mapM_eq_ok.2 (.cons hb (mapM_eq_ok.1 hbs))⟩

theorem mapM_mem_left {ε α β : Type} {f : α → Except ε β} {as : List α} {bs : List β} (h : as.mapM f = .ok bs)
    {a : α} (ha : a ∈ as) : ∃ b ∈ bs, f a = .ok b := by
  have all := mapM_eq_ok.1 h
  clear h
  induction all with
  | nil => cases ha
  | cons head _ ih =>
    rcases List.mem_cons.1 ha with rfl | ha
    · exact ⟨_, by simp, head⟩
    · obtain ⟨b, hb, heq⟩ := ih ha
      exact ⟨b, by simp [hb], heq⟩

theorem mapM_mem_right {ε α β : Type} {f : α → Except ε β} {as : List α} {bs : List β} (h : as.mapM f = .ok bs)
    {b : β} (hb : b ∈ bs) : ∃ a ∈ as, f a = .ok b := by
  have all := mapM_eq_ok.1 h
  clear h
  induction all with
  | nil => cases hb
  | cons head _ ih =>
    rcases List.mem_cons.1 hb with rfl | hb
    · exact ⟨_, by simp, head⟩
    · obtain ⟨a, ha, heq⟩ := ih hb
      exact ⟨a, by simp [ha], heq⟩

namespace Json

/-- Why a text is not read. -/
inductive Unread : Type where
  | malformed
  | duplicate (key : String)

/-- The first key that repeats an earlier one. -/
def repeatedKey : List String → List String → Option String
  | _, [] => none
  | seen, key :: keys => if key ∈ seen then some key else repeatedKey (key :: seen) keys

/-- The object that the hook returns for its items. -/
def hooked (items : List (String × Json)) : Except Unread Json :=
  match repeatedKey [] (items.map Prod.fst) with
  | some key => .error (.duplicate key)
  | none => .ok (obj items)

def orMalformed {α : Type} : Option α → Except Unread α
  | some a => .ok a
  | none => .error .malformed

mutual

/-- A value, and what follows it.  The first argument bounds the depth of the recursion. -/
def strictValue : ℕ → List Char → Except Unread (Json × List Char)
  | n + 1, '[' :: cs =>
    match skipSpace cs with
    | ']' :: rest => .ok (arr [], rest)
    | cs => do
      let (items, rest) ← strictItems n cs
      return (arr items, rest)
  | n + 1, '{' :: cs =>
    match skipSpace cs with
    | '}' :: rest => .ok (obj [], rest)
    | cs => do
      let (items, rest) ← strictFields n cs
      return (← hooked items, rest)
  | n, cs => orMalformed (scanValue n cs)

/-- The items of an array, up to its closing bracket. -/
def strictItems : ℕ → List Char → Except Unread (List Json × List Char)
  | 0, _ => .error .malformed
  | n + 1, cs => do
    let (v, rest) ← strictValue n cs
    match skipSpace rest with
    | ']' :: rest => return ([v], rest)
    | ',' :: rest =>
      let (vs, rest) ← strictItems n (skipSpace rest)
      return (v :: vs, rest)
    | _ => .error .malformed

/-- The items of an object, up to its closing brace. -/
def strictFields : ℕ → List Char → Except Unread (List (String × Json) × List Char)
  | 0, _ => .error .malformed
  | n + 1, '"' :: cs => do
    let (k, rest) ← orMalformed (scanString cs)
    match skipSpace rest with
    | ':' :: rest =>
      let (v, rest) ← strictValue n (skipSpace rest)
      match skipSpace rest with
      | '}' :: rest => return ([(.ofList k, v)], rest)
      | ',' :: rest =>
        let (fs, rest) ← strictFields n (skipSpace rest)
        return ((.ofList k, v) :: fs, rest)
      | _ => .error .malformed
    | _ => .error .malformed
  | _ + 1, _ => .error .malformed

end

/-- `json.loads(s, object_pairs_hook=no_duplicates)` -/
def strictLoads (s : String) : Except Unread Json := do
  let (v, rest) ← strictValue (s.toList.length + 1) (skipSpace s.toList)
  if (skipSpace rest).isEmpty then return v else .error .malformed

/-! ## Agreement with `json.loads` -/

theorem repeatedKey_eq_none {seen keys : List String} (h : repeatedKey seen keys = none) :
    keys.Nodup ∧ ∀ key ∈ keys, key ∉ seen := by
  induction keys generalizing seen with
  | nil => exact ⟨List.nodup_nil, nofun⟩
  | cons key keys ih =>
    rw [repeatedKey] at h
    split at h
    · cases h
    · rename_i fresh
      have rest := ih h
      refine ⟨List.nodup_cons.2 ⟨fun hmem => rest.2 key hmem (by simp), rest.1⟩, ?_⟩
      rw [List.forall_mem_cons]
      exact ⟨fresh, fun k hk hseen => rest.2 k hk (by simp [hseen])⟩

theorem repeatedKey_of_nodup {seen keys : List String} (h : keys.Nodup) (fresh : ∀ key ∈ keys, key ∉ seen) :
    repeatedKey seen keys = none := by
  induction keys generalizing seen with
  | nil => rfl
  | cons key keys ih =>
    rw [List.nodup_cons] at h
    rw [List.forall_mem_cons] at fresh
    rw [repeatedKey, if_neg fresh.1]
    refine ih h.2 fun k hk => ?_
    rw [List.mem_cons, not_or]
    exact ⟨fun heq => h.1 (heq ▸ hk), fresh.2 k hk⟩

theorem hooked_eq_ok {items : List (String × Json)} {v : Json} :
    hooked items = .ok v ↔ (items.map Prod.fst).Nodup ∧ v = obj items := by
  unfold hooked
  split
  · rename_i key hkey
    refine ⟨nofun, fun h => ?_⟩
    rw [repeatedKey_of_nodup h.1 (by simp)] at hkey
    cases hkey
  · rename_i hnone
    exact ⟨fun h => ⟨(repeatedKey_eq_none hnone).1, (Except.ok.inj h).symm⟩, fun h => by rw [h.2]⟩

theorem orMalformed_eq_ok {α : Type} {o : Option α} {a : α} : orMalformed o = .ok a ↔ o = some a := by
  cases o <;> simp [orMalformed]

/-- Setting keys that are not there yet puts them at the end. -/
theorem foldl_set_nodup (fields acc : List (String × Json)) (h : ((acc ++ fields).map Prod.fst).Nodup) :
    fields.foldl (fun d kv => Dict.set d kv.1 kv.2) acc = acc ++ fields := by
  induction fields generalizing acc with
  | nil => simp
  | cons kv fields ih =>
    have fresh : Dict.get acc kv.1 = none := by
      unfold Dict.get
      rw [List.lookup_eq_none_iff]
      intro e he
      rw [List.map_append, List.nodup_append] at h
      have := h.2.2 e.1 (List.mem_map_of_mem he) kv.1 (by simp)
      simpa using Ne.symm this
    have set : Dict.set acc kv.1 kv.2 = acc ++ [kv] := by
      rw [Dict.set, fresh]
      simp
    rw [List.foldl_cons, set, ih _ (by simpa using h)]
    simp

theorem ofItems_nodup {fields : List (String × Json)} (h : (fields.map Prod.fst).Nodup) :
    Dict.ofItems fields = fields := foldl_set_nodup fields [] (by simpa using h)

/-- What is read strictly is read by `json.loads` too. -/
theorem scan_of_strict (n : ℕ) :
    (∀ cs rest v, strictValue n cs = .ok (v, rest) → scanValue n cs = some (v, rest)) ∧
      (∀ cs rest vs, strictItems n cs = .ok (vs, rest) → scanItems n cs = some (vs, rest)) ∧
      ∀ cs rest fs, strictFields n cs = .ok (fs, rest) → scanFields n cs = some (fs, rest) := by
  induction n with
  | zero =>
    refine ⟨fun cs rest v h => ?_, fun cs rest vs h => ?_, fun cs rest fs h => ?_⟩
    · exact orMalformed_eq_ok.1 (by rwa [strictValue] at h <;> simp)
    · rw [strictItems] at h
      cases h
    · rw [strictFields] at h
      cases h
  | succ n ih =>
    obtain ⟨value, items, fields⟩ := ih
    refine ⟨fun cs rest v h => ?_, fun cs rest vs h => ?_, fun cs rest fs h => ?_⟩
    · rw [strictValue.eq_def] at h
      split at h
      · rename_i m tail heq
        obtain rfl : n = m := Nat.succ.inj heq
        split at h
        · rename_i hspace
          rw [scanValue, hspace]
          cases h
          rfl
        · rename_i hne
          rw [scanValue]
          obtain ⟨⟨vs, after⟩, hitems, h⟩ := bind_eq_ok.1 h
          cases h
          split
          · rename_i hspace
            exact absurd hspace (hne _)
          · rw [items _ _ _ hitems]
            rfl
      · rename_i m tail heq
        obtain rfl : n = m := Nat.succ.inj heq
        split at h
        · rename_i hspace
          rw [scanValue, hspace]
          cases h
          rfl
        · rename_i hne
          rw [scanValue]
          obtain ⟨⟨fs, after⟩, hfields, h⟩ := bind_eq_ok.1 h
          obtain ⟨w, hw, h⟩ := bind_eq_ok.1 h
          cases h
          obtain ⟨nodup, rfl⟩ := hooked_eq_ok.1 hw
          split
          · rename_i hspace
            exact absurd hspace (hne _)
          · rw [fields _ _ _ hfields]
            simp [ofItems_nodup nodup]
      · exact orMalformed_eq_ok.1 h
    · rw [strictItems] at h
      obtain ⟨⟨v, after⟩, hv, h⟩ := bind_eq_ok.1 h
      dsimp only at h
      split at h
      · rename_i hspace
        rw [scanItems, value _ _ _ hv, Option.bind_eq_bind, Option.bind_some]
        dsimp only
        rw [hspace]
        cases h
        rfl
      · rename_i hspace
        obtain ⟨⟨ws, more⟩, hws, h⟩ := bind_eq_ok.1 h
        cases h
        rw [scanItems, value _ _ _ hv, Option.bind_eq_bind, Option.bind_some]
        dsimp only
        rw [hspace]
        simp [items _ _ _ hws]
      · cases h
    · rw [strictFields.eq_def] at h
      split at h
      · cases h
      · rename_i m tail heq
        obtain rfl : n = m := Nat.succ.inj heq
        obtain ⟨⟨k, after⟩, hk, h⟩ := bind_eq_ok.1 h
        dsimp only at h
        split at h
        · rename_i colon hcolon
          obtain ⟨⟨v, more⟩, hv, h⟩ := bind_eq_ok.1 h
          dsimp only at h
          split at h
          · rename_i hspace
            cases h
            rw [scanFields, orMalformed_eq_ok.1 hk, Option.bind_eq_bind, Option.bind_some]
            dsimp only
            rw [hcolon]
            simp [value _ _ _ hv, hspace]
          · rename_i hspace
            obtain ⟨⟨gs, last⟩, hgs, h⟩ := bind_eq_ok.1 h
            cases h
            rw [scanFields, orMalformed_eq_ok.1 hk, Option.bind_eq_bind, Option.bind_some]
            dsimp only
            rw [hcolon]
            simp [value _ _ _ hv, hspace, fields _ _ _ hgs]
          · cases h
        · cases h
      · cases h

theorem loads_of_strict {s : String} {v : Json} (h : strictLoads s = .ok v) : loads s = some v := by
  obtain ⟨⟨w, rest⟩, hscan, h⟩ := bind_eq_ok.1 h
  dsimp only at h
  rw [loads, (scan_of_strict _).1 _ _ _ hscan]
  dsimp only
  split at h
  · rename_i empty
    rw [if_pos empty, Except.ok.inj h]
  · cases h

end Json

/-! ## Texts of errors -/

/-- `repr(s)` for a text whose characters other than quotes, backslashes and line ends are printable. -/
def reprStr (s : String) : String :=
  let quote := if s.toList.contains '\'' && !s.toList.contains '"' then '"' else '\''
  .ofList (quote :: s.toList.flatMap (fun c =>
    if c = quote ∨ c = '\\' then ['\\', c]
    else if c = '\n' then ['\\', 'n'] else if c = '\r' then ['\\', 'r'] else if c = '\t' then ['\\', 't']
    else [c]) ++ [quote])

/-- `repr(sorted(texts))` -/
def reprSorted (texts : List String) : String :=
  "[" ++ ", ".intercalate ((texts.insertionSort (· ≤ ·)).map reprStr) ++ "]"

end Python
