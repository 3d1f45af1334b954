import Mathlib.Data.List.DropRight
import Zkdeal.Python.Url

/-!
# Base URLs

The services take the URL of another service apart with `urlsplit`, drop the slashes at its end and put it
together with `urlunsplit`; a request goes to that text followed by a path.  The text has the parts of
the URL it was made of, and a path does not change the host that the request is sent to.
-/

namespace Python

/-- `urlunsplit((scheme, netloc, path, "", ""))` for a nonempty scheme and network location, and a path
that is empty or starts with a slash. -/
def urlunsplitPath (scheme netloc path : List Char) : String :=
  .ofList (scheme ++ ':' :: '/' :: '/' :: (netloc ++ path))

/-- `path.rstrip("/")` -/
def rstripSlashes (path : List Char) : List Char := path.rdropWhile (· == '/')

/-- The base URL that a service keeps of a URL. -/
def SplitResult.base (p : SplitResult) : String := urlunsplitPath p.scheme p.netloc (rstripSlashes p.path)

/-- A scheme of HTTP. -/
def ParseResult.isHttp (p : ParseResult) : Bool := p.scheme = "http".toList || p.scheme = "https".toList

theorem ParseResult.isHttp_iff {p : ParseResult} :
    p.isHttp = true ↔ p.scheme = "http".toList ∨ p.scheme = "https".toList := by
  simp [isHttp]

/-- A URL with a host has a network location. -/
theorem ParseResult.netloc_ne_nil {p : ParseResult} (h : p.hostname ≠ "") : p.netloc ≠ [] := by
  intro empty
  refine h ?_
  obtain ⟨scheme, netloc, fragment⟩ := p
  obtain rfl : netloc = [] := empty
  rfl

/-! ## The parts of a base URL -/

/-- The characters of a path. -/
def isPathChar (c : Char) : Bool := c != '?' && c != '#' && (c != '\t' && c != '\r' && c != '\n')

theorem not_mem_partition {c : Char} {cs : List Char} : c ∉ (partition c cs).1 := by
  induction cs with
  | nil => exact List.not_mem_nil
  | cons d ds ih =>
    unfold partition
    by_cases hd : d = c
    · rw [if_pos hd]
      exact List.not_mem_nil
    · rw [if_neg hd]
      exact fun h => (List.mem_cons.1 h).elim (fun he => hd he.symm) ih

theorem partition_sublist (c : Char) (cs : List Char) : (partition c cs).1.Sublist cs := by
  induction cs with
  | nil => exact List.Sublist.refl _
  | cons d ds ih =>
    unfold partition
    by_cases hd : d = c
    · rw [if_pos hd]
      exact List.nil_sublist _
    · rw [if_neg hd]
      exact ih.cons_cons d

/-- The first character of a text is still the first one before a partition, if it is kept. -/
theorem head_partition {c d : Char} {cs : List Char} (hd : d ≠ c) :
    (partition c (d :: cs)).1 = d :: (partition c cs).1 := by
  rw [partition, if_neg hd]

theorem splitScheme_subset {c : Char} {cs : List Char} (h : c ∈ (splitScheme cs).2) : c ∈ cs := by
  unfold splitScheme at h
  split at h
  · rename_i hp
    split at h
    · rw [eq_of_partition hp]
      exact List.mem_append_right _ (List.mem_cons_of_mem _ h)
    · exact h
  · exact h

/-- After a network location, a path starts with a slash or is empty. -/
theorem path_splitNetloc (cs : List Char) :
    (partition '?' (partition '#' (splitNetloc cs).2).1).1 = [] ∨
      ∃ tail, (partition '?' (partition '#' (splitNetloc cs).2).1).1 = '/' :: tail := by
  rw [splitNetloc, List.span_eq_takeWhile_dropWhile]
  cases h : cs.dropWhile fun c => c != '/' && c != '?' && c != '#' with
  | nil => exact .inl rfl
  | cons c tail =>
    have stop := List.head?_dropWhile_not (fun c : Char => c != '/' && c != '?' && c != '#') cs
    rw [h] at stop
    simp only [List.head?_cons, Bool.and_eq_false_iff, bne_eq_false_iff_eq] at stop
    rcases stop with (rfl | rfl) | rfl
    · exact .inr ⟨_, by rw [head_partition (by decide), head_partition (by decide)]⟩
    · left
      rw [head_partition (by decide), partition, if_pos rfl]
    · left
      rw [partition, if_pos rfl]
      rfl

theorem mem_path {url : String} {p : SplitResult} (h : urlsplit url = some p) :
    (∀ c ∈ p.path, isPathChar c = true) ∧ (p.netloc ≠ [] → p.path = [] ∨ ∃ tail, p.path = '/' :: tail) := by
  have cleaned : ∀ c ∈ (url.toList.dropWhile fun c => c.toNat ≤ 0x20).filter (fun c =>
      c != '\t' && c != '\r' && c != '\n'), (c != '\t' && c != '\r' && c != '\n') = true :=
    fun c hc => (List.mem_filter.1 hc).2
  -- The characters of a path, given those of the text before the fragment and the query.
  have chars {cs rest : List Char} (hcs : ∀ c ∈ cs, (c != '\t' && c != '\r' && c != '\n') = true)
      (hrest : ∀ c ∈ rest, c ∈ cs) :
      ∀ c ∈ (partition '?' (partition '#' rest).1).1, isPathChar c = true := by
    intro c hc
    have query : c ≠ '?' := fun he => not_mem_partition (he ▸ hc)
    have before := (partition_sublist _ _).subset hc
    have fragment : c ≠ '#' := fun he => not_mem_partition (he ▸ before)
    have kept := hcs c (hrest c ((partition_sublist _ _).subset before))
    simp [isPathChar, query, fragment, kept]
  unfold urlsplit at h
  generalize (url.toList.dropWhile fun c => c.toNat ≤ 0x20).filter _ = cs at h cleaned
  have whole : ∀ c ∈ (splitScheme cs).2, c ∈ cs := fun c => splitScheme_subset
  dsimp only at h
  split at h
  · rename_i tail hparts
    have inTail : ∀ c ∈ (splitNetloc tail).2, c ∈ cs := by
      intro c hc
      refine whole c ?_
      rw [hparts, ← splitNetloc_concat tail]
      exact List.mem_cons_of_mem _ (List.mem_cons_of_mem _ (List.mem_append_right _ hc))
    split at h
    · cases h
    split at h
    · cases h
    obtain rfl := Option.some.inj h
    exact ⟨chars cleaned inTail, fun _ => path_splitNetloc tail⟩
  · split at h
    · cases h
    split at h
    · cases h
    obtain rfl := Option.some.inj h
    exact ⟨chars cleaned whole, fun hne => absurd rfl hne⟩

theorem rstripSlashes_spec (path : List Char) :
    (∀ c ∈ rstripSlashes path, c ∈ path) ∧
      (path = [] ∨ (∃ tail, path = '/' :: tail) →
        rstripSlashes path = [] ∨ ∃ tail, rstripSlashes path = '/' :: tail) := by
  have parts : path = rstripSlashes path ++ (path.reverse.takeWhile (· == '/')).reverse := by
    calc path
        = (path.reverse.takeWhile (· == '/') ++ path.reverse.dropWhile (· == '/')).reverse := by
          rw [List.takeWhile_append_dropWhile, List.reverse_reverse]
      _ = _ := by rw [List.reverse_append, rstripSlashes, List.rdropWhile]
  constructor
  · intro c hc
    rw [parts]
    exact List.mem_append_left _ hc
  · intro h
    cases hr : rstripSlashes path with
    | nil => exact .inl rfl
    | cons c cs =>
      rw [hr, List.cons_append] at parts
      rcases h with rfl | ⟨tail, rfl⟩
      · cases parts
      · exact .inr ⟨cs, by rw [(List.cons.inj parts).1]⟩

theorem rstripSlashes_idem (path : List Char) : rstripSlashes (rstripSlashes path) = rstripSlashes path :=
  List.rdropWhile_idempotent _ _

/-- A URL of an `http` scheme, a network location and a path is split into these. -/
theorem urlsplit_urlunsplitPath {scheme netloc path : List Char}
    (hscheme : scheme = "http".toList ∨ scheme = "https".toList)
    (chars : ∀ c ∈ netloc, isNetlocChar c = true)
    (brackets : (netloc.contains '[' != netloc.contains ']') = false)
    (delimiters : netloc.any hidesDelimiter = false) (hpath : ∀ c ∈ path, isPathChar c = true)
    (slash : path = [] ∨ ∃ tail, path = '/' :: tail) :
    urlsplit (urlunsplitPath scheme netloc path) =
      some { scheme, netloc, fragment := [], path, query := [] } := by
  have plain : ∀ c ∈ netloc, (c != '/' && c != '?' && c != '#') = true ∧
      (c != '\t' && c != '\r' && c != '\n') = true := by
    intro c hc
    have := chars c hc
    unfold isNetlocChar at this
    exact Bool.and_eq_true _ _ ▸ this
  have pathChars : ∀ c ∈ path, c ≠ '?' ∧ c ≠ '#' ∧ (c != '\t' && c != '\r' && c != '\n') = true := by
    intro c hc
    simpa [isPathChar, and_assoc] using hpath c hc
  have split : splitNetloc (netloc ++ path) = (netloc, path) := by
    have whole : (netloc ++ path).takeWhile (fun c => c != '/' && c != '?' && c != '#') = netloc := by
      rw [List.takeWhile_append_of_pos fun c hc => (plain c hc).1]
      rcases slash with rfl | ⟨tail, rfl⟩ <;> simp
    have rest : (netloc ++ path).dropWhile (fun c => c != '/' && c != '?' && c != '#') = path := by
      rw [List.dropWhile_append_of_pos fun c hc => (plain c hc).1]
      rcases slash with rfl | ⟨tail, rfl⟩ <;> simp
    rw [splitNetloc, List.span_eq_takeWhile_dropWhile, whole, rest]
  have kept : (netloc ++ path).filter (fun c => c != '\t' && c != '\r' && c != '\n') = netloc ++ path := by
    refine List.filter_eq_self.2 fun c hc => ?_
    exact (List.mem_append.1 hc).elim (fun h => (plain c h).2) (fun h => (pathChars c h).2.2)
  have scheme_ : ∀ rest, splitScheme (scheme ++ ':' :: rest) = (scheme, rest) := by
    rcases hscheme with rfl | rfl <;> intro rest <;> rfl
  have text : ((scheme ++ ':' :: '/' :: '/' :: (netloc ++ path)).dropWhile fun c => c.toNat ≤ 0x20).filter (fun c =>
      c != '\t' && c != '\r' && c != '\n') = scheme ++ ':' :: '/' :: '/' :: (netloc ++ path) := by
    have http : "http".toList = ['h', 't', 't', 'p'] := by decide
    have https : "https".toList = ['h', 't', 't', 'p', 's'] := by decide
    rcases hscheme with rfl | rfl
    · rw [http]
      simpa using kept
    · rw [https]
      simpa using kept
  have noFragment : partition '#' path = (path, none) :=
    partition_of_not_mem fun h => (pathChars _ h).2.1 rfl
  have noQuery : partition '?' path = (path, none) := partition_of_not_mem fun h => (pathChars _ h).1 rfl
  unfold urlsplit urlunsplitPath
  rw [String.toList_ofList, text]
  simp only [scheme_, split, brackets, delimiters, noFragment, noQuery]
  rfl

/-- A base URL has the parts of the URL it was made of. -/
theorem urlsplit_base {url : String} {p : SplitResult} (h : urlsplit url = some p) (http : p.isHttp = true)
    (host : p.hostname ≠ "") :
    urlsplit p.base =
      some { p with fragment := [], path := rstripSlashes p.path, query := [] } := by
  obtain ⟨chars, brackets, delimiters⟩ := mem_netloc h
  obtain ⟨hpath, slash⟩ := mem_path h
  obtain ⟨sub, keeps⟩ := rstripSlashes_spec p.path
  exact urlsplit_urlunsplitPath (ParseResult.isHttp_iff.1 http) chars brackets delimiters
    (fun c hc => hpath c (sub c hc)) (keeps (slash (ParseResult.netloc_ne_nil host)))

/-! ## Requests below a base URL -/

/-- The host, with its port, that `urllib.request` connects to for a URL. -/
def requestHost (url : String) : Option (List Char) :=
  match partition ':' (withoutFragment (unwrap url.toList)) with
  | (_, some ('/' :: '/' :: rest)) => some (splitNetloc rest).1
  | _ => none

theorem partition_at {c : Char} {front : List Char} (h : c ∉ front) (rest : List Char) :
    partition c (front ++ c :: rest) = (front, some rest) := by
  induction front with
  | nil => rw [List.nil_append, partition, if_pos rfl]
  | cons d front ih =>
    rw [List.mem_cons, not_or] at h
    rw [List.cons_append, partition, if_neg (Ne.symm h.1), ih h.2]

/-- Stripping the space off a text keeps what is before a slash. -/
theorem stripChars_slash {c : Char} (front tail : List Char) (hc : isSpace c = false) :
    ∃ tail', stripChars (c :: front ++ '/' :: tail) = c :: front ++ '/' :: tail' := by
  have start : (c :: front ++ '/' :: tail).dropWhile isSpace = c :: front ++ '/' :: tail := by
    rw [List.cons_append, List.dropWhile_cons_of_neg (by simp [hc])]
  rw [stripChars, start, List.reverse_append, List.reverse_cons, List.append_assoc, List.dropWhile_append]
  split
  · refine ⟨[], ?_⟩
    rw [List.singleton_append, List.dropWhile_cons_of_neg (by decide)]
    simp
  · exact ⟨(tail.reverse.dropWhile isSpace).reverse, by simp⟩

theorem withoutFragment_slash {front : List Char} (tail : List Char) (h : '#' ∉ front) :
    ∃ tail', withoutFragment (front ++ '/' :: tail) = front ++ '/' :: tail' := by
  by_cases ht : '#' ∈ tail
  · obtain ⟨after, before, hp⟩ := exists_partition (List.mem_reverse.2 ht)
    have hp' := partition_append hp ('/' :: front.reverse)
    refine ⟨before.reverse, ?_⟩
    rw [withoutFragment, rpartition]
    simp [hp']
  · refine ⟨tail, withoutFragment_of_not_mem ?_⟩
    simp [h, ht]

/-- A request for a base URL and a path goes to the host of the base URL. -/
theorem requestHost_urlunsplitPath {scheme netloc path : List Char}
    (hscheme : scheme = "http".toList ∨ scheme = "https".toList)
    (chars : ∀ c ∈ netloc, isNetlocChar c = true) (slash : path = [] ∨ ∃ tail, path = '/' :: tail)
    (more : List Char) :
    requestHost (urlunsplitPath scheme netloc path ++ .ofList ('/' :: more)) = some netloc := by
  have http : "http".toList = ['h', 't', 't', 'p'] := by decide
  have https : "https".toList = ['h', 't', 't', 'p', 's'] := by decide
  obtain ⟨s, hs⟩ : ∃ s, scheme = 'h' :: s ∧ '#' ∉ scheme ∧ ':' ∉ scheme := by
    rcases hscheme with rfl | rfl
    · exact ⟨['t', 't', 'p'], by decide⟩
    · exact ⟨['t', 't', 'p', 's'], by decide⟩
  have plain : ∀ c ∈ netloc, (c != '/' && c != '?' && c != '#') = true := by
    intro c hc
    have := chars c hc
    unfold isNetlocChar at this
    exact (Bool.and_eq_true _ _ ▸ this).1
  -- The first slash after the network location is one of the path, or the one that follows it.
  obtain ⟨tail, htail⟩ : ∃ tail, path ++ '/' :: more = '/' :: tail := by
    rcases slash with rfl | ⟨tail, rfl⟩
    · exact ⟨more, rfl⟩
    · exact ⟨tail ++ '/' :: more, rfl⟩
  have text : (urlunsplitPath scheme netloc path ++ .ofList ('/' :: more)).toList =
      'h' :: (s ++ ':' :: '/' :: '/' :: netloc) ++ '/' :: tail := by
    rw [String.toList_append, urlunsplitPath, String.toList_ofList, String.toList_ofList, hs.1, ← htail]
    simp
  have noHash : '#' ∉ 'h' :: (s ++ ':' :: '/' :: '/' :: netloc) := by
    have inScheme : '#' ∉ 'h' :: s := hs.1 ▸ hs.2.1
    have inNetloc : '#' ∉ netloc := fun h => absurd (plain _ h) (by decide)
    simp only [List.mem_cons, List.mem_append, not_or] at inScheme ⊢
    exact ⟨inScheme.1, inScheme.2, by decide, by decide, by decide, inNetloc⟩
  obtain ⟨tail₁, hstrip⟩ := stripChars_slash (s ++ ':' :: '/' :: '/' :: netloc) tail (show isSpace 'h' = false by decide)
  obtain ⟨tail₂, hfragment⟩ := withoutFragment_slash tail₁ noHash
  have hunwrap : unwrap ('h' :: (s ++ ':' :: '/' :: '/' :: netloc) ++ '/' :: tail) =
      'h' :: (s ++ ':' :: '/' :: '/' :: netloc) ++ '/' :: tail₁ := by
    have noBracket : ¬(('h' :: (s ++ ':' :: '/' :: '/' :: netloc) ++ '/' :: tail₁).head? = some '<' ∧
        ('h' :: (s ++ ':' :: '/' :: '/' :: netloc) ++ '/' :: tail₁).getLast? = some '>') :=
      fun h => absurd h.1 (by simp)
    have noPrefix : ('h' :: (s ++ ':' :: '/' :: '/' :: netloc) ++ '/' :: tail₁).take 4 ≠ ['U', 'R', 'L', ':'] :=
      fun h => absurd (List.cons.inj h).1 (by decide)
    unfold unwrap
    rw [hstrip]
    dsimp only
    rw [if_neg noBracket, if_neg noPrefix]
  have hcolon : partition ':' ('h' :: (s ++ ':' :: '/' :: '/' :: netloc) ++ '/' :: tail₂) =
      (scheme, some ('/' :: '/' :: (netloc ++ '/' :: tail₂))) := by
    have whole : 'h' :: (s ++ ':' :: '/' :: '/' :: netloc) ++ '/' :: tail₂ =
        scheme ++ ':' :: ('/' :: '/' :: (netloc ++ '/' :: tail₂)) := by
      rw [hs.1]
      simp
    rw [whole]
    exact partition_at hs.2.2 _
  have hsplit : (splitNetloc (netloc ++ '/' :: tail₂)).1 = netloc := by
    rw [splitNetloc, List.span_eq_takeWhile_dropWhile]
    dsimp only
    rw [List.takeWhile_append_of_pos plain]
    simp
  rw [requestHost, text, hunwrap, hfragment, hcolon]
  exact congrArg some hsplit

end Python
