import Mathlib.Data.List.TakeDrop
import Mathlib.Data.List.TakeWhile
import Zkdeal.Python.Text

/-!
# URLs

`urllib.parse.urlsplit` and `urlparse` with the properties of their results that the services read, and
the path that `urllib.request` sends for a URL.  A bracketed host is not checked further, and only
letters with an ASCII lower case are lower-cased.
-/

namespace Python

/-! ## Partitions -/

/-- `s.partition(c)`: what stands before the first `c`, and what follows it if there is one. -/
def partition (c : Char) : List Char → List Char × Option (List Char)
  | [] => ([], none)
  | d :: ds =>
    if d = c then ([], some ds)
    else
      let (before, after) := partition c ds
      (d :: before, after)

/-- `s.rpartition(c)`: what stands before the last `c` if there is one, and what follows it. -/
def rpartition (c : Char) (cs : List Char) : Option (List Char) × List Char :=
  let (after, before) := partition c cs.reverse
  (before.map List.reverse, after.reverse)

/-- `s.lower()` on the characters whose lower case is an ASCII letter: the last is the Kelvin sign. -/
def lower (cs : List Char) : List Char :=
  cs.map fun c => if c = .ofNat 0x212a then 'k' else c.toLower

/-- `s.rstrip("/")` -/
def rstripSlash (s : String) : String := .ofList ((s.toList.reverse.dropWhile (· == '/')).reverse)

/-- `s.endswith(suffix)` -/
def endsWith (s suffix : List Char) : Bool := suffix.isSuffixOf s

/-! ## Parsing -/

/-- The result of `urlparse`, without its path, parameters and query. -/
structure ParseResult where
  scheme : List Char
  netloc : List Char
  fragment : List Char

def isSchemeChar (c : Char) : Bool :=
  isLower c || isUpper c || isDigit09 c || c == '+' || c == '-' || c == '.'

/-- The scheme of a URL, and the rest of it. -/
def splitScheme (cs : List Char) : List Char × List Char :=
  match partition ':' cs with
  | (c :: scheme, some rest) =>
    if (isLower c || isUpper c) && scheme.all isSchemeChar then (lower (c :: scheme), rest) else ([], cs)
  | _ => ([], cs)

/-- The network location that follows `//`, and the rest of the URL. -/
def splitNetloc (cs : List Char) : List Char × List Char :=
  cs.span fun c => c != '/' && c != '?' && c != '#'

/-- The characters whose NFKC form contains a delimiter. -/
def hidesDelimiter (c : Char) : Bool :=
  [0x2047, 0x2048, 0x2049, 0x2100, 0x2101, 0x2105, 0x2106, 0x2a74, 0xfe13, 0xfe16, 0xfe55, 0xfe56,
    0xfe5f, 0xfe6b, 0xff03, 0xff0f, 0xff1a, 0xff1f, 0xff20].contains c.toNat

/-- `urlparse(url)`, where it does not raise. -/
def urlparse (url : String) : Option ParseResult :=
  let cs := (url.toList.dropWhile fun c => c.toNat ≤ 0x20).filter fun c =>
    c != '\t' && c != '\r' && c != '\n'
  let (scheme, rest) := splitScheme cs
  let (netloc, rest) :=
    match rest with
    | '/' :: '/' :: rest => splitNetloc rest
    | rest => ([], rest)
  if netloc.contains '[' != netloc.contains ']' then none
  else if netloc.any hidesDelimiter then none
  else some { scheme, netloc, fragment := ((partition '#' rest).2).getD [] }

/-- The result of `urlsplit`. -/
structure SplitResult extends ParseResult where
  path : List Char
  query : List Char

/-- `urlsplit(url)`, where it does not raise. -/
def urlsplit (url : String) : Option SplitResult :=
  let cs := (url.toList.dropWhile fun c => c.toNat ≤ 0x20).filter fun c =>
    c != '\t' && c != '\r' && c != '\n'
  let (scheme, rest) := splitScheme cs
  let (netloc, rest) :=
    match rest with
    | '/' :: '/' :: rest => splitNetloc rest
    | rest => ([], rest)
  if netloc.contains '[' != netloc.contains ']' then none
  else
    let (rest, fragment) := partition '#' rest
    let (path, query) := partition '?' rest
    if netloc.any hidesDelimiter then none
    else some { scheme, netloc, fragment := fragment.getD [], path, query := query.getD [] }

/-- `urlparse` only splits the path further. -/
theorem urlsplit_parseResult (url : String) : (urlsplit url).map SplitResult.toParseResult = urlparse url := by
  unfold urlsplit urlparse
  dsimp only
  split
  all_goals
    split
    · rfl
    · split <;> rfl

/-- `urlunsplit((scheme, netloc, "", "", ""))` for a nonempty scheme and network location. -/
def urlunsplit (scheme netloc : List Char) : String := .ofList (scheme ++ ':' :: '/' :: '/' :: netloc)

namespace ParseResult

variable (p : ParseResult)

/-- The part of the network location after the user information. -/
def hostinfo : List Char := (rpartition '@' p.netloc).2

/-- The host and the text of the port. -/
def hostAndPort : List Char × List Char :=
  match partition '[' p.hostinfo with
  | (_, some bracketed) =>
    let (host, rest) := partition ']' bracketed
    (host, ((partition ':' (rest.getD [])).2).getD [])
  | _ =>
    let (host, port) := partition ':' p.hostinfo
    (host, port.getD [])

/-- `parsed.hostname`, empty when it is `None`. -/
def hostname : String :=
  match partition '%' p.hostAndPort.1 with
  | (host, none) => .ofList (lower host)
  | (host, some zone) => .ofList (lower host ++ '%' :: zone)

/-- `parsed.port`, where it does not raise. -/
def port : Option (Option ℕ) :=
  match p.hostAndPort.2 with
  | [] => some none
  | cs =>
    if cs.all isDigit09 then
      let n := cs.foldl (fun n c => 10 * n + (c.toNat - '0'.toNat)) 0
      if n ≤ 65535 then some (some n) else none
    else none

/-- `parsed.username or parsed.password` is a nonempty text. -/
def hasCredentials : Bool :=
  match (rpartition '@' p.netloc).1 with
  | none => false
  | some userinfo =>
    let (username, password) := partition ':' userinfo
    !username.isEmpty || !(password.getD []).isEmpty

end ParseResult

/-! ## Requests -/

/-- `str.strip()` on characters. -/
def stripChars (cs : List Char) : List Char :=
  ((cs.dropWhile isSpace).reverse.dropWhile isSpace).reverse

/-- `urllib.parse.unwrap(url)` -/
def unwrap (cs : List Char) : List Char :=
  let cs := stripChars cs
  let cs := if cs.head? = some '<' ∧ cs.getLast? = some '>' then stripChars (cs.drop 1).dropLast else cs
  if cs.take 4 = ['U', 'R', 'L', ':'] then stripChars (cs.drop 4) else cs

/-- The URL without its fragment. -/
def withoutFragment (cs : List Char) : List Char :=
  match rpartition '#' cs with
  | (some before, _) => before
  | (none, _) => cs

/-- The selector of a URL for its path and query. -/
def selector : List Char → List Char
  | [] => ['/']
  | '/' :: path => '/' :: path
  | path => '/' :: path

/-- The characters that `http.client` sends in a request line. -/
def isVisible (c : Char) : Bool := 0x20 < c.toNat && c.toNat < 0x7f

/-- The target that `urllib.request` sends for a URL; there is none if no request is sent.  The host is
not checked further. -/
def requestTarget (url : String) : Option (List Char) :=
  match partition ':' (withoutFragment (unwrap url.toList)) with
  | (scheme, some ('/' :: '/' :: rest)) =>
    let (netloc, path) := splitNetloc rest
    if lower scheme ≠ "http".toList ∧ lower scheme ≠ "https".toList ∨ netloc = [] then none
    else if (selector path).all isVisible then some (selector path) else none
  | _ => none

/-- `self.path` of `BaseHTTPRequestHandler` for a target: several slashes at its start are one. -/
def handlerPath : List Char → List Char
  | '/' :: '/' :: path => '/' :: path.dropWhile (· == '/')
  | target => target

/-- `self.path`, as a server sees the URL that a client requests. -/
def requestPath (url : String) : Option (List Char) := (requestTarget url).map handlerPath

/-! ### Longer URLs -/

theorem partition_append {c : Char} {cs before after : List Char} (h : partition c cs = (before, some after))
    (more : List Char) : partition c (cs ++ more) = (before, some (after ++ more)) := by
  induction cs generalizing before with
  | nil => simp [partition] at h
  | cons d ds ih =>
    rw [List.cons_append]
    unfold partition at h ⊢
    by_cases hd : d = c
    · rw [if_pos hd] at h ⊢
      cases h
      rfl
    · rw [if_neg hd] at h ⊢
      generalize hp : partition c ds = p at h
      obtain ⟨first, rest⟩ := p
      cases h
      rw [ih hp]

theorem partition_of_not_mem {c : Char} {cs : List Char} (h : c ∉ cs) : partition c cs = (cs, none) := by
  induction cs with
  | nil => rfl
  | cons d ds ih =>
    rw [List.mem_cons, not_or] at h
    rw [partition, if_neg (Ne.symm h.1), ih h.2]

theorem withoutFragment_of_not_mem {cs : List Char} (h : '#' ∉ cs) : withoutFragment cs = cs := by
  rw [withoutFragment, rpartition, partition_of_not_mem (by simpa using h)]
  rfl

theorem stripChars_concat (cs : List Char) {c : Char} (h : isSpace c = false) :
    stripChars (cs ++ [c]) = (cs ++ [c]).dropWhile isSpace ∧ ∃ ds, stripChars (cs ++ [c]) = ds ++ [c] := by
  have last : ∃ ds, (cs ++ [c]).dropWhile isSpace = ds ++ [c] := by
    rw [List.dropWhile_append]
    split
    · exact ⟨[], by simp [List.dropWhile, h]⟩
    · exact ⟨_, rfl⟩
  obtain ⟨ds, hds⟩ := last
  have stripped : stripChars (cs ++ [c]) = ds ++ [c] := by
    rw [stripChars, hds, List.reverse_append]
    simp [h]
  exact ⟨stripped.trans hds.symm, ds, stripped⟩

theorem stripChars_append (cs more : List Char) {c d : Char} (hc : isSpace c = false) (hd : isSpace d = false) :
    stripChars (cs ++ [c] ++ (more ++ [d])) = stripChars (cs ++ [c]) ++ (more ++ [d]) := by
  obtain ⟨hstrip, ds, hds⟩ := stripChars_concat cs hc
  have hlong := (stripChars_concat (cs ++ [c] ++ more) hd).1
  rw [← List.append_assoc, hlong, List.append_assoc _ more, List.dropWhile_append, ← hstrip, hds]
  simp

/-- The characters of `URL:` and `>`, after which a longer URL may be unwrapped differently. -/
def endsWrapper (c : Char) : Bool := ['U', 'R', 'L', ':', '>'].contains c

theorem unwrap_append (cs more : List Char) {c d : Char} (hc : isSpace c = false ∧ endsWrapper c = false)
    (hd : isSpace d = false ∧ endsWrapper d = false) :
    unwrap (cs ++ [c] ++ (more ++ [d])) = unwrap (cs ++ [c]) ++ (more ++ [d]) := by
  obtain ⟨-, ds, hds⟩ := stripChars_concat cs hc.1
  have ne_wrapper {e : Char} (he : endsWrapper e = false) : e ≠ 'U' ∧ e ≠ 'R' ∧ e ≠ 'L' ∧ e ≠ ':' ∧ e ≠ '>' := by
    simpa [endsWrapper, not_or] using he
  obtain ⟨hU, hR, hL, hcolon, hlast⟩ := ne_wrapper hc.2
  have short : ¬((ds ++ [c] ++ (more ++ [d])).head? = some '<' ∧
      (ds ++ [c] ++ (more ++ [d])).getLast? = some '>') := by
    rintro ⟨-, h⟩
    rw [← List.append_assoc, List.getLast?_concat] at h
    exact (ne_wrapper hd.2).2.2.2.2 (Option.some.inj h)
  have short' : ¬((ds ++ [c]).head? = some '<' ∧ (ds ++ [c]).getLast? = some '>') := by
    rintro ⟨-, h⟩
    rw [List.getLast?_concat] at h
    exact hlast (Option.some.inj h)
  unfold unwrap
  rw [stripChars_append cs more hc.1 hd.1, hds]
  dsimp only
  rw [if_neg short, if_neg short']
  -- A prefix `URL:` lies within the shorter URL, which does not end in any of its characters.
  rcases ds with _ | ⟨e₁, _ | ⟨e₂, _ | ⟨e₃, _ | ⟨e₄, ds⟩⟩⟩⟩
  · rw [if_neg (by simp [hU]), if_neg (by simp)]
  · rw [if_neg (by simp [hR]), if_neg (by simp)]
  · rw [if_neg (by simp [hL]), if_neg (by simp)]
  · rw [if_neg (by simp [hcolon]), if_neg (by simp [hcolon])]
  · by_cases hurl : [e₁, e₂, e₃, e₄] = ['U', 'R', 'L', ':']
    · rw [if_pos (by simpa using hurl), if_pos (by simpa using hurl)]
      exact stripChars_append ds more hc.1 hd.1
    · rw [if_neg (by simpa using hurl), if_neg (by simpa using hurl)]

theorem splitNetloc_append {cs netloc path : List Char} (h : splitNetloc cs = (netloc, path)) (hpath : path ≠ [])
    (more : List Char) : splitNetloc (cs ++ more) = (netloc, path ++ more) := by
  rw [splitNetloc, List.span_eq_takeWhile_dropWhile, Prod.mk.injEq] at h ⊢
  obtain ⟨rfl, rfl⟩ := h
  have stops : (cs.dropWhile fun c => c != '/' && c != '?' && c != '#').isEmpty = false := by
    rwa [List.isEmpty_eq_false_iff]
  refine ⟨?_, ?_⟩
  · rw [List.takeWhile_append]
    split
    · rename_i whole
      have := congrArg List.length (List.takeWhile_append_dropWhile
        (p := fun c => c != '/' && c != '?' && c != '#') (l := cs))
      rw [List.length_append, whole] at this
      exact absurd (List.length_eq_zero_iff.1 (by omega)) hpath
    · rfl
  · rw [List.dropWhile_append, if_neg (by simpa using stops)]

/-! ### Characters that a URL keeps -/

theorem eq_of_partition {c : Char} {cs before after : List Char} (h : partition c cs = (before, some after)) :
    cs = before ++ c :: after := by
  induction cs generalizing before with
  | nil => simp [partition] at h
  | cons d ds ih =>
    unfold partition at h
    by_cases hd : d = c
    · rw [if_pos hd] at h
      cases h
      rw [hd]
      rfl
    · rw [if_neg hd] at h
      generalize hp : partition c ds = p at h
      obtain ⟨first, rest⟩ := p
      cases h
      rw [ih hp]
      rfl

theorem exists_partition {c : Char} {cs : List Char} (h : c ∈ cs) :
    ∃ before after, partition c cs = (before, some after) := by
  induction cs with
  | nil => cases h
  | cons d ds ih =>
    by_cases hd : d = c
    · exact ⟨[], ds, by rw [partition, if_pos hd]⟩
    · obtain ⟨before, after, hp⟩ := ih ((List.mem_cons.1 h).resolve_left (Ne.symm hd))
      exact ⟨d :: before, after, by rw [partition, if_neg hd, hp]⟩

theorem mem_stripChars {c : Char} {cs : List Char} (h : c ∈ stripChars cs) : c ∈ cs := by
  have tail := (List.dropWhile_sublist isSpace).subset (List.mem_reverse.1 h)
  exact (List.dropWhile_sublist isSpace).subset (List.mem_reverse.1 tail)

theorem mem_unwrap {c : Char} {cs : List Char} (h : c ∈ unwrap cs) : c ∈ cs := by
  have bracketed {l : List Char} (hl : c ∈ if l.head? = some '<' ∧ l.getLast? = some '>' then
      stripChars (l.drop 1).dropLast else l) : c ∈ l := by
    split at hl
    · exact List.mem_of_mem_drop (List.dropLast_subset _ (mem_stripChars hl))
    · exact hl
  have named {l : List Char} (hl : c ∈ if l.take 4 = ['U', 'R', 'L', ':'] then stripChars (l.drop 4) else l) :
      c ∈ l := by
    split at hl
    · exact List.mem_of_mem_drop (mem_stripChars hl)
    · exact hl
  exact mem_stripChars (bracketed (named h))

/-- What remains of a text after a part without `c` still has its `c`s and its end. -/
theorem mem_and_last_of_append {c d : Char} {before rest : List Char} (hbefore : c ∉ before)
    (h : c ∈ before ++ rest ∧ (before ++ rest).getLast? = some d) : c ∈ rest ∧ rest.getLast? = some d := by
  have mem : c ∈ rest := (List.mem_append.1 h.1).resolve_left hbefore
  refine ⟨mem, ?_⟩
  rw [← h.2, List.getLast?_append_of_ne_nil _ (List.ne_nil_of_mem mem)]

theorem not_mem_splitNetloc {cs : List Char} : '#' ∉ (splitNetloc cs).1 := by
  rw [splitNetloc, List.span_eq_takeWhile_dropWhile]
  intro h
  exact absurd (List.mem_takeWhile_imp h) (by decide)

theorem splitNetloc_concat (cs : List Char) : (splitNetloc cs).1 ++ (splitNetloc cs).2 = cs := by
  rw [splitNetloc, List.span_eq_takeWhile_dropWhile]
  exact List.takeWhile_append_dropWhile

/-- A `#` is in no scheme. -/
theorem mem_splitScheme {d : Char} {cs : List Char} (h : '#' ∈ cs ∧ cs.getLast? = some d) :
    '#' ∈ (splitScheme cs).2 ∧ (splitScheme cs).2.getLast? = some d := by
  unfold splitScheme
  split
  · rename_i c scheme rest hp
    split
    · rename_i hscheme
      rw [Bool.and_eq_true, List.all_eq_true] at hscheme
      have notHead : '#' ≠ c := by
        rintro rfl
        exact absurd hscheme.1 (by decide)
      have notScheme : '#' ∉ scheme := fun hmem => absurd (hscheme.2 _ hmem) (by decide)
      rw [eq_of_partition hp, List.append_cons] at h
      refine mem_and_last_of_append ?_ h
      simp [notHead, notScheme]
    · exact h
  · exact h

/-- `rstrip("/")` takes slashes off. -/
theorem toList_rstripSlash (s : String) :
    ∃ n, s.toList = (rstripSlash s).toList ++ List.replicate n '/' := by
  have slashes : ∀ c ∈ s.toList.reverse.takeWhile (· == '/'), c = '/' := by
    intro c hc
    simpa using List.mem_takeWhile_imp hc
  refine ⟨(s.toList.reverse.takeWhile (· == '/')).length, ?_⟩
  calc s.toList
      = (s.toList.reverse.takeWhile (· == '/') ++ s.toList.reverse.dropWhile (· == '/')).reverse := by
        rw [List.takeWhile_append_dropWhile, List.reverse_reverse]
    _ = (rstripSlash s).toList ++ (s.toList.reverse.takeWhile (· == '/')).reverse := by
        rw [List.reverse_append, rstripSlash, String.toList_ofList]
    _ = _ := by rw [List.eq_replicate_of_mem slashes, List.reverse_replicate, List.length_replicate]

/-- A URL without a fragment has no `#`, except at its end. -/
theorem not_mem_of_fragment {url : String} {parsed : ParseResult} {d : Char} (h : urlparse url = some parsed)
    (empty : parsed.fragment = []) (last : url.toList.getLast? = some d) (hd : 0x20 < d.toNat ∧ d ≠ '#') :
    '#' ∉ url.toList := by
  intro hmem
  obtain ⟨front, hurl⟩ := List.getLast?_eq_some_iff.1 last
  have kept : (d != '\t' && d != '\r' && d != '\n') = true := by
    simp only [Bool.and_eq_true, bne_iff_ne]
    refine ⟨⟨?_, ?_⟩, ?_⟩ <;> rintro rfl <;> exact absurd hd.1 (by decide)
  -- The characters that are parsed.
  have cleaned : '#' ∈ (url.toList.dropWhile fun c => c.toNat ≤ 0x20).filter (fun c =>
        c != '\t' && c != '\r' && c != '\n') ∧
      ((url.toList.dropWhile fun c => c.toNat ≤ 0x20).filter (fun c =>
        c != '\t' && c != '\r' && c != '\n')).getLast? = some d := by
    have dropped : '#' ∈ url.toList.dropWhile (fun c => c.toNat ≤ 0x20) := by
      rw [← List.takeWhile_append_dropWhile (p := fun c : Char => decide (c.toNat ≤ 0x20)) (l := url.toList)] at hmem
      refine (List.mem_append.1 hmem).resolve_left fun hspace => ?_
      exact absurd (List.mem_takeWhile_imp hspace) (by decide)
    refine ⟨List.mem_filter.2 ⟨dropped, by decide⟩, ?_⟩
    have ends : ∃ l, url.toList.dropWhile (fun c => c.toNat ≤ 0x20) = l ++ [d] := by
      rw [hurl, List.dropWhile_append]
      split
      · exact ⟨[], by rw [List.dropWhile_cons_of_neg (by simpa using hd.1)]; rfl⟩
      · exact ⟨_, rfl⟩
    obtain ⟨l, hl⟩ := ends
    rw [hl, List.filter_append, List.filter_singleton, kept, cond_true, List.getLast?_concat]
  have rest := mem_splitScheme cleaned
  unfold urlparse at h
  generalize (url.toList.dropWhile fun c => c.toNat ≤ 0x20).filter _ = cs at h rest
  -- After the network location the fragment is what follows the first `#`.
  have fragment {l : List Char} (hl : '#' ∈ l ∧ l.getLast? = some d) : ((partition '#' l).2).getD [] ≠ [] := by
    obtain ⟨before, after, hp⟩ := exists_partition hl.1
    rw [hp]
    rintro rfl
    rw [eq_of_partition hp, List.getLast?_concat] at hl
    exact hd.2 (Option.some.inj hl.2).symm
  dsimp only at h
  split at h
  · rename_i tail hparts
    rw [hparts] at rest
    have after := mem_and_last_of_append (show '#' ∉ ['/', '/'] by decide) rest
    rw [← splitNetloc_concat tail] at after
    split at h
    · cases h
    split at h
    · cases h
    obtain rfl := Option.some.inj h
    exact fragment (mem_and_last_of_append not_mem_splitNetloc after) empty
  · split at h
    · cases h
    split at h
    · cases h
    obtain rfl := Option.some.inj h
    exact fragment rest empty

/-! ### URLs of a scheme and a network location -/

/-- The characters of a network location. -/
def isNetlocChar (c : Char) : Bool :=
  c != '/' && c != '?' && c != '#' && (c != '\t' && c != '\r' && c != '\n')

theorem mem_netloc {url : String} {p : SplitResult} (h : urlsplit url = some p) :
    (∀ c ∈ p.netloc, isNetlocChar c = true) ∧ (p.netloc.contains '[' != p.netloc.contains ']') = false ∧
      p.netloc.any hidesDelimiter = false := by
  have cleaned : ∀ c ∈ (url.toList.dropWhile fun c => c.toNat ≤ 0x20).filter (fun c =>
      c != '\t' && c != '\r' && c != '\n'), (c != '\t' && c != '\r' && c != '\n') = true :=
    fun c hc => (List.mem_filter.1 hc).2
  unfold urlsplit at h
  generalize (url.toList.dropWhile fun c => c.toNat ≤ 0x20).filter _ = cs at h cleaned
  have rest : ∀ c ∈ (splitScheme cs).2, c ∈ cs := by
    intro c hc
    unfold splitScheme at hc
    split at hc
    · rename_i hp
      split at hc
      · rw [eq_of_partition hp]
        exact List.mem_append_right _ (List.mem_cons_of_mem _ hc)
      · exact hc
    · exact hc
  dsimp only at h
  split at h
  · rename_i tail hparts
    split at h
    · cases h
    split at h
    · cases h
    obtain rfl := Option.some.inj h
    dsimp only
    refine ⟨fun c hc => ?_, by simp_all, by simp_all⟩
    rw [splitNetloc, List.span_eq_takeWhile_dropWhile] at hc
    have plain := List.mem_takeWhile_imp hc
    have inRest : c ∈ (splitScheme cs).2 := by
      rw [hparts]
      exact List.mem_cons_of_mem _ (List.mem_cons_of_mem _ ((List.takeWhile_sublist _).subset hc))
    have visible := cleaned c (rest c inRest)
    unfold isNetlocChar
    rw [plain, visible]
    rfl
  · split at h
    · cases h
    split at h
    · cases h
    obtain rfl := Option.some.inj h
    exact ⟨nofun, rfl, rfl⟩

/-- A URL of an `http` scheme and a network location is split into these. -/
theorem urlsplit_urlunsplit {scheme netloc : List Char} (hscheme : scheme = "http".toList ∨ scheme = "https".toList)
    (chars : ∀ c ∈ netloc, isNetlocChar c = true)
    (brackets : (netloc.contains '[' != netloc.contains ']') = false)
    (delimiters : netloc.any hidesDelimiter = false) :
    urlsplit (urlunsplit scheme netloc) =
      some { scheme, netloc, fragment := [], path := [], query := [] } := by
  have plain : ∀ c ∈ netloc, (c != '/' && c != '?' && c != '#') = true ∧
      (c != '\t' && c != '\r' && c != '\n') = true := by
    intro c hc
    have := chars c hc
    unfold isNetlocChar at this
    exact Bool.and_eq_true _ _ ▸ this
  have split : splitNetloc netloc = (netloc, []) := by
    have whole : netloc.takeWhile (fun c => c != '/' && c != '?' && c != '#') = netloc :=
      List.takeWhile_eq_self_iff.2 fun c hc => (plain c hc).1
    have nothing : netloc.dropWhile (fun c => c != '/' && c != '?' && c != '#') = [] :=
      List.dropWhile_eq_nil_iff.2 fun c hc => (plain c hc).1
    rw [splitNetloc, List.span_eq_takeWhile_dropWhile, whole, nothing]
  have kept : netloc.filter (fun c => c != '\t' && c != '\r' && c != '\n') = netloc :=
    List.filter_eq_self.2 fun c hc => (plain c hc).2
  have scheme_ : ∀ rest, splitScheme (scheme ++ ':' :: rest) = (scheme, rest) := by
    rcases hscheme with rfl | rfl <;> intro rest <;> rfl
  have text : ((scheme ++ ':' :: '/' :: '/' :: netloc).dropWhile fun c => c.toNat ≤ 0x20).filter (fun c =>
      c != '\t' && c != '\r' && c != '\n') = scheme ++ ':' :: '/' :: '/' :: netloc := by
    have http : "http".toList = ['h', 't', 't', 'p'] := by decide
    have https : "https".toList = ['h', 't', 't', 'p', 's'] := by decide
    rcases hscheme with rfl | rfl
    · rw [http]
      simp [kept]
    · rw [https]
      simp [kept]
  unfold urlsplit urlunsplit
  rw [String.toList_ofList, text]
  simp only [scheme_, split, brackets, delimiters]
  rfl

end Python
