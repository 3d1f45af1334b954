import Mathlib.Data.List.Basic
import Mathlib.Data.Nat.Basic

/-!
# Python text

The operations of Python's `str`, `int` and `urllib.parse.quote` that the services use, on Lean's
strings of Unicode scalar values, and the shape of their anchored regular expressions: a first
character from one class and a bounded number of characters from another (`headed`).
-/

namespace Python

/-! ## Characters -/

/-- `str.isspace` on one character. -/
def isSpace (c : Char) : Bool :=
  let n := c.toNat
  (0x09 ≤ n && n ≤ 0x0d) || (0x1c ≤ n && n ≤ 0x20) || n == 0x85 || n == 0xa0 || n == 0x1680 ||
    (0x2000 ≤ n && n ≤ 0x200a) || n == 0x2028 || n == 0x2029 || n == 0x202f || n == 0x205f ||
    n == 0x3000

/-- The characters at which `str.splitlines` ends a line. -/
def isLineEnd (c : Char) : Bool :=
  let n := c.toNat
  (0x0a ≤ n && n ≤ 0x0d) || (0x1c ≤ n && n ≤ 0x1e) || n == 0x85 || n == 0x2028 || n == 0x2029

/-- The zeros of the Unicode decimal digit blocks (general category `Nd`). -/
def decimalZeros : List ℕ :=
  [0x30, 0x660, 0x6f0, 0x7c0, 0x966, 0x9e6, 0xa66, 0xae6, 0xb66, 0xbe6, 0xc66, 0xce6, 0xd66, 0xde6,
    0xe50, 0xed0, 0xf20, 0x1040, 0x1090, 0x17e0, 0x1810, 0x1946, 0x19d0, 0x1a80, 0x1a90, 0x1b50,
    0x1bb0, 0x1c40, 0x1c50, 0xa620, 0xa8d0, 0xa900, 0xa9d0, 0xa9f0, 0xaa50, 0xabf0, 0xff10, 0x104a0,
    0x10d30, 0x11066, 0x110f0, 0x11136, 0x111d0, 0x112f0, 0x11450, 0x114d0, 0x11650, 0x116c0,
    0x11730, 0x118e0, 0x11950, 0x11c50, 0x11d50, 0x11da0, 0x11f50, 0x16a60, 0x16ac0, 0x16b50,
    0x1d7ce, 0x1d7d8, 0x1d7e2, 0x1d7ec, 0x1d7f6, 0x1e140, 0x1e2f0, 0x1e4f0, 0x1e950, 0x1fbf0]

/-- The characters that are digits without being decimal: superscripts, circled digits, .... -/
def otherDigits : List (ℕ × ℕ) :=
  [(0xb2, 0xb3), (0xb9, 0xb9), (0x1369, 0x1371), (0x19da, 0x19da), (0x2070, 0x2070),
    (0x2074, 0x2079), (0x2080, 0x2089), (0x2460, 0x2468), (0x2474, 0x247c), (0x2488, 0x2490),
    (0x24ea, 0x24ea), (0x24f5, 0x24fd), (0x24ff, 0x24ff), (0x2776, 0x277e), (0x2780, 0x2788),
    (0x278a, 0x2792), (0x10a40, 0x10a43), (0x10e60, 0x10e68), (0x11052, 0x1105a),
    (0x1f100, 0x1f10a)]

/-- The value of a decimal digit. -/
def decimalValue (c : Char) : Option ℕ :=
  (decimalZeros.find? fun z => z ≤ c.toNat && c.toNat < z + 10).map fun z => c.toNat - z

/-- `str.isdigit` on one character. -/
def isDigitChar (c : Char) : Bool :=
  (decimalValue c).isSome || otherDigits.any fun r => r.1 ≤ c.toNat && c.toNat ≤ r.2

/-! ## Strings -/

/-- `str.strip()`. -/
def strip (s : String) : String :=
  .ofList (((s.toList.dropWhile isSpace).reverse.dropWhile isSpace).reverse)

/-- The lines of a text, given the line read so far; `\r\n` ends one line. -/
def splitlinesAux : List Char → List Char → List String
  | [], [] => []
  | line, [] => [.ofList line.reverse]
  | line, '\r' :: '\n' :: cs => .ofList line.reverse :: splitlinesAux [] cs
  | line, c :: cs =>
    if isLineEnd c then .ofList line.reverse :: splitlinesAux [] cs else splitlinesAux (c :: line) cs

/-- `str.splitlines()`. -/
def splitlines (s : String) : List String := splitlinesAux [] s.toList

/-- The parts of `s.split(c)`. -/
def splitChars (c : Char) : List Char → List (List Char)
  | [] => [[]]
  | d :: ds =>
    match splitChars c ds with
    | part :: parts => if d = c then [] :: part :: parts else (d :: part) :: parts
    | [] => [[d]]

/-- `s.split(c)` -/
def split (c : Char) (s : String) : List String := (splitChars c s.toList).map String.ofList

/-- `s[:n]`. -/
def take (s : String) (n : ℕ) : String := .ofList (s.toList.take n)

/-- `str.isdigit()`. -/
def isdigit (s : String) : Bool := !s.isEmpty && s.toList.all isDigitChar

/-- Fold decimal digits, allowing single underscores between them. -/
def digitsValue : ℕ → List Char → Option ℕ
  | n, [] => some n
  | n, '_' :: c :: cs => do digitsValue (10 * n + (← decimalValue c)) cs
  | n, c :: cs => do digitsValue (10 * n + (← decimalValue c)) cs

/-- `int(s)` for a text: surrounding space, a sign, and at most 4300 digits. -/
def intOfStr (s : String) : Option ℤ :=
  let magnitude (cs : List Char) : Option ℤ :=
    match cs with
    | [] => none
    | c :: cs => do
      let n ← digitsValue (← decimalValue c) cs
      if (c :: cs).countP (· ≠ '_') ≤ 4300 then some (n : ℤ) else none
  match (strip s).toList with
  | '-' :: cs => (magnitude cs).map (- ·)
  | '+' :: cs => magnitude cs
  | cs => magnitude cs

/-- The value of a hexadecimal digit. -/
def hexDigit (c : Char) : Option ℕ :=
  if '0' ≤ c && c ≤ '9' then some (c.toNat - '0'.toNat)
  else if 'a' ≤ c && c ≤ 'f' then some (c.toNat - 'a'.toNat + 10)
  else if 'A' ≤ c && c ≤ 'F' then some (c.toNat - 'A'.toNat + 10)
  else none

/-- `int(s, 16)` for a text of hexadecimal digits. -/
def hexValue (cs : List Char) : ℕ := cs.foldl (fun n c => 16 * n + (hexDigit c).getD 0) 0

/-! ## Anchored patterns -/

def isLower (c : Char) : Bool := 'a' ≤ c && c ≤ 'z'

def isUpper (c : Char) : Bool := 'A' ≤ c && c ≤ 'Z'

def isDigit09 (c : Char) : Bool := '0' ≤ c && c ≤ '9'

/-- `[0-9a-f]` -/
def isLowerHex (c : Char) : Bool := isDigit09 c || ('a' ≤ c && c ≤ 'f')

/-- `[0-9A-Fa-f]` -/
def isHex (c : Char) : Bool := isLowerHex c || ('A' ≤ c && c ≤ 'F')

/-- `p{lo,hi}` -/
def between (p : Char → Bool) (lo hi : ℕ) (cs : List Char) : Bool :=
  cs.all p && decide (lo ≤ cs.length) && decide (cs.length ≤ hi)

/-- `first rest{lo,hi}` -/
def headed (first rest : Char → Bool) (lo hi : ℕ) : List Char → Bool
  | [] => false
  | c :: cs => first c && between rest lo hi cs

theorem between_iff {p : Char → Bool} {lo hi : ℕ} {cs : List Char} :
    between p lo hi cs = true ↔ (∀ c ∈ cs, p c = true) ∧ lo ≤ cs.length ∧ cs.length ≤ hi := by
  simp [between, and_assoc]

theorem headed_iff {first rest : Char → Bool} {lo hi : ℕ} {cs : List Char} :
    headed first rest lo hi cs = true ↔
      ∃ c tail, cs = c :: tail ∧ first c = true ∧ between rest lo hi tail = true := by
  cases cs <;> simp [headed]

/-! ## Percent encoding -/

/-- The characters `urllib.parse.quote` never encodes. -/
def isUnreserved (c : Char) : Bool :=
  isLower c || isUpper c || isDigit09 c || c == '_' || c == '.' || c == '-' || c == '~'

def upperHex (n : ℕ) : Char := if n < 10 then .ofNat ('0'.toNat + n) else .ofNat ('A'.toNat + (n - 10))

/-- `urllib.parse.quote(s, safe="")`. -/
def quote (s : String) : String :=
  .ofList (s.toList.flatMap fun c =>
    if isUnreserved c then [c]
    else (String.utf8EncodeChar c).flatMap fun b =>
      ['%', upperHex (b.toNat / 16), upperHex (b.toNat % 16)])

/-- `quote` leaves a text of unreserved characters as it is. -/
theorem quote_eq_self {s : String} (h : ∀ c ∈ s.toList, isUnreserved c = true) : quote s = s := by
  have flat : ∀ cs : List Char, (∀ c ∈ cs, isUnreserved c = true) →
      (cs.flatMap fun c => if isUnreserved c then [c]
        else (String.utf8EncodeChar c).flatMap fun b =>
          ['%', upperHex (b.toNat / 16), upperHex (b.toNat % 16)]) = cs := by
    intro cs hcs
    induction cs with
    | nil => rfl
    | cons c cs ih =>
      rw [List.flatMap_cons, if_pos (hcs c (by simp)), ih fun d hd => hcs d (by simp [hd])]
      rfl
  rw [quote, flat _ h, String.ofList_toList]

theorem isUnreserved_upperHex {n : ℕ} (h : n < 16) : isUnreserved (upperHex n) = true := by
  have all : ∀ n < 16, isUnreserved (upperHex n) = true := by decide
  exact all n h

/-- The characters of a quoted text. -/
theorem mem_quote {s : String} {c : Char} (h : c ∈ (quote s).toList) : isUnreserved c = true ∨ c = '%' := by
  rw [quote, String.toList_ofList] at h
  obtain ⟨d, -, hc⟩ := List.mem_flatMap.1 h
  by_cases hd : isUnreserved d = true
  · rw [if_pos hd, List.mem_singleton] at hc
    rw [hc]
    exact .inl hd
  · rw [if_neg hd] at hc
    obtain ⟨b, -, hc⟩ := List.mem_flatMap.1 hc
    have byte : b.toNat < 256 := b.toNat_lt
    simp only [List.mem_cons, List.not_mem_nil, or_false] at hc
    rcases hc with rfl | rfl | rfl
    · exact .inr rfl
    · exact .inl (isUnreserved_upperHex (by omega))
    · exact .inl (isUnreserved_upperHex (Nat.mod_lt _ (by decide)))

end Python
