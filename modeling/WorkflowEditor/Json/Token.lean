import WorkflowEditor.Json.Basic

/-!
# WorkflowEditor.Json.Token

JSON text cut into tokens.  Blanks between tokens are space, tab, line feed
and carriage return; a word is the longest run of characters that no
punctuation mark, quote or blank interrupts, and must spell a literal or a
number.

* A whole number without point and exponent that fits 64 bits, signed or
  unsigned, stays whole; every other number is a double, `-0` too.
* The digits of a double are gathered into a significand of 64 bits, further
  digits only count into the exponent.  A number that overflows is no token.
* A string has no control character below U+0020, only the escapes of the
  format, and surrogate escapes only in pairs.
-/

namespace WorkflowEditor.Json

inductive Token where
  | bracketOpen
  | bracketClose
  | braceOpen
  | braceClose
  | comma
  | colon
  /-- a string, unescaped -/
  | text (s : String)
  /-- null, a truth value or a number -/
  | scalar (v : Json)

/-! ## numbers -/

/-- Digits taken into a significand below `2 ^ 64`, and the number of digits left over. -/
def gather (m : Nat) : List Char → Nat × Nat
  | [] => (m, 0)
  | c :: rest =>
      let next := Nat.ofDigitChars 10 [c] m
      if next < 0x10000000000000000 then gather next rest else (m, rest.length + 1)

/-- The exponent behind an `e` or `E`; no exponent counts as zero. -/
def exponent? : List Char → Option Int
  | [] => some 0
  | e :: rest =>
      let (negative, digits) := match rest with
        | '-' :: r => (true, r)
        | '+' :: r => (false, r)
        | r => (false, r)
      if (e = 'e' ∨ e = 'E') ∧ digits ≠ [] ∧ digits.all Char.isDigit then
        let n : Int := Nat.ofDigitChars 10 digits 0
        some (if negative then -n else n)
      else none

/-- The digits behind the point, if there is one, and the rest; none if the point has no digits. -/
def fraction? : List Char → Option (List Char × List Char)
  | '.' :: rest =>
      let digits := rest.takeWhile Char.isDigit
      if digits = [] then none else some (digits, rest.dropWhile Char.isDigit)
  | rest => some ([], rest)

/-- A double of given sign, digits before and behind the point, and exponent. -/
def double? (negative : Bool) (before behind : List Char) (exponent : Int) : Option Number :=
  let (m, left) := gather 0 before
  let (m, unread) := gather m behind
  (Double.scaled? m ((left : Int) - (behind.length - unread : Nat) + exponent)).map fun d =>
    .double (if negative then d.negate else d)

/-- The number of a digit string and what follows it. -/
def unsigned? (negative : Bool) (cs : List Char) : Option Number := do
  let before := cs.takeWhile Char.isDigit
  let rest := cs.dropWhile Char.isDigit
  if before = [] ∨ (before.head? = some '0' ∧ before ≠ ['0']) then none
  let n := Nat.ofDigitChars 10 before 0
  if rest = [] ∧ !negative ∧ n < 0x10000000000000000 then return .whole n
  if rest = [] ∧ negative ∧ 0 < n ∧ n ≤ 0x8000000000000000 then return .whole (-n)
  let (behind, rest) ← fraction? rest
  double? negative before behind (← exponent? rest)

/-- The number a word spells. -/
def number? : List Char → Option Number
  | '-' :: rest => unsigned? true rest
  | cs => unsigned? false cs

/-- The value a word spells. -/
def scalar? (word : List Char) : Option Json :=
  if word = ['n', 'u', 'l', 'l'] then some .null
  else if word = ['t', 'r', 'u', 'e'] then some (.bool true)
  else if word = ['f', 'a', 'l', 's', 'e'] then some (.bool false)
  else (number? word).map .num

/-! ## strings -/

/-- The value of a hexadecimal digit of either case. -/
def hexValue? (c : Char) : Option Nat :=
  if '0' ≤ c ∧ c ≤ '9' then some (c.toNat - 48)
  else if 'a' ≤ c ∧ c ≤ 'f' then some (c.toNat - 87)
  else if 'A' ≤ c ∧ c ≤ 'F' then some (c.toNat - 55)
  else none

/-- The 16-bit unit of four hexadecimal digits. -/
def hexUnit? (a b c d : Char) : Option Nat := do
  return 4096 * (← hexValue? a) + 256 * (← hexValue? b) + 16 * (← hexValue? c) + (← hexValue? d)

def isLead (unit : Nat) : Bool := 0xD800 ≤ unit && unit < 0xDC00

def isTrail (unit : Nat) : Bool := 0xDC00 ≤ unit && unit < 0xE000

/-- The character of a pair of surrogates. -/
def joined (lead trail : Nat) : Char :=
  Char.ofNat (0x10000 + (lead - 0xD800) * 0x400 + (trail - 0xDC00))

/-- The character a backslash and a letter stand for. -/
def shortEscape? : Char → Option Char
  | '"' => some '"'
  | '\\' => some '\\'
  | '/' => some '/'
  | 'b' => some '\x08'
  | 'f' => some '\x0c'
  | 'n' => some '\n'
  | 'r' => some '\r'
  | 't' => some '\t'
  | _ => none

/-- A character put in front of the characters read so far. -/
def push (c : Char) (read : Option (List Char × List Char)) : Option (List Char × List Char) :=
  read.map fun (s, rest) => (c :: s, rest)

/-- The characters up to the closing quote, unescaped, and what follows the quote. -/
def scanString : List Char → Option (List Char × List Char)
  | [] => none
  | '"' :: r => some ([], r)
  | '\\' :: 'u' :: a :: b :: c :: d :: r =>
      match hexUnit? a b c d with
      | none => none
      | some unit =>
          if isLead unit then
            match r with
            | '\\' :: 'u' :: a' :: b' :: c' :: d' :: r' =>
                match hexUnit? a' b' c' d' with
                | none => none
                | some trail =>
                    if isTrail trail then push (joined unit trail) (scanString r') else none
            | _ => none
          else if isTrail unit then none
          else push (Char.ofNat unit) (scanString r)
  | '\\' :: e :: r =>
      match shortEscape? e with
      | none => none
      | some c => push c (scanString r)
  | c :: r => if c.toNat < 0x20 ∨ c = '\\' then none else push c (scanString r)

/-- What follows is the same whether or not a character was put in front. -/
theorem exists_of_push {c : Char} {read : Option (List Char × List Char)} {s rest : List Char}
    (h : push c read = some (s, rest)) : ∃ s', read = some (s', rest) := by
  obtain ⟨⟨s', rest'⟩, hread, heq⟩ := Option.map_eq_some_iff.mp h
  obtain ⟨-, rfl⟩ := Prod.mk.inj heq
  exact ⟨s', hread⟩

/-- What follows a string is shorter than what began with it. -/
theorem length_scanString {cs s rest : List Char} (h : scanString cs = some (s, rest)) :
    rest.length < cs.length := by
  fun_induction scanString cs generalizing s rest with
  | case2 r =>
      -- the closing quote
      cases h
      exact Nat.lt_succ_self _
  | case5 a b c d lead hlead isLead a' b' c' d' r trail htrail isTrail ih =>
      -- a pair of surrogates
      obtain ⟨s', hbehind⟩ := exists_of_push h
      have hshorter := ih hbehind
      simp only [List.length_cons]
      omega
  | case9 a b c d r unit hunit notLead notTrail ih =>
      -- a unit that stands for a character by itself
      obtain ⟨s', hbehind⟩ := exists_of_push h
      have hshorter := ih hbehind
      simp only [List.length_cons]
      omega
  | case11 e r notUnit c hescape ih =>
      -- a backslash and a letter
      obtain ⟨s', hbehind⟩ := exists_of_push h
      have hshorter := ih hbehind
      simp only [List.length_cons]
      omega
  | case13 c r notQuote notUnit notEscape plain ih =>
      -- a character that stands for itself
      obtain ⟨s', hbehind⟩ := exists_of_push h
      exact Nat.lt_succ_of_lt (ih hbehind)
  | case1 | case3 | case4 | case6 | case7 | case8 | case10 | case12 =>
      -- the text ends too early, or a character or an escape is not allowed
      exact nomatch h

/-! ## tokens -/

/-- The blanks of the format. -/
def isSpace (c : Char) : Bool := c == ' ' || c == '\n' || c == '\t' || c == '\r'

def mark? : Char → Option Token
  | '[' => some .bracketOpen
  | ']' => some .bracketClose
  | '\x7b' => some .braceOpen
  | '\x7d' => some .braceClose
  | ',' => some .comma
  | ':' => some .colon
  | _ => none

/-- A character that can stand in a word. -/
def isWordChar (c : Char) : Bool := !isSpace c && (mark? c).isNone && c != '"'

/-- The tokens of a text. -/
def tokens? (cs : List Char) : Option (List Token) :=
  match cs with
  | [] => some []
  | c :: rest =>
      if isSpace c then tokens? rest
      else match mark? c with
        | some t => (tokens? rest).map (t :: ·)
        | none =>
            if c = '"' then
              match _h : scanString rest with
              | none => none
              | some (s, after) => (tokens? after).map (.text (String.ofList s) :: ·)
            else
              match scalar? (c :: rest.takeWhile isWordChar) with
              | none => none
              | some v => (tokens? (rest.dropWhile isWordChar)).map (.scalar v :: ·)
termination_by cs.length
decreasing_by
  · simp
  · simp
  · exact Nat.lt_succ_of_lt (length_scanString _h)
  · exact Nat.lt_succ_of_le (List.dropWhile_sublist isWordChar).length_le

end WorkflowEditor.Json
