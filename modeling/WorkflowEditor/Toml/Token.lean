import WorkflowEditor.Json.Token

/-!
# WorkflowEditor.Toml.Token

TOML text cut into tokens.  An atom is the longest run of characters that no
mark, quote, blank or comment interrupts; what it means depends on where it
stands.  Comments are left out.

Strings come in four kinds: between quotes or apostrophes, on one line or, with
three of them on either side, on several.  Escapes are known between quotes
only.  Control characters other than the tab stand nowhere; a carriage return
stands only before a line feed, and a string keeps both.
-/

namespace WorkflowEditor.Toml

inductive Token where
  | newline
  | blanks (cs : List Char)
  | dot
  | equals
  | comma
  | bracketOpen
  | bracketClose
  | braceOpen
  | braceClose
  /-- a string; `lines` tells that it may span several lines -/
  | text (s : String) (lines : Bool)
  | atom (cs : List Char)
deriving DecidableEq

/-! ## characters -/

def isBlank (c : Char) : Bool := c == ' ' || c == '\t'

def isControl (c : Char) : Bool := (c.toNat < 0x20 && c != '\t') || c.toNat == 0x7F

def mark? : Char → Option Token
  | '.' => some .dot
  | '=' => some .equals
  | ',' => some .comma
  | '[' => some .bracketOpen
  | ']' => some .bracketClose
  | '\x7b' => some .braceOpen
  | '\x7d' => some .braceClose
  | _ => none

def isAtomChar (c : Char) : Bool :=
  !isBlank c && !isControl c && (mark? c).isNone && c != '"' && c != '\'' && c != '#'

/-! ## strings -/

/-- The character that a backslash and a letter stand for. -/
def shortEscape? : Char → Option Char
  | '"' => some '"'
  | '\\' => some '\\'
  | 'b' => some '\x08'
  | 'e' => some '\x1b'
  | 'f' => some '\x0c'
  | 'n' => some '\n'
  | 'r' => some '\r'
  | 't' => some '\t'
  | _ => none

/-- The character with a code point in hexadecimal. -/
def codePoint? (digits : List Char) : Option Char := do
  let values ← digits.mapM Json.hexValue?
  let n := values.foldl (fun n v => 16 * n + v) 0
  if n.isValidChar then some (Char.ofNat n) else none

/-- What is read of a string, and what follows it. -/
abbrev Scan := Option (List Char × List Char)

/-- A character, if there is one, put in front of what is read. -/
def prepend (c : Option Char) (read : Scan) : Scan := do
  let (s, rest) ← read
  return ((← c) :: s, rest)

/-- The rest of a string between quotes. -/
def scanQuoted : List Char → Scan
  | [] => none
  | '"' :: r => some ([], r)
  | '\\' :: 'x' :: a :: b :: r => prepend (codePoint? [a, b]) (scanQuoted r)
  | '\\' :: 'u' :: a :: b :: c :: d :: r => prepend (codePoint? [a, b, c, d]) (scanQuoted r)
  | '\\' :: 'U' :: a :: b :: c :: d :: e :: f :: g :: h :: r =>
      prepend (codePoint? [a, b, c, d, e, f, g, h]) (scanQuoted r)
  | '\\' :: e :: r => prepend (shortEscape? e) (scanQuoted r)
  | c :: r => if isControl c then none else prepend (some c) (scanQuoted r)

/-- The rest of a string between apostrophes. -/
def scanLiteral : List Char → Scan
  | [] => none
  | '\'' :: r => some ([], r)
  | c :: r => if isControl c then none else prepend (some c) (scanLiteral r)

/-- Does a line end behind the blanks, if any? -/
def endsLine (cs : List Char) : Bool :=
  match cs.dropWhile isBlank with
  | '\n' :: _ => true
  | '\r' :: '\n' :: _ => true
  | _ => false

/-- The rest of a string between three quotes; up to two quotes more belong to
it.  A backslash at the end of a line takes away all blanks and line ends up to
the next character, `skipping` them. -/
def scanQuotedLines (skipping : Bool) : List Char → Scan
  | [] => none
  | '"' :: '"' :: '"' :: '"' :: '"' :: r => some (['"', '"'], r)
  | '"' :: '"' :: '"' :: '"' :: r => some (['"'], r)
  | '"' :: '"' :: '"' :: r => some ([], r)
  | '\r' :: '\n' :: r =>
      if skipping then scanQuotedLines true r
      else prepend (some '\r') (prepend (some '\n') (scanQuotedLines false r))
  | '\n' :: r =>
      if skipping then scanQuotedLines true r else prepend (some '\n') (scanQuotedLines false r)
  | '\\' :: 'x' :: a :: b :: r => prepend (codePoint? [a, b]) (scanQuotedLines false r)
  | '\\' :: 'u' :: a :: b :: c :: d :: r =>
      prepend (codePoint? [a, b, c, d]) (scanQuotedLines false r)
  | '\\' :: 'U' :: a :: b :: c :: d :: e :: f :: g :: h :: r =>
      prepend (codePoint? [a, b, c, d, e, f, g, h]) (scanQuotedLines false r)
  | '\\' :: e :: r =>
      if endsLine (e :: r) then scanQuotedLines true (e :: r)
      else prepend (shortEscape? e) (scanQuotedLines false r)
  | c :: r =>
      if isControl c then none
      else if skipping && isBlank c then scanQuotedLines true r
      else prepend (some c) (scanQuotedLines false r)

/-- The rest of a string between three apostrophes; up to two more belong to it. -/
def scanLiteralLines : List Char → Scan
  | [] => none
  | '\'' :: '\'' :: '\'' :: '\'' :: '\'' :: r => some (['\'', '\''], r)
  | '\'' :: '\'' :: '\'' :: '\'' :: r => some (['\''], r)
  | '\'' :: '\'' :: '\'' :: r => some ([], r)
  | '\r' :: '\n' :: r => prepend (some '\r') (prepend (some '\n') (scanLiteralLines r))
  | c :: r =>
      if isControl c && c != '\n' then none else prepend (some c) (scanLiteralLines r)

/-- A line end at the very start of a string on several lines does not count. -/
def dropNewline : List Char → List Char
  | '\n' :: r => r
  | '\r' :: '\n' :: r => r
  | r => r

/-- The string token whose content was read. -/
def textToken (lines : Bool) (read : Scan) : Option (Token × List Char) :=
  read.map fun (s, rest) => (.text (String.ofList s) lines, rest)

/-! ## tokens -/

/-- The rest of the line behind a `#`. -/
def skipComment (cs : List Char) : List Char := cs.dropWhile fun c => !isControl c

/-- The first token of a text and what follows it; a comment before it is left
out.  There is none at the end of the text. -/
def next? : List Char → Option (Token × List Char)
  | '\n' :: r => some (.newline, r)
  | '\r' :: '\n' :: r => some (.newline, r)
  | '"' :: '"' :: '"' :: r => textToken true (scanQuotedLines false (dropNewline r))
  | '\'' :: '\'' :: '\'' :: r => textToken true (scanLiteralLines (dropNewline r))
  | '"' :: r => textToken false (scanQuoted r)
  | '\'' :: r => textToken false (scanLiteral r)
  | c :: r =>
      match mark? c with
      | some t => some (t, r)
      | none =>
          if isBlank c then some (.blanks (c :: r.takeWhile isBlank), r.dropWhile isBlank)
          else if isAtomChar c then
            some (.atom (c :: r.takeWhile isAtomChar), r.dropWhile isAtomChar)
          else none
  | [] => none

/-- The tokens of a text, at most `fuel` of them. -/
def tokensWithin : Nat → List Char → Option (List Token)
  | 0, cs => if cs.isEmpty then some [] else none
  | fuel + 1, cs =>
      match cs with
      | [] => some []
      | '#' :: r => tokensWithin fuel (skipComment r)
      | cs => do
          let (t, rest) ← next? cs
          return t :: (← tokensWithin fuel rest)

/-- The tokens of a text; every token takes a character at least. -/
def tokens? (cs : List Char) : Option (List Token) := tokensWithin cs.length cs

end WorkflowEditor.Toml
