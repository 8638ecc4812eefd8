/-!
# WorkflowEditor.Http.Url

Absolute addresses of the schemes `http` and `https`, cut into what a request
needs: the host and port to connect to and the target, which is the path and
the query as they are sent.

* Blanks and controls at the ends of the text and tabs and line ends anywhere
  do not count; a backslash is a slash.
* The path ends at the first `?` or `#`, what follows a `#` is not sent, and the
  segments `.` and `..` are resolved.
* Characters that may not stand in an address are sent as the bytes of their
  UTF-8 form, each as `%` and two capital hexadecimal digits.  A `%` stays.
-/

namespace WorkflowEditor

structure Url where
  secure : Bool
  host : String
  port : Nat
  /-- the path, and the query behind a `?` if there is one -/
  target : String
deriving DecidableEq, Repr

namespace Url

/-! ## characters -/

/-- Characters at the ends of an address that do not count. -/
def isEdge (c : Char) : Bool := c.toNat ≤ 0x20

/-- Characters that do not count anywhere. -/
def isIgnored (c : Char) : Bool := c == '\t' || c == '\n' || c == '\r'

def isSlash (c : Char) : Bool := c == '/' || c == '\\'

def isPrintable (c : Char) : Bool := 0x20 < c.toNat && c.toNat < 0x7F

/-- Is the character none of these? -/
def isNoneOf (marks : List Char) (c : Char) : Bool := !marks.contains c

/-- Characters that stand in a path as they are. -/
def isPathChar (c : Char) : Bool :=
  isPrintable c && isNoneOf ['"', '#', '<', '>', '?', '`', '\x7b', '\x7d'] c

/-- Characters that stand in a query as they are. -/
def isQueryChar (c : Char) : Bool := isPrintable c && isNoneOf ['"', '#', '<', '>', '\''] c

/-- Characters of a host's name. -/
def isHostChar (c : Char) : Bool :=
  isPrintable c &&
    isNoneOf ['#', '/', ':', '<', '>', '?', '@', '[', '\\', ']', '^', '|', '%'] c

/-- A capital hexadecimal digit. -/
def hexDigit (n : Nat) : Char := n.digitChar.toUpper

/-- A character as it is sent. -/
def encodeChar (isKept : Char → Bool) (c : Char) : List Char :=
  if isKept c then [c]
  else (String.utf8EncodeChar c).flatMap fun b =>
    ['%', hexDigit (b.toNat / 16), hexDigit (b.toNat % 16)]

/-! ## paths -/

/-- The pieces of a text between the characters that separate them. -/
def pieces (isSeparator : Char → Bool) : List Char → List (List Char)
  | [] => [[]]
  | c :: rest =>
      if isSeparator c then [] :: pieces isSeparator rest
      else
        match pieces isSeparator rest with
        | [] => [[c]]
        | piece :: others => (c :: piece) :: others

/-- A point that is spelled with `%` counts as one. -/
def unescapePoints : List Char → List Char
  | '%' :: '2' :: 'e' :: rest => '.' :: unescapePoints rest
  | '%' :: '2' :: 'E' :: rest => '.' :: unescapePoints rest
  | c :: rest => c :: unescapePoints rest
  | [] => []

/-- The segments without `.` and `..`; each `..` takes away the segment before
it.  One of the two at the end leaves an empty segment. -/
def resolve (before : List (List Char)) : List (List Char) → List (List Char)
  | [] => before.reverse
  | segment :: rest =>
      let before' :=
        if unescapePoints segment = ['.', '.'] then some before.tail
        else if unescapePoints segment = ['.'] then some before
        else none
      match before' with
      | some before => if rest.isEmpty then ([] :: before).reverse else resolve before rest
      | none => resolve (segment :: before) rest

/-- The path as it is sent; it starts with a slash. -/
def pathText (cs : List Char) : List Char :=
  let cs := match cs with
    | c :: rest => if isSlash c then rest else c :: rest
    | [] => []
  (resolve [] (pieces isSlash cs)).flatMap fun segment =>
    '/' :: segment.flatMap (encodeChar isPathChar)

/-- Path and query as they are sent, of the text behind the host. -/
def targetText (cs : List Char) : List Char :=
  let cs := cs.takeWhile (· != '#')
  let path := pathText (cs.takeWhile (· != '?'))
  match cs.dropWhile (· != '?') with
  | [] => path
  | _ :: query => path ++ '?' :: query.flatMap (encodeChar isQueryChar)

/-! ## hosts -/

/-- The port behind a host; an empty port is the scheme's own. -/
def port? (default : Nat) : List Char → Option Nat
  | [] => some default
  | [':'] => some default
  | ':' :: ds =>
      let n := Nat.ofDigitChars 10 ds 0
      if ds.all Char.isDigit ∧ n < 0x10000 then some n else none
  | _ => none

/-- Host and port; the host is a name, or an address between brackets. -/
def host? (default : Nat) (cs : List Char) : Option (String × Nat) := do
  let (host, rest) ← match cs with
    | '[' :: rest =>
        let address := rest.takeWhile (· != ']')
        let isPart (c : Char) : Bool := c.isDigit || ('a' ≤ c.toLower && c.toLower ≤ 'f') ||
          c == ':' || c == '.'
        match rest.dropWhile (· != ']') with
        | _ :: after =>
            if address ≠ [] ∧ address.all isPart then some ('[' :: address ++ [']'], after)
            else none
        | [] => none
    | cs =>
        let name := cs.takeWhile (· != ':')
        if name ≠ [] ∧ name.all isHostChar then some (name, cs.dropWhile (· != ':')) else none
  return (String.ofList (host.map Char.toLower), ← port? default rest)

/-- What stands behind the last `@`, which ends a user's name. -/
def afterUser (cs : List Char) : List Char :=
  (cs.reverse.takeWhile (· != '@')).reverse

/-! ## addresses -/

/-- The parts of an absolute address of one of the two schemes. -/
def parse? (text : String) : Option Url := do
  let cs := ((text.toList.dropWhile isEdge).reverse.dropWhile isEdge).reverse
  let cs := cs.filter fun c => !isIgnored c
  let scheme := String.ofList ((cs.takeWhile (· != ':')).map Char.toLower)
  let secure ← if scheme = "http" then some false
    else if scheme = "https" then some true else none
  match cs.dropWhile (· != ':') with
  | [] => none
  | _ :: rest =>
      let rest := rest.dropWhile isSlash
      let isEnd (c : Char) : Bool := isSlash c || c == '?' || c == '#'
      let authority := rest.takeWhile fun c => !isEnd c
      let (host, port) ← host? (if secure then 443 else 80) (afterUser authority)
      let target := targetText (rest.dropWhile fun c => !isEnd c)
      return ⟨secure, host, port, String.ofList target⟩

end Url

end WorkflowEditor
