import WorkflowEditor.Instant
import WorkflowEditor.Json.Token
import WorkflowEditor.Toml.Basic

/-!
# WorkflowEditor.Toml.Scalar

Truth values, numbers, dates and times.

* Between two digits of a number may stand an underscore.
* A whole number is decimal without leading zeros, or hexadecimal, octal or
  binary without a sign, and fits 64 bits with sign.
* A double has a fraction, an exponent or both, and does not overflow.
* Of a time the seconds and their fraction may be left out, and are left out
  then in its standard form too; digits of a fraction past the ninth do not count.
-/

namespace WorkflowEditor.Toml

/-! ## numbers -/

/-- Digits with single underscores between them, the underscores left out. -/
def ungrouped? (isDigit : Char → Bool) : List Char → Option (List Char)
  | [] => none
  | [c] => if isDigit c then some [c] else none
  | c :: '_' :: rest => if isDigit c then (ungrouped? isDigit rest).map (c :: ·) else none
  | c :: rest => if isDigit c then (ungrouped? isDigit rest).map (c :: ·) else none

/-- Decimal digits without leading zeros. -/
def decimal? (cs : List Char) : Option (List Char) :=
  (ungrouped? Char.isDigit cs).filter fun ds => ds.head? != some '0' || ds == ['0']

/-- Is the sign a minus, and what follows it; a plus or no sign is none. -/
def signed : List Char → Bool × List Char
  | '-' :: rest => (true, rest)
  | '+' :: rest => (false, rest)
  | rest => (false, rest)

/-- The number of digits in a base, if it fits 63 bits. -/
def inBase? (base : Nat) (cs : List Char) : Option Int := do
  let isDigit (c : Char) : Bool := (Json.hexValue? c).any (· < base)
  let digits ← ungrouped? isDigit cs
  let n := digits.foldl (fun n c => base * n + (Json.hexValue? c).getD 0) 0
  if n < 0x8000000000000000 then some n else none

def whole? (cs : List Char) : Option Int :=
  match cs with
  | '0' :: 'x' :: rest => inBase? 16 rest
  | '0' :: 'o' :: rest => inBase? 8 rest
  | '0' :: 'b' :: rest => inBase? 2 rest
  | cs => do
      let (negative, rest) := signed cs
      let n := Nat.ofDigitChars 10 (← decimal? rest) 0
      if negative then (if n ≤ 0x8000000000000000 then some (-n) else none)
      else if n < 0x8000000000000000 then some n else none

/-- The digits of a fraction, and what follows it. -/
def fraction? : List Char → Option (List Char × List Char)
  | '.' :: rest => do
      let isPart (c : Char) : Bool := c.isDigit || c == '_'
      return (← ungrouped? Char.isDigit (rest.takeWhile isPart), rest.dropWhile isPart)
  | rest => some ([], rest)

/-- The exponent at the end of a number; none counts as zero. -/
def exponent? : List Char → Option Int
  | [] => some 0
  | e :: rest => do
      if e ≠ 'e' ∧ e ≠ 'E' then none
      let (negative, digits) := signed rest
      let n : Int := Nat.ofDigitChars 10 (← ungrouped? Char.isDigit digits) 0
      return if negative then -n else n

/-- The absolute value of a double. -/
def magnitude? (cs : List Char) : Option Double :=
  if cs = ['i', 'n', 'f'] then some .infinity
  else if cs = ['n', 'a', 'n'] then some .nan
  else do
    let isPart (c : Char) : Bool := c.isDigit || c == '_'
    let before ← decimal? (cs.takeWhile isPart)
    let rest := cs.dropWhile isPart
    if rest = [] then none
    let (behind, rest) ← fraction? rest
    let exponent ← exponent? rest
    let m := Nat.ofDigitChars 10 (before ++ behind) 0
    (some (Double.nearest m (exponent - behind.length))).filter Double.isFinite

def double? (cs : List Char) : Option Double :=
  let (negative, rest) := signed cs
  (magnitude? rest).map fun d => if negative then d.negate else d

/-! ## dates and times -/

/-- A date and what follows it. -/
def date? (cs : List Char) : Option (String × List Char) := do
  let (year, cs) ← Instant.digits? 4 cs
  let (month, cs) ← Instant.digits? 2 (← Instant.oneOf? ['-'] cs)
  let (day, cs) ← Instant.digits? 2 (← Instant.oneOf? ['-'] cs)
  if 1 ≤ month ∧ month ≤ 12 ∧ 1 ≤ day ∧ day ≤ Instant.daysInMonth year month then
    some (Instant.padded 4 year ++ "-" ++ Instant.padded 2 month ++ "-" ++ Instant.padded 2 day, cs)
  else none

/-- Nanoseconds as a fraction without zeros at its end, but of one digit at least. -/
def nanosText (nanos : Nat) : String :=
  if nanos = 0 then ".0"
  else
    let digits := (Instant.padded 9 nanos).toList.reverse
    "." ++ String.ofList (digits.dropWhile (· == '0')).reverse

/-- A fraction, if there is one, and what follows it. -/
def secondsFraction? (cs : List Char) : Option (String × List Char) := do
  let (nanos, rest) ← Instant.fraction? cs
  return (if cs.head? = some '.' then nanosText nanos else "", rest)

/-- Seconds with their fraction, if there are any, and what follows them. -/
def seconds? : List Char → Option (String × List Char)
  | ':' :: cs => do
      let (second, cs) ← Instant.digits? 2 cs
      let (fraction, cs) ← secondsFraction? cs
      if second ≤ 60 then some (":" ++ Instant.padded 2 second ++ fraction, cs) else none
  | cs => some ("", cs)

/-- A time of day and what follows it. -/
def time? (cs : List Char) : Option (String × List Char) := do
  let (hour, cs) ← Instant.digits? 2 cs
  let (minute, cs) ← Instant.digits? 2 (← Instant.oneOf? [':'] cs)
  let (seconds, cs) ← seconds? cs
  if hour ≤ 23 ∧ minute ≤ 59 then
    some (Instant.padded 2 hour ++ ":" ++ Instant.padded 2 minute ++ seconds, cs)
  else none

/-- The offset from UTC at the end, if there is one. -/
def offset? : List Char → Option String
  | [] => some ""
  | ['Z'] | ['z'] => some "Z"
  | sign :: cs => do
      if sign ≠ '+' ∧ sign ≠ '-' then none
      let (hours, cs) ← Instant.digits? 2 cs
      let (minutes, cs) ← Instant.digits? 2 (← Instant.oneOf? [':'] cs)
      if cs ≠ [] ∨ 23 < hours ∨ 59 < minutes then none
      let sign := if sign = '-' ∧ (hours, minutes) ≠ (0, 0) then "-" else "+"
      return sign ++ Instant.padded 2 hours ++ ":" ++ Instant.padded 2 minutes

/-- A date, a time of day, or both with or without an offset, in standard form. -/
def moment? (cs : List Char) : Option String :=
  match date? cs with
  | some (date, []) => some date
  | some (date, cs) => do
      let (time, cs) ← time? (← Instant.oneOf? ['T', 't', ' '] cs)
      return date ++ "T" ++ time ++ (← offset? cs)
  | none => do
      let (time, cs) ← time? cs
      if cs = [] then some time else none

/-! ## scalars -/

/-- The value that a text outside quotes stands for. -/
def scalar? (cs : List Char) : Option Toml :=
  if cs = ['t', 'r', 'u', 'e'] then some (.truth true)
  else if cs = ['f', 'a', 'l', 's', 'e'] then some (.truth false)
  else ((whole? cs).map .whole).or (((double? cs).map .double).or ((moment? cs).map .moment))

end WorkflowEditor.Toml
