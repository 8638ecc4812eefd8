/-!
# WorkflowEditor.Instant

Points in time as documents carry them: a date and a time of day with an
offset from UTC, read into UTC.

The accepted text has a year of four digits, two digits for every other part,
a `T`, `t` or blank between date and time, an optional fraction of a second of
any length, and as offset `Z`, `z`, or a sign with hours, a colon and minutes.
The second may be 60 in any minute.
-/

namespace WorkflowEditor

/-- A point in time in UTC, in the proleptic Gregorian calendar. -/
structure Instant where
  year : Int
  month : Nat
  day : Nat
  hour : Nat
  minute : Nat
  second : Nat
  nanos : Nat
deriving DecidableEq, Repr

namespace Instant

/-! ## the calendar -/

def isLeapYear (year : Int) : Bool :=
  year % 4 == 0 && (year % 100 != 0 || year % 400 == 0)

def daysInMonth (year : Int) (month : Nat) : Nat :=
  if month = 2 then (if isLeapYear year then 29 else 28)
  else if month = 4 ∨ month = 6 ∨ month = 9 ∨ month = 11 then 30
  else 31

/-- The same time of day one day later. -/
def nextDay (t : Instant) : Instant :=
  if t.day < daysInMonth t.year t.month then { t with day := t.day + 1 }
  else if t.month < 12 then { t with month := t.month + 1, day := 1 }
  else { t with year := t.year + 1, month := 1, day := 1 }

/-- The same time of day one day earlier. -/
def previousDay (t : Instant) : Instant :=
  if 1 < t.day then { t with day := t.day - 1 }
  else if 1 < t.month then
    { t with month := t.month - 1, day := daysInMonth t.year (t.month - 1) }
  else { t with year := t.year - 1, month := 12, day := 31 }

/-- A local time brought to UTC; the offset is less than a day either way. -/
def minusMinutes (t : Instant) (offset : Int) : Instant :=
  let minutes := (t.hour * 60 + t.minute : Int) - offset
  let day := if minutes < 0 then t.previousDay else if 1440 ≤ minutes then t.nextDay else t
  let ofDay := (minutes % 1440).toNat
  { day with hour := ofDay / 60, minute := ofDay % 60 }

/-! ## reading -/

/-- A number of exactly `n` digits, and what follows it. -/
def digits? (n : Nat) (cs : List Char) : Option (Nat × List Char) :=
  let ds := cs.take n
  if ds.length = n ∧ ds.all Char.isDigit then some (Nat.ofDigitChars 10 ds 0, cs.drop n) else none

/-- What follows one character out of a choice. -/
def oneOf? (choice : List Char) : List Char → Option (List Char)
  | c :: rest => if choice.contains c then some rest else none
  | [] => none

/-- Nanoseconds of a fraction, digits past the ninth dropped; none without a point. -/
def fraction? : List Char → Option (Nat × List Char)
  | '.' :: rest =>
      let ds := rest.takeWhile Char.isDigit
      if ds = [] then none
      else
        let used := ds.take 9
        let nanos := Nat.ofDigitChars 10 used 0 * Nat.pow 10 (9 - used.length)
        some (nanos, rest.dropWhile Char.isDigit)
  | rest => some (0, rest)

/-- The offset from UTC in minutes, with nothing behind it. -/
def offset? : List Char → Option Int
  | ['Z'] | ['z'] => some 0
  | sign :: rest => do
      let negative ← if sign = '+' then some false
        else if sign = '-' ∨ sign = '\u2212' then some true else none
      let (hours, rest) ← digits? 2 rest
      let rest ← oneOf? [':'] rest
      let (minutes, rest) ← digits? 2 rest
      if rest ≠ [] ∨ 23 < hours ∨ 59 < minutes then none
      else
        let total : Int := (hours * 60 + minutes : Nat)
        some (if negative then -total else total)
  | [] => none

/-- The point in time a text names. -/
def ofText? (text : String) : Option Instant := do
  let (year, cs) ← digits? 4 text.toList
  let (month, cs) ← digits? 2 (← oneOf? ['-'] cs)
  let (day, cs) ← digits? 2 (← oneOf? ['-'] cs)
  let (hour, cs) ← digits? 2 (← oneOf? ['T', 't', ' '] cs)
  let (minute, cs) ← digits? 2 (← oneOf? [':'] cs)
  let (second, cs) ← digits? 2 (← oneOf? [':'] cs)
  let (nanos, cs) ← fraction? cs
  let offset ← offset? cs
  if 1 ≤ month ∧ month ≤ 12 ∧ 1 ≤ day ∧ day ≤ daysInMonth year month ∧ hour ≤ 23 ∧
      minute ≤ 59 ∧ second ≤ 60 then
    some (minusMinutes ⟨year, month, day, hour, minute, second, nanos⟩ offset)
  else none

/-! ## writing -/

/-- Digits padded with zeros on the left. -/
def padded (width n : Nat) : String :=
  let ds := Nat.toDigits 10 n
  String.ofList (List.replicate (width - ds.length) '0' ++ ds)

/-- Four digits; a year outside 0 to 9999 has its sign in front. -/
def yearText (year : Int) : String :=
  if year < 0 then "-" ++ padded 4 year.natAbs
  else if 9999 < year then "+" ++ padded 4 year.natAbs
  else padded 4 year.natAbs

def dateText (t : Instant) : String :=
  yearText t.year ++ "-" ++ padded 2 t.month ++ "-" ++ padded 2 t.day

def minuteText (t : Instant) : String := padded 2 t.hour ++ ":" ++ padded 2 t.minute

/-- None, three, six or nine digits, the fewest that lose nothing. -/
def fractionText (nanos : Nat) : String :=
  if nanos = 0 then ""
  else if nanos % 1000000 = 0 then "." ++ padded 3 (nanos / 1000000)
  else if nanos % 1000 = 0 then "." ++ padded 6 (nanos / 1000)
  else "." ++ padded 9 nanos

/-- Date and time in full, with the given mark for UTC. -/
def text (utc : String) (t : Instant) : String :=
  t.dateText ++ "T" ++ t.minuteText ++ ":" ++ padded 2 t.second ++ fractionText t.nanos ++ utc

/-- Date and minute, for lists. -/
def shortText (t : Instant) : String := t.dateText ++ " " ++ t.minuteText

end Instant

end WorkflowEditor
