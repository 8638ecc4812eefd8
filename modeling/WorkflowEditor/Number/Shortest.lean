import WorkflowEditor.Number.Double

/-!
# WorkflowEditor.Number.Shortest

The decimal digits that stand for a double: the fewest digits that read back
to it, and of those the nearest to it.

The numbers that read back to a value fill the interval between the two
midpoints to its neighbours, the ends included exactly when the significand
is even (`readsBack`).  For one digit, two digits and so on the two
neighbours of the value on that decimal grid are tested in exact arithmetic;
the first grid with a hit wins.
-/

namespace WorkflowEditor

/-- The decimal number `digits * 10 ^ exponent`. -/
structure Decimal where
  digits : Nat
  exponent : Int
deriving DecidableEq, Repr

/-- Which of two equally near decimals is taken. -/
inductive Tie where
  | toEven
  | awayFromZero
deriving DecidableEq, Repr

namespace Decimal

/-- Compare `a * 10 ^ i` with `n * 2 ^ j`. -/
def compareScaled (a : Nat) (i : Int) (n : Nat) (j : Int) : Ordering :=
  compare (a * Nat.pow 10 i.toNat * Nat.pow 2 (-j).toNat)
    (n * Nat.pow 2 j.toNat * Nat.pow 10 (-i).toNat)

/-- Trailing zeros of the digits moved into the exponent, at most `fuel` of them. -/
def stripZeros : Nat → Decimal → Decimal
  | 0, d => d
  | fuel + 1, d =>
      if d.digits ≠ 0 ∧ d.digits % 10 = 0 then
        stripZeros fuel ⟨d.digits / 10, d.exponent + 1⟩
      else d

end Decimal

namespace Double

/-- Does a decimal lie among the numbers that round to this finite, non-zero value? -/
def readsBack (d : Double) (c : Decimal) : Bool :=
  let (m, q) := d.magnitude
  let low := if d.fraction = 0 ∧ 1 < d.biasedExponent then 4 * m - 1 else 4 * m - 2
  let high := 4 * m + 2
  let closed := m % 2 = 0
  let atLow := Decimal.compareScaled c.digits c.exponent low (q - 2)
  let atHigh := Decimal.compareScaled c.digits c.exponent high (q - 2)
  (atLow = .gt || (closed && atLow = .eq)) && (atHigh = .lt || (closed && atHigh = .eq))

/-- The least of a few candidates `k` with `m * 2 ^ q < 10 ^ k`, found from the binary logarithm. -/
def decimalWidth (d : Double) : Int :=
  let (m, q) := d.magnitude
  let guess := ((m.log2 : Int) + q) * 30103 / 100000 - 1
  ([guess, guess + 1, guess + 2, guess + 3].find? fun k =>
    Decimal.compareScaled 1 k m q = .gt).getD (guess + 4)

/-- The value, exactly, as a decimal. -/
def exactDecimal (d : Double) : Decimal :=
  match d.magnitude with
  | (m, .ofNat k) => ⟨m * Nat.pow 2 k, 0⟩
  | (m, .negSucc k) => ⟨m * Nat.pow 5 (k + 1), .negSucc k⟩

/-- The decimal with `n` digits that reads back to the value, if there is one. -/
def withDigits? (tie : Tie) (d : Double) (width : Int) (n : Nat) : Option Decimal :=
  let (m, q) := d.magnitude
  let grid := width - n
  let num := m * Nat.pow 2 q.toNat * Nat.pow 10 (-grid).toNat
  let den := Nat.pow 2 (-q).toNat * Nat.pow 10 grid.toNat
  let below : Decimal := ⟨num / den, grid⟩
  let above : Decimal := ⟨num / den + 1, grid⟩
  match d.readsBack below, d.readsBack above with
  | true, true =>
      match compare (2 * num) ((2 * below.digits + 1) * den) with
      | .lt => some below
      | .gt => some above
      | .eq =>
          if tie = .toEven ∧ below.digits % 2 = 0 then some below else some above
  | true, false => some below
  | false, true => some above
  | false, false => none

/-- The fewest digits that read back to a finite, non-zero value, and of those the nearest. -/
def shortest (tie : Tie) (d : Double) : Decimal :=
  let width := d.decimalWidth
  let chosen := (List.range 17).findSome? fun i => d.withDigits? tie width (i + 1)
  (chosen.getD d.exactDecimal).stripZeros 20

end Double

/-! ## layout -/

/-- How a double is laid out: which exponents of the leading digit are written
positionally, whether a whole number keeps a `.0`, and which of two equally
near decimals is taken. -/
structure NumberStyle where
  positional : Int → Bool
  pointZero : Bool
  tie : Tie

namespace NumberStyle

/-- The digits of a decimal with the point set at its place. -/
def layPositional (style : NumberStyle) (digits : List Char) (exponent : Int) : List Char :=
  match exponent with
  | .ofNat k => digits ++ List.replicate k '0' ++ if style.pointZero then ['.', '0'] else []
  | .negSucc k =>
      if k + 1 < digits.length then
        let whole := digits.length - (k + 1)
        digits.take whole ++ '.' :: digits.drop whole
      else ['0', '.'] ++ List.replicate (k + 1 - digits.length) '0' ++ digits

/-- One digit, the others behind a point, and a signed exponent. -/
def layScientific (digits : List Char) (lead : Int) : List Char :=
  let rest := digits.drop 1
  digits.take 1 ++ (if rest.isEmpty then [] else '.' :: rest)
    ++ ['e', if lead < 0 then '-' else '+'] ++ Nat.toDigits 10 lead.natAbs

/-- The text of a double. -/
def write (style : NumberStyle) (d : Double) : List Char :=
  let sign := if d.isNegative && !d.isNaN then ['-'] else []
  if d.isNaN then ['N', 'a', 'N']
  else if !d.isFinite then sign ++ ['i', 'n', 'f']
  else if d.isZero then sign ++ style.layPositional ['0'] 0
  else
    let c := d.shortest style.tie
    let digits := Nat.toDigits 10 c.digits
    let lead := (digits.length : Int) - 1 + c.exponent
    sign ++
      if style.positional lead then style.layPositional digits c.exponent
      else layScientific digits lead

end NumberStyle

end WorkflowEditor
