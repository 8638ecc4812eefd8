/-!
# WorkflowEditor.Number.Double

Binary floating-point numbers of 64 bits, held as their bit pattern, so that
every question about a value is a question about natural numbers.  A finite
value is `± m * 2 ^ q` with the natural number `m` and the integer `q` of
`magnitude`.

Two values are *the same number* (`same`) when neither is a NaN and they are
equal as numbers: the two zeros are the same, a NaN is not the same as
anything.
-/

namespace WorkflowEditor

/-- A binary floating-point number of 64 bits. -/
structure Double where
  bits : UInt64
deriving DecidableEq, Repr

/-- The quotient `num / den` rounded to the nearest natural number, a half to the even one. -/
def roundHalfEven (num den : Nat) : Nat :=
  let q := num / den
  let r := num % den
  if 2 * r < den then q
  else if den < 2 * r then q + 1
  else if q % 2 = 0 then q else q + 1

namespace Double

/-! ## parts of the bit pattern -/

def isNegative (d : Double) : Bool := d.bits.toNat / 0x8000000000000000 == 1

/-- The exponent field, 0 to 2047. -/
def biasedExponent (d : Double) : Nat := d.bits.toNat / 0x10000000000000 % 2048

/-- The fraction field, below `2 ^ 52`. -/
def fraction (d : Double) : Nat := d.bits.toNat % 0x10000000000000

def isFinite (d : Double) : Bool := d.biasedExponent != 2047

def isNaN (d : Double) : Bool := d.biasedExponent == 2047 && d.fraction != 0

def isZero (d : Double) : Bool := d.biasedExponent == 0 && d.fraction == 0

/-- The absolute value `m * 2 ^ q` of a finite value, as the pair `(m, q)`. -/
def magnitude (d : Double) : Nat × Int :=
  if d.biasedExponent = 0 then (d.fraction, -1074)
  else (0x10000000000000 + d.fraction, (d.biasedExponent : Int) - 1075)

/-- Equality of numbers: zeros are equal whatever their sign, a NaN equals nothing. -/
def same (a b : Double) : Bool :=
  !a.isNaN && !b.isNaN && (a.bits == b.bits || (a.isZero && b.isZero))

instance : BEq Double := ⟨same⟩

/-! ## whole numbers -/

def zero : Double := ⟨0⟩

def infinity : Double := ⟨0x7FF0000000000000⟩

def nan : Double := ⟨0x7FF8000000000000⟩

/-- The same absolute value with the other sign. -/
def negate (d : Double) : Double :=
  ⟨if d.isNegative then d.bits - 0x8000000000000000 else d.bits + 0x8000000000000000⟩

/-- The double nearest to a natural number, a half to the even significand. -/
def ofNat (n : Nat) : Double :=
  if n = 0 then zero
  else
    let e := n.log2
    if e ≤ 52 then ⟨UInt64.ofNat ((e + 1022) * 0x10000000000000 + n * Nat.pow 2 (52 - e))⟩
    else if e < 1024 then
      ⟨UInt64.ofNat ((e + 1022) * 0x10000000000000 + roundHalfEven n (Nat.pow 2 (e - 52)))⟩
    else infinity

/-- The double nearest to an integer. -/
def ofInt : Int → Double
  | .ofNat n => ofNat n
  | .negSucc n => (ofNat (n + 1)).negate

/-- The absolute value of a finite value, if it is a whole number. -/
def wholeMagnitude? (d : Double) : Option Nat :=
  match d.magnitude with
  | (m, .ofNat k) => some (m * Nat.pow 2 k)
  | (m, .negSucc k) => if m % Nat.pow 2 (k + 1) = 0 then some (m / Nat.pow 2 (k + 1)) else none

/-- The value of a finite whole number. -/
def whole? (d : Double) : Option Int :=
  if d.isFinite then
    d.wholeMagnitude?.map fun n => if d.isNegative then -(n : Int) else n
  else none

/-- The value rounded to the nearest natural number up to `limit`, a half
upwards: negative values and NaN give 0, values beyond the limit the limit. -/
def roundTo (limit : Nat) (d : Double) : Nat :=
  if d.isNaN || d.isNegative then 0
  else if d.isFinite then
    match d.magnitude with
    | (m, .ofNat k) => min limit (m * Nat.pow 2 k)
    | (m, .negSucc k) => min limit ((2 * m + Nat.pow 2 (k + 1)) / Nat.pow 2 (k + 2))
  else limit

/-! ## arithmetic -/

def toFloat (d : Double) : Float := Float.ofBits d.bits

def ofFloat (x : Float) : Double := ⟨x.toBits⟩

instance : Sub Double := ⟨fun a b => ofFloat (a.toFloat - b.toFloat)⟩
instance : Div Double := ⟨fun a b => ofFloat (a.toFloat / b.toFloat)⟩
instance : Mul Double := ⟨fun a b => ofFloat (a.toFloat * b.toFloat)⟩

/-- Strictly above zero; false for a NaN. -/
def isPositive (d : Double) : Bool := !d.isNaN && !d.isNegative && !d.isZero

/-- The double nearest to `10 ^ k`. -/
def powerOfTen (k : Nat) : Double := ofFloat (Float.ofScientific 1 false k)

/-- The double read for `m * 10 ^ e`, by a single multiplication or division
with a power of ten (two divisions below `10 ^ -308`).  There is none when
the value overflows. -/
def scaled? (m : Nat) (e : Int) : Option Double :=
  if 308 < e then if m = 0 then some zero else none
  else if 0 ≤ e then
    let d := ofNat m * powerOfTen e.toNat
    if d.isFinite then some d else none
  else if -308 ≤ e then some (ofNat m / powerOfTen (-e).toNat)
  else if -616 ≤ e then some (ofNat m / powerOfTen 308 / powerOfTen (-e - 308).toNat)
  else some zero

/-- The double nearest to `m * 10 ^ e`; infinite on overflow.  Exponents far
out of range are told by their size alone. -/
def nearest (m : Nat) (e : Int) : Double :=
  if m = 0 then zero
  else if 400 < e then infinity
  else if e < -400 - (m.log2 : Int) then zero
  else ofFloat (Float.ofScientific m (decide (e < 0)) e.natAbs)

end Double

end WorkflowEditor
