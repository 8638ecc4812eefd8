/-!
# WorkflowEditor.Stamp

Stamps: texts of 26 characters that are never handed out twice.  A stamp is a
number of 128 bits, 48 of time in milliseconds and 80 drawn at random, written
with 26 digits in base 32.  Within one millisecond the next stamp is the
previous number plus one, so stamps of one source increase.

* `length_digits` — every stamp has 26 characters.
-/

namespace WorkflowEditor

/-- A part that is never handed out twice, for ids made on this side. -/
structure Stamp where
  text : String
deriving DecidableEq, Repr

namespace Stamp

/-- The digits: no I, L, O and U, and ascending as characters. -/
def alphabet : List Char := "0123456789ABCDEFGHJKMNPQRSTVWXYZ".toList

/-- The last `count` digits in base 32, leading zeros kept. -/
def digits : Nat → Nat → List Char
  | 0, _ => []
  | count + 1, n => digits count (n / 32) ++ [alphabet[n % 32]?.getD '0']

/-- The stamp of a number of 128 bits. -/
def ofNat (n : Nat) : Stamp := ⟨String.ofList (digits 26 n)⟩

theorem length_digits (count n : Nat) : (digits count n).length = count := by
  induction count generalizing n with
  | zero => rfl
  | succ count ih => simp [digits, ih]

theorem length_ofNat (n : Nat) : (ofNat n).text.length = 26 := by
  rw [ofNat, String.length_ofList, length_digits]

/-- How many random parts there are, with 80 bits. -/
def randomSize : Nat := 0x100000000000000000000

/-- How many times there are, with 48 bits. -/
def timeSize : Nat := 0x1000000000000

/-- A source of stamps, known by the number of its last stamp. -/
structure Source where
  last : Nat := 0

namespace Source

/-- The next number: the successor within the millisecond of the last one,
else the present time with a fresh random part.  When the random part of a
millisecond is used up the fresh number stands in. -/
def next (source : Source) (millis random : Nat) : Nat :=
  let fresh := millis % timeSize * randomSize + random % randomSize
  if source.last / randomSize < millis then fresh
  else if source.last % randomSize + 1 < randomSize then source.last + 1
  else fresh

/-- Draws a stamp at a time, with a random number at hand. -/
def draw (source : Source) (millis random : Nat) : Stamp × Source :=
  let n := source.next millis random
  (.ofNat n, ⟨n⟩)

/-- Draws several stamps at one time. -/
def drawMany (source : Source) (millis random : Nat) : Nat → List Stamp
  | 0 => []
  | count + 1 =>
      let (stamp, source) := source.draw millis random
      stamp :: source.drawMany millis random count

end Source

/-- Does every stamp come before the next one? -/
def increasing : List Stamp → Bool
  | a :: b :: rest => decide (a.text < b.text) && increasing (b :: rest)
  | _ => true

end Stamp

end WorkflowEditor
