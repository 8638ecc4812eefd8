/-!
# WorkflowEditor.Text.Blank

Blank characters: the Unicode property White_Space, 25 characters in ten
ranges.  "Trimmed" and "blank" mean this property everywhere in the library.
-/

namespace WorkflowEditor.Text

/-- Closed ranges of code points, ascending and apart. -/
def blankRanges : List (Nat × Nat) :=
  [(0x09, 0x0D), (0x20, 0x20), (0x85, 0x85), (0xA0, 0xA0), (0x1680, 0x1680), (0x2000, 0x200A),
   (0x2028, 0x2029), (0x202F, 0x202F), (0x205F, 0x205F), (0x3000, 0x3000)]

/-- Does a code point lie in one of the ranges? -/
def inRanges (ranges : List (Nat × Nat)) (n : Nat) : Bool :=
  ranges.any fun r => r.1 ≤ n && n ≤ r.2

/-- A character with the property White_Space. -/
def isBlank (c : Char) : Bool := inRanges blankRanges c.toNat

/-- Blank characters removed from both ends. -/
def trimChars (cs : List Char) : List Char :=
  ((cs.dropWhile isBlank).reverse.dropWhile isBlank).reverse

/-- Blank characters removed from both ends. -/
def trim (s : String) : String := String.ofList (trimChars s.toList)

/-- A text of blank characters only, the empty text included. -/
def isBlankText (s : String) : Bool := s.toList.all isBlank

/-! ## the first item that is kept -/

theorem dropWhile_of_head {p : α → Bool} {xs : List α} (h : ∀ x ∈ xs.head?, p x = false) :
    xs.dropWhile p = xs := by
  cases xs with
  | nil => rfl
  | cons x xs => simp [h x (by simp)]

theorem head_dropWhile {p : α → Bool} (xs : List α) :
    ∀ x ∈ (xs.dropWhile p).head?, p x = false := by
  intro x hx
  have hnot := List.head?_dropWhile_not p xs
  rwa [Option.mem_def.mp hx] at hnot

end WorkflowEditor.Text
