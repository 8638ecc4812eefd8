import WorkflowEditor.Text.Blank

/-!
# WorkflowEditor.Proofs.Text.Trimming

Trimming told backwards: of which texts a text is what is left when the blanks
around it are removed.

* `trimChars_eq_iff` — for lists of characters;
* `trim_eq_iff` — for texts.
-/

namespace WorkflowEditor.Text

/-- Neither the first nor the last character is blank. -/
structure IsBare (cs : List Char) : Prop where
  head : ∀ c ∈ cs.head?, isBlank c = false
  last : ∀ c ∈ cs.getLast?, isBlank c = false

theorem isBare_iff {cs : List Char} : IsBare cs ↔
    (cs.head?.all fun c => !isBlank c) = true ∧ (cs.getLast?.all fun c => !isBlank c) = true := by
  simp only [Option.all_eq_true, Bool.not_eq_true']
  exact ⟨fun ⟨head, last⟩ => ⟨head, last⟩, fun ⟨head, last⟩ => ⟨head, last⟩⟩

instance (cs : List Char) : Decidable (IsBare cs) := decidable_of_iff _ isBare_iff.symm

/-- A text with blanks before it and behind it, or none. -/
def Padded (padded bare : String) : Prop :=
  ∃ front back, isBlankText front = true ∧ isBlankText back = true ∧ padded = front ++ bare ++ back

/-! ## characters -/

/-- Removing items from the front leaves the others. -/
theorem exists_append_dropWhile (p : α → Bool) (xs : List α) :
    ∃ front, front.all p = true ∧ front ++ xs.dropWhile p = xs :=
  ⟨xs.takeWhile p, List.all_takeWhile, List.takeWhile_append_dropWhile⟩

theorem trimChars_append {front cs back : List Char} (hfront : front.all isBlank = true)
    (hback : back.all isBlank = true) (hbare : IsBare cs) :
    trimChars (front ++ cs ++ back) = cs := by
  rw [List.all_eq_true] at hfront hback
  rw [trimChars, List.append_assoc, List.dropWhile_append_of_pos hfront]
  cases cs with
  | nil =>
      have hnone : back.dropWhile isBlank = [] := by
        have happend : (back ++ []).dropWhile isBlank = [].dropWhile isBlank :=
          List.dropWhile_append_of_pos hback
        rwa [List.append_nil] at happend
      rw [List.nil_append, hnone]
      rfl
  | cons c rest =>
      have hhead : isBlank c = false := hbare.head c rfl
      have hreverse : ∀ x ∈ back.reverse, isBlank x = true := fun x hx =>
        hback x (List.mem_reverse.mp hx)
      have hlast : ∀ x ∈ (c :: rest).reverse.head?, isBlank x = false := by
        rw [List.head?_reverse]
        exact hbare.last
      rw [List.cons_append, List.dropWhile_cons_of_neg (by simp [hhead]), ← List.cons_append,
        List.reverse_append, List.dropWhile_append_of_pos hreverse, dropWhile_of_head hlast,
        List.reverse_reverse]

/-- What is left of a list of characters is bare, and the rest was blank. -/
theorem trimChars_eq_iff {cs bare : List Char} : trimChars cs = bare ↔
    IsBare bare ∧ ∃ front back, front.all isBlank = true ∧ back.all isBlank = true ∧
      cs = front ++ bare ++ back := by
  constructor
  · rintro rfl
    obtain ⟨front, hfront, hcs⟩ := exists_append_dropWhile isBlank cs
    obtain ⟨back, hback, hrest⟩ := exists_append_dropWhile isBlank (cs.dropWhile isBlank).reverse
    have hsplit : cs.dropWhile isBlank = trimChars cs ++ back.reverse := by
      rw [trimChars, ← List.reverse_append, hrest, List.reverse_reverse]
    refine ⟨⟨fun c hc => ?_, fun c hc => ?_⟩, front, back.reverse, hfront, ?_, ?_⟩
    · refine head_dropWhile cs c ?_
      rw [hsplit, List.head?_append, Option.mem_def.mp hc, Option.some_or]
      rfl
    · refine head_dropWhile (cs.dropWhile isBlank).reverse c ?_
      rwa [trimChars, List.getLast?_reverse] at hc
    · rwa [List.all_reverse]
    · rw [List.append_assoc, ← hsplit, hcs]
  · rintro ⟨hbare, front, back, hfront, hback, rfl⟩
    exact trimChars_append hfront hback hbare

/-! ## texts -/

/-- **A trimmed text** is bare, and the text before had blanks around it. -/
theorem trim_eq_iff {s bare : String} :
    trim s = bare ↔ IsBare bare.toList ∧ Padded s bare := by
  have hchars : trim s = bare ↔ trimChars s.toList = bare.toList := by
    rw [trim, ← String.toList_inj, String.toList_ofList]
  rw [hchars, trimChars_eq_iff]
  refine and_congr_right fun _ => ⟨?_, ?_⟩
  · rintro ⟨front, back, hfront, hback, hs⟩
    refine ⟨String.ofList front, String.ofList back, ?_, ?_, ?_⟩
    · rwa [isBlankText, String.toList_ofList]
    · rwa [isBlankText, String.toList_ofList]
    · rw [← String.toList_inj, hs]
      simp only [String.toList_append, String.toList_ofList]
  · rintro ⟨front, back, hfront, hback, rfl⟩
    refine ⟨front.toList, back.toList, hfront, hback, ?_⟩
    rw [String.toList_append, String.toList_append]

/-- Trimming once is enough. -/
theorem trim_trim (s : String) : trim (trim s) = trim s := by
  obtain ⟨hbare, -⟩ := trim_eq_iff.mp (rfl : trim s = trim s)
  exact trim_eq_iff.mpr ⟨hbare, "", "", rfl, rfl, by rw [String.empty_append, String.append_empty]⟩

end WorkflowEditor.Text
