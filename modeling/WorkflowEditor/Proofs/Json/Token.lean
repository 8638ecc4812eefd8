import Mathlib.Data.List.TakeWhile
import WorkflowEditor.Json.Printer
import WorkflowEditor.Proofs.Json.Spelling
import WorkflowEditor.Text.Blank

/-!
# WorkflowEditor.Proofs.Json.Token

The tokens of a value, and how its indented text is cut into them.  Whole
numbers are read back from their digits and strings from their escapes; doubles
are left out.

* `number?_wholeText`, `scanString_text` — whole numbers and strings;
* `tokens?_space`, `tokens?_mark`, `tokens?_stringText`, `tokens?_word` — one
  token, whatever follows it;
* `Spelled.isCut` — the text of a value is cut into the tokens of the value.
-/

namespace WorkflowEditor.Json

/-- No double stands in the value. -/
inductive WithoutDoubles : Json → Prop
  | null : WithoutDoubles .null
  | bool (b : Bool) : WithoutDoubles (.bool b)
  | whole (i : Int) : WithoutDoubles (.num (.whole i))
  | str (s : String) : WithoutDoubles (.str s)
  | arr {items : List Json} (each : ∀ v ∈ items, WithoutDoubles v) : WithoutDoubles (.arr items)
  | obj {members : List (String × Json)} (each : ∀ f ∈ members, WithoutDoubles f.2) :
      WithoutDoubles (.obj members)

mutual

/-- The tokens of a value. -/
def tokens : Json → List Token
  | .str s => [.text s]
  | .arr items => .bracketOpen :: itemTokens items
  | .obj members => .braceOpen :: memberTokens members
  | v => [.scalar v]

/-- The tokens of the items of an array and of the bracket that ends it. -/
def itemTokens : List Json → List Token
  | [] => [.bracketClose]
  | [v] => v.tokens ++ [.bracketClose]
  | v :: w :: rest => v.tokens ++ .comma :: itemTokens (w :: rest)

/-- The tokens of the members of an object and of the brace that ends it. -/
def memberTokens : List (String × Json) → List Token
  | [] => [.braceClose]
  | [(k, v)] => .text k :: .colon :: (v.tokens ++ [.braceClose])
  | (k, v) :: f :: rest => .text k :: .colon :: (v.tokens ++ .comma :: memberTokens (f :: rest))

end

/-! ## whole numbers -/

theorem isDigit_of_mem_toDigits {n : Nat} : ∀ c ∈ Nat.toDigits 10 n, c.isDigit = true :=
  fun _ hc => Nat.isDigit_of_mem_toDigits (b := 10) (by decide) (by decide) hc

theorem eq_zero_of_digitChar : ∀ n < 10, n.digitChar = '0' → n = 0 := by decide

/-- The digits of a number begin with a zero only if that is the number. -/
theorem head?_toDigits {n : Nat} (h : n ≠ 0) : (Nat.toDigits 10 n).head? ≠ some '0' := by
  induction n using Nat.strongRecOn with
  | ind n ih =>
      rw [Nat.toDigits_eq_if (by decide)]
      split
      · next hlt =>
        rw [List.head?_cons, Ne, Option.some.injEq]
        exact fun hzero => h (eq_zero_of_digitChar n hlt hzero)
      · next hge =>
        have hfirst := ih (n / 10) (by omega) (by omega)
        cases hdigits : Nat.toDigits 10 (n / 10) with
        | nil => exact (Nat.toDigits_ne_nil hdigits).elim
        | cons c rest =>
            rw [hdigits] at hfirst
            exact hfirst

/-- The digits of a number spell it, with a sign in front or without one, if it fits. -/
theorem unsigned?_toDigits {negative : Bool} {n : Nat} {i : Int}
    (h : negative = false ∧ n < 0x10000000000000000 ∧ i = n ∨
      negative = true ∧ 0 < n ∧ n ≤ 0x8000000000000000 ∧ i = -n) :
    unsigned? negative (Nat.toDigits 10 n) = some (.whole i) := by
  have htake : (Nat.toDigits 10 n).takeWhile Char.isDigit = Nat.toDigits 10 n :=
    List.takeWhile_eq_self_iff.mpr isDigit_of_mem_toDigits
  have hdrop : (Nat.toDigits 10 n).dropWhile Char.isDigit = [] :=
    List.dropWhile_eq_nil_iff.mpr isDigit_of_mem_toDigits
  have hplain : ¬(Nat.toDigits 10 n = [] ∨
      (Nat.toDigits 10 n).head? = some '0' ∧ Nat.toDigits 10 n ≠ ['0']) := by
    rintro (hnil | ⟨hhead, hne⟩)
    · exact Nat.toDigits_ne_nil hnil
    · obtain rfl | hpos := eq_or_ne n 0
      · exact hne rfl
      · exact head?_toDigits hpos hhead
  rw [unsigned?]
  simp only [htake, hdrop, Nat.ofDigitChars_ten_toDigits]
  rw [if_neg hplain]
  obtain ⟨rfl, hn, rfl⟩ | ⟨rfl, hpos, hn, rfl⟩ := h
  · simp [hn]
  · simp [hpos, hn]

/-- **A whole number that fits is read back** from its text. -/
theorem number?_wholeText {i : Int} (h : (Number.whole i).Fits) :
    number? (wholeText i) = some (.whole i) := by
  obtain ⟨hlow, hhigh⟩ := h
  cases i with
  | ofNat n =>
      rw [wholeText, number?.eq_def]
      split
      · next hdigits =>
        have hsign : '-'.isDigit = true :=
          isDigit_of_mem_toDigits (n := n) _ (hdigits ▸ List.mem_cons_self)
        exact absurd hsign (by decide)
      · exact unsigned?_toDigits (.inl ⟨rfl, by rw [Int.ofNat_eq_natCast] at hhigh; omega, rfl⟩)
  | negSucc n => exact unsigned?_toDigits (.inr ⟨rfl, Nat.succ_pos n, by omega, rfl⟩)

/-- The text of a whole number is made of digits and perhaps a sign. -/
theorem wholeText_eq (i : Int) : ∃ c rest, wholeText i = c :: rest ∧
    ∀ d ∈ c :: rest, d = '-' ∨ d.isDigit = true := by
  cases i with
  | ofNat n =>
      cases hdigits : Nat.toDigits 10 n with
      | nil => exact (Nat.toDigits_ne_nil hdigits).elim
      | cons c rest =>
          exact ⟨c, rest, hdigits, fun d hd => .inr (isDigit_of_mem_toDigits d (hdigits ▸ hd))⟩
  | negSucc n =>
      refine ⟨'-', Nat.toDigits 10 (n + 1), rfl, fun d hd => ?_⟩
      exact (List.mem_cons.mp hd).imp_right (isDigit_of_mem_toDigits d)

theorem ne_of_isDigit {c d : Char} (hc : c.isDigit = true) (hd : d.isDigit = false) : c ≠ d := by
  rintro rfl
  exact Bool.false_ne_true (hd.symm.trans hc)

theorem scalar?_wholeText {i : Int} (h : (Number.whole i).Fits) :
    scalar? (wholeText i) = some (.num (.whole i)) := by
  have hnumber := number?_wholeText h
  obtain ⟨c, rest, htext, hchars⟩ := wholeText_eq i
  have hliteral (d : Char) (hsign : '-' ≠ d) (hdigit : d.isDigit = false) : c ≠ d := by
    obtain rfl | hc := hchars c List.mem_cons_self
    · exact hsign
    · exact ne_of_isDigit hc hdigit
  rw [htext] at hnumber ⊢
  simp [scalar?, hnumber, hliteral 'n' (by decide) rfl, hliteral 't' (by decide) rfl,
    hliteral 'f' (by decide) rfl]

/-! ## strings -/

theorem hexValue?_hexDigit : ∀ n < 16, hexValue? (hexDigit n) = some n := by decide

/-- A character is read back from what is written for it. -/
theorem scanString_escapedChar (c : Char) (rest : List Char) :
    scanString (escapedChar c ++ rest) = push c (scanString rest) := by
  rw [escapedChar]
  split_ifs with hquote hslash hn hr ht hb hf hcontrol
  · subst c; rfl
  · subst c; rfl
  · subst c; rfl
  · subst c; rfl
  · subst c; rfl
  · subst c; rfl
  · subst c; rfl
  · have hhigh := hexValue?_hexDigit (c.toNat / 16) (by omega)
    have hlow := hexValue?_hexDigit (c.toNat % 16) (by omega)
    have hzero : hexValue? '0' = some 0 := rfl
    have hunit : hexUnit? '0' '0' (hexDigit (c.toNat / 16)) (hexDigit (c.toNat % 16)) =
        some c.toNat := by
      simp only [hexUnit?, hzero, hhigh, hlow, Option.bind_eq_bind, Option.bind_some]
      congr 1
      omega
    have hlead : isLead c.toNat = false := by simp [isLead]; omega
    have htrail : isTrail c.toNat = false := by simp [isTrail]; omega
    simp only [List.cons_append, List.nil_append]
    rw [scanString, hunit]
    simp [hlead, htrail]
  · simp only [List.cons_append, List.nil_append]
    rw [scanString]
    · simp [hslash, hcontrol]
    · simpa using hquote
    · simp [hslash]
    · simp [hslash]

/-- **A string is read back** from its text, up to the quote that ends it. -/
theorem scanString_text (cs rest : List Char) :
    scanString (cs.flatMap escapedChar ++ '"' :: rest) = some (cs, rest) := by
  induction cs with
  | nil => rfl
  | cons c others ih =>
      rw [List.flatMap_cons, List.append_assoc, scanString_escapedChar, ih]
      rfl

/-! ## single tokens -/

theorem isSpace_of_mark? {c : Char} {t : Token} (h : mark? c = some t) : isSpace c = false := by
  cases hspace : isSpace c with
  | false => rfl
  | true =>
      simp only [isSpace, Bool.or_eq_true, beq_iff_eq] at hspace
      obtain ((rfl | rfl) | rfl) | rfl := hspace <;> exact nomatch h

theorem tokens?_space {c : Char} (h : isSpace c = true) (rest : List Char) :
    tokens? (c :: rest) = tokens? rest := by
  rw [tokens?, if_pos h]

theorem tokens?_newLine (level : Nat) (rest : List Char) :
    tokens? (newLine level ++ rest) = tokens? rest := by
  rw [newLine, List.cons_append, tokens?_space rfl]
  induction 2 * level with
  | zero => rfl
  | succ n ih => rw [List.replicate_succ, List.cons_append, tokens?_space rfl, ih]

theorem tokens?_mark {c : Char} {t : Token} (h : mark? c = some t) (rest : List Char) :
    tokens? (c :: rest) = (tokens? rest).map (t :: ·) := by
  rw [tokens?, if_neg (by simp [isSpace_of_mark? h]), h]

theorem tokens?_stringText (s : String) (rest : List Char) :
    tokens? (stringText s ++ rest) = (tokens? rest).map (.text s :: ·) := by
  have hscan := scanString_text s.toList rest
  have hmark : mark? '"' = none := rfl
  rw [stringText, List.cons_append, List.append_assoc, List.singleton_append, tokens?,
    if_neg (by decide)]
  simp only [hmark, if_true]
  split
  · next hnone =>
    exact absurd (hscan.symm.trans hnone) (Option.some_ne_none _)
  · next hread =>
    rw [hscan] at hread
    cases hread
    rw [String.ofList_toList]

/-- No word goes on at the front of the text. -/
def EndsWord (rest : List Char) : Prop := ∀ c ∈ rest.head?, isWordChar c = false

theorem endsWord_cons {c : Char} (h : isWordChar c = false) (rest : List Char) :
    EndsWord (c :: rest) := fun _ hd => Option.mem_some_iff.mp hd ▸ h

theorem endsWord_newLine (level : Nat) (rest : List Char) : EndsWord (newLine level ++ rest) :=
  endsWord_cons (by decide) _

theorem takeWhile_isWordChar {word rest : List Char} (hword : ∀ c ∈ word, isWordChar c = true)
    (hrest : EndsWord rest) : (word ++ rest).takeWhile isWordChar = word := by
  rw [List.takeWhile_append_of_pos hword]
  cases rest with
  | nil => rw [List.takeWhile_nil, List.append_nil]
  | cons c others =>
      rw [List.takeWhile_cons_of_neg (by simp [hrest c rfl]), List.append_nil]

/-- A word that spells a value is a token, if nothing goes on with it. -/
theorem tokens?_word {word rest : List Char} {v : Json} (hscalar : scalar? word = some v)
    (hword : ∀ c ∈ word, isWordChar c = true) (hrest : EndsWord rest) :
    tokens? (word ++ rest) = (tokens? rest).map (.scalar v :: ·) := by
  cases word with
  | nil => exact nomatch hscalar
  | cons c others =>
      rw [List.forall_mem_cons] at hword
      obtain ⟨hc, hothers⟩ := hword
      simp only [isWordChar, Bool.and_eq_true, Bool.not_eq_true', bne_iff_ne,
        Option.isNone_iff_eq_none] at hc
      obtain ⟨⟨hspace, hmark⟩, hquote⟩ := hc
      have hdrop : (others ++ rest).dropWhile isWordChar = rest := by
        rw [List.dropWhile_append_of_pos hothers, Text.dropWhile_of_head hrest]
      rw [List.cons_append, tokens?, if_neg (by simp [hspace]), hmark]
      simp only [if_neg hquote, takeWhile_isWordChar hothers hrest, hdrop, hscalar]

theorem isWordChar_of_isDigit {c : Char} (h : c.isDigit = true) : isWordChar c = true := by
  have hmark : mark? c = none := by
    rw [mark?.eq_def]
    split <;> first | rfl | exact absurd h (by decide)
  simp [isWordChar, isSpace, hmark, ne_of_isDigit h (d := ' ') rfl,
    ne_of_isDigit h (d := '\n') rfl, ne_of_isDigit h (d := '\t') rfl,
    ne_of_isDigit h (d := '\r') rfl, ne_of_isDigit h (d := '"') rfl]

theorem isWordChar_of_mem_wholeText {i : Int} : ∀ c ∈ wholeText i, isWordChar c = true := by
  intro c hc
  obtain ⟨first, others, htext, hchars⟩ := wholeText_eq i
  obtain rfl | hdigit := hchars c (htext ▸ hc)
  · decide
  · exact isWordChar_of_isDigit hdigit

/-! ## values -/

/-- The text of a value is cut into its tokens, at any level and whatever follows it. -/
def IsCut (v : Json) : Prop := ∀ level rest, EndsWord rest →
  tokens? (prettyText level v ++ rest) = (tokens? rest).map (v.tokens ++ ·)

theorem tokens?_prettyItems {items : List Json} (hne : items ≠ []) (h : ∀ v ∈ items, v.IsCut)
    (level outer : Nat) (rest : List Char) :
    tokens? (prettyItems level items ++ (newLine outer ++ ']' :: rest)) =
      (tokens? rest).map (itemTokens items ++ ·) := by
  induction items with
  | nil => exact absurd rfl hne
  | cons v others ih =>
      have hv : v.IsCut := h v List.mem_cons_self
      cases others with
      | nil =>
          rw [prettyItems, itemTokens, List.append_assoc, tokens?_newLine,
            hv _ _ (endsWord_newLine _ _), tokens?_newLine, tokens?_mark (t := .bracketClose) rfl]
          simp only [Option.map_map, Function.comp_def, List.append_assoc, List.singleton_append]
      | cons w others =>
          have ih := ih (List.cons_ne_nil _ _) fun x hx => h x (List.mem_cons_of_mem v hx)
          rw [prettyItems, itemTokens, List.append_assoc, List.append_assoc, List.cons_append,
            tokens?_newLine, hv _ _ (endsWord_cons (by decide) _),
            tokens?_mark (t := .comma) rfl, ih]
          simp only [Option.map_map, Function.comp_def, List.append_assoc, List.cons_append]

theorem tokens?_prettyMembers {members : List (String × Json)} (hne : members ≠ [])
    (h : ∀ f ∈ members, f.2.IsCut) (level outer : Nat) (rest : List Char) :
    tokens? (prettyMembers level members ++ (newLine outer ++ '\x7d' :: rest)) =
      (tokens? rest).map (memberTokens members ++ ·) := by
  induction members with
  | nil => exact absurd rfl hne
  | cons f others ih =>
      obtain ⟨k, v⟩ := f
      have hv : v.IsCut := h (k, v) List.mem_cons_self
      cases others with
      | nil =>
          rw [prettyMembers, memberTokens]
          simp only [List.append_assoc, List.cons_append]
          rw [tokens?_newLine, tokens?_stringText, tokens?_mark (t := .colon) rfl,
            tokens?_space rfl, hv _ _ (endsWord_newLine _ _), tokens?_newLine,
            tokens?_mark (t := .braceClose) rfl]
          simp only [Option.map_map, Function.comp_def, List.nil_append]
      | cons g others =>
          have ih := ih (List.cons_ne_nil _ _) fun x hx => h x (List.mem_cons_of_mem _ hx)
          rw [prettyMembers, memberTokens]
          simp only [List.append_assoc, List.cons_append]
          rw [tokens?_newLine, tokens?_stringText, tokens?_mark (t := .colon) rfl,
            tokens?_space rfl, hv _ _ (endsWord_cons (by decide) _),
            tokens?_mark (t := .comma) rfl, ih]
          simp only [Option.map_map, Function.comp_def]

/-- **The text of a value without doubles is cut into the tokens of the value.** -/
theorem Spelled.isCut {v : Json} {room : Nat} (h : v.Spelled room) (hv : v.WithoutDoubles) :
    v.IsCut := by
  induction h with
  | null =>
      intro level rest hrest
      rw [prettyText]
      exact tokens?_word rfl (List.all_eq_true.mp rfl) hrest
  | bool b =>
      intro level rest hrest
      rw [prettyText]
      cases b with
      | false => exact tokens?_word rfl (List.all_eq_true.mp rfl) hrest
      | true => exact tokens?_word rfl (List.all_eq_true.mp rfl) hrest
  | whole fits =>
      intro level rest hrest
      rw [prettyText, numberText]
      exact tokens?_word (scalar?_wholeText fits) isWordChar_of_mem_wholeText hrest
  | double d => exact nomatch hv
  | str s =>
      intro level rest hrest
      rw [prettyText, tokens?_stringText]
      rfl
  | @arr room items each ih =>
      intro level rest hrest
      cases hv with
      | arr hitems =>
          cases items with
          | nil =>
              rw [prettyText, List.cons_append, List.cons_append, List.nil_append,
                tokens?_mark (t := .bracketOpen) rfl, tokens?_mark (t := .bracketClose) rfl,
                Option.map_map]
              rfl
          | cons v others =>
              rw [prettyText, List.cons_append, List.append_assoc, List.append_assoc,
                List.singleton_append, tokens?_mark (t := .bracketOpen) rfl,
                tokens?_prettyItems (List.cons_ne_nil _ _) fun x hx => ih x hx (hitems x hx),
                Option.map_map]
              rfl
  | @obj room members ascending each ih =>
      intro level rest hrest
      cases hv with
      | obj hmembers =>
          cases members with
          | nil =>
              rw [prettyText, List.cons_append, List.cons_append, List.nil_append,
                tokens?_mark (t := .braceOpen) rfl, tokens?_mark (t := .braceClose) rfl,
                Option.map_map]
              rfl
          | cons f others =>
              rw [prettyText, List.cons_append, List.append_assoc, List.append_assoc,
                List.singleton_append, tokens?_mark (t := .braceOpen) rfl,
                tokens?_prettyMembers (List.cons_ne_nil _ _) fun x hx => ih x hx (hmembers x hx),
                Option.map_map]
              rfl

end WorkflowEditor.Json
