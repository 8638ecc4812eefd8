import WorkflowEditor.Proofs.Json.Token

/-!
# WorkflowEditor.Proofs.Json.RoundTrip

Indented text read again.  The machine takes the tokens of a value from where a
value begins to where it is complete, if there is room for what is nested in it,
and the text of the value is cut into just these tokens.

* `Machine.run_items`, `Machine.run_members` — a row of values inside an array
  or object;
* `Spelled.completes` — the tokens of any value that a text can spell;
* `parse?_pretty` — the indented text of a value without doubles spells it.
-/

namespace WorkflowEditor.Json

namespace Machine

theorem run_cons (m : Machine) (t : Token) (ts : List Token) :
    m.run (t :: ts) = (m.step t).bind fun m => m.run ts := List.foldlM_cons

theorem run_append (m : Machine) (ts us : List Token) :
    m.run (ts ++ us) = (m.run ts).bind fun m => m.run us := List.foldlM_append

@[simp] theorem run_singleton (m : Machine) (t : Token) : m.run [t] = m.step t := by
  rw [run_cons]
  cases m.step t <;> rfl

/-- The tokens of a value complete it, wherever there are `room` levels left. -/
def Completes (room : Nat) (v : Json) : Prop :=
  ∀ stack : List Frame, stack.length + room ≤ depthLimit →
    run ⟨stack, .value⟩ v.tokens = complete stack v

/-- Where an array may end, an item may begin as well. -/
theorem run_itemOrEnd (stack : List Frame) (v : Json) (ts : List Token) :
    run ⟨stack, .itemOrEnd⟩ (v.tokens ++ ts) = run ⟨stack, .value⟩ (v.tokens ++ ts) := by
  cases v <;> simp only [tokens, List.cons_append, run_cons] <;> rfl

/-- Where an object may end, a member may begin as well. -/
theorem run_keyOrEnd (stack : List Frame) (f : String × Json) (rest : Fields) :
    run ⟨stack, .keyOrEnd⟩ (memberTokens (f :: rest)) =
      run ⟨stack, .key⟩ (memberTokens (f :: rest)) := by
  cases rest <;> simp only [memberTokens, run_cons] <;> rfl

variable {stack : List Frame} {room : Nat}

/-- The tokens of items complete the array that they stand in. -/
theorem run_items {items : List Json} (hne : items ≠ []) (h : ∀ v ∈ items, Completes room v)
    (hroom : stack.length + room < depthLimit) (read : List Json) :
    run ⟨.items read :: stack, .value⟩ (itemTokens items) =
      complete stack (.arr (read.reverse ++ items)) := by
  induction items generalizing read with
  | nil => exact absurd rfl hne
  | cons v others ih =>
      have hv : run ⟨.items read :: stack, .value⟩ v.tokens =
          some ⟨.items (v :: read) :: stack, .commaOrEnd⟩ :=
        h v List.mem_cons_self (.items read :: stack) (by rw [List.length_cons]; omega)
      cases others with
      | nil =>
          rw [itemTokens, run_append, hv, Option.bind_some, run_singleton]
          simp only [step, close, List.reverse_cons]
      | cons w others =>
          have ih := ih (List.cons_ne_nil _ _) (fun x hx => h x (List.mem_cons_of_mem v hx))
            (v :: read)
          rw [itemTokens, run_append, hv, Option.bind_some, run_cons]
          simp only [step, Option.bind_some, ih, List.reverse_cons, List.append_assoc,
            List.singleton_append]

/-- The tokens of members complete the object that they stand in. -/
theorem run_members {members : Fields} (hne : members ≠ [])
    (h : ∀ f ∈ members, Completes room f.2) (hroom : stack.length + room < depthLimit)
    {read : Fields} (hascending : Fields.Ascending (read ++ members)) :
    run ⟨.members read :: stack, .key⟩ (memberTokens members) =
      complete stack (.obj (read ++ members)) := by
  induction members generalizing read with
  | nil => exact absurd rfl hne
  | cons f others ih =>
      obtain ⟨k, v⟩ := f
      have hlast : ∀ g ∈ read, g.1 < k := fun g hg =>
        (List.pairwise_append.mp hascending).2.2 g hg (k, v) List.mem_cons_self
      have hv : run ⟨.member read k :: stack, .value⟩ v.tokens =
          some ⟨.members (read ++ [(k, v)]) :: stack, .commaOrEnd⟩ := by
        rw [h (k, v) List.mem_cons_self _ (by rw [List.length_cons]; omega), complete,
          Fields.insert_of_forall_lt hlast]
      cases others with
      | nil =>
          rw [memberTokens, run_cons]
          simp only [step, Option.bind_some, run_cons ⟨_, .colon _⟩]
          rw [run_append, hv, Option.bind_some, run_singleton]
          simp only [step, close]
      | cons g others =>
          rw [List.append_cons] at hascending
          have ih := ih (List.cons_ne_nil _ _) (fun x hx => h x (List.mem_cons_of_mem _ hx))
            hascending
          rw [memberTokens, run_cons]
          simp only [step, Option.bind_some, run_cons ⟨_, .colon _⟩]
          rw [run_append, hv, Option.bind_some, run_cons]
          simp only [step, Option.bind_some, ih, ← List.append_cons]

end Machine

open Machine

/-- **The tokens of a value that a text can spell complete it.** -/
theorem Spelled.completes {v : Json} {room : Nat} (h : v.Spelled room) : Completes room v := by
  induction h with
  | null => exact fun stack hroom => run_singleton _ _
  | bool b => exact fun stack hroom => run_singleton _ _
  | whole fits => exact fun stack hroom => run_singleton _ _
  | double d => exact fun stack hroom => run_singleton _ _
  | str s => exact fun stack hroom => run_singleton _ _
  | @arr room items each ih =>
      intro stack hroom
      rw [tokens, run_cons]
      simp only [step, value]
      rw [enter, if_pos (by omega), Option.bind_some]
      cases items with
      | nil => exact run_singleton _ _
      | cons v others =>
          have hitems : run ⟨.items [] :: stack, .value⟩ (itemTokens (v :: others)) =
              complete stack (.arr ([].reverse ++ v :: others)) :=
            run_items (List.cons_ne_nil v others) ih (by omega) []
          rw [List.reverse_nil, List.nil_append] at hitems
          rw [← hitems]
          cases others with
          | nil => exact run_itemOrEnd _ v _
          | cons w others => exact run_itemOrEnd _ v _
  | @obj room members ascending each ih =>
      intro stack hroom
      rw [tokens, run_cons]
      simp only [step, value]
      rw [enter, if_pos (by omega), Option.bind_some]
      cases members with
      | nil => exact run_singleton _ _
      | cons f others =>
          rw [run_keyOrEnd]
          exact run_members (List.cons_ne_nil f others) ih (by omega) ascending

/-- **The indented text of a value without doubles spells the value**, if a text can spell it. -/
theorem parse?_pretty {v : Json} (h : v.Spelled depthLimit) (hv : v.WithoutDoubles) :
    parse? v.pretty = some v := by
  have htokens : tokens? (prettyText 0 v) = some v.tokens := by
    have hcut := h.isCut hv 0 [] nofun
    rwa [List.append_nil, tokens?, Option.map_some, List.append_nil] at hcut
  have hrun : start.run v.tokens = some ⟨[], .done v⟩ :=
    h.completes [] (Nat.le_of_eq (Nat.zero_add _))
  rw [parse?, pretty, String.toList_ofList, htokens]
  simp only [Option.bind_eq_bind, Option.bind_some, hrun]
  rfl

/-! ## blanks -/

theorem isBlank_of_isDigit {c : Char} (h : c.isDigit = true) : Text.isBlank c = false := by
  have hrange : 48 ≤ c.toNat ∧ c.toNat ≤ 57 := by
    simpa [Char.isDigit, UInt32.le_iff_toNat_le] using h
  simp only [Text.isBlank, Text.inRanges, Text.blankRanges, List.any_cons, List.any_nil,
    Bool.or_eq_false_iff, Bool.and_eq_false_iff, decide_eq_false_iff_not, and_true]
  omega

/-- The text of a value without doubles begins with a mark, a quote, a letter,
a digit or a sign, and so with no blank. -/
theorem exists_prettyText_eq {v : Json} (hv : v.WithoutDoubles) (level : Nat) :
    ∃ c rest, prettyText level v = c :: rest ∧ Text.isBlank c = false := by
  cases hv with
  | null => exact ⟨_, _, rfl, by decide⟩
  | bool b => cases b <;> exact ⟨_, _, rfl, by decide⟩
  | whole i =>
      obtain ⟨c, rest, htext, hchars⟩ := wholeText_eq i
      refine ⟨c, rest, htext, ?_⟩
      obtain rfl | hdigit := hchars c List.mem_cons_self
      · decide
      · exact isBlank_of_isDigit hdigit
  | str s => exact ⟨_, _, rfl, by decide⟩
  | @arr items _ => cases items <;> exact ⟨_, _, rfl, by decide⟩
  | @obj members _ => cases members <;> exact ⟨_, _, rfl, by decide⟩

theorem isBlankText_pretty {v : Json} (hv : v.WithoutDoubles) :
    Text.isBlankText v.pretty = false := by
  obtain ⟨c, rest, htext, hblank⟩ := exists_prettyText_eq hv 0
  rw [Text.isBlankText, pretty, String.toList_ofList, htext, List.all_cons, hblank, Bool.false_and]

end WorkflowEditor.Json
