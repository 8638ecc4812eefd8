import Mathlib.Data.List.DropRight
import WorkflowEditor.Proofs.Http.Encoding

/-!
# WorkflowEditor.Proofs.Http.Path

How the path of an address is sent: cut at the slashes, its dots resolved and
its characters encoded.  Some texts come through all that as they are.

* `resolve_append`, `resolve_of_undotted` — segments that others follow, and
  segments without dots;
* `Tail` — texts that are read as they are behind an address;
* `exists_pathText_behind` — a tail behind the collection of all workflows is
  sent behind the same front.
-/

namespace WorkflowEditor.Url

/-! ## lists up to a character -/

theorem takeWhile_append_stop {p : α → Bool} {c : α} (h : p c = false) (xs ys : List α) :
    (xs ++ c :: ys).takeWhile p = xs.takeWhile p := by
  induction xs with
  | nil => simp [h]
  | cons x rest ih => simp only [List.cons_append, List.takeWhile_cons, ih]

theorem dropWhile_append_stop {p : α → Bool} {c : α} (h : p c = false) (xs ys : List α) :
    (xs ++ c :: ys).dropWhile p = xs.dropWhile p ++ c :: ys := by
  induction xs with
  | nil => simp [h]
  | cons x rest ih =>
      simp only [List.cons_append, List.dropWhile_cons, ih]
      split
      · rfl
      · rfl

theorem reverse_dropWhile_reverse {p : α → Bool} {xs : List α}
    (h : ∀ c ∈ xs.getLast?, p c = false) : (xs.reverse.dropWhile p).reverse = xs := by
  rw [← List.rdropWhile, List.rdropWhile_eq_self_iff]
  intro hne hlast
  exact Bool.false_ne_true ((h _ (List.getLast?_eq_some_getLast hne)).symm.trans hlast)

/-- What holds of every character of a written text can be checked one by one. -/
theorem forall_mem_of_all {p : Char → Prop} [DecidablePred p] {cs : List Char}
    (h : (cs.all fun c => decide (p c)) = true) : ∀ c ∈ cs, p c := by
  simpa only [List.all_eq_true, decide_eq_true_eq] using h

/-! ## pieces -/

section
variable {isSeparator : Char → Bool}

theorem pieces_ne_nil (cs : List Char) : pieces isSeparator cs ≠ [] := by
  cases cs with
  | nil => exact List.cons_ne_nil _ _
  | cons c rest =>
      rw [pieces]
      split
      · exact List.cons_ne_nil _ _
      · split
        · exact List.cons_ne_nil _ _
        · exact List.cons_ne_nil _ _

/-- The pieces on either side of a separator. -/
theorem pieces_append {c : Char} (h : isSeparator c = true) (xs ys : List Char) :
    pieces isSeparator (xs ++ c :: ys) = pieces isSeparator xs ++ pieces isSeparator ys := by
  induction xs with
  | nil => simp [pieces, h]
  | cons x rest ih =>
      simp only [List.cons_append, pieces, ih]
      split
      · rfl
      · cases hrest : pieces isSeparator rest with
        | nil => exact (pieces_ne_nil rest hrest).elim
        | cons piece others => rfl

theorem pieces_of_none {cs : List Char} (h : ∀ c ∈ cs, isSeparator c = false) :
    pieces isSeparator cs = [cs] := by
  induction cs with
  | nil => rfl
  | cons c rest ih =>
      rw [List.forall_mem_cons] at h
      simp [pieces, h.1, ih h.2]

theorem mem_of_mem_pieces {cs piece : List Char} {c : Char} (hpiece : piece ∈ pieces isSeparator cs)
    (hc : c ∈ piece) : c ∈ cs := by
  induction cs generalizing piece with
  | nil =>
      rw [pieces, List.mem_singleton] at hpiece
      exact hpiece ▸ hc
  | cons x rest ih =>
      rw [pieces] at hpiece
      split at hpiece
      · obtain rfl | hmem := List.mem_cons.mp hpiece
        · exact nomatch hc
        · exact .tail _ (ih hmem hc)
      · split at hpiece
        · rw [List.mem_singleton] at hpiece
          subst hpiece
          rw [List.mem_singleton.mp hc]
          exact .head _
        · next first others hrest =>
          rw [hrest] at ih
          obtain rfl | hmem := List.mem_cons.mp hpiece
          · obtain rfl | hmem := List.mem_cons.mp hc
            · exact .head _
            · exact .tail _ (ih (.head _) hmem)
          · exact .tail _ (ih (.tail _ hmem) hc)

end

/-- A text whose only slashes are proper ones is sent piece by piece. -/
theorem flatMap_pieces {cs : List Char} (h : '\\' ∉ cs) :
    ((pieces isSlash cs).flatMap fun segment => '/' :: encode segment) = '/' :: encode cs := by
  induction cs with
  | nil => rfl
  | cons c rest ih =>
      rw [List.mem_cons, not_or] at h
      have hrest := ih h.2
      rw [pieces]
      split
      · next hslash =>
        have hc : c = '/' := by
          rw [isSlash, Bool.or_eq_true, beq_iff_eq, beq_iff_eq] at hslash
          exact hslash.resolve_right (Ne.symm h.1)
        subst hc
        rw [List.flatMap_cons, hrest, encode_cons]
        rfl
      · cases hpieces : pieces isSlash rest with
        | nil => exact (pieces_ne_nil rest hpieces).elim
        | cons piece others =>
            rw [hpieces, List.flatMap_cons, List.cons_append, List.cons_inj_right] at hrest
            simp only [List.flatMap_cons, List.cons_append, encode_cons, ← hrest,
              List.append_assoc]

/-! ## segments -/

theorem unescapePoints_eq {cs : List Char} (h : '%' ∉ cs) : unescapePoints cs = cs := by
  fun_induction unescapePoints cs with
  | case1 rest ih => simp at h
  | case2 rest ih => simp at h
  | case3 c rest _ _ ih =>
      rw [List.mem_cons, not_or] at h
      rw [ih h.2]
  | case4 => rfl

/-- The segments so far after one more that others follow. -/
def climb (before : List (List Char)) (segment : List Char) : List (List Char) :=
  if unescapePoints segment = ['.', '.'] then before.tail
  else if unescapePoints segment = ['.'] then before
  else segment :: before

theorem resolve_append (before first : List (List Char)) {second : List (List Char)}
    (h : second ≠ []) :
    resolve before (first ++ second) = resolve (first.foldl climb before) second := by
  induction first generalizing before with
  | nil => rfl
  | cons segment rest ih =>
      have hrest : (rest ++ second).isEmpty = false := by
        cases rest with
        | nil => exact List.isEmpty_eq_false_iff.mpr h
        | cons s others => rfl
      rw [List.cons_append, List.foldl_cons, ← ih, climb, resolve]
      by_cases htwo : unescapePoints segment = ['.', '.']
      · simp [htwo, hrest]
      · by_cases hone : unescapePoints segment = ['.']
        · simp [hone, hrest]
        · simp only [htwo, hone, if_false]

/-- Neither `.` nor `..`. -/
def Undotted (segment : List Char) : Prop := segment ≠ ['.'] ∧ segment ≠ ['.', '.']

instance (segment : List Char) : Decidable (Undotted segment) :=
  inferInstanceAs (Decidable (segment ≠ ['.'] ∧ segment ≠ ['.', '.']))

theorem resolve_of_undotted (before : List (List Char)) {segments : List (List Char)}
    (h : ∀ segment ∈ segments, '%' ∉ segment ∧ Undotted segment) :
    resolve before segments = before.reverse ++ segments := by
  induction segments generalizing before with
  | nil => rw [resolve, List.append_nil]
  | cons segment rest ih =>
      rw [List.forall_mem_cons] at h
      obtain ⟨⟨hescape, hone, htwo⟩, hrest⟩ := h
      rw [resolve, unescapePoints_eq hescape]
      simp only [hone, htwo, if_false]
      rw [ih _ hrest, List.reverse_cons, List.append_assoc, List.singleton_append]

/-! ## what stands behind an address -/

/-- A text that is read as it is when it stands behind an address: it starts
with a slash if at all, nothing in it ends the path, is dropped, resolved or
taken for another character, and nothing is cut off its end. -/
structure Tail (t : List Char) : Prop where
  starts : ∀ c ∈ t.head?, c = '/'
  kept : ∀ c ∈ t, isIgnored c = false ∧ c ∉ ['?', '#', '%', '\\']
  undotted : ∀ segment ∈ pieces isSlash t, Undotted segment
  ends : ∀ c ∈ t.getLast?, isEdge c = false

variable {t : List Char}

theorem Tail.not_mem (h : Tail t) {c : Char} (hc : c ∈ ['?', '#', '%', '\\']) : c ∉ t :=
  fun hmem => (h.kept c hmem).2 hc

theorem Tail.no_end (h : Tail t) : ∀ c ∈ t, c ∉ ['?', '#'] :=
  fun c hc hmark => (h.kept c hc).2 (List.mem_append_left ['%', '\\'] hmark)

theorem Tail.nil_or_cons (h : Tail t) : t = [] ∨ ∃ cs, t = '/' :: cs := by
  cases t with
  | nil => exact .inl rfl
  | cons c rest => exact .inr ⟨rest, by rw [h.starts c rfl]⟩

/-- The collection that all workflows are in. -/
def collection : List Char := "workflows".toList

theorem isSlash_collection : ∀ c ∈ collection, isSlash c = false :=
  forall_mem_of_all (by decide)

/-- The segments behind the slash of a tail are sent as they are. -/
theorem Tail.segments_behind {cs : List Char} (h : Tail ('/' :: cs)) :
    ∀ segment ∈ pieces isSlash cs, '%' ∉ segment ∧ Undotted segment := by
  intro segment hsegment
  refine ⟨fun hmem => h.not_mem (c := '%') (by decide) (.tail _ (mem_of_mem_pieces hsegment hmem)),
    h.undotted segment ?_⟩
  rw [pieces, if_pos (by decide)]
  exact .tail _ hsegment

/-- So are those of the collection with a tail behind it. -/
theorem Tail.segments (h : Tail t) :
    ∀ segment ∈ pieces isSlash (collection ++ t), '%' ∉ segment ∧ Undotted segment := by
  have hcollection : '%' ∉ collection ∧ Undotted collection := by decide
  obtain rfl | ⟨cs, rfl⟩ := h.nil_or_cons
  · rw [List.append_nil, pieces_of_none isSlash_collection, List.forall_mem_singleton]
    exact hcollection
  · rw [pieces_append (by decide), pieces_of_none isSlash_collection, List.singleton_append,
      List.forall_mem_cons]
    exact ⟨hcollection, h.segments_behind⟩

/-- What is above the collection is empty or ends with a slash, and is resolved
whatever stands behind the collection. -/
theorem exists_resolve (above : List Char)
    (habove : above = [] ∨ ∃ q d, isSlash d = true ∧ above = q ++ [d]) :
    ∃ front, ∀ t, Tail t →
      resolve [] (pieces isSlash (above ++ (collection ++ t))) =
        front ++ pieces isSlash (collection ++ t) := by
  obtain rfl | ⟨q, d, hd, rfl⟩ := habove
  · refine ⟨[], fun t ht => ?_⟩
    rw [List.nil_append, List.nil_append, resolve_of_undotted [] ht.segments, List.reverse_nil,
      List.nil_append]
  · refine ⟨((pieces isSlash q).foldl climb []).reverse, fun t ht => ?_⟩
    rw [List.append_assoc, List.singleton_append, pieces_append hd,
      resolve_append _ _ (pieces_ne_nil _), resolve_of_undotted _ ht.segments]

/-- The slash in front of a path does not count. -/
theorem pathText_cons {c : Char} (hc : isSlash c = true) (cs : List Char) :
    pathText (c :: cs) =
      (resolve [] (pieces isSlash cs)).flatMap fun segment => '/' :: encode segment := by
  rw [pathText]
  simp only [hc, if_true]
  rfl

/-- A tail behind the collection is sent after what the rest comes to. -/
theorem exists_pathText_behind {c : Char} (hc : isSlash c = true) (above : List Char)
    (habove : above = [] ∨ ∃ q d, isSlash d = true ∧ above = q ++ [d]) :
    ∃ front ≠ [], (∀ c ∈ front, isPathChar c = true) ∧
      ∀ t, Tail t → pathText (c :: (above ++ (collection ++ t))) = front ++ encode t := by
  obtain ⟨segments, hresolve⟩ := exists_resolve above habove
  refine ⟨(segments.flatMap fun segment => '/' :: encode segment) ++ '/' :: encode collection,
    List.append_ne_nil_of_right_ne_nil _ (List.cons_ne_nil _ _), ?_, fun t ht => ?_⟩
  · intro c hmem
    rw [List.mem_append, List.mem_flatMap, List.mem_cons] at hmem
    obtain ⟨segment, -, hmem⟩ | rfl | hmem := hmem
    · obtain rfl | hmem := List.mem_cons.mp hmem
      · decide
      · exact isPathChar_of_mem_encode hmem
    · decide
    · exact isPathChar_of_mem_encode hmem
  · have hbackslash : '\\' ∉ collection ++ t := by
      rw [List.mem_append, not_or]
      exact ⟨by decide, ht.not_mem (by decide)⟩
    rw [pathText_cons hc, hresolve t ht, List.flatMap_append, flatMap_pieces hbackslash,
      encode_append, List.append_assoc, List.cons_append]

/-- A tail that stands behind nothing is sent as it is; there is always a path. -/
theorem pathText_tail (h : Tail t) : pathText t = if t = [] then ['/'] else encode t := by
  obtain rfl | ⟨cs, rfl⟩ := h.nil_or_cons
  · rfl
  · have hbackslash : '\\' ∉ cs := fun hmem => h.not_mem (by decide) (.tail _ hmem)
    rw [pathText_cons (by decide), resolve_of_undotted [] h.segments_behind, List.reverse_nil,
      List.nil_append, flatMap_pieces hbackslash, if_neg (List.cons_ne_nil _ _)]
    rfl

end WorkflowEditor.Url
