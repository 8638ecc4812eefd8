import Mathlib.Data.List.Forall2
import WorkflowEditor.Graph.Editing

/-!
# WorkflowEditor.Proofs.Basic

Plumbing for results that may fail and for the list functions that edits of a
graph are made of.

Everything here is proved once so the proofs about graphs and readers never
open a `do` block or redo a list induction.

* `bind_eq_ok_iff` — a step after a step succeeds exactly when both do;
* `getD_or_eq_iff` — a first choice, a second one and something to fall back on;
* `map_updateFirst` — a change that keeps a key keeps the list of keys;
* `nodup_map_keepFirst`, `mem_map_keepFirst` — of several items with one key
  one stays, and no key is lost;
* `keepFirst_eq_eraseDupsBy`, `keepFirst_congr` — the items that stay are those
  that repeat no earlier key, in whatever order the keys were seen;
* `forall₂_eraseDupsBy` — lists that agree item by item do so without repetitions.
-/

namespace WorkflowEditor

/-! ## results that may fail -/

/-- A step after a step succeeds exactly when both do. -/
theorem bind_eq_ok_iff {x : Except ε α} {f : α → Except ε β} {b : β} :
    (x >>= f) = .ok b ↔ ∃ a, x = .ok a ∧ f a = .ok b := by
  cases x with
  | error e => simp [bind, Except.bind]
  | ok a => simp [bind, Except.bind]

theorem pure_eq_ok_iff {a b : α} : (pure a : Except ε α) = .ok b ↔ a = b := by
  simp [pure, Except.pure]

/-- What comes of a first choice, a second one and something to fall back on. -/
theorem getD_or_eq_iff {first second : Option α} {other a : α} :
    (first.or second).getD other = a ↔
      first = some a ∨ (first = none ∧ second = some a) ∨
        (first = none ∧ second = none ∧ other = a) := by
  cases first <;> cases second <;> simp

/-- What holds of every item of a list, if there is one, and of the one to fall back on. -/
theorem forall_mem_getD {holds : α → Prop} {items : Option (List α)} {other : List α}
    (hitems : ∀ a ∈ items.getD [], holds a) (hother : ∀ a ∈ other, holds a) :
    ∀ a ∈ items.getD other, holds a := by
  cases items with
  | none => exact hother
  | some items => exact hitems

/-! ## lists that agree item by item -/

/-- Lists that agree item by item in a key have the same keys. -/
theorem map_eq_of_forall₂ {R : α → β → Prop} {f : α → κ} {g : β → κ}
    (h : ∀ a b, R a b → f a = g b) {as : List α} {bs : List β} (hagree : List.Forall₂ R as bs) :
    as.map f = bs.map g := by
  induction hagree with
  | nil => rfl
  | cons hab _ ih => rw [List.map_cons, List.map_cons, h _ _ hab, ih]

/-- What holds of every item of one list carries over to the list that agrees with it. -/
theorem forall_mem_of_forall₂ {R : α → β → Prop} {p : α → Prop} {q : β → Prop}
    (h : ∀ a b, p a → R a b → q b) {as : List α} {bs : List β} (hagree : List.Forall₂ R as bs)
    (hp : ∀ a ∈ as, p a) : ∀ b ∈ bs, q b := by
  induction hagree with
  | nil => exact List.forall_mem_nil _
  | cons hab _ ih =>
      rw [List.forall_mem_cons] at hp ⊢
      exact ⟨h _ _ hp.1 hab, ih hp.2⟩

/-- An item of one list has one that agrees with it in the other. -/
theorem exists_mem_of_forall₂ {R : α → β → Prop} {as : List α} {bs : List β}
    (hagree : List.Forall₂ R as bs) {a : α} (ha : a ∈ as) : ∃ b ∈ bs, R a b := by
  induction hagree with
  | nil => cases ha
  | @cons c d _ _ hcd _ ih =>
      obtain rfl | ha := List.mem_cons.mp ha
      · exact ⟨d, List.mem_cons_self, hcd⟩
      · obtain ⟨b, hb, hab⟩ := ih ha
        exact ⟨b, List.mem_cons_of_mem d hb, hab⟩

/-- A reader that succeeds on every item of a list that agrees with another one reads a
list that agrees with it, too. -/
theorem forall₂_filterMap {R : α → β → Prop} {S : γ → β → Prop} {f : α → Option γ}
    (h : ∀ a b, R a b → ∃ c, f a = some c ∧ S c b) {as : List α} {bs : List β}
    (hagree : List.Forall₂ R as bs) : List.Forall₂ S (as.filterMap f) bs := by
  induction hagree with
  | nil => exact .nil
  | cons hab _ ih =>
      obtain ⟨c, hc, hcb⟩ := h _ _ hab
      rw [List.filterMap_cons_some hc]
      exact .cons hcb ih

/-- Lists that agree item by item still do without the items that repeat an earlier one. -/
theorem forall₂_eraseDupsBy {R : α → β → Prop} {r : α → α → Bool} {s : β → β → Bool}
    (h : ∀ {a b a' b'}, R a b → R a' b' → r a a' = s b b') {as : List α} {bs : List β}
    (hagree : List.Forall₂ R as bs) : List.Forall₂ R (as.eraseDupsBy r) (bs.eraseDupsBy s) := by
  induction hlength : as.length using Nat.strongRecOn generalizing as bs with
  | ind n ih =>
      cases hagree with
      | nil => exact .nil
      | @cons a b as bs hab hrest =>
          rw [List.eraseDupsBy_cons, List.eraseDupsBy_cons]
          have hfilter : List.Forall₂ R (as.filter fun x => r x a = false)
              (bs.filter fun y => s y b = false) := by
            refine List.rel_filter (fun x y hxy => ?_) hrest
            simp [h hxy hab]
          refine .cons hab (ih _ ?_ hfilter rfl)
          have hle := List.length_filter_le (fun x => decide (r x a = false)) as
          rw [List.length_cons] at hlength
          omega

namespace Graph

/-! ## changing the first item -/

/-- A change that keeps a key keeps the list of keys. -/
theorem map_updateFirst {key : α → κ} {change : α → α} (h : ∀ a, key (change a) = key a)
    (p : α → Bool) (items : List α) :
    (updateFirst p change items).map key = items.map key := by
  induction items with
  | nil => rfl
  | cons a rest ih =>
      rw [updateFirst]
      split
      · rw [List.map_cons, List.map_cons, h]
      · rw [List.map_cons, List.map_cons, ih]

/-- An item of the changed list is one of the list or a changed one. -/
theorem mem_updateFirst {p : α → Bool} {change : α → α} {items : List α} {a : α}
    (h : a ∈ updateFirst p change items) : a ∈ items ∨ ∃ b ∈ items, change b = a := by
  induction items with
  | nil => exact .inl h
  | cons b rest ih =>
      rw [updateFirst] at h
      split at h
      · obtain rfl | h := List.mem_cons.mp h
        · exact .inr ⟨b, List.mem_cons_self, rfl⟩
        · exact .inl (List.mem_cons_of_mem b h)
      · obtain rfl | h := List.mem_cons.mp h
        · exact .inl List.mem_cons_self
        · obtain h | ⟨c, hc, rfl⟩ := ih h
          · exact .inl (List.mem_cons_of_mem b h)
          · exact .inr ⟨c, List.mem_cons_of_mem b hc, rfl⟩

/-- A change may do as it likes with all items but the one that is changed. -/
theorem updateFirst_congr {p : α → Bool} {f g : α → α} {items : List α}
    (h : ∀ a, items.find? p = some a → f a = g a) :
    updateFirst p f items = updateFirst p g items := by
  induction items with
  | nil => rfl
  | cons a rest ih =>
      rw [updateFirst, updateFirst]
      split
      · next hp => rw [h a (List.find?_cons_of_pos hp)]
      · next hp =>
        rw [ih fun b hb => h b ?_]
        rw [List.find?_cons_of_neg hp, hb]

/-- A change that leaves the item as it is changes nothing. -/
theorem updateFirst_eq_self {p : α → Bool} {f : α → α} {items : List α}
    (h : ∀ a, items.find? p = some a → f a = a) : updateFirst p f items = items := by
  have hid : ∀ items : List α, updateFirst p id items = items := fun items => by
    induction items with
    | nil => rfl
    | cons a rest ih => rw [updateFirst, ih, id, ite_self]
  rw [updateFirst_congr (g := id) h, hid]

/-- The item that was changed is found again. -/
theorem find?_updateFirst {p : α → Bool} {f : α → α} (h : ∀ a, p (f a) = p a) (items : List α) :
    (updateFirst p f items).find? p = (items.find? p).map f := by
  induction items with
  | nil => rfl
  | cons a rest ih =>
      rw [updateFirst]
      split
      · next hp =>
        rw [List.find?_cons_of_pos (h a ▸ hp), List.find?_cons_of_pos hp, Option.map_some]
      · next hp => rw [List.find?_cons_of_neg hp, List.find?_cons_of_neg hp, ih]

/-- **Two changes come to the same in either order**, as far as one looks, if they do
with every item that both are for. -/
theorem map_updateFirst_comm {p q : α → Bool} {f g : α → α} {look : α → β}
    (hp : ∀ a, p (g a) = p a) (hq : ∀ a, q (f a) = q a) {items : List α}
    (h : ∀ a ∈ items, p a = true → q a = true → look (f (g a)) = look (g (f a))) :
    (updateFirst p f (updateFirst q g items)).map look =
      (updateFirst q g (updateFirst p f items)).map look := by
  induction items with
  | nil => rfl
  | cons a rest ih =>
      have ih := ih fun b hb => h b (List.mem_cons_of_mem a hb)
      have ha := h a List.mem_cons_self
      by_cases hpa : p a = true
      · by_cases hqa : q a = true
        · simp [updateFirst, hp, hq, hpa, hqa, ha]
        · simp [updateFirst, hq, hpa, hqa]
      · by_cases hqa : q a = true
        · simp [updateFirst, hp, hpa, hqa]
        · simp [updateFirst, hpa, hqa, ih]

/-! ## items with keys -/

variable [DecidableEq κ] {key : α → κ}

/-- Where no key stands twice a change of the first item with a key is a change of every one. -/
theorem updateFirst_eq_map_of_nodup {items : List α} (h : (items.map key).Nodup) (k : κ)
    (change : α → α) : updateFirst (fun a => key a == k) change items =
      items.map fun a => if key a = k then change a else a := by
  induction items with
  | nil => rfl
  | cons a rest ih =>
      rw [List.map_cons, List.nodup_cons] at h
      rw [updateFirst, List.map_cons]
      by_cases hkey : key a = k
      · have hrest : ∀ b ∈ rest, key b ≠ k := fun b hb heq =>
          h.1 (hkey.trans heq.symm ▸ List.mem_map_of_mem hb)
        have hsame : (rest.map fun b => if key b = k then change b else b) = rest :=
          (List.map_congr_left fun b hb => if_neg (hrest b hb)).trans (List.map_id' rest)
        rw [if_pos (by simpa using hkey), if_pos hkey, hsame]
      · rw [if_neg (by simpa using hkey), if_neg hkey, ih h.2]

/-- Where no key stands twice the first item with a key is all there are. -/
theorem eraseP_eq_filter_of_nodup {items : List α} (h : (items.map key).Nodup) (k : κ) :
    (items.eraseP fun a => key a == k) = items.filter fun a => key a ≠ k := by
  induction items with
  | nil => rfl
  | cons a rest ih =>
      rw [List.map_cons, List.nodup_cons] at h
      by_cases hkey : key a = k
      · have hrest : ∀ b ∈ rest, key b ≠ k := fun b hb heq =>
          h.1 (hkey.trans heq.symm ▸ List.mem_map_of_mem hb)
        rw [List.eraseP_cons_of_pos (by simpa using hkey),
          List.filter_cons_of_neg (by simpa using hkey)]
        exact (List.filter_eq_self.mpr fun b hb => decide_eq_true (hrest b hb)).symm
      · rw [List.eraseP_cons_of_neg (by simpa using hkey),
          List.filter_cons_of_pos (by simpa using hkey), ih h.2]

/-! ## keeping the first item of each key -/

theorem keepFirst_sublist (seen : List κ) (items : List α) :
    (keepFirst key seen items).Sublist items := by
  induction items generalizing seen with
  | nil => exact List.Sublist.slnil
  | cons a rest ih =>
      rw [keepFirst]
      split
      · exact (ih seen).cons a
      · exact (ih _).cons_cons a

/-- The keys that stay are those of the list, less those seen before. -/
theorem mem_map_keepFirst {k : κ} {seen : List κ} {items : List α} :
    k ∈ (keepFirst key seen items).map key ↔ k ∈ items.map key ∧ k ∉ seen := by
  induction items generalizing seen with
  | nil => simp [keepFirst]
  | cons a rest ih =>
      rw [keepFirst]
      split
      · next hseen => grind
      · next hseen =>
        rw [List.map_cons, List.mem_cons, ih, List.map_cons, List.mem_cons]
        grind

/-- No two of the items that stay have the same key. -/
theorem nodup_map_keepFirst (seen : List κ) (items : List α) :
    ((keepFirst key seen items).map key).Nodup := by
  induction items generalizing seen with
  | nil => exact List.nodup_nil
  | cons a rest ih =>
      rw [keepFirst]
      split
      · exact ih seen
      · rw [List.map_cons, List.nodup_cons]
        refine ⟨fun hmem => ?_, ih _⟩
        exact (mem_map_keepFirst.mp hmem).2 List.mem_cons_self

/-- A list without a key twice, none of them seen before, stays as it is. -/
theorem keepFirst_eq_self {seen : List κ} {items : List α} (hnodup : (items.map key).Nodup)
    (hseen : ∀ a ∈ items, key a ∉ seen) : keepFirst key seen items = items := by
  induction items generalizing seen with
  | nil => rfl
  | cons a rest ih =>
      rw [List.map_cons, List.nodup_cons] at hnodup
      rw [keepFirst, if_neg (hseen a List.mem_cons_self), ih hnodup.2]
      intro b hb
      rw [List.mem_cons, not_or]
      refine ⟨fun heq => hnodup.1 ?_, hseen b (List.mem_cons_of_mem a hb)⟩
      exact heq ▸ List.mem_map_of_mem hb

theorem keepFirst_eq_eraseDupsBy_filter (seen : List κ) (items : List α) :
    keepFirst key seen items =
      (items.filter fun a => key a ∉ seen).eraseDupsBy fun a b => key a == key b := by
  induction items generalizing seen with
  | nil => rfl
  | cons a rest ih =>
      rw [keepFirst]
      split
      · next hseen =>
        rw [ih, List.filter_cons_of_neg (by simpa using hseen)]
      · next hseen =>
        rw [ih, List.filter_cons_of_pos (by simpa using hseen), List.eraseDupsBy_cons,
          List.filter_filter]
        congr 3
        funext b
        simp

/-- Of the keys seen before only which they are matters. -/
theorem keepFirst_congr {seen others : List κ} (h : ∀ k, k ∈ seen ↔ k ∈ others) (items : List α) :
    keepFirst key seen items = keepFirst key others items := by
  simp only [keepFirst_eq_eraseDupsBy_filter, h]

/-- The items that stay are those that repeat no earlier key. -/
theorem keepFirst_eq_eraseDupsBy (items : List α) :
    keepFirst key [] items = items.eraseDupsBy fun a b => key a == key b := by
  rw [keepFirst_eq_eraseDupsBy_filter]
  simp

end Graph

end WorkflowEditor
