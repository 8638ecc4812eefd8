import WorkflowEditor.Json.Reading

/-!
# WorkflowEditor.Proofs.Json.Members

The members of an object as a map.  Members listed in ascending order of their
keys (`Fields.Ascending`) are determined by what is found under each key
(`Ascending.ext`), so two ways to build an object are compared by look-ups
alone.

* `get?_filter`, `get?_without`, `get?_extend_of_get?_eq_none`,
  `get?_extend_of_ascending`, `get?_ofPairs` — what is found after leaving out,
  laying over and listing;
* `Ascending.insert`, `Ascending.extend`, `Ascending.without` — the order stays;
* `check_eq_ok_iff_get?` — a check of all members, by look-ups.
-/

namespace WorkflowEditor.Fields

/-- The keys ascend, so no key stands twice. -/
def Ascending (fields : Fields) : Prop := fields.Pairwise fun a b => a.1 < b.1

theorem ascending_nil : Ascending [] := List.Pairwise.nil

theorem ascending_pair {k l : String} {v w : Json} (h : k < l) : Ascending [(k, v), (l, w)] :=
  List.pairwise_pair.mpr h

/-! ## looking up -/

theorem get?_eq_none_of_lt {fields : Fields} {key : String} (h : ∀ f ∈ fields, key < f.1) :
    fields.get? key = none := by
  induction fields with
  | nil => rfl
  | cons f rest ih =>
      obtain ⟨k, v⟩ := f
      have hlt : key < k := h _ List.mem_cons_self
      rw [get?_cons, if_neg (String.ne_of_lt hlt).symm]
      exact ih fun f hf => h f (List.mem_cons_of_mem _ hf)

/-- What is found is a member. -/
theorem mem_of_get? {fields : Fields} {key : String} {v : Json} (h : fields.get? key = some v) :
    (key, v) ∈ fields := by
  induction fields with
  | nil => cases h
  | cons f rest ih =>
      obtain ⟨k, w⟩ := f
      rw [get?_cons] at h
      split at h
      · next heq =>
        cases h
        rw [heq]
        exact List.mem_cons_self
      · exact List.mem_cons_of_mem _ (ih h)

/-- In ascending members each member is found under its key. -/
theorem Ascending.get?_of_mem {fields : Fields} (h : fields.Ascending) {key : String} {v : Json}
    (hmem : (key, v) ∈ fields) : fields.get? key = some v := by
  induction fields with
  | nil => cases hmem
  | cons f rest ih =>
      obtain ⟨k, w⟩ := f
      obtain ⟨hfirst, hrest⟩ := List.pairwise_cons.mp h
      obtain heq | hmem := List.mem_cons.mp hmem
      · cases heq
        rw [get?_cons, if_pos rfl]
      · have hlt : k < key := hfirst _ hmem
        rw [get?_cons, if_neg (String.ne_of_lt hlt)]
        exact ih hrest hmem

theorem mem_keys_iff {fields : Fields} {key : String} :
    key ∈ fields.keys ↔ ∃ v, fields.get? key = some v := by
  constructor
  · intro hmem
    induction fields with
    | nil => cases hmem
    | cons f rest ih =>
        obtain ⟨k, w⟩ := f
        rw [get?_cons]
        split
        · exact ⟨w, rfl⟩
        · next hne =>
          obtain heq | hmem := List.mem_cons.mp hmem
          · exact absurd heq.symm hne
          · exact ih hmem
  · rintro ⟨v, hv⟩
    exact List.mem_map_of_mem (mem_of_get? hv)

/-- **Ascending members are a map**: they are determined by what is found under each key. -/
theorem Ascending.ext {a b : Fields} (ha : a.Ascending) (hb : b.Ascending)
    (h : ∀ key, a.get? key = b.get? key) : a = b := by
  induction a generalizing b with
  | nil =>
      cases b with
      | nil => rfl
      | cons g bs =>
          have hg := h g.1
          rw [get?_cons, if_pos rfl] at hg
          cases hg
  | cons f as ih =>
      obtain ⟨k, v⟩ := f
      obtain ⟨hka, has⟩ := List.pairwise_cons.mp ha
      cases b with
      | nil =>
          have hk := h k
          rw [get?_cons, if_pos rfl] at hk
          cases hk
      | cons g bs =>
          obtain ⟨l, w⟩ := g
          obtain ⟨hlb, hbs⟩ := List.pairwise_cons.mp hb
          -- the first keys agree: the smaller one would be missing on the other side
          have hkl : ¬k < l := fun hlt => by
            have hk := h k
            rw [get?_cons, if_pos rfl, get?_eq_none_of_lt] at hk
            · cases hk
            · intro f hf
              obtain rfl | hf := List.mem_cons.mp hf
              · exact hlt
              · exact String.lt_trans hlt (hlb f hf)
          have hlk : ¬l < k := fun hlt => by
            have hl := (h l).symm
            rw [get?_cons, if_pos rfl, get?_eq_none_of_lt] at hl
            · cases hl
            · intro f hf
              obtain rfl | hf := List.mem_cons.mp hf
              · exact hlt
              · exact String.lt_trans hlt (hka f hf)
          have heq : k = l := String.le_antisymm (String.not_lt.mp hlk) (String.not_lt.mp hkl)
          subst heq
          have hv := h k
          rw [get?_cons, get?_cons, if_pos rfl, if_pos rfl] at hv
          cases hv
          congr 1
          refine ih has hbs fun key => ?_
          have hkey := h key
          rw [get?_cons, get?_cons] at hkey
          split at hkey
          · next heq =>
            subst heq
            rw [get?_eq_none_of_lt hka, get?_eq_none_of_lt hlb]
          · exact hkey

/-! ## the order stays -/

theorem mem_insert {fields : Fields} {key : String} {value : Json} {f : String × Json}
    (h : f ∈ fields.insert key value) : f = (key, value) ∨ f ∈ fields := by
  induction fields with
  | nil => exact .inl (List.mem_singleton.mp h)
  | cons g rest ih =>
      obtain ⟨k, v⟩ := g
      rw [insert] at h
      split at h
      · grind
      · split at h
        · grind
        · grind

/-- A key above all others is written behind them. -/
theorem insert_of_forall_lt {fields : Fields} {key : String} (h : ∀ f ∈ fields, f.1 < key)
    (value : Json) : fields.insert key value = fields ++ [(key, value)] := by
  induction fields with
  | nil => rfl
  | cons f rest ih =>
      obtain ⟨k, v⟩ := f
      rw [List.forall_mem_cons] at h
      rw [insert, if_neg (String.ne_of_lt h.1), if_neg (String.lt_asymm h.1), ih h.2,
        List.cons_append]

theorem Ascending.insert {fields : Fields} (h : fields.Ascending) (key : String) (value : Json) :
    (fields.insert key value).Ascending := by
  induction fields with
  | nil => exact List.pairwise_singleton _ _
  | cons g rest ih =>
      obtain ⟨k, v⟩ := g
      obtain ⟨hfirst, hrest⟩ := List.pairwise_cons.mp h
      rw [Fields.insert]
      split
      · next heq =>
        subst heq
        exact List.pairwise_cons.mpr ⟨hfirst, hrest⟩
      · next hne =>
        split
        · next hlt =>
          refine List.pairwise_cons.mpr ⟨fun f hf => ?_, h⟩
          obtain rfl | hf := List.mem_cons.mp hf
          · exact hlt
          · exact String.lt_trans hlt (hfirst f hf)
        · next hge =>
          refine List.pairwise_cons.mpr ⟨fun f hf => ?_, ih hrest⟩
          obtain rfl | hf := mem_insert hf
          · exact String.not_le.mp fun hle =>
              hne (String.le_antisymm (String.not_lt.mp hge) hle)
          · exact hfirst f hf

theorem Ascending.extend {base : Fields} (h : base.Ascending) (overlay : Fields) :
    (base.extend overlay).Ascending := by
  induction overlay generalizing base with
  | nil => exact h
  | cons f rest ih => exact ih (h.insert f.1 f.2)

theorem ascending_ofPairs (pairs : List (String × Json)) : (ofPairs pairs).Ascending :=
  ascending_nil.extend pairs

theorem Ascending.without {fields : Fields} (h : fields.Ascending) (names : List String) :
    (fields.without names).Ascending :=
  List.Pairwise.filter _ h

theorem without_without (fields : Fields) (names : List String) :
    (fields.without names).without names = fields.without names := by
  simp only [without, List.filter_filter, Bool.and_self]

/-! ## what is found after a change -/

theorem get?_filter (fields : Fields) (keep : String → Bool) (key : String) :
    Fields.get? (fields.filter fun f => keep f.1) key =
      if keep key then fields.get? key else none := by
  induction fields with
  | nil => simp
  | cons f rest ih =>
      obtain ⟨k, v⟩ := f
      rw [List.filter_cons]
      split
      · next hkeep =>
        rw [get?_cons, get?_cons, ih]
        grind
      · next hdrop =>
        rw [ih, get?_cons]
        grind

theorem get?_without (fields : Fields) (names : List String) (key : String) :
    (fields.without names).get? key = if key ∈ names then none else fields.get? key := by
  rw [without, get?_filter fields fun k => !names.contains k]
  simp

theorem get?_append (a b : Fields) (key : String) :
    Fields.get? (a ++ b) key = (a.get? key).or (b.get? key) := by
  induction a with
  | nil => rfl
  | cons f rest ih =>
      obtain ⟨k, v⟩ := f
      rw [List.cons_append, get?_cons, get?_cons, ih]
      split <;> rfl

theorem get?_eq_none_of_not_mem {fields : Fields} {key : String} (h : key ∉ fields.keys) :
    fields.get? key = none := by
  rw [mem_keys_iff] at h
  exact Option.eq_none_iff_forall_ne_some.mpr fun v hv => h ⟨v, hv⟩

/-- If no key stands twice it does not matter from which end one looks. -/
theorem get?_reverse_of_nodup {fields : Fields} (h : fields.keys.Nodup) (key : String) :
    Fields.get? fields.reverse key = fields.get? key := by
  induction fields with
  | nil => rfl
  | cons f rest ih =>
      obtain ⟨k, v⟩ := f
      obtain ⟨hfirst, hrest⟩ := List.nodup_cons.mp h
      rw [List.reverse_cons, get?_append, ih hrest, get?_cons, get?_cons, get?_nil]
      split
      · next heq =>
        subst heq
        rw [get?_eq_none_of_not_mem hfirst]
        rfl
      · rw [Option.or_none]

theorem Ascending.nodup_keys {fields : Fields} (h : fields.Ascending) : fields.keys.Nodup :=
  List.pairwise_map.mpr (h.imp String.ne_of_lt)

/-- What is laid over leaves alone what it has no key for. -/
theorem get?_extend_of_get?_eq_none (base : Fields) {overlay : Fields} {key : String}
    (h : overlay.get? key = none) : (base.extend overlay).get? key = base.get? key := by
  have hreverse : Fields.get? overlay.reverse key = none := by
    refine get?_eq_none_of_not_mem fun hmem => ?_
    rw [keys, List.map_reverse, List.mem_reverse] at hmem
    obtain ⟨v, hv⟩ := mem_keys_iff.mp hmem
    rw [h] at hv
    exact nomatch hv
  rw [get?_extend, hreverse, Option.none_or]

theorem get?_extend_of_ascending (base : Fields) {overlay : Fields} (h : overlay.Ascending)
    (key : String) : (base.extend overlay).get? key = (overlay.get? key).or (base.get? key) := by
  rw [get?_extend, get?_reverse_of_nodup h.nodup_keys]

theorem get?_ofPairs (pairs : List (String × Json)) (key : String) :
    (ofPairs pairs).get? key = Fields.get? pairs.reverse key := by
  rw [ofPairs, get?_extend, get?_nil, Option.or_none]

/-- Laying ascending members over nothing gives them back. -/
theorem Ascending.extend_nil {fields : Fields} (h : fields.Ascending) :
    Fields.extend [] fields = fields :=
  (ascending_nil.extend fields).ext h fun key => by
    rw [get?_extend_of_ascending [] h, get?_nil, Option.or_none]

/-- Laying ascending members over themselves changes nothing. -/
theorem Ascending.extend_self {fields : Fields} (h : fields.Ascending) :
    fields.extend fields = fields :=
  (h.extend fields).ext h fun key => by rw [get?_extend_of_ascending fields h, Option.or_self]

/-- Of three maps laid over each other it does not matter which two come first. -/
theorem Ascending.extend_extend {base middle top : Fields} (hbase : base.Ascending)
    (hmiddle : middle.Ascending) (htop : top.Ascending) :
    (base.extend middle).extend top = base.extend (middle.extend top) := by
  have hover : (middle.extend top).Ascending := hmiddle.extend top
  refine ((hbase.extend middle).extend top).ext (hbase.extend _) fun key => ?_
  rw [get?_extend_of_ascending _ htop, get?_extend_of_ascending _ hmiddle,
    get?_extend_of_ascending _ hover, get?_extend_of_ascending _ htop, Option.or_assoc]

/-- Maps that agree where both have a value may be laid over a third in either order. -/
theorem Ascending.extend_comm {base a b : Fields} (hbase : base.Ascending) (ha : a.Ascending)
    (hb : b.Ascending)
    (hagree : ∀ key v w, a.get? key = some v → b.get? key = some w → v = w) :
    (base.extend a).extend b = (base.extend b).extend a := by
  refine ((hbase.extend a).extend b).ext ((hbase.extend b).extend a) fun key => ?_
  simp only [get?_extend_of_ascending _ ha, get?_extend_of_ascending _ hb]
  cases hv : a.get? key with
  | none => simp
  | some v =>
      cases hw : b.get? key with
      | none => simp
      | some w => simp [hagree key v w hv hw]

/-- Leaving out keys that are not there changes nothing. -/
theorem Ascending.without_eq_self {fields : Fields} (h : fields.Ascending) {names : List String}
    (habsent : ∀ key ∈ names, fields.get? key = none) : fields.without names = fields :=
  (h.without names).ext h fun key => by
    rw [get?_without]
    split
    · next hkey => rw [habsent key hkey]
    · rfl

/-! ## checks -/

/-- In ascending members a check of all is a check of what is found under each key. -/
theorem check_eq_ok_iff_get? {fields : Fields} (h : fields.Ascending)
    {checkMember : String → Json → Except ReadError Unit} :
    fields.check checkMember = .ok () ↔
      ∀ key v, fields.get? key = some v → checkMember key v = .ok () := by
  rw [check_eq_ok_iff]
  exact ⟨fun hall key v hget => hall _ (mem_of_get? hget),
    fun hall f hf => hall f.1 f.2 (h.get?_of_mem hf)⟩

end WorkflowEditor.Fields
