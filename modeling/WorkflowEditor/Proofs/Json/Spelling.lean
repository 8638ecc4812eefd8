import WorkflowEditor.Json.Parser
import WorkflowEditor.Proofs.Json.WellFormed

/-!
# WorkflowEditor.Proofs.Json.Spelling

The values that a text can spell.  Words spell numbers that fit, and the machine
that puts tokens together never has more arrays and objects open than it may, so
the values that come out of it have room in one another.

* `Sound.step`, `Sound.run` — what one token and what a row of tokens keep of
  the machine;
* `spelled_of_parse?` — every value that is read from a text.
-/

namespace WorkflowEditor.Json

/-- A value that a text can spell: its whole numbers fit, the members of its
objects ascend, and at most `room` arrays and objects stand inside each other. -/
inductive Spelled : Nat → Json → Prop
  | null {room : Nat} : Spelled room .null
  | bool {room : Nat} (b : Bool) : Spelled room (.bool b)
  | whole {room : Nat} {i : Int} (fits : (Number.whole i).Fits) : Spelled room (.num (.whole i))
  | double {room : Nat} (d : Double) : Spelled room (.num (.double d))
  | str {room : Nat} (s : String) : Spelled room (.str s)
  | arr {room : Nat} {items : List Json} (each : ∀ v ∈ items, Spelled room v) :
      Spelled (room + 1) (.arr items)
  | obj {room : Nat} {members : List (String × Json)} (ascending : Fields.Ascending members)
      (each : ∀ f ∈ members, Spelled room f.2) : Spelled (room + 1) (.obj members)

theorem Spelled.mono {v : Json} {room more : Nat} (h : v.Spelled room) (hle : room ≤ more) :
    v.Spelled more := by
  induction h generalizing more with
  | null => exact .null
  | bool b => exact .bool b
  | whole fits => exact .whole fits
  | double d => exact .double d
  | str s => exact .str s
  | arr each ih =>
      obtain ⟨less, rfl⟩ := Nat.exists_eq_add_of_lt hle
      exact .arr fun v hv => ih v hv (by omega)
  | obj ascending each ih =>
      obtain ⟨less, rfl⟩ := Nat.exists_eq_add_of_lt hle
      exact .obj ascending fun f hf => ih f hf (by omega)

/-- What is found in an object has at least the room that the object has. -/
theorem Spelled.get? {v w : Json} {room : Nat} (h : v.Spelled room) {key : String}
    (hget : v.get? key = some w) : w.Spelled room := by
  cases h with
  | obj ascending each => exact (each _ (Fields.mem_of_get? hget)).mono (Nat.le_succ _)
  | _ => exact nomatch hget

/-! ## tokens that are read -/

theorem fits_of_unsigned? {negative : Bool} {cs : List Char} {i : Int}
    (h : unsigned? negative cs = some (.whole i)) : (Number.whole i).Fits := by
  have hdouble (before behind : List Char) (exponent : Int) :
      double? negative before behind exponent ≠ some (.whole i) := by
    intro hread
    obtain ⟨d, -, hd⟩ := Option.map_eq_some_iff.mp hread
    exact nomatch hd
  rw [unsigned?] at h
  split at h
  · exact nomatch h
  · dsimp only at h
    split at h
    · next hfits =>
      cases h
      exact ⟨by omega, by omega⟩
    · split at h
      · next hfits =>
        cases h
        exact ⟨by omega, by omega⟩
      · obtain ⟨parts, -, h⟩ := Option.bind_eq_some_iff.mp h
        obtain ⟨exponent, -, h⟩ := Option.bind_eq_some_iff.mp h
        exact (hdouble _ _ _ h).elim

theorem fits_of_number? {cs : List Char} {i : Int} (h : number? cs = some (.whole i)) :
    (Number.whole i).Fits := by
  rw [number?.eq_def] at h
  split at h
  · exact fits_of_unsigned? h
  · exact fits_of_unsigned? h

/-- What a word spells needs no room. -/
theorem spelled_of_scalar? {word : List Char} {v : Json} (h : scalar? word = some v)
    (room : Nat) : v.Spelled room := by
  rw [scalar?] at h
  split at h
  · cases h
    exact .null
  · split at h
    · cases h
      exact .bool true
    · split at h
      · cases h
        exact .bool false
      · obtain ⟨n, hn, rfl⟩ := Option.map_eq_some_iff.mp h
        cases n with
        | whole i => exact .whole (fits_of_number? hn)
        | double d => exact .double d

/-- The value of a token needs no room. -/
def Token.Sound : Token → Prop
  | .scalar v => ∀ room, v.Spelled room
  | _ => True

theorem sound_of_mark? {c : Char} {t : Token} (h : mark? c = some t) : t.Sound := by
  rw [mark?.eq_def] at h
  split at h <;> cases h <;> trivial

theorem sound_of_tokens? {cs : List Char} {ts : List Token} (h : tokens? cs = some ts) :
    ∀ t ∈ ts, t.Sound := by
  fun_induction tokens? cs generalizing ts with
  | case1 =>
      cases h
      exact List.forall_mem_nil _
  | case2 c rest hspace ih => exact ih h
  | case3 c rest hspace t hmark ih =>
      obtain ⟨others, hothers, rfl⟩ := Option.map_eq_some_iff.mp h
      exact List.forall_mem_cons.mpr ⟨sound_of_mark? hmark, ih hothers⟩
  | case4 => exact nomatch h
  | case5 rest s after hscan hspace hmark ih =>
      obtain ⟨others, hothers, rfl⟩ := Option.map_eq_some_iff.mp h
      exact List.forall_mem_cons.mpr ⟨trivial, ih hothers⟩
  | case6 => exact nomatch h
  | case7 c rest hspace hmark hquote v hscalar ih =>
      obtain ⟨others, hothers, rfl⟩ := Option.map_eq_some_iff.mp h
      exact List.forall_mem_cons.mpr ⟨spelled_of_scalar? hscalar, ih hothers⟩

/-! ## the machine -/

/-- What an open array or object holds so far leaves each value the given room. -/
def Frame.Sound (room : Nat) : Frame → Prop
  | .items read => ∀ v ∈ read, v.Spelled room
  | .members read | .member read _ => Fields.Ascending read ∧ ∀ f ∈ read, f.2.Spelled room

namespace Machine

/-- Every open array or object leaves its values what room is left inside it. -/
def SoundStack : List Frame → Prop
  | [] => True
  | frame :: rest =>
      rest.length < depthLimit ∧ frame.Sound (depthLimit - 1 - rest.length) ∧ SoundStack rest

/-- What is open is sound, and a value that is complete can be spelled. -/
structure Sound (m : Machine) : Prop where
  stack : SoundStack m.stack
  done : ∀ v, m.phase = .done v → v.Spelled depthLimit

theorem sound_start : start.Sound := ⟨trivial, nofun⟩

variable {stack : List Frame} {m : Machine}

theorem Sound.of_complete {v : Json} (h : complete stack v = some m) (hstack : SoundStack stack)
    (hv : v.Spelled (depthLimit - stack.length)) : m.Sound := by
  cases stack with
  | nil =>
      cases h
      refine ⟨trivial, fun w hw => ?_⟩
      cases hw
      exact hv
  | cons frame rest =>
      obtain ⟨hroom, hframe, hrest⟩ := hstack
      rw [List.length_cons, Nat.sub_add_eq, Nat.sub_right_comm] at hv
      cases frame with
      | items read =>
          cases h
          exact ⟨⟨hroom, List.forall_mem_cons.mpr ⟨hv, hframe⟩, hrest⟩, nofun⟩
      | members read => exact nomatch h
      | member read key =>
          cases h
          obtain ⟨hascending, heach⟩ := hframe
          refine ⟨⟨hroom, ⟨hascending.insert key v, fun f hf => ?_⟩, hrest⟩, nofun⟩
          obtain rfl | hf := Fields.mem_insert hf
          · exact hv
          · exact heach f hf

theorem Sound.of_enter {frame : Frame} {phase : Phase} (h : enter stack frame phase = some m)
    (hstack : SoundStack stack) (hframe : ∀ room, frame.Sound room)
    (hphase : ∀ v, phase ≠ .done v) : m.Sound := by
  rw [enter] at h
  split at h
  · next hroom =>
    cases h
    exact ⟨⟨hroom, hframe _, hstack⟩, fun v hv => (hphase v hv).elim⟩
  · exact nomatch h

theorem Sound.of_value {t : Token} (h : value stack t = some m) (hstack : SoundStack stack)
    (ht : t.Sound) : m.Sound := by
  cases t with
  | scalar v => exact .of_complete h hstack (ht _)
  | text s => exact .of_complete h hstack (.str s)
  | bracketOpen =>
      rw [value] at h
      exact .of_enter h hstack (fun _ => List.forall_mem_nil _) nofun
  | braceOpen =>
      rw [value] at h
      exact .of_enter h hstack (fun _ => ⟨Fields.ascending_nil, List.forall_mem_nil _⟩) nofun
  | _ => exact nomatch h

theorem Sound.of_close {t : Token} (h : close stack t = some m) (hstack : SoundStack stack) :
    m.Sound := by
  -- an array or object takes one level more than its values
  have hlevel {rest : List Frame} (hroom : rest.length < depthLimit) :
      depthLimit - rest.length = depthLimit - 1 - rest.length + 1 := by omega
  rw [close.eq_def] at h
  split at h
  · next read rest =>
    obtain ⟨hroom, heach, hrest⟩ := hstack
    refine .of_complete h hrest (hlevel hroom ▸ .arr fun v hv => ?_)
    exact heach v (List.mem_reverse.mp hv)
  · next read rest =>
    obtain ⟨hroom, ⟨hascending, heach⟩, hrest⟩ := hstack
    exact .of_complete h hrest (hlevel hroom ▸ .obj hascending heach)
  · exact nomatch h

/-- What a token does: it is a value or begins one, it ends what is open, or it
stands between values, and what is open keeps those it holds. -/
theorem step_cases {after : Machine} {t : Token} (h : m.step t = some after) :
    value m.stack t = some after ∨ close m.stack t = some after ∨
      ((SoundStack m.stack → SoundStack after.stack) ∧ ∀ v, after.phase ≠ .done v) := by
  obtain ⟨stack, phase⟩ := m
  cases phase with
  | value => exact .inl h
  | itemOrEnd =>
      cases t with
      | bracketClose => exact .inr (.inl h)
      | _ => exact .inl h
  | keyOrEnd =>
      cases t with
      | text s =>
          cases h
          exact .inr (.inr ⟨id, nofun⟩)
      | _ => exact .inr (.inl h)
  | key =>
      cases t with
      | text s =>
          cases h
          exact .inr (.inr ⟨id, nofun⟩)
      | _ => cases h
  | colon key =>
      cases stack with
      | nil => cases h
      | cons frame rest =>
          cases frame with
          | members read =>
              cases t with
              | colon =>
                  cases h
                  exact .inr (.inr ⟨id, nofun⟩)
              | _ => cases h
          | items | member => cases h
  | commaOrEnd =>
      cases stack with
      | nil => exact .inr (.inl h)
      | cons frame rest =>
          cases t with
          | comma =>
              cases frame with
              | items | members =>
                  cases h
                  exact .inr (.inr ⟨id, nofun⟩)
              | member => exact .inr (.inl h)
          | _ => cases frame <;> exact .inr (.inl h)
  | done v => cases h

/-- A token keeps the machine sound. -/
theorem Sound.step {after : Machine} {t : Token} (hm : m.Sound) (ht : t.Sound)
    (h : m.step t = some after) : after.Sound := by
  obtain hvalue | hclose | ⟨hstack, hphase⟩ := step_cases h
  · exact .of_value hvalue hm.stack ht
  · exact .of_close hclose hm.stack
  · exact ⟨hstack hm.stack, fun v hv => (hphase v hv).elim⟩

/-- Tokens in a row keep the machine sound. -/
theorem Sound.run {after : Machine} {ts : List Token} (hm : m.Sound) (hts : ∀ t ∈ ts, t.Sound)
    (h : m.run ts = some after) : after.Sound := by
  induction ts generalizing m with
  | nil =>
      cases h
      exact hm
  | cons t rest ih =>
      rw [List.forall_mem_cons] at hts
      rw [Machine.run, List.foldlM_cons] at h
      obtain ⟨next, hnext, hrest⟩ := Option.bind_eq_some_iff.mp h
      exact ih (hm.step hts.1 hnext) hts.2 hrest

end Machine

/-- **Every value that is read from a text** has whole numbers that fit and
ascending members, and at most as many arrays and objects inside each other as
may be open at once. -/
theorem spelled_of_parse? {text : String} {v : Json} (h : parse? text = some v) :
    v.Spelled depthLimit := by
  obtain ⟨ts, hts, h⟩ := Option.bind_eq_some_iff.mp h
  obtain ⟨m, hm, h⟩ := Option.bind_eq_some_iff.mp h
  have hsound := Machine.sound_start.run (sound_of_tokens? hts) hm
  rw [Machine.result?] at h
  split at h
  · next hdone =>
    cases h
    exact hsound.done v hdone
  · exact nomatch h

end WorkflowEditor.Json
