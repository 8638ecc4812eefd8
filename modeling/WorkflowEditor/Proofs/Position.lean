import WorkflowEditor.Node
import WorkflowEditor.Proofs.Json.Reading
import WorkflowEditor.Proofs.Json.WellFormed

/-!
# WorkflowEditor.Proofs.Position

Places on the canvas as they are read and written.  A coordinate is read as the
double nearest to the number received; a whole one is written as an integer.

* `ofJson_toJson` — a finite position is read back as the same point;
* `parts?_of_ofJson` — where the coordinates of a position are received;
* `Number.kept_of_coordinateToJson` — a coordinate that is received is sent
  back as the same number, if a double can be that number.
-/

namespace WorkflowEditor

/-! ## numbers of either kind -/

namespace Number

/-- The double nearest to a number. -/
def toDouble : Number → Double
  | whole i => Double.ofInt i
  | double d => d

/-- Equality of numbers of either kind: a double may be a whole number. -/
def equals : Number → Number → Bool
  | whole a, whole b => a == b
  | double a, double b => a.same b
  | whole a, double b => b.whole? == some a
  | double a, whole b => a.whole? == some b

/-- What is sent is the double nearest to what was received, and equals what
was received if any double does. -/
def Kept (received sent : Number) : Prop :=
  sent.equals (.double received.toDouble) = true ∧
    ∀ d, received.equals (.double d) = true → sent.equals received = true

theorem Fits.isFinite_toDouble {n : Number} (h : n.Fits) : n.toDouble.isFinite = true := by
  cases n with
  | whole i =>
      obtain ⟨hlow, hhigh⟩ := h
      refine Double.isFinite_ofInt ?_
      have hbound : i.natAbs < 0x10000000000000001 := by omega
      exact Nat.lt_trans hbound (by decide)
  | double d => exact h

end Number

theorem Json.asDouble_eq_ok_iff {v : Json} {d : Double} :
    v.asDouble = .ok d ↔ ∃ n, v = .num n ∧ n.toDouble = d := by
  cases v with
  | num n => cases n <;> simp [asDouble, Number.toDouble]
  | _ => simp [asDouble]

namespace Position

/-! ## coordinates -/

/-- A finite coordinate is written as an integer that it is, or as it is. -/
theorem coordinateToJson_eq_num {d : Double} (h : d.isFinite = true) :
    (∃ i, d.whole? = some i ∧ coordinateToJson d = .num (.whole i)) ∨
      (d.isZero = false ∧ coordinateToJson d = .num (.double d)) := by
  cases hwhole : d.whole? with
  | none =>
      refine .inr ⟨?_, by simp [coordinateToJson, hwhole, h]⟩
      cases hzero : d.isZero with
      | false => rfl
      | true => simp [Double.whole?_of_isZero hzero] at hwhole
  | some i =>
      by_cases hsmall : i.natAbs < wholeLimit
      · exact .inl ⟨i, rfl, by simp [coordinateToJson, hwhole, hsmall, Json.ofInt]⟩
      · refine .inr ⟨?_, by simp [coordinateToJson, hwhole, hsmall]⟩
        cases hzero : d.isZero with
        | false => rfl
        | true =>
            rw [Double.whole?_of_isZero hzero, Option.some.injEq] at hwhole
            subst hwhole
            exact absurd (by decide) hsmall

/-- A finite coordinate is read back, a negative zero without its sign. -/
theorem asDouble_coordinateToJson {d : Double} (h : d.isFinite = true) :
    (coordinateToJson d).asDouble = .ok d.canonical := by
  obtain ⟨i, hwhole, heq⟩ | ⟨hzero, heq⟩ := coordinateToJson_eq_num h
  · rw [heq, ← Double.ofInt_of_whole? hwhole]
    rfl
  · rw [heq, Double.canonical, hzero]
    rfl

end Position

/-- **A coordinate that is received is sent back** as the double nearest to it,
and as the same number if any double is. -/
theorem Number.kept_of_coordinateToJson {received : Number} (h : received.Fits) :
    ∃ sent, Position.coordinateToJson received.toDouble = .num sent ∧ received.Kept sent := by
  have hfinite := h.isFinite_toDouble
  -- what is sent equals the nearest double, which is a double's only whole number
  have hwhole : ∀ (i : Int) (d : Double), received = .whole i → d.whole? = some i →
      received.toDouble.whole? = some i := by
    rintro i d rfl hd
    rw [toDouble, Double.ofInt_of_whole? hd, Double.whole?_canonical, hd]
  obtain ⟨i, hi, heq⟩ | ⟨-, heq⟩ := Position.coordinateToJson_eq_num hfinite
  · refine ⟨_, heq, by simp [equals, hi], fun d hd => ?_⟩
    cases received with
    | whole j =>
        have hj := hwhole j d rfl (by simpa [equals] using hd)
        rw [hi, Option.some.injEq] at hj
        simp [equals, hj]
    | double e => simpa [equals, toDouble] using hi
  · refine ⟨_, heq, Double.same_self hfinite, fun d hd => ?_⟩
    cases received with
    | whole j =>
        have hj := hwhole j d rfl (by simpa [equals] using hd)
        simp [equals, hj]
    | double e => exact Double.same_self hfinite

namespace Position

/-! ## positions -/

/-- Neither coordinate is infinite or a NaN. -/
structure IsFinite (p : Position) : Prop where
  x : p.x.isFinite = true
  y : p.y.isFinite = true

/-- The same point, written without a negative zero. -/
def canonical (p : Position) : Position := ⟨p.x.canonical, p.y.canonical⟩

theorem same_canonical {p : Position} (h : p.IsFinite) : p.canonical.same p = true := by
  simp [same, canonical, Double.same_canonical h.x, Double.same_canonical h.y]

/-- **A finite position is read back** as the same point. -/
theorem ofJson_toJson {p : Position} (h : p.IsFinite) : ofJson p.toJson = .ok p.canonical := by
  have hx := asDouble_coordinateToJson h.x
  have hy := asDouble_coordinateToJson h.y
  have hfields : Fields.ofPairs [("x", coordinateToJson p.x), ("y", coordinateToJson p.y)] =
      [("x", coordinateToJson p.x), ("y", coordinateToJson p.y)] :=
    (Fields.ascending_pair (by decide)).extend_nil
  rw [toJson, Json.object, hfields, ofJson, bind_eq_ok_iff]
  refine ⟨(), ?_, ?_⟩
  · rw [Fields.check_eq_ok_iff]
    simp [checkMember, discard_eq_ok_iff, hx, hy]
  · simp [Fields.required, Fields.get?_cons, hx, hy]
    rfl

/-- The coordinates where a position has them: under their names, or in their places. -/
def parts? : Json → Option (Json × Json)
  | .obj fields =>
      (Fields.get? fields "x").bind fun x => (Fields.get? fields "y").map fun y => (x, y)
  | .arr [x, y] => some (x, y)
  | _ => none

/-- A position that is read is the pair of the doubles nearest to its coordinates. -/
theorem parts?_of_ofJson {v : Json} {p : Position} (h : ofJson v = .ok p) :
    ∃ a b, parts? v = some (.num a, .num b) ∧ a.toDouble = p.x ∧ b.toDouble = p.y := by
  cases v with
  | obj fields =>
      rw [ofJson, bind_eq_ok_iff] at h
      obtain ⟨-, -, h⟩ := h
      obtain ⟨x, hx, h⟩ := bind_eq_ok_iff.mp h
      obtain ⟨y, hy, h⟩ := bind_eq_ok_iff.mp h
      obtain rfl := pure_eq_ok_iff.mp h
      obtain ⟨v, hgetx, hreadx⟩ := Fields.required_eq_ok_iff.mp hx
      obtain ⟨w, hgety, hready⟩ := Fields.required_eq_ok_iff.mp hy
      obtain ⟨a, rfl, ha⟩ := Json.asDouble_eq_ok_iff.mp hreadx
      obtain ⟨b, rfl, hb⟩ := Json.asDouble_eq_ok_iff.mp hready
      exact ⟨a, b, by simp [parts?, hgetx, hgety], ha, hb⟩
  | arr items =>
      rw [ofJson] at h
      obtain ⟨x, hx, h⟩ := bind_eq_ok_iff.mp h
      obtain ⟨y, hy, h⟩ := bind_eq_ok_iff.mp h
      obtain ⟨u, hlength, h⟩ := bind_eq_ok_iff.mp h
      obtain rfl := pure_eq_ok_iff.mp h
      match items with
      | [] => cases hx
      | [_] => cases hy
      | [v, w] =>
          obtain ⟨a, rfl, ha⟩ := Json.asDouble_eq_ok_iff.mp hx
          obtain ⟨b, rfl, hb⟩ := Json.asDouble_eq_ok_iff.mp hy
          exact ⟨a, b, rfl, ha, hb⟩
      | _ :: _ :: _ :: _ => simp [Items.checkLength] at hlength
  | _ => cases h

/-- The position has the doubles nearest to the coordinates received, or is the
origin if there is none. -/
def Carries (received : Option Json) (p : Position) : Prop :=
  ∃ a b, received.elim (some (.ofInt 0, .ofInt 0)) parts? = some (.num a, .num b) ∧
    a.toDouble = p.x ∧ b.toDouble = p.y

theorem carries_of_defaulted {fields : Fields} {p : Position}
    (h : fields.defaulted "position" .origin ofJson = .ok p) :
    Carries (fields.get? "position") p := by
  obtain ⟨hnone, rfl⟩ | ⟨v, hv, hread⟩ := Fields.defaulted_eq_ok_iff.mp h
  · rw [hnone]
    exact ⟨.whole 0, .whole 0, rfl, rfl, rfl⟩
  · rw [hv]
    exact parts?_of_ofJson hread

/-- The coordinates of a well-formed position are numbers that fit. -/
theorem fits_of_parts? {v : Json} {a b : Number} (h : v.WellFormed)
    (hparts : parts? v = some (.num a, .num b)) : a.Fits ∧ b.Fits := by
  cases h with
  | @obj fields ascending each =>
      have hfields : Fields.WellFormed fields := .obj ascending each
      rw [parts?, Option.bind_eq_some_iff] at hparts
      obtain ⟨x, hx, hmap⟩ := hparts
      obtain ⟨y, hy, heq⟩ := Option.map_eq_some_iff.mp hmap
      cases heq
      exact ⟨(hfields.get? hx).fits, (hfields.get? hy).fits⟩
  | @arr items each =>
      match items with
      | [x, y] =>
          cases hparts
          exact ⟨(each _ List.mem_cons_self).fits,
            (each _ (List.mem_cons_of_mem _ List.mem_cons_self)).fits⟩
      | [] | [_] | _ :: _ :: _ :: _ => cases hparts
  | _ => cases hparts

/-- The coordinates of a position that is received, or the origin if there is none, are sent. -/
def Kept (received sent : Option Json) : Prop :=
  ∃ a b x y, received.elim (some (.ofInt 0, .ofInt 0)) parts? = some (.num a, .num b) ∧
    sent = some (.object [("x", .num x), ("y", .num y)]) ∧ a.Kept x ∧ b.Kept y

/-- **A position that is read is sent back**; one that is absent is the origin. -/
theorem kept_toJson {fields : Fields} {p : Position} (hfields : fields.WellFormed)
    (h : fields.defaulted "position" .origin ofJson = .ok p) :
    Kept (fields.get? "position") (some p.toJson) := by
  obtain ⟨a, b, hab, ha, hb⟩ := carries_of_defaulted h
  obtain ⟨hfitsa, hfitsb⟩ : a.Fits ∧ b.Fits := by
    cases hget : fields.get? "position" with
    | none =>
        rw [hget] at hab
        cases hab
        exact ⟨by decide, by decide⟩
    | some v =>
        rw [hget] at hab
        exact fits_of_parts? (hfields.get? hget) hab
  obtain ⟨x, hx, hkeptx⟩ := Number.kept_of_coordinateToJson hfitsa
  obtain ⟨y, hy, hkepty⟩ := Number.kept_of_coordinateToJson hfitsb
  refine ⟨a, b, x, y, hab, ?_, hkeptx, hkepty⟩
  rw [toJson, ← ha, ← hb, hx, hy]

end Position

end WorkflowEditor
