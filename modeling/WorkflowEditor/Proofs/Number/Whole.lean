import Mathlib.Algebra.Group.Nat.Defs
import WorkflowEditor.Json.Basic

/-!
# WorkflowEditor.Proofs.Number.Whole

Whole numbers as doubles.  A double that is a whole number is the double nearest
to that integer, so it may be written as an integer and read back; only the
sign of a negative zero is lost, which is no difference between numbers.

A double is the three parts of its bit pattern (`ext_parts`), so every fact is
about the sign, the exponent field and the fraction field.

* `ofInt_of_whole?` — a whole double is read back from its integer;
* `isFinite_ofInt` — an integer of at most 64 bits reads as a finite double.
-/

namespace WorkflowEditor.Double

/-! ## the three parts -/

theorem toNat_bits (d : Double) :
    d.bits.toNat = (d.bits.toNat / 0x8000000000000000) * 0x8000000000000000 +
      d.biasedExponent * 0x10000000000000 + d.fraction := by
  rw [biasedExponent, fraction]
  have hlt := d.bits.toNat_lt
  omega

theorem fraction_lt (d : Double) : d.fraction < 0x10000000000000 :=
  Nat.mod_lt _ (by decide)

theorem biasedExponent_lt (d : Double) : d.biasedExponent < 2048 :=
  Nat.mod_lt _ (by decide)

theorem isNegative_iff (d : Double) :
    d.isNegative = true ↔ d.bits.toNat / 0x8000000000000000 = 1 := by
  rw [isNegative, beq_iff_eq]

/-- Two doubles with the same sign, exponent and fraction are the same. -/
theorem ext_parts {a b : Double} (hsign : a.isNegative = b.isNegative)
    (hexponent : a.biasedExponent = b.biasedExponent) (hfraction : a.fraction = b.fraction) :
    a = b := by
  have ha := a.toNat_bits
  have hb := b.toNat_bits
  have hla := a.bits.toNat_lt
  have hlb := b.bits.toNat_lt
  have htop : a.bits.toNat / 0x8000000000000000 = b.bits.toNat / 0x8000000000000000 := by
    have hiff := a.isNegative_iff
    rw [hsign, b.isNegative_iff] at hiff
    omega
  rw [hexponent, hfraction, htop, ← hb] at ha
  obtain ⟨bits⟩ := a
  obtain ⟨bits'⟩ := b
  exact congrArg Double.mk (UInt64.toNat_inj.mp ha)

/-- The double of a given exponent and fraction, without a sign. -/
def ofParts (exponent fraction : Nat) : Double :=
  ⟨UInt64.ofNat (exponent * 0x10000000000000 + fraction)⟩

section
variable {exponent fraction : Nat} (he : exponent < 2048) (hf : fraction < 0x10000000000000)
include he hf

theorem toNat_bits_ofParts :
    (ofParts exponent fraction).bits.toNat = exponent * 0x10000000000000 + fraction :=
  UInt64.toNat_ofNat_of_lt' (by rw [UInt64.size]; omega)

theorem isNegative_ofParts : (ofParts exponent fraction).isNegative = false := by
  rw [isNegative, toNat_bits_ofParts he hf, beq_eq_false_iff_ne]
  omega

theorem biasedExponent_ofParts : (ofParts exponent fraction).biasedExponent = exponent := by
  rw [biasedExponent, toNat_bits_ofParts he hf]
  omega

theorem fraction_ofParts : (ofParts exponent fraction).fraction = fraction := by
  rw [Double.fraction, toNat_bits_ofParts he hf]
  omega

end

/-! ## the other sign -/

theorem toNat_bits_negate (d : Double) : d.negate.bits.toNat =
    if d.isNegative then d.bits.toNat - 0x8000000000000000
    else d.bits.toNat + 0x8000000000000000 := by
  have hlt := d.bits.toNat_lt
  have hiff := d.isNegative_iff
  rw [negate]
  split
  · next hneg =>
    have hone := hiff.mp hneg
    rw [UInt64.toNat_sub]
    simp only [UInt64.reduceToNat]
    omega
  · next hneg =>
    have hone := mt hiff.mpr hneg
    rw [UInt64.toNat_add]
    simp only [UInt64.reduceToNat]
    omega

theorem isNegative_negate (d : Double) : d.negate.isNegative = !d.isNegative := by
  have hlt := d.bits.toNat_lt
  have hiff := d.isNegative_iff
  rw [isNegative, toNat_bits_negate]
  cases hneg : d.isNegative with
  | false => simp [hneg] at hiff ⊢; omega
  | true => simp [hneg] at hiff ⊢; omega

theorem biasedExponent_negate (d : Double) : d.negate.biasedExponent = d.biasedExponent := by
  have hlt := d.bits.toNat_lt
  have hiff := d.isNegative_iff
  rw [biasedExponent, toNat_bits_negate, biasedExponent]
  cases hneg : d.isNegative with
  | false => simp [hneg] at hiff ⊢; omega
  | true => simp [hneg] at hiff ⊢; omega

theorem fraction_negate (d : Double) : d.negate.fraction = d.fraction := by
  have hlt := d.bits.toNat_lt
  have hiff := d.isNegative_iff
  rw [fraction, toNat_bits_negate, fraction]
  cases hneg : d.isNegative with
  | false => simp [hneg] at hiff ⊢; omega
  | true => simp [hneg] at hiff ⊢; omega

/-! ## whole magnitudes -/

theorem wholeMagnitude?_of_ofNat {d : Double} {m k : Nat} (h : d.magnitude = (m, Int.ofNat k)) :
    d.wholeMagnitude? = some (m * 2 ^ k) := by
  rw [wholeMagnitude?, h]
  rfl

theorem wholeMagnitude?_of_negSucc {d : Double} {m k : Nat}
    (h : d.magnitude = (m, Int.negSucc k)) :
    d.wholeMagnitude? = if m % 2 ^ (k + 1) = 0 then some (m / 2 ^ (k + 1)) else none := by
  rw [wholeMagnitude?, h]
  rfl

/-- Below the smallest exponent only zero is whole. -/
theorem wholeMagnitude?_of_zero {d : Double} (he : d.biasedExponent = 0) :
    d.wholeMagnitude? = if d.fraction = 0 then some 0 else none := by
  have hlt (k : Nat) (hk : 52 ≤ k) : d.fraction < 2 ^ k :=
    calc d.fraction < 2 ^ 52 := d.fraction_lt
      _ ≤ 2 ^ k := Nat.pow_le_pow_right (by decide) hk
  have hmagnitude : d.magnitude = (d.fraction, Int.negSucc 1073) := by
    rw [magnitude, if_pos he]
    rfl
  rw [wholeMagnitude?_of_negSucc hmagnitude, Nat.mod_eq_of_lt (hlt _ (by decide)),
    Nat.div_eq_of_lt (hlt _ (by decide))]

theorem wholeMagnitude?_of_ge {d : Double} (he : 1075 ≤ d.biasedExponent) :
    d.wholeMagnitude? = some ((0x10000000000000 + d.fraction) * 2 ^ (d.biasedExponent - 1075)) := by
  refine wholeMagnitude?_of_ofNat ?_
  rw [magnitude, if_neg (by omega), Prod.mk.injEq]
  exact ⟨rfl, by rw [Int.ofNat_eq_natCast]; omega⟩

theorem wholeMagnitude?_of_lt {d : Double} (he : 0 < d.biasedExponent)
    (hlt : d.biasedExponent < 1075) :
    d.wholeMagnitude? =
      if (0x10000000000000 + d.fraction) % 2 ^ (1075 - d.biasedExponent) = 0 then
        some ((0x10000000000000 + d.fraction) / 2 ^ (1075 - d.biasedExponent))
      else none := by
  have hk : 1075 - d.biasedExponent = 1074 - d.biasedExponent + 1 := by omega
  rw [hk]
  refine wholeMagnitude?_of_negSucc ?_
  rw [magnitude, if_neg (by omega), Prod.mk.injEq]
  exact ⟨rfl, by omega⟩

/-- The double of a natural number that is a significand of 53 bits shifted right. -/
theorem ofNat_of_shift {n : Nat} (shift : Nat) (hlow : 0x10000000000000 ≤ n * 2 ^ shift)
    (hhigh : n * 2 ^ shift < 0x20000000000000) :
    ofNat n = ofParts (1075 - shift) (n * 2 ^ shift - 0x10000000000000) := by
  have hn : n ≠ 0 := by
    rintro rfl
    simp at hlow
  have hshift : shift ≤ 52 := by
    have hle : 2 ^ shift ≤ n * 2 ^ shift := Nat.le_mul_of_pos_left _ (Nat.pos_of_ne_zero hn)
    have hpow : (2 : Nat) ^ shift < 2 ^ 53 := by omega
    have := (Nat.pow_lt_pow_iff_right (by decide : 1 < 2)).mp hpow
    omega
  have hsplit (k : Nat) (hk : shift ≤ k) : (2 : Nat) ^ k = 2 ^ (k - shift) * 2 ^ shift := by
    rw [← Nat.pow_add, Nat.sub_add_cancel hk]
  have hlog : n.log2 = 52 - shift := by
    rw [Nat.log2_eq_iff hn]
    constructor
    · have h := hsplit 52 hshift
      refine Nat.le_of_mul_le_mul_right (h ▸ ?_) (Nat.two_pow_pos shift)
      simpa using hlow
    · have h := hsplit 53 (by omega)
      have hk : 53 - shift = 52 - shift + 1 := by omega
      rw [hk] at h
      refine Nat.lt_of_mul_lt_mul_right (a := 2 ^ shift) (h ▸ ?_)
      simpa using hhigh
  have hback : 52 - (52 - shift) = shift := by omega
  have hbits : (52 - shift + 1022) * 0x10000000000000 + n * 2 ^ shift =
      (1075 - shift) * 0x10000000000000 + (n * 2 ^ shift - 0x10000000000000) := by
    generalize n * 2 ^ shift = m at hlow hhigh
    omega
  rw [ofNat, if_neg hn]
  simp only [hlog, hback, Nat.sub_le, if_true, Nat.pow_eq]
  rw [hbits]
  rfl

/-- A natural number that is a multiple of its divisor is rounded to the quotient. -/
theorem roundHalfEven_mul_right (m : Nat) {den : Nat} (h : 0 < den) :
    roundHalfEven (m * den) den = m := by
  rw [roundHalfEven, Nat.mul_mod_left, Nat.mul_div_cancel m h,
    if_pos (by omega)]

/-- The double of a natural number that is a significand of 53 bits shifted left. -/
theorem ofNat_of_scaled {m k : Nat} (hlow : 0x10000000000000 ≤ m) (hhigh : m < 0x20000000000000)
    (hk : k ≤ 971) : ofNat (m * 2 ^ k) = ofParts (1075 + k) (m - 0x10000000000000) := by
  obtain rfl | hpos := Nat.eq_zero_or_pos k
  · rw [Nat.pow_zero, Nat.mul_one, ofNat_of_shift 0 (by omega) (by omega), Nat.pow_zero,
      Nat.mul_one]
  have hn : m * 2 ^ k ≠ 0 :=
    Nat.mul_ne_zero (by omega) (Nat.ne_of_gt (Nat.two_pow_pos k))
  have hlog : (m * 2 ^ k).log2 = 52 + k := by
    rw [Nat.log2_eq_iff hn, Nat.add_right_comm, Nat.pow_add, Nat.pow_add]
    exact ⟨Nat.mul_le_mul_right _ (by omega),
      Nat.mul_lt_mul_of_pos_right (by omega) (Nat.two_pow_pos k)⟩
  have hshift : 52 + k - 52 = k := by omega
  have hbits : (52 + k + 1022) * 0x10000000000000 + m =
      (1075 + k) * 0x10000000000000 + (m - 0x10000000000000) := by
    omega
  rw [ofNat, if_neg hn]
  simp only [hlog, hshift, Nat.pow_eq]
  rw [if_neg (by omega), if_pos (by omega), roundHalfEven_mul_right m (Nat.two_pow_pos k), hbits]
  rfl

/-- Only the zeros have the magnitude zero. -/
theorem wholeMagnitude?_eq_zero_iff {d : Double} :
    d.wholeMagnitude? = some 0 ↔ d.isZero = true := by
  rw [isZero, Bool.and_eq_true, beq_iff_eq, beq_iff_eq]
  obtain hzero | hpos := Nat.eq_zero_or_pos d.biasedExponent
  · rw [wholeMagnitude?_of_zero hzero]
    simp [hzero]
  · have hne : d.biasedExponent ≠ 0 := by omega
    simp only [hne, false_and, iff_false]
    obtain hlt | hge := Nat.lt_or_ge d.biasedExponent 1075
    · rw [wholeMagnitude?_of_lt hpos hlt]
      split
      · next hmod =>
        rw [Option.some.injEq]
        intro hdiv
        have hwhole := Nat.div_add_mod (0x10000000000000 + d.fraction)
          (2 ^ (1075 - d.biasedExponent))
        rw [hdiv, hmod] at hwhole
        omega
      · nofun
    · rw [wholeMagnitude?_of_ge hge, Option.some.injEq]
      exact Nat.mul_ne_zero (by omega) (Nat.ne_of_gt (Nat.two_pow_pos _))

/-- A positive whole magnitude is read back from its integer. -/
theorem ofNat_of_wholeMagnitude? {d : Double} {n : Nat} (hfinite : d.isFinite = true)
    (h : d.wholeMagnitude? = some n) (hpos : 0 < n) :
    ofNat n = ofParts d.biasedExponent d.fraction := by
  have hfraction := d.fraction_lt
  have hexponent := d.biasedExponent_lt
  rw [isFinite, bne_iff_ne] at hfinite
  obtain hzero | hnonzero := Nat.eq_zero_or_pos d.biasedExponent
  · rw [wholeMagnitude?_of_zero hzero] at h
    split at h <;> cases h
    omega
  obtain hlt | hge := Nat.lt_or_ge d.biasedExponent 1075
  · rw [wholeMagnitude?_of_lt hnonzero hlt] at h
    split at h
    · next hmod =>
      rw [Option.some.injEq] at h
      have hshifted : n * 2 ^ (1075 - d.biasedExponent) = 0x10000000000000 + d.fraction := by
        rw [← h]
        exact Nat.div_mul_cancel (Nat.dvd_of_mod_eq_zero hmod)
      have hback : 1075 - (1075 - d.biasedExponent) = d.biasedExponent := by omega
      rw [ofNat_of_shift (1075 - d.biasedExponent) (by omega) (by omega), hshifted, hback,
        Nat.add_sub_cancel_left]
    · cases h
  · rw [wholeMagnitude?_of_ge hge, Option.some.injEq] at h
    have hback : 1075 + (d.biasedExponent - 1075) = d.biasedExponent := by omega
    rw [← h, ofNat_of_scaled (by omega) (by omega) (by omega), hback, Nat.add_sub_cancel_left]

/-! ## whole doubles -/

/-- Of the two zeros the one without a sign; any other double as it is. -/
def canonical (d : Double) : Double := if d.isZero then zero else d

/-- A whole double is a whole magnitude with a sign. -/
theorem whole?_eq_some_iff {d : Double} {i : Int} :
    d.whole? = some i ↔ d.isFinite = true ∧ ∃ n, d.wholeMagnitude? = some n ∧
      i = if d.isNegative then -(n : Int) else n := by
  rw [whole?]
  cases d.wholeMagnitude? with
  | none => simp
  | some n => grind

theorem whole?_of_isZero {d : Double} (h : d.isZero = true) : d.whole? = some 0 := by
  have hfinite : d.isFinite = true := by
    rw [isZero, Bool.and_eq_true, beq_iff_eq] at h
    simp [isFinite, h.1]
  exact whole?_eq_some_iff.mpr ⟨hfinite, 0, wholeMagnitude?_eq_zero_iff.mpr h, by simp⟩

/-- **A whole double is read back from its integer**; only a negative zero
loses its sign. -/
theorem ofInt_of_whole? {d : Double} {i : Int} (h : d.whole? = some i) :
    ofInt i = d.canonical := by
  obtain ⟨hfinite, n, hn, rfl⟩ := whole?_eq_some_iff.mp h
  obtain rfl | hpos := Nat.eq_zero_or_pos n
  · rw [canonical, if_pos (wholeMagnitude?_eq_zero_iff.mp hn)]
    split <;> rfl
  have hzero : ¬d.isZero = true := by
    rw [← wholeMagnitude?_eq_zero_iff, hn, Option.some.injEq]
    omega
  have hnat := ofNat_of_wholeMagnitude? hfinite hn hpos
  have he := d.biasedExponent_lt
  have hf := d.fraction_lt
  rw [canonical, if_neg hzero]
  cases hneg : d.isNegative with
  | true =>
      obtain ⟨k, rfl⟩ := Nat.exists_eq_succ_of_ne_zero (Nat.ne_of_gt hpos)
      change (ofNat (k + 1)).negate = d
      rw [hnat]
      refine ext_parts ?_ ?_ ?_
      · rw [isNegative_negate, isNegative_ofParts he hf, hneg, Bool.not_false]
      · rw [biasedExponent_negate, biasedExponent_ofParts he hf]
      · rw [fraction_negate, fraction_ofParts he hf]
  | false =>
      change ofNat n = d
      rw [hnat]
      refine ext_parts ?_ ?_ ?_
      · rw [isNegative_ofParts he hf, hneg]
      · rw [biasedExponent_ofParts he hf]
      · rw [fraction_ofParts he hf]

/-! ## the same number -/

/-- A finite double is the same number as itself. -/
theorem same_self {d : Double} (h : d.isFinite = true) : d.same d = true := by
  rw [isFinite, bne_iff_ne] at h
  simp [same, isNaN, h]

/-- A double without a negative zero's sign is the same number. -/
theorem same_canonical {d : Double} (h : d.isFinite = true) : d.canonical.same d = true := by
  rw [canonical]
  split
  · next hzero =>
    have hnan : d.isNaN = false := by
      rw [isFinite, bne_iff_ne] at h
      simp [isNaN, h]
    have hbase : zero.isNaN = false ∧ zero.isZero = true := by decide
    simp [same, hnan, hzero, hbase]
  · exact same_self h

theorem whole?_canonical (d : Double) : d.canonical.whole? = d.whole? := by
  rw [canonical]
  split
  · next hzero =>
    rw [whole?_of_isZero hzero]
    exact whole?_of_isZero rfl
  · rfl

theorem canonical_canonical (d : Double) : d.canonical.canonical = d.canonical := by
  rw [canonical.eq_def d]
  split
  · rfl
  · next hzero => rw [canonical, if_neg hzero]

/-! ## integers of at most 64 bits -/

theorem roundHalfEven_le {num den bound : Nat} (h : num < bound * den) :
    roundHalfEven num den ≤ bound := by
  have hq : num / den < bound := Nat.div_lt_of_lt_mul (Nat.mul_comm bound den ▸ h)
  rw [roundHalfEven]
  split
  · omega
  · split
    · omega
    · split <;> omega

/-- A natural number below `2 ^ 65` is far below the largest double. -/
theorem toNat_bits_ofNat_lt {n : Nat} (h : n < 2 ^ 65) :
    (ofNat n).bits.toNat < 2047 * 0x10000000000000 := by
  obtain rfl | hpos := Nat.eq_zero_or_pos n
  · decide
  have hn : n ≠ 0 := Nat.ne_of_gt hpos
  have hlog : n.log2 < 65 := (Nat.log2_lt hn).mpr h
  have hself : n < 2 ^ (n.log2 + 1) := Nat.lt_log2_self
  rw [ofNat, if_neg hn]
  dsimp only
  split
  · next hle =>
    have hmul : n * Nat.pow 2 (52 - n.log2) < 2 ^ 53 := by
      calc n * 2 ^ (52 - n.log2)
          < 2 ^ (n.log2 + 1) * 2 ^ (52 - n.log2) :=
            Nat.mul_lt_mul_of_pos_right hself (Nat.two_pow_pos _)
        _ = 2 ^ 53 := by rw [← Nat.pow_add]; congr 1; omega
    generalize n * Nat.pow 2 (52 - n.log2) = m at hmul
    rw [UInt64.toNat_ofNat_of_lt' (by rw [UInt64.size]; omega)]
    omega
  · next hgt =>
    rw [if_pos (by omega)]
    have hround : roundHalfEven n (Nat.pow 2 (n.log2 - 52)) ≤ 2 ^ 53 := by
      refine roundHalfEven_le ?_
      calc n < 2 ^ (n.log2 + 1) := hself
        _ = 2 ^ 53 * 2 ^ (n.log2 - 52) := by rw [← Nat.pow_add]; congr 1; omega
    generalize roundHalfEven n (Nat.pow 2 (n.log2 - 52)) = m at hround
    rw [UInt64.toNat_ofNat_of_lt' (by rw [UInt64.size]; omega)]
    omega

theorem isFinite_of_toNat_bits_lt {d : Double} (h : d.bits.toNat < 2047 * 0x10000000000000) :
    d.isFinite = true := by
  rw [isFinite, biasedExponent, bne_iff_ne]
  omega

/-- An integer of at most 64 bits, signed or not, reads as a finite double. -/
theorem isFinite_ofInt {i : Int} (h : i.natAbs < 2 ^ 65) : (ofInt i).isFinite = true := by
  cases i with
  | ofNat n => exact isFinite_of_toNat_bits_lt (toNat_bits_ofNat_lt h)
  | negSucc n =>
      have hfinite := isFinite_of_toNat_bits_lt (toNat_bits_ofNat_lt h)
      rw [isFinite] at hfinite ⊢
      exact (biasedExponent_negate (ofNat (n + 1))).symm ▸ hfinite

end WorkflowEditor.Double
