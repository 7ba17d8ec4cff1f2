import GroundStation.Time.Duration
import Mathlib

/-!
# Seconds that are too many

A number of seconds is a duration if it is shorter than `2 ^ 64` seconds. The number is in double
precision, and a duration counts nanoseconds, so the two sides of this sentence have little in
common: on the one side is a comparison of the machine's numbers, on the other side an exact
product that is rounded to the nearest nanosecond.

Both are read off the bit pattern. The patterns of positive finite numbers are ordered like the
numbers, so the comparison is one of patterns (`two_pow_le_iff`); and a number with a pattern below
that of `2 ^ 64` is a whole number of at most `2 ^ 53 - 1` in a unit of at most `2 ^ 11`
(`doubleValue_of_pos`), which leaves room for the rounding.

The lemmas on the fields of a pattern are among those that only Mathlib as a whole brings along.

## Main results

* `two_pow_le_iff`: which patterns stand for `2 ^ 64` and more.
* `Duration.ofSeconds?_eq_none_iff`: which positive finite numbers of seconds are no duration.
-/

namespace GroundStation

open Float.Model

/-! ## The fields of a pattern -/

section Fields

variable {b : BitVec 64}

theorem toNat_unpackMantissa (b : BitVec 64) :
    (@UnpackedFloat.unpackMantissa Format.binary64 b).toNat = b.toNat % 2 ^ 52 := by
  rw [UnpackedFloat.unpackMantissa_def, BitVec.extractLsb'_toNat, Nat.shiftRight_zero]

theorem toNat_unpackExponent (b : BitVec 64) :
    (@UnpackedFloat.unpackExponent Format.binary64 b).toNat = b.toNat / 2 ^ 52 % 2 ^ 11 := by
  rw [UnpackedFloat.unpackExponent_def, BitVec.extractLsb'_toNat, Nat.shiftRight_eq_div_pow]

theorem toNat_unpackSign (b : BitVec 64) :
    (@UnpackedFloat.unpackSign Format.binary64 b).toNat = b.toNat / 2 ^ 63 := by
  have hbits := b.isLt
  have hbit : b.toNat / 2 ^ 63 < 2 := by omega
  rw [UnpackedFloat.unpackSign_def, BitVec.extractLsb'_toNat, Nat.shiftRight_eq_div_pow]
  exact Nat.mod_eq_of_lt hbit

/-- The pattern of a positive finite number is below that of infinity. -/
theorem toNat_lt_of_pos (hfinite : (UnpackedFloat.unpack Format.binary64 b).isFinite = true)
    (hpos : (UnpackedFloat.zero .positive).lt (UnpackedFloat.unpack Format.binary64 b) = true) :
    b.toNat < 2047 * 2 ^ 52 := by
  have hexponent := toNat_unpackExponent b
  have hsign := toNat_unpackSign b
  have hbits := b.isLt
  simp only [UnpackedFloat.unpack] at hpos hfinite
  have hfield : @UnpackedFloat.unpackExponent Format.binary64 b ≠ -1#11 := by
    intro hmax
    rw [if_pos hmax] at hfinite
    split at hfinite <;> cases hfinite
  have hpositive : @UnpackedFloat.unpackSign Format.binary64 b = 0#1 := by
    refine Classical.byContradiction fun hnegative => ?_
    rw [if_neg hfield, UnpackedFloat.Sign.ofBitVec, if_neg hnegative] at hpos
    split at hpos
    · split at hpos <;> cases hpos
    · cases hpos
  have hbelow : b.toNat / 2 ^ 52 % 2 ^ 11 ≠ 2047 := by
    rw [← hexponent]
    exact fun h => hfield (BitVec.eq_of_toNat_eq h)
  rw [hpositive] at hsign
  change 0 = _ at hsign
  omega

/-- **What a pattern below that of infinity stands for**: a normal number, a subnormal one, or
zero. -/
theorem unpack_of_lt (h : b.toNat < 2047 * 2 ^ 52) :
    UnpackedFloat.unpack Format.binary64 b =
      (if 0 < b.toNat / 2 ^ 52 then
        .finite .positive (2 ^ 52 + b.toNat % 2 ^ 52) (b.toNat / 2 ^ 52 - 1075) (by omega)
      else if hpos : 0 < b.toNat then .finite .positive b.toNat (-1074) hpos
      else .zero .positive) := by
  have hexponent := toNat_unpackExponent b
  have hmantissa := toNat_unpackMantissa b
  have hsign := toNat_unpackSign b
  have hmax : @UnpackedFloat.unpackExponent Format.binary64 b ≠ -1#11 := by
    intro hmax
    rw [hmax] at hexponent
    change 2047 = _ at hexponent
    omega
  have hpositive : UnpackedFloat.Sign.ofBitVec (@UnpackedFloat.unpackSign Format.binary64 b) =
      .positive := by
    refine if_pos (BitVec.eq_of_toNat_eq ?_)
    rw [hsign]
    change _ = 0
    omega
  simp only [UnpackedFloat.unpack]
  rw [if_neg hmax, hpositive]
  by_cases hnormal : 0 < b.toNat / 2 ^ 52
  · have hne : @UnpackedFloat.unpackExponent Format.binary64 b ≠ 0#11 := by
      intro hzero
      rw [hzero] at hexponent
      change 0 = _ at hexponent
      omega
    rw [if_neg hne, if_pos hnormal, UnpackedFloat.finite.injEq]
    refine ⟨rfl, ?_, ?_⟩
    · rw [BitVec.toNat_append, ← Nat.shiftLeft_add_eq_or_of_lt (BitVec.isLt _), hmantissa]
      rfl
    · rw [hexponent]
      change _ - (1023 + 52) = _
      omega
  · have hzero : @UnpackedFloat.unpackExponent Format.binary64 b = 0#11 := by
      refine BitVec.eq_of_toNat_eq ?_
      rw [hexponent]
      change _ = 0
      omega
    rw [if_pos hzero, if_neg hnormal]
    by_cases hpos : 0 < b.toNat
    · have hne : @UnpackedFloat.unpackMantissa Format.binary64 b ≠ 0#52 := by
        intro hnone
        rw [hnone] at hmantissa
        change 0 = _ at hmantissa
        omega
      rw [dif_neg hne, dif_pos hpos, UnpackedFloat.finite.injEq]
      refine ⟨rfl, ?_, ?_⟩
      · rw [hmantissa]
        omega
      · rw [hexponent]
        change _ - (1023 + 52) + 1 = _
        omega
    · have hnone : @UnpackedFloat.unpackMantissa Format.binary64 b = 0#52 := by
        refine BitVec.eq_of_toNat_eq ?_
        rw [hmantissa]
        change _ = 0
        omega
      rw [dif_pos hnone, dif_neg hpos]

end Fields

/-! ## The comparison -/

/-- Positive numbers compare by their exponents first. -/
theorem finite_le_finite {e f : Int} {m n : Nat} (hm : 0 < m) (hn : 0 < n) :
    (UnpackedFloat.finite .positive m e hm).le (.finite .positive n f hn) = true ↔
      e < f ∨ (e = f ∧ m ≤ n) := by
  change ((compare e f).then (compare m n)).isLE = true ↔ _
  rcases Int.lt_trichotomy e f with hlt | rfl | hlt
  · rw [compare_lt_iff_lt.mpr hlt]
    exact iff_of_true rfl (.inl hlt)
  · rw [compare_eq_iff_eq.mpr rfl, Ordering.eq_then, Nat.isLE_compare]
    omega
  · rw [compare_gt_iff_gt.mpr hlt]
    exact iff_of_false Bool.false_ne_true (by omega)

theorem finite_lt_finite {e f : Int} {m n : Nat} (hm : 0 < m) (hn : 0 < n) :
    (UnpackedFloat.finite .positive m e hm).lt (.finite .positive n f hn) = true ↔
      e < f ∨ (e = f ∧ m < n) := by
  change (some ((compare e f).then (compare m n)) == some Ordering.lt) = true ↔ _
  rw [beq_iff_eq, Option.some.injEq]
  rcases Int.lt_trichotomy e f with hlt | rfl | hlt
  · rw [compare_lt_iff_lt.mpr hlt]
    exact iff_of_true rfl (.inl hlt)
  · rw [compare_eq_iff_eq.mpr rfl, Ordering.eq_then, compare_lt_iff_lt]
    omega
  · rw [compare_gt_iff_gt.mpr hlt]
    exact iff_of_false (fun h => Ordering.noConfusion h) (by omega)

/-- What is at least a positive number is positive. -/
theorem zero_lt_of_finite_le {m : Nat} {e : Int} {hm : 0 < m} {u : UnpackedFloat}
    (h : (UnpackedFloat.finite .positive m e hm).le u = true) :
    (UnpackedFloat.zero .positive).lt u = true := by
  cases u with
  | notANumber => cases h
  | infinity sign =>
      cases sign with
      | positive => rfl
      | negative => cases h
  | zero sign => cases h
  | finite sign n f hn =>
      cases sign with
      | positive => rfl
      | negative => cases h

/-- **A power of two compares like its pattern.** It is `2 ^ 52` in a unit of its own. -/
theorem unit_le_iff {b : BitVec 64} (hb : b.toNat < 2047 * 2 ^ 52) {e : Int} (he : -1074 ≤ e) :
    (UnpackedFloat.finite .positive (2 ^ 52) e (by decide)).le
        (UnpackedFloat.unpack Format.binary64 b) = true ↔
      (e + 1075) * 2 ^ 52 ≤ b.toNat := by
  rw [unpack_of_lt hb]
  by_cases hnormal : 0 < b.toNat / 2 ^ 52
  · rw [if_pos hnormal, finite_le_finite]
    omega
  · rw [if_neg hnormal]
    refine iff_of_false ?_ (by omega)
    split
    · rw [finite_le_finite]
      omega
    · exact Bool.false_ne_true

theorem unit_lt_iff {b : BitVec 64} (hb : b.toNat < 2047 * 2 ^ 52) {e : Int} (he : -1074 ≤ e) :
    (UnpackedFloat.finite .positive (2 ^ 52) e (by decide)).lt
        (UnpackedFloat.unpack Format.binary64 b) = true ↔
      (e + 1075) * 2 ^ 52 < b.toNat := by
  rw [unpack_of_lt hb]
  by_cases hnormal : 0 < b.toNat / 2 ^ 52
  · rw [if_pos hnormal, finite_lt_finite]
    omega
  · rw [if_neg hnormal]
    refine iff_of_false ?_ (by omega)
    split
    · rw [finite_lt_finite]
      omega
    · exact Bool.false_ne_true

section Seconds

variable {x : Float}

/-- The comparison with `2 ^ 64`, which is `2 ^ 52` in a unit of `2 ^ 12`. -/
theorem two_pow_le_iff_unpack :
    18446744073709551616.0 ≤ x ↔
      (UnpackedFloat.finite .positive (2 ^ 52) 12 (by decide)).le
        (UnpackedFloat.unpack Format.binary64 x.toBits.toBitVec) = true := by
  change decide _ = true ↔ _
  rw [decide_eq_true_iff]
  rfl

/-- A number that is `2 ^ 64` or more is positive. -/
theorem pos_of_two_pow_le (h : 18446744073709551616.0 ≤ x) : 0.0 < x := by
  rw [two_pow_le_iff_unpack] at h
  exact decide_eq_true (zero_lt_of_finite_le h)

/-- The pattern of a positive finite double-precision number is below that of infinity. -/
theorem toBits_lt_of_pos (hfinite : x.isFinite = true) (hpos : 0.0 < x) :
    x.toBits.toNat < 2047 * 2 ^ 52 :=
  toNat_lt_of_pos hfinite (of_decide_eq_true hpos)

/-- **Which patterns stand for `2 ^ 64` and more.** -/
theorem two_pow_le_iff (hfinite : x.isFinite = true) (hpos : 0.0 < x) :
    18446744073709551616.0 ≤ x ↔ 1087 * 2 ^ 52 ≤ x.toBits.toNat := by
  have hpattern : x.toBits.toBitVec.toNat < 2047 * 2 ^ 52 := toBits_lt_of_pos hfinite hpos
  rw [two_pow_le_iff_unpack, unit_le_iff hpattern (by decide)]
  change _ ↔ _ ≤ x.toBits.toBitVec.toNat
  omega

/-- The value of a finite number without a sign, read off the two fields of its pattern. -/
theorem doubleValue_of_lt (hpattern : x.toBits.toNat < 2047 * 2 ^ 52) :
    doubleValue x =
      if x.toBits.toNat / 2 ^ 52 = 0 then .finite false (x.toBits.toNat % 2 ^ 52) (-1074)
      else .finite false (2 ^ 52 + x.toBits.toNat % 2 ^ 52)
        (-1074 + (x.toBits.toNat / 2 ^ 52 : Nat) - 1) := by
  unfold doubleValue
  generalize x.toBits.toNat = b at *
  have hweight : Nat.pow 2 binary64.exponentBits = 2 ^ 11 := rfl
  have hinfinity : binary64.infinity = 2047 * 2 ^ 52 := rfl
  have hbinade : binary64.binade = 2 ^ 52 := rfl
  have hleast : binary64.leastExponent = -1074 := rfl
  have hunsigned : b % (2 ^ 11 * 2 ^ 52) = b := Nat.mod_eq_of_lt (by omega)
  have hnegative : decide (2 ^ 11 * 2 ^ 52 ≤ b) = false := decide_eq_false (by omega)
  simp only [BinaryFormat.valueOf, hweight, hinfinity, hbinade, hleast, hunsigned, hnegative]
  rw [if_neg (by omega), if_neg (by omega)]

/-- **The value of a positive finite number**, and on which side of `2 ^ 64` it is. -/
theorem doubleValue_of_pos (hfinite : x.isFinite = true) (hpos : 0.0 < x) :
    ∃ m q, doubleValue x = .finite false m q ∧ m < 2 ^ 53 ∧
      (12 ≤ q ↔ 1087 * 2 ^ 52 ≤ x.toBits.toNat) ∧ (12 ≤ q → 2 ^ 52 ≤ m) := by
  have hpattern := toBits_lt_of_pos hfinite hpos
  rw [doubleValue_of_lt hpattern]
  by_cases hfield : x.toBits.toNat / 2 ^ 52 = 0
  · rw [if_pos hfield]
    exact ⟨_, _, rfl, by omega, by omega, by omega⟩
  · rw [if_neg hfield]
    exact ⟨_, _, rfl, by omega, by omega, by omega⟩

end Seconds

/-! ## The duration -/

/-- A whole number is its own neighbour. -/
theorem roundHalfEven_one (n : Nat) : roundHalfEven n 1 = n := by
  simp [roundHalfEven, Nat.mod_one]

/-- Rounding adds less than one to the quotient. -/
theorem roundHalfEven_le (n d : Nat) : roundHalfEven n d ≤ n / d + 1 := by
  unfold roundHalfEven
  dsimp only
  split
  · omega
  · split <;> omega

namespace Duration

/-- A fraction of a second is no duration when its nanoseconds are too many. -/
theorem ofFraction?_eq_none_iff {x : Fraction} :
    ofFraction? x = none ↔
      2 ^ 64 * nanosPerSecond ≤ roundHalfEven (x.num * nanosPerSecond) x.den := by
  unfold ofFraction? ofNanoseconds?
  split
  · rename_i hlt
    exact iff_of_false (by simp) (Nat.not_le.mpr hlt)
  · rename_i hle
    exact iff_of_true rfl (Nat.le_of_not_lt hle)

/-- **Which numbers of seconds are no duration**: those of `2 ^ 64` seconds and more. -/
theorem ofSeconds?_eq_none_iff {x : Float} (hfinite : x.isFinite = true) (hpos : 0.0 < x) :
    ofSeconds? x = none ↔ 18446744073709551616.0 ≤ x := by
  obtain ⟨m, q, hvalue, hm, hq, hlarge⟩ := doubleValue_of_pos hfinite hpos
  have hseconds : ofSeconds? x = ofFraction? (.scaled m q) := by
    rw [ofSeconds?, hvalue]
    exact if_neg fun h => Bool.false_ne_true h.1
  have hnanos : 0 < nanosPerSecond := by decide
  rw [two_pow_le_iff hfinite hpos, ← hq, hseconds, ofFraction?_eq_none_iff]
  change _ ≤ roundHalfEven (m * 2 ^ q.toNat * nanosPerSecond) (2 ^ (-q).toNat) ↔ _
  by_cases hwhole : 0 ≤ q
  · -- the product is a whole number, and nothing is rounded
    rw [Int.toNat_of_nonpos (by omega : -q ≤ 0), Nat.pow_zero, roundHalfEven_one,
      Nat.mul_le_mul_right_iff hnanos]
    by_cases hlong : 12 ≤ q
    · refine iff_of_true ?_ hlong
      calc 2 ^ 64 = 2 ^ 52 * 2 ^ 12 := by decide
        _ ≤ m * 2 ^ q.toNat :=
          Nat.mul_le_mul (hlarge hlong) (Nat.pow_le_pow_right (by decide) (by omega))
    · refine iff_of_false (Nat.not_le.mpr ?_) hlong
      calc m * 2 ^ q.toNat ≤ m * 2 ^ 11 :=
            Nat.mul_le_mul_left m (Nat.pow_le_pow_right (by decide) (by omega))
        _ < 2 ^ 53 * 2 ^ 11 := Nat.mul_lt_mul_of_pos_right hm (by decide)
        _ = 2 ^ 64 := by decide
  · -- the number is below `2 ^ 53`, so that a nanosecond more makes no difference
    refine iff_of_false (Nat.not_le.mpr ?_) (by omega)
    have hnum : m * 2 ^ q.toNat * nanosPerSecond ≤ 2 ^ 53 * nanosPerSecond := by
      rw [Int.toNat_of_nonpos (by omega), Nat.pow_zero, Nat.mul_one]
      exact Nat.mul_le_mul_right _ (Nat.le_of_lt hm)
    have hround := roundHalfEven_le (m * 2 ^ q.toNat * nanosPerSecond) (2 ^ (-q).toNat)
    have hdiv := Nat.div_le_self (m * 2 ^ q.toNat * nanosPerSecond) (2 ^ (-q).toNat)
    have hroom : 2 ^ 53 * nanosPerSecond + 1 < 2 ^ 64 * nanosPerSecond := by decide
    omega

end Duration

end GroundStation
