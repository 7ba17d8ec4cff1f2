import GroundStation.Proofs.Number.Rounding
import GroundStation.Proofs.Time.Seconds
import Mathlib.Tactic.GCongr
import Mathlib.Tactic.NormNum

/-!
# Durations times a factor

A duration that is multiplied goes to seconds in double precision, is multiplied there, and comes
back to nanoseconds. On this way it is rounded five times: its whole seconds, its fraction and their
sum, the product, and the nanoseconds. Two things survive. The order of durations is kept
(`Duration.value_seconds_mono`), so that the longest one of several is the first whose product is
too long. And a factor of at least one makes a duration no shorter
(`Duration.le_nanoseconds_product`), unless it is exactly one: then durations of `2 ^ 23` seconds
and more, which have neighbours in double precision more than a nanosecond away, go to the nearest
of these.

A factor greater than one is at least `2 ^ -52` greater, and that is one step from the seconds to
their neighbour above. This one step makes up for what the roundings before it can have lost.

## Main results

* `Duration.scale?_eq_none_iff`: which products are no duration.
* `Duration.nanoseconds_product_mono`: multiplication keeps the order of durations.
* `Duration.le_nanoseconds_product`: a product that is no shorter.
* `Duration.scale?_two`: a short duration is doubled exactly.
-/

namespace GroundStation

open Float.Model

/-- The size of a finite number. -/
def FloatValue.magnitude : FloatValue → Fraction
  | .finite _ m q => .scaled m q
  | _ => ⟨0, 1⟩

theorem FloatValue.den_magnitude_pos (v : FloatValue) : 0 < v.magnitude.den := by
  cases v with
  | finite _ m q => exact Fraction.den_scaled_pos m q
  | nan => exact Nat.one_pos
  | infinite _ => exact Nat.one_pos

/-- The double-precision format has one bit at least. -/
theorem precision_pos : 0 < binary64.precision := by decide

theorem nanosPerSecond_pos : 0 < nanosPerSecond := by decide

theorem nanosPerSecond_cast_pos : (0 : ℚ) < nanosPerSecond := by norm_num [nanosPerSecond]

/-! ## Factors of one and more -/

section Factor

variable {x : Float}

theorem one_le_iff_unpack :
    1.0 ≤ x ↔ (UnpackedFloat.finite .positive (2 ^ 52) (-52) (by decide)).le
      (UnpackedFloat.unpack Format.binary64 x.toBits.toBitVec) = true := by
  change decide _ = true ↔ _
  rw [decide_eq_true_iff]
  rfl

theorem one_lt_iff_unpack :
    1.0 < x ↔ (UnpackedFloat.finite .positive (2 ^ 52) (-52) (by decide)).lt
      (UnpackedFloat.unpack Format.binary64 x.toBits.toBitVec) = true := by
  change decide _ = true ↔ _
  rw [decide_eq_true_iff]
  rfl

/-- The value of a number with the pattern of one or a later one. -/
theorem doubleValue_of_pattern (hlow : 1023 * 2 ^ 52 ≤ x.toBits.toNat)
    (hhigh : x.toBits.toNat < 2047 * 2 ^ 52) :
    doubleValue x = .finite false (2 ^ 52 + x.toBits.toNat % 2 ^ 52)
      (-1074 + (x.toBits.toNat / 2 ^ 52 : Nat) - 1) := by
  rw [doubleValue_of_lt hhigh, if_neg (by omega)]

/-- A normal number whose unit is `2 ^ -52` or more. -/
theorem one_le_significand_mul {r : Nat} {q : Int} (hq : -52 ≤ q) :
    1 ≤ ((2 ^ 52 + r : Nat) : ℚ) * 2 ^ q ∧
      (0 < r ∨ -52 < q → 1 + 1 / 2 ^ 52 ≤ ((2 ^ 52 + r : Nat) : ℚ) * 2 ^ q) := by
  have hr : (0 : ℚ) ≤ r := Nat.cast_nonneg r
  rcases hq.eq_or_lt with rfl | hlarger
  · have hunit : ((2 ^ 52 + r : Nat) : ℚ) * 2 ^ (-52 : Int) = 1 + r / 2 ^ 52 := by
      rw [zpow_neg, ← div_eq_mul_inv]
      push_cast
      rw [add_div]
      norm_num
    rw [hunit]
    refine ⟨by linarith [div_nonneg hr (by positivity : (0 : ℚ) ≤ 2 ^ 52)], fun h => ?_⟩
    have hone : (1 : ℚ) ≤ r := by
      exact_mod_cast (show 1 ≤ r by omega)
    gcongr
  · have htwo : (2 : ℚ) ≤ ((2 ^ 52 + r : Nat) : ℚ) * 2 ^ q := by
      have hunit : (2 : ℚ) ^ (-51 : Int) ≤ 2 ^ q := zpow_le_zpow_right₀ one_le_two (by omega)
      calc (2 : ℚ) = 2 ^ 52 * 2 ^ (-51 : Int) := by norm_num
        _ ≤ ((2 ^ 52 + r : Nat) : ℚ) * 2 ^ q := by
          push_cast
          gcongr
          linarith
    exact ⟨one_le_two.trans htwo, fun _ => le_trans (by norm_num) htwo⟩

/-- **The value of a finite number that is one or more.** Greater than one is greater by a step. -/
theorem doubleValue_of_one_le (hfinite : x.isFinite = true) (hone : 1.0 ≤ x) :
    (∃ m q, doubleValue x = .finite false m q) ∧ 1 ≤ (doubleValue x).magnitude.value ∧
      (1.0 < x → 1 + 1 / 2 ^ 52 ≤ (doubleValue x).magnitude.value) := by
  have hpattern : x.toBits.toBitVec.toNat < 2047 * 2 ^ 52 :=
    toBits_lt_of_pos hfinite (decide_eq_true (zero_lt_of_finite_le (one_le_iff_unpack.mp hone)))
  have hlow := one_le_iff_unpack.mp hone
  rw [unit_le_iff hpattern (by decide)] at hlow
  have hgreater : 1.0 < x → 1023 * 2 ^ 52 < x.toBits.toNat := by
    intro h
    rw [one_lt_iff_unpack, unit_lt_iff hpattern (by decide)] at h
    change _ < x.toBits.toBitVec.toNat
    omega
  have hvalue := doubleValue_of_pattern (x := x) (by change _ ≤ x.toBits.toBitVec.toNat; omega)
    hpattern
  change x.toBits.toNat < _ at hpattern
  change _ ≤ (x.toBits.toNat : Int) at hlow
  rw [hvalue]
  refine ⟨⟨_, _, rfl⟩, ?_⟩
  simp only [FloatValue.magnitude, Fraction.value_scaled]
  generalize x.toBits.toNat = b at *
  obtain ⟨hleast, hstep⟩ := one_le_significand_mul (r := b % 2 ^ 52)
    (q := -1074 + (b / 2 ^ 52 : Nat) - 1) (by omega)
  exact ⟨hleast, fun h => hstep (by have := hgreater h; omega)⟩

end Factor

/-! ## Back to nanoseconds -/

/-- The number of nanoseconds nearest to a number of seconds. -/
def Fraction.nanoseconds (x : Fraction) : Nat := roundHalfEven (x.num * nanosPerSecond) x.den

namespace Fraction

variable {x y : Fraction}

theorem value_mul_nanosPerSecond (x : Fraction) :
    ((x.num * nanosPerSecond : Nat) : ℚ) / x.den = x.value * nanosPerSecond := by
  rw [value, Nat.cast_mul, div_mul_eq_mul_div]

theorem nanoseconds_mono (hx : 0 < x.den) (hy : 0 < y.den) (h : x.value ≤ y.value) :
    x.nanoseconds ≤ y.nanoseconds := by
  refine roundHalfEven_mono hx hy ?_
  rw [value_mul_nanosPerSecond, value_mul_nanosPerSecond]
  exact mul_le_mul_of_nonneg_right h (Nat.cast_nonneg _)

theorem nanoseconds_eq_of_abs_lt {k : Nat} (hx : 0 < x.den)
    (h : |x.value * nanosPerSecond - k| < 1 / 2) : x.nanoseconds = k :=
  roundHalfEven_eq_of_abs_lt hx (by rwa [value_mul_nanosPerSecond])

/-- A number of seconds that is less than half a nanosecond too small. -/
theorem le_nanoseconds {k : Nat} (hx : 0 < x.den) (h : (k : ℚ) < x.value * nanosPerSecond + 1 / 2) :
    k ≤ x.nanoseconds := by
  have hnear := abs_le.mp (abs_roundHalfEven_sub_le (n := x.num * nanosPerSecond) hx)
  rw [value_mul_nanosPerSecond] at hnear
  have hlt : (k : ℚ) < x.nanoseconds + 1 := by
    unfold nanoseconds
    linarith
  have hlt' : k < x.nanoseconds + 1 := by exact_mod_cast hlt
  omega

/-- **Which numbers of seconds in double precision are too many for a duration.** The largest one
below `2 ^ 64` is a whole number less, which leaves room for the rounding. -/
theorem ofFraction?_eq_none_iff_of_holds (hx : 0 < x.den) (hheld : binary64.Holds x.value) :
    Duration.ofFraction? x = none ↔ 2 ^ 64 ≤ x.value := by
  rw [Duration.ofFraction?_eq_none_iff]
  change _ ≤ x.nanoseconds ↔ _
  have hbound : ((2 ^ 64 * nanosPerSecond : Nat) : ℚ) = 2 ^ 64 * nanosPerSecond := by push_cast; rfl
  constructor
  · intro hlong
    by_contra hsmall
    have hone : x.value ≤ ((2 ^ 64 - 1 : Nat) : ℚ) := by
      obtain ⟨m, q, hvalue, hm, hq⟩ := hheld
      rw [hvalue] at hsmall ⊢
      by_cases hwhole : 0 ≤ q
      · obtain ⟨k, hk⟩ := Fraction.exists_multiple_of_le hwhole m
        rw [hk, zpow_zero, mul_one] at hsmall ⊢
        have hk' : k < 2 ^ 64 := by exact_mod_cast not_le.mp hsmall
        exact_mod_cast (show k ≤ 2 ^ 64 - 1 by omega)
      · calc (m : ℚ) * 2 ^ q ≤ m * 1 :=
              mul_le_mul_of_nonneg_left (zpow_le_one_of_nonpos₀ one_le_two (by omega))
                (Nat.cast_nonneg m)
          _ = m := mul_one _
          _ ≤ ((2 ^ 64 - 1 : Nat) : ℚ) := by
            exact_mod_cast hm.trans (by decide)
    have hnanos : x.nanoseconds ≤ (2 ^ 64 - 1) * nanosPerSecond := by
      refine roundHalfEven_le_of_le hx ?_
      rw [value_mul_nanosPerSecond, Nat.cast_mul]
      exact mul_le_mul_of_nonneg_right hone (Nat.cast_nonneg _)
    have hroom : (2 ^ 64 - 1) * nanosPerSecond < 2 ^ 64 * nanosPerSecond := by decide
    omega
  · intro hlarge
    refine le_roundHalfEven hx ?_
    rw [value_mul_nanosPerSecond, hbound]
    exact mul_le_mul_of_nonneg_right hlarge (Nat.cast_nonneg _)

end Fraction

/-- Durations of as many nanoseconds are the same. -/
theorem Duration.eq_of_nanoseconds_eq {d e : Duration} (h : d.nanoseconds = e.nanoseconds) :
    d = e := by
  cases d with
  | mk m hm =>
      cases e with
      | mk n hn =>
          cases h
          rfl

theorem Duration.ofFraction?_eq_some_iff {x : Fraction} {d : Duration} :
    ofFraction? x = some d ↔ d.nanoseconds = x.nanoseconds := by
  unfold ofFraction? ofNanoseconds?
  change (if h : x.nanoseconds < durationLimit then _ else _) = _ ↔ _
  have hbounded := d.bounded
  split_ifs with h
  · rw [Option.some.injEq]
    constructor
    · rintro rfl
      rfl
    · intro hsame
      exact eq_of_nanoseconds_eq hsame.symm
  · refine iff_of_false (fun hnone => ?_) (by omega)
    cases hnone

/-! ## Seconds in double precision -/

namespace Duration

variable {d e : Duration}

/-- The whole seconds in double precision. -/
def roundedWhole (d : Duration) : Fraction := Fraction.roundTo ⟨d.wholeSeconds, 1⟩ binary64

/-- The part of a second in double precision. -/
def roundedRest (d : Duration) : Fraction :=
  Fraction.roundTo ⟨d.subsecond, nanosPerSecond⟩ binary64

theorem seconds_eq (d : Duration) :
    d.seconds = (d.roundedWhole.add d.roundedRest).roundTo binary64 := rfl

theorem den_seconds_pos (d : Duration) : 0 < d.seconds.den := Fraction.den_roundTo_pos _ _

theorem den_sum_pos (d : Duration) : 0 < (d.roundedWhole.add d.roundedRest).den :=
  Nat.mul_pos (Fraction.den_roundTo_pos _ _) (Fraction.den_roundTo_pos _ _)

theorem value_sum (d : Duration) :
    (d.roundedWhole.add d.roundedRest).value = d.roundedWhole.value + d.roundedRest.value :=
  Fraction.value_add (Fraction.den_roundTo_pos _ _) (Fraction.den_roundTo_pos _ _)

theorem holds_seconds (d : Duration) : binary64.Holds d.seconds.value :=
  Fraction.holds_roundTo precision_pos d.den_sum_pos

/-- Numbers of whole seconds up to `2 ^ 53` are exact. -/
theorem value_roundedWhole (h : d.wholeSeconds ≤ 2 ^ 53) :
    d.roundedWhole.value = d.wholeSeconds := by
  have hheld : binary64.Holds (Fraction.mk d.wholeSeconds 1).value :=
    ⟨d.wholeSeconds, 0, by simp, h, by decide⟩
  exact (Fraction.roundTo_eq_of_holds precision_pos Nat.one_pos hheld).trans
    (Fraction.value_mk_one _)

theorem subsecond_lt (d : Duration) : d.subsecond < nanosPerSecond :=
  Nat.mod_lt _ (by decide)

/-- The exact part of a second is less than one by a nanosecond at least. -/
theorem subsecond_div_le (d : Duration) :
    (d.subsecond : ℚ) / nanosPerSecond ≤ 1 - 1 / nanosPerSecond := by
  have hlt : (d.subsecond : ℚ) + 1 ≤ nanosPerSecond := by exact_mod_cast d.subsecond_lt
  rw [div_le_iff₀ nanosPerSecond_cast_pos, sub_mul, one_mul,
    div_mul_cancel₀ _ nanosPerSecond_cast_pos.ne']
  linarith

/-- The rounded part of a second is less than one. -/
theorem value_roundedRest_lt (d : Duration) : d.roundedRest.value < 1 := by
  have hheld : binary64.Holds (1 - 1 / 2 ^ 53) :=
    ⟨2 ^ 53 - 1, -53, by norm_num, by decide, by decide⟩
  have hle : (Fraction.mk d.subsecond nanosPerSecond).value ≤ 1 - 1 / 2 ^ 53 :=
    d.subsecond_div_le.trans (by norm_num [nanosPerSecond])
  have hbelow := Fraction.roundTo_le precision_pos nanosPerSecond_pos hheld hle
  refine lt_of_le_of_lt hbelow ?_
  norm_num

theorem abs_roundedRest_sub_le (d : Duration) :
    |d.roundedRest.value - d.subsecond / nanosPerSecond| ≤ 1 / 2 ^ 54 := by
  have hlt : (Fraction.mk d.subsecond nanosPerSecond).value <
      2 ^ binary64.precision * 2 ^ (-53 : Int) := by
    refine lt_of_le_of_lt d.subsecond_div_le ?_
    norm_num [nanosPerSecond, binary64]
  have hnear := Fraction.abs_roundTo_sub_le precision_pos nanosPerSecond_pos (by decide) hlt
  refine hnear.trans ?_
  norm_num

/-- The exact seconds, in two parts. -/
theorem nanoseconds_div_eq (d : Duration) :
    (d.nanoseconds : ℚ) / nanosPerSecond = d.wholeSeconds + d.subsecond / nanosPerSecond := by
  have hsplit : (d.nanoseconds : ℚ) = nanosPerSecond * d.wholeSeconds + d.subsecond := by
    exact_mod_cast (Nat.div_add_mod d.nanoseconds nanosPerSecond).symm
  rw [hsplit, add_div, mul_div_cancel_left₀ _ nanosPerSecond_cast_pos.ne']

theorem wholeSeconds_lt_of_lt {k : Nat} (h : d.nanoseconds < k * nanosPerSecond) :
    d.wholeSeconds < k := (Nat.div_lt_iff_lt_mul (by decide)).mpr h

/-- **How far the seconds of a short duration are from it.** -/
theorem abs_seconds_sub_le {k : Nat} (hk : k ≤ 53) (h : d.nanoseconds < 2 ^ k * nanosPerSecond) :
    |d.seconds.value - d.nanoseconds / nanosPerSecond| ≤ 2 ^ ((k : Int) - 53) / 2 + 1 / 2 ^ 54 := by
  have hwhole := wholeSeconds_lt_of_lt h
  have hexact : d.roundedWhole.value = d.wholeSeconds :=
    value_roundedWhole (hwhole.le.trans (Nat.pow_le_pow_right (by decide) hk))
  have hbelow : d.roundedWhole.value + d.roundedRest.value <
      2 ^ binary64.precision * 2 ^ ((k : Int) - 53) := by
    have hstep : (d.wholeSeconds : ℚ) + 1 ≤ 2 ^ k := by exact_mod_cast hwhole
    have hunit : (2 : ℚ) ^ binary64.precision * 2 ^ ((k : Int) - 53) = 2 ^ k := by
      rw [← zpow_natCast, ← zpow_natCast, ← zpow_add₀ two_ne_zero]
      congr 1
      change (53 : Int) + _ = _
      omega
    rw [hexact, hunit]
    linarith [d.value_roundedRest_lt]
  rw [← value_sum] at hbelow
  have hleast : binary64.leastExponent ≤ (k : Int) - 53 := by
    change (-1074 : Int) ≤ _
    omega
  have hsum := Fraction.abs_roundTo_sub_le precision_pos d.den_sum_pos hleast hbelow
  rw [← seconds_eq, value_sum, hexact] at hsum
  have hrest := d.abs_roundedRest_sub_le
  rw [nanoseconds_div_eq]
  calc |d.seconds.value - (d.wholeSeconds + d.subsecond / nanosPerSecond)|
      = |(d.seconds.value - (d.wholeSeconds + d.roundedRest.value)) +
          (d.roundedRest.value - d.subsecond / nanosPerSecond)| := by ring_nf
    _ ≤ _ := abs_add_le _ _
    _ ≤ _ := add_le_add hsum hrest

/-- The same in nanoseconds. -/
theorem abs_seconds_mul_sub_le {k : Nat} (hk : k ≤ 53)
    (h : d.nanoseconds < 2 ^ k * nanosPerSecond) :
    |d.seconds.value * nanosPerSecond - d.nanoseconds| ≤
      (2 ^ ((k : Int) - 53) / 2 + 1 / 2 ^ 54) * nanosPerSecond := by
  have hfactor : d.seconds.value * nanosPerSecond - d.nanoseconds =
      (d.seconds.value - d.nanoseconds / nanosPerSecond) * nanosPerSecond := by
    rw [sub_mul, div_mul_cancel₀ _ nanosPerSecond_cast_pos.ne']
  rw [hfactor, abs_mul, abs_of_pos nanosPerSecond_cast_pos]
  exact mul_le_mul_of_nonneg_right (abs_seconds_sub_le hk h) nanosPerSecond_cast_pos.le

/-- The unit of the seconds in double precision. -/
def unit (d : Duration) : Int := (d.roundedWhole.add d.roundedRest).exponentIn binary64

/-- A whole number that the format has is not crossed by the whole seconds. -/
theorem le_value_roundedWhole {z : ℚ} (hz : binary64.Holds z) (h : z ≤ d.wholeSeconds) :
    z ≤ d.roundedWhole.value := by
  refine Fraction.le_roundTo precision_pos Nat.one_pos hz ?_
  rwa [Fraction.value_mk_one]

theorem value_roundedWhole_le_sum (d : Duration) :
    d.roundedWhole.value ≤ (d.roundedWhole.add d.roundedRest).value := by
  rw [value_sum]
  exact le_add_of_nonneg_right (Fraction.value_nonneg _)

theorem value_roundedWhole_le_seconds (d : Duration) : d.roundedWhole.value ≤ d.seconds.value :=
  Fraction.le_roundTo precision_pos d.den_sum_pos
    (Fraction.holds_roundTo precision_pos Nat.one_pos) d.value_roundedWhole_le_sum

/-- Where the whole seconds have no place behind the point, neither have the seconds. -/
theorem one_le_unit (h : 2 ^ 53 ≤ d.wholeSeconds) :
    (2 : ℚ) ^ 53 ≤ d.roundedWhole.value ∧ 1 ≤ d.unit := by
  have hheld : binary64.Holds (2 ^ 53) := ⟨2 ^ 53, 0, by norm_num, le_rfl, by decide⟩
  have hlarge : (2 : ℚ) ^ 53 ≤ d.roundedWhole.value :=
    le_value_roundedWhole hheld (by exact_mod_cast h)
  refine ⟨hlarge, ?_⟩
  have hlt := Fraction.value_lt precision_pos (d.roundedWhole.add d.roundedRest)
  change _ < (2 : ℚ) ^ 53 * 2 ^ d.unit at hlt
  by_contra hless
  have hunit : (2 : ℚ) ^ d.unit ≤ 1 := zpow_le_one_of_nonpos₀ one_le_two (by omega)
  linarith [d.value_roundedWhole_le_sum]

/-- The seconds are a multiple of their unit. -/
theorem exists_value_seconds_eq (d : Duration) :
    ∃ k : Nat, d.seconds.value = k * 2 ^ d.unit ∧ k ≤ 2 ^ 53 :=
  ⟨_, Fraction.value_roundTo d.den_sum_pos, Fraction.significandIn_le precision_pos d.den_sum_pos⟩

/-- The sum is at most half a unit away from the seconds. -/
theorem abs_seconds_sub_sum_le (d : Duration) :
    |d.seconds.value - (d.roundedWhole.value + d.roundedRest.value)| ≤ 2 ^ d.unit / 2 := by
  rw [← value_sum]
  exact Fraction.abs_roundTo_sub_le_unit d.den_sum_pos

/-- Many whole seconds leave no room for a part of one. -/
theorem value_seconds_of_large (h : 2 ^ 53 ≤ d.wholeSeconds) :
    d.seconds.value = d.roundedWhole.value := by
  obtain ⟨hlarge, hunit⟩ := one_le_unit h
  have hheld : binary64.Holds d.roundedWhole.value :=
    Fraction.holds_roundTo precision_pos Nat.one_pos
  have hpos : 0 < (d.roundedWhole.add d.roundedRest).value :=
    (by positivity : (0 : ℚ) < 2 ^ 53).trans_le (hlarge.trans d.value_roundedWhole_le_sum)
  -- the whole seconds are a multiple of the unit, because both are whole numbers
  obtain ⟨j, hj⟩ : ∃ j : Nat, d.roundedWhole.value = j * 2 ^ d.unit := by
    rcases Fraction.multiple_or_small precision_pos hpos hheld with hmultiple | ⟨j, hlow, hhigh⟩
    · exact hmultiple
    · refine ⟨j, le_antisymm hlow ?_⟩
      obtain ⟨n, hn⟩ := hheld.exists_natCast_eq hlarge
      obtain ⟨i, hi⟩ := Fraction.exists_multiple_of_le (show 0 ≤ d.unit by omega) j
      rw [zpow_zero, mul_one] at hi
      change (j : ℚ) * 2 ^ d.unit ≤ _ at hhigh
      rw [value_sum, hi, hn] at hhigh
      rw [hi, hn]
      have hlt : (i : ℚ) < (n + 1 : Nat) := by
        push_cast
        linarith [d.value_roundedRest_lt]
      have hlt' : i < n + 1 := by exact_mod_cast hlt
      exact_mod_cast Nat.le_of_lt_succ hlt'
  obtain ⟨k, hk, -⟩ := d.exists_value_seconds_eq
  refine le_antisymm ?_ d.value_roundedWhole_le_seconds
  have hnear := (abs_le.mp d.abs_seconds_sub_sum_le).2
  rw [hk, hj] at hnear
  rw [hk, hj]
  have htwo : (2 : ℚ) ≤ 2 ^ d.unit := by
    simpa using zpow_le_zpow_right₀ (one_le_two (α := ℚ)) hunit
  have hlt : (k : ℚ) * 2 ^ d.unit < (j + 1) * 2 ^ d.unit := by
    linarith [d.value_roundedRest_lt]
  have hlt' : k < j + 1 := by exact_mod_cast lt_of_mul_lt_mul_right hlt (two_zpow_pos _).le
  exact mul_le_mul_of_nonneg_right (by exact_mod_cast Nat.le_of_lt_succ hlt') (two_zpow_pos _).le

/-- **The seconds of a longer duration are no fewer.** -/
theorem value_seconds_mono (h : d.nanoseconds ≤ e.nanoseconds) :
    d.seconds.value ≤ e.seconds.value := by
  have hwhole : d.wholeSeconds ≤ e.wholeSeconds := Nat.div_le_div_right h
  have hsums : d.roundedWhole.value + d.roundedRest.value ≤
      e.roundedWhole.value + e.roundedRest.value → d.seconds.value ≤ e.seconds.value := by
    intro hle
    rw [← value_sum, ← value_sum] at hle
    exact Fraction.roundTo_mono precision_pos d.den_sum_pos e.den_sum_pos hle
  have hwholes : d.roundedWhole.value ≤ e.roundedWhole.value := by
    refine Fraction.roundTo_mono precision_pos Nat.one_pos Nat.one_pos ?_
    simpa using hwhole
  rcases hwhole.eq_or_lt with hsame | hless
  · refine hsums (add_le_add hwholes ?_)
    refine Fraction.roundTo_mono precision_pos nanosPerSecond_pos nanosPerSecond_pos ?_
    have hsub : d.subsecond ≤ e.subsecond := by
      have hd := Nat.div_add_mod d.nanoseconds nanosPerSecond
      have he := Nat.div_add_mod e.nanoseconds nanosPerSecond
      unfold wholeSeconds at hsame
      unfold subsecond
      rw [hsame] at hd
      omega
    exact div_le_div_of_nonneg_right (by exact_mod_cast hsub) nanosPerSecond_cast_pos.le
  · by_cases hlarge : 2 ^ 53 ≤ d.wholeSeconds
    · rw [value_seconds_of_large hlarge]
      exact hwholes.trans e.value_roundedWhole_le_seconds
    · have hheld : binary64.Holds (d.wholeSeconds + 1 : Nat) :=
        ⟨d.wholeSeconds + 1, 0, by simp, by change _ ≤ 2 ^ 53; omega, by decide⟩
      have hstep := le_value_roundedWhole (d := e) hheld (by exact_mod_cast hless)
      refine hsums ?_
      rw [value_roundedWhole (by omega)]
      push_cast at hstep
      linarith [d.value_roundedRest_lt, e.roundedRest.value_nonneg]

/-- The whole seconds are at most half a unit of the seconds away. -/
theorem abs_roundedWhole_sub_le (h : 1 ≤ d.unit) :
    |d.roundedWhole.value - d.wholeSeconds| ≤ 2 ^ d.unit / 2 := by
  have hbelow : (Fraction.mk d.wholeSeconds 1).value < 2 ^ binary64.precision * 2 ^ d.unit := by
    by_contra hlarge
    have hheld : binary64.Holds (2 ^ binary64.precision * 2 ^ d.unit) :=
      ⟨2 ^ 53, d.unit, by norm_num [binary64], le_rfl, by change (-1074 : Int) ≤ _; omega⟩
    rw [Fraction.value_mk_one] at hlarge
    have hwhole := le_value_roundedWhole hheld (not_lt.mp hlarge)
    have hsum := Fraction.value_lt precision_pos (d.roundedWhole.add d.roundedRest)
    exact absurd (hwhole.trans d.value_roundedWhole_le_sum) (not_le.mpr hsum)
  have hnear := Fraction.abs_roundTo_sub_le precision_pos Nat.one_pos
    (by change (-1074 : Int) ≤ _; omega) hbelow
  rwa [Fraction.value_mk_one] at hnear

/-- The unit of one second and more. -/
theorem unit_of_le (h : nanosPerSecond ≤ d.nanoseconds) :
    -52 ≤ d.unit ∧ 2 ^ 52 * 2 ^ d.unit ≤ d.seconds.value := by
  have hsecond : (1 : ℚ) ≤ d.wholeSeconds := by
    exact_mod_cast (Nat.le_div_iff_mul_le nanosPerSecond_pos).mpr (by omega)
  have hheld : binary64.Holds 1 := ⟨1, 0, by norm_num, by decide, by decide⟩
  have hone : 1 ≤ (d.roundedWhole.add d.roundedRest).value :=
    (le_value_roundedWhole hheld hsecond).trans d.value_roundedWhole_le_sum
  have hpos := one_pos.trans_le hone
  have hlog : 0 ≤ Int.log 2 (d.roundedWhole.add d.roundedRest).value := by
    rw [← Int.zpow_le_iff_le_log Nat.one_lt_two hpos]
    simpa using hone
  have hunit : d.unit = Int.log 2 (d.roundedWhole.add d.roundedRest).value - 52 := by
    unfold unit Fraction.exponentIn
    change max (-1074) (_ - ((53 - 1 : Nat) : Int)) = _
    omega
  refine ⟨by omega, ?_⟩
  have hpower : ((2 ^ 52 : Nat) : ℚ) * 2 ^ d.unit ≤ (d.roundedWhole.add d.roundedRest).value := by
    have hsum : ((2 ^ 52 : Nat) : ℚ) * 2 ^ d.unit =
        2 ^ Int.log 2 (d.roundedWhole.add d.roundedRest).value := by
      rw [Nat.cast_pow, Nat.cast_two, ← zpow_natCast, ← zpow_add₀ two_ne_zero, hunit]
      congr 1
      omega
    have hself := Int.zpow_log_le_self Nat.one_lt_two hpos
    rw [hsum]
    exact_mod_cast hself
  have hbelow := Fraction.le_roundTo_of_multiple (f := binary64) d.den_sum_pos hpower
  rw [← seconds_eq] at hbelow
  exact_mod_cast hbelow

/-- **What is lost on the way to double precision** is no more than a step to the next number above,
from one second on. -/
theorem div_le_seconds_add_unit (h : nanosPerSecond ≤ d.nanoseconds) :
    (d.nanoseconds : ℚ) / nanosPerSecond ≤ d.seconds.value + 2 ^ d.unit := by
  rw [nanoseconds_div_eq]
  by_cases hlarge : 2 ^ 53 ≤ d.wholeSeconds
  · obtain ⟨-, hunit⟩ := one_le_unit hlarge
    have htwo : (2 : ℚ) ≤ 2 ^ d.unit := by
      simpa using zpow_le_zpow_right₀ (one_le_two (α := ℚ)) hunit
    have hwhole := (abs_le.mp (abs_roundedWhole_sub_le hunit)).1
    have hrest : (d.subsecond : ℚ) / nanosPerSecond ≤ 1 :=
      d.subsecond_div_le.trans (sub_le_self _ (by positivity))
    linarith [d.value_roundedWhole_le_seconds]
  · have hexact : d.roundedWhole.value = d.wholeSeconds := value_roundedWhole (by omega)
    have hunit : (2 : ℚ) ^ (-52 : Int) ≤ 2 ^ d.unit :=
      zpow_le_zpow_right₀ one_le_two (unit_of_le h).1
    have hstep : (1 : ℚ) / 2 ^ 54 ≤ 2 ^ d.unit / 2 :=
      le_trans (by norm_num) (div_le_div_of_nonneg_right hunit two_pos.le)
    have hsum := (abs_le.mp d.abs_seconds_sub_sum_le).1
    have hrest := (abs_le.mp d.abs_roundedRest_sub_le).1
    rw [hexact] at hsum
    linarith

/-- **The next number** after the seconds in double precision is one unit or, at a power of two,
two units above them, which is no more than the `2 ^ 52`-th part of them. -/
theorem exists_next (h : nanosPerSecond ≤ d.nanoseconds) :
    ∃ z, binary64.Holds z ∧ d.seconds.value + 2 ^ d.unit ≤ z ∧
      z ≤ d.seconds.value * (1 + 1 / 2 ^ 52) := by
  obtain ⟨hleast, hnormal⟩ := unit_of_le h
  obtain ⟨k, hk, hmost⟩ := d.exists_value_seconds_eq
  have hunit := two_zpow_pos d.unit
  have hformat : binary64.leastExponent ≤ d.unit := by
    change (-1074 : Int) ≤ _
    omega
  rcases hmost.lt_or_eq with hless | rfl
  · refine ⟨(k + 1 : Nat) * 2 ^ d.unit, ⟨_, _, rfl, hless, hformat⟩, ?_, ?_⟩
    · rw [hk]
      push_cast
      linarith
    · rw [hk] at hnormal ⊢
      push_cast
      linarith
  · refine ⟨(2 ^ 52 + 1 : Nat) * 2 ^ (d.unit + 1),
      ⟨_, _, rfl, by decide, hformat.trans (by omega)⟩, ?_, ?_⟩ <;>
    · rw [hk, zpow_add_one₀ two_ne_zero]
      push_cast
      linarith

/-! ## Products -/

/-- A duration times the size of a factor in double precision, in seconds. -/
def product (d : Duration) (factor : Float) : Fraction :=
  (d.seconds.mul (doubleValue factor).magnitude).roundTo binary64

variable {factor : Float}

theorem den_mul_pos (d : Duration) (factor : Float) :
    0 < (d.seconds.mul (doubleValue factor).magnitude).den :=
  Nat.mul_pos d.den_seconds_pos (FloatValue.den_magnitude_pos _)

theorem den_product_pos (d : Duration) (factor : Float) : 0 < (d.product factor).den :=
  Fraction.den_roundTo_pos _ _

theorem holds_product (d : Duration) (factor : Float) : binary64.Holds (d.product factor).value :=
  Fraction.holds_roundTo precision_pos (d.den_mul_pos factor)

/-- **Multiplication keeps the order of durations.** -/
theorem value_product_mono (factor : Float) (h : d.nanoseconds ≤ e.nanoseconds) :
    (d.product factor).value ≤ (e.product factor).value := by
  refine Fraction.roundTo_mono precision_pos (d.den_mul_pos factor) (e.den_mul_pos factor) ?_
  rw [Fraction.value_mul, Fraction.value_mul]
  exact mul_le_mul_of_nonneg_right (value_seconds_mono h) (Fraction.value_nonneg _)

theorem nanoseconds_product_mono (factor : Float) (h : d.nanoseconds ≤ e.nanoseconds) :
    (d.product factor).nanoseconds ≤ (e.product factor).nanoseconds :=
  Fraction.nanoseconds_mono (d.den_product_pos factor) (e.den_product_pos factor)
    (value_product_mono factor h)

section Growth

variable (hfinite : factor.isFinite = true) (hone : 1.0 ≤ factor)
include hfinite hone

theorem scale?_eq_ofFraction? (d : Duration) :
    d.scale? factor = ofFraction? (d.product factor) := by
  obtain ⟨⟨m, q, hvalue⟩, -⟩ := doubleValue_of_one_le hfinite hone
  unfold scale? product
  rw [hvalue]
  exact if_neg fun h => Bool.false_ne_true h.1

/-- **Which products are no duration**: those of `2 ^ 64` seconds and more. -/
theorem scale?_eq_none_iff (d : Duration) :
    d.scale? factor = none ↔ 2 ^ 64 ≤ (d.product factor).value := by
  rw [scale?_eq_ofFraction? hfinite hone]
  exact Fraction.ofFraction?_eq_none_iff_of_holds (d.den_product_pos factor)
    (d.holds_product factor)

theorem scale?_eq_some_iff :
    d.scale? factor = some e ↔ e.nanoseconds = (d.product factor).nanoseconds := by
  rw [scale?_eq_ofFraction? hfinite hone, ofFraction?_eq_some_iff]

/-- A factor of at least one makes no number of seconds smaller. -/
theorem value_seconds_le_product (d : Duration) : d.seconds.value ≤ (d.product factor).value := by
  obtain ⟨-, hsize, -⟩ := doubleValue_of_one_le hfinite hone
  refine Fraction.le_roundTo precision_pos (d.den_mul_pos factor) d.holds_seconds ?_
  rw [Fraction.value_mul]
  exact le_mul_of_one_le_right (Fraction.value_nonneg _) hsize

/-- **A greater factor goes a step further** than the seconds. -/
theorem value_seconds_add_unit_le_product (hgreater : 1.0 < factor)
    (h : nanosPerSecond ≤ d.nanoseconds) :
    d.seconds.value + 2 ^ d.unit ≤ (d.product factor).value := by
  obtain ⟨-, -, hstep⟩ := doubleValue_of_one_le hfinite hone
  obtain ⟨z, hheld, hnext, hbelow⟩ := exists_next h
  refine hnext.trans (Fraction.le_roundTo precision_pos (d.den_mul_pos factor) hheld ?_)
  rw [Fraction.value_mul]
  exact hbelow.trans (mul_le_mul_of_nonneg_left (hstep hgreater) (Fraction.value_nonneg _))

/-- **A product that is no shorter.** For short durations the way to double precision and back goes
less than half a nanosecond astray; for others a factor greater than one makes up for it. -/
theorem le_nanoseconds_product (h : 1.0 < factor ∨ d.nanoseconds < 2 ^ 23 * nanosPerSecond) :
    d.nanoseconds ≤ (d.product factor).nanoseconds := by
  refine Fraction.le_nanoseconds (d.den_product_pos factor) ?_
  by_cases hshort : d.nanoseconds < 2 ^ 23 * nanosPerSecond
  · have hnear := (abs_le.mp (abs_seconds_mul_sub_le (by decide) hshort)).1
    have hproduct := mul_le_mul_of_nonneg_right (d.value_seconds_le_product hfinite hone)
      nanosPerSecond_cast_pos.le
    have hlost : ((2 : ℚ) ^ ((23 : Nat) - 53 : Int) / 2 + 1 / 2 ^ 54) * nanosPerSecond < 1 / 2 := by
      norm_num [nanosPerSecond]
    linarith
  · have hgreater := h.resolve_right hshort
    have hlong : nanosPerSecond ≤ d.nanoseconds := by
      have : nanosPerSecond ≤ 2 ^ 23 * nanosPerSecond := by decide
      omega
    have hreach := (div_le_seconds_add_unit hlong).trans
      (value_seconds_add_unit_le_product hfinite hone hgreater hlong)
    rw [div_le_iff₀ nanosPerSecond_cast_pos] at hreach
    linarith

end Growth

theorem isFinite_two : (2.0 : Float).isFinite = true := by decide +kernel

theorem one_le_twofold : (1.0 : Float) ≤ 2.0 := by decide +kernel

theorem one_lt_twofold : (1.0 : Float) < 2.0 := by decide +kernel

/-- **A short duration is doubled exactly.** Doubling loses nothing in double precision. -/
theorem scale?_two (h : d.nanoseconds < 2 ^ 22 * nanosPerSecond) :
    ∃ e, d.scale? 2.0 = some e ∧ e.nanoseconds = 2 * d.nanoseconds := by
  have htwo : (doubleValue 2.0).magnitude.value = 2 := by
    have hvalue : doubleValue 2.0 = .finite false (2 ^ 52) (-51) := by decide +kernel
    rw [hvalue, FloatValue.magnitude, Fraction.value_scaled]
    norm_num
  have hdouble : (d.product 2.0).value = d.seconds.value * 2 := by
    have hexact : (d.seconds.mul (doubleValue 2.0).magnitude).value = d.seconds.value * 2 := by
      rw [Fraction.value_mul, htwo]
    have hheld : binary64.Holds (d.seconds.mul (doubleValue 2.0).magnitude).value := by
      obtain ⟨m, q, hvalue, hm, hq⟩ := d.holds_seconds
      refine ⟨m, q + 1, ?_, hm, by omega⟩
      rw [hexact, hvalue, zpow_add_one₀ two_ne_zero, mul_assoc]
    exact (Fraction.roundTo_eq_of_holds precision_pos (d.den_mul_pos 2.0) hheld).trans hexact
  have hnanos : (d.product 2.0).nanoseconds = 2 * d.nanoseconds := by
    refine Fraction.nanoseconds_eq_of_abs_lt (d.den_product_pos 2.0) ?_
    have hnear := abs_le.mp (abs_seconds_mul_sub_le (by decide) h)
    have hlost : ((2 : ℚ) ^ ((22 : Nat) - 53 : Int) / 2 + 1 / 2 ^ 54) * nanosPerSecond < 1 / 4 := by
      norm_num [nanosPerSecond]
    rw [hdouble, abs_lt]
    push_cast
    constructor <;> linarith
  have hbounded : 2 * d.nanoseconds < durationLimit := by
    have hroom : 2 * (2 ^ 22 * nanosPerSecond) ≤ durationLimit := by decide
    omega
  exact ⟨⟨_, hbounded⟩, (scale?_eq_some_iff isFinite_two one_le_twofold).mpr hnanos.symm, rfl⟩

end Duration

end GroundStation
