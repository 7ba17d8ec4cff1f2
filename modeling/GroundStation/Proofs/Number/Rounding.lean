import GroundStation.Number.Binary
import Mathlib.Data.Int.Log
import Mathlib.Data.Rat.Floor
import Mathlib.Tactic.FieldSimp
import Mathlib.Tactic.Linarith

/-!
# Rounding to the nearest number of a format

Rounding goes through two grids. The whole numbers are the first one: a quotient goes to the nearest
of them, a half to the even one (`roundHalfEven`). The second one is finer or coarser as the number
is smaller or larger: `Fraction.roundTo` takes the power of two that leaves as many binary places as
the format has, and rounds to a multiple of it.

Rounding is known here by three facts that do not mention the grid any more. The result is a number
of the format (`Fraction.holds_roundTo`); it never crosses one (`Fraction.le_roundTo`,
`Fraction.roundTo_le`), so a number of the format stays as it is and rounding keeps the order; and
it is no further from the fraction than half the distance between two neighbours
(`Fraction.abs_roundTo_sub_le`).

The statements compare values in the rational numbers, because the same value is written in more
than one way as a fraction.

## Main results

* `roundHalfEven_mono`, `abs_roundHalfEven_sub_le`: rounding to whole numbers.
* `BinaryFormat.floorLog2_eq_log`: the exponent of a quotient.
* `Fraction.roundTo_mono`, `Fraction.roundTo_eq_of_holds`: rounding to a format.
-/

namespace GroundStation

/-! ## Whole numbers -/

section Whole

variable {n d n' d' k : Nat}

/-- Rounding goes to a whole number that is at most a half away. -/
theorem abs_roundHalfEven_sub_le (hd : 0 < d) :
    |(roundHalfEven n d : ℚ) - n / d| ≤ 1 / 2 := by
  have hdiv := Nat.div_add_mod n d
  have hlt := Nat.mod_lt n hd
  have hscaled : 2 * (roundHalfEven n d * d) ≤ 2 * n + d ∧
      2 * n ≤ 2 * (roundHalfEven n d * d) + d := by
    have hmul : n / d * d = d * (n / d) := Nat.mul_comm _ _
    unfold roundHalfEven
    dsimp only
    split_ifs with hbelow habove
    · omega
    · rw [Nat.add_mul]
      omega
    · rcases Nat.mod_two_eq_zero_or_one (n / d) with heven | hodd
      · rw [heven, Nat.add_zero]
        omega
      · rw [hodd, Nat.add_mul]
        omega
  have hd' : (0 : ℚ) < d := by exact_mod_cast hd
  have hup : 2 * ((roundHalfEven n d : ℚ) * d) ≤ 2 * n + d := by exact_mod_cast hscaled.1
  have hdown : 2 * (n : ℚ) ≤ 2 * (roundHalfEven n d * d) + d := by exact_mod_cast hscaled.2
  rw [abs_le, neg_le_sub_iff_le_add, sub_le_iff_le_add, div_le_iff₀ hd']
  constructor
  · linarith
  · rw [← sub_le_iff_le_add', le_div_iff₀ hd']
    linarith

/-- A half goes to the even neighbour. -/
theorem roundHalfEven_of_half (hd : 0 < d) (h : (n : ℚ) / d = k + 1 / 2) :
    roundHalfEven n d = k + k % 2 := by
  have hd' : (d : ℚ) ≠ 0 := by exact_mod_cast hd.ne'
  have htwice : 2 * n = 2 * (d * k) + d := by
    rw [div_eq_iff hd'] at h
    have hrat : 2 * (n : ℚ) = 2 * (d * k) + d := by rw [h]; ring
    exact_mod_cast hrat
  have hquotient : n / d = k := by
    rw [Nat.div_eq_iff hd]
    constructor
    · rw [Nat.mul_comm]; omega
    · rw [Nat.mul_comm k d]; omega
  have hremainder : 2 * (n % d) = d := by
    have hdiv := Nat.div_add_mod n d
    rw [hquotient] at hdiv
    omega
  simp [roundHalfEven, hremainder, hquotient]

/-- **Rounding to whole numbers keeps the order.** Only where two quotients are the same half could
it fail, and there both go to the even neighbour. -/
theorem roundHalfEven_mono (hd : 0 < d) (hd' : 0 < d') (h : (n : ℚ) / d ≤ n' / d') :
    roundHalfEven n d ≤ roundHalfEven n' d' := by
  by_contra hgreater
  have hstep : (roundHalfEven n' d' : ℚ) + 1 ≤ roundHalfEven n d := by
    exact_mod_cast Nat.lt_of_not_le hgreater
  have hnear := abs_le.mp (abs_roundHalfEven_sub_le (n := n) hd)
  have hnear' := abs_le.mp (abs_roundHalfEven_sub_le (n := n') hd')
  have hhalf : (n : ℚ) / d = roundHalfEven n' d' + 1 / 2 := by linarith
  have hhalf' : (n' : ℚ) / d' = roundHalfEven n' d' + 1 / 2 := by linarith
  have hsame := (roundHalfEven_of_half hd hhalf).trans (roundHalfEven_of_half hd' hhalf').symm
  omega

/-- A quotient less than a half away from a whole number goes to it. -/
theorem roundHalfEven_eq_of_abs_lt (hd : 0 < d) (h : |(n : ℚ) / d - k| < 1 / 2) :
    roundHalfEven n d = k := by
  have hnear := abs_le.mp (abs_roundHalfEven_sub_le (n := n) hd)
  have hclose := abs_lt.mp h
  have hup : (roundHalfEven n d : ℚ) < k + 1 := by linarith
  have hdown : (k : ℚ) < roundHalfEven n d + 1 := by linarith
  have hup' : roundHalfEven n d < k + 1 := by exact_mod_cast hup
  have hdown' : k < roundHalfEven n d + 1 := by exact_mod_cast hdown
  omega

theorem le_roundHalfEven (hd : 0 < d) (h : (k : ℚ) ≤ n / d) : k ≤ roundHalfEven n d := by
  have hself : roundHalfEven k 1 = k := roundHalfEven_eq_of_abs_lt Nat.one_pos (by simp)
  calc k = roundHalfEven k 1 := hself.symm
    _ ≤ roundHalfEven n d := roundHalfEven_mono Nat.one_pos hd (by simpa using h)

theorem roundHalfEven_le_of_le (hd : 0 < d) (h : (n : ℚ) / d ≤ k) : roundHalfEven n d ≤ k := by
  have hself : roundHalfEven k 1 = k := roundHalfEven_eq_of_abs_lt Nat.one_pos (by simp)
  calc roundHalfEven n d ≤ roundHalfEven k 1 :=
        roundHalfEven_mono hd Nat.one_pos (by simpa using h)
    _ = k := hself

end Whole

/-! ## Exponents -/

theorem two_zpow_pos (q : Int) : (0 : ℚ) < 2 ^ q := zpow_pos two_pos q

/-- A power of two, cut into a whole part and a part below one. -/
theorem two_zpow_eq (q : Int) : (2 : ℚ) ^ q = (2 : ℚ) ^ q.toNat / (2 : ℚ) ^ (-q).toNat := by
  rw [← zpow_natCast, ← zpow_natCast, ← zpow_sub₀ two_ne_zero]
  congr 1
  omega

/-- **The exponent of a quotient.** -/
theorem BinaryFormat.floorLog2_eq_log {n d : Nat} (hn : 0 < n) (hd : 0 < d) :
    floorLog2 n d = Int.log 2 ((n : ℚ) / d) := by
  have hd' : (0 : ℚ) < d := by exact_mod_cast hd
  have hpos : (0 : ℚ) < n / d := by positivity
  have hfits : ∀ e : Int, d * Nat.pow 2 e.toNat ≤ n * Nat.pow 2 (-e).toNat ↔
      e ≤ Int.log 2 ((n : ℚ) / d) := by
    intro e
    have hdown : (0 : ℚ) < 2 ^ (-e).toNat := by positivity
    rw [← Int.zpow_le_iff_le_log Nat.one_lt_two hpos, Nat.cast_two, two_zpow_eq,
      div_le_div_iff₀ hdown hd']
    simp only [Nat.pow_eq]
    rw [Nat.mul_comm d]
    norm_cast
  -- the logarithms of the two numbers leave two exponents
  have hup : Int.log 2 ((n : ℚ) / d) < (n.log2 : Int) - d.log2 + 1 := by
    rw [← Int.lt_zpow_iff_log_lt Nat.one_lt_two hpos, Nat.cast_two, div_lt_iff₀ hd']
    have hn' : (n : ℚ) < 2 ^ (n.log2 + 1) := by exact_mod_cast Nat.lt_log2_self
    have hlow : (2 : ℚ) ^ d.log2 ≤ d := by exact_mod_cast Nat.log2_self_le hd.ne'
    calc (n : ℚ) < 2 ^ (n.log2 + 1) := hn'
      _ = 2 ^ ((n.log2 : Int) - d.log2 + 1) * 2 ^ d.log2 := by
        rw [← zpow_natCast, ← zpow_natCast, ← zpow_add₀ two_ne_zero]
        congr 1
        push_cast
        ring
      _ ≤ 2 ^ ((n.log2 : Int) - d.log2 + 1) * d :=
        mul_le_mul_of_nonneg_left hlow (two_zpow_pos _).le
  have hdown : (n.log2 : Int) - d.log2 - 1 ≤ Int.log 2 ((n : ℚ) / d) := by
    rw [← Int.zpow_le_iff_le_log Nat.one_lt_two hpos, Nat.cast_two, le_div_iff₀ hd']
    have hn' : (2 : ℚ) ^ n.log2 ≤ n := by exact_mod_cast Nat.log2_self_le hn.ne'
    have hhigh : (d : ℚ) ≤ 2 ^ (d.log2 + 1) := by exact_mod_cast Nat.lt_log2_self.le
    calc (2 : ℚ) ^ ((n.log2 : Int) - d.log2 - 1) * d
        ≤ 2 ^ ((n.log2 : Int) - d.log2 - 1) * 2 ^ (d.log2 + 1) :=
          mul_le_mul_of_nonneg_left hhigh (two_zpow_pos _).le
      _ = 2 ^ n.log2 := by
        rw [← zpow_natCast, ← zpow_natCast, ← zpow_add₀ two_ne_zero]
        congr 1
        push_cast
        ring
      _ ≤ n := hn'
  unfold floorLog2
  dsimp only
  split_ifs with h
  · rw [hfits] at h
    omega
  · rw [hfits] at h
    omega

/-! ## Numbers of a format -/

namespace BinaryFormat

/-- Is this a number of the format, if the format had no largest one? -/
def Holds (f : BinaryFormat) (y : ℚ) : Prop :=
  ∃ (m : Nat) (q : Int), y = m * 2 ^ q ∧ m ≤ 2 ^ f.precision ∧ f.leastExponent ≤ q

theorem holds_zero (f : BinaryFormat) : f.Holds 0 :=
  ⟨0, f.leastExponent, by simp, Nat.zero_le _, le_rfl⟩

/-- A number with all its places before the point is whole. -/
theorem Holds.exists_natCast_eq {f : BinaryFormat} {y : ℚ} (h : f.Holds y)
    (hlarge : 2 ^ f.precision ≤ y) : ∃ n : Nat, y = n := by
  obtain ⟨m, q, rfl, hm, -⟩ := h
  have hm' : (m : ℚ) ≤ 2 ^ f.precision := by exact_mod_cast hm
  have hwhole : 0 ≤ q := by
    by_contra hneg
    have hsmall : (2 : ℚ) ^ q < 1 := zpow_lt_one_of_neg₀ one_lt_two (not_le.mp hneg)
    have hless : (m : ℚ) * 2 ^ q < 2 ^ f.precision :=
      calc (m : ℚ) * 2 ^ q ≤ 2 ^ f.precision * 2 ^ q :=
            mul_le_mul_of_nonneg_right hm' (two_zpow_pos q).le
        _ < 2 ^ f.precision * 1 := mul_lt_mul_of_pos_left hsmall (by positivity)
        _ = 2 ^ f.precision := mul_one _
    exact absurd hlarge (not_le.mpr hless)
  obtain ⟨k, rfl⟩ := Int.eq_ofNat_of_zero_le hwhole
  exact ⟨m * 2 ^ k, by push_cast [zpow_natCast]; rfl⟩

end BinaryFormat

namespace Fraction

/-- The value of a fraction. -/
def value (x : Fraction) : ℚ := x.num / x.den

variable {x y : Fraction} {f : BinaryFormat} {z : ℚ}

theorem value_nonneg (x : Fraction) : 0 ≤ x.value := by unfold value; positivity

@[simp] theorem value_mk_one (n : Nat) : (mk n 1).value = n := by simp [value]

@[simp] theorem value_scaled (m : Nat) (q : Int) : (scaled m q).value = m * 2 ^ q := by
  rw [two_zpow_eq]
  simp [value, scaled, mul_div_assoc]

@[simp] theorem value_add (hx : 0 < x.den) (hy : 0 < y.den) :
    (x.add y).value = x.value + y.value := by
  have hx' : (x.den : ℚ) ≠ 0 := by exact_mod_cast hx.ne'
  have hy' : (y.den : ℚ) ≠ 0 := by exact_mod_cast hy.ne'
  simp only [value, add, Nat.cast_add, Nat.cast_mul]
  field_simp

@[simp] theorem value_mul (x y : Fraction) : (x.mul y).value = x.value * y.value := by
  simp [value, mul, mul_div_mul_comm]

theorem den_scaled_pos (m : Nat) (q : Int) : 0 < (scaled m q).den := Nat.two_pow_pos _

theorem den_roundTo_pos (x : Fraction) (f : BinaryFormat) : 0 < (x.roundTo f).den := by
  unfold roundTo
  split
  · exact Nat.one_pos
  · exact den_scaled_pos _ _

/-- The exponent to which a fraction is rounded. -/
def exponentIn (f : BinaryFormat) (x : Fraction) : Int :=
  max f.leastExponent (Int.log 2 x.value - (f.precision - 1 : Nat))

/-- The multiple of the power of two to which a fraction is rounded. -/
def significandIn (f : BinaryFormat) (x : Fraction) : Nat :=
  BinaryFormat.roundAt x.num x.den (x.exponentIn f)

/-- What rounding computes, zero included. -/
theorem value_roundTo (hx : 0 < x.den) :
    (x.roundTo f).value = x.significandIn f * 2 ^ x.exponentIn f := by
  unfold roundTo
  split_ifs with hzero
  · have hnothing : x.significandIn f = 0 := by
      simp [significandIn, BinaryFormat.roundAt, roundHalfEven, hzero]
    rw [hnothing]
    simp [value]
  · have hexponent : f.roundingExponent x.num x.den = x.exponentIn f := by
      rw [BinaryFormat.roundingExponent,
        BinaryFormat.floorLog2_eq_log (Nat.pos_of_ne_zero hzero) hx]
      rfl
    rw [value_scaled, hexponent]
    rfl

/-- The quotient that goes to a whole number is the value in units of the power of two. -/
theorem significandIn_eq (hx : 0 < x.den) : ∃ n d, 0 < d ∧
    x.significandIn f = roundHalfEven n d ∧ (n : ℚ) / d = x.value / 2 ^ x.exponentIn f := by
  refine ⟨_, _, ?_, rfl, ?_⟩
  · exact Nat.mul_pos hx (Nat.two_pow_pos _)
  · rw [two_zpow_eq]
    simp only [value, Nat.pow_eq, Nat.cast_mul, Nat.cast_pow, Nat.cast_two]
    rw [div_div_div_eq]

theorem leastExponent_le (x : Fraction) : f.leastExponent ≤ x.exponentIn f := le_max_left _ _

/-- A value is so many units large at most. -/
theorem value_lt (hf : 0 < f.precision) (x : Fraction) :
    x.value < 2 ^ f.precision * 2 ^ x.exponentIn f := by
  have hlog : Int.log 2 x.value + 1 ≤ f.precision + x.exponentIn f := by
    have hright : Int.log 2 x.value - (f.precision - 1 : Nat) ≤ x.exponentIn f := le_max_right _ _
    omega
  calc x.value < 2 ^ (Int.log 2 x.value + 1) := by
        exact_mod_cast Int.lt_zpow_succ_log_self Nat.one_lt_two x.value
    _ ≤ 2 ^ ((f.precision : Int) + x.exponentIn f) := zpow_le_zpow_right₀ one_le_two hlog
    _ = 2 ^ f.precision * 2 ^ x.exponentIn f := by
        rw [zpow_add₀ two_ne_zero, zpow_natCast]

theorem significandIn_le (hf : 0 < f.precision) (hx : 0 < x.den) :
    x.significandIn f ≤ 2 ^ f.precision := by
  obtain ⟨n, d, hd, hsignificand, hquotient⟩ := significandIn_eq (f := f) hx
  rw [hsignificand]
  refine roundHalfEven_le_of_le hd ?_
  rw [hquotient, div_le_iff₀ (two_zpow_pos _)]
  exact_mod_cast (value_lt hf x).le

/-- **The result of rounding is a number of the format.** -/
theorem holds_roundTo (hf : 0 < f.precision) (hx : 0 < x.den) : f.Holds (x.roundTo f).value :=
  ⟨x.significandIn f, x.exponentIn f, value_roundTo hx, significandIn_le hf hx,
    x.leastExponent_le⟩

/-- A multiple of the unit is not crossed from above. -/
theorem le_roundTo_of_multiple (hx : 0 < x.den) {k : Nat} (h : k * 2 ^ x.exponentIn f ≤ x.value) :
    k * 2 ^ x.exponentIn f ≤ (x.roundTo f).value := by
  obtain ⟨n, d, hd, hsignificand, hquotient⟩ := significandIn_eq (f := f) hx
  rw [value_roundTo hx, hsignificand]
  refine mul_le_mul_of_nonneg_right ?_ (two_zpow_pos _).le
  have hle : k ≤ roundHalfEven n d := by
    refine le_roundHalfEven hd ?_
    rwa [hquotient, le_div_iff₀ (two_zpow_pos _)]
  exact_mod_cast hle

/-- A multiple of the unit is not crossed from below. -/
theorem roundTo_le_of_multiple (hx : 0 < x.den) {k : Nat} (h : x.value ≤ k * 2 ^ x.exponentIn f) :
    (x.roundTo f).value ≤ k * 2 ^ x.exponentIn f := by
  obtain ⟨n, d, hd, hsignificand, hquotient⟩ := significandIn_eq (f := f) hx
  rw [value_roundTo hx, hsignificand]
  refine mul_le_mul_of_nonneg_right ?_ (two_zpow_pos _).le
  have hle : roundHalfEven n d ≤ k := by
    refine roundHalfEven_le_of_le hd ?_
    rwa [hquotient, div_le_iff₀ (two_zpow_pos _)]
  exact_mod_cast hle

/-- A power of two that is a multiple of the unit. -/
theorem exists_multiple_of_le {e q : Int} (h : e ≤ q) (m : Nat) :
    ∃ k : Nat, (m : ℚ) * 2 ^ q = k * 2 ^ e := by
  refine ⟨m * 2 ^ (q - e).toNat, ?_⟩
  have hsum : q = (q - e).toNat + e := by omega
  calc (m : ℚ) * 2 ^ q = m * 2 ^ (((q - e).toNat : Int) + e) := by rw [← hsum]
    _ = ((m * 2 ^ (q - e).toNat : Nat) : ℚ) * 2 ^ e := by
        rw [zpow_add₀ two_ne_zero, zpow_natCast]
        push_cast
        ring

/-- A number of the format is a multiple of the unit of a fraction, or it is so much smaller that
the power of two below the fraction is between them. -/
theorem multiple_or_small (hf : 0 < f.precision) (hpos : 0 < x.value) (hz : f.Holds z) :
    (∃ k : Nat, z = k * 2 ^ x.exponentIn f) ∨
      ∃ k : Nat, z ≤ k * 2 ^ x.exponentIn f ∧ k * 2 ^ x.exponentIn f ≤ x.value := by
  obtain ⟨m, q, rfl, hm, hq⟩ := hz
  by_cases hcoarse : x.exponentIn f ≤ q
  · exact .inl (exists_multiple_of_le hcoarse m)
  · have hexponent : x.exponentIn f = Int.log 2 x.value - (f.precision - 1 : Nat) := by
      unfold exponentIn at hcoarse ⊢
      omega
    obtain ⟨k, hk⟩ := exists_multiple_of_le
      (show x.exponentIn f ≤ Int.log 2 x.value by omega) 1
    refine .inr ⟨k, ?_, ?_⟩
    · rw [← hk, Nat.cast_one, one_mul]
      have hm' : (m : ℚ) ≤ 2 ^ f.precision := by exact_mod_cast hm
      calc (m : ℚ) * 2 ^ q ≤ 2 ^ f.precision * 2 ^ q :=
            mul_le_mul_of_nonneg_right hm' (two_zpow_pos _).le
        _ = 2 ^ ((f.precision : Int) + q) := by rw [zpow_add₀ two_ne_zero, zpow_natCast]
        _ ≤ 2 ^ Int.log 2 x.value := zpow_le_zpow_right₀ one_le_two (by omega)
    · rw [← hk, Nat.cast_one, one_mul]
      exact_mod_cast Int.zpow_log_le_self Nat.one_lt_two hpos

/-- **Rounding never goes below a number of the format.** -/
theorem le_roundTo (hf : 0 < f.precision) (hx : 0 < x.den) (hz : f.Holds z) (h : z ≤ x.value) :
    z ≤ (x.roundTo f).value := by
  rcases x.value_nonneg.eq_or_lt with hzero | hpos
  · exact (h.trans hzero.ge).trans (value_nonneg _)
  · rcases multiple_or_small hf hpos hz with ⟨k, rfl⟩ | ⟨k, hzk, hkx⟩
    · exact le_roundTo_of_multiple hx h
    · exact hzk.trans (le_roundTo_of_multiple hx hkx)

/-- **Rounding never goes above a number of the format.** -/
theorem roundTo_le (hf : 0 < f.precision) (hx : 0 < x.den) (hz : f.Holds z) (h : x.value ≤ z) :
    (x.roundTo f).value ≤ z := by
  rcases x.value_nonneg.eq_or_lt with hzero | hpos
  · have hmultiple : x.value ≤ (0 : Nat) * 2 ^ x.exponentIn f := by simp [← hzero]
    have hbelow := roundTo_le_of_multiple hx hmultiple
    rw [Nat.cast_zero, zero_mul] at hbelow
    exact hbelow.trans (hzero.le.trans h)
  · rcases multiple_or_small hf hpos hz with ⟨k, rfl⟩ | ⟨k, hzk, hkx⟩
    · exact roundTo_le_of_multiple hx h
    · have hsame : x.value = k * 2 ^ x.exponentIn f := le_antisymm (h.trans hzk) hkx
      exact (roundTo_le_of_multiple hx hsame.le).trans (hkx.trans h)

/-- A number of the format stays as it is. -/
theorem roundTo_eq_of_holds (hf : 0 < f.precision) (hx : 0 < x.den) (h : f.Holds x.value) :
    (x.roundTo f).value = x.value :=
  le_antisymm (roundTo_le hf hx h le_rfl) (le_roundTo hf hx h le_rfl)

/-- **Rounding to a format keeps the order.** Fractions with one unit are rounded to its multiples;
between two with different units is a power of two, which is not crossed. -/
theorem roundTo_mono (hf : 0 < f.precision) (hx : 0 < x.den) (hy : 0 < y.den)
    (h : x.value ≤ y.value) : (x.roundTo f).value ≤ (y.roundTo f).value := by
  rcases x.value_nonneg.eq_or_lt with hzero | hpos
  · exact (roundTo_le hf hx f.holds_zero hzero.ge).trans (value_nonneg _)
  have hlog : Int.log 2 x.value ≤ Int.log 2 y.value := Int.log_mono_right hpos h
  have hexponent : x.exponentIn f ≤ y.exponentIn f :=
    max_le_max_left _ (Int.sub_le_sub_right hlog _)
  rcases hexponent.eq_or_lt with hsame | hless
  · obtain ⟨n, d, hd, hsignificand, hquotient⟩ := significandIn_eq (f := f) hx
    obtain ⟨n', d', hd', hsignificand', hquotient'⟩ := significandIn_eq (f := f) hy
    rw [value_roundTo hx, value_roundTo hy, hsignificand, hsignificand', hsame]
    refine mul_le_mul_of_nonneg_right ?_ (two_zpow_pos _).le
    have hle : roundHalfEven n d ≤ roundHalfEven n' d' := by
      refine roundHalfEven_mono hd hd' ?_
      rw [hquotient, hquotient', hsame]
      exact div_le_div_of_nonneg_right h (two_zpow_pos _).le
    exact_mod_cast hle
  · have hlarger : y.exponentIn f = Int.log 2 y.value - (f.precision - 1 : Nat) := by
      unfold exponentIn at hless ⊢
      omega
    have hheld : f.Holds (2 ^ Int.log 2 y.value) := by
      refine ⟨1, Int.log 2 y.value, by simp, Nat.one_le_two_pow, ?_⟩
      have := y.leastExponent_le (f := f)
      omega
    have hbelow : x.value ≤ 2 ^ Int.log 2 y.value := by
      have hxlog : Int.log 2 x.value + 1 ≤ Int.log 2 y.value := by
        unfold exponentIn at hless
        omega
      calc x.value ≤ 2 ^ (Int.log 2 x.value + 1) := by
            exact_mod_cast (Int.lt_zpow_succ_log_self Nat.one_lt_two x.value).le
        _ ≤ 2 ^ Int.log 2 y.value := zpow_le_zpow_right₀ one_le_two hxlog
    have habove : (2 : ℚ) ^ Int.log 2 y.value ≤ y.value := by
      exact_mod_cast Int.zpow_log_le_self Nat.one_lt_two (hpos.trans_le h)
    exact (roundTo_le hf hx hheld hbelow).trans (le_roundTo hf hy hheld habove)

/-- Rounding goes to a multiple of the unit that is at most half a unit away. -/
theorem abs_roundTo_sub_le_unit (hx : 0 < x.den) :
    |(x.roundTo f).value - x.value| ≤ 2 ^ x.exponentIn f / 2 := by
  obtain ⟨n, d, hd, hsignificand, hquotient⟩ := significandIn_eq (f := f) hx
  have hunit := two_zpow_pos (x.exponentIn f)
  have hfactor : (x.roundTo f).value - x.value =
      ((roundHalfEven n d : ℚ) - n / d) * 2 ^ x.exponentIn f := by
    rw [value_roundTo hx, hsignificand, hquotient, sub_mul, div_mul_cancel₀ _ hunit.ne']
  rw [hfactor, abs_mul, abs_of_pos hunit]
  calc |(roundHalfEven n d : ℚ) - n / d| * 2 ^ x.exponentIn f
      ≤ 1 / 2 * 2 ^ x.exponentIn f :=
        mul_le_mul_of_nonneg_right (abs_roundHalfEven_sub_le hd) hunit.le
    _ = 2 ^ x.exponentIn f / 2 := by ring

/-- **How far rounding goes.** Below a number of `precision` binary places in some unit, it is at
most half that unit. -/
theorem abs_roundTo_sub_le (hf : 0 < f.precision) (hx : 0 < x.den) {q : Int}
    (hq : f.leastExponent ≤ q) (h : x.value < 2 ^ f.precision * 2 ^ q) :
    |(x.roundTo f).value - x.value| ≤ 2 ^ q / 2 := by
  rcases x.value_nonneg.eq_or_lt with hzero | hpos
  · rw [roundTo_eq_of_holds hf hx (hzero ▸ f.holds_zero), sub_self, abs_zero]
    exact div_nonneg (two_zpow_pos q).le two_pos.le
  have hexponent : x.exponentIn f ≤ q := by
    refine max_le hq ?_
    have hlog : Int.log 2 x.value < f.precision + q := by
      rw [← Int.lt_zpow_iff_log_lt Nat.one_lt_two hpos, Nat.cast_two, zpow_add₀ two_ne_zero,
        zpow_natCast]
      exact h
    omega
  refine (abs_roundTo_sub_le_unit hx).trans ?_
  exact div_le_div_of_nonneg_right (zpow_le_zpow_right₀ one_le_two hexponent) two_pos.le

end Fraction

end GroundStation
