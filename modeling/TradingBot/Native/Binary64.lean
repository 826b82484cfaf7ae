import Mathlib.Data.Int.Log
import Mathlib.Tactic.Linarith
import TradingBot.Native.Format

/-!
# `float64` arithmetic

Go computes prices in IEEE 754 binary64: each `+`, `-` and `*` returns its exact result
rounded to the nearest double, a tie going to the double whose significand is even.
`roundBinary64` is that rounding on `ℚ`. A value in the binade `[2 ^ e, 2 ^ (e + 1))` is
scaled by its unit in the last place `2 ^ (e - 52)` (by `2 ^ (-1074)` among the subnormals),
rounded half to even by `roundHalfEven`, and scaled back. Results past the largest double,
which Go turns into an infinity, are not modelled: no price, risk distance or quantity of a
position comes near `2 ^ 1024`.

The rest of the model computes in `ℚ` exactly. The take-profit ladder takes the rounding as
a parameter (`initializeTakeProfitLevelsWith`), and `roundBinary64` makes it the code's.
-/

namespace TradingBot

/-- The exponent of the unit in the last place of the doubles around `x`. -/
def ulpExponent (x : ℚ) : ℤ :=
  max (Int.log 2 |x|) (-1022) - 52

/-- `x` rounded to the nearest double, ties to even. -/
def roundBinary64 (x : ℚ) : ℚ :=
  roundHalfEven (x / 2 ^ ulpExponent x) * 2 ^ ulpExponent x

/-! ## Rounding half to even -/

/-- An integer is its own rounding. -/
theorem roundHalfEven_intCast (n : ℤ) : roundHalfEven n = n := by
  simp [roundHalfEven]

/-- Rounding down is within a half when the fractional part is at most a half. -/
theorem abs_floor_sub_le {x : ℚ} (h : x - ⌊x⌋ ≤ 1 / 2) : |(⌊x⌋ : ℚ) - x| ≤ 1 / 2 := by
  rwa [abs_sub_comm, abs_of_nonneg (sub_nonneg.mpr (Int.floor_le x))]

/-- Rounding up is within a half when the fractional part is at least a half. -/
theorem abs_floor_add_one_sub_le {x : ℚ} (h : 1 / 2 ≤ x - ⌊x⌋) :
    |((⌊x⌋ + 1 : ℤ) : ℚ) - x| ≤ 1 / 2 := by
  have hlt := Int.lt_floor_add_one x
  rw [Int.cast_add, Int.cast_one, abs_of_pos (by linarith only [hlt])]
  linarith only [h]

/-- `roundHalfEven` is within a half of its argument. -/
theorem roundHalfEven_sub_le (x : ℚ) : |(roundHalfEven x : ℚ) - x| ≤ 1 / 2 := by
  dsimp only [roundHalfEven]
  split_ifs with hlt hgt
  · exact abs_floor_sub_le hlt.le
  · exact abs_floor_add_one_sub_le hgt.le
  · exact abs_floor_sub_le (not_lt.mp hgt)
  · exact abs_floor_add_one_sub_le (not_lt.mp hlt)

/-- Rounding half to even is monotone: two roundings a unit apart would put `x` and `y` a
    unit apart as well. -/
theorem roundHalfEven_mono {x y : ℚ} (h : x ≤ y) : roundHalfEven x ≤ roundHalfEven y := by
  by_contra hlt
  have hxy : roundHalfEven y + 1 ≤ roundHalfEven x := by omega
  have hq : (roundHalfEven y : ℚ) + 1 ≤ roundHalfEven x := by exact_mod_cast hxy
  have hx := abs_le.mp (roundHalfEven_sub_le x)
  have hy := abs_le.mp (roundHalfEven_sub_le y)
  obtain rfl : x = y := by linarith only [h, hq, hx.2, hy.1]
  omega

/-- Rounding half to even commutes with negation: a tie of `z` and the tie of `-z` go to the
    same even neighbour. -/
theorem roundHalfEven_neg (z : ℚ) : roundHalfEven (-z) = -roundHalfEven z := by
  rcases eq_or_ne (Int.fract z) 0 with hz | hz
  · obtain ⟨n, rfl⟩ : ∃ n : ℤ, z = n := ⟨⌊z⌋, sub_eq_zero.mp hz⟩
    rw [← Int.cast_neg, roundHalfEven_intCast, roundHalfEven_intCast]
  · have hd0 : 0 < z - ⌊z⌋ := lt_of_le_of_ne (Int.fract_nonneg z) hz.symm
    have hd1 : z - ⌊z⌋ < 1 := Int.fract_lt_one z
    have hceil : ⌈z⌉ = ⌊z⌋ + 1 :=
      Int.ceil_eq_iff.mpr ⟨by push_cast; linarith only [hd0], by push_cast; linarith only [hd1]⟩
    have hfloor : ⌊-z⌋ = -⌊z⌋ - 1 := by rw [Int.floor_neg, hceil]; ring
    have hd : -z - ((-⌊z⌋ - 1 : ℤ) : ℚ) = 1 - (z - ⌊z⌋) := by push_cast; ring
    unfold roundHalfEven
    simp only [hfloor, hd]
    rcases lt_trichotomy (z - ⌊z⌋) (1 / 2) with h | h | h
    · rw [if_neg (by rw [sub_lt_comm, sub_half]; exact not_lt.mpr h.le),
        if_pos (by rw [lt_sub_comm, sub_half]; exact h), if_pos h]; ring
    · rw [h, sub_half, if_neg (lt_irrefl _), if_neg (lt_irrefl _), if_neg (lt_irrefl _),
        if_neg (lt_irrefl _)]
      split_ifs <;> omega
    · rw [if_pos (by rw [sub_lt_comm, sub_half]; exact h), if_neg (not_lt.mpr h.le), if_pos h]; ring

theorem roundHalfEven_le_of_le {z : ℚ} {n : ℤ} (h : z ≤ n) : roundHalfEven z ≤ n :=
  (roundHalfEven_mono h).trans_eq (roundHalfEven_intCast n)

theorem le_roundHalfEven_of_le {z : ℚ} {n : ℤ} (h : (n : ℚ) ≤ z) : n ≤ roundHalfEven z :=
  (roundHalfEven_intCast n).symm.trans_le (roundHalfEven_mono h)

/-! ## Rounding to a double -/

/-- The unit in the last place of a normal value of the binade `[2 ^ e, 2 ^ (e + 1))`. -/
theorem ulpExponent_of_binade {x : ℚ} {e : ℤ} (he : -1022 ≤ e) (hlo : 2 ^ e ≤ |x|)
    (hhi : |x| < 2 ^ (e + 1)) : ulpExponent x = e - 52 := by
  have hpos : 0 < |x| := lt_of_lt_of_le (zpow_pos two_pos e) hlo
  have h₁ : e ≤ Int.log 2 |x| :=
    (Int.zpow_le_iff_le_log (b := 2) one_lt_two hpos).mp (by exact_mod_cast hlo)
  have h₂ : Int.log 2 |x| < e + 1 :=
    (Int.lt_zpow_iff_log_lt (b := 2) one_lt_two hpos).mp (by exact_mod_cast hhi)
  rw [ulpExponent, show Int.log 2 |x| = e by omega, max_eq_left he]

/-- A power of two is an integer multiple of any smaller one. -/
theorem two_zpow_add_natCast (e : ℤ) (n : ℕ) :
    (2 : ℚ) ^ (e + n) = ((2 ^ n : ℤ) : ℚ) * 2 ^ e := by
  rw [zpow_add₀ two_ne_zero, zpow_natCast, Int.cast_pow, Int.cast_ofNat, mul_comm]

/-- A power of two in the normal range is a double. -/
theorem roundBinary64_two_zpow {k : ℤ} (hk : -1022 ≤ k) : roundBinary64 (2 ^ k) = 2 ^ k := by
  have hu : ulpExponent (2 ^ k) = k - 52 := by
    refine ulpExponent_of_binade hk ?_ ?_ <;>
      rw [abs_of_pos (zpow_pos two_pos k)]
    exact zpow_lt_zpow_right₀ one_lt_two (lt_add_one k)
  have hscale : (2 : ℚ) ^ k = ((2 ^ 52 : ℤ) : ℚ) * 2 ^ (k - 52) := by
    rw [← two_zpow_add_natCast]; congr 1; omega
  rw [roundBinary64, hu, hscale, mul_div_cancel_right₀ _ (zpow_ne_zero _ two_ne_zero),
    roundHalfEven_intCast]

@[simp] theorem roundBinary64_zero : roundBinary64 0 = 0 := by
  have h := roundHalfEven_intCast 0
  rw [Int.cast_zero] at h
  rw [roundBinary64, zero_div, h, Int.cast_zero, zero_mul]

theorem roundBinary64_neg (x : ℚ) : roundBinary64 (-x) = -roundBinary64 x := by
  simp only [roundBinary64, ulpExponent, abs_neg, neg_div, roundHalfEven_neg, Int.cast_neg,
    neg_mul]

theorem roundBinary64_nonneg {x : ℚ} (hx : 0 ≤ x) : 0 ≤ roundBinary64 x := by
  have hu := zpow_pos (two_pos : (0 : ℚ) < 2) (ulpExponent x)
  have h : (0 : ℤ) ≤ roundHalfEven (x / 2 ^ ulpExponent x) :=
    le_roundHalfEven_of_le (by simpa using div_nonneg hx hu.le)
  exact mul_nonneg (by exact_mod_cast h) hu.le

/-- The doubles of a binade lie below the next power of two, and from its first: a value of
    the binade of `2 ^ e`, with the unit `2 ^ (e - 52)` or a smaller one, rounds within
    `[2 ^ e, 2 ^ (e + 1)]`. -/
theorem roundBinary64_le_two_zpow {x : ℚ} {e : ℤ} (hx : x ≤ 2 ^ (e + 1))
    (hu : ulpExponent x = e - 52) : roundBinary64 x ≤ 2 ^ (e + 1) := by
  have hpos := zpow_pos (two_pos : (0 : ℚ) < 2) (e - 52)
  have hscale : (2 : ℚ) ^ (e + 1) = ((2 ^ 53 : ℤ) : ℚ) * 2 ^ (e - 52) := by
    rw [← two_zpow_add_natCast]; congr 1; omega
  rw [roundBinary64, hu, hscale]
  refine mul_le_mul_of_nonneg_right ?_ hpos.le
  exact_mod_cast roundHalfEven_le_of_le ((div_le_iff₀ hpos).mpr (hscale ▸ hx))

theorem two_zpow_le_roundBinary64 {x : ℚ} {e : ℤ} (hx : 2 ^ e ≤ x)
    (hu : ulpExponent x = e - 52) : 2 ^ e ≤ roundBinary64 x := by
  have hpos := zpow_pos (two_pos : (0 : ℚ) < 2) (e - 52)
  have hscale : (2 : ℚ) ^ e = ((2 ^ 52 : ℤ) : ℚ) * 2 ^ (e - 52) := by
    rw [← two_zpow_add_natCast]; congr 1; omega
  rw [roundBinary64, hu, hscale]
  refine mul_le_mul_of_nonneg_right ?_ hpos.le
  exact_mod_cast le_roundHalfEven_of_le ((le_div_iff₀ hpos).mpr (hscale ▸ hx))

/-- Rounding to a double is monotone on positive values: within one binade it is rounding
    half to even at one scale, and across binades every double of the lower one lies below
    every double of the higher. -/
theorem roundBinary64_mono_of_pos {x y : ℚ} (hx : 0 < x) (h : x ≤ y) :
    roundBinary64 x ≤ roundBinary64 y := by
  have hy := hx.trans_le h
  have hlog := Int.log_mono_right (b := 2) hx h
  have hux : ulpExponent x = max (Int.log 2 x) (-1022) - 52 := by rw [ulpExponent, abs_of_pos hx]
  have huy : ulpExponent y = max (Int.log 2 y) (-1022) - 52 := by rw [ulpExponent, abs_of_pos hy]
  rcases eq_or_lt_of_le (show ulpExponent x ≤ ulpExponent y by
      rw [hux, huy]; exact sub_le_sub_right (max_le_max hlog le_rfl) _) with heq | hlt
  · -- one binade: one scale
    have hpos := zpow_pos (two_pos : (0 : ℚ) < 2) (ulpExponent y)
    rw [roundBinary64, roundBinary64, heq]
    refine mul_le_mul_of_nonneg_right ?_ hpos.le
    exact_mod_cast roundHalfEven_mono (div_le_div_of_nonneg_right h hpos.le)
  · -- `x` rounds to at most the power of two that starts the binade of `y`
    set m := max (Int.log 2 x) (-1022)
    have hmy : max (Int.log 2 y) (-1022) = Int.log 2 y := by
      rw [hux, huy] at hlt; exact max_eq_left (by omega)
    have hxm : x ≤ 2 ^ (m + 1) := ((Int.lt_zpow_succ_log_self (b := 2) one_lt_two x).le.trans
      (zpow_le_zpow_right₀ one_le_two (by omega)))
    have hym : (2 : ℚ) ^ (m + 1) ≤ 2 ^ Int.log 2 y :=
      zpow_le_zpow_right₀ one_le_two (by rw [hux, huy, hmy] at hlt; omega)
    calc roundBinary64 x ≤ 2 ^ (m + 1) := roundBinary64_le_two_zpow hxm hux
      _ ≤ 2 ^ Int.log 2 y := hym
      _ ≤ roundBinary64 y := two_zpow_le_roundBinary64
          (Int.zpow_log_le_self (b := 2) one_lt_two hy) (by rw [huy, hmy])

/-- Rounding to a double is monotone, negative values by symmetry. -/
theorem roundBinary64_mono : Monotone roundBinary64 := by
  intro x y h
  rcases lt_or_le 0 x with hx | hx
  · exact roundBinary64_mono_of_pos hx h
  have hx' := roundBinary64_nonneg (neg_nonneg.mpr hx)
  rw [roundBinary64_neg] at hx'
  rcases lt_or_le y 0 with hy | hy
  · have := roundBinary64_mono_of_pos (neg_pos.mpr hy) (neg_le_neg h)
    rw [roundBinary64_neg, roundBinary64_neg] at this
    linarith
  · linarith [roundBinary64_nonneg hy]

end TradingBot
