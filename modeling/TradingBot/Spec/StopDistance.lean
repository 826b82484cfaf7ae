import Mathlib.Data.String.Basic
import TradingBot.Native.Calculator
import TradingBot.Native.StopLoss
import TradingBot.Native.Binary64

/-!
# The stop price sent against the validated band

`ValidateStopDistance` accepts a stop whose distance from the reference price, in percent,
lies in the symbol's `[MinStopDistance, MaxStopDistance]`. `placeStopLossOrder` does not
send that stop: it sends `fmt.Sprintf("%.2f", stopPrice)`, the stop rounded to the cent.

Rounding moves a price by at most half a cent (`formatFixed_sub_le`), and the stops
accepted at one reference price form an interval (`validateStopDistance_between`), so the
sent stop is accepted whenever the prices half a cent either side of the stop are
(`validateStopDistance_sent`). At a price of a few dollars or less, half a cent is a
large part of the band: at an `XRPUSDT` price of `0.5`, the long stop `0.49609375` is
`0.78%` away and accepted, and it is sent as `0.50`, the entry price itself
(`rounded_stop_leaves_band`).

## Key results

- `formatFixed_sub_le`: `%.<prec>f` moves a number by at most half a unit of its last decimal.
- `validateStopDistance_sent`: the sent stop of a stop with half a cent of margin is accepted.
- `rounded_stop_leaves_band`: an accepted stop whose sent price is not.
-/

namespace TradingBot

/-! ## Rounding to a fixed number of decimals -/

/-- The integer less than a half away from `x` is its rounding. -/
theorem roundHalfEven_eq_of_abs_lt {x : ℚ} {n : ℤ} (h : |x - n| < 1 / 2) : roundHalfEven x = n := by
  have hlt : |((roundHalfEven x - n : ℤ) : ℚ)| < 1 := by
    push_cast
    calc |(roundHalfEven x : ℚ) - n| ≤ |(roundHalfEven x : ℚ) - x| + |x - n| := abs_sub_le _ _ _
      _ < 1 := by linarith [roundHalfEven_sub_le x]
  rwa [← Int.cast_abs, ← Int.cast_one, Int.cast_lt, Int.abs_lt_one_iff, sub_eq_zero] at hlt

/-- `%.<prec>f` moves a number by at most half a unit of its last decimal. -/
theorem formatFixed_sub_le (prec : Nat) (x : ℚ) :
    |formatFixed prec x - x| ≤ 1 / (2 * 10 ^ prec) := by
  have hpos : (0 : ℚ) < 10 ^ prec := by positivity
  have hdiff : formatFixed prec x - x =
      ((roundHalfEven (x * 10 ^ prec) : ℚ) - x * 10 ^ prec) / 10 ^ prec := by
    rw [formatFixed, sub_div, mul_div_cancel_right₀ _ hpos.ne']
  rw [hdiff, abs_div, abs_of_pos hpos, ← div_div]
  exact (div_le_div_iff_of_pos_right hpos).mpr (roundHalfEven_sub_le _)

namespace TrailingStopCalculator

variable (calculator : TrailingStopCalculator) (symbol : String)

/-- The stops that `ValidateStopDistance` accepts at one reference price form an interval. -/
theorem validateStopDistance_between {entryPrice lo hi stopPrice : ℚ} (side : String)
    (hp : 0 < entryPrice) (hlo : calculator.validateStopDistance symbol entryPrice lo side = true)
    (hhi : calculator.validateStopDistance symbol entryPrice hi side = true)
    (h₁ : lo ≤ stopPrice) (h₂ : stopPrice ≤ hi) :
    calculator.validateStopDistance symbol entryPrice stopPrice side = true := by
  simp only [validateStopDistance, hp.ne', if_false, decide_eq_true_eq] at hlo hhi ⊢
  -- the distance in percent is monotone in the price difference
  have scale : ∀ u v : ℚ, u ≤ v → u / entryPrice * 100 ≤ v / entryPrice * 100 := fun u v h =>
    mul_le_mul_of_nonneg_right ((div_le_div_iff_of_pos_right hp).mpr h) (by norm_num)
  split_ifs at hlo hhi ⊢
  · exact ⟨le_trans hhi.1 (scale _ _ (sub_le_sub_left h₂ _)),
      le_trans (scale _ _ (sub_le_sub_left h₁ _)) hlo.2⟩
  · exact ⟨le_trans hlo.1 (scale _ _ (sub_le_sub_right h₁ _)),
      le_trans (scale _ _ (sub_le_sub_right h₂ _)) hhi.2⟩

end TrailingStopCalculator

namespace StopLossManager

open TrailingStopCalculator

/-- The stop that `placeStopLossOrder` sends for `stopPrice` is accepted whenever the prices
    half a cent either side of `stopPrice` are. -/
theorem validateStopDistance_sent (calculator : TrailingStopCalculator) (symbol : String)
    (pos : Position) {entryPrice stopPrice : ℚ} (side : String) (hp : 0 < entryPrice)
    (hlo : calculator.validateStopDistance symbol entryPrice (stopPrice - 1 / 200) side = true)
    (hhi : calculator.validateStopDistance symbol entryPrice (stopPrice + 1 / 200) side = true) :
    calculator.validateStopDistance symbol entryPrice (stopOrderRequest pos stopPrice).stopPrice
      side = true := by
  have h := abs_sub_le_iff.mp (formatFixed_sub_le 2 stopPrice)
  have hcent : (1 : ℚ) / (2 * 10 ^ 2) = 1 / 200 := by norm_num
  rw [hcent] at h
  exact validateStopDistance_between calculator symbol side hp hlo hhi (sub_le_comm.mp h.2)
    (sub_le_iff_le_add'.mp h.1)

/-- The `XRPUSDT` entry of `getDefaultConfigs`. -/
theorem getConfig_XRPUSDT :
    newTrailingStopCalculator.getConfig "XRPUSDT" = ⟨3, 5 / 2, 3, 5 / 2, 3 / 10, 1 / 2, 8⟩ := by
  rw [getConfig, String.map_eq]; rfl

/-- At an `XRPUSDT` price of `0.5`, the long stop `0.49609375` is accepted, and the stop
    `placeStopLossOrder` sends for it is `0.50`, the price itself, which is not. -/
theorem rounded_stop_leaves_band :
    let pos : Position := { (default : Position) with symbol := "XRPUSDT", side := "long" }
    newTrailingStopCalculator.validateStopDistance "XRPUSDT" (1 / 2) (127 / 256) "long" = true ∧
      (stopOrderRequest pos (127 / 256)).stopPrice = 1 / 2 ∧
      newTrailingStopCalculator.validateStopDistance "XRPUSDT" (1 / 2)
        (stopOrderRequest pos (127 / 256)).stopPrice "long" = false := by
  have hround : roundHalfEven (127 / 256 * 10 ^ 2) = 50 :=
    roundHalfEven_eq_of_abs_lt (by norm_num [abs_lt])
  have hsent : formatFixed 2 (127 / 256) = 1 / 2 := by
    rw [formatFixed, hround]; norm_num
  refine ⟨?_, hsent, ?_⟩
  · simp only [validateStopDistance, getConfig_XRPUSDT]; norm_num
  · simp only [stopOrderRequest, hsent, validateStopDistance, getConfig_XRPUSDT]; norm_num

end StopLossManager

end TradingBot
