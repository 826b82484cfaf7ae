import TradingBot.Native.Config

/-!
# The leverage bounds `LoadConfig` produces

Which settings of `BINANCE_LEVERAGE` give a `Config` with
`1 ≤ BinanceLeverageMin ≤ BinanceLeverage ≤ BinanceLeverageMax ≤ 125`: exactly the ranges
`min-max` with one `-` (a valid range is taken, any other falls back to `10`), and the
settings without a `-` whose integer value lies in `[1, 125]`. Text with two or more `-`
passes through no branch that sets the bounds, and they stay at zero; a fixed setting is
copied to both bounds unchecked. Dynamic leverage is on exactly for a valid range.

## Key results

- `loadConfig_dynamic`: dynamic leverage is on exactly for a range with `1 ≤ min ≤ max ≤ 125`.
- `loadConfig_bounds_iff`: the settings whose `Config` lies within the exchange's bounds.
- `loadConfig_outside_bounds`: `"1-2-3"` and `"200"` give configs outside them.
-/

namespace TradingBot

/-- Text without the separator is one part. -/
theorem splitOn_of_not_mem {l : List Char} {a : Char} (h : a ∉ l) : l.splitOn a = [l] :=
  List.splitOnP_eq_single _ _ (fun x hx hxa => h (by rwa [beq_iff_eq.mp hxa] at hx))

/-- The two shapes of `loadConfig`: without a `-` the integer setting on both bounds, and
    with one, the branch the parts select. -/
theorem loadConfig_eq (s : Option String) :
    loadConfig s =
      if '-' ∈ (getString s).toList then
        match (getString s).toList.splitOn '-' with
        | [part₀, part₁] =>
          if 0 < parseInt64 ⟨trimSpace part₀⟩ ∧ 0 < parseInt64 ⟨trimSpace part₁⟩ ∧
              parseInt64 ⟨trimSpace part₀⟩ ≤ parseInt64 ⟨trimSpace part₁⟩ ∧
              parseInt64 ⟨trimSpace part₁⟩ ≤ 125 then
            ⟨parseInt64 ⟨trimSpace part₀⟩, parseInt64 ⟨trimSpace part₀⟩,
              parseInt64 ⟨trimSpace part₁⟩, true⟩
          else ⟨10, 10, 10, false⟩
        | _ => ⟨getInt s, 0, 0, false⟩
      else ⟨getInt s, getInt s, getInt s, false⟩ := rfl

/-- Dynamic leverage is on exactly for a setting that splits into two parts whose scanned
    values satisfy `1 ≤ min ≤ max ≤ 125`. -/
theorem loadConfig_dynamic (s : Option String) :
    (loadConfig s).binanceLeverageDynamic = true ↔
      ∃ part₀ part₁, (getString s).toList.splitOn '-' = [part₀, part₁] ∧
        1 ≤ parseInt64 ⟨trimSpace part₀⟩ ∧
        parseInt64 ⟨trimSpace part₀⟩ ≤ parseInt64 ⟨trimSpace part₁⟩ ∧
        parseInt64 ⟨trimSpace part₁⟩ ≤ 125 := by
  rw [loadConfig_eq]
  by_cases hmem : '-' ∈ (getString s).toList
  · rw [if_pos hmem]
    split
    · next part₀ part₁ hparts =>
      rw [hparts]
      constructor
      · intro h
        split_ifs at h with hvalid
        exact ⟨part₀, part₁, rfl, by omega⟩
      · rintro ⟨q₀, q₁, hq, h⟩
        simp only [List.cons.injEq, and_true] at hq
        obtain ⟨rfl, rfl⟩ := hq
        rw [if_pos (by omega)]
    · next hparts =>
      simp only [Bool.false_eq_true, false_iff, not_exists, not_and]
      exact fun part₀ part₁ h => absurd h (hparts part₀ part₁)
  · rw [if_neg hmem, splitOn_of_not_mem hmem]
    simp

example : loadConfig (some " 5 - 20 ") = ⟨5, 5, 20, true⟩ := by decide

/-- The bounds `1 ≤ min ≤ leverage ≤ max ≤ 125` hold exactly for a setting that splits into
    two parts, or that has no `-` and an integer value within `[1, 125]`. -/
theorem loadConfig_bounds_iff (s : Option String) :
    (1 ≤ (loadConfig s).binanceLeverageMin ∧
      (loadConfig s).binanceLeverageMin ≤ (loadConfig s).binanceLeverage ∧
      (loadConfig s).binanceLeverage ≤ (loadConfig s).binanceLeverageMax ∧
      (loadConfig s).binanceLeverageMax ≤ 125) ↔
      ((getString s).toList.splitOn '-').length = 2 ∨
        ('-' ∉ (getString s).toList ∧ 1 ≤ getInt s ∧ getInt s ≤ 125) := by
  rw [loadConfig_eq]
  by_cases hmem : '-' ∈ (getString s).toList
  · rw [if_pos hmem]
    split
    · next part₀ part₁ hparts =>
      simp only [hparts, List.length_cons, List.length_nil, true_or, iff_true]
      split_ifs <;> dsimp only <;> omega
    · next hparts =>
      have hlen : ((getString s).toList.splitOn '-').length ≠ 2 := fun h => by
        obtain ⟨part₀, part₁, h⟩ := List.length_eq_two.mp h
        exact hparts part₀ part₁ h
      simp only [hlen, hmem, not_true_eq_false, false_and, or_false, iff_false]
      omega
  · rw [if_neg hmem, splitOn_of_not_mem hmem]
    simp only [hmem, List.length_singleton, not_false_eq_true, true_and, false_or]
    omega

/-- A setting with two `-` leaves both bounds at zero, and a fixed setting of `200` is
    copied beyond the exchange's `125`. -/
theorem loadConfig_outside_bounds :
    loadConfig (some "1-2-3") = ⟨0, 0, 0, false⟩ ∧
      loadConfig (some "200") = ⟨200, 200, 200, false⟩ := by
  decide

end TradingBot
