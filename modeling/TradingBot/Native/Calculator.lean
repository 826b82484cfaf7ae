import TradingBot.Native.Format

/-!
# The trailing-stop calculator

`TrailingStopCalculator` (`internal/executors/trailing_stop_calculator.go`): the per-symbol
parameter table `getDefaultConfigs`, its lookup `GetConfig`, the stop formulas and the
three acceptance predicates `IsValidUpdate`, `ShouldUpdate` and `ValidateStopDistance`.

Two divisions of the Go code can divide by zero. In `float64` a nonzero value over zero is
an infinity and zero over zero is `NaN`; the comparisons that follow then have fixed
answers, which the model writes out as their own branch (`ℚ` division by zero gives 0).
-/

namespace TradingBot

/-- `TrailingStopConfig`: the parameters of one symbol. Distances and the threshold are
    percentages. -/
structure TrailingStopConfig where
  initialATRPeriod : Nat
  initialATRMultiplier : ℚ
  trailingATRPeriod : Nat
  trailingATRMultiplier : ℚ
  updateThreshold : ℚ
  minStopDistance : ℚ
  maxStopDistance : ℚ
  deriving DecidableEq, Inhabited

/-- `TrailingStopCalculator`: the symbol-to-parameters map (the logger is not modelled). -/
structure TrailingStopCalculator where
  configs : List (String × TrailingStopConfig)

/-- `getDefaultConfigs`: the table built at startup, `"DEFAULT"` being the fallback entry. -/
def getDefaultConfigs : List (String × TrailingStopConfig) :=
  [("BTCUSDT", ⟨3, 5 / 2, 3, 5 / 2, 3 / 10, 1 / 2, 6⟩),
   ("ETHUSDT", ⟨3, 5 / 2, 3, 5 / 2, 3 / 10, 1 / 2, 6⟩),
   ("SOLUSDT", ⟨3, 5 / 2, 3, 5 / 2, 3 / 10, 1 / 2, 8⟩),
   ("BNBUSDT", ⟨3, 5 / 2, 3, 5 / 2, 3 / 10, 1 / 2, 7⟩),
   ("XRPUSDT", ⟨3, 5 / 2, 3, 5 / 2, 3 / 10, 1 / 2, 8⟩),
   ("DEFAULT", ⟨3, 5 / 2, 3, 5 / 2, 3 / 10, 1 / 2, 5⟩)]

/-- `NewTrailingStopCalculator`. -/
def newTrailingStopCalculator : TrailingStopCalculator := ⟨getDefaultConfigs⟩

/-- `unicode.ToUpper` as far as a lookup among ASCII keys can see it: ASCII letters, and the
    two non-ASCII runes whose upper case is ASCII (`ı` to `I`, `ſ` to `S`). Every other
    rune stays outside ASCII under Go's mapping and under this one, and misses every key. -/
def toUpperRune (c : Char) : Char :=
  if c = 'ı' then 'I' else if c = 'ſ' then 'S' else c.toUpper

namespace TrailingStopCalculator

/-- `GetConfig`: strip `/`, upper-case, look up; unknown symbols get the `"DEFAULT"` entry
    (the zero `TrailingStopConfig` if that entry were missing, as a Go map read gives). -/
def getConfig (calculator : TrailingStopCalculator) (symbol : String) : TrailingStopConfig :=
  let normalizedSymbol := String.map toUpperRune (getBinanceSymbolFor symbol)
  match calculator.configs.lookup normalizedSymbol with
  | some config => config
  | none => (calculator.configs.lookup "DEFAULT").getD default

/-- `CalculateInitialStop`: entry price minus (long) or plus (otherwise) the initial ATR
    multiple. -/
def calculateInitialStop (calculator : TrailingStopCalculator) (symbol : String) (entryPrice atr : ℚ)
    (side : String) : ℚ :=
  let stopDistance := (calculator.getConfig symbol).initialATRMultiplier * atr
  if side = "long" then entryPrice - stopDistance else entryPrice + stopDistance

/-- `CalculateTrailingStop`: the favourable extreme minus (long) or plus (otherwise) the
    trailing ATR multiple. -/
def calculateTrailingStop (calculator : TrailingStopCalculator) (symbol : String)
    (highestPrice atr : ℚ) (side : String) : ℚ :=
  let stopDistance := (calculator.getConfig symbol).trailingATRMultiplier * atr
  if side = "long" then highestPrice - stopDistance else highestPrice + stopDistance

/-- `IsValidUpdate`: a long stop must rise, any other must fall, strictly. -/
def isValidUpdate (_calculator : TrailingStopCalculator) (side : String) (oldStopLoss newStopLoss : ℚ) :
    Bool :=
  if side = "long" then decide (newStopLoss > oldStopLoss) else decide (newStopLoss < oldStopLoss)

/-- `ShouldUpdate`: `|(new - old) / old| * 100 ≥ UpdateThreshold`. At `old = 0` the float
    quotient is infinite (the check holds) unless `new = 0` too (`NaN`: it fails). -/
def shouldUpdate (calculator : TrailingStopCalculator) (symbol : String) (oldStopLoss newStopLoss : ℚ) :
    Bool :=
  if oldStopLoss = 0 then decide (newStopLoss ≠ 0)
  else decide (|(newStopLoss - oldStopLoss) / oldStopLoss| * 100 ≥
    (calculator.getConfig symbol).updateThreshold)

/-- `ValidateStopDistance`: the distance from the reference price, in percent, lies in
    `[MinStopDistance, MaxStopDistance]`. At a zero reference price the float percentage is
    infinite or `NaN` and the check fails. -/
def validateStopDistance (calculator : TrailingStopCalculator) (symbol : String)
    (entryPrice stopPrice : ℚ) (side : String) : Bool :=
  let config := calculator.getConfig symbol
  let distancePercent := if side = "long" then (entryPrice - stopPrice) / entryPrice * 100
    else (stopPrice - entryPrice) / entryPrice * 100
  if entryPrice = 0 then false
  else decide (distancePercent ≥ config.minStopDistance ∧ distancePercent ≤ config.maxStopDistance)

end TrailingStopCalculator

end TradingBot
