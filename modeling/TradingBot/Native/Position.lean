import Mathlib.Algebra.Order.Field.Rat

/-!
# Positions, take-profit levels and exchange replies

The data that `StopLossManager` and `TakeProfitManager` (`internal/executors`) share.
A `*Position` is held by both managers at once; `TakeProfitLevel` and
`TakeProfitConfig` are the ladder that `InitializeTakeProfitLevels` stores on it.

Go `float64` prices and quantities are computed exactly here, in `ℚ`: every property
below is a statement about the arithmetic the code writes down, not about its rounding.

The `Position` struct and three of its methods (`UpdatePrice`, `ShouldTriggerStopLoss`,
`AddStopLossEvent`) live in a file of the repository that is not part of the sources we
model; they are written from the specification's description of the position record and
of `OnPriceTick`. The exchange executor (`BinanceExecutor`) is external: its replies are
an `Env`, chosen freely by whoever runs the model.
-/

namespace TradingBot

/-- `TakeProfitLevel`: one rung of the ladder. `ExecutedTime` is a `*time.Time`, `nil` until
    the level executes; a clock reading is a `Nat`. -/
structure TakeProfitLevel where
  level : Nat
  riskRewardRatio : ℚ
  percentage : ℚ
  targetPrice : ℚ
  executed : Bool
  executedTime : Option Nat
  executedPrice : ℚ
  newStopLoss : ℚ
  deriving DecidableEq, Inhabited

/-- `TakeProfitConfig`: whether the ladder is on, and its levels in order. -/
structure TakeProfitConfig where
  enabled : Bool
  levels : List TakeProfitLevel
  deriving DecidableEq, Inhabited

/-- Modelled from the spec: one entry of `stopLossHistory`, `{old, new, reason, source}`
    (the record type is not in the modelled sources; its timestamp is left out). -/
structure StopLossEvent where
  oldStop : ℚ
  newStop : ℚ
  reason : String
  source : String
  deriving DecidableEq, Inhabited

/-- Modelled from the spec: the `Position` record, with the fields the managers read or
    write. `highestPrice` holds the favourable extreme for either side, as the spec's data
    model says; `takeProfitConfig` is the `*TakeProfitConfig`, `none` for `nil`. -/
structure Position where
  symbol : String
  side : String
  entryPrice : ℚ
  quantity : ℚ
  initialStopLoss : ℚ
  currentStopLoss : ℚ
  highestPrice : ℚ
  currentPrice : ℚ
  stopLossType : String
  stopLossOrderID : String
  stopLossHistory : List StopLossEvent
  takeProfitConfig : Option TakeProfitConfig
  deriving DecidableEq, Inhabited

/-- `ActionCloseLong` / `ActionCloseShort`, the two actions the managers send. -/
inductive TradeAction where
  | closeLong
  | closeShort
  deriving DecidableEq, Inhabited

/-- The reason text given to `ExecuteTrade`, kept as the values it is formatted from:
    `"分批止盈级别%d (%.1fR)"` of a take-profit level, or `"触发止损"` of a stop-loss close. -/
inductive TradeReason where
  | takeProfit (level : Nat) (riskRewardRatio : ℚ)
  | stopLoss
  deriving DecidableEq, Inhabited

/-- The arguments of one `ExecuteTrade(ctx, symbol, action, quantity, reason)` call. -/
structure TradeRequest where
  symbol : String
  action : TradeAction
  quantity : ℚ
  reason : TradeReason
  deriving DecidableEq, Inhabited

/-- The fields of the executor's trade result that the managers read. -/
structure TradeResult where
  success : Bool
  price : ℚ
  message : String
  deriving DecidableEq, Inhabited

/-- What the world outside the managers answers during one call: the error of
    `NewCreateOrderService().Do` and of `NewCancelOrderService().Do` (`none` when the
    exchange accepts), the result of `ExecuteTrade`, and `time.Now()`. -/
structure Env where
  placeError : Option String
  cancelError : Option String
  trade : TradeResult
  now : Nat
  deriving Inhabited

namespace Position

/-- Modelled from the spec: `UpdatePrice` sets `currentPrice` and moves the favourable
    extreme when the price improves on it (strictly: ties do not update). -/
def updatePrice (pos : Position) (price : ℚ) : Position :=
  let improves := if pos.side = "long" then price > pos.highestPrice else price < pos.highestPrice
  { pos with currentPrice := price,
             highestPrice := if improves then price else pos.highestPrice }

/-- Modelled from the spec: a long position triggers when the price is at or below the
    current stop, a short one when it is at or above it. -/
def shouldTriggerStopLoss (pos : Position) : Bool :=
  if pos.side = "long" then decide (pos.currentPrice ≤ pos.currentStopLoss)
  else decide (pos.currentPrice ≥ pos.currentStopLoss)

/-- Modelled from the spec: `AddStopLossEvent` appends to the history log. -/
def addStopLossEvent (pos : Position) (oldStop newStop : ℚ) (reason source : String) :
    Position :=
  { pos with stopLossHistory := pos.stopLossHistory ++ [⟨oldStop, newStop, reason, source⟩] }

@[simp] theorem updatePrice_side (pos : Position) (price : ℚ) :
    (pos.updatePrice price).side = pos.side := rfl

@[simp] theorem updatePrice_symbol (pos : Position) (price : ℚ) :
    (pos.updatePrice price).symbol = pos.symbol := rfl

@[simp] theorem updatePrice_quantity (pos : Position) (price : ℚ) :
    (pos.updatePrice price).quantity = pos.quantity := rfl

@[simp] theorem updatePrice_currentStopLoss (pos : Position) (price : ℚ) :
    (pos.updatePrice price).currentStopLoss = pos.currentStopLoss := rfl

@[simp] theorem updatePrice_stopLossOrderID (pos : Position) (price : ℚ) :
    (pos.updatePrice price).stopLossOrderID = pos.stopLossOrderID := rfl

@[simp] theorem updatePrice_takeProfitConfig (pos : Position) (price : ℚ) :
    (pos.updatePrice price).takeProfitConfig = pos.takeProfitConfig := rfl

@[simp] theorem updatePrice_currentPrice (pos : Position) (price : ℚ) :
    (pos.updatePrice price).currentPrice = price := rfl

@[simp] theorem addStopLossEvent_side (pos : Position) (o n : ℚ) (r s : String) :
    (pos.addStopLossEvent o n r s).side = pos.side := rfl

@[simp] theorem addStopLossEvent_symbol (pos : Position) (o n : ℚ) (r s : String) :
    (pos.addStopLossEvent o n r s).symbol = pos.symbol := rfl

@[simp] theorem addStopLossEvent_quantity (pos : Position) (o n : ℚ) (r s : String) :
    (pos.addStopLossEvent o n r s).quantity = pos.quantity := rfl

@[simp] theorem addStopLossEvent_currentStopLoss (pos : Position) (o n : ℚ) (r s : String) :
    (pos.addStopLossEvent o n r s).currentStopLoss = pos.currentStopLoss := rfl

@[simp] theorem addStopLossEvent_stopLossOrderID (pos : Position) (o n : ℚ) (r s : String) :
    (pos.addStopLossEvent o n r s).stopLossOrderID = pos.stopLossOrderID := rfl

@[simp] theorem addStopLossEvent_takeProfitConfig (pos : Position) (o n : ℚ) (r s : String) :
    (pos.addStopLossEvent o n r s).takeProfitConfig = pos.takeProfitConfig := rfl

@[simp] theorem addStopLossEvent_stopLossHistory (pos : Position) (o n : ℚ) (r s : String) :
    (pos.addStopLossEvent o n r s).stopLossHistory = pos.stopLossHistory ++ [⟨o, n, r, s⟩] :=
  rfl

end Position

end TradingBot
