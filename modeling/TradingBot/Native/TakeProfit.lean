import TradingBot.Native.Position

/-!
# The take-profit ladder

`TakeProfitManager` (`internal/executors/takeprofit_manager.go`):
`InitializeTakeProfitLevels` builds a three-level ladder from the initial risk distance,
`MonitorAndExecute` scans it against a price and partially closes the position at the first
unexecuted level whose target is reached, and `GetMinimumStopLoss` reads back the floor
the executed levels installed.

The targets are computed with the rounding of each `float64` operation as a parameter:
`initializeTakeProfitLevels` computes them exactly, as the rest of the model does, and
`initializeTakeProfitLevelsWith roundBinary64` as the code does.

The loops are written as the Go code runs them: the target loop sees the levels before the
current one already updated (level 2 reads `levels[0].TargetPrice`), and the scan of
`MonitorAndExecute` carries the levels it has passed and its `executedCount`. `GetStatus`
writes one mark per level.
-/

namespace TradingBot

namespace TakeProfitManager

/-- The three levels of `InitializeTakeProfitLevels` before the target loop: 30% at 1R,
    30% at 2R, 40% at 3R, the other fields at their zero values. -/
def defaultLevels : List TakeProfitLevel :=
  [⟨1, 1, 3 / 10, 0, false, none, 0, 0⟩,
   ⟨2, 2, 3 / 10, 0, false, none, 0, 0⟩,
   ⟨3, 3, 2 / 5, 0, false, none, 0, 0⟩]

/-- The body of the target loop for `level`, where `levels` is the slice as the body sees
    it; `fl` rounds the result of each `float64` operation. The long and short branches
    differ only in the sign of the target; their `switch` on the level number is the same. -/
def setTarget (fl : ℚ → ℚ) (pos : Position) (riskDistance : ℚ) (levels : List TakeProfitLevel)
    (level : TakeProfitLevel) : TakeProfitLevel :=
  let targetPrice := if pos.side = "long"
    then fl (pos.entryPrice + fl (riskDistance * level.riskRewardRatio))
    else fl (pos.entryPrice - fl (riskDistance * level.riskRewardRatio))
  let newStopLoss := match level.level with
    | 1 => pos.entryPrice
    | 2 => (levels.getD 0 default).targetPrice
    | 3 => (levels.getD 1 default).targetPrice
    | _ => level.newStopLoss
  { level with targetPrice, newStopLoss }

/-- `for _, level := range levels`, updating each level in place: `done` are the levels the
    loop has passed. -/
def setTargets (fl : ℚ → ℚ) (pos : Position) (riskDistance : ℚ) :
    List TakeProfitLevel → List TakeProfitLevel → List TakeProfitLevel
  | done, [] => done
  | done, level :: rest =>
    setTargets fl pos riskDistance
      (done ++ [setTarget fl pos riskDistance (done ++ level :: rest) level]) rest

/-- `InitializeTakeProfitLevels` with each `float64` operation rounded by `fl`: the ladder,
    enabled, on the position. -/
def initializeTakeProfitLevelsWith (fl : ℚ → ℚ) (pos : Position) : Position :=
  let riskDistance := |fl (pos.entryPrice - pos.initialStopLoss)|
  { pos with takeProfitConfig := some ⟨true, setTargets fl pos riskDistance [] defaultLevels⟩ }

/-- `InitializeTakeProfitLevels`, its arithmetic computed exactly. -/
def initializeTakeProfitLevels (pos : Position) : Position :=
  initializeTakeProfitLevelsWith id pos

/-- `targetReached` of the scan: at or beyond the target, upwards for a long position. -/
def targetReached (side : String) (currentPrice : ℚ) (level : TakeProfitLevel) : Bool :=
  if side = "long" then decide (currentPrice ≥ level.targetPrice)
  else decide (currentPrice ≤ level.targetPrice)

/-- The close action: `ActionCloseShort` for a short position, `ActionCloseLong` otherwise. -/
def closeAction (side : String) : TradeAction :=
  if side = "short" then .closeShort else .closeLong

/-- The three fields `MonitorAndExecute` sets when a level executes. -/
def markExecuted (level : TakeProfitLevel) (now : Nat) (price : ℚ) : TakeProfitLevel :=
  { level with executed := true, executedTime := some now, executedPrice := price }

/-- The partial close `MonitorAndExecute` sends for `level`. -/
def closeRequest (pos : Position) (level : TakeProfitLevel) : TradeRequest :=
  ⟨pos.symbol, closeAction pos.side, pos.quantity * level.percentage,
    .takeProfit level.level level.riskRewardRatio⟩

/-- What a `MonitorAndExecute` call returns and leaves behind: the executed count, the
    error, the position, the `ExecuteTrade` call it made with its reply, and whether it
    took the branch that reports every level executed and the position fully closed. -/
structure MonitorResult where
  executedLevels : Nat
  error : Option String
  pos : Position
  trade : Option (TradeRequest × TradeResult)
  allExecuted : Bool

/-- The body of the scan at a level that is unexecuted and reached: `ExecuteTrade`, then on
    failure return at once, on success mark the level and reduce the quantity. Both ways
    the loop ends (`return`, or `break` after one execution). -/
def executeLevel (pos : Position) (cfg : TakeProfitConfig) (env : Env) (executedCount : Nat)
    (done : List TakeProfitLevel) (level : TakeProfitLevel) (rest : List TakeProfitLevel) :
    MonitorResult :=
  let request := closeRequest pos level
  let result := env.trade
  if !result.success then
    ⟨executedCount, some ("执行止盈失败: " ++ result.message), pos, some (request, result), false⟩
  else
    let levels := done ++ markExecuted level env.now result.price :: rest
    ⟨executedCount + 1, none,
      { pos with quantity := pos.quantity - request.quantity,
                 takeProfitConfig := some { cfg with levels } },
      some (request, result), levels.all (·.executed)⟩

/-- The scan of `MonitorAndExecute` over the levels of `cfg`: `done` are the levels passed
    over (executed, or not reached). -/
def monitorLoop (pos : Position) (cfg : TakeProfitConfig) (currentPrice : ℚ) (env : Env)
    (executedCount : Nat) : List TakeProfitLevel → List TakeProfitLevel → MonitorResult
  | _, [] => ⟨executedCount, none, pos, none, false⟩
  | done, level :: rest =>
    if level.executed then
      monitorLoop pos cfg currentPrice env executedCount (done ++ [level]) rest
    else if !targetReached pos.side currentPrice level then
      monitorLoop pos cfg currentPrice env executedCount (done ++ [level]) rest
    else executeLevel pos cfg env executedCount done level rest

/-- `MonitorAndExecute`: nothing to do without an enabled ladder. -/
def monitorAndExecute (pos : Position) (currentPrice : ℚ) (env : Env) : MonitorResult :=
  match pos.takeProfitConfig with
  | some cfg =>
    if cfg.enabled then monitorLoop pos cfg currentPrice env 0 [] cfg.levels
    else ⟨0, none, pos, none, false⟩
  | none => ⟨0, none, pos, none, false⟩

/-- The loop of `GetMinimumStopLoss`: the last level of the leading run of executed ones. -/
def lastExecutedLevel : Option TakeProfitLevel → List TakeProfitLevel → Option TakeProfitLevel
  | last, [] => last
  | last, level :: rest => if level.executed then lastExecutedLevel (some level) rest else last

/-- `GetMinimumStopLoss`: the floor, `(NewStopLoss, true)` of the last executed level of the
    leading run, or `(0, false)`. -/
def getMinimumStopLoss (pos : Position) : ℚ × Bool :=
  match pos.takeProfitConfig with
  | some cfg =>
    if cfg.enabled then
      match lastExecutedLevel none cfg.levels with
      | some level => (level.newStopLoss, true)
      | none => (0, false)
    else (0, false)
  | none => (0, false)

/-- What `GetStatus` writes for one level: `L<n>✅` once executed, `L<n>⏳` before. -/
def levelStatus (level : TakeProfitLevel) : String :=
  if level.executed then "L" ++ toString level.level ++ "✅"
  else "L" ++ toString level.level ++ "⏳"

/-- The loop of `GetStatus` at index `i`: `", "` before every level but the first. -/
def statusLoop : Nat → String → List TakeProfitLevel → String
  | _, status, [] => status
  | i, status, level :: rest =>
    statusLoop (i + 1) ((if i > 0 then status ++ ", " else status) ++ levelStatus level) rest

/-- `GetStatus`: the status of every level, or `未启用` ("not enabled") without an enabled
    ladder. -/
def getStatus (pos : Position) : String :=
  match pos.takeProfitConfig with
  | some cfg => if cfg.enabled then statusLoop 0 "" cfg.levels else "未启用"
  | none => "未启用"

end TakeProfitManager

end TradingBot
