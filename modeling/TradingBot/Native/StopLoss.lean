import TradingBot.Native.TakeProfit
import TradingBot.Native.Format

/-!
# The stop-loss manager

`StopLossManager` (`internal/executors/stoploss_manager.go`), each public call run as one
uninterrupted step: `RegisterPosition`, `RemovePosition`, `PlaceInitialStopLoss`,
`UpdateStopLoss`, `UpdatePosition`, and the helpers `placeStopLossOrder`,
`cancelStopLossOrder` and `executeStopLoss` they share; and one tick of `MonitorPositions`,
which fetches each registered position's price with `getCurrentPrice` and calls
`UpdatePosition`. `Threads` splits the same calls into the atomic steps that other
goroutines can interleave with.

The registry `positions` maps a symbol to a `*Position`; the pointer is a reference into
`heap`, so that a position registered here and handed to `TakeProfitManager` is one object
that both managers write (`World.monitorAndExecute`).

The exchange is a `Venue`: the stop orders resting there, the next order id it hands out,
and every request it has received, accepted or refused. Whether a request is refused, and
the result of `ExecuteTrade`, come from the `Env` of the call.
-/

namespace TradingBot

/-- `futures.SideTypeBuy` / `futures.SideTypeSell`. -/
inductive OrderSide where
  | buy
  | sell
  deriving DecidableEq, Inhabited

/-- What `placeStopLossOrder` sends to `NewCreateOrderService`: the exchange symbol, the
    side, the `%.2f` stop price and the `%.4f` quantity (a `STOP_MARKET`, reduce-only
    order). `placedFor` is the symbol of the position the order protects: the exchange does
    not see it, it names the order in statements about the registry. -/
structure OrderRequest where
  placedFor : String
  symbol : String
  side : OrderSide
  stopPrice : ℚ
  quantity : ℚ
  deriving DecidableEq, Inhabited

/-- A resting stop order and the id the exchange gave it. -/
structure StopOrder where
  request : OrderRequest
  orderId : Nat
  deriving DecidableEq, Inhabited

/-- A request the exchange received and whether it accepted it. -/
inductive GatewayCall where
  | createOrder (request : OrderRequest) (accepted : Bool)
  | cancelOrder (symbol : String) (orderId : Int) (accepted : Bool)
  | executeTrade (request : TradeRequest) (result : TradeResult)
  deriving DecidableEq

/-- The exchange: resting stop orders, the id of the next order, and the requests it has
    received in order. -/
structure Venue where
  resting : List StopOrder
  nextOrderId : Nat
  log : List GatewayCall

namespace Venue

/-- A request refused (or a call that leaves no order behind): only the log changes. -/
def record (v : Venue) (call : GatewayCall) : Venue :=
  { v with log := v.log ++ [call] }

/-- An accepted create: the order rests under the next id. -/
def create (v : Venue) (request : OrderRequest) : Venue :=
  { resting := v.resting ++ [⟨request, v.nextOrderId⟩], nextOrderId := v.nextOrderId + 1,
    log := v.log ++ [.createOrder request true] }

/-- An accepted cancel: the order of that symbol and id no longer rests. -/
def cancel (v : Venue) (symbol : String) (orderId : Int) : Venue :=
  { v with resting := v.resting.filter (fun o => !(o.request.symbol = symbol && (o.orderId : Int) = orderId)),
           log := v.log ++ [.cancelOrder symbol orderId true] }

end Venue

/-- The manager's registry, the memory its `*Position` pointers refer to (`nextRef` is the
    next free reference), and the exchange. -/
structure World where
  positions : String → Option Nat
  heap : Nat → Position
  nextRef : Nat
  venue : Venue

namespace World

/-- `NewStopLossManager` beside an exchange that holds no order of ours yet: nothing
    registered, nothing resting, order ids from 1. -/
def init : World := ⟨fun _ => none, fun _ => default, 0, ⟨[], 1, []⟩⟩

/-- A write through the pointer `ref`. -/
def setPos (w : World) (ref : Nat) (pos : Position) : World :=
  { w with heap := Function.update w.heap ref pos }

/-- A request the exchange received that rests no order. -/
def record (w : World) (call : GatewayCall) : World :=
  { w with venue := w.venue.record call }

/-- `&Position{...}` in a caller: a fresh pointer to `pos`. -/
def newPosition (w : World) (pos : Position) : World :=
  { w with heap := Function.update w.heap w.nextRef pos, nextRef := w.nextRef + 1 }

@[simp] theorem setPos_heap_self (w : World) (ref : Nat) (pos : Position) :
    (w.setPos ref pos).heap ref = pos := by simp [setPos]

@[simp] theorem setPos_heap_of_ne (w : World) {ref ref' : Nat} (pos : Position) (h : ref' ≠ ref) :
    (w.setPos ref pos).heap ref' = w.heap ref' := by simp [setPos, h]

/-- A write through `ref` keeps, at every pointer, whatever it keeps at `ref`. -/
theorem setPos_heap_comp {α : Type} (w : World) (ref : Nat) (pos : Position) (f : Position → α)
    (h : f pos = f (w.heap ref)) (r : Nat) : f ((w.setPos ref pos).heap r) = f (w.heap r) := by
  by_cases hr : r = ref
  · subst hr; simpa using h
  · simp [hr]

@[simp] theorem setPos_positions (w : World) (ref : Nat) (pos : Position) :
    (w.setPos ref pos).positions = w.positions := rfl

@[simp] theorem setPos_venue (w : World) (ref : Nat) (pos : Position) :
    (w.setPos ref pos).venue = w.venue := rfl

@[simp] theorem record_heap (w : World) (call : GatewayCall) : (w.record call).heap = w.heap := rfl

@[simp] theorem record_positions (w : World) (call : GatewayCall) :
    (w.record call).positions = w.positions := rfl

@[simp] theorem record_venue (w : World) (call : GatewayCall) :
    (w.record call).venue = w.venue.record call := rfl

end World

namespace StopLossManager

/-- `RegisterPosition`: seed the extremes from the entry price, mark the stop `"fixed"`, and
    store the pointer under the position's symbol (replacing any earlier entry). -/
def registerPosition (w : World) (ref : Nat) : World :=
  let pos := w.heap ref
  let pos := { pos with highestPrice := pos.entryPrice, currentPrice := pos.entryPrice,
                        stopLossType := "fixed" }
  { w.setPos ref pos with positions := Function.update w.positions pos.symbol (some ref) }

/-- `RemovePosition`: delete the symbol's entry, whichever position it holds. -/
def removePosition (w : World) (symbol : String) : World :=
  { w with positions := Function.update w.positions symbol none }

/-- The order `placeStopLossOrder` sends for `pos`: buy to close a short, sell otherwise. -/
def stopOrderRequest (pos : Position) (stopPrice : ℚ) : OrderRequest :=
  let orderSide := if pos.side = "short" then OrderSide.buy else .sell
  ⟨pos.symbol, getBinanceSymbolFor pos.symbol, orderSide, formatFixed 2 stopPrice,
    formatFixed 4 pos.quantity⟩

/-- `placeStopLossOrder`: a reduce-only stop order on the opposite side; on success the
    position records the exchange's id as `fmt.Sprintf("%d", order.OrderID)`. -/
def placeStopLossOrder (w : World) (ref : Nat) (stopPrice : ℚ) (env : Env) :
    World × Option String :=
  let pos := w.heap ref
  let request := stopOrderRequest pos stopPrice
  match env.placeError with
  | some err => (w.record (.createOrder request false), some ("下止损单失败: " ++ err))
  | none =>
    let orderId : Int := w.venue.nextOrderId
    ({ w.setPos ref { pos with stopLossOrderID := toString orderId } with
        venue := w.venue.create request }, none)

/-- `cancelStopLossOrder`: nothing without an order id; otherwise cancel the order whose id
    `parseInt64` reads back, and forget the id once the exchange accepts. -/
def cancelStopLossOrder (w : World) (ref : Nat) (env : Env) : World × Option String :=
  let pos := w.heap ref
  if pos.stopLossOrderID = "" then (w, none)
  else
    let binanceSymbol := getBinanceSymbolFor pos.symbol
    let orderId := parseInt64 pos.stopLossOrderID
    match env.cancelError with
    | some err => (w.record (.cancelOrder binanceSymbol orderId false), some ("取消止损单失败: " ++ err))
    | none =>
      ({ w.setPos ref { pos with stopLossOrderID := "" } with
          venue := w.venue.cancel binanceSymbol orderId }, none)

/-- `PlaceInitialStopLoss`: a stop order at the initial stop. -/
def placeInitialStopLoss (w : World) (ref : Nat) (env : Env) : World × Option String :=
  placeStopLossOrder w ref (w.heap ref).initialStopLoss env

/-- The direction check of `UpdateStopLoss`: a long stop may not fall, a short stop may not
    rise; equal values pass. -/
def stopMoveError (side : String) (oldStop newStopLoss : ℚ) : Option String :=
  if side = "long" ∧ newStopLoss < oldStop then some "多仓止损只能向上移动"
  else if side = "short" ∧ newStopLoss > oldStop then some "空仓止损只能向下移动"
  else none

/-- What `UpdateStopLoss` does once the direction check has passed: record the event,
    cancel the old order if there is one (a failed cancel is only logged), place the new
    order, and commit the new stop once it is placed. -/
def replaceStopLoss (w : World) (ref : Nat) (oldStop newStopLoss : ℚ) (reason : String)
    (env : Env) : World × Option String :=
  let w := w.setPos ref ((w.heap ref).addStopLossEvent oldStop newStopLoss reason "llm")
  let w := (cancelStopLossOrder w ref env).1
  match placeStopLossOrder w ref newStopLoss env with
  | (w, some err) => (w, some ("下止损单失败: " ++ err))
  | (w, none) => (w.setPos ref { w.heap ref with currentStopLoss := newStopLoss }, none)

/-- `UpdateStopLoss`: look the symbol up, check the direction against the current stop,
    then replace the stop order. -/
def updateStopLoss (w : World) (symbol : String) (newStopLoss : ℚ) (reason : String)
    (env : Env) : World × Option String :=
  match w.positions symbol with
  | none => (w, some ("持仓 " ++ symbol ++ " 不存在"))
  | some ref =>
    let pos := w.heap ref
    let oldStop := pos.currentStopLoss
    match stopMoveError pos.side oldStop newStopLoss with
    | some err => (w, some err)
    | none => replaceStopLoss w ref oldStop newStopLoss reason env

/-- The market close `executeStopLoss` sends: the whole quantity, `"触发止损"`. -/
def stopLossCloseRequest (pos : Position) : TradeRequest :=
  ⟨pos.symbol, TakeProfitManager.closeAction pos.side, pos.quantity, .stopLoss⟩

@[simp] theorem stopLossCloseRequest_updatePrice (pos : Position) (price : ℚ) :
    stopLossCloseRequest (pos.updatePrice price) = stopLossCloseRequest pos := rfl

/-- `executeStopLoss`: close the whole quantity at market; on success remove the position's
    symbol from the registry. -/
def executeStopLoss (w : World) (ref : Nat) (env : Env) : World × Option String :=
  let pos := w.heap ref
  let request := stopLossCloseRequest pos
  let result := env.trade
  let w := w.record (.executeTrade request result)
  if result.success then (removePosition w pos.symbol, none)
  else (w, some ("止损平仓失败: " ++ result.message))

/-- `UpdatePosition`: nothing for an unknown symbol; otherwise update the price and close
    the position if the stop is hit. -/
def updatePosition (w : World) (symbol : String) (currentPrice : ℚ) (env : Env) :
    World × Option String :=
  match w.positions symbol with
  | none => (w, none)
  | some ref =>
    let w := w.setPos ref ((w.heap ref).updatePrice currentPrice)
    if (w.heap ref).shouldTriggerStopLoss then executeStopLoss w ref env else (w, none)

/-- `getCurrentPrice`: the first price the exchange lists under the symbol's exchange name.
    `listPrices` is the exchange's reply to `NewListPricesService`: the error of the request,
    or the prices it lists, each as `parseFloat` reads its text. -/
def getCurrentPrice (listPrices : String → Except String (List (Except String ℚ)))
    (symbol : String) : Except String ℚ :=
  match listPrices (getBinanceSymbolFor symbol) with
  | .error err => .error ("获取价格失败: " ++ err)
  | .ok [] => .error "未获取到价格数据"
  | .ok (.error err :: _) => .error ("解析价格失败: " ++ err)
  | .ok (.ok price :: _) => .ok price

/-- The body of `MonitorPositions`'s inner loop for the position behind `ref`: fetch its
    price, skip it if that fails (the error is only logged), and otherwise run
    `UpdatePosition` on its symbol (whose error is only logged too). The exchange answers the
    calls for a symbol with `env symbol`. -/
def monitorPosition (listPrices : String → Except String (List (Except String ℚ)))
    (env : String → Env) (w : World) (ref : Nat) : World :=
  let symbol := (w.heap ref).symbol
  match getCurrentPrice listPrices symbol with
  | .error _ => w
  | .ok currentPrice => (updatePosition w symbol currentPrice (env symbol)).1

/-- One tick of `MonitorPositions`, run alone: `positions` is the snapshot of the registry's
    pointers, in the order `range` visits the map. -/
def monitorPositionsTick (listPrices : String → Except String (List (Except String ℚ)))
    (env : String → Env) (w : World) (positions : List Nat) : World :=
  positions.foldl (monitorPosition listPrices env) w

end StopLossManager

namespace World

/-- `TakeProfitManager.MonitorAndExecute` on the position behind `ref`: the ladder and the
    quantity are written through the pointer, and the partial close goes to the exchange. -/
def monitorAndExecute (w : World) (ref : Nat) (currentPrice : ℚ) (env : Env) :
    World × TakeProfitManager.MonitorResult :=
  let r := TakeProfitManager.monitorAndExecute (w.heap ref) currentPrice env
  let w := w.setPos ref r.pos
  match r.trade with
  | some (request, result) => (w.record (.executeTrade request result), r)
  | none => (w, r)

@[simp] theorem monitorAndExecute_heap_self (w : World) (ref : Nat) (currentPrice : ℚ) (env : Env) :
    (w.monitorAndExecute ref currentPrice env).1.heap ref =
      (TakeProfitManager.monitorAndExecute (w.heap ref) currentPrice env).pos := by
  simp only [monitorAndExecute]; split <;> simp

theorem monitorAndExecute_heap_of_ne (w : World) {ref r : Nat} (currentPrice : ℚ) (env : Env)
    (h : r ≠ ref) : (w.monitorAndExecute ref currentPrice env).1.heap r = w.heap r := by
  simp only [monitorAndExecute]; split <;> simp [h]

@[simp] theorem monitorAndExecute_nextRef (w : World) (ref : Nat) (currentPrice : ℚ) (env : Env) :
    (w.monitorAndExecute ref currentPrice env).1.nextRef = w.nextRef := by
  simp only [monitorAndExecute]; split <;> rfl

@[simp] theorem monitorAndExecute_positions (w : World) (ref : Nat) (currentPrice : ℚ) (env : Env) :
    (w.monitorAndExecute ref currentPrice env).1.positions = w.positions := by
  simp only [monitorAndExecute]; split <;> rfl

end World

end TradingBot
