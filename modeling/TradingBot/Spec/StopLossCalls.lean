import TradingBot.Native.StopLoss

/-!
# What each call of the stop-loss manager does

One lemma per reply of the exchange for each helper of `StopLossManager`, so that the
statements about whole calls and runs (`StopLossUpdate`, `Mirror`, `Interleavings`) never
unfold the helpers: `placeStopLossOrder` and `cancelStopLossOrder` when the exchange
accepts or refuses, and `replaceStopLoss`, the part of `UpdateStopLoss` after the direction
check, as a whole: it always records the event and sends the create request (after a
cancel request when an order is tracked), and commits the new stop exactly when the create
is accepted.
-/

namespace TradingBot

namespace StopLossManager

section Calls

variable (w : World) (ref : Nat) (env : Env)

theorem placeStopLossOrder_refused (stopPrice : ℚ) {err : String} (h : env.placeError = some err) :
    placeStopLossOrder w ref stopPrice env =
      (w.record (.createOrder (stopOrderRequest (w.heap ref) stopPrice) false),
        some ("下止损单失败: " ++ err)) := by
  simp [placeStopLossOrder, h]

theorem placeStopLossOrder_accepted (stopPrice : ℚ) (h : env.placeError = none) :
    placeStopLossOrder w ref stopPrice env =
      ({ w.setPos ref { w.heap ref with stopLossOrderID := toString (w.venue.nextOrderId : Int) } with
          venue := w.venue.create (stopOrderRequest (w.heap ref) stopPrice) }, none) := by
  simp [placeStopLossOrder, h]

theorem cancelStopLossOrder_untracked (h : (w.heap ref).stopLossOrderID = "") :
    cancelStopLossOrder w ref env = (w, none) := by
  simp [cancelStopLossOrder, h]

theorem cancelStopLossOrder_refused {err : String} (hid : (w.heap ref).stopLossOrderID ≠ "")
    (h : env.cancelError = some err) :
    cancelStopLossOrder w ref env =
      (w.record (.cancelOrder (getBinanceSymbolFor (w.heap ref).symbol)
        (parseInt64 (w.heap ref).stopLossOrderID) false), some ("取消止损单失败: " ++ err)) := by
  simp [cancelStopLossOrder, hid, h]

theorem cancelStopLossOrder_accepted (hid : (w.heap ref).stopLossOrderID ≠ "")
    (h : env.cancelError = none) :
    cancelStopLossOrder w ref env =
      ({ w.setPos ref { w.heap ref with stopLossOrderID := "" } with
          venue := w.venue.cancel (getBinanceSymbolFor (w.heap ref).symbol)
            (parseInt64 (w.heap ref).stopLossOrderID) }, none) := by
  simp [cancelStopLossOrder, hid, h]

/-- A cancel changes at most the order id of the position it cancels for, and sends at most
    one request. -/
theorem cancelStopLossOrder_frame :
    (cancelStopLossOrder w ref env).1.positions = w.positions ∧
      (∀ r, r ≠ ref → (cancelStopLossOrder w ref env).1.heap r = w.heap r) ∧
      (cancelStopLossOrder w ref env).1.heap ref =
        { w.heap ref with stopLossOrderID := ((cancelStopLossOrder w ref env).1.heap ref).stopLossOrderID } ∧
      ∃ pre : List GatewayCall, pre.length ≤ 1 ∧
        (cancelStopLossOrder w ref env).1.venue.log = w.venue.log ++ pre := by
  by_cases hid : (w.heap ref).stopLossOrderID = ""
  · simp [cancelStopLossOrder_untracked w ref env hid]
  · rcases h : env.cancelError with _ | err
    · rw [cancelStopLossOrder_accepted w ref env hid h]
      exact ⟨rfl, fun r hr => World.setPos_heap_of_ne w _ hr, by simp, [_], le_rfl, rfl⟩
    · simp [cancelStopLossOrder_refused w ref env hid h, Venue.record]

/-- The order id a cancel leaves: empty once the exchange accepted, unchanged otherwise. -/
theorem cancelStopLossOrder_id :
    ((cancelStopLossOrder w ref env).1.heap ref).stopLossOrderID =
      if (w.heap ref).stopLossOrderID ≠ "" ∧ env.cancelError = none then ""
      else (w.heap ref).stopLossOrderID := by
  by_cases hid : (w.heap ref).stopLossOrderID = ""
  · simp [cancelStopLossOrder_untracked w ref env hid, hid]
  · rcases h : env.cancelError with _ | err
    · simp [cancelStopLossOrder_accepted w ref env hid h, hid]
    · simp [cancelStopLossOrder_refused w ref env hid h]

theorem placeStopLossOrder_nextOrderId (stopPrice : ℚ) :
    w.venue.nextOrderId ≤ (placeStopLossOrder w ref stopPrice env).1.venue.nextOrderId := by
  rcases h : env.placeError with _ | err
  · simp [placeStopLossOrder_accepted w ref env stopPrice h, Venue.create]
  · simp [placeStopLossOrder_refused w ref env stopPrice h, Venue.record]

theorem cancelStopLossOrder_nextOrderId :
    (cancelStopLossOrder w ref env).1.venue.nextOrderId = w.venue.nextOrderId := by
  by_cases hid : (w.heap ref).stopLossOrderID = ""
  · simp [cancelStopLossOrder_untracked w ref env hid]
  · rcases h : env.cancelError with _ | err
    · simp [cancelStopLossOrder_accepted w ref env hid h, Venue.cancel]
    · simp [cancelStopLossOrder_refused w ref env hid h, Venue.record]

@[simp] theorem placeStopLossOrder_nextRef (stopPrice : ℚ) :
    (placeStopLossOrder w ref stopPrice env).1.nextRef = w.nextRef := by
  rcases h : env.placeError with _ | err
  · rw [placeStopLossOrder_accepted w ref env stopPrice h]; rfl
  · rw [placeStopLossOrder_refused w ref env stopPrice h]; rfl

@[simp] theorem cancelStopLossOrder_nextRef :
    (cancelStopLossOrder w ref env).1.nextRef = w.nextRef := by
  by_cases hid : (w.heap ref).stopLossOrderID = ""
  · rw [cancelStopLossOrder_untracked w ref env hid]
  · rcases h : env.cancelError with _ | err
    · rw [cancelStopLossOrder_accepted w ref env hid h]; rfl
    · rw [cancelStopLossOrder_refused w ref env hid h]; rfl

@[simp] theorem placeStopLossOrder_positions (stopPrice : ℚ) :
    (placeStopLossOrder w ref stopPrice env).1.positions = w.positions := by
  rcases h : env.placeError with _ | err
  · rw [placeStopLossOrder_accepted w ref env stopPrice h]; rfl
  · rw [placeStopLossOrder_refused w ref env stopPrice h]; rfl

@[simp] theorem cancelStopLossOrder_positions :
    (cancelStopLossOrder w ref env).1.positions = w.positions :=
  (cancelStopLossOrder_frame w ref env).1

theorem executeStopLoss_succeeded (h : env.trade.success = true) :
    executeStopLoss w ref env =
      (removePosition (w.record (.executeTrade (stopLossCloseRequest (w.heap ref)) env.trade))
        (w.heap ref).symbol, none) := by
  simp [executeStopLoss, h, stopLossCloseRequest]

theorem executeStopLoss_failed (h : env.trade.success = false) :
    executeStopLoss w ref env =
      (w.record (.executeTrade (stopLossCloseRequest (w.heap ref)) env.trade),
        some ("止损平仓失败: " ++ env.trade.message)) := by
  simp [executeStopLoss, h, stopLossCloseRequest]

theorem updatePosition_unregistered (symbol : String) (currentPrice : ℚ)
    (h : w.positions symbol = none) : updatePosition w symbol currentPrice env = (w, none) := by
  simp [updatePosition, h]

theorem updatePosition_registered (symbol : String) (currentPrice : ℚ)
    (h : w.positions symbol = some ref) :
    updatePosition w symbol currentPrice env =
      if ((w.heap ref).updatePrice currentPrice).shouldTriggerStopLoss then
        executeStopLoss (w.setPos ref ((w.heap ref).updatePrice currentPrice)) ref env
      else (w.setPos ref ((w.heap ref).updatePrice currentPrice), none) := by
  simp [updatePosition, h]

end Calls

/-- A cancel after an accepted place sends the id the exchange gave the order: the `%d` text
    of every `int64` scans back to itself, so the cancel removes the very order the place
    created. -/
theorem orderId_round_trip :
    (∀ x : Int, -2 ^ 63 ≤ x → x < 2 ^ 63 → parseInt64 (toString x) = x) ∧
    ∀ (w : World) (ref : Nat) (stopPrice : ℚ) (env env' : Env), env.placeError = none →
      env'.cancelError = none → w.venue.nextOrderId < 2 ^ 63 →
      (cancelStopLossOrder (placeStopLossOrder w ref stopPrice env).1 ref env').1.venue =
        (w.venue.create (stopOrderRequest (w.heap ref) stopPrice)).cancel
          (getBinanceSymbolFor (w.heap ref).symbol) w.venue.nextOrderId := by
  refine ⟨parseInt64_toString_int, fun w ref stopPrice env env' hplace hcancel hlt => ?_⟩
  rw [placeStopLossOrder_accepted w ref env stopPrice hplace,
    cancelStopLossOrder_accepted _ _ _ (by simp [toString_ne_empty]) hcancel]
  simp [parseInt64_toString _ hlt]

theorem orderId_round_trip_at_extremes :
    parseInt64 (toString (-2 ^ 63 : Int)) = -2 ^ 63 ∧
      parseInt64 (toString (2 ^ 63 - 1 : Int)) = 2 ^ 63 - 1 ∧
      (cancelStopLossOrder (placeStopLossOrder World.init 0 1 default).1 0 default).1.venue =
        (World.init.venue.create (stopOrderRequest default 1)).cancel (getBinanceSymbolFor "") 1 :=
  ⟨orderId_round_trip.1 _ (by decide) (by decide), orderId_round_trip.1 _ (by decide) (by decide),
    orderId_round_trip.2 World.init 0 1 default default rfl rfl (by decide)⟩

/-- Registering a fresh position enters it under its symbol and allocates its pointer. -/
theorem registerPosition_newPosition (w : World) (pos : Position) :
    (∀ symbol, (registerPosition (w.newPosition pos) w.nextRef).positions symbol =
      if symbol = pos.symbol then some w.nextRef else w.positions symbol) ∧
    (registerPosition (w.newPosition pos) w.nextRef).nextRef = w.nextRef + 1 ∧
    (∀ r, r < w.nextRef → (registerPosition (w.newPosition pos) w.nextRef).heap r = w.heap r) := by
  refine ⟨fun symbol => ?_, rfl, fun r hr => ?_⟩
  · by_cases hs : symbol = pos.symbol <;> simp [registerPosition, World.newPosition, hs]
  · simp [registerPosition, World.newPosition, Nat.ne_of_lt hr]

/-- After the direction check, `UpdateStopLoss` records the event, sends the create request
    for the new stop after at most one cancel request, fails with the create's error twice
    wrapped, and otherwise commits the new stop. -/
theorem replaceStopLoss_spec (w : World) (ref : Nat) (oldStop newStopLoss : ℚ) (reason : String)
    (env : Env) :
    let r := replaceStopLoss w ref oldStop newStopLoss reason env
    (r.1.heap ref).stopLossHistory =
        (w.heap ref).stopLossHistory ++ [⟨oldStop, newStopLoss, reason, "llm"⟩] ∧
      (∃ pre : List GatewayCall, pre.length ≤ 1 ∧ r.1.venue.log =
        w.venue.log ++ pre ++ [.createOrder (stopOrderRequest (w.heap ref) newStopLoss)
          env.placeError.isNone]) ∧
      r.2 = env.placeError.map (fun err => "下止损单失败: " ++ ("下止损单失败: " ++ err)) ∧
      (r.2 = none → (r.1.heap ref).currentStopLoss = newStopLoss) := by
  set w₁ := w.setPos ref ((w.heap ref).addStopLossEvent oldStop newStopLoss reason "llm")
  obtain ⟨-, -, hself, pre, hpre, hlog⟩ := cancelStopLossOrder_frame w₁ ref env
  set w₂ := (cancelStopLossOrder w₁ ref env).1
  have hreq : stopOrderRequest (w₂.heap ref) newStopLoss = stopOrderRequest (w.heap ref) newStopLoss := by
    rw [hself]; simp [w₁, stopOrderRequest]
  have hhist : (w₂.heap ref).stopLossHistory =
      (w.heap ref).stopLossHistory ++ [⟨oldStop, newStopLoss, reason, "llm"⟩] := by
    rw [hself]; simp [w₁]
  have hlog' : w₂.venue.log = w.venue.log ++ pre := hlog
  have hr : replaceStopLoss w ref oldStop newStopLoss reason env =
      match placeStopLossOrder w₂ ref newStopLoss env with
      | (w, some err) => (w, some ("下止损单失败: " ++ err))
      | (w, none) => (w.setPos ref { w.heap ref with currentStopLoss := newStopLoss }, none) := rfl
  rw [hr]
  rcases h : env.placeError with _ | err
  · rw [placeStopLossOrder_accepted w₂ ref env newStopLoss h]
    refine ⟨by simpa using hhist, ⟨pre, hpre, ?_⟩, rfl, fun _ => by simp⟩
    simp [Venue.create, hlog', hreq]
  · rw [placeStopLossOrder_refused w₂ ref env newStopLoss h]
    exact ⟨hhist, ⟨pre, hpre, by simp [Venue.record, hlog', hreq]⟩, rfl, by simp⟩

end StopLossManager

end TradingBot
