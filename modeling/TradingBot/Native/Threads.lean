import TradingBot.Native.StopLoss

/-!
# The calls as goroutines

`UpdateStopLoss` and `UpdatePosition` hold `sm.mu` only for the registry lookup; the rest of
each call (reading and writing the position, the exchange requests, the removal) runs
while other goroutines run. Here each call is a thread with a program counter that names
the next statement group it executes, and one step of a thread executes that group
atomically:

- `UpdateStopLoss`: the lookup, the read of `CurrentStopLoss`, the direction check with the
  history event, the cancel, the place, the commit;
- `UpdatePosition`: the lookup, `UpdatePrice`, `ShouldTriggerStopLoss`, the market close,
  the `RemovePosition(pos.Symbol)` after it.

`RegisterPosition` and `RemovePosition` hold the lock throughout and are single steps. A
`MonitorAndExecute` call is also taken as a single step, a coarser grain than the code's:
its scan, its `ExecuteTrade` and its write-back run unlocked in Go, so two calls on one
position can both read a level unexecuted and both fill it. Every schedule of the model is a
schedule of the code, so what is shown to happen here (`stop_moves_back`,
`double_stop_close`) happens there; a law shown for every schedule of the model holds of the
code's schedules in which no step of another call falls inside a `MonitorAndExecute` call.

A step of thread `i` is given the replies of the exchange it meets, as an `Env`. A
schedule is a list of `Action`s; `Sys.run` executes it, and `Sys.commits` lists the writes
to `CurrentStopLoss` it makes, in order.
-/

namespace TradingBot

namespace StopLossManager

/-- The statement group an `UpdateStopLoss` call executes next, with what it holds: the
    pointer from the lookup and the stop it read. -/
inductive UpdateStopLossPc where
  | lookup
  | readStop (ref : Nat)
  | check (ref : Nat) (oldStop : ℚ)
  | cancel (ref : Nat) (oldStop : ℚ)
  | place (ref : Nat) (oldStop : ℚ)
  | commit (ref : Nat) (oldStop : ℚ)
  | done (err : Option String)
  deriving DecidableEq

/-- The statement group an `UpdatePosition` call executes next. -/
inductive UpdatePositionPc where
  | lookup
  | updatePrice (ref : Nat)
  | trigger (ref : Nat)
  | close (ref : Nat)
  | remove (ref : Nat)
  | done (err : Option String)
  deriving DecidableEq

/-- One step of `UpdateStopLoss(symbol, newStopLoss, reason)`. -/
def updateStopLossStep (w : World) (symbol : String) (newStopLoss : ℚ) (reason : String)
    (env : Env) : UpdateStopLossPc → World × UpdateStopLossPc
  | .lookup =>
    match w.positions symbol with
    | none => (w, .done (some ("持仓 " ++ symbol ++ " 不存在")))
    | some ref => (w, .readStop ref)
  | .readStop ref => (w, .check ref (w.heap ref).currentStopLoss)
  | .check ref oldStop =>
    match stopMoveError (w.heap ref).side oldStop newStopLoss with
    | some err => (w, .done (some err))
    | none =>
      (w.setPos ref ((w.heap ref).addStopLossEvent oldStop newStopLoss reason "llm"),
        .cancel ref oldStop)
  | .cancel ref oldStop => ((cancelStopLossOrder w ref env).1, .place ref oldStop)
  | .place ref oldStop =>
    match placeStopLossOrder w ref newStopLoss env with
    | (w, some err) => (w, .done (some ("下止损单失败: " ++ err)))
    | (w, none) => (w, .commit ref oldStop)
  | .commit ref _ => (w.setPos ref { w.heap ref with currentStopLoss := newStopLoss }, .done none)
  | .done err => (w, .done err)

/-- One step of `UpdatePosition(symbol, currentPrice)`; the close and the removal are the
    two halves of `executeStopLoss`. -/
def updatePositionStep (w : World) (symbol : String) (currentPrice : ℚ) (env : Env) :
    UpdatePositionPc → World × UpdatePositionPc
  | .lookup =>
    match w.positions symbol with
    | none => (w, .done none)
    | some ref => (w, .updatePrice ref)
  | .updatePrice ref => (w.setPos ref ((w.heap ref).updatePrice currentPrice), .trigger ref)
  | .trigger ref => if (w.heap ref).shouldTriggerStopLoss then (w, .close ref) else (w, .done none)
  | .close ref =>
    let w' := w.record (.executeTrade (stopLossCloseRequest (w.heap ref)) env.trade)
    if env.trade.success then (w', .remove ref)
    else (w', .done (some ("止损平仓失败: " ++ env.trade.message)))
  | .remove ref => (removePosition w (w.heap ref).symbol, .done none)
  | .done err => (w, .done err)

/-- A call in flight: its arguments and where it is. -/
inductive Thread where
  | updateStopLoss (symbol : String) (newStopLoss : ℚ) (reason : String) (pc : UpdateStopLossPc)
  | updatePosition (symbol : String) (currentPrice : ℚ) (pc : UpdatePositionPc)
  deriving DecidableEq

/-- A call a goroutine starts, with its arguments. -/
inductive Call where
  | updateStopLoss (symbol : String) (newStopLoss : ℚ) (reason : String)
  | updatePosition (symbol : String) (currentPrice : ℚ)

/-- The thread of a call that has not run yet. -/
def Call.start : Call → Thread
  | .updateStopLoss symbol newStopLoss reason => .updateStopLoss symbol newStopLoss reason .lookup
  | .updatePosition symbol currentPrice => .updatePosition symbol currentPrice .lookup

/-- The commit a thread is about to make: the pointer, the stop its call read, and the
    value it writes. -/
def Thread.commit? : Thread → Option (Nat × ℚ × ℚ)
  | .updateStopLoss _ newStopLoss _ (.commit ref oldStop) => some (ref, oldStop, newStopLoss)
  | _ => none

/-- One step of a thread. -/
def Thread.step (w : World) (env : Env) : Thread → World × Thread
  | .updateStopLoss symbol newStopLoss reason pc =>
    let r := updateStopLossStep w symbol newStopLoss reason env pc
    (r.1, .updateStopLoss symbol newStopLoss reason r.2)
  | .updatePosition symbol currentPrice pc =>
    let r := updatePositionStep w symbol currentPrice env pc
    (r.1, .updatePosition symbol currentPrice r.2)

/-- What happens next: a goroutine starts a call, a thread executes its next step with the
    exchange's replies, or a call that holds the lock (or runs as one step) executes whole. -/
inductive Action where
  | spawn (call : Call)
  | run (i : Nat) (env : Env)
  | registerPosition (pos : Position)
  | removePosition (symbol : String)
  | monitorAndExecute (ref : Nat) (currentPrice : ℚ) (env : Env)

/-- The shared memory and the exchange, and the calls in flight. -/
structure Sys where
  world : World
  threads : List Thread

namespace Sys

/-- One action. A thread that does not exist does nothing. -/
def step (s : Sys) : Action → Sys
  | .spawn call => { s with threads := s.threads ++ [call.start] }
  | .run i env =>
    match s.threads[i]? with
    | none => s
    | some t =>
      let r := t.step s.world env
      ⟨r.1, s.threads.set i r.2⟩
  | .registerPosition pos =>
    { s with world := StopLossManager.registerPosition (s.world.newPosition pos) s.world.nextRef }
  | .removePosition symbol => { s with world := StopLossManager.removePosition s.world symbol }
  | .monitorAndExecute ref currentPrice env =>
    { s with world := (s.world.monitorAndExecute ref currentPrice env).1 }

/-- A schedule, executed. -/
def run (s : Sys) (as : List Action) : Sys :=
  as.foldl step s

/-- The write an action makes to a `CurrentStopLoss`: the commit of an `UpdateStopLoss`
    call, as the pointer, the stop the call read, and the value written. -/
def commitOf (s : Sys) : Action → Option (Nat × ℚ × ℚ)
  | .run i _ => s.threads[i]?.bind Thread.commit?
  | _ => none

/-- The writes to `CurrentStopLoss` a schedule makes, in order. -/
def commits (s : Sys) : List Action → List (Nat × ℚ × ℚ)
  | [] => []
  | a :: as => (s.commitOf a).toList ++ commits (s.step a) as

@[simp] theorem run_nil (s : Sys) : s.run [] = s := rfl

@[simp] theorem run_cons (s : Sys) (a : Action) (as : List Action) :
    s.run (a :: as) = (s.step a).run as := rfl

end Sys

end StopLossManager

end TradingBot
