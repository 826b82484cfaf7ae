import Mathlib.Logic.Function.Iterate
import TradingBot.Spec.Interleavings

/-!
# Serial schedules are the sequential calls

`Native/StopLoss` runs each public call of `StopLossManager` as one step; `Threads` splits
`UpdateStopLoss` and `UpdatePosition` into the statement groups other goroutines can run
between. The two models are two levels of one design, and they agree on the executions in
which no call overlaps another: a call spawned and stepped to its end before anything else
happens leaves the world as the sequential call does, and its thread finished with the
error the call returns (`Sys.run_schedule`). A whole sequence of such calls, with
registrations, removals and `MonitorAndExecute` calls between them, ends in the world the
sequential model computes, each call's thread finished with the error the sequential call
returns (`run_serial`).

So every result about runs of the sequential model is a result about the serial
executions of the goroutine model, and every schedule the sequential model describes is
one of the goroutine model's.

## Key results

- `Sys.run_schedule`: one call run alone, in the goroutine model, is the sequential call.
- `run_serial`: a serial schedule ends in the world of the sequential run, each call's thread
  finished with the error the call returns.
-/

namespace TradingBot

namespace StopLossManager

/-! ## Calls run alone -/

/-- A call of the sequential model, with the exchange's replies: the two calls the goroutine
    model splits into steps, and the three it takes whole. -/
inductive SerialCall where
  | call (c : Call) (env : Env)
  | registerPosition (pos : Position)
  | removePosition (symbol : String)
  | monitorAndExecute (ref : Nat) (currentPrice : ℚ) (env : Env)

/-- The world after a call and the error it returns, as `Native/StopLoss` computes them. -/
def SerialCall.result (w : World) : SerialCall → World × Option String
  | .call (.updateStopLoss symbol newStopLoss reason) env =>
    updateStopLoss w symbol newStopLoss reason env
  | .call (.updatePosition symbol currentPrice) env => updatePosition w symbol currentPrice env
  | .registerPosition pos => (StopLossManager.registerPosition (w.newPosition pos) w.nextRef, none)
  | .removePosition symbol => (StopLossManager.removePosition w symbol, none)
  | .monitorAndExecute ref currentPrice env =>
    ((w.monitorAndExecute ref currentPrice env).1, (w.monitorAndExecute ref currentPrice env).2.error)

/-- The world after a call. -/
def SerialCall.apply (w : World) (c : SerialCall) : World :=
  (c.result w).1

/-- The statement groups of a call's thread. -/
def Call.steps : Call → Nat
  | .updateStopLoss .. => 6
  | .updatePosition .. => 5

/-- The thread of a call once it has returned `err`. -/
def Call.finished (err : Option String) : Call → Thread
  | .updateStopLoss symbol newStopLoss reason => .updateStopLoss symbol newStopLoss reason (.done err)
  | .updatePosition symbol currentPrice => .updatePosition symbol currentPrice (.done err)

/-- The actions that run a call alone when `n` threads exist: spawn it as thread `n` and
    step it to its end, all with the same replies of the exchange. -/
def SerialCall.schedule (n : Nat) : SerialCall → List Action
  | .call c env => .spawn c :: List.replicate c.steps (.run n env)
  | .registerPosition pos => [.registerPosition pos]
  | .removePosition symbol => [.removePosition symbol]
  | .monitorAndExecute ref currentPrice env => [.monitorAndExecute ref currentPrice env]

/-- The threads a call leaves behind: its own, finished with the error it returns. -/
def SerialCall.threads (w : World) : SerialCall → List Thread
  | .call c env => [c.finished ((SerialCall.call c env).result w).2]
  | _ => []

/-- Stepping the last thread `k` times steps it `k` times and changes no other thread. -/
theorem Sys.run_replicate_last (w : World) (ts : List Thread) (t : Thread) (env : Env) (k : Nat) :
    Sys.run ⟨w, ts ++ [t]⟩ (List.replicate k (.run ts.length env)) =
      ⟨((fun p : World × Thread => p.2.step p.1 env)^[k] (w, t)).1,
        ts ++ [((fun p : World × Thread => p.2.step p.1 env)^[k] (w, t)).2]⟩ := by
  induction k generalizing w t with
  | zero => rfl
  | succ k ih =>
    rw [List.replicate_succ, Sys.run_cons, Function.iterate_succ_apply, ← ih]
    simp [Sys.step]

/-- The steps of a thread are the steps of its call's program counter. -/
theorem Thread.iterate_updateStopLoss (env : Env) (symbol : String) (newStopLoss : ℚ)
    (reason : String) (k : Nat) (w : World) (pc : UpdateStopLossPc) :
    (fun p : World × Thread => p.2.step p.1 env)^[k] (w, .updateStopLoss symbol newStopLoss reason pc) =
      (((fun p : World × UpdateStopLossPc => updateStopLossStep p.1 symbol newStopLoss reason env p.2)^[k]
          (w, pc)).1,
        .updateStopLoss symbol newStopLoss reason
          ((fun p : World × UpdateStopLossPc => updateStopLossStep p.1 symbol newStopLoss reason env p.2)^[k]
            (w, pc)).2) :=
  ((Function.Semiconj.iterate_right (f := fun p : World × UpdateStopLossPc =>
    (p.1, Thread.updateStopLoss symbol newStopLoss reason p.2)) (fun _ => rfl) k).eq (w, pc)).symm

theorem Thread.iterate_updatePosition (env : Env) (symbol : String) (currentPrice : ℚ) (k : Nat)
    (w : World) (pc : UpdatePositionPc) :
    (fun p : World × Thread => p.2.step p.1 env)^[k] (w, .updatePosition symbol currentPrice pc) =
      (((fun p : World × UpdatePositionPc => updatePositionStep p.1 symbol currentPrice env p.2)^[k]
          (w, pc)).1,
        .updatePosition symbol currentPrice
          ((fun p : World × UpdatePositionPc => updatePositionStep p.1 symbol currentPrice env p.2)^[k]
            (w, pc)).2) :=
  ((Function.Semiconj.iterate_right (f := fun p : World × UpdatePositionPc =>
    (p.1, Thread.updatePosition symbol currentPrice p.2)) (fun _ => rfl) k).eq (w, pc)).symm

/-- One call run alone in the goroutine model leaves the world as the sequential call does,
    and its thread, if it has one, finished with the error the call returns. -/
theorem Sys.run_schedule (s : Sys) (c : SerialCall) :
    s.run (c.schedule s.threads.length) = ⟨c.apply s.world, s.threads ++ c.threads s.world⟩ := by
  cases c with
  | call c env =>
    cases c with
    | updateStopLoss symbol newStopLoss reason =>
      simp only [SerialCall.schedule, Call.steps, Sys.run_cons, Sys.step, Call.start,
        Sys.run_replicate_last, Thread.iterate_updateStopLoss, updateStopLoss_solo]
      rfl
    | updatePosition symbol currentPrice =>
      simp only [SerialCall.schedule, Call.steps, Sys.run_cons, Sys.step, Call.start,
        Sys.run_replicate_last, Thread.iterate_updatePosition, updatePosition_solo]
      rfl
  | registerPosition pos | removePosition symbol | monitorAndExecute ref currentPrice env =>
    simp [SerialCall.schedule, Sys.step, SerialCall.apply, SerialCall.result, SerialCall.threads]

/-! ## Serial schedules -/

/-- The threads a call spawns. -/
def SerialCall.spawns : SerialCall → Nat
  | .call .. => 1
  | _ => 0

theorem SerialCall.threads_length (w : World) (c : SerialCall) :
    (c.threads w).length = c.spawns := by
  cases c <;> rfl

/-- The schedule that runs the calls one after another, each alone, when `n` threads exist. -/
def serialSchedule (n : Nat) : List SerialCall → List Action
  | [] => []
  | c :: cs => c.schedule n ++ serialSchedule (n + c.spawns) cs

/-- The threads a sequence of calls leaves behind, run one after another from `w`: each call's
    own, finished with the error it returns in the world the calls before it left. -/
def serialThreads (w : World) : List SerialCall → List Thread
  | [] => []
  | c :: cs => c.threads w ++ serialThreads (c.apply w) cs

/-- A sequence of calls run one after another in the goroutine model, each spawned and
    stepped to its end before the next begins, with registrations, removals and
    `MonitorAndExecute` calls between them, ends in the world the sequential model
    computes for the same calls and replies, with each call's thread finished with the error
    the sequential call returns. -/
theorem run_serial (s : Sys) (cs : List SerialCall) :
    s.run (serialSchedule s.threads.length cs) =
      ⟨cs.foldl SerialCall.apply s.world, s.threads ++ serialThreads s.world cs⟩ := by
  induction cs generalizing s with
  | nil => simp [serialSchedule, serialThreads]
  | cons c cs ih =>
    have happ : ∀ l l' : List Action, s.run (l ++ l') = (s.run l).run l' :=
      fun l l' => List.foldl_append _ _ _ _
    have hnext := ih ⟨c.apply s.world, s.threads ++ c.threads s.world⟩
    rw [List.length_append, SerialCall.threads_length] at hnext
    rw [serialSchedule, happ, Sys.run_schedule, hnext, List.foldl_cons, serialThreads,
      List.append_assoc]

/-- Registering `btcLong` (stop 90), raising its stop to 95 and then a price of 94, each call
    alone: the goroutine model ends where the sequential calls do, with the position closed
    and removed. -/
theorem run_serial_raise_then_close :
    let env : Env := ⟨none, none, ⟨true, 94, ""⟩, 0⟩
    let cs := [SerialCall.registerPosition btcLong, .call (.updateStopLoss "BTCUSDT" 95 "raise") env,
      .call (.updatePosition "BTCUSDT" 94) env]
    Sys.run ⟨World.init, []⟩ (serialSchedule 0 cs) =
        ⟨cs.foldl SerialCall.apply World.init, [] ++ serialThreads World.init cs⟩ ∧
      (cs.foldl SerialCall.apply World.init).positions "BTCUSDT" = none ∧
      serialThreads World.init cs = [.updateStopLoss "BTCUSDT" 95 "raise" (.done none),
        .updatePosition "BTCUSDT" 94 (.done none)] :=
  ⟨run_serial ⟨World.init, []⟩ _, by decide, by decide⟩

end StopLossManager

end TradingBot
