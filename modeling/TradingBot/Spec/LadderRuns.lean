import TradingBot.Spec.LadderScan
import Mathlib.Tactic.Ring

/-!
# Every run of the ladder

A ladder built by `InitializeTakeProfitLevels` on `p₀` and then driven by any sequence of
`MonitorAndExecute` calls (any prices, any `ExecuteTrade` replies) is always
`ladderState p₀ marks`: the closed-form ladder with its first `marks.length` levels
executed at the times and prices in `marks`, and the quantity their closes left
(`Reachable.exists_ladderState`). One call either changes nothing or executes the next
level (`monitorAndExecute_ladderState`), so everything about runs reduces to a statement on
`marks`.

The quantity a close sends is a fraction of the quantity *left*, not of the quantity at
initialization: after `j` executions the position holds `Q · ∏_{i<j} (1 - pᵢ)`
(`remaining`), which is `0.294 · Q`, not zero, when all three levels have executed.
-/

namespace TradingBot

namespace TakeProfitManager

/-! ## Ladder states -/

/-- `levels` with the first `marks.length` executed, level `i` at the time and price
    `marks[i]`. -/
def markPrefix (levels : List TakeProfitLevel) (marks : List (Nat × ℚ)) : List TakeProfitLevel :=
  List.zipWith (fun l m => markExecuted l m.1 m.2) (levels.take marks.length) marks ++
    levels.drop marks.length

/-- The fraction of the quantity left after the first `j` levels of `levels` executed. -/
def remaining (levels : List TakeProfitLevel) (j : Nat) : ℚ :=
  ((levels.take j).map (1 - ·.percentage)).prod

/-- The position after `InitializeTakeProfitLevels` on `p₀` and the executions in `marks`. -/
def ladderState (p₀ : Position) (marks : List (Nat × ℚ)) : Position :=
  { p₀ with quantity := p₀.quantity * remaining (ladder p₀) marks.length,
            takeProfitConfig := some ⟨true, markPrefix (ladder p₀) marks⟩ }

theorem initializeTakeProfitLevels_ladderState (p₀ : Position) :
    initializeTakeProfitLevels p₀ = ladderState p₀ [] := by
  simp [initializeTakeProfitLevels_eq, ladderState, remaining, markPrefix]

@[simp] theorem ladderState_side (p₀ : Position) (marks : List (Nat × ℚ)) :
    (ladderState p₀ marks).side = p₀.side := rfl

@[simp] theorem ladderState_symbol (p₀ : Position) (marks : List (Nat × ℚ)) :
    (ladderState p₀ marks).symbol = p₀.symbol := rfl

@[simp] theorem ladderState_currentStopLoss (p₀ : Position) (marks : List (Nat × ℚ)) :
    (ladderState p₀ marks).currentStopLoss = p₀.currentStopLoss := rfl

@[simp] theorem ladderState_entryPrice (p₀ : Position) (marks : List (Nat × ℚ)) :
    (ladderState p₀ marks).entryPrice = p₀.entryPrice := rfl

@[simp] theorem ladderState_initialStopLoss (p₀ : Position) (marks : List (Nat × ℚ)) :
    (ladderState p₀ marks).initialStopLoss = p₀.initialStopLoss := rfl

theorem markExecuted_executed (l : TakeProfitLevel) (t : Nat) (p : ℚ) :
    (markExecuted l t p).executed = true := rfl

/-- The executed part of `markPrefix`. -/
theorem markPrefix_executed (levels : List TakeProfitLevel) (marks : List (Nat × ℚ)) :
    ∀ l ∈ List.zipWith (fun l m => markExecuted l m.1 m.2) (levels.take marks.length) marks,
      l.executed = true := by
  intro l hl
  obtain ⟨i, hi, rfl⟩ := List.getElem_of_mem hl
  simp [markExecuted_executed]

/-- What `levels.drop j = level :: rest` says about `levels` around index `j`. -/
private theorem drop_eq_cons {levels : List TakeProfitLevel} {j : Nat} {level : TakeProfitLevel}
    {rest : List TakeProfitLevel} (hdrop : levels.drop j = level :: rest) :
    levels.take (j + 1) = levels.take j ++ [level] ∧ levels.drop (j + 1) = rest ∧
      j < levels.length := by
  have hlen : j < levels.length := by
    have := congrArg List.length hdrop; simp at this; omega
  have hcons := (List.drop_eq_getElem_cons hlen).symm.trans hdrop
  simp only [List.cons.injEq] at hcons
  refine ⟨?_, hcons.2, hlen⟩
  rw [List.take_succ, List.getElem?_eq_getElem hlen, hcons.1]; rfl

/-- Executing the next level appends one mark. -/
theorem markPrefix_snoc {levels : List TakeProfitLevel} {marks : List (Nat × ℚ)}
    {level : TakeProfitLevel} {rest : List TakeProfitLevel}
    (hdrop : levels.drop marks.length = level :: rest) (t : Nat) (p : ℚ) :
    markPrefix levels (marks ++ [(t, p)]) =
      List.zipWith (fun l m => markExecuted l m.1 m.2) (levels.take marks.length) marks ++
        markExecuted level t p :: rest := by
  obtain ⟨htake, hrest, hlen⟩ := drop_eq_cons hdrop
  simp only [markPrefix, List.length_append, List.length_singleton, htake, hrest]
  rw [List.zipWith_append _ _ _ _ _ (by simp; omega)]
  simp

/-- The fraction left shrinks by `1 - p` when the level of percentage `p` executes. -/
theorem remaining_succ {levels : List TakeProfitLevel} {j : Nat} {level : TakeProfitLevel}
    {rest : List TakeProfitLevel} (hdrop : levels.drop j = level :: rest) :
    remaining levels (j + 1) = remaining levels j * (1 - level.percentage) := by
  simp [remaining, (drop_eq_cons hdrop).1]

/-- After the executions of `marks`, the levels still to run are `rest`; they are all
    executed only when none is left. -/
private theorem all_executed_markPrefix {p₀ : Position} {marks : List (Nat × ℚ)}
    {level : TakeProfitLevel} {rest : List TakeProfitLevel}
    (hdrop : (ladder p₀).drop marks.length = level :: rest) (t : Nat) (p : ℚ) :
    (markPrefix (ladder p₀) (marks ++ [(t, p)])).all (·.executed) = decide (marks.length = 2) := by
  have hlen := congrArg List.length hdrop
  have hrest : ∀ l ∈ rest, l.executed = false := fun l hl =>
    ladder_executed p₀ l (List.mem_of_mem_drop (hdrop ▸ List.mem_cons_of_mem _ hl))
  rw [markPrefix_snoc hdrop]
  simp only [List.all_append, List.all_cons, markExecuted_executed, Bool.true_and,
    List.all_eq_true.mpr (fun l hl => markPrefix_executed _ _ l hl)]
  cases rest with
  | nil => simp only [List.length_drop, ladder_length, List.length_cons, List.length_nil] at hlen; simp; omega
  | cons l rest =>
    simp only [List.length_drop, ladder_length, List.length_cons] at hlen
    simp [hrest l (by simp)]; omega

/-- One `MonitorAndExecute` call on a ladder state. If a level is left and the price reaches
    the first one left, it is closed: on success the ladder gains one mark, on failure
    nothing changes and the error is returned. Otherwise nothing changes. -/
theorem monitorAndExecute_ladderState (p₀ : Position) (marks : List (Nat × ℚ))
    (currentPrice : ℚ) (env : Env) :
    monitorAndExecute (ladderState p₀ marks) currentPrice env =
      match (ladder p₀).drop marks.length with
      | [] => idle (ladderState p₀ marks) 0
      | level :: _ =>
        if targetReached p₀.side currentPrice level then
          if env.trade.success then
            ⟨1, none, ladderState p₀ (marks ++ [(env.now, env.trade.price)]),
              some (closeRequest (ladderState p₀ marks) level, env.trade), decide (marks.length = 2)⟩
          else
            ⟨0, some ("执行止盈失败: " ++ env.trade.message), ladderState p₀ marks,
              some (closeRequest (ladderState p₀ marks) level, env.trade), false⟩
        else idle (ladderState p₀ marks) 0 := by
  have hcfg : (ladderState p₀ marks).takeProfitConfig = some ⟨true, markPrefix (ladder p₀) marks⟩ :=
    rfl
  simp only [monitorAndExecute, hcfg, if_true]
  cases hdrop : (ladder p₀).drop marks.length with
  | nil =>
    refine monitorLoop_passed _ _ fun l hl => .inl ?_
    simp only [markPrefix, hdrop, List.append_nil] at hl
    exact markPrefix_executed _ _ l hl
  | cons level rest =>
    have hord := ladder_ordered p₀ marks.length
    rw [hdrop, List.pairwise_cons] at hord
    have hnext : ∀ l ∈ rest, ReachedBefore (ladderState p₀ marks).side level l := hord.1
    rw [markPrefix, hdrop, monitorLoop_prefix _ level rest (markPrefix_executed _ _)
      (ladder_executed p₀ level (List.mem_of_mem_drop (hdrop ▸ List.mem_cons_self _ _))) hnext,
      ladderState_side]
    by_cases hr : targetReached p₀.side currentPrice level
    · simp only [hr, if_true, executeLevel]
      cases hs : env.trade.success
      · rfl
      · simp only [Bool.not_true, Bool.false_eq_true, if_false, if_true, ladderState,
          ← markPrefix_snoc hdrop, List.length_append, List.length_singleton,
          remaining_succ hdrop, closeRequest]
        congr 2
        · ring
        · exact all_executed_markPrefix hdrop _ _
    · simp [hr]

/-! ## Runs -/

/-- The positions a ladder built on `p₀` reaches: `InitializeTakeProfitLevels`, then any
    sequence of `MonitorAndExecute` calls, at any prices and with any replies. -/
inductive Reachable (p₀ : Position) : Position → Prop
  | init : Reachable p₀ (initializeTakeProfitLevels p₀)
  | monitor {pos : Position} (h : Reachable p₀ pos) (currentPrice : ℚ) (env : Env) :
      Reachable p₀ (monitorAndExecute pos currentPrice env).pos

/-- A call leaves a ladder state as it is, or adds the mark of the next level. -/
theorem monitorAndExecute_ladderState_pos (p₀ : Position) (marks : List (Nat × ℚ))
    (currentPrice : ℚ) (env : Env) :
    (monitorAndExecute (ladderState p₀ marks) currentPrice env).pos = ladderState p₀ marks ∨
      (monitorAndExecute (ladderState p₀ marks) currentPrice env).pos =
        ladderState p₀ (marks ++ [(env.now, env.trade.price)]) ∧ marks.length < 3 := by
  rw [monitorAndExecute_ladderState]
  cases hdrop : (ladder p₀).drop marks.length with
  | nil => exact .inl rfl
  | cons level rest =>
    have hlt : marks.length < 3 := by
      have := congrArg List.length hdrop; simp [ladder_length] at this; omega
    dsimp only
    split
    · split
      · exact .inr ⟨rfl, hlt⟩
      · exact .inl rfl
    · exact .inl rfl

/-- Every reachable ladder is a ladder state with at most three marks. -/
theorem Reachable.exists_ladderState {p₀ pos : Position} (h : Reachable p₀ pos) :
    ∃ marks : List (Nat × ℚ), marks.length ≤ 3 ∧ pos = ladderState p₀ marks := by
  induction h with
  | init => exact ⟨[], by simp, initializeTakeProfitLevels_ladderState p₀⟩
  | monitor _ currentPrice env ih =>
    obtain ⟨marks, hle, rfl⟩ := ih
    rcases monitorAndExecute_ladderState_pos p₀ marks currentPrice env with h | ⟨h, hlt⟩
    · exact ⟨marks, hle, h⟩
    · exact ⟨_, by simp; omega, h⟩

end TakeProfitManager

end TradingBot
