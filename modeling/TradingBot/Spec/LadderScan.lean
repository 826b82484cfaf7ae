import TradingBot.Native.TakeProfit
import Mathlib.Algebra.BigOperators.Group.List
import Mathlib.Tactic.Linarith

/-!
# The scan of `MonitorAndExecute` and the shape of the ladder

Two groups of facts that the ladder invariant (`LadderRuns`) is built from.

The scan: `monitorLoop` passes over every level that is executed or not reached, and
runs `executeLevel` on the first one that is neither (`monitorLoop_append`,
`monitorLoop_passed`). When the unexecuted levels come after the executed ones and their
targets are ordered, that first level is the first unexecuted one, or there is none
(`monitorLoop_prefix`).

The ladder: `initializeTakeProfitLevels` stores `ladder pos`, the three levels in closed
form (`initializeTakeProfitLevels_eq`); their targets move away from the entry in the
position's favourable direction (`ladder_ordered`).
-/

namespace TradingBot

namespace TakeProfitManager

/-! ## The scan -/

/-- A level the scan passes over at `currentPrice`: executed, or its target not reached. -/
def Passed (side : String) (currentPrice : ℚ) (level : TakeProfitLevel) : Prop :=
  level.executed = true ∨ targetReached side currentPrice level = false

/-- The result of a call that changes nothing. -/
def idle (pos : Position) (executedCount : Nat) : MonitorResult :=
  ⟨executedCount, none, pos, none, false⟩

section Scan

variable {pos : Position} {cfg : TakeProfitConfig} {currentPrice : ℚ} {env : Env} {n : Nat}

/-- The scan passes over a block of passed levels. -/
theorem monitorLoop_append (done xs rest : List TakeProfitLevel)
    (h : ∀ l ∈ xs, Passed pos.side currentPrice l) :
    monitorLoop pos cfg currentPrice env n done (xs ++ rest) =
      monitorLoop pos cfg currentPrice env n (done ++ xs) rest := by
  induction xs generalizing done with
  | nil => simp
  | cons x xs ih =>
    have hx := h x (by simp)
    rw [List.cons_append, monitorLoop, ih _ (fun l hl => h l (by simp [hl]))]
    rcases hx with hx | hx <;> simp [hx]

/-- A scan that passes over every level changes nothing. -/
theorem monitorLoop_passed (done rest : List TakeProfitLevel)
    (h : ∀ l ∈ rest, Passed pos.side currentPrice l) :
    monitorLoop pos cfg currentPrice env n done rest = idle pos n := by
  have := @monitorLoop_append pos cfg currentPrice env n done rest [] h
  simpa [monitorLoop, idle] using this

/-- The scan reaches an unexecuted level whose target is reached, and executes it. -/
theorem monitorLoop_hit (done : List TakeProfitLevel) (level : TakeProfitLevel)
    (rest : List TakeProfitLevel) (hex : level.executed = false)
    (hr : targetReached pos.side currentPrice level = true) :
    monitorLoop pos cfg currentPrice env n done (level :: rest) =
      executeLevel pos cfg env n done level rest := by
  simp [monitorLoop, hex, hr]

/-- Level `b` is reached at every price at which `a` is: `b`'s target lies no further out. -/
def ReachedBefore (side : String) (a b : TakeProfitLevel) : Prop :=
  ∀ p : ℚ, targetReached side p b = true → targetReached side p a = true

/-- With the executed levels first and the first unexecuted one reached no later than those
    after it, the scan executes that level if its target is reached, and otherwise nothing. -/
theorem monitorLoop_prefix (pre : List TakeProfitLevel) (level : TakeProfitLevel)
    (rest : List TakeProfitLevel) (hpre : ∀ l ∈ pre, l.executed = true)
    (hlevel : level.executed = false) (hord : ∀ l ∈ rest, ReachedBefore pos.side level l) :
    monitorLoop pos cfg currentPrice env n [] (pre ++ level :: rest) =
      if targetReached pos.side currentPrice level then executeLevel pos cfg env n pre level rest
      else idle pos n := by
  rw [monitorLoop_append [] pre _ (fun l hl => .inl (hpre l hl)), List.nil_append]
  cases hr : targetReached pos.side currentPrice level
  · refine monitorLoop_passed _ _ fun l hl => .inr ?_
    simp only [List.mem_cons] at hl
    rcases hl with rfl | hl
    · exact hr
    · exact Bool.eq_false_iff.mpr fun h => by simp [hord l hl _ h] at hr
  · exact monitorLoop_hit _ _ _ hlevel hr

/-- The scan writes only the quantity and the ladder of the position. -/
theorem monitorLoop_pos (done rest : List TakeProfitLevel) :
    ∃ (quantity : ℚ) (config : Option TakeProfitConfig),
      (monitorLoop pos cfg currentPrice env n done rest).pos =
        { pos with quantity := quantity, takeProfitConfig := config } := by
  induction rest generalizing done with
  | nil => exact ⟨pos.quantity, pos.takeProfitConfig, rfl⟩
  | cons level rest ih =>
    simp only [monitorLoop]
    split
    · exact ih _
    · split
      · exact ih _
      · simp only [executeLevel]
        split
        · exact ⟨pos.quantity, pos.takeProfitConfig, rfl⟩
        · exact ⟨_, _, rfl⟩

end Scan

/-- `MonitorAndExecute` writes only the quantity and the ladder of the position. -/
theorem monitorAndExecute_pos (pos : Position) (currentPrice : ℚ) (env : Env) :
    ∃ (quantity : ℚ) (config : Option TakeProfitConfig),
      (monitorAndExecute pos currentPrice env).pos =
        { pos with quantity := quantity, takeProfitConfig := config } := by
  unfold monitorAndExecute
  split
  · split
    · exact monitorLoop_pos _ _
    · exact ⟨pos.quantity, pos.takeProfitConfig, rfl⟩
  · exact ⟨pos.quantity, pos.takeProfitConfig, rfl⟩

/-! ## The ladder `InitializeTakeProfitLevels` builds -/

/-- The target at `ratio` risk multiples from the entry, upwards for a long position, each
    operation rounded by `fl`. -/
def ladderTargetWith (fl : ℚ → ℚ) (pos : Position) (ratio : ℚ) : ℚ :=
  if pos.side = "long"
  then fl (pos.entryPrice + fl (|fl (pos.entryPrice - pos.initialStopLoss)| * ratio))
  else fl (pos.entryPrice - fl (|fl (pos.entryPrice - pos.initialStopLoss)| * ratio))

/-- The ladder in closed form, each operation rounded by `fl`: targets at 1R, 2R, 3R; each
    level moves the stop to the previous target (the entry for level 1). -/
def ladderWith (fl : ℚ → ℚ) (pos : Position) : List TakeProfitLevel :=
  [⟨1, 1, 3 / 10, ladderTargetWith fl pos 1, false, none, 0, pos.entryPrice⟩,
   ⟨2, 2, 3 / 10, ladderTargetWith fl pos 2, false, none, 0, ladderTargetWith fl pos 1⟩,
   ⟨3, 3, 2 / 5, ladderTargetWith fl pos 3, false, none, 0, ladderTargetWith fl pos 2⟩]

/-- `InitializeTakeProfitLevels` stores `ladderWith fl pos`, whatever the rounding. -/
theorem initializeTakeProfitLevelsWith_eq (fl : ℚ → ℚ) (pos : Position) :
    initializeTakeProfitLevelsWith fl pos =
      { pos with takeProfitConfig := some ⟨true, ladderWith fl pos⟩ } := by
  simp only [initializeTakeProfitLevelsWith, setTargets, setTarget, defaultLevels, ladderWith,
    ladderTargetWith]
  split <;> simp

/-- The target at `ratio` risk multiples from the entry, upwards for a long position. -/
def ladderTarget (pos : Position) (ratio : ℚ) : ℚ :=
  if pos.side = "long" then pos.entryPrice + |pos.entryPrice - pos.initialStopLoss| * ratio
  else pos.entryPrice - |pos.entryPrice - pos.initialStopLoss| * ratio

/-- The ladder in closed form, computed exactly. -/
def ladder (pos : Position) : List TakeProfitLevel :=
  [⟨1, 1, 3 / 10, ladderTarget pos 1, false, none, 0, pos.entryPrice⟩,
   ⟨2, 2, 3 / 10, ladderTarget pos 2, false, none, 0, ladderTarget pos 1⟩,
   ⟨3, 3, 2 / 5, ladderTarget pos 3, false, none, 0, ladderTarget pos 2⟩]

/-- `InitializeTakeProfitLevels` stores `ladder pos`. -/
theorem initializeTakeProfitLevels_eq (pos : Position) :
    initializeTakeProfitLevels pos = { pos with takeProfitConfig := some ⟨true, ladder pos⟩ } :=
  initializeTakeProfitLevelsWith_eq id pos

theorem ladder_executed (pos : Position) : ∀ l ∈ ladder pos, l.executed = false := by
  simp [ladder]

theorem ladder_length (pos : Position) : (ladder pos).length = 3 := rfl

/-- The targets of the ladder are ordered: a later level is reached only after the earlier
    ones. -/
theorem ladder_ordered (pos : Position) (k : Nat) :
    ((ladder pos).drop k).Pairwise (ReachedBefore pos.side) := by
  apply List.Pairwise.sublist (List.drop_sublist k _)
  have hd := abs_nonneg (pos.entryPrice - pos.initialStopLoss)
  by_cases hs : pos.side = "long" <;>
  · simp only [ladder, List.pairwise_cons, List.mem_cons, List.mem_singleton, forall_eq_or_imp,
      forall_eq, List.not_mem_nil, false_imp_iff, implies_true, and_true, List.Pairwise.nil,
      ReachedBefore, targetReached, ladderTarget, hs, if_true, if_false, decide_eq_true_eq]
    refine ⟨⟨?_, ?_⟩, ?_⟩ <;> intro p hp <;> linarith

end TakeProfitManager

end TradingBot
