import TradingBot.Spec.LadderRuns
import TradingBot.Native.Binary64
import Mathlib.Tactic.IntervalCases
import Mathlib.Tactic.NormNum
import Mathlib.Data.List.GetD

/-!
# Order, floor and failure of the ladder

The properties of whole runs that follow from `Reachable.exists_ladderState` and the step
lemma `monitorAndExecute_ladderState`.

## Key results

- `ladder_executes_in_order`: the executed levels are always a prefix `1..j`; a call marks at
  most the level `j + 1`, and its count says how many it marked; `GetMinimumStopLoss` is the
  new stop of level `j`.
- `floor_never_retreats`: a floor, once there, stays and only moves in the position's
  favourable direction, and a level executes installing a floor on the protective side of
  the price that triggered it, or at that price.
- `ladder_binary64_protective`: in `float64` the targets stay ordered and no new stop lies
  past a price that reaches its target.
- `floor_meets_price_in_binary64`: in `float64` a risk distance of half a unit in the last
  place of the entry rounds the first target to the entry, and the floor meets the price.
- `failed_close_changes_nothing`: a failed partial close returns 0 and the error, leaves the
  position as it was, and the next call at a price reaching the same level sends the same
  close again.
- `getStatus_reachable`: `GetStatus` shows `✅` on the executed levels, which come first.
- `ladder_quantity`: after `j` executions the position holds `Q · ∏_{i<j} (1 - pᵢ)`, and the
  next close sends its percentage of that; `ladder_leaves_remainder` runs it to the end.
-/

namespace TradingBot

namespace TakeProfitManager

/-! ## Shape of a ladder state -/

/-- Level numbers and executed flags of a ladder state. -/
theorem markPrefix_shape (p₀ : Position) (marks : List (Nat × ℚ)) (h : marks.length ≤ 3) :
    (markPrefix (ladder p₀) marks).map (·.level) = [1, 2, 3] ∧
      (markPrefix (ladder p₀) marks).map (·.executed) =
        List.replicate marks.length true ++ List.replicate (3 - marks.length) false := by
  rcases marks with _ | ⟨a, _ | ⟨b, _ | ⟨c, _ | ⟨d, marks⟩⟩⟩⟩ <;>
    simp_all [markPrefix, ladder, markExecuted]

/-- The floor of a ladder state: the new stop of its last executed level, if there is one. -/
theorem getMinimumStopLoss_ladderState (p₀ : Position) (marks : List (Nat × ℚ))
    (h : marks.length ≤ 3) :
    getMinimumStopLoss (ladderState p₀ marks) =
      if marks.length = 0 then (0, false)
      else (((markPrefix (ladder p₀) marks).getD (marks.length - 1) default).newStopLoss, true) := by
  rcases marks with _ | ⟨a, _ | ⟨b, _ | ⟨c, _ | ⟨d, marks⟩⟩⟩⟩ <;>
    simp_all [getMinimumStopLoss, ladderState, markPrefix, ladder, lastExecutedLevel, markExecuted]

/-- Marking the next level of a ladder state is a `set` at index `marks.length`. -/
theorem markPrefix_snoc_eq_set {p₀ : Position} {marks : List (Nat × ℚ)}
    {level : TakeProfitLevel} {rest : List TakeProfitLevel}
    (hdrop : (ladder p₀).drop marks.length = level :: rest) (t : Nat) (p : ℚ) :
    ∃ hj : marks.length < (markPrefix (ladder p₀) marks).length,
      (markPrefix (ladder p₀) marks)[marks.length] = level ∧
      markPrefix (ladder p₀) (marks ++ [(t, p)]) =
        (markPrefix (ladder p₀) marks).set marks.length (markExecuted level t p) := by
  have hlt : marks.length < 3 := by
    have := congrArg List.length hdrop; simp [ladder_length] at this; omega
  have hz : (List.zipWith (fun l m => markExecuted l m.1 m.2)
      ((ladder p₀).take marks.length) marks).length = marks.length := by
    simp [ladder_length]; omega
  have heq : markPrefix (ladder p₀) marks = List.zipWith (fun l m => markExecuted l m.1 m.2)
      ((ladder p₀).take marks.length) marks ++ level :: rest := by rw [markPrefix, hdrop]
  refine ⟨by simp [heq, hz], ?_, ?_⟩
  · simp only [heq]; rw [List.getElem_append_right (by omega)]; simp [hz]
  · rw [markPrefix_snoc hdrop, heq, List.set_append_right _ _ (by omega)]; simp [hz]

/-! ## Order -/

/-- At every state of every run the executed levels are the prefix `1..j`; a call either marks
    nothing and returns 0, or marks exactly level `j + 1` (index `j`) and returns 1; and the
    floor is the new stop of level `j`, or none when `j = 0`. -/
theorem ladder_executes_in_order {p₀ pos : Position} (h : Reachable p₀ pos) :
    ∃ (j : Nat) (levels : List TakeProfitLevel), j ≤ 3 ∧
      pos.takeProfitConfig = some ⟨true, levels⟩ ∧
      levels.map (·.level) = [1, 2, 3] ∧
      levels.map (·.executed) = List.replicate j true ++ List.replicate (3 - j) false ∧
      (∀ (currentPrice : ℚ) (env : Env), ∃ levels',
        (monitorAndExecute pos currentPrice env).pos.takeProfitConfig = some ⟨true, levels'⟩ ∧
        ((monitorAndExecute pos currentPrice env).executedLevels = 0 ∧ levels' = levels ∨
          (monitorAndExecute pos currentPrice env).executedLevels = 1 ∧
            ∃ hj : j < levels.length,
              levels' = levels.set j (markExecuted levels[j] env.now env.trade.price))) ∧
      getMinimumStopLoss pos =
        if j = 0 then (0, false) else ((levels.getD (j - 1) default).newStopLoss, true) := by
  obtain ⟨marks, hle, rfl⟩ := h.exists_ladderState
  obtain ⟨hlevel, hexec⟩ := markPrefix_shape p₀ marks hle
  refine ⟨marks.length, markPrefix (ladder p₀) marks, hle, rfl, hlevel, hexec, ?_,
    getMinimumStopLoss_ladderState p₀ marks hle⟩
  intro currentPrice env
  rw [monitorAndExecute_ladderState]
  cases hdrop : (ladder p₀).drop marks.length with
  | nil => exact ⟨_, rfl, .inl ⟨rfl, rfl⟩⟩
  | cons level rest =>
    obtain ⟨hj, hget, hset⟩ := markPrefix_snoc_eq_set hdrop env.now env.trade.price
    dsimp only
    split
    · split
      · exact ⟨_, rfl, .inr ⟨rfl, hj, by rw [hget]; exact hset⟩⟩
      · exact ⟨_, rfl, .inl ⟨rfl, rfl⟩⟩
    · exact ⟨_, rfl, .inl ⟨rfl, rfl⟩⟩

theorem ladder_executes_in_order_after_init :
    let p₀ : Position := ⟨"BTCUSDT", "long", 100, 1, 90, 90, 100, 100, "fixed", "", [], none⟩
    let pos := initializeTakeProfitLevels p₀
    Reachable p₀ pos ∧
    ∃ (j : Nat) (levels : List TakeProfitLevel), j ≤ 3 ∧
      pos.takeProfitConfig = some ⟨true, levels⟩ ∧
      levels.map (·.level) = [1, 2, 3] ∧
      levels.map (·.executed) = List.replicate j true ++ List.replicate (3 - j) false ∧
      (∀ (currentPrice : ℚ) (env : Env), ∃ levels',
        (monitorAndExecute pos currentPrice env).pos.takeProfitConfig = some ⟨true, levels'⟩ ∧
        ((monitorAndExecute pos currentPrice env).executedLevels = 0 ∧ levels' = levels ∨
          (monitorAndExecute pos currentPrice env).executedLevels = 1 ∧
            ∃ hj : j < levels.length,
              levels' = levels.set j (markExecuted levels[j] env.now env.trade.price))) ∧
      getMinimumStopLoss pos =
        if j = 0 then (0, false) else ((levels.getD (j - 1) default).newStopLoss, true) :=
  ⟨.init, ladder_executes_in_order .init⟩

/-! ## What `GetStatus` shows -/

/-- The texts `GetStatus` shows for a ladder of three levels, by the number of levels
    executed. -/
def ladderStatusTexts : List String :=
  ["L1⏳, L2⏳, L3⏳", "L1✅, L2⏳, L3⏳", "L1✅, L2✅, L3⏳", "L1✅, L2✅, L3✅"]

theorem getStatus_ladderState (p₀ : Position) {marks : List (Nat × ℚ)} (h : marks.length ≤ 3) :
    getStatus (ladderState p₀ marks) = ladderStatusTexts.getD marks.length "" := by
  match marks, h with
  | [], _ | [_], _ | [_, _], _ | [_, _, _], _ =>
    simp only [getStatus, ladderState, markPrefix, ladder, markExecuted, statusLoop, levelStatus,
      List.length, List.take, List.drop, List.zipWith, List.cons_append, List.nil_append, if_true,
      if_false]
    rfl

/-- Over every run of `MonitorAndExecute` calls on a ladder that `InitializeTakeProfitLevels`
    built, `GetStatus` shows `✅` on the first `j` levels and `⏳` on the others, where `j`
    is the number of levels the ladder holds executed, all of them first. -/
theorem getStatus_reachable {p₀ pos : Position} (h : Reachable p₀ pos) :
    ∃ j ≤ 3, getStatus pos = ladderStatusTexts.getD j "" ∧
      ∃ levels, pos.takeProfitConfig = some ⟨true, levels⟩ ∧
        levels.map (·.executed) = List.replicate j true ++ List.replicate (3 - j) false := by
  obtain ⟨marks, hle, rfl⟩ := h.exists_ladderState
  exact ⟨marks.length, hle, getStatus_ladderState p₀ hle, _, rfl, (markPrefix_shape p₀ marks hle).2⟩

/-- The first target of a long position at entry 100 with its stop at 90 is reached at 110;
    once it is closed, the ladder is reachable and `GetStatus` shows one of its texts. -/
theorem getStatus_after_first_target :
    let p₀ : Position := ⟨"BTCUSDT", "long", 100, 1, 90, 90, 100, 100, "fixed", "", [], none⟩
    let pos := (monitorAndExecute (initializeTakeProfitLevels p₀) 110
      ⟨none, none, ⟨true, 110, ""⟩, 0⟩).pos
    Reachable p₀ pos ∧ ∃ j ≤ 3, getStatus pos = ladderStatusTexts.getD j "" ∧
      ∃ levels, pos.takeProfitConfig = some ⟨true, levels⟩ ∧
        levels.map (·.executed) = List.replicate j true ++ List.replicate (3 - j) false :=
  ⟨.monitor .init _ _, getStatus_reachable (.monitor .init _ _)⟩

/-! ## The floor -/

/-- The targets move away from the entry in the position's favourable direction as the
    ratio grows. -/
theorem ladderTarget_mono (pos : Position) {r r' : ℚ} (h : r ≤ r') :
    if pos.side = "long" then ladderTarget pos r ≤ ladderTarget pos r'
    else ladderTarget pos r' ≤ ladderTarget pos r := by
  have hd := mul_le_mul_of_nonneg_left h (abs_nonneg (pos.entryPrice - pos.initialStopLoss))
  unfold ladderTarget
  split_ifs
  · exact add_le_add_left hd _
  · exact sub_le_sub_left hd _

/-- Level `k + 1` of the ladder (index `k`) has its target `k + 1` risk distances from the
    entry and moves the stop to `k` of them. -/
theorem ladder_getD (pos : Position) {k : Nat} (hk : k < 3) :
    ((ladder pos).getD k default).targetPrice = ladderTarget pos (k + 1) ∧
      ((ladder pos).getD k default).newStopLoss = ladderTarget pos k := by
  interval_cases k <;> norm_num [ladder, ladderTarget]

/-- The level at index `k` is the first of `drop k`. -/
private theorem ladder_getD_of_drop {p₀ : Position} {k : Nat} {level : TakeProfitLevel}
    {rest : List TakeProfitLevel} (hdrop : (ladder p₀).drop k = level :: rest) :
    (ladder p₀).getD k default = level := by
  rw [List.getD_eq_getElem?_getD, ← Nat.add_zero k, ← List.getElem?_drop, hdrop]; simp

/-- The new stops along the ladder: each is no worse for the position than the previous
    level's, and each lies on the protective side of, or at, the target that triggers its
    level. -/
theorem ladder_newStopLoss (p₀ : Position) {k : Nat} {level : TakeProfitLevel}
    {rest : List TakeProfitLevel} (hdrop : (ladder p₀).drop k = level :: rest) :
    (0 < k → if p₀.side = "long"
      then ((ladder p₀).getD (k - 1) default).newStopLoss ≤ level.newStopLoss
      else level.newStopLoss ≤ ((ladder p₀).getD (k - 1) default).newStopLoss) ∧
    (∀ p : ℚ, targetReached p₀.side p level = true →
      if p₀.side = "long" then level.newStopLoss ≤ p else p ≤ level.newStopLoss) := by
  have hk : k < 3 := by have := congrArg List.length hdrop; simp [ladder_length] at this; omega
  obtain ⟨htarget, hstop⟩ := ladder_getD p₀ hk
  rw [ladder_getD_of_drop hdrop] at htarget hstop
  constructor
  · intro hk0
    rw [hstop, (ladder_getD p₀ (show k - 1 < 3 by omega)).2]
    exact ladderTarget_mono p₀ (Nat.cast_le.mpr (Nat.sub_le k 1))
  · intro p hp
    have hle := ladderTarget_mono p₀ (le_add_of_nonneg_right zero_le_one : (k : ℚ) ≤ k + 1)
    rw [targetReached, htarget] at hp
    rw [hstop]
    split_ifs at hp hle ⊢
    · exact hle.trans (of_decide_eq_true hp)
    · exact (of_decide_eq_true hp).trans hle

/-- Marking levels executed keeps their new stops. -/
theorem markPrefix_map_newStopLoss (levels : List TakeProfitLevel) (marks : List (Nat × ℚ))
    (h : marks.length ≤ levels.length) :
    (markPrefix levels marks).map TakeProfitLevel.newStopLoss =
      levels.map TakeProfitLevel.newStopLoss := by
  induction marks generalizing levels with
  | nil => simp [markPrefix]
  | cons m marks ih =>
    cases levels with
    | nil => simp at h
    | cons l levels =>
      have := ih levels (by simpa using h)
      simp only [markPrefix, List.length_cons, List.take_succ_cons, List.zipWith_cons_cons,
        List.drop_succ_cons, List.cons_append, List.map_cons] at this ⊢
      rw [this]; rfl

/-- The new stops of a ladder state are those of the ladder. -/
theorem markPrefix_newStopLoss (p₀ : Position) (marks : List (Nat × ℚ)) (h : marks.length ≤ 3)
    (i : Nat) :
    ((markPrefix (ladder p₀) marks).getD i default).newStopLoss =
      ((ladder p₀).getD i default).newStopLoss := by
  rw [← List.getD_map _ default TakeProfitLevel.newStopLoss,
    markPrefix_map_newStopLoss (ladder p₀) marks h, List.getD_map]

/-- Along every run the floor, once installed, stays installed and moves only in the
    position's favourable direction (up for long, down otherwise); and the level a call
    executes installs as floor its new stop, which lies on the protective side of the price
    that triggered it or at that price. Only monotonicity of the arithmetic is used, so this
    holds under `float64` rounding too; strictly below the price it need not be
    (`floor_meets_price_in_binary64`). -/
theorem floor_never_retreats {p₀ pos : Position} (h : Reachable p₀ pos) (currentPrice : ℚ)
    (env : Env) :
    ((getMinimumStopLoss pos).2 = true →
      (getMinimumStopLoss (monitorAndExecute pos currentPrice env).pos).2 = true ∧
      if pos.side = "long"
      then (getMinimumStopLoss pos).1 ≤ (getMinimumStopLoss (monitorAndExecute pos currentPrice env).pos).1
      else (getMinimumStopLoss (monitorAndExecute pos currentPrice env).pos).1 ≤ (getMinimumStopLoss pos).1) ∧
    ((monitorAndExecute pos currentPrice env).executedLevels = 1 →
      ∃ level : TakeProfitLevel,
        (monitorAndExecute pos currentPrice env).trade = some (closeRequest pos level, env.trade) ∧
        getMinimumStopLoss (monitorAndExecute pos currentPrice env).pos = (level.newStopLoss, true) ∧
        if pos.side = "long" then level.newStopLoss ≤ currentPrice
        else currentPrice ≤ level.newStopLoss) := by
  obtain ⟨marks, hle, rfl⟩ := h.exists_ladderState
  have hbefore := getMinimumStopLoss_ladderState p₀ marks hle
  rw [markPrefix_newStopLoss p₀ marks hle] at hbefore
  rw [monitorAndExecute_ladderState]
  cases hdrop : (ladder p₀).drop marks.length with
  | nil => exact ⟨fun hf => ⟨hf, by split <;> exact le_rfl⟩, fun h1 => absurd h1 (by simp [idle])⟩
  | cons level rest =>
    obtain ⟨hmono, hprot⟩ := ladder_newStopLoss p₀ hdrop
    have hlt : marks.length < 3 := by
      have := congrArg List.length hdrop; simp [ladder_length] at this; omega
    have hafter : getMinimumStopLoss (ladderState p₀ (marks ++ [(env.now, env.trade.price)])) =
        (level.newStopLoss, true) := by
      rw [getMinimumStopLoss_ladderState _ _ (by simp; omega), markPrefix_newStopLoss _ _ (by simp; omega)]
      simp only [List.length_append, List.length_singleton, Nat.add_sub_cancel,
        ladder_getD_of_drop hdrop]
      simp
    simp only [ladderState_side]
    by_cases hr : targetReached p₀.side currentPrice level = true
    · cases hs : env.trade.success
      · simp only [hr, hs, if_true, Bool.false_eq_true, if_false]
        exact ⟨fun hf => ⟨hf, by split <;> exact le_rfl⟩, fun h1 => absurd h1 (by simp)⟩
      · simp only [hr, hs, if_true]
        refine ⟨fun hf => ⟨by rw [hafter], ?_⟩, fun _ => ⟨level, rfl, hafter, hprot _ hr⟩⟩
        have hk : 0 < marks.length := by
          by_contra h0; simp [hbefore, Nat.eq_zero_of_not_pos h0] at hf
        rw [hafter, hbefore, if_neg (show marks.length ≠ 0 by omega)]
        exact hmono hk
    · simp only [hr, Bool.false_eq_true, if_false]
      exact ⟨fun hf => ⟨hf, by split <;> exact le_rfl⟩, fun h1 => absurd h1 (by simp [idle])⟩

theorem floor_never_retreats_at_first_target :
    let p₀ : Position := ⟨"BTCUSDT", "long", 100, 1, 90, 90, 100, 100, "fixed", "", [], none⟩
    let pos := initializeTakeProfitLevels p₀
    let env : Env := ⟨none, none, ⟨true, 110, ""⟩, 0⟩
    Reachable p₀ pos ∧
    ((getMinimumStopLoss pos).2 = true →
      (getMinimumStopLoss (monitorAndExecute pos 110 env).pos).2 = true ∧
      if pos.side = "long"
      then (getMinimumStopLoss pos).1 ≤ (getMinimumStopLoss (monitorAndExecute pos 110 env).pos).1
      else (getMinimumStopLoss (monitorAndExecute pos 110 env).pos).1 ≤ (getMinimumStopLoss pos).1) ∧
    ((monitorAndExecute pos 110 env).executedLevels = 1 →
      ∃ level : TakeProfitLevel,
        (monitorAndExecute pos 110 env).trade = some (closeRequest pos level, env.trade) ∧
        getMinimumStopLoss (monitorAndExecute pos 110 env).pos = (level.newStopLoss, true) ∧
        if pos.side = "long" then level.newStopLoss ≤ 110 else 110 ≤ level.newStopLoss) :=
  ⟨.init, floor_never_retreats .init 110 _⟩

/-! ## The floor in `float64` -/

/-- A long position entered at 1 with its stop at `1 - 2⁻⁵³`, the double just below. -/
def nearStopLong : Position :=
  ⟨"BTCUSDT", "long", 1, 1, 1 - 2 ^ (-53 : ℤ), 1 - 2 ^ (-53 : ℤ), 1, 1, "fixed", "", [], none⟩

section Rounded

variable {fl : ℚ → ℚ} (hmono : Monotone fl) (pos : Position)

include hmono in
/-- Under a monotone rounding the targets still move away from the entry, in the position's
    favourable direction, as the ratio grows. -/
theorem ladderTargetWith_mono {r r' : ℚ} (h : r ≤ r') :
    if pos.side = "long" then ladderTargetWith fl pos r ≤ ladderTargetWith fl pos r'
    else ladderTargetWith fl pos r' ≤ ladderTargetWith fl pos r := by
  have hd := hmono (mul_le_mul_of_nonneg_left h (abs_nonneg (fl (pos.entryPrice - pos.initialStopLoss))))
  unfold ladderTargetWith
  split_ifs
  · exact hmono (add_le_add_left hd _)
  · exact hmono (sub_le_sub_left hd _)

include hmono in
/-- A rounding that fixes zero and the entry keeps every target on the favourable side of the
    entry, or at it. -/
theorem entry_le_ladderTargetWith (h0 : fl 0 = 0) (hE : fl pos.entryPrice = pos.entryPrice)
    {r : ℚ} (hr : 0 ≤ r) :
    if pos.side = "long" then pos.entryPrice ≤ ladderTargetWith fl pos r
    else ladderTargetWith fl pos r ≤ pos.entryPrice := by
  have hd : 0 ≤ fl (|fl (pos.entryPrice - pos.initialStopLoss)| * r) :=
    h0 ▸ hmono (mul_nonneg (abs_nonneg _) hr)
  unfold ladderTargetWith
  split_ifs
  · calc pos.entryPrice = fl pos.entryPrice := hE.symm
      _ ≤ _ := hmono (le_add_of_nonneg_right hd)
  · calc _ ≤ fl pos.entryPrice := hmono (sub_le_self _ hd)
      _ = pos.entryPrice := hE

include hmono in
/-- Under a monotone rounding the ladder's targets stay ordered. -/
theorem ladderWith_ordered : (ladderWith fl pos).Pairwise (ReachedBefore pos.side) := by
  have h12 := ladderTargetWith_mono hmono pos (show (1 : ℚ) ≤ 2 by norm_num)
  have h13 := ladderTargetWith_mono hmono pos (show (1 : ℚ) ≤ 3 by norm_num)
  have h23 := ladderTargetWith_mono hmono pos (show (2 : ℚ) ≤ 3 by norm_num)
  by_cases hs : pos.side = "long" <;>
  · simp only [ladderWith, List.pairwise_cons, List.mem_cons, List.mem_singleton, forall_eq_or_imp,
      forall_eq, List.not_mem_nil, false_imp_iff, implies_true, and_true, List.Pairwise.nil,
      ReachedBefore, targetReached, hs, if_true, if_false, decide_eq_true_eq] at h12 h13 h23 ⊢
    refine ⟨⟨?_, ?_⟩, ?_⟩ <;> intro p hp <;> linarith

include hmono in
/-- Under a monotone rounding that fixes zero and the entry, every level's new stop lies on the
    protective side of, or at, every price that reaches its target. -/
theorem ladderWith_protective (h0 : fl 0 = 0) (hE : fl pos.entryPrice = pos.entryPrice) :
    ∀ level ∈ ladderWith fl pos, ∀ p : ℚ, targetReached pos.side p level = true →
      if pos.side = "long" then level.newStopLoss ≤ p else p ≤ level.newStopLoss := by
  have h01 := entry_le_ladderTargetWith hmono pos h0 hE zero_le_one
  have h12 := ladderTargetWith_mono hmono pos (show (1 : ℚ) ≤ 2 by norm_num)
  have h23 := ladderTargetWith_mono hmono pos (show (2 : ℚ) ≤ 3 by norm_num)
  intro level hl p hp
  simp only [ladderWith, List.mem_cons, List.mem_singleton, List.not_mem_nil, or_false] at hl
  rcases hl with rfl | rfl | rfl <;> simp only [targetReached] at hp ⊢ <;>
    split_ifs at hp h01 h12 h23 ⊢ <;> linarith [of_decide_eq_true hp]

end Rounded

/-- In `float64`, for every position whose entry is a double, the ladder
    `InitializeTakeProfitLevels` builds keeps its targets ordered, and every level's new stop
    lies on the protective side of, or at, every price that reaches its target: rounding
    can bring a floor onto the price that triggers it, never past it. -/
theorem ladder_binary64_protective (pos : Position)
    (hE : roundBinary64 pos.entryPrice = pos.entryPrice) :
    ∃ levels, (initializeTakeProfitLevelsWith roundBinary64 pos).takeProfitConfig =
        some ⟨true, levels⟩ ∧
      levels.Pairwise (ReachedBefore pos.side) ∧
      ∀ level ∈ levels, ∀ p : ℚ, targetReached pos.side p level = true →
        if pos.side = "long" then level.newStopLoss ≤ p else p ≤ level.newStopLoss :=
  ⟨_, by rw [initializeTakeProfitLevelsWith_eq], ladderWith_ordered roundBinary64_mono pos,
    ladderWith_protective roundBinary64_mono pos roundBinary64_zero hE⟩

/-- The ladder of `nearStopLong` in `float64`, whose first target is its entry, still has every
    new stop at or below the prices that reach its target. -/
theorem ladder_binary64_protective_near_stop :
    roundBinary64 nearStopLong.entryPrice = nearStopLong.entryPrice ∧
    ∃ levels, (initializeTakeProfitLevelsWith roundBinary64 nearStopLong).takeProfitConfig =
        some ⟨true, levels⟩ ∧
      levels.Pairwise (ReachedBefore nearStopLong.side) ∧
      ∀ level ∈ levels, ∀ p : ℚ, targetReached nearStopLong.side p level = true →
        if nearStopLong.side = "long" then level.newStopLoss ≤ p else p ≤ level.newStopLoss :=
  have hE : roundBinary64 nearStopLong.entryPrice = nearStopLong.entryPrice := by
    simpa using roundBinary64_two_zpow (k := 0) (by norm_num)
  ⟨hE, ladder_binary64_protective nearStopLong hE⟩

/-- The first target of `nearStopLong` in `float64`: the risk distance `2⁻⁵³` is half a unit
    in the last place of 1, so `1 + 2⁻⁵³` is a tie, and it rounds to the even 1. -/
theorem ladderTargetWith_nearStopLong : ladderTargetWith roundBinary64 nearStopLong 1 = 1 := by
  have hrisk : roundBinary64 (1 - (1 - 2 ^ (-53 : ℤ))) = 2 ^ (-53 : ℤ) := by
    rw [sub_sub_cancel]; exact roundBinary64_two_zpow (by norm_num)
  have hstep : roundBinary64 (|(2 : ℚ) ^ (-53 : ℤ)| * 1) = 2 ^ (-53 : ℤ) := by
    rw [mul_one, abs_of_pos (zpow_pos two_pos _)]; exact roundBinary64_two_zpow (by norm_num)
  have hulp : ulpExponent (1 + 2 ^ (-53 : ℤ)) = 0 - 52 :=
    ulpExponent_of_binade (by norm_num) (by norm_num [abs_of_pos]) (by norm_num [abs_of_pos])
  -- the tie: `(1 + 2⁻⁵³) / 2⁻⁵² = 2⁵² + 1/2`, and `2⁵²` is even
  have htie : roundHalfEven ((1 + 2 ^ (-53 : ℤ)) / 2 ^ (0 - 52 : ℤ)) = 2 ^ 52 := by
    have hx : (1 + 2 ^ (-53 : ℤ)) / 2 ^ (0 - 52 : ℤ) = ((2 ^ 52 : ℤ) : ℚ) + 1 / 2 := by norm_num
    have hfloor : ⌊((2 ^ 52 : ℤ) : ℚ) + 1 / 2⌋ = 2 ^ 52 := by
      rw [Int.floor_int_add]; norm_num
    rw [hx]
    unfold roundHalfEven
    simp only [hfloor, add_sub_cancel_left, lt_irrefl, if_false]
    norm_num
  rw [ladderTargetWith, if_pos (show nearStopLong.side = "long" from rfl)]
  show roundBinary64 (1 + roundBinary64 (|roundBinary64 (1 - (1 - 2 ^ (-53 : ℤ)))| * 1)) = 1
  rw [hrisk, hstep, roundBinary64, hulp, htie]
  norm_num

/-- In `float64`, level 1 of `nearStopLong`, whose risk distance is positive, executes at the
    price 1, its entry, and installs the entry as floor: the floor is the price that
    triggered the level, not below it. -/
theorem floor_meets_price_in_binary64 :
    0 < |nearStopLong.entryPrice - nearStopLong.initialStopLoss| ∧
      (monitorAndExecute (initializeTakeProfitLevelsWith roundBinary64 nearStopLong) 1
        ⟨none, none, ⟨true, 1, ""⟩, 0⟩).executedLevels = 1 ∧
      getMinimumStopLoss (monitorAndExecute (initializeTakeProfitLevelsWith roundBinary64 nearStopLong)
        1 ⟨none, none, ⟨true, 1, ""⟩, 0⟩).pos = (1, true) := by
  have hside : nearStopLong.side = "long" := rfl
  have hrisk : 0 < |nearStopLong.entryPrice - nearStopLong.initialStopLoss| := by
    show 0 < |(1 : ℚ) - (1 - 2 ^ (-53 : ℤ))|
    rw [sub_sub_cancel, abs_of_pos (zpow_pos two_pos _)]
    exact zpow_pos two_pos _
  refine ⟨hrisk, ?_⟩
  -- one step of the scan: level 1 is unexecuted and reached at 1, so it executes
  rw [initializeTakeProfitLevelsWith_eq, monitorAndExecute]
  dsimp only
  rw [if_pos rfl, ladderWith, monitorLoop]
  simp only [Bool.false_eq_true, if_false, targetReached, hside, if_true]
  simp only [ladderTargetWith_nearStopLong, ge_iff_le, le_refl, decide_True, Bool.not_true,
    Bool.false_eq_true, if_false, executeLevel, true_and]
  simp only [getMinimumStopLoss, if_true, List.nil_append, List.cons_append, lastExecutedLevel,
    markExecuted, Bool.false_eq_true, if_false]
  rfl

/-! ## Failure -/

/-- A call whose partial close the executor rejects returns 0 and the error and leaves the
    position, its ladder and its quantity exactly as they were; the level it tried is the next
    unexecuted one, and every later call at a price that reaches that level sends the same
    close again. -/
theorem failed_close_changes_nothing {p₀ pos : Position} (h : Reachable p₀ pos)
    {currentPrice : ℚ} {env : Env} {request : TradeRequest} {result : TradeResult}
    (hsent : (monitorAndExecute pos currentPrice env).trade = some (request, result))
    (hfail : result.success = false) :
    (monitorAndExecute pos currentPrice env).executedLevels = 0 ∧
    (monitorAndExecute pos currentPrice env).error = some ("执行止盈失败: " ++ result.message) ∧
    (monitorAndExecute pos currentPrice env).pos = pos ∧
    ∃ level : TakeProfitLevel, level.executed = false ∧ request = closeRequest pos level ∧
      targetReached pos.side currentPrice level = true ∧
      ∀ (currentPrice' : ℚ) (env' : Env), targetReached pos.side currentPrice' level = true →
        (monitorAndExecute pos currentPrice' env').trade.map Prod.fst = some request := by
  obtain ⟨marks, -, rfl⟩ := h.exists_ladderState
  rw [monitorAndExecute_ladderState] at hsent ⊢
  simp only [ladderState_side]
  cases hdrop : (ladder p₀).drop marks.length with
  | nil => simp [hdrop, idle] at hsent
  | cons level rest =>
    have hlevel := ladder_executed p₀ level (List.mem_of_mem_drop (hdrop ▸ List.mem_cons_self _ _))
    simp only [hdrop] at hsent ⊢
    by_cases hr : targetReached p₀.side currentPrice level = true
    · cases hs : env.trade.success
      · simp only [hr, hs, if_true, Bool.false_eq_true, if_false, Option.some.injEq,
          Prod.mk.injEq] at hsent
        rw [if_pos hr, if_neg (by simp [hs])]
        obtain ⟨rfl, rfl⟩ := hsent
        refine ⟨rfl, rfl, rfl, level, hlevel, rfl, hr, fun currentPrice' env' hr' => ?_⟩
        rw [monitorAndExecute_ladderState, hdrop]
        dsimp only
        split_ifs <;> rfl
      · simp only [hr, hs, if_true, Option.some.injEq, Prod.mk.injEq] at hsent
        rw [← hsent.2, hs] at hfail
        cases hfail
    · simp [hr, idle] at hsent

theorem failed_close_changes_nothing_at_first_target :
    let p₀ : Position := ⟨"BTCUSDT", "long", 100, 1, 90, 90, 100, 100, "fixed", "", [], none⟩
    let pos := initializeTakeProfitLevels p₀
    let env : Env := ⟨none, none, ⟨false, 0, "rejected"⟩, 0⟩
    let request : TradeRequest := ⟨"BTCUSDT", .closeLong, 3 / 10, .takeProfit 1 1⟩
    Reachable p₀ pos ∧
    (monitorAndExecute pos 110 env).trade = some (request, env.trade) ∧ env.trade.success = false ∧
    (monitorAndExecute pos 110 env).executedLevels = 0 ∧
    (monitorAndExecute pos 110 env).error = some ("执行止盈失败: " ++ env.trade.message) ∧
    (monitorAndExecute pos 110 env).pos = pos ∧
    ∃ level : TakeProfitLevel, level.executed = false ∧ request = closeRequest pos level ∧
      targetReached pos.side 110 level = true ∧
      ∀ (currentPrice' : ℚ) (env' : Env), targetReached pos.side currentPrice' level = true →
        (monitorAndExecute pos currentPrice' env').trade.map Prod.fst = some request := by
  intro p₀ pos env request
  have hd : |(100 : ℚ) - 90| = 10 := by norm_num [abs_of_pos]
  have hside : ("long" : String) ≠ "short" := by decide
  have hsent : (monitorAndExecute pos 110 env).trade = some (request, env.trade) := by
    simp only [pos, initializeTakeProfitLevels_ladderState, monitorAndExecute_ladderState]
    norm_num [ladder, ladderTarget, targetReached, closeRequest, closeAction, ladderState,
      remaining, p₀, env, request, hd, hside]
  exact ⟨.init, hsent, rfl, failed_close_changes_nothing .init hsent rfl⟩

/-! ## Quantity -/

/-- At every state of every run the position holds the initial quantity times
    `∏_{i<j} (1 - pᵢ)` over its `j` executed levels, and a close sends the percentage of the
    next level times the quantity *held*, not times the initial quantity. -/
theorem ladder_quantity {p₀ pos : Position} (h : Reachable p₀ pos) :
    ∃ j ≤ 3, pos.quantity = p₀.quantity * remaining (ladder p₀) j ∧
      ∀ (currentPrice : ℚ) (env : Env) (request : TradeRequest) (result : TradeResult),
        (monitorAndExecute pos currentPrice env).trade = some (request, result) →
          request.quantity = pos.quantity * ((ladder p₀).getD j default).percentage := by
  obtain ⟨marks, hle, rfl⟩ := h.exists_ladderState
  refine ⟨marks.length, hle, rfl, fun currentPrice env request result hsent => ?_⟩
  rw [monitorAndExecute_ladderState] at hsent
  cases hdrop : (ladder p₀).drop marks.length with
  | nil => simp [hdrop, idle] at hsent
  | cons level rest =>
    simp only [hdrop] at hsent
    rw [ladder_getD_of_drop hdrop]
    split_ifs at hsent <;> simp only [idle, Option.some.injEq, Prod.mk.injEq, reduceCtorEq] at hsent <;>
      rw [← hsent.1] <;> rfl

/-- Failing input of the quantity law: quantity 1, long, entry 100, initial stop 90, every
    close filled at prices 110, 120, 130. The second close sends 0.21 (not 0.3) and the call
    that reports every level executed and the position fully closed leaves 0.294 open. -/
theorem ladder_leaves_remainder :
    let p₀ : Position := ⟨"BTCUSDT", "long", 100, 1, 90, 90, 100, 100, "fixed", "", [], none⟩
    let fill (p : ℚ) : Env := ⟨none, none, ⟨true, p, ""⟩, 0⟩
    let r₁ := monitorAndExecute (initializeTakeProfitLevels p₀) 110 (fill 110)
    let r₂ := monitorAndExecute r₁.pos 120 (fill 120)
    let r₃ := monitorAndExecute r₂.pos 130 (fill 130)
    r₂.trade.map (·.1.quantity) = some (21 / 100) ∧ r₃.allExecuted = true ∧
      r₃.pos.quantity = 147 / 500 := by
  intro p₀ fill r₁ r₂ r₃
  have hd : |(100 : ℚ) - 90| = 10 := by norm_num [abs_of_pos]
  have e₁ : r₁.pos = ladderState p₀ [(0, 110)] := by
    simp only [r₁, initializeTakeProfitLevels_ladderState, monitorAndExecute_ladderState]
    norm_num [ladder, ladderTarget, targetReached, p₀, fill, hd]
  have e₂ : r₂ = ⟨1, none, ladderState p₀ [(0, 110), (0, 120)],
      some (closeRequest (ladderState p₀ [(0, 110)]) ((ladder p₀).getD 1 default),
        (fill 120).trade), false⟩ := by
    simp only [r₂, e₁, monitorAndExecute_ladderState]
    norm_num [ladder, ladderTarget, targetReached, p₀, fill, hd]
  have e₃ : r₃ = ⟨1, none, ladderState p₀ [(0, 110), (0, 120), (0, 130)],
      some (closeRequest (ladderState p₀ [(0, 110), (0, 120)]) ((ladder p₀).getD 2 default),
        (fill 130).trade), true⟩ := by
    simp only [r₃, e₂, monitorAndExecute_ladderState]
    norm_num [ladder, ladderTarget, targetReached, p₀, fill, hd]
  rw [e₂, e₃]
  norm_num [closeRequest, ladderState, remaining, ladder, p₀]

end TakeProfitManager

end TradingBot
