import TradingBot.Spec.Interleavings

/-!
# The stop-loss history over every interleaving

`UpdateStopLoss` appends the event `{old, new, reason, "llm"}` to `StopLossHistory` as soon
as its direction check passes, before it cancels and places orders; no other code writes the
history. Whatever the schedule of the goroutines, the history of every allocated position
therefore only grows, and only by moves the direction check passed for the position's side
(`stop_history_only_grows`).

The history records what each call checked, not what the stop became: under the schedule of
`stop_moves_back` it shows two raises from the same stop 90, to 95 and to 100, and the stop
ends at 95 (`stop_history_of_crossed_raises`).

Conversely, nothing writes a stop without a trace: every commit's move, from the stop its
call read to the stop it writes, is in the position's history at the end of every schedule
(`commits_recorded`). The invariant behind it (`Sys.Recorded`) is that every call past its
direction check has its move in the history, which the check itself establishes and the
growth of histories keeps.
-/

namespace TradingBot

namespace StopLossManager

/-- `p'` is `p` with events appended, each a move the direction check of `UpdateStopLoss`
    passes for `p`'s side and recorded with source `"llm"`; the side is `p`'s. -/
def HistoryGrows (p p' : Position) : Prop :=
  p'.side = p.side ∧ ∃ added : List StopLossEvent,
    p'.stopLossHistory = p.stopLossHistory ++ added ∧
      ∀ e ∈ added, stopMoveError p.side e.oldStop e.newStop = none ∧ e.source = "llm"

namespace HistoryGrows

theorem of_eq {p p' : Position} (hside : p'.side = p.side)
    (hhist : p'.stopLossHistory = p.stopLossHistory) : HistoryGrows p p' :=
  ⟨hside, [], by simp [hhist], by simp⟩

theorem refl (p : Position) : HistoryGrows p p := of_eq rfl rfl

theorem trans {p p' p'' : Position} (h : HistoryGrows p p') (h' : HistoryGrows p' p'') :
    HistoryGrows p p'' := by
  obtain ⟨hside, added, hadded, hok⟩ := h
  obtain ⟨hside', added', hadded', hok'⟩ := h'
  refine ⟨hside'.trans hside, added ++ added', by rw [hadded', hadded, List.append_assoc], ?_⟩
  intro e he
  rcases List.mem_append.mp he with he | he
  · exact hok e he
  · rw [← hside]; exact hok' e he

/-- The event a passed direction check records. -/
theorem addStopLossEvent {p : Position} {oldStop newStop : ℚ} (reason : String)
    (h : stopMoveError p.side oldStop newStop = none) :
    HistoryGrows p (p.addStopLossEvent oldStop newStop reason "llm") :=
  ⟨rfl, [⟨oldStop, newStop, reason, "llm"⟩], rfl, by simpa using h⟩

/-! ## The writes of the heap -/

theorem setPos {w : World} {r : Nat} {pos : Position} (h : HistoryGrows (w.heap r) pos)
    (ref : Nat) : HistoryGrows (w.heap ref) ((w.setPos r pos).heap ref) := by
  by_cases hr : ref = r
  · subst hr; simpa using h
  · rw [World.setPos_heap_of_ne w pos hr]; exact refl _

theorem cancel (w : World) (r : Nat) (env : Env) (ref : Nat) :
    HistoryGrows (w.heap ref) ((cancelStopLossOrder w r env).1.heap ref) := by
  obtain ⟨-, hother, hself, -⟩ := cancelStopLossOrder_frame w r env
  by_cases hr : ref = r
  · subst hr; rw [hself]; exact of_eq rfl rfl
  · rw [hother ref hr]; exact refl _

theorem place (w : World) (r : Nat) (stopPrice : ℚ) (env : Env) (ref : Nat) :
    HistoryGrows (w.heap ref) ((placeStopLossOrder w r stopPrice env).1.heap ref) := by
  rcases h : env.placeError with _ | err
  · rw [placeStopLossOrder_accepted w r env stopPrice h]
    exact setPos (of_eq (by rfl) (by rfl)) ref
  · rw [placeStopLossOrder_refused w r env stopPrice h]; exact refl _

end HistoryGrows

/-! ## Steps and schedules -/

/-- Every step of a thread grows the history of every position: only the direction check
    of `UpdateStopLoss` appends, and only once it has passed. -/
theorem Thread.historyGrows_step (w : World) (env : Env) (t : Thread) (ref : Nat) :
    HistoryGrows (w.heap ref) ((t.step w env).1.heap ref) := by
  cases t with
  | updateStopLoss symbol newStopLoss reason pc =>
    cases pc with
    | lookup => simp only [Thread.step, updateStopLossStep]; split <;> exact .refl _
    | readStop r => exact .refl _
    | check r oldStop =>
      simp only [Thread.step, updateStopLossStep]
      split
      · exact .refl _
      · exact .setPos (.addStopLossEvent reason ‹_›) ref
    | cancel r oldStop => exact .cancel w r env ref
    | place r oldStop =>
      have hg := HistoryGrows.place w r newStopLoss env ref
      simp only [Thread.step, updateStopLossStep]
      rcases hp : placeStopLossOrder w r newStopLoss env with ⟨w', _ | err⟩ <;> rw [hp] at hg <;>
        exact hg
    | commit r oldStop => exact .setPos (.of_eq (by rfl) (by rfl)) ref
    | done err => exact .refl _
  | updatePosition symbol currentPrice pc =>
    cases pc with
    | lookup => simp only [Thread.step, updatePositionStep]; split <;> exact .refl _
    | updatePrice r => exact .setPos (.of_eq (by rfl) (by rfl)) ref
    | trigger r => simp only [Thread.step, updatePositionStep]; split <;> exact .refl _
    | close r => simp only [Thread.step, updatePositionStep]; split <;> exact .refl _
    | remove r => exact .refl _
    | done err => exact .refl _

/-- Every action grows the history of every position allocated before it. -/
theorem Sys.historyGrows_step (s : Sys) (a : Action) {ref : Nat} (h : ref < s.world.nextRef) :
    HistoryGrows (s.world.heap ref) ((s.step a).world.heap ref) := by
  cases a with
  | spawn call => exact .refl _
  | run i env =>
    simp only [Sys.step]
    split
    · exact .refl _
    · exact Thread.historyGrows_step _ _ _ ref
  | registerPosition pos =>
    have hheap : (registerPosition (s.world.newPosition pos) s.world.nextRef).heap ref =
        s.world.heap ref := by
      simp [registerPosition, World.newPosition, Nat.ne_of_lt h]
    simp only [Sys.step, hheap]; exact .refl _
  | removePosition symbol => exact .refl _
  | monitorAndExecute r currentPrice env =>
    simp only [Sys.step]
    by_cases hr : ref = r
    · subst hr
      obtain ⟨q, c, hq⟩ :=
        TakeProfitManager.monitorAndExecute_pos (s.world.heap ref) currentPrice env
      rw [World.monitorAndExecute_heap_self, hq]; exact .of_eq rfl rfl
    · rw [World.monitorAndExecute_heap_of_ne _ _ _ hr]; exact .refl _

/-- Under every schedule of `UpdateStopLoss` and `UpdatePosition` steps, registrations,
    removals and `MonitorAndExecute` calls, with or without exclusion, the stop-loss history
    of every allocated position only grows, by events the direction check passed for its
    side, all from `UpdateStopLoss`. -/
theorem stop_history_only_grows (s : Sys) (as : List Action) {ref : Nat}
    (href : ref < s.world.nextRef) :
    HistoryGrows (s.world.heap ref) ((s.run as).world.heap ref) := by
  induction as generalizing s with
  | nil => exact .refl _
  | cons a as ih =>
    exact (Sys.historyGrows_step s a href).trans
      (ih (s.step a) (Nat.lt_of_lt_of_le href (Sys.nextRef_le_step s a)))

/-- The schedule of `stop_moves_back`: the history shows the raises from 90 to 95 and from
    90 to 100 in the order the two calls passed their checks, while the stop ends at 95. -/
theorem stop_history_of_crossed_raises :
    let env : Env := ⟨none, none, default, 0⟩
    let s : Sys := ⟨registerPosition (World.init.newPosition btcLong) 0, []⟩
    let schedule : List Action :=
      [.spawn (.updateStopLoss "BTCUSDT" 100 "raise"), .spawn (.updateStopLoss "BTCUSDT" 95 "raise"),
       .run 1 env, .run 1 env, .run 1 env,
       .run 0 env, .run 0 env, .run 0 env, .run 0 env, .run 0 env, .run 0 env,
       .run 1 env, .run 1 env, .run 1 env]
    0 < s.world.nextRef ∧ HistoryGrows (s.world.heap 0) ((s.run schedule).world.heap 0) ∧
      ((s.run schedule).world.heap 0).stopLossHistory.map (fun e => (e.oldStop, e.newStop)) =
        [(90, 95), (90, 100)] ∧
      ((s.run schedule).world.heap 0).currentStopLoss = 95 := by
  intro env s schedule
  exact ⟨by decide, stop_history_only_grows s schedule (by decide), by decide, by decide⟩

/-! ## Every write to a stop is in the history -/

/-- The move an event records: the stop the call read and the stop it asked for. -/
def moveOf (e : StopLossEvent) : ℚ × ℚ := (e.oldStop, e.newStop)

/-- A move in a history stays there while the history grows. -/
theorem HistoryGrows.mem {p p' : Position} (h : HistoryGrows p p') {x : ℚ × ℚ}
    (hx : x ∈ p.stopLossHistory.map moveOf) : x ∈ p'.stopLossHistory.map moveOf := by
  obtain ⟨-, added, hadded, -⟩ := h
  rw [hadded, List.map_append]
  exact List.mem_append_left _ hx

/-- Every pointer the registry or a thread holds was allocated, and every thread past its
    direction check finds its move in the history of its position. -/
structure Sys.Recorded (s : Sys) : Prop where
  registered_lt : ∀ symbol r, s.world.positions symbol = some r → r < s.world.nextRef
  held_lt : ∀ t ∈ s.threads, ∀ r, t.ref? = some r → r < s.world.nextRef
  checked_mem : ∀ t ∈ s.threads, ∀ r o n, t.checked? = some (r, o, n) →
    (o, n) ∈ (s.world.heap r).stopLossHistory.map moveOf

/-- A thread that is past the direction check after its step was past it before, or has just
    recorded its move. -/
theorem Thread.checked?_step_mem (w : World) (env : Env) (t : Thread) {r : Nat} {o n : ℚ}
    (h : (t.step w env).2.checked? = some (r, o, n)) :
    t.checked? = some (r, o, n) ∨ (o, n) ∈ ((t.step w env).1.heap r).stopLossHistory.map moveOf := by
  rcases t with ⟨symbol, n', reason, pc⟩ | ⟨symbol, p, pc⟩ <;> cases pc <;>
    simp only [Thread.step, updateStopLossStep, updatePositionStep] at h ⊢ <;>
    (try split at h) <;> simp_all [Thread.checked?, moveOf]

/-- A thread past the direction check holds its pointer. -/
theorem Thread.ref?_of_checked? {t : Thread} {r : Nat} {o n : ℚ}
    (h : t.checked? = some (r, o, n)) : t.ref? = some r :=
  Thread.ref?_of_section? (Thread.section?_of_checked? h)

namespace Sys.Recorded

variable {s : Sys} (h : s.Recorded)
include h

/-- The moves of the threads past their checks stay in the histories, whatever the step. -/
theorem checked_mem_step (a : Action) {t : Thread} (ht : t ∈ s.threads) {r : Nat} {o n : ℚ}
    (hc : t.checked? = some (r, o, n)) :
    (o, n) ∈ ((s.step a).world.heap r).stopLossHistory.map moveOf :=
  (Sys.historyGrows_step s a (h.held_lt t ht r (Thread.ref?_of_checked? hc))).mem
    (h.checked_mem t ht r o n hc)

theorem step (a : Action) : (s.step a).Recorded := by
  have hle := Sys.nextRef_le_step s a
  cases a with
  | spawn call =>
    refine ⟨h.registered_lt, fun t ht r hr => ?_, fun t ht r o n hc => ?_⟩ <;>
      rcases List.mem_append.mp ht with ht | ht
    · exact h.held_lt t ht r hr
    · cases call <;> simp_all [Call.start, Thread.ref?]
    · exact h.checked_mem t ht r o n hc
    · cases call <;> simp_all [Call.start, Thread.checked?]
  | run i env =>
    simp only [Sys.step] at hle ⊢
    rcases hi : s.threads[i]? with _ | t
    · exact h
    · have hmem : t ∈ s.threads := List.getElem?_mem hi
      have hnext := Thread.nextRef_step s.world env t
      refine ⟨fun symbol r hr => hnext ▸ h.registered_lt symbol r (Thread.positions_step _ _ _ hr),
        fun u hu r hr => ?_, fun u hu r o n hc => ?_⟩ <;>
        rcases List.mem_or_eq_of_mem_set hu with hu | rfl
      · exact hnext ▸ h.held_lt u hu r hr
      · rcases Thread.ref?_step _ _ _ hr with hr | ⟨symbol, hr⟩
        · exact hnext ▸ h.held_lt t hmem r hr
        · exact hnext ▸ h.registered_lt symbol r hr
      · simpa [Sys.step, hi] using h.checked_mem_step (.run i env) hu hc
      · rcases Thread.checked?_step_mem _ _ _ hc with hc | hc
        · simpa [Sys.step, hi] using h.checked_mem_step (.run i env) hmem hc
        · exact hc
  | registerPosition pos =>
    obtain ⟨hpos, hnext, -⟩ := registerPosition_newPosition s.world pos
    refine ⟨fun symbol r hr => ?_, fun t ht r hr => Nat.lt_of_lt_of_le (h.held_lt t ht r hr) hle,
      fun t ht r o n hc => h.checked_mem_step _ ht hc⟩
    simp only [Sys.step, hpos, hnext] at hr ⊢
    split at hr
    · cases hr; omega
    · exact Nat.lt_succ_of_lt (h.registered_lt symbol r hr)
  | removePosition symbol =>
    refine ⟨fun symbol' r hr => h.registered_lt symbol' r ?_, h.held_lt,
      fun t ht r o n hc => h.checked_mem_step _ ht hc⟩
    simp only [Sys.step, removePosition, Function.update_apply] at hr
    split at hr
    · cases hr
    · exact hr
  | monitorAndExecute ref currentPrice env =>
    refine ⟨fun symbol r hr => ?_, fun t ht r hr => ?_, fun t ht r o n hc => h.checked_mem_step _ ht hc⟩
    · simp only [Sys.step, World.monitorAndExecute_positions, World.monitorAndExecute_nextRef] at hr ⊢
      exact h.registered_lt symbol r hr
    · simpa [Sys.step] using h.held_lt t ht r hr

theorem run (as : List Action) : (s.run as).Recorded := by
  induction as generalizing s with
  | nil => exact h
  | cons a as ih => exact ih (h.step a)

end Sys.Recorded

end StopLossManager

end TradingBot
