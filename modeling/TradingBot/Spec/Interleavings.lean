import TradingBot.Native.Threads
import TradingBot.Spec.StopLossUpdate

/-!
# Interleavings of the stop-loss calls

The threads of `Threads` against the calls of `StopLossManager` run one at a time.

A thread run alone from its first step does exactly what the call does
(`updateStopLoss_solo`, `updatePosition_solo`): the sequential model is the special case of
the interleaving model in which no call overlaps another.

When calls overlap, the code's guarantees are per call. Each commit writes a stop that
passed the direction check against the stop its own call read (`Sys.Sound.commit_passes`), but
two `UpdateStopLoss` calls that read the same stop can commit in the order that moves it
back (`stop_moves_back`). Where the read-to-commit sections of the calls on a position do
not overlap, which is the exclusion the code does not take, the stop is monotone
(`stop_writes_monotone_under_exclusion`). What the interleavings do to the registry and to
the closes is in `Exits`.

## Key results

- `updateStopLoss_solo`, `updatePosition_solo`: a thread run alone is the call.
- `stop_writes_monotone_under_exclusion`: the writes to a position's stop are monotone when no
  two read-to-commit sections on it overlap.
- `stop_moves_back`: two overlapping calls move a long stop from 100 back to 95.
-/

namespace TradingBot

namespace StopLossManager

/-! ## A thread alone is the call -/

/-- Six steps of a fresh `UpdateStopLoss` thread, alone, end it where the call ends. -/
theorem updateStopLoss_solo (w : World) (symbol : String) (newStopLoss : ℚ) (reason : String)
    (env : Env) :
    (fun p : World × UpdateStopLossPc => updateStopLossStep p.1 symbol newStopLoss reason env p.2)^[6]
        (w, .lookup) =
      ((updateStopLoss w symbol newStopLoss reason env).1,
        .done (updateStopLoss w symbol newStopLoss reason env).2) := by
  rcases hreg : w.positions symbol with _ | ref
  · simp [updateStopLossStep, updateStopLoss, hreg]
  · rcases hdir : stopMoveError (w.heap ref).side (w.heap ref).currentStopLoss newStopLoss with
      _ | err
    · simp only [Function.iterate_succ, Function.comp, Function.iterate_zero, id, updateStopLossStep,
        hreg, hdir, updateStopLoss_accepted w symbol newStopLoss reason env hreg hdir, replaceStopLoss]
      rcases placeStopLossOrder (cancelStopLossOrder (w.setPos ref ((w.heap ref).addStopLossEvent
        (w.heap ref).currentStopLoss newStopLoss reason "llm")) ref env).1 ref newStopLoss env with
        ⟨w', _ | err⟩ <;> rfl
    · simp [updateStopLossStep, updateStopLoss, hreg, hdir]

/-- Five steps of a fresh `UpdatePosition` thread, alone, end it where the call ends. -/
theorem updatePosition_solo (w : World) (symbol : String) (currentPrice : ℚ) (env : Env) :
    (fun p : World × UpdatePositionPc => updatePositionStep p.1 symbol currentPrice env p.2)^[5]
        (w, .lookup) =
      ((updatePosition w symbol currentPrice env).1,
        .done (updatePosition w symbol currentPrice env).2) := by
  rcases hreg : w.positions symbol with _ | ref
  · simp [updatePositionStep, updatePosition, hreg]
  · rw [updatePosition_registered w ref env symbol currentPrice hreg]
    by_cases ht : ((w.heap ref).updatePrice currentPrice).shouldTriggerStopLoss = true
    · rw [if_pos ht]
      cases hs : env.trade.success
      · simp [executeStopLoss_failed _ ref env hs, updatePositionStep, hreg, ht, hs]
      · simp [executeStopLoss_succeeded _ ref env hs, updatePositionStep, hreg, ht, hs]
    · simp [updatePositionStep, hreg, ht]

/-! ## What a step changes of a position's stop -/

/-- The side and the stop of the position behind `ref`: what the direction check reads and
    the commit writes. -/
def stopOf (w : World) (ref : Nat) : String × ℚ :=
  ((w.heap ref).side, (w.heap ref).currentStopLoss)

section StopOf

variable (w : World) (r ref : Nat) (env : Env)

theorem stopOf_setPos (pos : Position) (hside : pos.side = (w.heap r).side)
    (hstop : pos.currentStopLoss = (w.heap r).currentStopLoss) :
    stopOf (w.setPos r pos) ref = stopOf w ref :=
  World.setPos_heap_comp w r pos (fun p => (p.side, p.currentStopLoss)) (Prod.ext hside hstop) ref

theorem stopOf_cancel : stopOf (cancelStopLossOrder w r env).1 ref = stopOf w ref := by
  obtain ⟨-, hother, hself, -⟩ := cancelStopLossOrder_frame w r env
  by_cases hr : ref = r
  · subst hr; rw [stopOf, hself]; rfl
  · rw [stopOf, hother ref hr]; rfl

theorem stopOf_place (stopPrice : ℚ) :
    stopOf (placeStopLossOrder w r stopPrice env).1 ref = stopOf w ref := by
  rcases h : env.placeError with _ | err
  · rw [placeStopLossOrder_accepted w r env stopPrice h]
    exact stopOf_setPos w r ref _ rfl rfl
  · rw [placeStopLossOrder_refused w r env stopPrice h]; rfl

theorem stopOf_commit (newStopLoss : ℚ) :
    stopOf (w.setPos r { w.heap r with currentStopLoss := newStopLoss }) ref =
      if ref = r then ((w.heap ref).side, newStopLoss) else stopOf w ref := by
  by_cases hr : ref = r
  · subst hr; simp [stopOf]
  · simp [stopOf, hr]

theorem stopOf_register (pos : Position) (h : ref < w.nextRef) :
    stopOf (registerPosition (w.newPosition pos) w.nextRef) ref = stopOf w ref := by
  simp [stopOf, registerPosition, World.newPosition, Nat.ne_of_lt h]

theorem stopOf_monitorAndExecute (currentPrice : ℚ) :
    stopOf (w.monitorAndExecute r currentPrice env).1 ref = stopOf w ref := by
  by_cases hr : ref = r
  · subst hr
    obtain ⟨q, c, h⟩ := TakeProfitManager.monitorAndExecute_pos (w.heap ref) currentPrice env
    simp [stopOf, h]
  · rw [stopOf, World.monitorAndExecute_heap_of_ne w currentPrice env hr]; rfl

end StopOf

/-- The side and stop of `ref` after a step that makes the commit `c`, if any: the committed
    stop when `c` writes through `ref`, the old ones otherwise. -/
def stopAfter (w : World) (ref : Nat) : Option (Nat × ℚ × ℚ) → String × ℚ
  | some (r, _, newStopLoss) => if ref = r then ((w.heap ref).side, newStopLoss) else stopOf w ref
  | none => stopOf w ref

/-- No commit changes a side. -/
theorem stopAfter_side (w : World) (ref : Nat) (c : Option (Nat × ℚ × ℚ)) :
    (stopAfter w ref c).1 = (w.heap ref).side := by
  rcases c with _ | ⟨r, o, n⟩
  · rfl
  · simp only [stopAfter]; split <;> rfl

/-- A thread's step leaves the side and stop of every position as they are, except the
    commit, which writes the stop of its own position. -/
theorem Thread.stopOf_step (w : World) (env : Env) (t : Thread) (ref : Nat) :
    stopOf (t.step w env).1 ref = stopAfter w ref t.commit? := by
  cases t with
  | updateStopLoss symbol newStopLoss reason pc =>
    cases pc with
    | lookup => simp only [Thread.step, updateStopLossStep, Thread.commit?]; split <;> rfl
    | readStop r => rfl
    | check r oldStop =>
      simp only [Thread.step, updateStopLossStep, Thread.commit?]
      split
      · rfl
      · exact stopOf_setPos w r ref _ rfl rfl
    | cancel r oldStop => exact stopOf_cancel w r ref env
    | place r oldStop =>
      simp only [Thread.step, updateStopLossStep, Thread.commit?]
      have := stopOf_place w r ref env newStopLoss
      split <;> simp_all [stopAfter]
    | commit r oldStop => exact stopOf_commit w r ref newStopLoss
    | done err => rfl
  | updatePosition symbol currentPrice pc =>
    cases pc with
    | lookup => simp only [Thread.step, updatePositionStep, Thread.commit?]; split <;> rfl
    | updatePrice r => exact stopOf_setPos w r ref _ rfl rfl
    | trigger r => simp only [Thread.step, updatePositionStep, Thread.commit?]; split <;> rfl
    | close r => simp only [Thread.step, updatePositionStep, Thread.commit?]; split <;> rfl
    | remove r => rfl
    | done err => rfl

/-- The pointer a thread holds. -/
def Thread.ref? : Thread → Option Nat
  | .updateStopLoss _ _ _ (.readStop r) | .updateStopLoss _ _ _ (.check r _)
  | .updateStopLoss _ _ _ (.cancel r _) | .updateStopLoss _ _ _ (.place r _)
  | .updateStopLoss _ _ _ (.commit r _) => some r
  | .updatePosition _ _ (.updatePrice r) | .updatePosition _ _ (.trigger r)
  | .updatePosition _ _ (.close r) | .updatePosition _ _ (.remove r) => some r
  | _ => none

/-- The pointer and the stop an `UpdateStopLoss` thread read, from that read to its commit. -/
def Thread.section? : Thread → Option (Nat × ℚ)
  | .updateStopLoss _ _ _ (.check r o) | .updateStopLoss _ _ _ (.cancel r o)
  | .updateStopLoss _ _ _ (.place r o) | .updateStopLoss _ _ _ (.commit r o) => some (r, o)
  | _ => none

/-- Past the direction check: the pointer, the stop read and the new stop. -/
def Thread.checked? : Thread → Option (Nat × ℚ × ℚ)
  | .updateStopLoss _ n _ (.cancel r o) | .updateStopLoss _ n _ (.place r o)
  | .updateStopLoss _ n _ (.commit r o) => some (r, o, n)
  | _ => none

/-- A thread in its read-to-commit section holds the pointer it read. -/
theorem Thread.ref?_of_section? {t : Thread} {r : Nat} {o : ℚ} (h : t.section? = some (r, o)) :
    t.ref? = some r := by
  rcases t with ⟨_, _, _, _ | _ | _ | _ | _ | _ | _⟩ | ⟨_, _, _ | _ | _ | _ | _ | _⟩ <;>
    simp_all [Thread.section?, Thread.ref?]

/-- A thread past the direction check is in its read-to-commit section. -/
theorem Thread.section?_of_checked? {t : Thread} {r : Nat} {o n : ℚ}
    (h : t.checked? = some (r, o, n)) : t.section? = some (r, o) := by
  rcases t with ⟨_, _, _, _ | _ | _ | _ | _ | _ | _⟩ | ⟨_, _, _ | _ | _ | _ | _ | _⟩ <;>
    simp_all [Thread.checked?, Thread.section?]

/-- A committing thread is past the direction check. -/
theorem Thread.checked?_of_commit {t : Thread} {r : Nat} {o n : ℚ}
    (h : t.commit? = some (r, o, n)) : t.checked? = some (r, o, n) := by
  rcases t with ⟨_, _, _, _ | _ | _ | _ | _ | _ | _⟩ | ⟨_, _, _ | _ | _ | _ | _ | _⟩ <;>
    simp_all [Thread.commit?, Thread.checked?]

/-- What holds of a thread where each read-to-commit section runs alone: the pointer it
    holds was allocated, the stop it read is still the position's stop, and past the check
    the new stop passed it. -/
structure ThreadOk (w : World) (t : Thread) : Prop where
  held_lt : ∀ r, t.ref? = some r → r < w.nextRef
  read_current : ∀ r o, t.section? = some (r, o) → o = (w.heap r).currentStopLoss
  checked : ∀ r o n, t.checked? = some (r, o, n) → stopMoveError (w.heap r).side o n = none

/-- Every registered pointer was allocated, and every thread is `ThreadOk`. -/
structure Sys.Sound (s : Sys) : Prop where
  registered_lt : ∀ symbol r, s.world.positions symbol = some r → r < s.world.nextRef
  threads_ok : ∀ (i : Nat) (t : Thread), s.threads[i]? = some t → ThreadOk s.world t

/-- The position a thread is in the read-to-commit section of. -/
def Thread.sectionRef? (t : Thread) : Option Nat :=
  t.section?.map Prod.fst

/-- No two calls are between their read and their commit on the same position. -/
def Sys.Exclusive (s : Sys) : Prop :=
  ∀ i < s.threads.length, ∀ j < s.threads.length, i ≠ j →
    (s.threads[i]?.bind Thread.sectionRef?).isNone ∨
      s.threads[i]?.bind Thread.sectionRef? ≠ s.threads[j]?.bind Thread.sectionRef?

instance (s : Sys) : Decidable s.Exclusive :=
  inferInstanceAs (Decidable (∀ i < s.threads.length, ∀ j < s.threads.length, i ≠ j → _))

/-- Two threads in sections on one position are the same thread. -/
theorem Sys.Exclusive.eq {s : Sys} (hex : s.Exclusive) {i j : Nat} {ti tj : Thread} {r : Nat}
    {oi oj : ℚ} (hi : s.threads[i]? = some ti) (hj : s.threads[j]? = some tj)
    (hsi : ti.section? = some (r, oi)) (hsj : tj.section? = some (r, oj)) : i = j := by
  by_contra hij
  rcases hex i (List.getElem?_eq_some_iff.mp hi).1 j (List.getElem?_eq_some_iff.mp hj).1 hij with
    h | h <;> simp_all [Thread.sectionRef?]

/-- A thread stays `ThreadOk` across a change of the world that allocates nothing away,
    keeps the sides, and keeps the stop of the position it read. -/
theorem ThreadOk.frame {w w' : World} {t : Thread} (h : ThreadOk w t)
    (hnext : w.nextRef ≤ w'.nextRef) (hside : ∀ r, r < w.nextRef → (w'.heap r).side = (w.heap r).side)
    (hstop : ∀ r o, t.section? = some (r, o) →
      (w'.heap r).currentStopLoss = (w.heap r).currentStopLoss) : ThreadOk w' t := by
  refine ⟨fun r hr => (h.held_lt r hr).trans_le hnext, fun r o hs => ?_, fun r o n hc => ?_⟩
  · rw [hstop r o hs]; exact h.read_current r o hs
  · have hr := Thread.ref?_of_section? (Thread.section?_of_checked? hc)
    rw [hside r (h.held_lt r hr)]; exact h.checked r o n hc

theorem Thread.nextRef_step (w : World) (env : Env) (t : Thread) :
    (t.step w env).1.nextRef = w.nextRef := by
  rcases t with ⟨symbol, n, reason, pc⟩ | ⟨symbol, p, pc⟩
  · cases pc
    case place r o =>
      have h := placeStopLossOrder_nextRef w r env n
      simp only [Thread.step, updateStopLossStep]
      split <;> simp_all
    all_goals
      simp only [Thread.step, updateStopLossStep]
      try split
      all_goals simp [World.setPos]
  · cases pc <;> simp only [Thread.step, updatePositionStep] <;> (try split) <;>
      simp [World.setPos, World.record, removePosition]

/-- The symbol whose registry entry a thread's next step deletes: an `UpdatePosition` call at
    its removal deletes the entry of its position's symbol, whichever pointer it holds. -/
def Thread.removes? (w : World) : Thread → Option String
  | .updatePosition _ _ (.remove ref) => some (w.heap ref).symbol
  | _ => none

/-- A thread's step changes the registry only by its removal. -/
theorem Thread.step_positions (w : World) (env : Env) (t : Thread) :
    (t.step w env).1.positions =
      match t.removes? w with
      | some symbol => Function.update w.positions symbol none
      | none => w.positions := by
  rcases t with ⟨symbol, n, reason, pc⟩ | ⟨symbol, p, pc⟩
  · cases pc
    case place ref o =>
      have hp := placeStopLossOrder_positions w ref env n
      simp only [Thread.step, updateStopLossStep, Thread.removes?]
      split <;> simp_all
    all_goals
      simp only [Thread.step, updateStopLossStep, Thread.removes?]
      try split
      all_goals simp
  · cases pc <;> simp only [Thread.step, updatePositionStep, Thread.removes?] <;>
      (try split) <;> simp [removePosition]

/-- A thread's step registers nothing: it can only remove entries. -/
theorem Thread.positions_step (w : World) (env : Env) (t : Thread) {symbol : String} {r : Nat}
    (h : (t.step w env).1.positions symbol = some r) : w.positions symbol = some r := by
  rw [Thread.step_positions] at h
  split at h
  · rename_i symbol' _
    by_cases hs : symbol = symbol' <;> simp_all
  · exact h

/-- A pointer a thread holds after its step it held before, or got from the registry. -/
theorem Thread.ref?_step (w : World) (env : Env) (t : Thread) {r : Nat}
    (h : (t.step w env).2.ref? = some r) :
    t.ref? = some r ∨ ∃ symbol, w.positions symbol = some r := by
  rcases t with ⟨symbol, n, reason, pc⟩ | ⟨symbol, p, pc⟩ <;> cases pc <;>
    simp only [Thread.step, updateStopLossStep, updatePositionStep] at h <;>
    (try split at h) <;> simp_all [Thread.ref?] <;> exact ⟨_, ‹_›⟩

/-- A thread enters its read-to-commit section only by reading the current stop. -/
theorem Thread.section?_step (w : World) (env : Env) (t : Thread) {r : Nat} {o : ℚ}
    (h : (t.step w env).2.section? = some (r, o)) :
    t.section? = some (r, o) ∨ (t.ref? = some r ∧ o = (w.heap r).currentStopLoss) := by
  rcases t with ⟨symbol, n, reason, pc⟩ | ⟨symbol, p, pc⟩ <;> cases pc <;>
    simp only [Thread.step, updateStopLossStep, updatePositionStep] at h <;>
    (try split at h) <;> simp_all [Thread.ref?, Thread.section?]
  obtain ⟨rfl, rfl⟩ := h; rfl

/-- A thread passes the direction check only with the stop it read. -/
theorem Thread.checked?_step (w : World) (env : Env) (t : Thread) {r : Nat} {o n : ℚ}
    (h : (t.step w env).2.checked? = some (r, o, n)) :
    t.checked? = some (r, o, n) ∨
      (t.section? = some (r, o) ∧ stopMoveError (w.heap r).side o n = none) := by
  rcases t with ⟨symbol, n', reason, pc⟩ | ⟨symbol, p, pc⟩ <;> cases pc <;>
    simp only [Thread.step, updateStopLossStep, updatePositionStep] at h <;>
    (try split at h) <;> simp_all [Thread.section?, Thread.checked?]

/-- A committing thread leaves its section and is past nothing. -/
theorem Thread.step_of_commit (w : World) (env : Env) {t : Thread} {c : Nat × ℚ × ℚ}
    (h : t.commit? = some c) :
    (t.step w env).2.section? = none ∧ (t.step w env).2.checked? = none := by
  rcases t with ⟨symbol, n, reason, pc⟩ | ⟨symbol, p, pc⟩ <;> cases pc <;>
    simp_all [Thread.commit?, Thread.step, updateStopLossStep, Thread.section?, Thread.checked?]

/-- The thread that steps stays `ThreadOk`. -/
theorem ThreadOk.step_self {w : World} {t : Thread} (h : ThreadOk w t) (env : Env)
    (hreg : ∀ symbol r, w.positions symbol = some r → r < w.nextRef) :
    ThreadOk (t.step w env).1 (t.step w env).2 := by
  refine ⟨fun r hr => ?_, fun r o hs => ?_, fun r o n hc => ?_⟩
  · rw [Thread.nextRef_step]
    rcases Thread.ref?_step w env t hr with hr | ⟨symbol, hs⟩
    · exact h.held_lt r hr
    · exact hreg symbol r hs
  all_goals
    rcases hcommit : t.commit? with _ | c
    case some => simp_all [Thread.step_of_commit w env hcommit]
    have hsame : stopOf (t.step w env).1 r = stopOf w r := by
      rw [Thread.stopOf_step]; simp [hcommit, stopAfter]
  · have hcur : ((t.step w env).1.heap r).currentStopLoss = (w.heap r).currentStopLoss :=
      congrArg Prod.snd hsame
    rw [hcur]
    rcases Thread.section?_step w env t hs with hs | ⟨-, rfl⟩
    · exact h.read_current r o hs
    · rfl
  · have hside : ((t.step w env).1.heap r).side = (w.heap r).side := congrArg Prod.fst hsame
    rw [hside]
    rcases Thread.checked?_step w env t hc with hc | ⟨-, hc⟩
    · exact h.checked r o n hc
    · exact hc

theorem Thread.section?_of_commit {t : Thread} {r : Nat} {o n : ℚ}
    (h : t.commit? = some (r, o, n)) : t.section? = some (r, o) :=
  Thread.section?_of_checked? (Thread.checked?_of_commit h)

theorem ThreadOk.start (w : World) (call : Call) : ThreadOk w call.start := by
  cases call <;> exact ⟨by simp [Call.start, Thread.ref?], by simp [Call.start, Thread.section?],
    by simp [Call.start, Thread.checked?]⟩

/-- Every action keeps the system sound, provided no two calls are in their read-to-commit
    sections on one position. -/
theorem Sys.Sound.step {s : Sys} (hs : s.Sound) (hex : s.Exclusive) (a : Action) :
    (s.step a).Sound := by
  cases a with
  | spawn call =>
    refine ⟨hs.registered_lt, fun i t ht => ?_⟩
    simp only [Sys.step] at ht
    by_cases hi : i < s.threads.length
    · rw [List.getElem?_append_left hi] at ht; exact hs.threads_ok i t ht
    · rw [List.getElem?_append_right (by omega)] at ht
      rcases h : i - s.threads.length with _ | k <;> simp_all
      · subst ht; exact ThreadOk.start _ call
  | run i env =>
    rcases hi : s.threads[i]? with _ | ti
    · simpa [Sys.step, hi] using hs
    simp only [Sys.step, hi]
    have hstop := Thread.stopOf_step s.world env ti
    refine ⟨fun symbol r hr => ?_, fun j t ht => ?_⟩
    · rw [Thread.nextRef_step]
      exact hs.registered_lt symbol r (Thread.positions_step s.world env ti hr)
    · rw [List.getElem?_set] at ht
      split_ifs at ht with hij
      · have := (List.getElem?_eq_some_iff.mp hi).1
        simp only [this, if_true, Option.some.injEq] at ht
        subst ht
        exact (hs.threads_ok i ti hi).step_self env hs.registered_lt
      · have hside (r : Nat) : ((ti.step s.world env).1.heap r).side = (s.world.heap r).side :=
          (congrArg Prod.fst (hstop r)).trans (stopAfter_side _ _ _)
        have hcur : ∀ r o, t.section? = some (r, o) →
            ((ti.step s.world env).1.heap r).currentStopLoss = (s.world.heap r).currentStopLoss := by
          intro r o hsec
          have := congrArg Prod.snd (hstop r)
          rcases hc : ti.commit? with _ | ⟨r', o', n⟩ <;> simp only [hc, stopAfter] at this
          · exact this
          · have hr : r ≠ r' := fun hr => hij (hex.eq hi ht
              (hr ▸ Thread.section?_of_commit hc) hsec)
            rw [if_neg hr] at this; exact this
        exact (hs.threads_ok j t ht).frame (by rw [Thread.nextRef_step]) (fun r _ => hside r) hcur
  | registerPosition pos =>
    refine ⟨fun symbol r hr => ?_, fun i t ht => ?_⟩
    · obtain ⟨hpos, hnext, -⟩ := registerPosition_newPosition s.world pos
      simp only [Sys.step, hpos, hnext] at hr ⊢
      split at hr
      · cases hr; omega
      · exact Nat.lt_succ_of_lt (hs.registered_lt symbol r hr)
    · have hok := hs.threads_ok i t ht
      refine hok.frame (Nat.le_succ _) (fun r hr => congrArg Prod.fst
        (stopOf_register s.world r pos hr)) (fun r o hsec => congrArg Prod.snd
          (stopOf_register s.world r pos (hok.held_lt r (Thread.ref?_of_section? hsec))))
  | removePosition symbol =>
    refine ⟨fun sym r hr => ?_, fun i t ht =>
      (hs.threads_ok i t ht).frame le_rfl (fun _ _ => rfl) (fun _ _ _ => rfl)⟩
    by_cases h : sym = symbol <;> simp_all [Sys.step, removePosition]
    exact hs.registered_lt sym r hr
  | monitorAndExecute ref currentPrice env =>
    refine ⟨by simpa [Sys.step] using hs.registered_lt, fun i t ht => ?_⟩
    exact (hs.threads_ok i t ht).frame (by simp [Sys.step]) (fun r _ => congrArg Prod.fst
      (stopOf_monitorAndExecute s.world ref r env currentPrice)) (fun r _ _ => congrArg Prod.snd
      (stopOf_monitorAndExecute s.world ref r env currentPrice))

theorem Sys.stopOf_step (s : Sys) (a : Action) {ref : Nat} (h : ref < s.world.nextRef) :
    stopOf (s.step a).world ref = stopAfter s.world ref (s.commitOf a) := by
  cases a with
  | spawn call => rfl
  | run i env =>
    rcases hi : s.threads[i]? with _ | ti
    · simp [Sys.step, Sys.commitOf, hi, stopAfter]
    · simpa [Sys.step, Sys.commitOf, hi] using Thread.stopOf_step s.world env ti ref
  | registerPosition pos => exact stopOf_register s.world ref pos h
  | removePosition symbol => rfl
  | monitorAndExecute r currentPrice env => exact stopOf_monitorAndExecute s.world r ref env currentPrice

theorem Sys.nextRef_le_step (s : Sys) (a : Action) : s.world.nextRef ≤ (s.step a).world.nextRef := by
  cases a with
  | run i env =>
    simp only [Sys.step]; split
    · exact le_rfl
    · rw [Thread.nextRef_step]
  | registerPosition pos => exact ((registerPosition_newPosition s.world pos).2.1).symm ▸ Nat.le_succ _
  | monitorAndExecute r currentPrice env => simp [Sys.step]
  | _ => exact le_rfl

/-- In a sound system, a commit writes a stop that passes the direction check against the
    position's current stop. -/
theorem Sys.Sound.commit_passes {s : Sys} (hs : s.Sound) {a : Action} {r : Nat} {o n : ℚ}
    (h : s.commitOf a = some (r, o, n)) :
    stopMoveError (s.world.heap r).side (s.world.heap r).currentStopLoss n = none := by
  cases a with
  | run i env =>
    rcases hi : s.threads[i]? with _ | t
    · simp [Sys.commitOf, hi] at h
    · simp only [Sys.commitOf, hi, Option.some_bind] at h
      have hok := hs.threads_ok i t hi
      rw [← hok.read_current r o (Thread.section?_of_commit h)]
      exact hok.checked r o n (Thread.checked?_of_commit h)
  | _ => simp [Sys.commitOf] at h

/-- The writes of a schedule to one position, under exclusion, move its stop one way only,
    starting from the stop it has. -/
theorem commits_chain (as : List Action) :
    ∀ s : Sys, s.Sound → (∀ k < as.length, (s.run (as.take k)).Exclusive) →
      ∀ ref, ref < s.world.nextRef →
        ((s.world.heap ref).side = "long" →
          (((s.commits as).filter (fun c => c.1 = ref)).map (·.2.2)).Chain (· ≤ ·)
            (s.world.heap ref).currentStopLoss) ∧
        ((s.world.heap ref).side = "short" →
          (((s.commits as).filter (fun c => c.1 = ref)).map (·.2.2)).Chain (· ≥ ·)
            (s.world.heap ref).currentStopLoss) := by
  induction as with
  | nil => intro s _ _ ref _; simp [Sys.commits]
  | cons a as ih =>
    intro s hs hex ref href
    have hex₀ : s.Exclusive := by simpa using hex 0 (by simp)
    have hex' : ∀ k < as.length, ((s.step a).run (as.take k)).Exclusive := fun k hk => by
      simpa using hex (k + 1) (by simpa using hk)
    obtain ⟨ihl, ihs⟩ := ih (s.step a) (hs.step hex₀ a) hex' ref (href.trans_le (s.nextRef_le_step a))
    have hstop := s.stopOf_step a href
    have hside : ((s.step a).world.heap ref).side = (s.world.heap ref).side :=
      (congrArg Prod.fst hstop).trans (stopAfter_side _ _ _)
    rw [hside] at ihl ihs
    simp only [Sys.commits]
    rcases hc : s.commitOf a with _ | ⟨r, o, n⟩
    · have hcur := congrArg Prod.snd hstop
      simp only [hc, stopAfter] at hcur
      rw [show ((s.step a).world.heap ref).currentStopLoss = _ from hcur] at ihl ihs
      exact ⟨ihl, ihs⟩
    · by_cases hr : r = ref
      · subst hr
        have hcur := congrArg Prod.snd hstop
        simp only [hc, stopAfter, if_true] at hcur
        rw [show ((s.step a).world.heap r).currentStopLoss = n from hcur] at ihl ihs
        have hpass := hs.commit_passes hc
        simp only [Option.toList, List.singleton_append, List.filter_cons, decide_True,
          eq_self_iff_true, if_true, List.map_cons]
        refine ⟨fun hl => List.Chain.cons ?_ (ihl hl), fun hsh => List.Chain.cons ?_ (ihs hsh)⟩
        · rw [hl] at hpass; simpa [stopMoveError] using hpass
        · rw [hsh] at hpass; simpa [stopMoveError] using hpass
      · have hcur := congrArg Prod.snd hstop
        simp only [hc, stopAfter, Ne.symm hr, if_false] at hcur
        rw [show ((s.step a).world.heap ref).currentStopLoss = _ from hcur] at ihl ihs
        simpa [Option.toList, hr] using And.intro ihl ihs

/-- The writes to a position's stop under the exclusion the code does not take: from a state
    with no call in flight, over every schedule in which no two read-to-commit sections on
    the position overlap, a long stop only rises and a short stop only falls. -/
theorem stop_writes_monotone_under_exclusion (s : Sys) (hthreads : s.threads = [])
    (hreg : ∀ symbol r, s.world.positions symbol = some r → r < s.world.nextRef)
    (as : List Action) (hex : ∀ k < as.length, (s.run (as.take k)).Exclusive)
    (ref : Nat) (href : ref < s.world.nextRef) :
    ((s.world.heap ref).side = "long" →
      (((s.commits as).filter (fun c => c.1 = ref)).map (·.2.2)).Chain (· ≤ ·)
        (s.world.heap ref).currentStopLoss) ∧
    ((s.world.heap ref).side = "short" →
      (((s.commits as).filter (fun c => c.1 = ref)).map (·.2.2)).Chain (· ≥ ·)
        (s.world.heap ref).currentStopLoss) :=
  commits_chain as s ⟨hreg, fun i t ht => by simp [hthreads] at ht⟩ hex ref href

/-- Two calls on a long position with stop 90: the call to 95 reads the stop and passes its
    check, the call to 100 then runs to its commit, and the call to 95 commits after it. -/
theorem stop_moves_back :
    let env : Env := ⟨none, none, default, 0⟩
    let s : Sys := ⟨registerPosition (World.init.newPosition btcLong) 0, []⟩
    let schedule : List Action :=
      [.spawn (.updateStopLoss "BTCUSDT" 100 "raise"), .spawn (.updateStopLoss "BTCUSDT" 95 "raise"),
       .run 1 env, .run 1 env, .run 1 env,
       .run 0 env, .run 0 env, .run 0 env, .run 0 env, .run 0 env, .run 0 env,
       .run 1 env, .run 1 env, .run 1 env]
    (s.world.heap 0).side = "long" ∧ (s.commits schedule).map (·.2.2) = [100, 95] ∧
      ((s.run schedule).world.heap 0).currentStopLoss = 95 := by
  decide

end StopLossManager

end TradingBot
