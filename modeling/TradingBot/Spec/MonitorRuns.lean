import TradingBot.Spec.Exits
import TradingBot.Spec.Monitor

/-!
# The position monitor over time

`MonitorPositions` runs one tick after another, each with the prices and exchange replies of
its time and its own order of the registry. Run alone from a registry that maps each symbol
to a position of that symbol, the loop never closes a symbol twice and never closes one that
is not registered. A symbol keeps its entry and sees no filled close, or it was registered,
has lost its entry, and saw exactly one filled close. Every close sent for a symbol is the
close of the position registered under it: a close that does not fill leaves the position
registered, and the next tick whose price reaches the stop sends the same close again
(`monitor_closes_at_most_once`).

The registry this needs, each symbol mapped to an allocated position of that symbol, is what
every schedule of the calls keeps: registrations store a fresh pointer under its position's
symbol, removals only delete, and no step changes a position's symbol.

## Key results

- `filledCloses_tick`: the closes of one tick that fill for a symbol.
- `tick_closedAtMostOnce`: one tick, symbol by symbol.
- `monitor_closes_at_most_once`: every run of the loop, symbol by symbol.
- `registry_consistent_under_every_schedule`: the registry the monitor starts from maps each
  symbol to an allocated position of that symbol in every state the goroutines reach.
-/

namespace TradingBot

namespace StopLossManager

/-- The runs of `MonitorPositions` alone: ticks one after another, each over a snapshot of
    the registry in its own order, with the prices and replies of its time. -/
inductive MonitorRun : World → World → Prop
  | refl (w : World) : MonitorRun w w
  | tick {w w' : World} (listPrices : String → Except String (List (Except String ℚ)))
      (env : String → Env) {positions : List Nat} (hnodup : positions.Nodup)
      (hsnap : ∀ r, r ∈ positions ↔ ∃ s, w.positions s = some r) :
      MonitorRun (monitorPositionsTick listPrices env w positions) w' → MonitorRun w w'

/-- What the monitor did to symbol `s` from `w` to `w'`, having sent `added`: the entry is
    kept and no close filled, or the symbol was registered, lost its entry, and exactly one
    close filled. -/
def ClosedAtMostOnce (s : String) (w w' : World) (added : List GatewayCall) : Prop :=
  (w'.positions s = w.positions s ∧ filledCloses s added = []) ∨
    (w.positions s ≠ none ∧ w'.positions s = none ∧ (filledCloses s added).length = 1)

theorem ClosedAtMostOnce.refl (s : String) (w : World) : ClosedAtMostOnce s w w [] :=
  .inl ⟨rfl, rfl⟩

theorem ClosedAtMostOnce.trans {s : String} {w₁ w₂ w₃ : World} {added added' : List GatewayCall}
    (h : ClosedAtMostOnce s w₁ w₂ added) (h' : ClosedAtMostOnce s w₂ w₃ added') :
    ClosedAtMostOnce s w₁ w₃ (added ++ added') := by
  rcases h with ⟨hkept, hnone⟩ | ⟨hreg, hgone, hone⟩ <;>
    rcases h' with ⟨hkept', hnone'⟩ | ⟨hreg', hgone', hone'⟩
  · exact .inl ⟨hkept'.trans hkept, by simp [hnone, hnone']⟩
  · exact .inr ⟨hkept ▸ hreg', hgone', by simp [hnone, hone']⟩
  · exact .inr ⟨hreg, hkept'.trans hgone, by simp [hnone', hone]⟩
  · exact absurd hgone hreg'

theorem filledCloses_flatMap {α : Type} (s : String) (l : List α) (f : α → List GatewayCall) :
    filledCloses s (l.flatMap f) = l.flatMap fun x => filledCloses s (f x) :=
  List.filterMap_flatMap _ _ _

/-- The close a gateway call shows was sent for `symbol`, filled or not. -/
def GatewayCall.sentClose? (symbol : String) : GatewayCall → Option TradeRequest
  | .executeTrade request _ => if request.symbol = symbol then some request else none
  | _ => none

/-- The closes sent for `symbol`, in order. -/
def sentCloses (symbol : String) (log : List GatewayCall) : List TradeRequest :=
  log.filterMap (GatewayCall.sentClose? symbol)

section Tick

variable (listPrices : String → Except String (List (Except String ℚ))) (env : String → Env)

/-- A visit sends the close of the position as it was: the fetched price changes nothing the
    close is built from. -/
@[simp] theorem stopLossCloseRequest_tickedPos (w : World) (x : Nat) :
    stopLossCloseRequest (tickedPos listPrices w x) = stopLossCloseRequest (w.heap x) := by
  unfold tickedPos; split <;> simp

/-- A visit's close fills for `s` when its position has symbol `s` and the close fills. -/
theorem filledCloses_tickCalls (w : World) (x : Nat) (s : String) :
    filledCloses s (tickCalls listPrices env w x) =
      if (w.heap x).symbol = s ∧ tickCloses listPrices env w x = true then
        [stopLossCloseRequest (tickedPos listPrices w x)] else [] := by
  unfold tickCalls tickCloses
  by_cases ht : tickTriggers listPrices w x = true <;> by_cases hs : (w.heap x).symbol = s <;>
    by_cases hsucc : (env (w.heap x).symbol).trade.success = true <;>
    simp_all [filledCloses, GatewayCall.filledClose?, stopLossCloseRequest]

variable {w : World} {positions : List Nat}
  (hsym : ∀ s r, w.positions s = some r → (w.heap r).symbol = s)
  (hnodup : positions.Nodup) (hsnap : ∀ r, r ∈ positions ↔ ∃ s, w.positions s = some r)

include hsym hnodup hsnap in
/-- The closes of one tick that fill for `s`: the close of the position registered under
    `s`, when it fills. -/
theorem filledCloses_tick (s : String) :
    (filledCloses s (positions.flatMap (tickCalls listPrices env w))).length =
      match w.positions s with
      | some r => if tickCloses listPrices env w r then 1 else 0
      | none => 0 := by
  have hother : ∀ x ∈ positions, w.positions s ≠ some x →
      filledCloses s (tickCalls listPrices env w x) = [] := fun x hx hne => by
    rw [filledCloses_tickCalls, if_neg]
    exact fun ⟨hxs, _⟩ => hne (snapshot_symbol hsym hsnap hx hxs)
  rcases hs : w.positions s with _ | r
  · rw [filledCloses_flatMap, List.flatMap_eq_nil_iff.mpr fun x hx => hother x hx (by simp [hs])]
    rfl
  · have hr : r ∈ positions := (hsnap r).mpr ⟨s, hs⟩
    have hperm := ((List.perm_cons_erase hr).flatMap_right
      (tickCalls listPrices env w)).filterMap (GatewayCall.filledClose? s)
    have hrest : filledCloses s ((positions.erase r).flatMap (tickCalls listPrices env w)) = [] := by
      rw [filledCloses_flatMap, List.flatMap_eq_nil_iff]
      intro x hx
      have hxr : x ≠ r := fun h => (hnodup.mem_erase_iff.mp hx).1 h
      exact hother x (List.mem_of_mem_erase hx) (by simp [hs, Ne.symm hxr])
    rw [filledCloses, hperm.length_eq, List.flatMap_cons, ← filledCloses, filledCloses_append,
      hrest, List.append_nil, filledCloses_tickCalls]
    by_cases hc : tickCloses listPrices env w r = true <;> simp [hc, hsym s r hs]

include hsym hnodup hsnap in
/-- One tick, for every symbol: its entry kept and no close filled, or its registered
    position closed once and its entry deleted. -/
theorem tick_closedAtMostOnce (s : String) :
    ClosedAtMostOnce s w (monitorPositionsTick listPrices env w positions)
      (positions.flatMap (tickCalls listPrices env w)) := by
  have hcount := filledCloses_tick listPrices env hsym hnodup hsnap s
  rw [monitorPositionsTick_eq listPrices env hnodup (snapshot_registered hsym hsnap),
    ClosedAtMostOnce, tickSpec_positions listPrices env hsym hsnap]
  rcases hs : w.positions s with _ | r
  · rw [hs] at hcount
    exact .inl ⟨rfl, List.length_eq_zero.mp hcount⟩
  · rw [hs] at hcount
    by_cases hc : tickCloses listPrices env w r = true
    · exact .inr ⟨by simp, by simp [hc], by simpa [hc] using hcount⟩
    · exact .inl ⟨by simp [hc], List.length_eq_zero.mp (by simpa [hc] using hcount)⟩

include hsym hsnap in
/-- Every close a tick sends for `s` is the close of the position registered under `s`. -/
theorem sentCloses_tick (s : String) :
    ∀ request ∈ sentCloses s (positions.flatMap (tickCalls listPrices env w)),
      ∃ r, w.positions s = some r ∧ request = stopLossCloseRequest (w.heap r) := by
  intro request h
  simp only [sentCloses, List.mem_filterMap, List.mem_flatMap] at h
  obtain ⟨c, ⟨x, hx, hc⟩, hsent⟩ := h
  unfold tickCalls at hc
  split at hc
  · obtain rfl := List.mem_singleton.mp hc
    simp only [GatewayCall.sentClose?, stopLossCloseRequest_tickedPos] at hsent
    split at hsent
    · cases hsent
      refine ⟨x, snapshot_symbol hsym hsnap hx ?_, rfl⟩
      simpa [stopLossCloseRequest] using ‹_›
    · cases hsent
  · cases hc

include hsym hnodup hsnap in
/-- A tick changes nothing a close is built from. -/
theorem tick_stopLossCloseRequest (r : Nat) :
    stopLossCloseRequest ((monitorPositionsTick listPrices env w positions).heap r) =
      stopLossCloseRequest (w.heap r) := by
  rw [monitorPositionsTick_eq listPrices env hnodup (snapshot_registered hsym hsnap)]
  simp only [tickSpec]
  split <;> simp

include hsym hnodup hsnap in
/-- A tick whose fetched price hits the stop of the position registered under `s` sends its
    close. -/
theorem tick_sends_close {s : String} {r : Nat} (hs : w.positions s = some r)
    (htrig : tickTriggers listPrices w r = true) :
    .executeTrade (stopLossCloseRequest (w.heap r)) (env s).trade ∈
      (monitorPositionsTick listPrices env w positions).venue.log := by
  rw [monitorPositionsTick_eq listPrices env hnodup (snapshot_registered hsym hsnap)]
  refine List.mem_append_right _ (List.mem_flatMap.mpr ⟨r, (hsnap r).mpr ⟨s, hs⟩, ?_⟩)
  simp [tickCalls, htrig, hsym s r hs]

end Tick

/-- A run of the monitor keeps the registry mapping each symbol to a position of that
    symbol. -/
theorem MonitorRun.symbols {w w' : World} (hrun : MonitorRun w w')
    (hsym : ∀ s r, w.positions s = some r → (w.heap r).symbol = s) :
    ∀ s r, w'.positions s = some r → (w'.heap r).symbol = s := by
  induction hrun with
  | refl w => exact hsym
  | tick listPrices env hnodup hsnap _ ih =>
    refine ih fun s r h => ?_
    rw [monitorPositionsTick_eq listPrices env hnodup (snapshot_registered hsym hsnap)] at h ⊢
    exact tickSpec_symbol listPrices env hsym hsnap s r h

/-- Every run of `MonitorPositions` alone, from a registry that maps each symbol to a
    position of that symbol and whatever prices, replies and iteration orders its ticks meet,
    closes each symbol at most once: the symbol keeps its entry and sees no filled close, or
    it was registered, lost its entry, and saw exactly one filled close. Every close the run
    sends for a symbol is the close of the position registered under it at the start, and
    none is sent for a symbol not registered then; a refused close leaves the position
    registered, and the next tick whose price hits its stop sends the same close again. -/
theorem monitor_closes_at_most_once {w w' : World} (hrun : MonitorRun w w')
    (hsym : ∀ s r, w.positions s = some r → (w.heap r).symbol = s) (s : String) :
    ∃ added, w'.venue.log = w.venue.log ++ added ∧ ClosedAtMostOnce s w w' added ∧
      (w.positions s = none → sentCloses s added = []) ∧
      ∀ r, w.positions s = some r →
        (∀ request ∈ sentCloses s added, request = stopLossCloseRequest (w.heap r)) ∧
        (w'.positions s = some r →
          ∀ listPrices env positions, positions.Nodup →
            (∀ r', r' ∈ positions ↔ ∃ s', w'.positions s' = some r') →
            tickTriggers listPrices w' r = true →
            .executeTrade (stopLossCloseRequest (w.heap r)) (env s).trade ∈
              (monitorPositionsTick listPrices env w' positions).venue.log) := by
  induction hrun with
  | refl w =>
    refine ⟨[], by simp, .refl s w, fun _ => rfl, fun r _ => ⟨by simp [sentCloses], ?_⟩⟩
    intro hr listPrices env positions hnodup hsnap htrig
    exact tick_sends_close listPrices env hsym hnodup hsnap hr htrig
  | tick listPrices env hnodup hsnap hrest ih =>
    have htick := monitorPositionsTick_eq listPrices env hnodup (snapshot_registered hsym hsnap)
    have hsym₁ := MonitorRun.symbols (.tick listPrices env hnodup hsnap (.refl _)) hsym
    have hsame := tick_stopLossCloseRequest listPrices env hsym hnodup hsnap
    have hsent := sentCloses_tick listPrices env hsym hsnap s
    have hpos : (monitorPositionsTick listPrices env _ _).positions s = _ :=
      htick ▸ tickSpec_positions listPrices env hsym hsnap s
    obtain ⟨added, hlog, hclosed, hnone, hsome⟩ := ih hsym₁
    refine ⟨_ ++ added, ?_, (tick_closedAtMostOnce listPrices env hsym hnodup hsnap s).trans hclosed,
      fun hs => ?_, fun r hs => ⟨fun request hreq => ?_, fun hr' => ?_⟩⟩
    · rw [hlog, htick, ← List.append_assoc]; rfl
    · rw [hs, Option.none_bind] at hpos
      rw [sentCloses, List.filterMap_append, ← sentCloses, ← sentCloses, hnone hpos,
        List.append_nil]
      refine List.eq_nil_iff_forall_not_mem.mpr fun request hreq => ?_
      obtain ⟨r, hr, -⟩ := hsent request hreq
      simp [hs] at hr
    · rw [sentCloses, List.filterMap_append, List.mem_append, ← sentCloses, ← sentCloses] at hreq
      rcases hreq with hreq | hreq
      · obtain ⟨r', hr', rfl⟩ := hsent request hreq
        rw [Option.some.inj (hr'.symm.trans hs)]
      · rw [hs, Option.some_bind] at hpos
        split at hpos
        · exact absurd hreq (by rw [hnone hpos]; simp)
        · rw [(hsome r hpos).1 request hreq, hsame]
    · intro listPrices' env' positions' hnodup' hsnap' htrig
      rw [hs, Option.some_bind] at hpos
      split at hpos
      · -- the monitor never registers, so a symbol it removed stays removed
        rcases hclosed with ⟨hkept, -⟩ | ⟨hreg, -, -⟩
        · rw [hkept, hpos] at hr'; cases hr'
        · exact absurd hpos hreg
      · rw [← hsame]
        exact (hsome r hpos).2 hr' listPrices' env' positions' hnodup' hsnap' htrig

/-- A long `BTCUSDT` position with its stop at 90, alone in the registry, and two ticks at
    the price 85: the first close is refused and the position stays registered, the second
    sends the same close, which fills and deletes the entry. -/
theorem monitor_retries_refused_close :
    let pos : Position := ⟨"BTCUSDT", "long", 100, 1, 90, 90, 100, 100, "fixed", "", [], none⟩
    let w := registerPosition (World.init.newPosition pos) 0
    let listPrices : String → Except String (List (Except String ℚ)) := fun _ => .ok [.ok 85]
    let refused : String → Env := fun _ => ⟨none, none, ⟨false, 0, "rejected"⟩, 0⟩
    let filled : String → Env := fun _ => ⟨none, none, ⟨true, 85, ""⟩, 0⟩
    let w₁ := monitorPositionsTick listPrices refused w [0]
    let w₂ := monitorPositionsTick listPrices filled w₁ [0]
    MonitorRun w w₂ ∧ (∀ s r, w.positions s = some r → (w.heap r).symbol = s) ∧
      (∃ added, w₂.venue.log = w.venue.log ++ added ∧ ClosedAtMostOnce "BTCUSDT" w w₂ added ∧
        (w.positions "BTCUSDT" = none → sentCloses "BTCUSDT" added = []) ∧
        ∀ r, w.positions "BTCUSDT" = some r →
          (∀ request ∈ sentCloses "BTCUSDT" added, request = stopLossCloseRequest (w.heap r)) ∧
          (w₂.positions "BTCUSDT" = some r →
            ∀ listPrices env positions, positions.Nodup →
              (∀ r', r' ∈ positions ↔ ∃ s', w₂.positions s' = some r') →
              tickTriggers listPrices w₂ r = true →
              .executeTrade (stopLossCloseRequest (w.heap r)) (env "BTCUSDT").trade ∈
                (monitorPositionsTick listPrices env w₂ positions).venue.log)) ∧
      w₁.positions "BTCUSDT" = some 0 ∧ w₂.positions "BTCUSDT" = none ∧
      sentCloses "BTCUSDT" w₂.venue.log = [stopLossCloseRequest pos, stopLossCloseRequest pos] := by
  intro pos w listPrices refused filled w₁ w₂
  have hpositions : w.positions = Function.update (fun _ => none) "BTCUSDT" (some 0) := rfl
  have hsnap (w' : World) (h : w'.positions = w.positions) :
      ∀ r, r ∈ [0] ↔ ∃ s, w'.positions s = some r := fun r => by
    simp only [List.mem_singleton, h, hpositions]
    refine ⟨fun h => ⟨"BTCUSDT", by simp [h]⟩, fun ⟨s, hs⟩ => ?_⟩
    by_cases h : s = "BTCUSDT"
    · subst h; simpa [eq_comm] using hs
    · simp [h] at hs
  have hsym : ∀ s r, w.positions s = some r → (w.heap r).symbol = s := fun s r h => by
    rw [hpositions] at h
    by_cases hs : s = "BTCUSDT"
    · subst hs; simp only [Function.update_same, Option.some.injEq] at h; subst h; rfl
    · simp [hs] at h
  have hrun : MonitorRun w w₂ :=
    .tick listPrices refused (List.nodup_singleton 0) (hsnap w rfl)
      (.tick listPrices filled (List.nodup_singleton 0) (hsnap w₁ rfl) (.refl w₂))
  exact ⟨hrun, hsym, monitor_closes_at_most_once hrun hsym "BTCUSDT", by decide, by decide,
    by decide⟩

/-! ## The registry under every schedule -/

/-- The registry maps each symbol to an allocated position of that symbol. -/
def RegistryOk (w : World) : Prop :=
  ∀ s r, w.positions s = some r → r < w.nextRef ∧ (w.heap r).symbol = s

/-- No step of a thread changes the symbol of a position. -/
theorem Thread.symbol_step (w : World) (env : Env) (t : Thread) (ref : Nat) :
    ((t.step w env).1.heap ref).symbol = (w.heap ref).symbol := by
  rcases t with ⟨symbol, n, reason, pc⟩ | ⟨symbol, p, pc⟩
  · exact congrArg Prod.fst ((updateStopLossStep_frame w symbol n reason env pc).view ref)
  · cases pc with
    | updatePrice r =>
      exact World.setPos_heap_comp w r ((w.heap r).updatePrice p) Position.symbol rfl ref
    | remove r => rfl
    | _ => simp only [Thread.step, updatePositionStep]; try (split <;> rfl)

/-- Every action keeps the registry consistent. -/
theorem Sys.registryOk_step {s : Sys} (h : RegistryOk s.world) (a : Action) :
    RegistryOk (s.step a).world := by
  cases a with
  | spawn call => exact h
  | run i env =>
    simp only [Sys.step]
    split
    · exact h
    · intro symbol r hr
      obtain ⟨hlt, hsym⟩ := h symbol r (Thread.positions_step _ _ _ hr)
      exact ⟨by rwa [Thread.nextRef_step], by rwa [Thread.symbol_step]⟩
  | registerPosition pos =>
    obtain ⟨hpos, hnext, hheap⟩ := registerPosition_newPosition s.world pos
    intro symbol r hr
    simp only [Sys.step, hpos] at hr ⊢
    rw [hnext]
    split at hr
    · cases hr
      exact ⟨Nat.lt_succ_self _, by simp [registerPosition, World.newPosition, *]⟩
    · obtain ⟨hlt, hsym⟩ := h symbol r hr
      exact ⟨Nat.lt_succ_of_lt hlt, by rw [hheap r hlt, hsym]⟩
  | removePosition symbol' =>
    intro symbol r hr
    simp only [Sys.step, removePosition, Function.update_apply] at hr
    split at hr
    · cases hr
    · exact h symbol r hr
  | monitorAndExecute ref currentPrice env =>
    intro symbol r hr
    simp only [Sys.step, World.monitorAndExecute_positions, World.monitorAndExecute_nextRef] at hr ⊢
    obtain ⟨hlt, hsym⟩ := h symbol r hr
    refine ⟨hlt, ?_⟩
    by_cases hrr : r = ref
    · subst hrr
      obtain ⟨q, c, hq⟩ :=
        TakeProfitManager.monitorAndExecute_pos (s.world.heap r) currentPrice env
      rw [World.monitorAndExecute_heap_self, hq]; exact hsym
    · rw [World.monitorAndExecute_heap_of_ne _ _ _ hrr]; exact hsym

/-- Under every schedule of `UpdateStopLoss` and `UpdatePosition` steps, registrations,
    removals and `MonitorAndExecute` calls, a registry that maps each symbol to an allocated
    position of that symbol stays so. -/
theorem registry_consistent_under_every_schedule (s : Sys) (as : List Action)
    (h : RegistryOk s.world) : RegistryOk (s.run as).world := by
  induction as generalizing s with
  | nil => exact h
  | cons a as ih => exact ih (s.step a) (Sys.registryOk_step h a)

/-- From the empty manager, two registrations of `BTCUSDT` leave its entry on the second
    position, a position of that symbol. -/
theorem registry_consistent_after_reregistration :
    let schedule : List Action := [.registerPosition btcLong, .registerPosition btcLong]
    let s : Sys := ⟨World.init, []⟩
    RegistryOk s.world ∧ RegistryOk (s.run schedule).world ∧
      (s.run schedule).world.positions "BTCUSDT" = some 1 := by
  intro schedule s
  have hinit : RegistryOk s.world := fun _ _ h => nomatch h
  exact ⟨hinit, registry_consistent_under_every_schedule s schedule hinit, by decide⟩

end StopLossManager

end TradingBot
