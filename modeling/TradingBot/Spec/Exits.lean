import Mathlib.Algebra.Order.BigOperators.GroupWithZero.List
import TradingBot.Spec.Interleavings

/-!
# Exits under interleaving: the registry and the closes

`executeStopLoss` closes a position at market and then calls `RemovePosition(pos.Symbol)`:
the removal is by symbol, so it deletes whatever entry the symbol holds by then. A step
writes the entry of a symbol only by registering under it, removing it, or as that removal
step (`Sys.writesEntry`), and an entry no such step touches stays
(`registration_persists`); a position registered under the symbol while an earlier one's
close was in flight is removed with it (`close_removes_later_registration`).

Nothing in the code stops two `UpdatePosition` calls that both see the stop hit from both
closing the whole position (`double_stop_close`): `UpdatePosition` releases `sm.mu` before
it closes, and `TakeProfitManager.mu` is never taken. Where the calls that close the
position do not overlap, no two `MonitorAndExecute` calls overlap (the model takes each as
one step), and `MonitorAndExecute` runs only on the registered position, the exits are
exact (`exits_at_most_once_under_exclusion`): at most one filled full close, at most one
filled close per take-profit level, and never more filled than the position held.

## Key results

- `registration_persists`: over every schedule, a step changes the entry of a symbol only by
  writing it, and the removal after a filled stop-loss close deletes it whichever position
  it holds.
- `close_removes_later_registration`: the removal after a stop-loss close deletes an entry
  registered for the symbol after the close was sent.
- `double_stop_close`: two overlapping `UpdatePosition` calls both fill the full close.
- `exits_at_most_once_under_exclusion`: the exit law, under the exclusion the code lacks.
-/

namespace TradingBot

namespace StopLossManager

/-! ## The registry -/

/-- Whether an action writes the registry entry of `symbol`: a registration under it, a
    `RemovePosition` of it, or the removal step of an `UpdatePosition` call whose position
    has that symbol. -/
def Sys.writesEntry (s : Sys) (symbol : String) : Action → Bool
  | .registerPosition pos => pos.symbol = symbol
  | .removePosition symbol' => symbol' = symbol
  | .run i _ => s.threads[i]?.bind (Thread.removes? s.world) = some symbol
  | _ => false

/-- A step that does not write the entry of `symbol` leaves it as it was. -/
theorem Sys.positions_step (s : Sys) (a : Action) {symbol : String}
    (h : s.writesEntry symbol a = false) :
    (s.step a).world.positions symbol = s.world.positions symbol := by
  cases a with
  | spawn call => rfl
  | run i env =>
    simp only [Sys.writesEntry, decide_eq_false_iff_not] at h
    simp only [Sys.step]
    rcases hi : s.threads[i]? with _ | t
    · rfl
    · simp only [hi, Option.some_bind] at h
      rw [Thread.step_positions]
      rcases hr : t.removes? s.world with _ | symbol'
      · rfl
      · rw [hr] at h
        exact Function.update_noteq (fun h' => h (congrArg some h'.symm)) _ _
  | registerPosition pos =>
    simp only [Sys.writesEntry, decide_eq_false_iff_not] at h
    simp [Sys.step, (registerPosition_newPosition s.world pos).1, Ne.symm h]
  | removePosition symbol' =>
    simp only [Sys.writesEntry, decide_eq_false_iff_not] at h
    simp [Sys.step, removePosition, Ne.symm h]
  | monitorAndExecute ref currentPrice env => simp [Sys.step]

end StopLossManager

/-! ## Filled closes -/

/-- The full close of `executeStopLoss`. -/
def TradeRequest.isStopLoss (request : TradeRequest) : Bool :=
  request.reason = .stopLoss

/-- The partial close of take-profit level `l`. -/
def TradeRequest.isLevel (request : TradeRequest) (l : Nat) : Bool :=
  match request.reason with
  | .takeProfit level _ => level = l
  | .stopLoss => false

/-- The close a gateway call shows the exchange filled for `symbol`. -/
def GatewayCall.filledClose? (symbol : String) : GatewayCall → Option TradeRequest
  | .executeTrade request result =>
    if result.success ∧ request.symbol = symbol then some request else none
  | _ => none

namespace StopLossManager

/-- The closes the exchange filled for `symbol`, in the order they were sent. -/
def filledCloses (symbol : String) (log : List GatewayCall) : List TradeRequest :=
  log.filterMap (GatewayCall.filledClose? symbol)

@[simp] theorem filledCloses_append (symbol : String) (log log' : List GatewayCall) :
    filledCloses symbol (log ++ log') = filledCloses symbol log ++ filledCloses symbol log' :=
  List.filterMap_append _ _ _

@[simp] theorem filledCloses_createOrder (symbol : String) (request : OrderRequest) (accepted : Bool) :
    filledCloses symbol [.createOrder request accepted] = [] := rfl

@[simp] theorem filledCloses_cancelOrder (symbol symbol' : String) (orderId : Int) (accepted : Bool) :
    filledCloses symbol [.cancelOrder symbol' orderId accepted] = [] := rfl

/-- What the exits read and write of a position: the fields its ladder is built from and
    those of its closes. -/
def exitView (pos : Position) : String × String × ℚ × ℚ × ℚ × Option TakeProfitConfig :=
  (pos.symbol, pos.side, pos.entryPrice, pos.initialStopLoss, pos.quantity, pos.takeProfitConfig)

open TakeProfitManager

/-- The ladder depends only on the side, the entry and the initial stop. -/
theorem ladder_congr {p q : Position} (hside : p.side = q.side) (hentry : p.entryPrice = q.entryPrice)
    (hstop : p.initialStopLoss = q.initialStopLoss) : ladder p = ladder q := by
  simp only [ladder, ladderTarget, hside, hentry, hstop]

/-- A position whose ladder fields are those of a ladder state is that ladder state over its
    own other fields. -/
theorem eq_ladderState_of_exitView {pos p₀ : Position} {marks : List (Nat × ℚ)}
    (h : exitView pos = exitView (ladderState p₀ marks)) :
    pos = ladderState { pos with quantity := p₀.quantity } marks ∧
      ladder { pos with quantity := p₀.quantity } = ladder p₀ := by
  simp only [exitView, Prod.mk.injEq, ladderState_symbol, ladderState_side, ladderState_entryPrice,
    ladderState_initialStopLoss] at h
  obtain ⟨-, hside, hentry, hstop, hq, hc⟩ := h
  have hl : ladder { pos with quantity := p₀.quantity } = ladder p₀ := ladder_congr hside hentry hstop
  simp only [ladderState] at hq hc
  refine ⟨?_, hl⟩
  rw [ladderState, hl]
  dsimp only
  rw [← hq, ← hc]

/-- The ladder fields of a ladder state over `p` are those over `p₀` when `p` agrees with
    `p₀` on the fields of `exitView` other than the ladder. -/
theorem exitView_ladderState (p : Position) {p₀ : Position} (hsymbol : p.symbol = p₀.symbol)
    (hl : ladder p = ladder p₀) (hside : p.side = p₀.side) (hentry : p.entryPrice = p₀.entryPrice)
    (hstop : p.initialStopLoss = p₀.initialStopLoss) (hq : p.quantity = p₀.quantity)
    (marks : List (Nat × ℚ)) :
    exitView (ladderState p marks) = exitView (ladderState p₀ marks) := by
  simp [exitView, ladderState, hsymbol, hl, hside, hentry, hstop, hq]

theorem ladder_drop_level {p : Position} {j : Nat} {level : TakeProfitLevel}
    {rest : List TakeProfitLevel} (h : (ladder p).drop j = level :: rest) :
    level.level = j + 1 ∧ j < 3 := by
  rcases j with _ | _ | _ | j <;> simp [ladder] at h ⊢ <;> simp [← h.1]

theorem remaining_nonneg (p : Position) (j : Nat) : 0 ≤ remaining (ladder p) j := by
  refine List.prod_nonneg fun x hx => ?_
  obtain ⟨l, hl, rfl⟩ := List.mem_map.mp hx
  have : l.percentage ≤ 1 := by
    have hl' := List.mem_of_mem_take hl
    simp only [ladder, List.mem_cons, List.mem_singleton, List.not_mem_nil, or_false] at hl'
    rcases hl' with rfl | rfl | rfl <;> norm_num
  linarith

/-- One `MonitorAndExecute` call on a position whose ladder is a ladder state either fills no
    close and leaves the ladder fields, or fills the partial close of the next level, which
    moves its quantity out of the position. -/
theorem monitorAndExecute_exits {pos p₀ : Position} {marks : List (Nat × ℚ)}
    (h : exitView pos = exitView (ladderState p₀ marks)) (currentPrice : ℚ) (env : Env) :
    let res := monitorAndExecute pos currentPrice env
    let fill := res.trade.bind fun x => GatewayCall.filledClose? p₀.symbol (.executeTrade x.1 x.2)
    (fill = none ∧ exitView res.pos = exitView pos) ∨
      ∃ request, fill = some request ∧ marks.length < 3 ∧
        (∃ ratio, request.reason = .takeProfit (marks.length + 1) ratio) ∧
        exitView res.pos = exitView (ladderState p₀ (marks ++ [(env.now, env.trade.price)])) ∧
        request.quantity + (ladderState p₀ (marks ++ [(env.now, env.trade.price)])).quantity =
          pos.quantity := by
  obtain ⟨hpos, hl⟩ := eq_ladderState_of_exitView h
  have hsymbol : pos.symbol = p₀.symbol := congrArg Prod.fst h
  have hview := exitView_ladderState { pos with quantity := p₀.quantity } hsymbol hl
    (congrArg (·.2.1) h) (congrArg (·.2.2.1) h) (congrArg (·.2.2.2.1) h) rfl
  dsimp only
  rw [hpos, monitorAndExecute_ladderState]
  cases hdrop : (ladder { pos with quantity := p₀.quantity }).drop marks.length with
  | nil => exact .inl ⟨rfl, rfl⟩
  | cons level rest =>
    obtain ⟨hlevel, hlt⟩ := ladder_drop_level hdrop
    dsimp only
    by_cases hr : targetReached pos.side currentPrice level
    · simp only [hr, if_true]
      cases hs : env.trade.success
      · exact .inl ⟨by simp [GatewayCall.filledClose?, hs], rfl⟩
      · refine .inr ⟨closeRequest (ladderState { pos with quantity := p₀.quantity } marks) level,
          by simp [GatewayCall.filledClose?, hs, closeRequest, hsymbol], hlt,
          ⟨level.riskRewardRatio, by simp [closeRequest, hlevel]⟩, hview _, ?_⟩
        rw [hl] at hdrop
        simp only [closeRequest, ladderState, List.length_append, List.length_singleton,
          remaining_succ hdrop, hl]
        ring
    · simp [hr, idle]

/-! ## Steps the exits do not see -/

/-- A change of the world that the exits do not see: nothing allocated, the registry as it
    was, the ladder fields of every position as they were, and no close filled. -/
structure ExitFrame (w w' : World) : Prop where
  nextRef : w'.nextRef = w.nextRef
  positions : w'.positions = w.positions
  view : ∀ ref, exitView (w'.heap ref) = exitView (w.heap ref)
  fills : ∀ symbol, filledCloses symbol w'.venue.log = filledCloses symbol w.venue.log

theorem ExitFrame.refl (w : World) : ExitFrame w w := ⟨rfl, rfl, fun _ => rfl, fun _ => rfl⟩

theorem ExitFrame.setPos (w : World) (ref : Nat) (pos : Position)
    (h : exitView pos = exitView (w.heap ref)) : ExitFrame w (w.setPos ref pos) :=
  ⟨rfl, rfl, World.setPos_heap_comp w ref pos exitView h, fun _ => rfl⟩

theorem ExitFrame.cancel (w : World) (ref : Nat) (env : Env) :
    ExitFrame w (cancelStopLossOrder w ref env).1 := by
  by_cases hid : (w.heap ref).stopLossOrderID = ""
  · rw [cancelStopLossOrder_untracked w ref env hid]; exact .refl w
  · rcases h : env.cancelError with _ | err
    · rw [cancelStopLossOrder_accepted w ref env hid h]
      exact ⟨rfl, rfl, (ExitFrame.setPos w ref { w.heap ref with stopLossOrderID := "" }
        rfl).view, fun _ => by simp [Venue.cancel]⟩
    · rw [cancelStopLossOrder_refused w ref env hid h]
      exact ⟨rfl, rfl, fun _ => rfl, fun _ => by simp [Venue.record]⟩

theorem ExitFrame.place (w : World) (ref : Nat) (stopPrice : ℚ) (env : Env) :
    ExitFrame w (placeStopLossOrder w ref stopPrice env).1 := by
  rcases h : env.placeError with _ | err
  · rw [placeStopLossOrder_accepted w ref env stopPrice h]
    exact ⟨rfl, rfl, (ExitFrame.setPos w ref { w.heap ref with
      stopLossOrderID := toString (w.venue.nextOrderId : Int) } rfl).view,
      fun _ => by simp [Venue.create]⟩
  · rw [placeStopLossOrder_refused w ref env stopPrice h]
    exact ⟨rfl, rfl, fun _ => rfl, fun _ => by simp [Venue.record]⟩

/-- No step of `UpdateStopLoss` is seen by the exits: it writes the stop, the order id and
    the history, and sends only order requests. -/
theorem updateStopLossStep_frame (w : World) (symbol : String) (newStopLoss : ℚ) (reason : String)
    (env : Env) (pc : UpdateStopLossPc) :
    ExitFrame w (updateStopLossStep w symbol newStopLoss reason env pc).1 := by
  cases pc with
  | lookup => simp only [updateStopLossStep]; split <;> exact .refl w
  | readStop ref => exact .refl w
  | check ref oldStop =>
    simp only [updateStopLossStep]; split
    · exact .refl w
    · exact .setPos w ref _ rfl
  | cancel ref oldStop => exact .cancel w ref env
  | place ref oldStop =>
    have hf := ExitFrame.place w ref newStopLoss env
    simp only [updateStopLossStep]
    rcases hp : placeStopLossOrder w ref newStopLoss env with ⟨w', _ | err⟩ <;> rw [hp] at hf <;>
      exact hf
  | commit ref oldStop => exact .setPos w ref _ rfl
  | done err => exact .refl w

/-! ## The exit law -/

/-- Whether an `UpdatePosition` call at `pc` is still running. -/
def UpdatePositionPc.running : UpdatePositionPc → Bool
  | .done _ => false
  | _ => true

/-- Whether an `UpdatePosition` call at `pc` is about to remove its symbol. -/
def UpdatePositionPc.removing : UpdatePositionPc → Bool
  | .remove _ => true
  | _ => false

/-- An `UpdatePosition` call in flight: its symbol and where it is. -/
def Thread.closer? : Thread → Option (String × UpdatePositionPc)
  | .updatePosition symbol _ pc => if pc.running then some (symbol, pc) else none
  | .updateStopLoss .. => none

/-- The `UpdatePosition` calls in flight. -/
def Sys.closers (s : Sys) : List (String × UpdatePositionPc) :=
  s.threads.filterMap Thread.closer?

/-- A thread that is no `UpdatePosition` call in flight stays so, and its step is not seen by
    the exits. -/
theorem Thread.step_bystander (w : World) (env : Env) {t : Thread} (h : t.closer? = none) :
    (t.step w env).2.closer? = none ∧ ExitFrame w (t.step w env).1 := by
  rcases t with ⟨symbol, n, reason, pc⟩ | ⟨symbol, p, pc⟩
  · exact ⟨rfl, updateStopLossStep_frame w symbol n reason env pc⟩
  · cases pc <;> simp [Thread.closer?, UpdatePositionPc.running] at h
    exact ⟨rfl, .refl w⟩

/-- A step of thread `i` changes the calls in flight only in its own place. -/
theorem Sys.closers_set (s : Sys) {i : Nat} {t : Thread} (hi : s.threads[i]? = some t)
    (t' : Thread) :
    ∃ pre post, s.closers = pre ++ t.closer?.toList ++ post ∧
      (s.threads.set i t').filterMap Thread.closer? = pre ++ t'.closer?.toList ++ post := by
  obtain ⟨hlt, rfl⟩ := List.getElem?_eq_some_iff.mp hi
  have hsplit (x : Thread) : (s.threads.take i ++ x :: s.threads.drop (i + 1)).filterMap
      Thread.closer? = (s.threads.take i).filterMap Thread.closer? ++ x.closer?.toList ++
        (s.threads.drop (i + 1)).filterMap Thread.closer? := by
    rcases hx : x.closer? with _ | c <;> simp [List.filterMap_cons, hx]
  refine ⟨(s.threads.take i).filterMap Thread.closer?,
    (s.threads.drop (i + 1)).filterMap Thread.closer?, ?_, ?_⟩
  · rw [Sys.closers, ← hsplit, List.getElem_cons_drop, List.take_append_drop]
  · rw [List.set_eq_take_append_cons_drop, if_pos hlt, hsplit]

section Exits

variable (p₀ : Position) (r : Nat)

/-- Position `r` is registered under the symbol of `p₀`, and no call is about to remove it
    after its close: what it holds can still be closed. -/
def exitsOpen (w : World) (closers : List (String × UpdatePositionPc)) : Bool :=
  w.positions p₀.symbol = some r && closers.all fun c => !c.2.removing

/-- Where an `UpdatePosition` call in flight may be: about to look the symbol up, holding `r`
    while `r` is registered, or about to remove the symbol after its close was filled. -/
def closerOk (w : World) : String × UpdatePositionPc → Prop
  | (symbol, .lookup) => symbol = p₀.symbol
  | (_, .updatePrice ref) | (_, .trigger ref) | (_, .close ref) =>
    ref = r ∧ w.positions p₀.symbol = some r
  | (_, .remove ref) => ref = r
  | (_, .done _) => True

/-- The steps the exit law allows from `s`: an `UpdatePosition` call on the symbol starts, the
    symbol is removed, and `MonitorAndExecute` runs on `r` while it is registered, only when no
    `UpdatePosition` call is in flight, and no other position is registered under the symbol.
    `UpdateStopLoss` calls, the steps of the calls in flight and the registration of other
    symbols are free. -/
def Sys.exitStep (s : Sys) : Action → Bool
  | .spawn (.updatePosition symbol _) => symbol = p₀.symbol && s.closers.isEmpty
  | .spawn (.updateStopLoss ..) | .run .. => true
  | .registerPosition pos => pos.symbol ≠ p₀.symbol
  | .removePosition symbol => symbol ≠ p₀.symbol || s.closers.isEmpty
  | .monitorAndExecute ref _ _ =>
    ref = r && s.world.positions p₀.symbol = some r && s.closers.isEmpty

/-- The invariant of the exit law, for position `r` built from `p₀`. Only `r` is ever
    registered under the symbol; the ladder is a ladder state, and the filled level closes are
    those of its executed levels; no full close was filled while the position can still be
    closed, and at most one after; what was filled and what can still be closed add up to at
    most the quantity at registration; at most one `UpdatePosition` call is in flight. -/
structure ExitInv (w : World) (closers : List (String × UpdatePositionPc)) : Prop where
  lt_nextRef : r < w.nextRef
  registry : w.positions p₀.symbol = some r ∨ w.positions p₀.symbol = none
  levels : ∃ marks : List (Nat × ℚ), marks.length ≤ 3 ∧
    exitView (w.heap r) = exitView (ladderState p₀ marks) ∧
    ∀ l, (filledCloses p₀.symbol w.venue.log).countP (·.isLevel l) ≤
      if l ≤ marks.length then 1 else 0
  stop_closes : (filledCloses p₀.symbol w.venue.log).countP (·.isStopLoss) ≤
    if exitsOpen p₀ r w closers then 0 else 1
  budget : ((filledCloses p₀.symbol w.venue.log).map (·.quantity)).sum +
      (if exitsOpen p₀ r w closers then (w.heap r).quantity else 0) ≤ p₀.quantity
  closers : closers = [] ∨ ∃ c, closers = [c] ∧ closerOk p₀ r w c

variable {p₀ r}

theorem closerOk_congr {w w' : World} (h : w'.positions p₀.symbol = w.positions p₀.symbol)
    (c : String × UpdatePositionPc) : closerOk p₀ r w' c ↔ closerOk p₀ r w c := by
  rcases c with ⟨symbol, _ | _ | _ | _ | _ | _⟩ <;> simp [closerOk, h]

/-- The invariant survives a change of the world that keeps the entry of the symbol, the
    ladder fields of `r` and the filled closes, and allocates nothing away. -/
theorem ExitInv.of_world {w w' : World} {cs : List (String × UpdatePositionPc)}
    (h : ExitInv p₀ r w cs) (hnext : w.nextRef ≤ w'.nextRef)
    (hpos : w'.positions p₀.symbol = w.positions p₀.symbol)
    (hview : exitView (w'.heap r) = exitView (w.heap r))
    (hfills : filledCloses p₀.symbol w'.venue.log = filledCloses p₀.symbol w.venue.log) :
    ExitInv p₀ r w' cs := by
  have hopen : exitsOpen p₀ r w' cs = exitsOpen p₀ r w cs := by simp [exitsOpen, hpos]
  have hquantity : (w'.heap r).quantity = (w.heap r).quantity := congrArg (·.2.2.2.2.1) hview
  obtain ⟨hlt, hreg, ⟨marks, hlen, hl, hlevels⟩, hstop, hbudget, hcs⟩ := h
  refine ⟨hlt.trans_le hnext, hpos ▸ hreg, ⟨marks, hlen, hview ▸ hl, hfills ▸ hlevels⟩,
    hfills ▸ hopen ▸ hstop, hfills ▸ hopen ▸ hquantity ▸ hbudget, ?_⟩
  simpa only [closerOk_congr hpos] using hcs

/-- The invariant survives a change of the calls in flight that keeps whether the position
    can still be closed. -/
theorem ExitInv.retarget {w : World} {cs cs' : List (String × UpdatePositionPc)}
    (h : ExitInv p₀ r w cs) (hopen : exitsOpen p₀ r w cs' = exitsOpen p₀ r w cs)
    (hcs : cs' = [] ∨ ∃ c, cs' = [c] ∧ closerOk p₀ r w c) : ExitInv p₀ r w cs' :=
  ⟨h.lt_nextRef, h.registry, h.levels, hopen ▸ h.stop_closes, hopen ▸ h.budget, hcs⟩

theorem ExitInv.quantity_nonneg (hq : 0 ≤ p₀.quantity) {w : World}
    {cs : List (String × UpdatePositionPc)} (h : ExitInv p₀ r w cs) : 0 ≤ (w.heap r).quantity := by
  obtain ⟨marks, -, hl, -⟩ := h.levels
  rw [show (w.heap r).quantity = p₀.quantity * remaining (ladder p₀) marks.length from
    congrArg (·.2.2.2.2.1) hl]
  exact mul_nonneg hq (remaining_nonneg p₀ _)

theorem ExitInv.held_nonneg (hq : 0 ≤ p₀.quantity) {w : World}
    {cs : List (String × UpdatePositionPc)} (h : ExitInv p₀ r w cs) :
    0 ≤ if exitsOpen p₀ r w cs then (w.heap r).quantity else 0 := by
  split
  · exact h.quantity_nonneg hq
  · exact le_rfl

theorem ExitInv.symbol_eq {w : World} {cs : List (String × UpdatePositionPc)}
    (h : ExitInv p₀ r w cs) : (w.heap r).symbol = p₀.symbol := by
  obtain ⟨marks, -, hl, -⟩ := h.levels
  exact congrArg Prod.fst hl

/-- One step of the `UpdatePosition` call in flight keeps the invariant. -/
theorem ExitInv.step_closer {w : World} {symbol : String} {currentPrice : ℚ}
    {pc : UpdatePositionPc} (h : ExitInv p₀ r w [(symbol, pc)])
    (hok : closerOk p₀ r w (symbol, pc)) (env : Env) :
    ExitInv p₀ r (Thread.step w env (.updatePosition symbol currentPrice pc)).1
      (Thread.step w env (.updatePosition symbol currentPrice pc)).2.closer?.toList := by
  cases pc with
  | lookup =>
    simp only [closerOk] at hok
    subst hok
    simp only [Thread.step, updatePositionStep]
    rcases h.registry with hreg | hreg <;> simp only [hreg]
    · exact h.retarget rfl (.inr ⟨_, rfl, rfl, hreg⟩)
    · exact h.retarget rfl (.inl rfl)
  | updatePrice ref =>
    obtain ⟨rfl, hreg⟩ := hok
    have h' : ExitInv p₀ ref w [(symbol, .trigger ref)] :=
      h.retarget (by simp [exitsOpen, UpdatePositionPc.removing]) (.inr ⟨_, rfl, rfl, hreg⟩)
    exact h'.of_world le_rfl rfl
      (by simp [exitView, Thread.step, updatePositionStep, Position.updatePrice]) rfl
  | trigger ref =>
    obtain ⟨rfl, hreg⟩ := hok
    simp only [Thread.step, updatePositionStep]
    split
    · exact h.retarget rfl (.inr ⟨_, rfl, rfl, hreg⟩)
    · exact h.retarget rfl (.inl rfl)
  | close ref =>
    obtain ⟨rfl, hreg⟩ := hok
    have hopen : exitsOpen p₀ ref w [(symbol, .close ref)] = true := by
      simp [exitsOpen, hreg, UpdatePositionPc.removing]
    simp only [Thread.step, updatePositionStep]
    cases hs : env.trade.success
    · refine (h.retarget ?_ (.inl rfl)).of_world le_rfl rfl rfl ?_
      · simp [exitsOpen, UpdatePositionPc.removing, hreg]
      · simp [Venue.record, filledCloses, GatewayCall.filledClose?, hs]
    · have hfills : filledCloses p₀.symbol
          (w.record (.executeTrade (stopLossCloseRequest (w.heap ref)) env.trade)).venue.log =
            filledCloses p₀.symbol w.venue.log ++ [stopLossCloseRequest (w.heap ref)] := by
        simp [Venue.record, filledCloses, GatewayCall.filledClose?, hs, stopLossCloseRequest,
          h.symbol_eq]
      obtain ⟨hlt, hreg', ⟨marks, hlen, hl, hlevels⟩, hstop, hbudget, -⟩ := h
      rw [hopen, if_pos rfl] at hstop hbudget
      simp only [eq_self_iff_true, if_true, Thread.closer?, UpdatePositionPc.running, Option.toList]
      refine ⟨hlt, hreg', ⟨marks, hlen, hl, fun l => ?_⟩, ?_, ?_, .inr ⟨_, rfl, rfl⟩⟩
      · rw [hfills]
        simpa [List.countP_append, TradeRequest.isLevel, stopLossCloseRequest] using hlevels l
      · rw [hfills, List.countP_append, Nat.le_zero.mp hstop]
        simp [TradeRequest.isStopLoss, stopLossCloseRequest, exitsOpen, UpdatePositionPc.removing]
      · rw [hfills]
        simpa [exitsOpen, UpdatePositionPc.removing, stopLossCloseRequest] using hbudget
  | remove ref =>
    obtain rfl := hok
    have hclosed : exitsOpen p₀ ref w [(symbol, .remove ref)] = false := by
      simp [exitsOpen, UpdatePositionPc.removing]
    have hsymbol := h.symbol_eq
    obtain ⟨hlt, -, hlevels, hstop, hbudget, -⟩ := h
    rw [hclosed] at hstop hbudget
    simp only [Thread.step, updatePositionStep, Thread.closer?, UpdatePositionPc.running, hsymbol,
      Bool.false_eq_true, if_false, Option.toList]
    have hclosed' : exitsOpen p₀ ref (removePosition w p₀.symbol) [] = false := by
      simp [exitsOpen, removePosition]
    refine ⟨hlt, .inr (by simp [removePosition]), hlevels, ?_, ?_, .inl rfl⟩
    · rw [hclosed']; simpa using hstop
    · rw [hclosed']; simpa using hbudget
  | done err =>
    simp only [Thread.step, updatePositionStep, Thread.closer?, UpdatePositionPc.running]
    exact h.retarget (by simp [exitsOpen, UpdatePositionPc.removing]) (.inl rfl)

theorem filledCloses_singleton (symbol : String) (c : GatewayCall) :
    filledCloses symbol [c] = (c.filledClose? symbol).toList := by
  rcases h : c.filledClose? symbol with _ | request <;> simp [filledCloses, h]

theorem World.monitorAndExecute_fills (w : World) (ref : Nat) (currentPrice : ℚ) (env : Env)
    (symbol : String) :
    filledCloses symbol (w.monitorAndExecute ref currentPrice env).1.venue.log =
      filledCloses symbol w.venue.log ++
        ((monitorAndExecute (w.heap ref) currentPrice env).trade.bind fun x =>
          GatewayCall.filledClose? symbol (.executeTrade x.1 x.2)).toList := by
  simp only [World.monitorAndExecute]
  split <;> simp_all [Venue.record, filledCloses_singleton]

/-- A `MonitorAndExecute` call on the registered position, with no `UpdatePosition` call in
    flight, keeps the invariant. -/
theorem ExitInv.monitor {w : World} (h : ExitInv p₀ r w [])
    (hreg : w.positions p₀.symbol = some r) (currentPrice : ℚ) (env : Env) :
    ExitInv p₀ r (w.monitorAndExecute r currentPrice env).1 [] := by
  obtain ⟨marks, hlen, hl, hlevels⟩ := h.levels
  have hfills := World.monitorAndExecute_fills w r currentPrice env p₀.symbol
  rcases monitorAndExecute_exits hl currentPrice env with ⟨hfill, hview⟩ |
    ⟨request, hfill, hlt, ⟨ratio, hreason⟩, hview, hquantity⟩
  · rw [hfill, Option.toList_none, List.append_nil] at hfills
    exact h.of_world (by simp) (by simp) (by simpa using hview) hfills
  · rw [hfill, Option.toList_some] at hfills
    have hopen : ∀ w' : World, w'.positions = w.positions → exitsOpen p₀ r w' [] = true := by
      intro w' hw'; simp [exitsOpen, hw', hreg]
    have hstop := h.stop_closes
    have hbudget := h.budget
    rw [hopen w rfl, if_pos rfl] at hstop hbudget
    refine ⟨by simpa using h.lt_nextRef, .inl (by simpa using hreg),
      ⟨marks ++ [(env.now, env.trade.price)], by simp; omega, by simpa using hview, fun l => ?_⟩,
      ?_, ?_, .inl rfl⟩
    · have := hlevels l
      have hlevel : request.isLevel l = decide (marks.length + 1 = l) := by
        simp [TradeRequest.isLevel, hreason]
      rw [hfills, List.countP_append, List.countP_singleton, hlevel]
      simp only [List.length_append, List.length_singleton, decide_eq_true_eq]
      split_ifs at this ⊢ <;> omega
    · rw [hfills, List.countP_append, hopen _ (by simp), if_pos rfl]
      simpa [TradeRequest.isStopLoss, hreason] using hstop
    · rw [hfills, hopen _ (by simp), if_pos rfl, World.monitorAndExecute_heap_self,
        show (TakeProfitManager.monitorAndExecute (w.heap r) currentPrice env).pos.quantity =
          (ladderState p₀ (marks ++ [(env.now, env.trade.price)])).quantity from
          congrArg (·.2.2.2.2.1) hview]
      simp only [List.map_append, List.map_cons, List.map_nil, List.sum_append, List.sum_cons,
        List.sum_nil, add_zero]
      linarith

/-- `RemovePosition` of the symbol, with no `UpdatePosition` call in flight, keeps the
    invariant: what the position held can no longer be closed. -/
theorem ExitInv.unregister (hq : 0 ≤ p₀.quantity) {w : World} (h : ExitInv p₀ r w []) :
    ExitInv p₀ r (removePosition w p₀.symbol) [] := by
  have hclosed : exitsOpen p₀ r (removePosition w p₀.symbol) [] = false := by
    simp [exitsOpen, removePosition]
  have hv : (removePosition w p₀.symbol).venue = w.venue := rfl
  refine ⟨h.lt_nextRef, .inr (by simp [removePosition]), h.levels, ?_, ?_, .inl rfl⟩
  · rw [hclosed, hv]; exact h.stop_closes.trans (by split <;> simp)
  · rw [hclosed, hv, if_neg (by simp), add_zero]
    exact le_trans (le_add_of_nonneg_right (h.held_nonneg hq)) h.budget

/-- The call in flight is the only one. -/
theorem ExitInv.closer_eq {w : World} {pre post : List (String × UpdatePositionPc)}
    {c : String × UpdatePositionPc} (h : ExitInv p₀ r w (pre ++ [c] ++ post)) :
    pre = [] ∧ post = [] ∧ closerOk p₀ r w c := by
  rcases h.closers with hnil | ⟨c', hone, hok⟩
  · simp at hnil
  have hlen := congrArg List.length hone
  simp only [List.length_append, List.length_singleton] at hlen
  obtain ⟨rfl, rfl⟩ : pre = [] ∧ post = [] :=
    ⟨List.eq_nil_of_length_eq_zero (by omega), List.eq_nil_of_length_eq_zero (by omega)⟩
  obtain rfl : c = c' := by simpa using hone
  exact ⟨rfl, rfl, hok⟩

/-- Every step the exit law allows keeps the invariant. -/
theorem ExitInv.step (hq : 0 ≤ p₀.quantity) {s : Sys} (h : ExitInv p₀ r s.world s.closers)
    {a : Action} (ha : s.exitStep p₀ r a = true) :
    ExitInv p₀ r (s.step a).world (s.step a).closers := by
  cases a with
  | spawn call =>
    have hcl : (s.step (.spawn call)).closers = s.closers ++ call.start.closer?.toList := by
      rcases hc : call.start.closer? with _ | c <;> simp [Sys.step, Sys.closers, hc]
    rw [hcl]
    cases call with
    | updateStopLoss symbol n reason => simpa [Call.start, Thread.closer?] using h
    | updatePosition symbol price =>
      simp only [Sys.exitStep, Bool.and_eq_true, decide_eq_true_eq, List.isEmpty_iff] at ha
      obtain ⟨rfl, hidle⟩ := ha
      rw [hidle] at h ⊢
      exact h.retarget (by simp [exitsOpen, Call.start, Thread.closer?, UpdatePositionPc.running,
        UpdatePositionPc.removing]) (.inr ⟨(p₀.symbol, .lookup), by simp [Call.start,
          Thread.closer?, UpdatePositionPc.running], rfl⟩)
  | run i env =>
    rcases hi : s.threads[i]? with _ | t
    · simpa [Sys.step, hi] using h
    obtain ⟨pre, post, hcs, hcs'⟩ := s.closers_set hi (t.step s.world env).2
    have hstep : s.step (.run i env) =
        ⟨(t.step s.world env).1, s.threads.set i (t.step s.world env).2⟩ := by
      simp [Sys.step, hi]
    rw [hstep, Sys.closers, hcs']
    rcases hc : t.closer? with _ | c
    · obtain ⟨hc', hf⟩ := Thread.step_bystander s.world env hc
      rw [hc', Option.toList_none, List.append_nil]
      rw [hc, Option.toList_none, List.append_nil] at hcs
      rw [← hcs]
      exact h.of_world hf.nextRef.ge (by rw [hf.positions]) (hf.view r) (hf.fills _)
    · rw [hc, Option.toList_some] at hcs
      rw [hcs] at h
      obtain ⟨rfl, rfl, hok⟩ := h.closer_eq
      rcases t with ⟨_, _, _, _⟩ | ⟨symbol, price, pc⟩
      · simp [Thread.closer?] at hc
      have hc' : c = (symbol, pc) := by
        simp only [Thread.closer?] at hc; split at hc <;> simp_all
      subst hc'
      simpa using h.step_closer hok env
  | registerPosition pos =>
    simp only [Sys.exitStep, decide_eq_true_eq] at ha
    obtain ⟨hpos, hnext, hheap⟩ := registerPosition_newPosition s.world pos
    exact h.of_world (by simp [Sys.step, hnext]) (by simp [Sys.step, hpos, Ne.symm ha])
      (by simp [Sys.step, hheap r h.lt_nextRef]) rfl
  | removePosition symbol =>
    simp only [Sys.exitStep, Bool.or_eq_true, decide_eq_true_eq, List.isEmpty_iff] at ha
    by_cases hs : symbol = p₀.symbol
    · subst hs
      have hidle := ha.resolve_left (not_not.mpr rfl)
      rw [hidle] at h
      simp only [Sys.step, Sys.closers] at hidle ⊢
      rw [hidle]
      exact h.unregister hq
    · exact h.of_world le_rfl (by simp [Sys.step, removePosition, Ne.symm hs]) rfl rfl
  | monitorAndExecute ref currentPrice env =>
    simp only [Sys.exitStep, Bool.and_eq_true, decide_eq_true_eq, List.isEmpty_iff] at ha
    obtain ⟨⟨rfl, hreg⟩, hidle⟩ := ha
    rw [hidle] at h
    simpa [Sys.step, Sys.closers, ← hidle] using h.monitor hreg currentPrice env

theorem ExitInv.run (hq : 0 ≤ p₀.quantity) (as : List Action) :
    ∀ s : Sys, ExitInv p₀ r s.world s.closers →
      (∀ k (hk : k < as.length), (s.run (as.take k)).exitStep p₀ r as[k] = true) →
      ExitInv p₀ r (s.run as).world (s.run as).closers := by
  induction as with
  | nil => exact fun s h _ => h
  | cons a as ih =>
    intro s h hex
    have ha : s.exitStep p₀ r a = true := by simpa using hex 0 (by simp)
    exact ih (s.step a) (h.step hq ha) fun k hk => by simpa using hex (k + 1) (by simpa using hk)

end Exits

/-- `InitializeTakeProfitLevels` on `p₀`, then `RegisterPosition` of it, with no call in
    flight. -/
def exitStart (w : World) (p₀ : Position) : Sys :=
  ⟨registerPosition (w.newPosition (initializeTakeProfitLevels p₀)) w.nextRef, []⟩

theorem ExitInv.start (w : World) (p₀ : Position) (hlog : filledCloses p₀.symbol w.venue.log = []) :
    ExitInv p₀ w.nextRef (exitStart w p₀).world (exitStart w p₀).closers := by
  obtain ⟨hpos, hnext, -⟩ := registerPosition_newPosition w (initializeTakeProfitLevels p₀)
  have hsymbol : (initializeTakeProfitLevels p₀).symbol = p₀.symbol := by
    simp [initializeTakeProfitLevels_eq]
  have hreg : (exitStart w p₀).world.positions p₀.symbol = some w.nextRef := by
    simp [exitStart, hpos, hsymbol]
  have hheap : (exitStart w p₀).world.heap w.nextRef = { initializeTakeProfitLevels p₀ with
      highestPrice := p₀.entryPrice, currentPrice := p₀.entryPrice, stopLossType := "fixed" } := by
    simp [exitStart, registerPosition, World.newPosition, initializeTakeProfitLevels_eq]
  have hfills : filledCloses p₀.symbol (exitStart w p₀).world.venue.log = [] := hlog
  refine ⟨by simp [exitStart, hnext], .inl hreg, ⟨[], by simp, ?_, by simp [hfills]⟩,
    by simp [hfills], ?_, .inl rfl⟩
  · rw [hheap, ← initializeTakeProfitLevels_ladderState]; rfl
  · have hcl : (exitStart w p₀).closers = [] := rfl
    simp [hfills, exitsOpen, hreg, hheap, hcl, initializeTakeProfitLevels_eq]

/-- The exits under the exclusion the code does not take: from a fresh registration of a
    ladder with no filled close yet for its symbol, over every schedule of exit steps
    (`Sys.exitStep`: no two `UpdatePosition` calls on the symbol in flight at once, and
    `MonitorAndExecute` only on the registered position while none is), at most one full
    close and one close per level fill, and the fills never exceed the quantity. The model
    takes each `MonitorAndExecute` call as one step, so the exclusion includes that no two of
    them overlap, which the unlocked code does not ensure either. -/
theorem exits_at_most_once_under_exclusion (w : World) (p₀ : Position) (hq : 0 ≤ p₀.quantity)
    (hlog : filledCloses p₀.symbol w.venue.log = []) (as : List Action)
    (hex : ∀ k (hk : k < as.length),
      ((exitStart w p₀).run (as.take k)).exitStep p₀ w.nextRef as[k] = true) :
    let fills := filledCloses p₀.symbol ((exitStart w p₀).run as).world.venue.log
    fills.countP (·.isStopLoss) ≤ 1 ∧ (∀ l, fills.countP (·.isLevel l) ≤ 1) ∧
      (fills.map (·.quantity)).sum ≤ p₀.quantity := by
  have h := ExitInv.run hq as _ (ExitInv.start w p₀ hlog) hex
  obtain ⟨marks, -, -, hlevels⟩ := h.levels
  exact ⟨h.stop_closes.trans (by split <;> simp), fun l => (hlevels l).trans (by split <;> simp),
    le_trans (le_add_of_nonneg_right (h.held_nonneg hq)) h.budget⟩

/-- Two `UpdatePosition` calls at 85 both find the stop at 90 hit before either has closed:
    both fill the full close of the position's quantity 1. -/
theorem double_stop_close :
    let env : Env := ⟨none, none, ⟨true, 85, ""⟩, 0⟩
    let as : List Action :=
      [.spawn (.updatePosition "BTCUSDT" 85), .spawn (.updatePosition "BTCUSDT" 85),
       .run 0 env, .run 0 env, .run 0 env, .run 1 env, .run 1 env, .run 1 env,
       .run 0 env, .run 1 env]
    let fills := filledCloses "BTCUSDT" ((exitStart World.init btcLong).run as).world.venue.log
    btcLong.quantity = 1 ∧ fills.countP (·.isStopLoss) = 2 ∧ fills.map (·.quantity) = [1, 1] := by
  decide

end StopLossManager

end TradingBot
