import TradingBot.Spec.StopLossUpdate

/-!
# The stop orders at the exchange and the registry

Runs of `StopLossManager` as one call at a time (`Run`): `RegisterPosition` of a new
position under a symbol not registered yet, `PlaceInitialStopLoss` on a registered
position, `UpdateStopLoss` and `UpdatePosition`, each with any replies of the exchange.

The order a registered position tracks in `StopLossOrderID` always rests at the exchange.
Every other resting order was stranded by one of three paths of the code, which `strands`
names: a new order placed while the position still tracked an accepted one
(`PlaceInitialStopLoss` on a protected position, or `UpdateStopLoss` after its cancel was
refused), or a stop-loss close that succeeded while the position tracked an order, since
`executeStopLoss` removes the position without cancelling its stop order. `Run` collects
the stranded ids; in a run that strands none, the resting orders placed for a symbol are
exactly the one its position tracks.

Cancelling by id rests on the `%d` text of an id scanning back (`parseInt64_toString`), so
the statements assume the exchange has handed out ids within `int64`.

## Key results

- `MirrorInv`: the invariant, one field per fact, and one lemma per building block of a
  call that keeps it (`MirrorInv.place`, `MirrorInv.cancel`, `MirrorInv.remove`, ...).
- `resting_orders_mirror_registry`: at every state of a run, the tracked order rests and
  every other resting order of the symbol was stranded.
-/

namespace TradingBot

namespace StopLossManager

/-- The calls of a run. -/
inductive Op where
  | registerPosition (pos : Position)
  | placeInitialStopLoss (ref : Nat)
  | updateStopLoss (symbol : String) (newStopLoss : ℚ) (reason : String)
  | updatePosition (symbol : String) (currentPrice : ℚ)

namespace Op

/-- The world after the call, `RegisterPosition` being given a fresh pointer. -/
def apply (w : World) (env : Env) : Op → World
  | .registerPosition pos => StopLossManager.registerPosition (w.newPosition pos) w.nextRef
  | .placeInitialStopLoss ref => (StopLossManager.placeInitialStopLoss w ref env).1
  | .updateStopLoss symbol newStopLoss reason =>
    (StopLossManager.updateStopLoss w symbol newStopLoss reason env).1
  | .updatePosition symbol currentPrice =>
    (StopLossManager.updatePosition w symbol currentPrice env).1

/-- The calls the runs make: a new position, without a stop order yet, is registered under a
    symbol not registered yet; `PlaceInitialStopLoss` is given a registered position. -/
def Allowed (w : World) : Op → Prop
  | .registerPosition pos => w.positions pos.symbol = none ∧ pos.stopLossOrderID = ""
  | .placeInitialStopLoss ref => w.positions (w.heap ref).symbol = some ref
  | .updateStopLoss .. => True
  | .updatePosition .. => True

/-- The order id a call strands: the id its position tracked when the call placed a new
    order that the exchange accepted without the old one being cancelled, or when it closed
    the position. -/
def strands (w : World) (env : Env) : Op → Option String
  | .registerPosition _ => none
  | .placeInitialStopLoss ref =>
    if (w.heap ref).stopLossOrderID ≠ "" ∧ env.placeError = none then
      some (w.heap ref).stopLossOrderID
    else none
  | .updateStopLoss symbol newStopLoss _ =>
    match w.positions symbol with
    | none => none
    | some ref =>
      let pos := w.heap ref
      if stopMoveError pos.side pos.currentStopLoss newStopLoss = none ∧ pos.stopLossOrderID ≠ "" ∧
          env.cancelError ≠ none ∧ env.placeError = none then some pos.stopLossOrderID
      else none
  | .updatePosition symbol currentPrice =>
    match w.positions symbol with
    | none => none
    | some ref =>
      let pos := w.heap ref
      if (pos.updatePrice currentPrice).shouldTriggerStopLoss = true ∧ env.trade.success = true ∧
          pos.stopLossOrderID ≠ "" then some pos.stopLossOrderID
      else none

end Op

/-- The runs from a fresh manager, with the ids of the orders stranded on the way. -/
inductive Run : World → List String → Prop
  | init : Run World.init []
  | step {w : World} {stranded : List String} (h : Run w stranded) (op : Op) (env : Env)
      (hallowed : op.Allowed w) : Run (op.apply w env) (stranded ++ (op.strands w env).toList)

/-- The order id the position registered under `symbol` tracks, if any. -/
def trackedIds (w : World) (symbol : String) : List String :=
  match w.positions symbol with
  | some ref => if (w.heap ref).stopLossOrderID = "" then [] else [(w.heap ref).stopLossOrderID]
  | none => []

/-- The invariant of the runs: ids are below the next one and name one order each, a
    registered pointer holds a position of its symbol and was allocated, a tracked order
    rests, and a resting order is tracked or stranded. -/
structure MirrorInv (w : World) (stranded : List String) : Prop where
  lt_nextOrderId : ∀ o ∈ w.venue.resting, o.orderId < w.venue.nextOrderId
  orderId_inj : ∀ o ∈ w.venue.resting, ∀ o' ∈ w.venue.resting, o.orderId = o'.orderId → o = o'
  symbol_eq : ∀ symbol ref, w.positions symbol = some ref → (w.heap ref).symbol = symbol
  lt_nextRef : ∀ symbol ref, w.positions symbol = some ref → ref < w.nextRef
  tracked_rests : ∀ symbol ref, w.positions symbol = some ref →
    (w.heap ref).stopLossOrderID ≠ "" → ∃ o ∈ w.venue.resting, o.request.placedFor = symbol ∧
      o.request.symbol = getBinanceSymbolFor symbol ∧
      (w.heap ref).stopLossOrderID = toString (o.orderId : Int)
  rests_tracked : ∀ o ∈ w.venue.resting,
    (∃ ref, w.positions o.request.placedFor = some ref ∧
      (w.heap ref).stopLossOrderID = toString (o.orderId : Int)) ∨
    toString (o.orderId : Int) ∈ stranded

namespace MirrorInv

variable {w : World} {stranded : List String}

private theorem toList_ite {c : Prop} [Decidable c] (x : String) :
    (if c then some x else none).toList = if c then [x] else [] := by
  split <;> rfl

theorem init : MirrorInv World.init [] :=
  ⟨by simp [World.init], by simp [World.init], by simp [World.init], by simp [World.init],
    by simp [World.init], by simp [World.init]⟩

/-- Only the symbols and order ids of positions matter. -/
theorem setPos (hinv : MirrorInv w stranded) (ref : Nat) (pos : Position)
    (hsym : pos.symbol = (w.heap ref).symbol) (hid : pos.stopLossOrderID = (w.heap ref).stopLossOrderID) :
    MirrorInv (w.setPos ref pos) stranded := by
  have hs := World.setPos_heap_comp w ref pos Position.symbol hsym
  have hi := World.setPos_heap_comp w ref pos Position.stopLossOrderID hid
  exact ⟨hinv.lt_nextOrderId, hinv.orderId_inj, by simpa [hs] using hinv.symbol_eq,
    hinv.lt_nextRef, by simpa [hi] using hinv.tracked_rests, by simpa [hi] using hinv.rests_tracked⟩

theorem record (hinv : MirrorInv w stranded) (call : GatewayCall) :
    MirrorInv (w.record call) stranded :=
  ⟨hinv.lt_nextOrderId, hinv.orderId_inj, hinv.symbol_eq, hinv.lt_nextRef, hinv.tracked_rests,
    hinv.rests_tracked⟩

/-- Removing a registered symbol strands the order its position tracked. -/
theorem remove (hinv : MirrorInv w stranded) {symbol : String} {ref : Nat}
    (h : w.positions symbol = some ref) :
    MirrorInv (removePosition w symbol)
      (stranded ++ if (w.heap ref).stopLossOrderID ≠ "" then [(w.heap ref).stopLossOrderID] else []) := by
  have hpos : ∀ s, (removePosition w symbol).positions s = if s = symbol then none else w.positions s := by
    intro s; by_cases hs : s = symbol <;> simp [removePosition, hs]
  refine ⟨hinv.lt_nextOrderId, hinv.orderId_inj, ?_, ?_, ?_, ?_⟩
  · intro s r hr; rw [hpos] at hr; split at hr
    · cases hr
    · exact hinv.symbol_eq s r hr
  · intro s r hr; rw [hpos] at hr; split at hr
    · cases hr
    · exact hinv.lt_nextRef s r hr
  · intro s r hr; rw [hpos] at hr; split at hr
    · cases hr
    · exact hinv.tracked_rests s r hr
  · intro o ho
    rcases hinv.rests_tracked o ho with ⟨r, hr, hid⟩ | hs
    · by_cases hsym : o.request.placedFor = symbol
      · rw [hsym, h] at hr; cases hr
        right; simp [hid, toString_ne_empty]
      · left; exact ⟨r, by rw [hpos, if_neg hsym]; exact hr, hid⟩
    · right; simp [hs]

/-- Registering a new position, without a stop order, under a free symbol. -/
theorem register (hinv : MirrorInv w stranded) {pos : Position} (hfree : w.positions pos.symbol = none)
    (hid : pos.stopLossOrderID = "") :
    MirrorInv (StopLossManager.registerPosition (w.newPosition pos) w.nextRef) stranded := by
  set w' := StopLossManager.registerPosition (w.newPosition pos) w.nextRef
  have hpos : ∀ s, w'.positions s = if s = pos.symbol then some w.nextRef else w.positions s := by
    intro s; by_cases hs : s = pos.symbol <;> simp [w', registerPosition, World.newPosition, hs]
  have hnew : (w'.heap w.nextRef).symbol = pos.symbol ∧ (w'.heap w.nextRef).stopLossOrderID = "" := by
    simp [w', registerPosition, World.newPosition, hid]
  have hold : ∀ r, r < w.nextRef → w'.heap r = w.heap r := by
    intro r hr; simp [w', registerPosition, World.newPosition, Nat.ne_of_lt hr]
  have hvenue : w'.venue = w.venue := rfl
  have hnext : w'.nextRef = w.nextRef + 1 := rfl
  refine ⟨hinv.lt_nextOrderId, hinv.orderId_inj, ?_, ?_, ?_, ?_⟩
  · intro s r hr; rw [hpos] at hr; split at hr
    · cases hr; rename_i hs; rw [hnew.1, hs]
    · rw [hold r (hinv.lt_nextRef s r hr)]; exact hinv.symbol_eq s r hr
  · intro s r hr; rw [hpos] at hr; split at hr
    · cases hr; omega
    · have := hinv.lt_nextRef s r hr; omega
  · intro s r hr; rw [hpos] at hr; split at hr
    · cases hr; simp [hnew.2]
    · rw [hold r (hinv.lt_nextRef s r hr), hvenue]; exact hinv.tracked_rests s r hr
  · intro o ho
    rcases hinv.rests_tracked o ho with ⟨r, hr, hid'⟩ | hs
    · have hne : o.request.placedFor ≠ pos.symbol := by rintro heq; rw [heq, hfree] at hr; cases hr
      exact .inl ⟨r, by rw [hpos, if_neg hne]; exact hr, by rw [hold r (hinv.lt_nextRef _ r hr), hid']⟩
    · exact .inr hs

/-- A place for a registered position: the new order is tracked, and the order tracked
    before is stranded if the exchange accepts the new one. -/
theorem place (hinv : MirrorInv w stranded) {ref : Nat}
    (h : w.positions (w.heap ref).symbol = some ref) (stopPrice : ℚ) (env : Env) :
    MirrorInv (placeStopLossOrder w ref stopPrice env).1
      (stranded ++ if (w.heap ref).stopLossOrderID ≠ "" ∧ env.placeError = none then
        [(w.heap ref).stopLossOrderID] else []) := by
  rcases hp : env.placeError with _ | err
  · rw [placeStopLossOrder_accepted w ref env stopPrice hp]
    set new : StopOrder := ⟨stopOrderRequest (w.heap ref) stopPrice, w.venue.nextOrderId⟩
    have hmem : ∀ o, o ∈ (w.venue.create (stopOrderRequest (w.heap ref) stopPrice)).resting ↔
        o ∈ w.venue.resting ∨ o = new := by
      simp [Venue.create, new]
    have hfresh : ∀ o ∈ w.venue.resting, o ≠ new := fun o ho he => by
      have := hinv.lt_nextOrderId o ho; rw [he] at this; exact lt_irrefl _ this
    have hs := World.setPos_heap_comp w ref
      { w.heap ref with stopLossOrderID := toString (w.venue.nextOrderId : Int) } Position.symbol rfl
    refine ⟨?_, ?_, ?_, hinv.lt_nextRef, ?_, ?_⟩
    · intro o ho
      rcases (hmem o).mp ho with ho | rfl
      · exact Nat.lt_succ_of_lt (hinv.lt_nextOrderId o ho)
      · exact Nat.lt_succ_self _
    · intro o ho o' ho' heq
      rcases (hmem o).mp ho with ho | rfl <;> rcases (hmem o').mp ho' with ho' | rfl
      · exact hinv.orderId_inj o ho o' ho' heq
      · exact absurd (heq ▸ hinv.lt_nextOrderId o ho) (lt_irrefl _)
      · exact absurd (heq.symm ▸ hinv.lt_nextOrderId o' ho') (lt_irrefl _)
      · rfl
    · intro sym r hr; rw [hs]; exact hinv.symbol_eq sym r hr
    · intro sym r hr hid
      by_cases hrr : r = ref
      · subst hrr
        have hsym := hinv.symbol_eq sym r hr
        exact ⟨new, (hmem new).mpr (.inr rfl), by simp [new, stopOrderRequest, hsym],
          by simp [new, stopOrderRequest, hsym], by simp [new]⟩
      · obtain ⟨o, ho, hfor⟩ := hinv.tracked_rests sym r hr (by simpa [hrr] using hid)
        exact ⟨o, (hmem o).mpr (.inl ho), by simpa [hrr] using hfor⟩
    · intro o ho
      rcases (hmem o).mp ho with ho | rfl
      · rcases hinv.rests_tracked o ho with ⟨r, hr, hid⟩ | hst
        · by_cases hrr : r = ref
          · subst hrr
            right; simp [hid, hp, toString_ne_empty]
          · exact .inl ⟨r, hr, by simpa [hrr] using hid⟩
        · right; simp [hst]
      · exact .inl ⟨ref, by simpa [new, stopOrderRequest] using h, by simp [new]⟩
  · rw [placeStopLossOrder_refused w ref env stopPrice hp]
    simpa using hinv.record _

/-- An accepted cancel removes the tracked order and nothing else. -/
theorem cancel (hinv : MirrorInv w stranded) {ref : Nat}
    (h : w.positions (w.heap ref).symbol = some ref) (hids : w.venue.nextOrderId ≤ 2 ^ 63)
    (env : Env) : MirrorInv (cancelStopLossOrder w ref env).1 stranded := by
  by_cases hid : (w.heap ref).stopLossOrderID = ""
  · rwa [cancelStopLossOrder_untracked w ref env hid]
  rcases hc : env.cancelError with _ | err
  · rw [cancelStopLossOrder_accepted w ref env hid hc]
    obtain ⟨t, ht, htfor, htsym, htid⟩ := hinv.tracked_rests _ ref h hid
    have hlt : ∀ o ∈ w.venue.resting, o.orderId < 2 ^ 63 := fun o ho =>
      lt_of_lt_of_le (hinv.lt_nextOrderId o ho) hids
    have hparse : parseInt64 (w.heap ref).stopLossOrderID = t.orderId := by
      rw [htid, parseInt64_toString _ (hlt t ht)]
    have hmem : ∀ o, o ∈ (w.venue.cancel (getBinanceSymbolFor (w.heap ref).symbol)
        (parseInt64 (w.heap ref).stopLossOrderID)).resting ↔ o ∈ w.venue.resting ∧ o ≠ t := by
      intro o
      simp only [Venue.cancel, List.mem_filter, hparse, Bool.not_eq_true', Bool.and_eq_false_iff,
        decide_eq_false_iff_not, Nat.cast_inj]
      constructor
      · rintro ⟨ho, hne⟩; refine ⟨ho, ?_⟩; rintro rfl; rcases hne with hne | hne <;> simp_all
      · rintro ⟨ho, hne⟩; exact ⟨ho, .inr fun heq => hne (hinv.orderId_inj o ho t ht heq)⟩
    have hi : ∀ r, r ≠ ref →
        ((w.setPos ref { w.heap ref with stopLossOrderID := "" }).heap r) = w.heap r :=
      fun r hr => World.setPos_heap_of_ne w _ hr
    have hs := World.setPos_heap_comp w ref { w.heap ref with stopLossOrderID := "" }
      Position.symbol rfl
    refine ⟨fun o ho => hinv.lt_nextOrderId o ((hmem o).mp ho).1,
      fun o ho o' ho' => hinv.orderId_inj o ((hmem o).mp ho).1 o' ((hmem o').mp ho').1,
      fun sym r hr => by rw [hs]; exact hinv.symbol_eq sym r hr, hinv.lt_nextRef, ?_, ?_⟩
    · intro sym r hr hid'
      change w.positions sym = some r at hr
      have hrr : r ≠ ref := by rintro rfl; simp at hid'
      rw [hi r hrr] at hid' ⊢
      obtain ⟨o, ho, hfor, hsym, hoid⟩ := hinv.tracked_rests sym r hr hid'
      have hne : o ≠ t := by
        rintro rfl
        rw [htfor] at hfor
        rw [hfor] at h
        exact hrr (Option.some_injective _ (hr.symm.trans h))
      exact ⟨o, (hmem o).mpr ⟨ho, hne⟩, hfor, hsym, hoid⟩
    · intro o hmem'
      obtain ⟨ho, hne⟩ := (hmem o).mp hmem'
      rcases hinv.rests_tracked o ho with ⟨r, hr, hid'⟩ | hst
      · have hrr : r ≠ ref := by
          rintro rfl
          exact hne (hinv.orderId_inj o ho t ht
            (toString_inj_of_lt (hlt o ho) (hlt t ht) (hid'.symm.trans htid)))
        exact .inl ⟨r, hr, by rw [hi r hrr]; exact hid'⟩
      · exact .inr hst
  · rw [cancelStopLossOrder_refused w ref env hid hc]
    exact hinv.record _

/-- `UpdateStopLoss` past its direction check strands the tracked order exactly when the
    cancel was refused and the new order accepted. -/
theorem replace (hinv : MirrorInv w stranded) {ref : Nat}
    (h : w.positions (w.heap ref).symbol = some ref) (hids : w.venue.nextOrderId ≤ 2 ^ 63)
    (oldStop newStopLoss : ℚ) (reason : String) (env : Env) :
    MirrorInv (replaceStopLoss w ref oldStop newStopLoss reason env).1
      (stranded ++ if (w.heap ref).stopLossOrderID ≠ "" ∧ env.cancelError ≠ none ∧
        env.placeError = none then [(w.heap ref).stopLossOrderID] else []) := by
  set w₁ := w.setPos ref ((w.heap ref).addStopLossEvent oldStop newStopLoss reason "llm")
  have h₁ : w₁.positions (w₁.heap ref).symbol = some ref := by simpa [w₁] using h
  obtain ⟨hp₂, -, hself₂, -⟩ := cancelStopLossOrder_frame w₁ ref env
  set w₂ := (cancelStopLossOrder w₁ ref env).1
  have h₂ : w₂.positions (w₂.heap ref).symbol = some ref := by rw [hp₂, hself₂]; exact h₁
  have hinv₂ : MirrorInv w₂ stranded :=
    (hinv.setPos ref ((w.heap ref).addStopLossEvent oldStop newStopLoss reason "llm") rfl rfl).cancel
      h₁ hids env
  have hid₂ : (w₂.heap ref).stopLossOrderID =
      if (w.heap ref).stopLossOrderID ≠ "" ∧ env.cancelError = none then ""
      else (w.heap ref).stopLossOrderID := by
    simpa [w₁] using cancelStopLossOrder_id w₁ ref env
  have hinv₃ := hinv₂.place h₂ newStopLoss env
  have hcond : ((w₂.heap ref).stopLossOrderID ≠ "" ∧ env.placeError = none) ↔
      ((w.heap ref).stopLossOrderID ≠ "" ∧ env.cancelError ≠ none ∧ env.placeError = none) := by
    rw [hid₂]; split_ifs with hc <;> simp_all
  have hsame : (w₂.heap ref).stopLossOrderID ≠ "" → (w₂.heap ref).stopLossOrderID =
      (w.heap ref).stopLossOrderID := by
    rw [hid₂]; split_ifs <;> simp
  have hlist : (if (w₂.heap ref).stopLossOrderID ≠ "" ∧ env.placeError = none then
        [(w₂.heap ref).stopLossOrderID] else []) =
      if (w.heap ref).stopLossOrderID ≠ "" ∧ env.cancelError ≠ none ∧ env.placeError = none then
        [(w.heap ref).stopLossOrderID] else [] := by
    by_cases hc : (w₂.heap ref).stopLossOrderID ≠ "" ∧ env.placeError = none
    · rw [if_pos hc, if_pos (hcond.mp hc), hsame hc.1]
    · rw [if_neg hc, if_neg (mt hcond.mpr hc)]
  rw [hlist] at hinv₃
  have hr : replaceStopLoss w ref oldStop newStopLoss reason env =
      match placeStopLossOrder w₂ ref newStopLoss env with
      | (w, some err) => (w, some ("下止损单失败: " ++ err))
      | (w, none) => (w.setPos ref { w.heap ref with currentStopLoss := newStopLoss }, none) := rfl
  rw [hr]
  rcases hplace : placeStopLossOrder w₂ ref newStopLoss env with ⟨w₃, _ | err⟩ <;>
    rw [hplace] at hinv₃
  · exact hinv₃.setPos ref _ rfl rfl
  · exact hinv₃

/-- Every allowed call keeps the invariant, with the id it strands collected. -/
theorem apply (hinv : MirrorInv w stranded) (op : Op) (env : Env) (hallowed : op.Allowed w)
    (hids : w.venue.nextOrderId ≤ 2 ^ 63) :
    MirrorInv (op.apply w env) (stranded ++ (op.strands w env).toList) := by
  cases op with
  | registerPosition pos =>
    simpa [Op.apply, Op.strands] using hinv.register hallowed.1 hallowed.2
  | placeInitialStopLoss ref =>
    have := hinv.place hallowed (w.heap ref).initialStopLoss env
    simpa only [Op.apply, Op.strands, placeInitialStopLoss, toList_ite] using this
  | updateStopLoss symbol newStopLoss reason =>
    simp only [Op.apply, Op.strands]
    rcases hreg : w.positions symbol with _ | ref
    · rw [updateStopLoss_unregistered w symbol newStopLoss reason env hreg]; simpa using hinv
    · have h : w.positions (w.heap ref).symbol = some ref := by
        rw [hinv.symbol_eq _ _ hreg]; exact hreg
      rcases hdir : stopMoveError (w.heap ref).side (w.heap ref).currentStopLoss newStopLoss with
        _ | err
      · rw [updateStopLoss_accepted w symbol newStopLoss reason env hreg hdir]
        have := hinv.replace h hids (w.heap ref).currentStopLoss newStopLoss reason env
        simp only [true_and]
        simpa only [hdir, true_and, toList_ite] using this
      · rw [updateStopLoss_rejected w symbol newStopLoss reason env hreg hdir]
        simpa [hdir] using hinv
  | updatePosition symbol currentPrice =>
    simp only [Op.apply, Op.strands]
    rcases hreg : w.positions symbol with _ | ref
    · rw [updatePosition_unregistered w env symbol currentPrice hreg]; simpa using hinv
    · rw [updatePosition_registered w ref env symbol currentPrice hreg]
      have hinv₁ := hinv.setPos ref ((w.heap ref).updatePrice currentPrice) rfl rfl
      by_cases ht : ((w.heap ref).updatePrice currentPrice).shouldTriggerStopLoss = true
      · rw [if_pos ht]
        cases hs : env.trade.success
        · rw [executeStopLoss_failed _ ref env hs]; simpa [hs] using hinv₁.record _
        · rw [executeStopLoss_succeeded _ ref env hs]
          have hreg₁ : w.positions (w.heap ref).symbol = some ref := by
            rw [hinv.symbol_eq _ _ hreg]; exact hreg
          have h₁ := (hinv₁.record (.executeTrade (stopLossCloseRequest (w.heap ref)) env.trade)).remove
            hreg₁
          simp only [ht, hs, true_and, toList_ite]
          simpa using h₁
      · rw [if_neg ht]; simpa [ht] using hinv₁

end MirrorInv

theorem Op.nextOrderId_le_apply (w : World) (env : Env) (op : Op) :
    w.venue.nextOrderId ≤ (op.apply w env).venue.nextOrderId := by
  cases op with
  | registerPosition pos => exact le_rfl
  | placeInitialStopLoss ref => exact placeStopLossOrder_nextOrderId w ref env _
  | updateStopLoss symbol newStopLoss reason =>
    simp only [Op.apply]
    rcases hreg : w.positions symbol with _ | ref
    · rw [updateStopLoss_unregistered w symbol newStopLoss reason env hreg]
    · rcases hdir : stopMoveError (w.heap ref).side (w.heap ref).currentStopLoss newStopLoss with
        _ | err
      · rw [updateStopLoss_accepted w symbol newStopLoss reason env hreg hdir]
        set w₁ := w.setPos ref ((w.heap ref).addStopLossEvent (w.heap ref).currentStopLoss
          newStopLoss reason "llm")
        have hc := cancelStopLossOrder_nextOrderId w₁ ref env
        have hp := placeStopLossOrder_nextOrderId (cancelStopLossOrder w₁ ref env).1 ref env newStopLoss
        show w.venue.nextOrderId ≤ (match placeStopLossOrder (cancelStopLossOrder w₁ ref env).1 ref
            newStopLoss env with
          | (w, some err) => (w, some ("下止损单失败: " ++ err))
          | (w, none) => (w.setPos ref { w.heap ref with currentStopLoss := newStopLoss }, none)).1.venue.nextOrderId
        split <;> simp_all [w₁]
      · rw [updateStopLoss_rejected w symbol newStopLoss reason env hreg hdir]
  | updatePosition symbol currentPrice =>
    simp only [Op.apply]
    rcases hreg : w.positions symbol with _ | ref
    · rw [updatePosition_unregistered w env symbol currentPrice hreg]
    · rw [updatePosition_registered w ref env symbol currentPrice hreg]
      split
      · cases hs : env.trade.success
        · rw [executeStopLoss_failed _ ref env hs]; exact le_rfl
        · rw [executeStopLoss_succeeded _ ref env hs]; exact le_rfl
      · exact le_rfl

/-- The invariant holds along every run whose ids stay within `int64`. -/
theorem Run.mirrorInv {w : World} {stranded : List String} (h : Run w stranded)
    (hids : w.venue.nextOrderId ≤ 2 ^ 63) : MirrorInv w stranded := by
  induction h with
  | init => exact MirrorInv.init
  | step _ op env hallowed ih =>
    have hle := (Op.nextOrderId_le_apply _ env op).trans hids
    exact (ih hle).apply op env hallowed hle

theorem resting_orders_mirror_registry {w : World} {stranded : List String} (h : Run w stranded)
    (hids : w.venue.nextOrderId ≤ 2 ^ 63) (symbol : String) :
    (∀ id ∈ trackedIds w symbol, ∃ o ∈ w.venue.resting,
      o.request.placedFor = symbol ∧ toString (o.orderId : Int) = id) ∧
    ∀ o ∈ w.venue.resting, o.request.placedFor = symbol →
      toString (o.orderId : Int) ∈ trackedIds w symbol ∨ toString (o.orderId : Int) ∈ stranded := by
  have hinv := h.mirrorInv hids
  constructor
  · intro id hid
    unfold trackedIds at hid
    split at hid
    · rename_i ref hreg
      split_ifs at hid with he
      · simp at hid
      · rw [List.mem_singleton] at hid
        obtain ⟨o, ho, hfor, -, hoid⟩ := hinv.tracked_rests symbol ref hreg he
        exact ⟨o, ho, hfor, hoid.symm.trans hid.symm⟩
    · simp at hid
  · intro o ho hfor
    rcases hinv.rests_tracked o ho with ⟨r, hr, hid⟩ | hs
    · left; rw [hfor] at hr; simp [trackedIds, hr, hid, toString_ne_empty]
    · exact .inr hs


/-- `btcLong` registered, protected by its initial stop, and closed by it at 85, the
    exchange accepting every request. -/
def stoppedOut : World :=
  let env : Env := ⟨none, none, ⟨true, 85, ""⟩, 0⟩
  (Op.updatePosition "BTCUSDT" 85).apply
    ((Op.placeInitialStopLoss 0).apply ((Op.registerPosition btcLong).apply World.init env) env) env

/-- The run to `stoppedOut` strands the initial stop order, whose id is `"1"`. -/
theorem run_stoppedOut :
    Run stoppedOut ["1"] ∧ stoppedOut.positions "BTCUSDT" = none ∧
      stoppedOut.venue.nextOrderId = 2 ∧
      stoppedOut.venue.resting = [⟨stopOrderRequest btcLong 90, 1⟩] := by
  let env : Env := ⟨none, none, ⟨true, 85, ""⟩, 0⟩
  let w₁ := (Op.registerPosition btcLong).apply World.init env
  have hp₁ : w₁.positions "BTCUSDT" = some 0 := by
    simp [w₁, Op.apply, registerPosition, World.newPosition, World.init, btcLong]
  have hh₁ : w₁.heap 0 = btcLong := by
    simp [w₁, Op.apply, registerPosition, World.newPosition, World.init, btcLong]
  let w₂ := (Op.placeInitialStopLoss 0).apply w₁ env
  have hw₂ : w₂ = _ := congrArg Prod.fst (placeStopLossOrder_accepted w₁ 0 env (w₁.heap 0).initialStopLoss rfl)
  have hid : toString (w₁.venue.nextOrderId : Int) = "1" := by decide
  have hh₂ : w₂.heap 0 = { btcLong with stopLossOrderID := "1" } := by
    rw [hw₂]; simp [hh₁, hid]
  have hp₂ : w₂.positions "BTCUSDT" = some 0 := by rw [hw₂]; exact hp₁
  have hside : "long" ≠ "short" := by decide
  have htrig : ((w₂.heap 0).updatePrice 85).shouldTriggerStopLoss = true := by
    norm_num [hh₂, Position.updatePrice, Position.shouldTriggerStopLoss, btcLong]
  have hclose : stoppedOut = removePosition (w₂.setPos 0 ((w₂.heap 0).updatePrice 85) |>.record
      (.executeTrade (stopLossCloseRequest (w₂.heap 0)) env.trade)) (w₂.heap 0).symbol := by
    show (updatePosition w₂ "BTCUSDT" 85 env).1 = _
    rw [updatePosition_registered w₂ 0 env "BTCUSDT" 85 hp₂, if_pos htrig,
      executeStopLoss_succeeded _ 0 env rfl]
    simp
  have hrun : Run stoppedOut ([] ++ none.toList ++ none.toList ++ (some "1").toList) := by
    have h₁ : Run w₁ ([] ++ none.toList) := Run.step Run.init (.registerPosition btcLong) env ⟨rfl, rfl⟩
    have h₂ : Run w₂ ([] ++ none.toList ++ none.toList) := by
      have := Run.step h₁ (.placeInitialStopLoss 0) env (by simpa [Op.Allowed, hh₁, btcLong] using hp₁)
      simpa [Op.strands, hh₁, btcLong] using this
    have := Run.step h₂ (.updatePosition "BTCUSDT" 85) env trivial
    simpa [Op.strands, hp₂, htrig, hh₂, env] using this
  have hv₂ : w₂.venue = w₁.venue.create (stopOrderRequest btcLong 90) := by rw [hw₂, hh₁]; rfl
  have hv : stoppedOut.venue.resting = w₂.venue.resting ∧
      stoppedOut.venue.nextOrderId = w₂.venue.nextOrderId := by
    rw [hclose]; exact ⟨rfl, rfl⟩
  refine ⟨by simpa using hrun, ?_, by rw [hv.2, hv₂]; rfl, by rw [hv.1, hv₂]; rfl⟩
  rw [hclose, hh₂]
  simp [removePosition, btcLong]

theorem resting_orders_mirror_registry_after_stop :
    Run stoppedOut ["1"] ∧ stoppedOut.venue.nextOrderId ≤ 2 ^ 63 ∧
      (∀ id ∈ trackedIds stoppedOut "BTCUSDT", ∃ o ∈ stoppedOut.venue.resting,
        o.request.placedFor = "BTCUSDT" ∧ toString (o.orderId : Int) = id) ∧
      ∀ o ∈ stoppedOut.venue.resting, o.request.placedFor = "BTCUSDT" →
        toString (o.orderId : Int) ∈ trackedIds stoppedOut "BTCUSDT" ∨
          toString (o.orderId : Int) ∈ ["1"] :=
  have h := run_stoppedOut
  have hb : stoppedOut.venue.nextOrderId ≤ 2 ^ 63 := by rw [h.2.2.1]; norm_num
  ⟨h.1, hb, resting_orders_mirror_registry h.1 hb "BTCUSDT"⟩

theorem stop_order_outlives_its_position :
    Run stoppedOut ["1"] ∧ stoppedOut.positions "BTCUSDT" = none ∧
      ∃ o ∈ stoppedOut.venue.resting, o.request.placedFor = "BTCUSDT" := by
  obtain ⟨hrun, hpos, -, hres⟩ := run_stoppedOut
  exact ⟨hrun, hpos, ⟨stopOrderRequest btcLong 90, 1⟩, by simp [hres], rfl⟩

end StopLossManager

end TradingBot
