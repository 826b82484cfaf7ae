import TradingBot.Native.Agents

/-!
# Every schedule of the workflow is the pipeline

The graph `BuildGraph` compiles stands for a pipeline: the market analyst, the crypto
analyst, the sentiment analyst, the position summary and the trader, one after another.
`serialRun` runs that pipeline, from the state a `Run` starts with, over the nodes that
finished. Whatever order the scheduler starts ready nodes in, with whatever replies, the
shared state and the graph's output are the pipeline's over the nodes that finished: a node
starts only after the nodes it reads from, and the nodes that may overlap (the sentiment
analyst and the three nodes before the trader) write different fields and commute.

So the trader always reads the four reports of its own `Run`, never a missing or stale one;
when the candles cannot be fetched, nothing after the market analyst runs; and without a
usable chat model the decision is the rule-based one, which always advises to hold.

## Key results

- `workflow_serializable`: every schedule is the pipeline over its finished nodes.
- `workflow_completes`: when the fetch succeeds the graph never deadlocks.
- `workflow_ohlcv_failure`: a failed fetch stops everything after the market analyst.
- `workflow_step_comm`: nodes that may run at the same time commute.
- `workflow_trader_reads_all_reports`, `workflow_rule_decision`: what the trader reads and
  decides.
-/

namespace TradingBot

/-- Writing one text field of `AgentState` leaves the others as they were. -/
@[simp] theorem AgentState.report_setReport (s : AgentState) (r r' : Report) (text : String) :
    (s.setReport r text).report r' = if r' = r then text else s.report r' := by
  cases r <;> cases r' <;> rfl

namespace SimpleTradingGraph

variable {cfg : AgentConfig} {env : AgentReplies}

/-! ## The pipeline the graph stands for -/

/-- One node of the pipeline: its body on the state so far, changing nothing if it fails. -/
def serialStep (cfg : AgentConfig) (env : AgentReplies) (acc : AgentState × Option TraderOutput)
    (n : Node) : AgentState × Option TraderOutput :=
  match runNode cfg env n acc.1 with
  | .ok (s, out) => (s, out.or acc.2)
  | .error _ => acc

/-- The nodes in `done` run one after another, in the order `BuildGraph` adds them, from the
    state `s₀`. -/
def serialRun (cfg : AgentConfig) (env : AgentReplies) (s₀ : AgentState) (done : Node → Bool) :
    AgentState × Option TraderOutput :=
  Node.all.foldl (fun acc n => if done n then serialStep cfg env acc n else acc) (s₀, none)

/-! ## One step -/

/-- The market analyst's writes when its fetch succeeds. -/
def marketWrite (r : OHLCVReply) (s : AgentState) : AgentState :=
  ({ s with ohlcvData := r.candles, technicalIndicators := r.indicators }).setMarketReport r.report

theorem runNode_marketAnalyst_of_ok {r : OHLCVReply}
    (h : env.getOHLCV cfg.binanceSymbol cfg.cryptoTimeframe cfg.cryptoLookbackDays = .ok r)
    (s : AgentState) : runNode cfg env .marketAnalyst s = .ok (marketWrite r s, none) := by
  simp only [runNode, marketAnalyst, h]; rfl

theorem runNode_marketAnalyst_of_error {err : String}
    (h : env.getOHLCV cfg.binanceSymbol cfg.cryptoTimeframe cfg.cryptoLookbackDays = .error err)
    (s : AgentState) : runNode cfg env .marketAnalyst s = .error ("failed to fetch OHLCV: " ++ err) := by
  simp only [runNode, marketAnalyst, h]; rfl

@[simp] theorem runNode_cryptoAnalyst (s : AgentState) :
    runNode cfg env .cryptoAnalyst s = .ok (cryptoAnalyst cfg env s, none) := rfl

@[simp] theorem runNode_sentimentAnalyst (s : AgentState) :
    runNode cfg env .sentimentAnalyst s = .ok (sentimentAnalyst env s, none) := rfl

@[simp] theorem runNode_positionInfo (s : AgentState) :
    runNode cfg env .positionInfo s = .ok (positionInfo cfg env s, none) := rfl

@[simp] theorem runNode_trader (s : AgentState) :
    runNode cfg env .trader s = .ok ((trader cfg env s).1, some (trader cfg env s).2) := rfl

/-- Only the market analyst fails, with the error of its fetch. -/
theorem runNode_error {n : Node} {s : AgentState} {e : String}
    (h : runNode cfg env n s = .error e) :
    n = .marketAnalyst ∧ ∃ err, env.getOHLCV cfg.binanceSymbol cfg.cryptoTimeframe
      cfg.cryptoLookbackDays = .error err ∧ e = "failed to fetch OHLCV: " ++ err := by
  cases n with
  | marketAnalyst =>
    simp only [runNode, marketAnalyst] at h
    split at h
    · next err herr => exact ⟨rfl, err, herr, by cases h; rfl⟩
    · cases h
  | _ => cases h

theorem runNode_marketAnalyst_cases (cfg : AgentConfig) (env : AgentReplies) :
    (∃ err, ∀ s, runNode cfg env .marketAnalyst s = .error ("failed to fetch OHLCV: " ++ err)) ∨
      ∃ r, ∀ s, runNode cfg env .marketAnalyst s = .ok (marketWrite r s, none) := by
  rcases hm : env.getOHLCV cfg.binanceSymbol cfg.cryptoTimeframe cfg.cryptoLookbackDays with err | r
  · exact .inl ⟨err, runNode_marketAnalyst_of_error hm⟩
  · exact .inr ⟨r, runNode_marketAnalyst_of_ok hm⟩

theorem Workflow.step_of_not_ready {w : Workflow} {n : Node} (h : w.ready n = false) :
    w.step cfg env n = w := by
  simp [Workflow.step, h]

theorem Workflow.step_of_ok {w : Workflow} {n : Node} {s : AgentState} {out : Option TraderOutput}
    (h : w.ready n = true) (hrun : runNode cfg env n w.state = .ok (s, out)) :
    w.step cfg env n =
      { w with state := s, done := Function.update w.done n true, result := out.or w.result } := by
  simp [Workflow.step, h, hrun]

theorem Workflow.step_of_error {w : Workflow} {n : Node} {e : String} (h : w.ready n = true)
    (hrun : runNode cfg env n w.state = .error e) :
    w.step cfg env n = { w with error := Function.update w.error n (some e) } := by
  simp [Workflow.step, h, hrun]

/-- What one step can do: nothing when the node is not ready, or the node's body, which
    either finishes it or records its error. -/
theorem Workflow.step_cases (cfg : AgentConfig) (env : AgentReplies) (w : Workflow) (n : Node) :
    (w.ready n = false ∧ w.step cfg env n = w) ∨
    (w.ready n = true ∧ ∃ s out, runNode cfg env n w.state = .ok (s, out) ∧
      w.step cfg env n =
        { w with state := s, done := Function.update w.done n true, result := out.or w.result }) ∨
    (w.ready n = true ∧ ∃ e, runNode cfg env n w.state = .error e ∧
      w.step cfg env n = { w with error := Function.update w.error n (some e) }) := by
  cases hr : w.ready n
  · exact .inl ⟨rfl, Workflow.step_of_not_ready hr⟩
  · rcases hrun : runNode cfg env n w.state with e | ⟨s, out⟩
    · exact .inr (.inr ⟨rfl, e, rfl, Workflow.step_of_error hr hrun⟩)
    · exact .inr (.inl ⟨rfl, s, out, rfl, Workflow.step_of_ok hr hrun⟩)

theorem Workflow.ready_iff (w : Workflow) (n : Node) :
    w.ready n = true ↔ w.done n = false ∧ w.error n = none ∧ ∀ p ∈ n.preds, w.done p = true := by
  simp [Workflow.ready, Option.isNone_iff_eq_none, and_assoc]

/-- A step of `n` leaves whether another node `m` is ready as it was, unless `m` waits
    for `n`. -/
theorem Workflow.ready_step_of_ne {w : Workflow} {n m : Node} (hne : n ≠ m) (hpre : n ∉ m.preds) :
    (w.step cfg env n).ready m = w.ready m := by
  have hp : ∀ p ∈ m.preds, p ≠ n := fun p hp e => hpre (e ▸ hp)
  rcases Workflow.step_cases cfg env w n with ⟨-, hw⟩ | ⟨-, s, out, -, hw⟩ | ⟨-, e, -, hw⟩ <;>
    rw [hw]
  · rw [Bool.eq_iff_iff, Workflow.ready_iff, Workflow.ready_iff]
    simp only [Function.update_noteq hne.symm]
    exact and_congr_right' (and_congr_right' (forall₂_congr fun p hmem => by
      rw [Function.update_noteq (hp p hmem)]))
  · rw [Bool.eq_iff_iff, Workflow.ready_iff, Workflow.ready_iff]
    simp only [Function.update_noteq hne.symm]

/-- Steps never undo a finished node. -/
theorem Workflow.done_step {w : Workflow} {m : Node} (h : w.done m = true) (n : Node) :
    (w.step cfg env n).done m = true := by
  rcases Workflow.step_cases cfg env w n with ⟨-, hw⟩ | ⟨-, s, out, -, hw⟩ | ⟨-, e, -, hw⟩ <;>
    rw [hw]
  · exact h
  · dsimp only; rw [Function.update_apply]; split <;> simp [h]
  · exact h

theorem Workflow.run_append (w : Workflow) (l l' : List Node) :
    w.run cfg env (l ++ l') = (w.run cfg env l).run cfg env l' :=
  List.foldl_append _ _ _ _

/-! ## The pipeline over the finished nodes -/

/-- Every node but the sentiment analyst and the trader fails whatever the state, or writes
    fields the sentiment analyst leaves, with no output. -/
theorem runNode_writer (cfg : AgentConfig) (env : AgentReplies) {n : Node}
    (hn : n ≠ .sentimentAnalyst) (ht : n ≠ .trader) :
    (∃ e, ∀ s, runNode cfg env n s = .error e) ∨
      ∃ g : AgentState → AgentState, (∀ s, runNode cfg env n s = .ok (g s, none)) ∧
        ∀ s, g (sentimentAnalyst env s) = sentimentAnalyst env (g s) := by
  cases n with
  | marketAnalyst =>
    rcases runNode_marketAnalyst_cases cfg env with ⟨_, he⟩ | ⟨r, hr⟩
    · exact .inl ⟨_, he⟩
    · exact .inr ⟨marketWrite r, hr, fun _ => rfl⟩
  | cryptoAnalyst => exact .inr ⟨cryptoAnalyst cfg env, runNode_cryptoAnalyst, fun _ => rfl⟩
  | positionInfo => exact .inr ⟨positionInfo cfg env, runNode_positionInfo, fun _ => rfl⟩
  | sentimentAnalyst => exact absurd rfl hn
  | trader => exact absurd rfl ht

/-- In the pipeline the sentiment analyst commutes with every node but the trader. -/
theorem serialStep_comm_sentimentAnalyst {n : Node} (hn : n ≠ .sentimentAnalyst)
    (ht : n ≠ .trader) (acc : AgentState × Option TraderOutput) :
    serialStep cfg env (serialStep cfg env acc n) .sentimentAnalyst =
      serialStep cfg env (serialStep cfg env acc .sentimentAnalyst) n := by
  rcases runNode_writer cfg env hn ht with ⟨e, he⟩ | ⟨g, hg, hcomm⟩
  · simp only [serialStep, he, runNode_sentimentAnalyst]
  · simp only [serialStep, hg, runNode_sentimentAnalyst, hcomm]

/-- Folding `f` but with `g` at `n` over a list holding `n` once, where `f` skips `n` and
    its steps after `n` commute with `g`, is folding `f` and then applying `g`. -/
theorem foldl_ite_eq {α β : Type} [DecidableEq β] (f : α → β → α) (g : α → α) {n : β}
    {pre post : List β} (hpre : n ∉ pre) (hpost : n ∉ post) (hskip : ∀ a, f a n = a)
    (hcomm : ∀ m ∈ post, ∀ a, f (g a) m = g (f a m)) (a : α) :
    (pre ++ n :: post).foldl (fun a m => if m = n then g a else f a m) a =
      g ((pre ++ n :: post).foldl f a) := by
  have hsame : ∀ {l : List β}, n ∉ l → ∀ a,
      l.foldl (fun a m => if m = n then g a else f a m) a = l.foldl f a := fun hl a =>
    List.foldl_ext _ _ _ fun a m hm => if_neg fun (e : m = n) => hl (e ▸ hm)
  have hpush : ∀ {l : List β}, (∀ m ∈ l, ∀ a, f (g a) m = g (f a m)) →
      ∀ a, l.foldl f (g a) = g (l.foldl f a) := by
    intro l
    induction l with
    | nil => intro _ _; rfl
    | cons m l ih =>
      intro h a
      rw [List.foldl_cons, List.foldl_cons, h m (List.mem_cons_self _ _) a,
        ih fun m hm => h m (List.mem_cons_of_mem _ hm)]
  rw [List.foldl_append, List.foldl_cons, if_pos rfl, hsame hpre, hsame hpost, hpush hcomm,
    List.foldl_append, List.foldl_cons, hskip]

/-- Running a ready node on the pipeline's state over the finished nodes gives the
    pipeline's state over them and the node: the nodes after it in the order of `BuildGraph`
    that have finished are ones it commutes with. -/
theorem serialRun_update {done : Node → Bool} {n : Node}
    (hclosed : ∀ m, done m = true → ∀ p ∈ m.preds, done p = true)
    (hn : done n = false) (hpre : ∀ p ∈ n.preds, done p = true) :
    serialRun cfg env s₀ (Function.update done n true) =
      serialStep cfg env (serialRun cfg env s₀ done) n := by
  let f := fun acc m => if done m = true then serialStep cfg env acc m else acc
  have hstep : (fun acc m => if Function.update done n true m = true then
      serialStep cfg env acc m else acc) =
        fun acc m => if m = n then serialStep cfg env acc n else f acc m := by
    funext acc m
    rw [Function.update_apply]
    by_cases hm : m = n
    · subst hm; simp
    · simp [hm, f]
  have hnd : ∀ {m}, (done m = true → done n = true) → done m = false := fun h =>
    Bool.eq_false_iff.mpr fun hm => by simp [h hm] at hn
  have hC : done .cryptoAnalyst = true → done .marketAnalyst = true :=
    fun h => hclosed _ h _ (List.mem_singleton_self _)
  have hP : done .positionInfo = true → done .cryptoAnalyst = true :=
    fun h => hclosed _ h _ (List.mem_singleton_self _)
  have hT : done .trader = true → done .positionInfo = true :=
    fun h => hclosed _ h _ (by simp [Node.preds])
  -- a node after `n` is skipped if it has not finished, and commutes with `n` if it has
  have hafter : ∀ {m}, (done m = false ∨ ∀ acc, serialStep cfg env (serialStep cfg env acc n) m =
      serialStep cfg env (serialStep cfg env acc m) n) →
      ∀ acc, f (serialStep cfg env acc n) m = serialStep cfg env (f acc m) n := by
    intro m h acc
    cases hm : done m
    · simp [f, hm]
    · simpa [f, hm] using h.resolve_left (by simp [hm]) acc
  obtain ⟨pre, post, hall, hnpre, hnpost, hcomm⟩ : ∃ pre post, Node.all = pre ++ n :: post ∧
      n ∉ pre ∧ n ∉ post ∧
      ∀ m ∈ post, ∀ acc, f (serialStep cfg env acc n) m = serialStep cfg env (f acc m) n := by
    cases n with
    | marketAnalyst =>
      refine ⟨[], [.cryptoAnalyst, .sentimentAnalyst, .positionInfo, .trader], rfl, by decide,
        by decide, ?_⟩
      simp only [List.forall_mem_cons, List.not_mem_nil, false_implies, implies_true, and_true]
      exact ⟨hafter (.inl (hnd hC)),
        hafter (.inr (serialStep_comm_sentimentAnalyst (by decide) (by decide))),
        hafter (.inl (hnd (hC ∘ hP))), hafter (.inl (hnd (hC ∘ hP ∘ hT)))⟩
    | cryptoAnalyst =>
      refine ⟨[.marketAnalyst], [.sentimentAnalyst, .positionInfo, .trader], rfl, by decide,
        by decide, ?_⟩
      simp only [List.forall_mem_cons, List.not_mem_nil, false_implies, implies_true, and_true]
      exact ⟨hafter (.inr (serialStep_comm_sentimentAnalyst (by decide) (by decide))),
        hafter (.inl (hnd hP)), hafter (.inl (hnd (hP ∘ hT)))⟩
    | sentimentAnalyst =>
      refine ⟨[.marketAnalyst, .cryptoAnalyst], [.positionInfo, .trader], rfl, by decide,
        by decide, ?_⟩
      simp only [List.forall_mem_cons, List.not_mem_nil, false_implies, implies_true, and_true]
      exact ⟨hafter (.inr fun acc => (serialStep_comm_sentimentAnalyst (by decide) (by decide) acc).symm),
        hafter (.inl (hnd fun h => hclosed _ h _ (by simp [Node.preds])))⟩
    | positionInfo =>
      refine ⟨[.marketAnalyst, .cryptoAnalyst, .sentimentAnalyst], [.trader], rfl, by decide,
        by decide, ?_⟩
      simp only [List.forall_mem_cons, List.not_mem_nil, false_implies, implies_true, and_true]
      exact hafter (.inl (hnd hT))
    | trader => exact ⟨[.marketAnalyst, .cryptoAnalyst, .sentimentAnalyst, .positionInfo], [], rfl,
        by decide, by decide, fun _ h => absurd h (List.not_mem_nil _)⟩
  unfold serialRun
  rw [hstep, hall, foldl_ite_eq f _ hnpre hnpost (fun acc => by simp [f, hn]) hcomm]

/-- What holds at every point of every schedule: the finished nodes are closed under the
    edges, the state and the output are the pipeline's over them, the market analyst finished
    only on a fetch that succeeded, and it alone failed, with the error of its fetch. -/
structure Workflow.Serial (cfg : AgentConfig) (env : AgentReplies) (s₀ : AgentState) (w : Workflow) :
    Prop where
  closed : ∀ n, w.done n = true → ∀ p ∈ n.preds, w.done p = true
  serial : (w.state, w.result) = serialRun cfg env s₀ w.done
  market_ok : w.done .marketAnalyst = true →
    ∃ r, env.getOHLCV cfg.binanceSymbol cfg.cryptoTimeframe cfg.cryptoLookbackDays = .ok r
  failed : ∀ n e, w.error n = some e → n = .marketAnalyst ∧
    ∃ err, env.getOHLCV cfg.binanceSymbol cfg.cryptoTimeframe cfg.cryptoLookbackDays = .error err ∧
      e = "failed to fetch OHLCV: " ++ err

theorem Workflow.Serial.init (cfg : AgentConfig) (env : AgentReplies) (s₀ : AgentState) :
    (Workflow.init s₀).Serial cfg env s₀ :=
  ⟨fun _ h => absurd h Bool.false_ne_true, rfl, fun h => absurd h Bool.false_ne_true,
    fun _ _ h => absurd h (Option.some_ne_none _).symm⟩

theorem Workflow.Serial.step {w : Workflow} (h : w.Serial cfg env s₀) (n : Node) :
    (w.step cfg env n).Serial cfg env s₀ := by
  rcases Workflow.step_cases cfg env w n with ⟨-, hw⟩ | ⟨hr, s, out, hrun, hw⟩ | ⟨-, e, hrun, hw⟩ <;>
    rw [hw]
  case inl => exact h
  case inr.inl =>
    obtain ⟨hn, -, hpre⟩ := (w.ready_iff n).mp hr
    refine ⟨fun m hm p hp => ?_, ?_, fun hm => ?_, h.failed⟩
    · dsimp only at hm ⊢
      rw [Function.update_apply] at hm ⊢
      have hdone : w.done p = true := by
        by_cases hmn : m = n
        · subst hmn; exact hpre p hp
        · exact h.closed m (by rwa [if_neg hmn] at hm) p hp
      split <;> simp [hdone]
    · show (s, out.or w.result) = _
      rw [serialRun_update h.closed hn hpre, ← h.serial]
      simp only [serialStep, hrun]
    · dsimp only at hm
      rw [Function.update_apply] at hm
      split_ifs at hm with hmn
      · subst hmn
        rcases hm' : env.getOHLCV cfg.binanceSymbol cfg.cryptoTimeframe
          cfg.cryptoLookbackDays with err | r
        · rw [runNode_marketAnalyst_of_error hm'] at hrun; cases hrun
        · exact ⟨r, rfl⟩
      · exact h.market_ok hm
  case inr.inr =>
    refine ⟨h.closed, h.serial, h.market_ok, fun m e' he' => ?_⟩
    dsimp only at he'
    rw [Function.update_apply] at he'
    split_ifs at he' with hmn
    · cases he'; exact hmn ▸ runNode_error hrun
    · exact h.failed m e' he'

theorem Workflow.Serial.run {w : Workflow} (h : w.Serial cfg env s₀) (ns : List Node) :
    (w.run cfg env ns).Serial cfg env s₀ := by
  induction ns generalizing w with
  | nil => exact h
  | cons n ns ih => exact ih (h.step n)

/-- The state and output of the pipeline over every node, when the market analyst's fetch
    returned `r`: the state the trader reads. -/
def beforeTrader (cfg : AgentConfig) (env : AgentReplies) (r : OHLCVReply) (s₀ : AgentState) :
    AgentState :=
  positionInfo cfg env (sentimentAnalyst env (cryptoAnalyst cfg env (marketWrite r s₀)))

/-- Once the trader has finished, every node has, and the state and output are the trader's
    on the pipeline's state. -/
theorem Workflow.Serial.of_trader {w : Workflow} (h : w.Serial cfg env s₀)
    (ht : w.done .trader = true) :
    ∃ r, env.getOHLCV cfg.binanceSymbol cfg.cryptoTimeframe cfg.cryptoLookbackDays = .ok r ∧
      w.state = (trader cfg env (beforeTrader cfg env r s₀)).1 ∧
      w.result = some (trader cfg env (beforeTrader cfg env r s₀)).2 := by
  have hs := h.closed _ ht .sentimentAnalyst (by simp [Node.preds])
  have hp := h.closed _ ht .positionInfo (by simp [Node.preds])
  have hc := h.closed _ hp _ (List.mem_singleton_self _)
  have hm := h.closed _ hc _ (List.mem_singleton_self _)
  obtain ⟨r, hr⟩ := h.market_ok hm
  have hserial := h.serial
  simp [serialRun, serialStep, Node.all, ht, hs, hp, hc, hm, runNode_marketAnalyst_of_ok hr] at hserial
  exact ⟨r, hr, hserial⟩

/-! ## Every schedule -/

/-- The configuration of the examples: `BTC/USDT` on the hour, no API key. -/
def sampleConfig : AgentConfig :=
  ⟨"BTC/USDT", "BTCUSDT", "1h", 10, ""⟩

/-- The replies of the examples: two candles, the last with an RSI of 72 and a MACD of 3 over
    a signal of 2; the order book cannot be fetched, nor a decision generated. -/
def sampleReplies : AgentReplies where
  getOHLCV _ _ _ := .ok ⟨2, some ⟨[55, 72], [1, 3], [2, 2]⟩, "trend up"⟩
  getFundingRate _ := .ok (1 / 10000)
  getOrderBook _ _ := .error "timeout"
  get24HrStats _ := .ok ⟨"1.5", "100", "90", "1000"⟩
  sentimentReport coin := coin ++ ": neutral"
  positionSummary symbol := symbol ++ ": flat"
  newChatModel := none
  generate _ := .error "unavailable"

/-- Whatever order the scheduler starts ready nodes in, and whatever the services reply,
    the shared `AgentState` and the graph's output are those of the pipeline run over the
    nodes that have finished, one after another in the order `BuildGraph` adds them. -/
theorem workflow_serializable (cfg : AgentConfig) (env : AgentReplies) (s₀ : AgentState) (ns : List Node) :
    (((Workflow.init s₀).run cfg env ns).state, ((Workflow.init s₀).run cfg env ns).result) =
      serialRun cfg env s₀ ((Workflow.init s₀).run cfg env ns).done :=
  ((Workflow.Serial.init cfg env s₀).run ns).serial

/-- Each node's predecessors come before it in the order `BuildGraph` adds the nodes. -/
theorem Node.preds_before : ∀ n ∈ Node.all, ∀ p ∈ n.preds, p ∈ Node.all.takeWhile (· ≠ n) := by
  decide

theorem Node.mem_all (n : Node) : n ∈ Node.all := by
  cases n <;> decide

theorem Workflow.done_run {w : Workflow} {m : Node} (h : w.done m = true) (l : List Node) :
    (w.run cfg env l).done m = true := by
  induction l generalizing w with
  | nil => exact h
  | cons n l ih => exact ih (Workflow.done_step h n)

/-- When the market analyst's fetch succeeds, a node whose predecessors have finished
    finishes when it is started. -/
theorem Workflow.Serial.done_step_self {w : Workflow} (h : w.Serial cfg env s₀) {r : OHLCVReply}
    (hok : env.getOHLCV cfg.binanceSymbol cfg.cryptoTimeframe cfg.cryptoLookbackDays = .ok r)
    {n : Node} (hpre : ∀ p ∈ n.preds, w.done p = true) : (w.step cfg env n).done n = true := by
  cases hn : w.done n
  · have herr : w.error n = none := by
      rcases he : w.error n with _ | e
      · rfl
      · obtain ⟨-, err, herr, -⟩ := h.failed n e he
        rw [hok] at herr; cases herr
    have hr : w.ready n = true := (w.ready_iff n).mpr ⟨hn, herr, hpre⟩
    have hrun : ∃ s out, runNode cfg env n w.state = .ok (s, out) := by
      cases n with
      | marketAnalyst => exact ⟨_, _, runNode_marketAnalyst_of_ok hok _⟩
      | _ => exact ⟨_, _, rfl⟩
    obtain ⟨s, out, hrun⟩ := hrun
    rw [Workflow.step_of_ok hr hrun]
    exact Function.update_same _ _ _
  · exact Workflow.done_step hn n

/-- When the market analyst's fetch succeeds, starting the nodes of `l` in turn finishes
    each whose predecessors had finished or come before it in `l`. -/
theorem Workflow.Serial.run_done {r : OHLCVReply}
    (hok : env.getOHLCV cfg.binanceSymbol cfg.cryptoTimeframe cfg.cryptoLookbackDays = .ok r) :
    ∀ (l : List Node) {w : Workflow}, w.Serial cfg env s₀ →
      (∀ n ∈ l, ∀ p ∈ n.preds, p ∈ l.takeWhile (· ≠ n) ∨ w.done p = true) →
      ∀ n ∈ l, (w.run cfg env l).done n = true
  | [], _, _, _, n, hn => absurd hn (List.not_mem_nil n)
  | n :: l, w, h, hl, m, hm => by
    have hself : (w.step cfg env n).done n = true :=
      h.done_step_self hok fun p hp => by simpa using hl n (List.mem_cons_self _ _) p hp
    have hl' : ∀ k ∈ l, ∀ p ∈ k.preds, p ∈ l.takeWhile (· ≠ k) ∨ (w.step cfg env n).done p = true := by
      intro k hk p hp
      rcases hl k (List.mem_cons_of_mem _ hk) p hp with hp' | hp'
      · by_cases hnk : n = k
        · simp [hnk] at hp'
        · rw [List.takeWhile_cons_of_pos (by simpa using hnk), List.mem_cons] at hp'
          rcases hp' with rfl | hp'
          · exact .inr hself
          · exact .inl hp'
      · exact .inr (Workflow.done_step hp' n)
    rcases List.mem_cons.mp hm with rfl | hm
    · exact Workflow.done_run hself l
    · exact Workflow.Serial.run_done hok l (h.step n) hl' m hm

/-- When the market analyst's fetch succeeds, the graph never deadlocks: from any point of
    any schedule, starting the nodes in the order `BuildGraph` adds them finishes every
    node. -/
theorem workflow_completes (cfg : AgentConfig) (env : AgentReplies) (s₀ : AgentState) (ns : List Node)
    {r : OHLCVReply}
    (hok : env.getOHLCV cfg.binanceSymbol cfg.cryptoTimeframe cfg.cryptoLookbackDays = .ok r)
    (n : Node) : ((Workflow.init s₀).run cfg env (ns ++ Node.all)).done n = true := by
  rw [Workflow.run_append]
  exact Workflow.Serial.run_done hok Node.all ((Workflow.Serial.init cfg env s₀).run ns)
    (fun n hn p hp => .inl (Node.preds_before n hn p hp)) n (Node.mem_all n)

/-- Starting the trader and the position summary first does nothing; the graph's order then
    finishes the trader. -/
theorem workflow_completes_after_early_start :
    sampleReplies.getOHLCV "BTCUSDT" "1h" 10 = .ok ⟨2, some ⟨[55, 72], [1, 3], [2, 2]⟩, "trend up"⟩ ∧
      ((Workflow.init newAgentState).run sampleConfig sampleReplies ([.trader, .positionInfo] ++ Node.all)).done
        .trader = true :=
  ⟨rfl, workflow_completes sampleConfig sampleReplies newAgentState [.trader, .positionInfo] rfl .trader⟩

/-- When the market analyst's fetch fails, no schedule finishes any node but the sentiment
    analyst: the trader never runs, the graph has no output, the stored decision stays the
    one the state started with (empty on the first `Run`, the last decision after that), and
    the only error is the market analyst's. -/
theorem workflow_ohlcv_failure (cfg : AgentConfig) (env : AgentReplies) (s₀ : AgentState) (ns : List Node)
    {err : String}
    (h : env.getOHLCV cfg.binanceSymbol cfg.cryptoTimeframe cfg.cryptoLookbackDays = .error err) :
    (∀ n, ((Workflow.init s₀).run cfg env ns).done n = true → n = .sentimentAnalyst) ∧
      ((Workflow.init s₀).run cfg env ns).result = none ∧
      ((Workflow.init s₀).run cfg env ns).state.finalDecision = s₀.finalDecision ∧
      ∀ n e, ((Workflow.init s₀).run cfg env ns).error n = some e →
        n = .marketAnalyst ∧ e = "failed to fetch OHLCV: " ++ err := by
  have hS := (Workflow.Serial.init cfg env s₀).run ns
  generalize (Workflow.init s₀).run cfg env ns = w at hS ⊢
  have hm : w.done .marketAnalyst = false := Bool.eq_false_iff.mpr fun hm => by
    obtain ⟨r, hr⟩ := hS.market_ok hm
    rw [h] at hr; cases hr
  have hoff : ∀ {n m}, m ∈ n.preds → w.done m = false → w.done n = false := fun hp hm =>
    Bool.eq_false_iff.mpr fun hn => by simp [hS.closed _ hn _ hp] at hm
  have hc := hoff (n := .cryptoAnalyst) (List.mem_singleton_self _) hm
  have hp := hoff (n := .positionInfo) (List.mem_singleton_self _) hc
  have ht := hoff (n := .trader) (by simp [Node.preds]) hp
  have hquiet : w.result = none ∧ w.state.finalDecision = s₀.finalDecision := by
    have hserial := hS.serial
    cases hs : w.done .sentimentAnalyst <;>
      simp [serialRun, serialStep, Node.all, hm, hc, hs, hp, ht, runNode_marketAnalyst_of_error h] at hserial <;>
      exact ⟨hserial.2, (congrArg AgentState.finalDecision hserial.1).trans rfl⟩
  refine ⟨fun n hn => ?_, hquiet.1, hquiet.2, fun n e he => ?_⟩
  · cases n <;> simp_all
  · obtain ⟨rfl, err', herr, rfl⟩ := hS.failed n e he
    rw [h] at herr; cases herr
    exact ⟨rfl, rfl⟩

/-- A fetch that times out: the sentiment analyst finishes, the market analyst fails, the
    trader is never started. -/
theorem workflow_ohlcv_failure_on_sample :
    let env := { sampleReplies with getOHLCV := fun _ _ _ => .error "timeout" }
    let w := (Workflow.init newAgentState).run sampleConfig env [.sentimentAnalyst, .marketAnalyst, .trader]
    env.getOHLCV "BTCUSDT" "1h" 10 = .error "timeout" ∧
      ((∀ n, w.done n = true → n = .sentimentAnalyst) ∧ w.result = none ∧
        w.state.finalDecision = newAgentState.finalDecision ∧
        ∀ n e, w.error n = some e → n = .marketAnalyst ∧ e = "failed to fetch OHLCV: " ++ "timeout") :=
  ⟨rfl, workflow_ohlcv_failure sampleConfig _ newAgentState _ rfl⟩

/-! ## Nodes that may overlap commute -/

/-- The nodes `n` waits for, directly or through others: as many rounds of predecessors as
    there are nodes reach them all. -/
def Node.ancestorsAux : Nat → Node → List Node
  | 0, _ => []
  | k + 1, n => n.preds ++ n.preds.flatMap (Node.ancestorsAux k)

def Node.ancestors (n : Node) : List Node :=
  Node.ancestorsAux Node.all.length n

/-- Nodes the graph may run at the same time: neither waits for the other. -/
def Concurrent (n m : Node) : Prop :=
  n ≠ m ∧ n ∉ m.ancestors ∧ m ∉ n.ancestors

instance : DecidableRel Concurrent := fun n m =>
  inferInstanceAs (Decidable (n ≠ m ∧ n ∉ m.ancestors ∧ m ∉ n.ancestors))

/-- The sentiment analyst is the one node that may overlap others: the market analyst, the
    crypto analyst and the position summary. -/
theorem concurrent_iff (n m : Node) :
    Concurrent n m ↔
      (n = .sentimentAnalyst ∧ m ≠ .sentimentAnalyst ∧ m ≠ .trader) ∨
        (m = .sentimentAnalyst ∧ n ≠ .sentimentAnalyst ∧ n ≠ .trader) := by
  cases n <;> cases m <;> decide

/-- A step of the sentiment analyst commutes with a step of any node but the trader. -/
theorem Workflow.step_comm_sentimentAnalyst (w : Workflow) {n : Node}
    (hne : n ≠ .sentimentAnalyst) (ht : n ≠ .trader) :
    (w.step cfg env n).step cfg env .sentimentAnalyst =
      (w.step cfg env .sentimentAnalyst).step cfg env n := by
  have hrS : (w.step cfg env n).ready .sentimentAnalyst = w.ready .sentimentAnalyst :=
    Workflow.ready_step_of_ne hne (List.not_mem_nil _)
  have hrn : (w.step cfg env .sentimentAnalyst).ready n = w.ready n :=
    Workflow.ready_step_of_ne hne.symm (by cases n <;> simp [Node.preds] at ht ⊢)
  cases h1 : w.ready n <;> cases h2 : w.ready .sentimentAnalyst
  · rw [Workflow.step_of_not_ready h1, Workflow.step_of_not_ready h2, Workflow.step_of_not_ready h1]
  · rw [Workflow.step_of_not_ready h1, Workflow.step_of_not_ready (hrn.trans h1)]
  · rw [Workflow.step_of_not_ready h2, Workflow.step_of_not_ready (hrS.trans h2)]
  · have hw2 : w.step cfg env .sentimentAnalyst = _ :=
      Workflow.step_of_ok h2 (runNode_sentimentAnalyst w.state)
    rcases runNode_writer cfg env hne ht with ⟨e, he⟩ | ⟨g, hg, hcomm⟩
    · have hw1 := Workflow.step_of_error h1 (he w.state)
      rw [hw1] at hrS ⊢
      rw [hw2] at hrn ⊢
      rw [Workflow.step_of_ok (hrS.trans h2) (runNode_sentimentAnalyst _),
        Workflow.step_of_error (hrn.trans h1) (he _)]
    · have hw1 := Workflow.step_of_ok h1 (hg w.state)
      rw [hw1] at hrS ⊢
      rw [hw2] at hrn ⊢
      rw [Workflow.step_of_ok (hrS.trans h2) (runNode_sentimentAnalyst _),
        Workflow.step_of_ok (hrn.trans h1) (hg _)]
      simp only [hcomm, Function.update_comm hne]

/-- Two nodes the graph may run at the same time commute: from every state of the workflow,
    starting one and then the other ends as starting them the other way round. -/
theorem workflow_step_comm (cfg : AgentConfig) (env : AgentReplies) (w : Workflow) {n m : Node}
    (h : Concurrent n m) :
    (w.step cfg env n).step cfg env m = (w.step cfg env m).step cfg env n := by
  rcases (concurrent_iff n m).mp h with ⟨rfl, hm, hmt⟩ | ⟨rfl, hn, hnt⟩
  · exact (Workflow.step_comm_sentimentAnalyst w hm hmt).symm
  · exact Workflow.step_comm_sentimentAnalyst w hn hnt

/-- The market and sentiment analysts, started together from the beginning. -/
theorem workflow_step_comm_at_start :
    Concurrent .marketAnalyst .sentimentAnalyst ∧
      ((Workflow.init newAgentState).step sampleConfig sampleReplies .marketAnalyst).step sampleConfig sampleReplies
          .sentimentAnalyst =
        ((Workflow.init newAgentState).step sampleConfig sampleReplies .sentimentAnalyst).step sampleConfig
          sampleReplies .marketAnalyst :=
  ⟨by decide, workflow_step_comm sampleConfig sampleReplies (Workflow.init newAgentState) (by decide)⟩

/-! ## What the trader reads and decides -/

/-- `makeLLMDecision` never returns an error: a chat model it cannot build, or a failed
    `Generate`, gives the rule-based decision. -/
theorem makeLLMDecision_ok (env : AgentReplies) (s : AgentState) :
    ∃ decision, makeLLMDecision env s = .ok decision := by
  unfold makeLLMDecision
  split
  · exact ⟨_, rfl⟩
  · split <;> exact ⟨_, rfl⟩

/-- Without a usable chat model the trader's decision is the rule-based one:
    `makeLLMDecision` falls back to it itself. -/
theorem trader_decision_of_rules
    (hllm : cfg.apiKey = "" ∨ cfg.apiKey = "your_openai_key" ∨ env.newChatModel.isSome = true ∨
      ∀ p, ∃ e, env.generate p = .error e) (s : AgentState) :
    (trader cfg env s).2.decision = makeSimpleDecision s := by
  simp only [trader]
  split_ifs with hkey
  · have hllm' : makeLLMDecision env s = .ok (makeSimpleDecision s) := by
      unfold makeLLMDecision
      split
      · rfl
      · next hnone =>
        rcases hllm with h | h | h | h
        · exact absurd h hkey.1
        · exact absurd h hkey.2
        · simp [hnone] at h
        · obtain ⟨e, he⟩ := h (userPrompt s.getAllReports)
          rw [he]
    rw [hllm']
  · rfl

/-- When no chat model can be used (no API key, the placeholder key, a model that cannot be
    built, or `Generate` failing), every schedule in which the trader ran stores
    `makeSimpleDecision` of the state the trader read, built from the market analyst's reply,
    and the graph returns the decision it stored; and `makeLLMDecision` never returns an
    error, whatever the replies. -/
theorem workflow_rule_decision (cfg : AgentConfig) (env : AgentReplies) (s₀ : AgentState) (ns : List Node)
    (hllm : cfg.apiKey = "" ∨ cfg.apiKey = "your_openai_key" ∨ env.newChatModel.isSome = true ∨
      ∀ p, ∃ e, env.generate p = .error e)
    (hdone : ((Workflow.init s₀).run cfg env ns).done .trader = true) :
    (∀ (env' : AgentReplies) (s : AgentState), ∃ decision, makeLLMDecision env' s = .ok decision) ∧
    ∃ r, env.getOHLCV cfg.binanceSymbol cfg.cryptoTimeframe cfg.cryptoLookbackDays = .ok r ∧
      ((Workflow.init s₀).run cfg env ns).state.finalDecision =
        makeSimpleDecision (beforeTrader cfg env r s₀) ∧
      ((Workflow.init s₀).run cfg env ns).result.map TraderOutput.decision =
        some ((Workflow.init s₀).run cfg env ns).state.finalDecision := by
  obtain ⟨r, hr, hstate, hresult⟩ := ((Workflow.Serial.init cfg env s₀).run ns).of_trader hdone
  rw [hstate, hresult]
  exact ⟨makeLLMDecision_ok, r, hr, trader_decision_of_rules hllm _, rfl⟩

/-- Without an API key, the pipeline in the graph's order ends with the rule-based decision
    on the sample's candles. -/
theorem workflow_rule_decision_on_sample :
    let w := (Workflow.init newAgentState).run sampleConfig sampleReplies Node.all
    (sampleConfig.apiKey = "" ∧ w.done .trader = true) ∧
      ((∀ (env' : AgentReplies) (s : AgentState), ∃ decision, makeLLMDecision env' s = .ok decision) ∧
        ∃ r, sampleReplies.getOHLCV "BTCUSDT" "1h" 10 = .ok r ∧
          w.state.finalDecision = makeSimpleDecision (beforeTrader sampleConfig sampleReplies r newAgentState) ∧
          w.result.map TraderOutput.decision = some w.state.finalDecision) :=
  ⟨⟨rfl, by decide⟩, workflow_rule_decision sampleConfig sampleReplies newAgentState Node.all (.inl rfl)
    (by decide)⟩

/-- Every schedule in which the trader ran gave it all four reports, from the replies: the
    market analyst's, the crypto analyst's, the sentiment of `BTC` and the position summary
    of `CryptoSymbol`, in that order under their headings. -/
theorem workflow_trader_reads_all_reports (cfg : AgentConfig) (env : AgentReplies) (s₀ : AgentState)
    (ns : List Node) (hdone : ((Workflow.init s₀).run cfg env ns).done .trader = true) :
    ∃ r, env.getOHLCV cfg.binanceSymbol cfg.cryptoTimeframe cfg.cryptoLookbackDays = .ok r ∧
      ((Workflow.init s₀).run cfg env ns).result.map TraderOutput.allReports =
        some ("=== 市场技术分析 ===\n" ++ r.report ++
          "\n\n=== 加密货币专属分析 ===\n" ++ cryptoReport cfg env ++
          "\n\n=== 市场情绪分析 ===\n" ++ env.sentimentReport "BTC" ++
          "\n\n=== 当前持仓信息 ===\n" ++ env.positionSummary cfg.cryptoSymbol) := by
  obtain ⟨r, hr, -, hresult⟩ := ((Workflow.Serial.init cfg env s₀).run ns).of_trader hdone
  exact ⟨r, hr, by rw [hresult]; rfl⟩

/-- The trader of the pipeline in the graph's order reads the sample's four reports. -/
theorem workflow_trader_reads_all_reports_on_sample :
    let w := (Workflow.init newAgentState).run sampleConfig sampleReplies Node.all
    w.done .trader = true ∧
      ∃ r, sampleReplies.getOHLCV "BTCUSDT" "1h" 10 = .ok r ∧
        w.result.map TraderOutput.allReports =
          some ("=== 市场技术分析 ===\n" ++ r.report ++
            "\n\n=== 加密货币专属分析 ===\n" ++ cryptoReport sampleConfig sampleReplies ++
            "\n\n=== 市场情绪分析 ===\n" ++ sampleReplies.sentimentReport "BTC" ++
            "\n\n=== 当前持仓信息 ===\n" ++ sampleReplies.positionSummary "BTC/USDT") :=
  ⟨by decide, workflow_trader_reads_all_reports sampleConfig sampleReplies newAgentState Node.all
    (by decide)⟩

end SimpleTradingGraph

end TradingBot
