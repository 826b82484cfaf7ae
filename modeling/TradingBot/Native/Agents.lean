import Mathlib.Logic.Function.Basic
import TradingBot.Native.Format

/-!
# The analysts' workflow

`SimpleTradingGraph.BuildGraph` wires five nodes into an eino graph compiled in
`AllPredecessor` mode: a node starts once every node with an edge into it has finished.
`market_analyst` and `sentiment_analyst` start at once; `crypto_analyst` waits for the
market analyst, `position_info` for the crypto analyst, and `trader` for both the sentiment
analyst and `position_info`. The nodes share one `AgentState`: each analyst writes its
report (the market analyst also the candles and indicators, without the lock), and the
trader reads every report with `GetAllReports`, decides, and writes the decision.

The services the nodes call (market data, the executor's position summary, the chat model)
are outside src/; here they are `AgentReplies`, functions of the arguments the code passes.
A node's body runs as one step of `Workflow.step`; the nodes the graph lets overlap write
different fields, and `Spec/Workflow` shows that their steps commute.

A node that returns an error never finishes, so nothing after it starts; whether the
others still run is left open, as every schedule of ready nodes is a run of the model.
-/

namespace TradingBot

/-! ## The shared state -/

/-- The indicator series `makeSimpleDecision` reads from `dataflows.TechnicalIndicators`. -/
structure TechnicalIndicators where
  rsi : List ℚ
  macd : List ℚ
  signal : List ℚ
  deriving DecidableEq, Repr

/-- `AgentState`, with the fields a modelled function reads. `OHLCVData` is kept as its
    length, the only thing read of it; `Symbol` and `Timeframe`, which nothing reads, are
    left out. -/
structure AgentState where
  marketReport : String
  cryptoReport : String
  sentimentReport : String
  positionInfo : String
  finalDecision : String
  ohlcvData : Nat
  technicalIndicators : Option TechnicalIndicators
  deriving DecidableEq, Repr

/-- `NewAgentState`: every report empty, no candles, no indicators. -/
def newAgentState : AgentState :=
  ⟨"", "", "", "", "", 0, none⟩

/-- The text fields the setters write, each under `mu`. -/
inductive Report where
  | market
  | crypto
  | sentiment
  | positionInfo
  | finalDecision
  deriving DecidableEq, Repr

namespace AgentState

/-- The text field `r` of the state. -/
def report (s : AgentState) : Report → String
  | .market => s.marketReport
  | .crypto => s.cryptoReport
  | .sentiment => s.sentimentReport
  | .positionInfo => s.positionInfo
  | .finalDecision => s.finalDecision

/-- The setters: lock `mu`, write one text field. -/
def setReport (s : AgentState) (r : Report) (text : String) : AgentState :=
  match r with
  | .market => { s with marketReport := text }
  | .crypto => { s with cryptoReport := text }
  | .sentiment => { s with sentimentReport := text }
  | .positionInfo => { s with positionInfo := text }
  | .finalDecision => { s with finalDecision := text }

def setMarketReport (s : AgentState) (report : String) : AgentState :=
  s.setReport .market report

def setCryptoReport (s : AgentState) (report : String) : AgentState :=
  s.setReport .crypto report

def setSentimentReport (s : AgentState) (report : String) : AgentState :=
  s.setReport .sentiment report

def setPositionInfo (s : AgentState) (info : String) : AgentState :=
  s.setReport .positionInfo info

def setFinalDecision (s : AgentState) (decision : String) : AgentState :=
  s.setReport .finalDecision decision

/-- `GetAllReports`: the four analysts' texts under their headings, read under `mu`. -/
def getAllReports (s : AgentState) : String :=
  "=== 市场技术分析 ===\n" ++ s.marketReport ++
  "\n\n=== 加密货币专属分析 ===\n" ++ s.cryptoReport ++
  "\n\n=== 市场情绪分析 ===\n" ++ s.sentimentReport ++
  "\n\n=== 当前持仓信息 ===\n" ++ s.positionInfo

end AgentState

/-! ## The replies of the services -/

/-- What `GetOHLCV` fetches for the node's arguments, with what `CalculateIndicators` and
    `FormatIndicatorReport` make of it: the number of candles, the indicators (`nil` is
    `none`) and the report. -/
structure OHLCVReply where
  candles : Nat
  indicators : Option TechnicalIndicators
  report : String

/-- The three entries of `GetOrderBook`'s map that the crypto analyst prints. -/
structure OrderBook where
  bidVolume : ℚ
  askVolume : ℚ
  bidAskRatio : ℚ

/-- The four entries of `Get24HrStats`'s map that the crypto analyst prints. -/
structure Stats24h where
  priceChangePercent : String
  highPrice : String
  lowPrice : String
  volume : String

/-- The replies of market data, the executor and the chat model, as functions of the
    arguments the nodes pass; an error is its `Error()` text. `generate` answers the user
    prompt. -/
structure AgentReplies where
  getOHLCV : String → String → Int → Except String OHLCVReply
  getFundingRate : String → Except String ℚ
  getOrderBook : String → Nat → Except String OrderBook
  get24HrStats : String → Except String Stats24h
  sentimentReport : String → String
  positionSummary : String → String
  newChatModel : Option String
  generate : String → Except String String

/-- The fields of `Config` the nodes read; `binanceSymbol` is what `GetBinanceSymbol()`
    returns. -/
structure AgentConfig where
  cryptoSymbol : String
  binanceSymbol : String
  cryptoTimeframe : String
  cryptoLookbackDays : Int
  apiKey : String

/-- The text `fmt.Sprintf("%.<prec>f", x)` writes: a `-` for a negative value, then the
    digits of `|x|` rounded half to even at `prec` decimals, at least one before the point. -/
def sprintfFixed (prec : Nat) (x : ℚ) : String :=
  let digits := (Nat.repr (roundHalfEven (|x| * 10 ^ prec)).toNat).toList
  let padded := List.replicate (prec + 1 - digits.length) '0' ++ digits
  let point := if prec = 0 then [] else '.' :: padded.drop (padded.length - prec)
  ⟨(if x < 0 then ['-'] else []) ++ padded.take (padded.length - prec) ++ point⟩

namespace SimpleTradingGraph

/-! ## The nodes -/

/-- The market analyst: fetch the candles, compute the indicators, store them (without the
    lock) and the report. -/
def marketAnalyst (cfg : AgentConfig) (env : AgentReplies) (s : AgentState) :
    Except String AgentState :=
  match env.getOHLCV cfg.binanceSymbol cfg.cryptoTimeframe cfg.cryptoLookbackDays with
  | .error err => .error ("failed to fetch OHLCV: " ++ err)
  | .ok ohlcv =>
    .ok ({ s with ohlcvData := ohlcv.candles, technicalIndicators := ohlcv.indicators }
      |>.setMarketReport ohlcv.report)

/-- The crypto analyst's report: a line for the funding rate, the order book and the 24h
    statistics, each with the error when its fetch fails. -/
def cryptoReport (cfg : AgentConfig) (env : AgentReplies) : String :=
  let symbol := cfg.binanceSymbol
  let funding := match env.getFundingRate symbol with
    | .error err => "资金费率获取失败: " ++ err ++ "\n"
    | .ok fundingRate =>
      "资金费率: " ++ sprintfFixed 6 fundingRate ++ " (" ++ sprintfFixed 4 (fundingRate * 100) ++
        "%)\n"
  let book := match env.getOrderBook symbol 20 with
    | .error err => "订单簿获取失败: " ++ err ++ "\n"
    | .ok orderBook =>
      "订单簿 - 买单量: " ++ sprintfFixed 2 orderBook.bidVolume ++ ", 卖单量: " ++
        sprintfFixed 2 orderBook.askVolume ++ ", 买卖比: " ++ sprintfFixed 2 orderBook.bidAskRatio ++
        "\n"
  let stats := match env.get24HrStats symbol with
    | .error err => "24h统计获取失败: " ++ err ++ "\n"
    | .ok stats =>
      "24h统计 - 价格变化: " ++ stats.priceChangePercent ++ "%, 最高: $" ++ stats.highPrice ++
        ", 最低: $" ++ stats.lowPrice ++ ", 成交量: " ++ stats.volume ++ "\n"
  funding ++ book ++ stats

/-- The crypto analyst: its fetch errors go into the report, so it never fails. -/
def cryptoAnalyst (cfg : AgentConfig) (env : AgentReplies) (s : AgentState) : AgentState :=
  s.setCryptoReport (cryptoReport cfg env)

/-- The sentiment analyst asks for the sentiment of `"BTC"`, whatever the symbol traded. -/
def sentimentAnalyst (env : AgentReplies) (s : AgentState) : AgentState :=
  s.setSentimentReport (env.sentimentReport "BTC")

/-- The position node stores the executor's summary for `CryptoSymbol`. -/
def positionInfo (cfg : AgentConfig) (env : AgentReplies) (s : AgentState) : AgentState :=
  s.setPositionInfo (env.positionSummary cfg.cryptoSymbol)

/-- The RSI line of `makeSimpleDecision`. -/
def rsiLine (rsiVal : ℚ) : String :=
  "- RSI(14): " ++ sprintfFixed 2 rsiVal ++ " " ++
    (if rsiVal > 70 then "(超买区域，可能回调)\n"
     else if rsiVal < 30 then "(超卖区域，可能反弹)\n"
     else "(中性区域)\n")

/-- The MACD line of `makeSimpleDecision`. -/
def macdLine (macdVal signalVal : ℚ) : String :=
  "- MACD: " ++ sprintfFixed 2 macdVal ++ ", Signal: " ++ sprintfFixed 2 signalVal ++ " " ++
    (if macdVal > signalVal then "(MACD在Signal之上，多头信号)\n"
     else "(MACD在Signal之下，空头信号)\n")

/-- The technical section at the last candle: each line only when its series reaches it. -/
def technicalAnalysis (indicators : TechnicalIndicators) (lastIdx : Nat) : String :=
  "技术面分析:\n" ++
    (match indicators.rsi[lastIdx]? with
     | some rsiVal => rsiLine rsiVal
     | none => "") ++
    (match indicators.macd[lastIdx]?, indicators.signal[lastIdx]? with
     | some macdVal, some signalVal => macdLine macdVal signalVal
     | _, _ => "")

/-- The closing lines of every rule-based decision. -/
def holdAdvice : String :=
  "\n**最终建议**: HOLD（观望）\n" ++ "\n说明: 这是基于规则的简单决策（LLM 未启用）。\n"

/-- `makeSimpleDecision`: the technical section when there are indicators and candles,
    then the advice to hold. -/
def makeSimpleDecision (s : AgentState) : String :=
  "=== 交易决策分析 ===\n\n" ++
    (match s.technicalIndicators with
     | some indicators =>
       if s.ohlcvData > 0 then technicalAnalysis indicators (s.ohlcvData - 1) else ""
     | none => "") ++
    holdAdvice

/-- The user prompt `makeLLMDecision` sends: the reports between two requests. -/
def userPrompt (allReports : String) : String :=
  "请分析以下数据并给出交易决策：\n\n" ++ allReports ++ "\n\n请给出你的分析和最终决策。"

/-- `makeLLMDecision`: when the chat model cannot be built or `Generate` fails, the
    rule-based decision, with no error. -/
def makeLLMDecision (env : AgentReplies) (s : AgentState) : Except String String :=
  match env.newChatModel with
  | some _ => .ok (makeSimpleDecision s)
  | none =>
    match env.generate (userPrompt s.getAllReports) with
    | .error _ => .ok (makeSimpleDecision s)
    | .ok content => .ok content

/-- What the trader node returns, and with it the graph. -/
structure TraderOutput where
  decision : String
  allReports : String
  deriving DecidableEq, Repr

/-- The trader: read the reports, ask the chat model when an API key is set (falling back
    to the rules on an error), store the decision. -/
def trader (cfg : AgentConfig) (env : AgentReplies) (s : AgentState) :
    AgentState × TraderOutput :=
  let allReports := s.getAllReports
  let decision :=
    if cfg.apiKey ≠ "" ∧ cfg.apiKey ≠ "your_openai_key" then
      match makeLLMDecision env s with
      | .ok decision => decision
      | .error _ => makeSimpleDecision s
    else makeSimpleDecision s
  (s.setFinalDecision decision, ⟨decision, allReports⟩)

/-! ## The graph -/

/-- The nodes `BuildGraph` adds. -/
inductive Node where
  | marketAnalyst
  | cryptoAnalyst
  | sentimentAnalyst
  | positionInfo
  | trader
  deriving DecidableEq, Repr

/-- The edges `BuildGraph` adds, as the nodes each node waits for (`compose.START` is no
    node). -/
def Node.preds : Node → List Node
  | .marketAnalyst => []
  | .cryptoAnalyst => [.marketAnalyst]
  | .sentimentAnalyst => []
  | .positionInfo => [.cryptoAnalyst]
  | .trader => [.sentimentAnalyst, .positionInfo]

/-- The nodes in the order `BuildGraph` adds them. -/
def Node.all : List Node :=
  [.marketAnalyst, .cryptoAnalyst, .sentimentAnalyst, .positionInfo, .trader]

/-- One node's body on the shared state, with the trader's output. -/
def runNode (cfg : AgentConfig) (env : AgentReplies) : Node → AgentState →
    Except String (AgentState × Option TraderOutput)
  | .marketAnalyst, s => (marketAnalyst cfg env s).map fun s => (s, none)
  | .cryptoAnalyst, s => .ok (cryptoAnalyst cfg env s, none)
  | .sentimentAnalyst, s => .ok (sentimentAnalyst env s, none)
  | .positionInfo, s => .ok (positionInfo cfg env s, none)
  | .trader, s => .ok ((trader cfg env s).1, some (trader cfg env s).2)

/-- An invocation of the compiled graph: the shared state, the nodes that finished, the
    error each failed node returned, and the output that reached `END`. -/
structure Workflow where
  state : AgentState
  done : Node → Bool
  error : Node → Option String
  result : Option TraderOutput

/-- An invocation of `Run` on the graph's state: as `NewSimpleTradingGraph` made it
    (`newAgentState`) or as the previous `Run` left it. -/
def Workflow.init (s : AgentState) : Workflow :=
  ⟨s, fun _ => false, fun _ => none, none⟩

/-- `AllPredecessor`: a node can start when it has neither finished nor failed and every
    node it waits for has finished. -/
def Workflow.ready (w : Workflow) (n : Node) : Bool :=
  !w.done n && (w.error n).isNone && n.preds.all w.done

/-- The scheduler runs node `n` if it is ready; otherwise nothing happens. -/
def Workflow.step (cfg : AgentConfig) (env : AgentReplies) (w : Workflow) (n : Node) :
    Workflow :=
  if w.ready n then
    match runNode cfg env n w.state with
    | .ok (s, out) =>
      { w with state := s, done := Function.update w.done n true, result := out.or w.result }
    | .error e => { w with error := Function.update w.error n (some e) }
  else w

/-- A schedule: the nodes in the order the scheduler starts them. -/
def Workflow.run (cfg : AgentConfig) (env : AgentReplies) (w : Workflow) (ns : List Node) :
    Workflow :=
  ns.foldl (Workflow.step cfg env) w

end SimpleTradingGraph

end TradingBot
