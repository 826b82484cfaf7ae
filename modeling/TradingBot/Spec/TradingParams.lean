import Mathlib.Data.List.DropRight
import TradingBot.Spec.EnvFile

/-!
# The trading parameters `LoadConfig` returns

Each trading parameter is written by one step of `LoadConfig`: a lookback of zero days is
replaced by `calculateLookbackDays` of its timeframe, the longer timeframe and its lookback
get defaults only when multi-timeframe analysis is on, the trading pairs are the
comma-separated parts of `CRYPTO_SYMBOLS` (or `BTC/USDT` when it is empty), and the trading
interval falls back to the timeframe. One lemma per step gives its closed form.

Whatever the settings, the result is `Loaded`: at least one trading pair, each trimmed and
without a comma; no lookback of zero days; with multi-timeframe analysis on, a longer
timeframe and a lookback for it; and a trading interval empty only when the timeframe is.
The code checks nothing more: a negative lookback stays as it is set, and a trailing comma
in `CRYPTO_SYMBOLS` adds the empty pair `""`.

## Key results

- `trimSpace_trimSpace`: `strings.TrimSpace` leaves its own output as it is.
- `loadTradingParams_loaded`: every setting of the variables `LoadConfig` reads gives a
  `Loaded` configuration.
- `getAllBinanceSymbols_spec`: one exchange symbol per trading pair, in order, none with a `/`.
-/

namespace TradingBot

/-! ## Trimmed text and comma-separated parts -/

/-- `strings.TrimSpace` of trimmed text changes nothing: its output starts and ends with a
    rune that is no white space. -/
theorem trimSpace_trimSpace (l : List Char) : trimSpace (trimSpace l) = trimSpace l := by
  have hne : ∀ c, c ∈ (trimSpace l).head? ∨ c ∈ (trimSpace l).getLast? → trimSpace l ≠ [] := by
    rintro c hc h; rw [h] at hc; simp at hc
  apply trimSpace_of_ends
  · intro c hc
    have h := hne c (.inl hc)
    have hpre : trimSpace l <+: l.dropWhile isScanSpace := List.rdropWhile_prefix _ _
    rw [List.head?_eq_head h, Option.mem_def, Option.some_inj] at hc
    rw [← hc, hpre.head h]
    exact List.head_dropWhile_not _ _ _
  · intro c hc
    have h := hne c (.inr hc)
    rw [List.getLast?_eq_getLast _ h, Option.mem_def, Option.some_inj] at hc
    rw [← hc]
    simpa using List.rdropWhile_last_not isScanSpace (l.dropWhile isScanSpace) h

/-- Every trading pair `splitSymbols` gives is trimmed and holds no comma, and there is at
    least one. -/
theorem splitSymbols_spec (symbolsStr : String) :
    splitSymbols symbolsStr ≠ [] ∧
      ∀ s ∈ splitSymbols symbolsStr, trimSpace s.data = s.data ∧ ',' ∉ s.data := by
  refine ⟨by simpa [splitSymbols] using List.splitOnP_ne_nil _ _, ?_⟩
  simp only [splitSymbols, List.mem_map]
  rintro _ ⟨part, hpart, rfl⟩
  exact ⟨trimSpace_trimSpace part,
    fun hc => not_mem_of_mem_splitOn hpart ((trimSpace_sublist part).subset hc)⟩

/-! ## The steps of `LoadConfig` in closed form

Each step writes its own fields only; stated as a record update, everything it keeps is
read off by `rfl`. -/

theorem autoLookbackDays_eq (cfg : TradingParams) :
    autoLookbackDays cfg =
      { cfg with cryptoLookbackDays := if cfg.cryptoLookbackDays = 0 then
          calculateLookbackDays cfg.cryptoTimeframe else cfg.cryptoLookbackDays } := by
  unfold autoLookbackDays; split <;> rfl

theorem multiTimeframeDefaults_eq (cfg : TradingParams) :
    multiTimeframeDefaults cfg =
      if cfg.enableMultiTimeframe then
        let longer := if cfg.cryptoLongerTimeframe = "" then "4h" else cfg.cryptoLongerTimeframe
        { cfg with cryptoLongerTimeframe := longer,
                   cryptoLongerLookbackDays := if cfg.cryptoLongerLookbackDays = 0 then
                     calculateLookbackDays longer else cfg.cryptoLongerLookbackDays }
      else cfg := by
  unfold multiTimeframeDefaults; dsimp only; split_ifs <;> rfl

theorem parseCryptoSymbols_eq (symbolsStr : String) (cfg : TradingParams) :
    parseCryptoSymbols symbolsStr cfg =
      { cfg with cryptoSymbols := if symbolsStr ≠ "" then splitSymbols symbolsStr
          else ["BTC/USDT"] } := by
  unfold parseCryptoSymbols; split <;> rfl

theorem tradingIntervalDefault_eq (cfg : TradingParams) :
    tradingIntervalDefault cfg =
      { cfg with tradingInterval := if cfg.tradingInterval = "" then cfg.cryptoTimeframe
          else cfg.tradingInterval } := by
  unfold tradingIntervalDefault; split <;> rfl

/-! ## What every loaded configuration satisfies -/

/-- `calculateLookbackDays` never answers zero days. -/
theorem calculateLookbackDays_ne_zero (timeframe : String) :
    calculateLookbackDays timeframe ≠ 0 := by
  unfold calculateLookbackDays; split <;> decide

theorem autoLookbackDays_ne_zero (cfg : TradingParams) :
    (autoLookbackDays cfg).cryptoLookbackDays ≠ 0 := by
  rw [autoLookbackDays_eq]
  dsimp only
  split
  · exact calculateLookbackDays_ne_zero _
  · assumption

theorem multiTimeframeDefaults_cryptoLookbackDays (cfg : TradingParams) :
    (multiTimeframeDefaults cfg).cryptoLookbackDays = cfg.cryptoLookbackDays := by
  rw [multiTimeframeDefaults_eq]; split <;> rfl

/-- With multi-timeframe analysis on, the defaults leave a longer timeframe and a lookback
    for it. -/
theorem multiTimeframeDefaults_longer (cfg : TradingParams)
    (h : (multiTimeframeDefaults cfg).enableMultiTimeframe = true) :
    (multiTimeframeDefaults cfg).cryptoLongerTimeframe ≠ "" ∧
      (multiTimeframeDefaults cfg).cryptoLongerLookbackDays ≠ 0 := by
  rw [multiTimeframeDefaults_eq] at h ⊢
  split
  · constructor
    · dsimp only; split
      · decide
      · assumption
    · dsimp only
      split
      · exact calculateLookbackDays_ne_zero _
      · assumption
  · next hoff => rw [if_neg hoff] at h; contradiction

/-- The properties every `TradingParams` that `LoadConfig` returns has. -/
structure TradingParams.Loaded (cfg : TradingParams) : Prop where
  symbols_ne_nil : cfg.cryptoSymbols ≠ []
  symbols_trimmed : ∀ s ∈ cfg.cryptoSymbols, trimSpace s.data = s.data ∧ ',' ∉ s.data
  lookback_ne_zero : cfg.cryptoLookbackDays ≠ 0
  longer_set : cfg.enableMultiTimeframe = true →
    cfg.cryptoLongerTimeframe ≠ "" ∧ cfg.cryptoLongerLookbackDays ≠ 0
  interval_set : cfg.tradingInterval = "" → cfg.cryptoTimeframe = ""

/-- For every setting of the variables it reads, `LoadConfig` returns a `Loaded`
    configuration: at least one trading pair, each trimmed and without a comma; a lookback
    of days that is never zero; with multi-timeframe analysis on, a non-empty longer
    timeframe with a lookback that is never zero; a trading interval that is empty only
    when the timeframe is. -/
theorem loadTradingParams_loaded (settings : String → Option String) :
    (loadTradingParams settings).Loaded := by
  simp only [loadTradingParams, tradingIntervalDefault_eq, parseCryptoSymbols_eq]
  generalize viperGetString "" (settings "CRYPTO_SYMBOLS") = symbolsStr
  have hlookback := autoLookbackDays_ne_zero (readTradingParams settings)
  rw [← multiTimeframeDefaults_cryptoLookbackDays] at hlookback
  have hlonger := multiTimeframeDefaults_longer (autoLookbackDays (readTradingParams settings))
  generalize multiTimeframeDefaults (autoLookbackDays (readTradingParams settings)) = cfg
    at hlookback hlonger
  refine ⟨?symbols, ?trimmed, hlookback, hlonger, ?interval⟩
  case symbols =>
    dsimp only; split
    · exact (splitSymbols_spec _).1
    · simp
  case trimmed =>
    dsimp only; split
    · exact (splitSymbols_spec _).2
    · simp only [List.mem_singleton, forall_eq]; decide
  case interval =>
    dsimp only; split
    · exact id
    · intro h; contradiction

/-- The defaults, a negative lookback and a trailing comma: the pairs ` BTC/USDT, ETH/USDT ,`
    are `BTC/USDT`, `ETH/USDT` and the empty pair, and `-3` lookback days stay. -/
theorem loadTradingParams_loaded_on_sample :
    let settings : String → Option String := fun key =>
      if key = "CRYPTO_SYMBOLS" then some " BTC/USDT, ETH/USDT ,"
      else if key = "CRYPTO_LOOKBACK_DAYS" then some "-3"
      else if key = "ENABLE_MULTI_TIMEFRAME" then some "true"
      else none
    (loadTradingParams settings).Loaded ∧
      loadTradingParams settings = ⟨["BTC/USDT", "ETH/USDT", ""], "1h", "1h", -3, true, "4h", 15⟩ :=
  ⟨loadTradingParams_loaded _, by decide⟩

/-! ## The exchange symbols and the keys -/

/-- `GetAllBinanceSymbols` gives one exchange symbol per trading pair, in order, and none
    holds a `/`. -/
theorem getAllBinanceSymbols_spec (cfg : TradingParams) :
    (getAllBinanceSymbols cfg).length = cfg.cryptoSymbols.length ∧
      ∀ s ∈ getAllBinanceSymbols cfg, '/' ∉ s.data := by
  refine ⟨List.length_map _ _, ?_⟩
  simp [getAllBinanceSymbols, getBinanceSymbolFor]

/-- `Validate` passes exactly when all three keys are set. -/
theorem validate_eq_none_iff (apiKey binanceAPIKey binanceAPISecret : String) :
    validate apiKey binanceAPIKey binanceAPISecret = none ↔
      apiKey ≠ "" ∧ binanceAPIKey ≠ "" ∧ binanceAPISecret ≠ "" := by
  unfold validate
  split_ifs with h₁ h₂ <;> simp only [reduceCtorEq, false_iff, true_iff, not_and, not_not] <;> tauto

end TradingBot
