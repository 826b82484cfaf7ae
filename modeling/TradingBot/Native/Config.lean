import Mathlib.Data.List.Basic
import TradingBot.Native.Format

/-!
# The leverage settings of `LoadConfig`

`LoadConfig` (`internal/config`) reads `BINANCE_LEVERAGE` twice through viper: as an
integer for `BinanceLeverage`, and as text, which it then inspects. Text with a `-` is a
range `min-max`: split at every `-`, two parts are each trimmed and scanned with
`fmt.Sscanf(..., "%d", ...)`; a range with `0 < min ≤ max ≤ 125` turns dynamic leverage on,
any other two-part range falls back to a fixed `10`, and more parts change nothing. Text
without a `-` is a fixed leverage, copied to both bounds.

viper hands `LoadConfig` the setting as the environment or the `.env` file has it, or the
default `10` when neither sets it. `viper.GetInt` of a text is `cast.ToInt`:
`strconv.ParseInt(trimZeroDecimal(s), 0, 0)`, and `0` when that fails. The parts of that
library code that `LoadConfig` reaches are written out below: the base prefixes, the
underscore rule and the range check of `strconv`, and `cast`'s trimming of a zero fraction.

The trading parameters are read by the same `LoadConfig` call and meet the leverage fields
nowhere, so `loadTradingParams` models them apart: the timeframes, their lookback days
(`calculateLookbackDays` when a setting is zero), the trading interval, and the trading
pairs of `CRYPTO_SYMBOLS` split at every comma and trimmed. `Validate` checks the three
keys, and `GetAllBinanceSymbols` strips the `/` of every pair.
-/

namespace TradingBot

/-- `strings.TrimSpace`: strip `unicode.IsSpace` runes from both ends. `unicode.IsSpace` is
    the `White_Space` table, the same one the `fmt` scanner's `isSpace` lists. -/
def trimSpace (cs : List Char) : List Char :=
  ((cs.dropWhile isScanSpace).reverse.dropWhile isScanSpace).reverse

/-! ## `cast.ToInt` of a text -/

/-- The value of a digit or letter in `strconv`'s bases: `0`–`9`, then `a`/`A` as `10` up to
    `z`/`Z` as `35`. Any other rune is no digit. -/
def digitVal (c : Char) : Option Nat :=
  if '0' ≤ c ∧ c ≤ '9' then some (c.toNat - '0'.toNat)
  else if 'a' ≤ c.toLower ∧ c.toLower ≤ 'z' then some (c.toLower.toNat - 'a'.toNat + 10)
  else none

/-- One rune of `strconv.underscoreOK`'s scan; the state is the class of the last rune seen
    (`^` start, `0` digit or base prefix, `_` underscore, `!` other), `none` once it failed. -/
def underscoreStep (hex : Bool) : Option Char → Char → Option Char
  | none, _ => none
  | some saw, c =>
    if ('0' ≤ c ∧ c ≤ '9') ∨ (hex ∧ 'a' ≤ c.toLower ∧ c.toLower ≤ 'f') then some '0'
    else if c = '_' then (if saw = '0' then some '_' else none)
    else if saw = '_' then none
    else some '!'

/-- `strconv.underscoreOK`: every underscore stands between digits, a base prefix counting
    as a digit. -/
def underscoreOK (s : List Char) : Bool :=
  let s := match s with
    | '-' :: t => t
    | '+' :: t => t
    | t => t
  let (saw, hex, rest) : Char × Bool × List Char := match s with
    | '0' :: c :: t =>
      if c.toLower = 'b' ∨ c.toLower = 'o' ∨ c.toLower = 'x' then ('0', c.toLower = 'x', t)
      else ('^', false, s)
    | _ => ('^', false, s)
  match rest.foldl (underscoreStep hex) (some saw) with
  | none => false
  | some saw => saw ≠ '_'

/-- `strconv.ParseUint(s, 0, 64)` up to its overflow check: the base from the prefix (`0b`,
    `0o`, `0x`, or a bare leading `0` for octal), then digits below the base, underscores
    allowed where `underscoreOK` allows them. -/
def parseUintBase0 (s : List Char) : Option Nat :=
  let (base, digits) : Nat × List Char := match s with
    | '0' :: c :: d :: rest =>
      if c.toLower = 'b' then (2, d :: rest)
      else if c.toLower = 'o' then (8, d :: rest)
      else if c.toLower = 'x' then (16, d :: rest)
      else (8, c :: d :: rest)
    | '0' :: rest => (8, rest)
    | _ => (10, s)
  let value := digits.foldlM (fun n c =>
    if c = '_' then some n
    else match digitVal c with
      | some d => if d < base then some (n * base + d) else none
      | none => none) 0
  if s = [] then none
  else if '_' ∈ digits ∧ underscoreOK s = false then none
  else value

/-- `strconv.ParseInt(s, 0, 0)` on a 64-bit platform: an optional sign, then `ParseUint`, and
    the `int64` range. Every failure, overflow included, is `none`. -/
def parseIntBase0 (s : List Char) : Option Int :=
  let (neg, body) : Bool × List Char := match s with
    | '+' :: t => (false, t)
    | '-' :: t => (true, t)
    | t => (false, t)
  if s = [] then none
  else match parseUintBase0 body with
    | none => none
    | some n =>
      let v : Int := if neg then -(n : Int) else n
      if -2 ^ 63 ≤ v ∧ v < 2 ^ 63 then some v else none

/-- The scan of `cast`'s `trimZeroDecimal`, over the text reversed: zeros are passed over,
    a `.` after at least one zero cuts the text there, any other rune keeps it whole. -/
def trimZeroDecimalAux (foundZero : Bool) : List Char → Option (List Char)
  | [] => none
  | c :: rest =>
    if c = '.' then (if foundZero then some rest.reverse else trimZeroDecimalAux foundZero rest)
    else if c = '0' then trimZeroDecimalAux true rest
    else none

/-- `cast`'s `trimZeroDecimal`: `"12.00"` becomes `"12"`; other texts stay as they are. -/
def trimZeroDecimal (s : List Char) : List Char :=
  (trimZeroDecimalAux false s.reverse).getD s

/-- `cast.ToInt` of a text: `ParseInt` of the trimmed text, `0` when it fails. -/
def castToInt (s : String) : Int :=
  (parseIntBase0 (trimZeroDecimal s.toList)).getD 0

/-! ## The leverage fields -/

/-- viper's `GetString("BINANCE_LEVERAGE")`: the setting, or the default `10` as text. -/
def getString : Option String → String
  | none => "10"
  | some s => s

/-- viper's `GetInt("BINANCE_LEVERAGE")`: `cast.ToInt` of the setting, or the default `10`. -/
def getInt : Option String → Int
  | none => 10
  | some s => castToInt s

/-- The leverage fields of `Config` (the other fields are read by nothing modelled here). -/
structure Config where
  binanceLeverage : Int
  binanceLeverageMin : Int
  binanceLeverageMax : Int
  binanceLeverageDynamic : Bool
  deriving DecidableEq, Repr

/-- `LoadConfig`, for the leverage fields, given the `BINANCE_LEVERAGE` setting viper sees
    (`none` when neither the environment nor the `.env` file sets it). -/
def loadConfig (binanceLeverage : Option String) : Config :=
  let cfg : Config := ⟨getInt binanceLeverage, 0, 0, false⟩
  let leverageStr := (getString binanceLeverage).toList
  if '-' ∈ leverageStr then
    match leverageStr.splitOn '-' with
    | [part₀, part₁] =>
      let minLev := parseInt64 ⟨trimSpace part₀⟩
      let maxLev := parseInt64 ⟨trimSpace part₁⟩
      if 0 < minLev ∧ 0 < maxLev ∧ minLev ≤ maxLev ∧ maxLev ≤ 125 then
        { cfg with binanceLeverageMin := minLev, binanceLeverageMax := maxLev,
                   binanceLeverageDynamic := true, binanceLeverage := minLev }
      else
        { cfg with binanceLeverage := 10, binanceLeverageMin := 10, binanceLeverageMax := 10,
                   binanceLeverageDynamic := false }
    | _ => cfg
  else
    { cfg with binanceLeverageMin := cfg.binanceLeverage, binanceLeverageMax := cfg.binanceLeverage,
               binanceLeverageDynamic := false }

/-! ## The trading parameters -/

/-- viper's `GetString(key)`: the setting, or the default `setDefaults` gives the key (`""`
    for a key it gives none). -/
def viperGetString (default : String) : Option String → String
  | none => default
  | some s => s

/-- viper's `GetInt(key)`: `cast.ToInt` of the setting, or the default. -/
def viperGetInt (default : Int) : Option String → Int
  | none => default
  | some s => castToInt s

/-- viper's `GetBool(key)` for a key without default: `cast.ToBool` of the setting, that is
    `strconv.ParseBool`, and `false` when it fails or nothing sets the key. -/
def viperGetBool : Option String → Bool
  | none => false
  | some s => decide (s ∈ ["1", "t", "T", "TRUE", "true", "True"])

/-- `calculateLookbackDays`: the days of candles fetched for a timeframe. -/
def calculateLookbackDays (timeframe : String) : Int :=
  match timeframe with
  | "3m" => 3
  | "15m" => 5
  | "1h" => 10
  | "4h" => 15
  | "1d" => 60
  | _ => 10

/-- The trading parameters, multi-timeframe analysis and trading pairs of `Config`. -/
structure TradingParams where
  cryptoSymbols : List String
  cryptoTimeframe : String
  tradingInterval : String
  cryptoLookbackDays : Int
  enableMultiTimeframe : Bool
  cryptoLongerTimeframe : String
  cryptoLongerLookbackDays : Int
  deriving DecidableEq, Repr

/-- The `for i := range cfg.CryptoSymbols` loop of `LoadConfig`: `strings.Split(symbolsStr,
    ",")`, each part trimmed. -/
def splitSymbols (symbolsStr : String) : List String :=
  (symbolsStr.toList.splitOn ',').map fun part => ⟨trimSpace part⟩

/-- The trading parameters as the `Config` literal of `LoadConfig` reads them, with the
    defaults of `setDefaults`. -/
def readTradingParams (settings : String → Option String) : TradingParams :=
  { cryptoSymbols := []
    cryptoTimeframe := viperGetString "1h" (settings "CRYPTO_TIMEFRAME")
    tradingInterval := viperGetString "" (settings "TRADING_INTERVAL")
    cryptoLookbackDays := viperGetInt 0 (settings "CRYPTO_LOOKBACK_DAYS")
    enableMultiTimeframe := viperGetBool (settings "ENABLE_MULTI_TIMEFRAME")
    cryptoLongerTimeframe := viperGetString "" (settings "CRYPTO_LONGER_TIMEFRAME")
    cryptoLongerLookbackDays := viperGetInt 0 (settings "CRYPTO_LONGER_LOOKBACK_DAYS") }

/-- "Auto-calculate lookback days if not set". -/
def autoLookbackDays (cfg : TradingParams) : TradingParams :=
  if cfg.cryptoLookbackDays = 0 then
    { cfg with cryptoLookbackDays := calculateLookbackDays cfg.cryptoTimeframe }
  else cfg

/-- "Setup multi-timeframe analysis defaults": a longer timeframe of `4h` and its lookback,
    each only if not set. -/
def multiTimeframeDefaults (cfg : TradingParams) : TradingParams :=
  if cfg.enableMultiTimeframe then
    let cfg := if cfg.cryptoLongerTimeframe = "" then { cfg with cryptoLongerTimeframe := "4h" }
      else cfg
    if cfg.cryptoLongerLookbackDays = 0 then
      { cfg with cryptoLongerLookbackDays := calculateLookbackDays cfg.cryptoLongerTimeframe }
    else cfg
  else cfg

/-- "Parse crypto symbols": the trimmed parts of `CRYPTO_SYMBOLS`, or `BTC/USDT` when it is
    empty. -/
def parseCryptoSymbols (symbolsStr : String) (cfg : TradingParams) : TradingParams :=
  if symbolsStr ≠ "" then { cfg with cryptoSymbols := splitSymbols symbolsStr }
  else { cfg with cryptoSymbols := ["BTC/USDT"] }

/-- "Setup TradingInterval default (use CRYPTO_TIMEFRAME if not set)". -/
def tradingIntervalDefault (cfg : TradingParams) : TradingParams :=
  if cfg.tradingInterval = "" then { cfg with tradingInterval := cfg.cryptoTimeframe } else cfg

/-- `LoadConfig`, for the trading parameters, given the text viper finds for each key
    (`none` when nothing sets it): its steps in the order the code takes them. -/
def loadTradingParams (settings : String → Option String) : TradingParams :=
  tradingIntervalDefault <|
    parseCryptoSymbols (viperGetString "" (settings "CRYPTO_SYMBOLS")) <|
      multiTimeframeDefaults <| autoLookbackDays <| readTradingParams settings

/-- `Config.GetAllBinanceSymbols`: every trading pair in the exchange's spelling. -/
def getAllBinanceSymbols (cfg : TradingParams) : List String :=
  cfg.cryptoSymbols.map getBinanceSymbolFor

/-- `Config.Validate`, on the three keys it reads: the error it returns, if any. -/
def validate (apiKey binanceAPIKey binanceAPISecret : String) : Option String :=
  if apiKey = "" then some "OPENAI_API_KEY is required"
  else if binanceAPIKey = "" ∨ binanceAPISecret = "" then
    some "BINANCE_API_KEY and BINANCE_API_SECRET are required"
  else none

end TradingBot
