import Mathlib.Data.Int.Defs

/-!
# The trading scheduler

`TradingScheduler` (`internal/scheduler`) waits for the start of the next K-line period:
`GetNextTimeframeTime` takes the minute of the day of `time.Now()`, rounds it up to the next
multiple of the timeframe, and adds that many minutes to `time.Date(...)` of the day's
midnight (the next day's, past 24 hours). `IsOnTimeframe` checks that the minute of the day
is a multiple of the timeframe, and `GetAlignedIntervals` lists those minutes as `hh:mm`.

Instants are whole seconds since the Unix epoch, in `Int`: the nanoseconds of `time.Now()`
change neither its hour nor its minute, and the instants the scheduler computes have none.
A `*time.Location` is its `lookup`: for every instant, the zone in force then, with its
offset east of UTC and the instants `[start, end)` it covers, as Go's zone tables give
them. `t.Hour()`, `t.Minute()` and `t.Second()` read the wall clock `t + offset`; the date
of `t.Year(), t.Month(), t.Day()` is the wall clock's day count, which `time.Date` turns
back into the same day (Go's civil calendar conversions are inverse on every date they
represent), and `time.Date` resolves the wall-clock midnight of a day with the two lookups
its source makes. The `sync.RWMutex` is not modelled: every read and write of the pair it
guards happens under it, so each call sees one consistent scheduler.
-/

namespace TradingBot

/-- `timeframeMinutes`: the supported K-line timeframes and their length in minutes. -/
def timeframeMinutes : List (String × Nat) :=
  [("1m", 1), ("3m", 3), ("5m", 5), ("15m", 15), ("30m", 30), ("1h", 60), ("2h", 120),
    ("4h", 240), ("6h", 360), ("12h", 720), ("1d", 1440)]

/-- `TradingScheduler`: the timeframe and its length in minutes. -/
structure TradingScheduler where
  timeframe : String
  minutes : Nat
  deriving DecidableEq, Repr

/-- `NewTradingScheduler`: a scheduler for a supported timeframe. -/
def newTradingScheduler (timeframe : String) : Except String TradingScheduler :=
  match timeframeMinutes.lookup timeframe with
  | none => .error ("unsupported timeframe: " ++ timeframe)
  | some minutes => .ok ⟨timeframe, minutes⟩

/-- One zone of a location: the offset east of UTC in seconds, and the instants
    `[start, stop)` it is in force (`start` and `end` of Go's `lookup`). -/
structure Zone where
  offset : Int
  start : Int
  stop : Int

/-- A `*time.Location`, as its `lookup`: the zone in force at each instant. -/
structure Location where
  lookup : Int → Zone

namespace Location

/-- The wall clock of an instant: the seconds since the epoch that the local time would be,
    read as UTC. -/
def wallClock (loc : Location) (t : Int) : Int := t + (loc.lookup t).offset

/-- `t.Hour()`. -/
def hour (loc : Location) (t : Int) : Int := loc.wallClock t % 86400 / 3600

/-- `t.Minute()`. -/
def minute (loc : Location) (t : Int) : Int := loc.wallClock t % 3600 / 60

/-- `t.Second()`. -/
def second (loc : Location) (t : Int) : Int := loc.wallClock t % 60

/-- The local date of `t`, as days since 1970-01-01 of the wall clock. -/
def day (loc : Location) (t : Int) : Int := loc.wallClock t / 86400

/-- `time.Date(y, m, d, 0, 0, 0, 0, loc)` of the date `day`: the wall-clock midnight as if it
    were UTC, less the offset of the zone found for it, or, when that zone does not cover
    the instant this gives, less the offset of the zone that does. -/
def date (loc : Location) (day : Int) : Int :=
  let unix := day * 86400
  let zone := loc.lookup unix
  if zone.offset = 0 then unix
  else
    let utc := unix - zone.offset
    let offset := if utc < zone.start ∨ zone.stop ≤ utc then (loc.lookup utc).offset else zone.offset
    unix - offset

end Location

/-- `fmt.Sprintf("%02d", n)` of a number that is not negative: its decimal digits, with a
    `0` in front of a single digit. -/
def sprintf02d (n : Nat) : String :=
  if n < 10 then "0" ++ toString n else toString n

namespace TradingScheduler

/-- `UpdateTimeframe`: switch to a supported timeframe; an unsupported one is an error that
    leaves the scheduler as it was. -/
def updateTimeframe (s : TradingScheduler) (newTimeframe : String) :
    TradingScheduler × Option String :=
  match timeframeMinutes.lookup newTimeframe with
  | none => (s, some ("unsupported timeframe: " ++ newTimeframe))
  | some minutes => (⟨newTimeframe, minutes⟩, none)

/-- `GetNextTimeframeTime` at the instant `now`, in the location `loc` of `time.Now()`. -/
def getNextTimeframeTime (s : TradingScheduler) (loc : Location) (now : Int) : Int :=
  let minutes : Int := s.minutes
  let currentMinute := loc.hour now * 60 + loc.minute now
  let nextPeriod := (currentMinute / minutes + 1) * minutes
  if nextPeriod ≥ 1440 then
    let nextDay := loc.date (loc.day now + 1)
    nextDay + (nextPeriod - 1440) * 60
  else
    let today := loc.date (loc.day now)
    today + nextPeriod * 60

/-- `WaitForNextTimeframe` without its countdown display: the instant it returns, after
    sleeping until the next period when that lies ahead, at once otherwise. -/
def waitForNextTimeframe (s : TradingScheduler) (loc : Location) (now : Int) : Int :=
  let waitDuration := s.getNextTimeframeTime loc now - now
  if waitDuration > 0 then now + waitDuration else now

/-- `IsOnTimeframe`: the minute of the day is a multiple of the timeframe (the check of the
    second always holds). -/
def isOnTimeframe (s : TradingScheduler) (loc : Location) (now : Int) : Bool :=
  let currentMinute := loc.hour now * 60 + loc.minute now
  currentMinute % (s.minutes : Int) = 0 ∧ loc.second now < 60

/-- The `for totalMinutes < 1440` loop of `GetAlignedIntervals`, on at most `fuel` rounds:
    append `fmt.Sprintf("%02d:%02d", hour, minute)` of `totalMinutes` and advance it by the
    timeframe. -/
def alignedIntervalsLoop (minutes : Nat) : (fuel totalMinutes : Nat) → List String → List String
  | 0, _, intervals => intervals
  | fuel + 1, totalMinutes, intervals =>
    if totalMinutes < 1440 then
      let hour := totalMinutes / 60
      let minute := totalMinutes % 60
      alignedIntervalsLoop minutes fuel (totalMinutes + minutes)
        (intervals ++ [sprintf02d hour ++ ":" ++ sprintf02d minute])
    else intervals

/-- `GetAlignedIntervals`: the times of day of the period starts, from midnight on. A
    positive timeframe ends the loop within 1440 rounds; at a zero timeframe, which no
    scheduler holds, the Go loop never ends and the model stops after 1440 rounds. -/
def getAlignedIntervals (s : TradingScheduler) : List String :=
  alignedIntervalsLoop s.minutes 1440 0 []

end TradingScheduler

end TradingBot
