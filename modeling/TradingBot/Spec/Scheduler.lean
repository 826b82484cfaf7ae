import Mathlib.Tactic.LinearCombination
import Mathlib.Tactic.Linarith
import Mathlib.Tactic.Positivity
import TradingBot.Native.Scheduler

/-!
# When `GetNextTimeframeTime` fires

The scheduler's timeframes all divide a day of 1440 minutes, and every scheduler that
`NewTradingScheduler` and `UpdateTimeframe` produce holds one of them (`Reachable.mem`).
In a location whose offset never changes, `GetNextTimeframeTime` is right at every
instant, the crossing into the next day included: it returns the first instant after
`now` whose wall clock is a whole number of periods after midnight, at most one period
ahead (`getNextTimeframeTime_of_fixed_offset`).

The code finds that instant as the day's midnight plus so many minutes of elapsed time.
On a day whose clocks change, elapsed minutes and wall-clock minutes after midnight
differ by the change, and the result is off by it: after clocks go back it can lie before
`now`, and `WaitForNextTimeframe` then returns at once; after clocks go forward it can lie
more than a period ahead (`next_timeframe_across_clock_change`).

## Key results

- `Reachable.minutes_pos_dvd`: a reachable scheduler's period divides the day.
- `isOnTimeframe_of_onBoundary`: `IsOnTimeframe` holds on every boundary.
- `getNextTimeframeTime_of_fixed_offset`: the next boundary, in a location of fixed offset.
- `next_timeframe_across_clock_change`: the result on days whose clocks change.
-/

namespace TradingBot

/-- The wall clock of `t` shows a whole multiple of `m` minutes after midnight. -/
def Location.onBoundary (loc : Location) (m : Nat) (t : Int) : Prop :=
  loc.wallClock t % 86400 % (60 * m) = 0

instance (loc : Location) (m : Nat) (t : Int) : Decidable (loc.onBoundary m t) :=
  inferInstanceAs (Decidable (_ = _))

namespace TradingScheduler

/-! ## The timeframes a scheduler holds -/

/-- The schedulers `NewTradingScheduler` builds and `UpdateTimeframe` then changes. -/
inductive Reachable : TradingScheduler → Prop
  | new {timeframe : String} {s : TradingScheduler} :
      newTradingScheduler timeframe = .ok s → Reachable s
  | update {s : TradingScheduler} (newTimeframe : String) :
      Reachable s → Reachable (s.updateTimeframe newTimeframe).1

theorem mem_of_lookup {timeframe : String} {minutes : Nat}
    (h : timeframeMinutes.lookup timeframe = some minutes) : (timeframe, minutes) ∈ timeframeMinutes := by
  obtain ⟨l₁, l₂, hl, -⟩ := List.lookup_eq_some_iff.mp h
  rw [hl]
  simp

theorem newTradingScheduler_mem {timeframe : String} {s : TradingScheduler}
    (h : newTradingScheduler timeframe = .ok s) : (s.timeframe, s.minutes) ∈ timeframeMinutes := by
  unfold newTradingScheduler at h
  split at h
  · cases h
  · next minutes hlook =>
    cases h
    exact mem_of_lookup hlook

/-- An unsupported timeframe leaves the scheduler as it was. -/
theorem updateTimeframe_error (s : TradingScheduler) (newTimeframe : String)
    (h : (s.updateTimeframe newTimeframe).2 ≠ none) : (s.updateTimeframe newTimeframe).1 = s := by
  unfold updateTimeframe at h ⊢
  split
  · rfl
  · next minutes hlook => simp [hlook] at h

theorem updateTimeframe_mem (s : TradingScheduler) (newTimeframe : String)
    (hs : (s.timeframe, s.minutes) ∈ timeframeMinutes) :
    ((s.updateTimeframe newTimeframe).1.timeframe, (s.updateTimeframe newTimeframe).1.minutes) ∈
      timeframeMinutes := by
  unfold updateTimeframe
  split
  · exact hs
  · next minutes hlook => exact mem_of_lookup hlook

/-- A reachable scheduler holds a timeframe of the table with its length. -/
theorem Reachable.mem {s : TradingScheduler} (h : s.Reachable) :
    (s.timeframe, s.minutes) ∈ timeframeMinutes := by
  induction h with
  | new h => exact newTradingScheduler_mem h
  | update newTimeframe _ ih => exact updateTimeframe_mem _ newTimeframe ih

/-- A reachable scheduler's period is positive and divides the day. -/
theorem Reachable.minutes_pos_dvd {s : TradingScheduler} (h : s.Reachable) :
    0 < s.minutes ∧ s.minutes ∣ 1440 := by
  have htable : ∀ p ∈ timeframeMinutes, 0 < p.2 ∧ p.2 ∣ 1440 := by decide
  exact htable _ h.mem

/-- `IsOnTimeframe` holds at every instant whose wall clock is a whole number of periods
    after midnight. -/
theorem isOnTimeframe_of_onBoundary (s : TradingScheduler) (loc : Location) {t : Int}
    (h : loc.onBoundary s.minutes t) : s.isOnTimeframe loc t = true := by
  obtain ⟨k, hk⟩ := Int.dvd_of_emod_eq_zero h
  rw [mul_assoc] at hk
  have hminute : loc.hour t * 60 + loc.minute t = (s.minutes : Int) * k := by
    simp only [Location.hour, Location.minute]
    omega
  simp only [isOnTimeframe, hminute, Int.mul_emod_right, Location.second, decide_eq_true_eq,
    true_and]
  omega

/-! ## A location of fixed offset -/

section FixedOffset

variable {loc : Location} {o : Int}

theorem wallClock_of_fixed (ho : ∀ t, (loc.lookup t).offset = o) (t : Int) :
    loc.wallClock t = t + o := by
  rw [Location.wallClock, ho]

/-- `time.Date` of a midnight, in a location of fixed offset. -/
theorem date_of_fixed (ho : ∀ t, (loc.lookup t).offset = o) (day : Int) :
    loc.date day = day * 86400 - o := by
  unfold Location.date
  simp only [ho]
  split_ifs with h₀
  · rw [h₀, sub_zero]
  · rfl
  · rfl

/-- In a location of fixed offset, `GetNextTimeframeTime` is the midnight of the day plus the
    minute of the day rounded up to the next whole period, in both of its branches. -/
theorem getNextTimeframeTime_of_fixed (s : TradingScheduler) (ho : ∀ t, (loc.lookup t).offset = o)
    (now : Int) :
    s.getNextTimeframeTime loc now =
      (now + o) / 86400 * 86400 - o +
        ((now + o) % 86400 / 60 / s.minutes + 1) * s.minutes * 60 := by
  have hcm : loc.hour now * 60 + loc.minute now = (now + o) % 86400 / 60 := by
    simp only [Location.hour, Location.minute, wallClock_of_fixed ho]
    omega
  simp only [getNextTimeframeTime, hcm, Location.day, wallClock_of_fixed ho, date_of_fixed ho]
  split_ifs <;> ring

/-- In a location whose offset never changes, `GetNextTimeframeTime` of a reachable
    scheduler returns the first instant after `now` whose wall clock is a whole number of
    periods after midnight, and that instant is at most one period ahead. -/
theorem getNextTimeframeTime_of_fixed_offset (s : TradingScheduler) (hs : s.Reachable)
    (ho : ∀ t, (loc.lookup t).offset = o) (now : Int) :
    now < s.getNextTimeframeTime loc now ∧
      s.getNextTimeframeTime loc now ≤ now + 60 * s.minutes ∧
      loc.onBoundary s.minutes (s.getNextTimeframeTime loc now) ∧
      ∀ t, now < t → loc.onBoundary s.minutes t → s.getNextTimeframeTime loc now ≤ t := by
  obtain ⟨hpos, j, hj⟩ := hs.minutes_pos_dvd
  have hm : (0 : Int) < s.minutes := by exact_mod_cast hpos
  have hmj : (s.minutes : Int) * j = 1440 := by exact_mod_cast hj.symm
  rw [getNextTimeframeTime_of_fixed s ho]
  set m : Int := (s.minutes : Int)
  set d := (now + o) / 86400
  set cm := (now + o) % 86400 / 60
  set q := cm / m
  -- the wall clock is the day, then `cm` whole minutes and some seconds
  have hwall : now + o = d * 86400 + (now + o) % 86400 := (Int.ediv_add_emod' _ _).symm
  have hcm₁ : cm * 60 ≤ (now + o) % 86400 := by omega
  have hcm₂ : (now + o) % 86400 < cm * 60 + 60 := by omega
  -- `q * m` is `cm` rounded down to a whole period
  have hq₁ : cm < q * m + m := by simpa only [add_one_mul] using Int.lt_ediv_add_one_mul_self cm hm
  have hq₂ : q * m ≤ cm := Int.ediv_mul_le cm hm.ne'
  -- the result's wall clock is a whole number of periods
  have hboundary : d * 86400 - o + (q + 1) * m * 60 + o = 60 * m * (d * j + q + 1) := by
    linear_combination (60 * d) * hmj.symm
  have hday : 60 * m ∣ 86400 := ⟨j, by linear_combination 60 * hmj.symm⟩
  have honBoundary : ∀ t, loc.onBoundary s.minutes t ↔ 60 * m ∣ t + o := fun t => by
    rw [Location.onBoundary, wallClock_of_fixed ho, Int.emod_emod_of_dvd _ hday]
    exact Int.dvd_iff_emod_eq_zero.symm
  refine ⟨by linarith only [hwall, hcm₂, hq₁], by linarith only [hwall, hcm₁, hq₂],
    (honBoundary _).mpr ⟨d * j + q + 1, hboundary⟩,
    fun t ht hboundary' => ?_⟩
  obtain ⟨k, hk⟩ := (honBoundary t).mp hboundary'
  -- a boundary after `now` is at least one period past `q * m` minutes
  have hk' : d * j + q + 1 ≤ k := by
    by_contra hlt
    have hle : 60 * m * k ≤ 60 * m * (d * j + q) :=
      mul_le_mul_of_nonneg_left (by omega) (by positivity)
    have hperiods : 60 * m * (d * j + q) = d * 86400 + 60 * (q * m) := by
      linear_combination (60 * d) * hmj
    linarith only [hk, hle, hperiods, hq₂, hcm₁, hwall, ht]
  linarith only [hk, hboundary, mul_le_mul_of_nonneg_left hk' (by positivity : (0 : Int) ≤ 60 * m)]

end FixedOffset

/-! ## Days whose clocks change -/

/-- On a day whose clocks go back from UTC+2 to UTC+1 at 01:00 UTC, at 03:30 local time
    after the change, the hourly scheduler's next period is 03:00 local time, half an hour
    before `now`, and `WaitForNextTimeframe` returns at once; on a day whose clocks go
    forward from UTC+1 to UTC+2 at 01:00 UTC, at 03:30 local time it is 05:00 local time,
    ninety minutes ahead, with 04:00 in between. -/
theorem next_timeframe_across_clock_change :
    let fallBack : Location :=
      ⟨fun t => if t < 3600 then ⟨7200, -2 ^ 63, 3600⟩ else ⟨3600, 3600, 2 ^ 63 - 1⟩⟩
    let springForward : Location :=
      ⟨fun t => if t < 3600 then ⟨3600, -2 ^ 63, 3600⟩ else ⟨7200, 3600, 2 ^ 63 - 1⟩⟩
    let hourly : TradingScheduler := ⟨"1h", 60⟩
    newTradingScheduler "1h" = .ok hourly ∧
      fallBack.wallClock 9000 = 3 * 3600 + 30 * 60 ∧
      hourly.getNextTimeframeTime fallBack 9000 = 7200 ∧
      fallBack.wallClock 7200 = 3 * 3600 ∧
      hourly.waitForNextTimeframe fallBack 9000 = 9000 ∧
      springForward.wallClock 5400 = 3 * 3600 + 30 * 60 ∧
      hourly.getNextTimeframeTime springForward 5400 = 10800 ∧
      springForward.wallClock 10800 = 5 * 3600 ∧
      springForward.onBoundary 60 7200 := by
  refine ⟨rfl, ?_⟩
  decide

end TradingScheduler

end TradingBot
