import TradingBot.Native.Format
import TradingBot.Spec.Scheduler

/-!
# The aligned intervals of a day

`GetAlignedIntervals` writes, for each period start `k * minutes` of the day, the text
`fmt.Sprintf("%02d:%02d", hour, minute)`. With enough fuel its loop gives that list in
closed form (`alignedIntervalsLoop_eq`), and every positive timeframe gives it enough
(`getAlignedIntervals_period_starts`). The texts of two minutes of a day differ (`clockText_inj`), so the
list names each period start once, and the wall-clock time of an instant is in the list
exactly when `IsOnTimeframe` holds there (`isOnTimeframe_iff_listed`). In a location whose
offset never changes, `WaitForNextTimeframe` wakes at the next such instant
(`waitForNextTimeframe_wakes_on_boundary`).
-/

namespace TradingBot

/-- The text `GetAlignedIntervals` writes for minute `t` of the day,
    `fmt.Sprintf("%02d:%02d", t / 60, t % 60)`. -/
def clockText (t : Nat) : String :=
  sprintf02d (t / 60) ++ ":" ++ sprintf02d (t % 60)

/-- `%02d` of a number below 100 is its two decimal digits. -/
theorem sprintf02d_data {n : Nat} (h : n < 100) :
    (sprintf02d n).data = [Nat.digitChar (n / 10), Nat.digitChar (n % 10)] :=
  (by decide : ∀ n : Fin 100,
    (sprintf02d n.val).data = [Nat.digitChar (n.val / 10), Nat.digitChar (n.val % 10)]) ⟨n, h⟩

theorem clockText_data {t : Nat} (h : t < 1440) :
    (clockText t).data = [Nat.digitChar (t / 60 / 10), Nat.digitChar (t / 60 % 10), ':',
      Nat.digitChar (t % 60 / 10), Nat.digitChar (t % 60 % 10)] := by
  simp [clockText, sprintf02d_data (show t / 60 < 100 by omega),
    sprintf02d_data (show t % 60 < 100 by omega)]

/-- Two minutes of a day have different texts. -/
theorem clockText_inj {a b : Nat} (ha : a < 1440) (hb : b < 1440) (h : clockText a = clockText b) :
    a = b := by
  have hdigits := congrArg String.data h
  rw [clockText_data ha, clockText_data hb] at hdigits
  simp only [List.cons.injEq, and_true] at hdigits
  obtain ⟨h₁, h₂, -, h₃, h₄⟩ := hdigits
  have digit {x y : Nat} (hx : x < 10) (hy : y < 10) (hxy : Nat.digitChar x = Nat.digitChar y) :
      x = y := by rw [← digitChar_value hx, ← digitChar_value hy, hxy]
  have := digit (by omega) (by omega) h₁
  have := digit (by omega) (by omega) h₂
  have := digit (by omega) (by omega) h₃
  have := digit (by omega) (by omega) h₄
  omega

namespace TradingScheduler

section Loop

variable {minutes : Nat}

/-- Past the end of the day the loop adds nothing. -/
theorem alignedIntervalsLoop_done (fuel : Nat) {totalMinutes : Nat} (h : 1440 ≤ totalMinutes)
    (intervals : List String) : alignedIntervalsLoop minutes fuel totalMinutes intervals = intervals := by
  cases fuel with
  | zero => rfl
  | succ fuel => simp [alignedIntervalsLoop, Nat.not_lt.mpr h]

/-- With more rounds of fuel than periods left in the day, the loop appends the text of every
    period start from `totalMinutes` to the end of the day. -/
theorem alignedIntervalsLoop_eq (hm : 0 < minutes) {fuel totalMinutes : Nat}
    (ht : totalMinutes < 1440) (hfuel : (1439 - totalMinutes) / minutes < fuel)
    (intervals : List String) :
    alignedIntervalsLoop minutes fuel totalMinutes intervals =
      intervals ++ (List.range ((1439 - totalMinutes) / minutes + 1)).map
        fun k => clockText (totalMinutes + k * minutes) := by
  induction fuel generalizing totalMinutes intervals with
  | zero => exact absurd hfuel (Nat.not_lt_zero _)
  | succ fuel ih =>
    simp only [alignedIntervalsLoop, ht, if_true]
    rw [List.range_succ_eq_map, List.map_cons, List.map_map]
    by_cases hnext : totalMinutes + minutes < 1440
    · have hcount : (1439 - totalMinutes) / minutes = (1439 - (totalMinutes + minutes)) / minutes + 1 := by
        rw [Nat.div_eq_sub_div hm (by omega), Nat.sub_sub]
      rw [ih hnext (by omega), hcount]
      simp only [clockText, List.append_assoc, List.singleton_append, Function.comp_def,
        Nat.succ_mul, Nat.add_assoc, Nat.add_comm minutes, Nat.zero_mul, Nat.add_zero]
    · have hcount : (1439 - totalMinutes) / minutes = 0 := Nat.div_eq_of_lt (by omega)
      rw [alignedIntervalsLoop_done fuel (by omega), hcount]
      simp [clockText]

end Loop

section Day

variable {s : TradingScheduler}

theorem getAlignedIntervals_eq_map (hm : 0 < s.minutes) :
    s.getAlignedIntervals =
      (List.range (1439 / s.minutes + 1)).map (fun k => clockText (k * s.minutes)) := by
  rw [getAlignedIntervals,
    alignedIntervalsLoop_eq hm (by omega) (Nat.lt_of_le_of_lt (Nat.div_le_self _ _) (by omega))]
  simp

/-- The periods `GetAlignedIntervals` counts are the ones that start within the day. -/
theorem mem_range_iff (hm : 0 < s.minutes) {k : Nat} :
    k ∈ List.range (1439 / s.minutes + 1) ↔ k * s.minutes < 1440 := by
  rw [List.mem_range, Nat.lt_succ_iff, Nat.le_div_iff_mul_le hm]
  omega

/-- For every positive timeframe the loop ends within its fuel: `GetAlignedIntervals` lists
    the texts of the `⌈1440 / minutes⌉` period starts of the day, in order, each once. -/
theorem getAlignedIntervals_period_starts (s : TradingScheduler) (hm : 0 < s.minutes) :
    s.getAlignedIntervals =
      (List.range ((1440 + s.minutes - 1) / s.minutes)).map (fun k => clockText (k * s.minutes)) ∧
    s.getAlignedIntervals.Nodup := by
  have hcount : (1440 + s.minutes - 1) / s.minutes = 1439 / s.minutes + 1 := by
    rw [show 1440 + s.minutes - 1 = 1439 + s.minutes by omega, Nat.add_div_right _ hm]
  rw [hcount, getAlignedIntervals_eq_map hm]
  refine ⟨rfl, (List.nodup_range _).map_on fun a ha b hb hab => ?_⟩
  exact Nat.eq_of_mul_eq_mul_right hm
    (clockText_inj ((mem_range_iff hm).mp ha) ((mem_range_iff hm).mp hb) hab)

/-- The 4h timeframe lists the six starts from `"00:00"` to `"20:00"`. -/
theorem getAlignedIntervals_four_hours :
    let s : TradingScheduler := ⟨"4h", 240⟩
    0 < s.minutes ∧
      (s.getAlignedIntervals =
        (List.range ((1440 + s.minutes - 1) / s.minutes)).map (fun k => clockText (k * s.minutes)) ∧
      s.getAlignedIntervals.Nodup) ∧
      s.getAlignedIntervals = ["00:00", "04:00", "08:00", "12:00", "16:00", "20:00"] := by
  intro s
  exact ⟨by decide, getAlignedIntervals_period_starts s (by decide), by decide⟩

/-- A time of day is listed exactly when the timeframe divides its minute. -/
theorem clockText_mem_getAlignedIntervals (hm : 0 < s.minutes) {t : Nat} (ht : t < 1440) :
    clockText t ∈ s.getAlignedIntervals ↔ t % s.minutes = 0 := by
  rw [getAlignedIntervals_eq_map hm, List.mem_map]
  constructor
  · rintro ⟨k, hk, heq⟩
    rw [← clockText_inj ((mem_range_iff hm).mp hk) ht heq]
    exact Nat.mul_mod_left k s.minutes
  · intro h
    refine ⟨t / s.minutes, (mem_range_iff hm).mpr ?_, ?_⟩ <;>
      rw [Nat.div_mul_cancel (Nat.dvd_of_mod_eq_zero h)]
    exact ht

/-- The minute of the day of an instant's wall clock, below 1440. -/
theorem minuteOfDay_lt (loc : Location) (t : Int) :
    0 ≤ loc.hour t * 60 + loc.minute t ∧ (loc.hour t * 60 + loc.minute t).toNat < 1440 := by
  simp only [Location.hour, Location.minute]
  omega

/-- The time of day of an instant, written as `GetAlignedIntervals` writes it, is the text of
    the minute of the day. -/
theorem wallClockText_eq (loc : Location) (t : Int) :
    sprintf02d (loc.hour t).toNat ++ ":" ++ sprintf02d (loc.minute t).toNat =
      clockText (loc.hour t * 60 + loc.minute t).toNat := by
  have : 0 ≤ loc.hour t ∧ 0 ≤ loc.minute t ∧ loc.minute t < 60 := by
    simp only [Location.hour, Location.minute]; omega
  rw [clockText, show (loc.hour t * 60 + loc.minute t).toNat / 60 = (loc.hour t).toNat by omega,
    show (loc.hour t * 60 + loc.minute t).toNat % 60 = (loc.minute t).toNat by omega]

/-- `IsOnTimeframe` is the timeframe dividing the minute of the day: its check of the second
    always holds. -/
theorem isOnTimeframe_iff_dvd (s : TradingScheduler) (loc : Location) (t : Int) :
    s.isOnTimeframe loc t = true ↔ (loc.hour t * 60 + loc.minute t).toNat % s.minutes = 0 := by
  have hsecond : loc.second t < 60 := by simp only [Location.second]; omega
  obtain ⟨T, hT⟩ : ∃ T : Nat, loc.hour t * 60 + loc.minute t = T :=
    ⟨_, (Int.toNat_of_nonneg (minuteOfDay_lt loc t).1).symm⟩
  simp only [isOnTimeframe, hsecond, and_true, decide_eq_true_eq, hT, Int.toNat_ofNat,
    ← Int.natCast_mod]
  omega

/-- `IsOnTimeframe` holds at an instant exactly when `GetAlignedIntervals` lists the time of
    day its wall clock shows, written as the list writes it. -/
theorem isOnTimeframe_iff_listed (s : TradingScheduler) (hm : 0 < s.minutes) (loc : Location)
    (t : Int) :
    s.isOnTimeframe loc t = true ↔
      sprintf02d (loc.hour t).toNat ++ ":" ++ sprintf02d (loc.minute t).toNat ∈
        s.getAlignedIntervals := by
  rw [wallClockText_eq, clockText_mem_getAlignedIntervals hm (minuteOfDay_lt loc t).2,
    isOnTimeframe_iff_dvd]

/-- In UTC the 4h timeframe is on its boundary at 04:00 (14400 s), whose text it lists, and
    not at 09:30 (34200 s). -/
theorem isOnTimeframe_listed_in_utc :
    let s : TradingScheduler := ⟨"4h", 240⟩
    let utc : Location := ⟨fun _ => ⟨0, 0, 0⟩⟩
    0 < s.minutes ∧
      (s.isOnTimeframe utc 14400 = true ↔
        sprintf02d (utc.hour 14400).toNat ++ ":" ++ sprintf02d (utc.minute 14400).toNat ∈
          s.getAlignedIntervals) ∧
      s.isOnTimeframe utc 14400 = true ∧ s.isOnTimeframe utc 34200 = false := by
  intro s utc
  exact ⟨by decide, isOnTimeframe_iff_listed s (by decide) utc 14400, by decide, by decide⟩

end Day

/-! ## The wait -/

/-- In a location whose offset never changes, `WaitForNextTimeframe` of a reachable scheduler
    returns the first instant after `now` on a period boundary, at most one period ahead;
    `IsOnTimeframe` holds there, and `GetAlignedIntervals` lists its time of day. -/
theorem waitForNextTimeframe_wakes_on_boundary (s : TradingScheduler) (hs : s.Reachable)
    {loc : Location} {o : Int} (ho : ∀ t, (loc.lookup t).offset = o) (now : Int) :
    let t := s.waitForNextTimeframe loc now
    now < t ∧ t ≤ now + 60 * s.minutes ∧ loc.onBoundary s.minutes t ∧
      (∀ t', now < t' → loc.onBoundary s.minutes t' → t ≤ t') ∧
      s.isOnTimeframe loc t = true ∧
      sprintf02d (loc.hour t).toNat ++ ":" ++ sprintf02d (loc.minute t).toNat ∈
        s.getAlignedIntervals := by
  obtain ⟨hafter, hwithin, hbound, hfirst⟩ := getNextTimeframeTime_of_fixed_offset s hs ho now
  have hwait : s.waitForNextTimeframe loc now = s.getNextTimeframeTime loc now := by
    rw [waitForNextTimeframe, if_pos (by linarith)]
    ring
  have hon := isOnTimeframe_of_onBoundary s loc hbound
  simp only [hwait]
  refine ⟨hafter, hwithin, hbound, hfirst, hon, ?_⟩
  rw [wallClockText_eq, clockText_mem_getAlignedIntervals hs.minutes_pos_dvd.1
    (minuteOfDay_lt loc _).2, ← isOnTimeframe_iff_dvd]
  exact hon

/-- In UTC, the 4h scheduler waiting at 05:00:30 wakes at 08:00. -/
theorem waitForNextTimeframe_wakes_at_eight :
    let s : TradingScheduler := ⟨"4h", 240⟩
    let utc : Location := ⟨fun _ => ⟨0, 0, 0⟩⟩
    s.Reachable ∧ (∀ t, (utc.lookup t).offset = 0) ∧
      (let t := s.waitForNextTimeframe utc 18030
      18030 < t ∧ t ≤ 18030 + 60 * s.minutes ∧ utc.onBoundary s.minutes t ∧
        (∀ t', 18030 < t' → utc.onBoundary s.minutes t' → t ≤ t') ∧
        s.isOnTimeframe utc t = true ∧
        sprintf02d (utc.hour t).toNat ++ ":" ++ sprintf02d (utc.minute t).toNat ∈
          s.getAlignedIntervals) ∧
      s.waitForNextTimeframe utc 18030 = 28800 := by
  intro s utc
  have hs : s.Reachable := .new (show newTradingScheduler "4h" = .ok s from rfl)
  have ho : ∀ t, (utc.lookup t).offset = 0 := fun _ => rfl
  exact ⟨hs, ho, waitForNextTimeframe_wakes_on_boundary s hs ho 18030, by decide⟩

end TradingScheduler

end TradingBot
