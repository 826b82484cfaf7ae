import TradingBot.Spec.Leverage
import TradingBot.Spec.TradingParams

/-!
# Integer settings written as decimal text

viper's `GetInt` reads a setting with `cast.ToInt`: `trimZeroDecimal`, then
`strconv.ParseInt(s, 0, 0)`, whose base comes from the text's prefix. For the text Go writes
for an `int64` (an optional `-`, then digits without a leading `0`) the prefix selects base
ten and no `.` is trimmed, so every such setting reads back as the number written.

What `LoadConfig` then does with it differs by key. A non-negative `BINANCE_LEVERAGE` is a
fixed leverage, copied to both bounds; a negative one contains a `-` and is taken as a range
whose minimum is the empty text, which scans as `0`: the range is invalid and the leverage
falls back to `10`. A `CRYPTO_LOOKBACK_DAYS` of `n` gives `n` days, and `0` the default of
the timeframe.

## Key results

- `castToInt_toString`: `cast.ToInt` reads back the decimal text of every `int64`.
- `loadConfig_toString`: the leverage fields `LoadConfig` sets from such text.
- `loadTradingParams_lookbackDays`: the lookback it sets from such text.
-/

namespace TradingBot

/-! ### Parsing decimal digits -/

/-- The digit loop of `parseUintBase0` in base ten, over digits only, is the decimal value. -/
private theorem foldlM_digitVal_decimal (l : List Char) (acc : Nat) (hdig : ∀ c ∈ l, c.isDigit) :
    l.foldlM (fun n c =>
      if c = '_' then some n
      else match digitVal c with
        | some d => if d < 10 then some (n * 10 + d) else none
        | none => none) acc =
      some (l.foldl (fun acc d => 10 * acc + (d.toNat - '0'.toNat)) acc) := by
  induction l generalizing acc with
  | nil => rfl
  | cons c cs ih =>
    have hc := hdig c (List.mem_cons_self _ _)
    simp only [Char.isDigit, Bool.and_eq_true, decide_eq_true_eq] at hc
    have hus : c ≠ '_' := by rintro rfl; simp at hc
    have hval : digitVal c = some (c.toNat - '0'.toNat) := by
      simp only [digitVal]
      rw [if_pos ⟨hc.1, hc.2⟩]
    have hlt : c.toNat - '0'.toNat < 10 := by
      have h57 : c.toNat ≤ 57 := hc.2
      have h48 : '0'.toNat = 48 := rfl
      omega
    simp only [List.foldlM_cons, hus, if_false, hval, hlt, if_true, Option.bind_eq_bind,
      Option.some_bind, List.foldl_cons]
    rw [ih _ (fun c' h => hdig c' (List.mem_cons_of_mem _ h))]
    congr 2
    ring

/-- Digits without a leading `0` carry no base prefix: `ParseUint` reads them in base ten. -/
theorem parseUintBase0_decimal {c : Char} {cs : List Char} (hdig : ∀ d ∈ c :: cs, d.isDigit)
    (hc : c ≠ '0') : parseUintBase0 (c :: cs) = some (decimalValue (c :: cs)) := by
  have hus : '_' ∉ c :: cs := fun h => absurd (hdig _ h) (by decide)
  simp only [parseUintBase0]
  rw [if_neg (List.cons_ne_nil _ _)]
  -- a first rune other than `0` selects no prefix: base ten over the whole text
  refine (if_neg fun h => ?_).trans ?_
  · split at h
    · rename_i heq; exact absurd (List.cons.inj heq).1 hc
    · rename_i heq; exact absurd (List.cons.inj heq).1 hc
    · exact absurd h.1 hus
  · split
    · rename_i heq; exact absurd (List.cons.inj heq).1 hc
    · rename_i heq; exact absurd (List.cons.inj heq).1 hc
    · exact foldlM_digitVal_decimal _ _ hdig

theorem parseIntBase0_decimal {c : Char} {cs : List Char} (hdig : ∀ d ∈ c :: cs, d.isDigit)
    (hc : c ≠ '0') (hhi : (decimalValue (c :: cs) : Int) < 2 ^ 63) :
    parseIntBase0 (c :: cs) = some (decimalValue (c :: cs) : Int) := by
  have hplus : c ≠ '+' := fun e => absurd (hdig c (List.mem_cons_self _ _)) (by rw [e]; decide)
  have hminus : c ≠ '-' := fun e => absurd (hdig c (List.mem_cons_self _ _)) (by rw [e]; decide)
  unfold parseIntBase0
  split
  next neg body heq =>
    split at heq
    · rename_i h; exact absurd (List.cons.inj h).1 hplus
    · rename_i h; exact absurd (List.cons.inj h).1 hminus
    · obtain ⟨rfl, rfl⟩ := Prod.mk.inj heq
      rw [if_neg (List.cons_ne_nil _ _), parseUintBase0_decimal hdig hc]
      simp only [Bool.false_eq_true, if_false]
      rw [if_pos ⟨by omega, hhi⟩]

theorem parseIntBase0_neg_decimal {c : Char} {cs : List Char} (hdig : ∀ d ∈ c :: cs, d.isDigit)
    (hc : c ≠ '0') (hlo : -2 ^ 63 ≤ -(decimalValue (c :: cs) : Int)) :
    parseIntBase0 ('-' :: c :: cs) = some (-(decimalValue (c :: cs) : Int)) := by
  unfold parseIntBase0
  split
  next neg body heq =>
    split at heq
    · rename_i h; cases (List.cons.inj h).1
    · next ht =>
      obtain ⟨rfl, rfl⟩ := Prod.mk.inj heq
      rw [← (List.cons.inj ht).2, if_neg (List.cons_ne_nil _ _), parseUintBase0_decimal hdig hc]
      simp only [if_true]
      rw [if_pos ⟨hlo, by omega⟩]
    · next h => exact absurd rfl (h _)

/-! ### `trimZeroDecimal` on text without a `.` -/

theorem trimZeroDecimalAux_of_not_mem {l : List Char} (h : '.' ∉ l) (foundZero : Bool) :
    trimZeroDecimalAux foundZero l = none := by
  induction l generalizing foundZero with
  | nil => rfl
  | cons c cs ih =>
    have hc : c ≠ '.' := fun e => h (e ▸ List.mem_cons_self _ _)
    simp only [trimZeroDecimalAux, hc, if_false]
    split
    · exact ih (fun e => h (List.mem_cons_of_mem _ e)) _
    · rfl

/-- Text without a `.` has no decimal part to trim. -/
theorem trimZeroDecimal_of_not_mem {l : List Char} (h : '.' ∉ l) : trimZeroDecimal l = l := by
  rw [trimZeroDecimal, trimZeroDecimalAux_of_not_mem (by simpa using h)]; rfl

/-! ### The decimal text of an integer -/

/-- The first digit `Nat.toDigitsCore` writes for a positive number is not `0`. -/
theorem toDigitsCore_head (fuel n : Nat) (ds : List Char) (h : n < fuel) (hn : 0 < n) :
    ∃ c rest, Nat.toDigitsCore 10 fuel n ds = c :: rest ∧ c ≠ '0' := by
  induction fuel generalizing n ds with
  | zero => omega
  | succ fuel ih =>
    by_cases hq : n / 10 = 0
    · refine ⟨Nat.digitChar (n % 10), ds, by simp [Nat.toDigitsCore, hq], ?_⟩
      have hlt : n % 10 < 10 := Nat.mod_lt _ (by omega)
      have h0 : n % 10 ≠ 0 := by omega
      exact (by decide : ∀ d : Fin 10, d.val ≠ 0 → Nat.digitChar d ≠ '0') ⟨n % 10, hlt⟩ h0
    · obtain ⟨c, rest, heq, hc⟩ := ih (n / 10) (Nat.digitChar (n % 10) :: ds) (by omega) (by omega)
      exact ⟨c, rest, by simp [Nat.toDigitsCore, hq, heq], hc⟩

/-- The text of a positive number starts with a digit other than `0`. -/
theorem repr_head {n : Nat} (hn : 0 < n) : ∃ c rest, (Nat.repr n).toList = c :: rest ∧ c ≠ '0' := by
  obtain ⟨c, rest, heq, hc⟩ := toDigitsCore_head (n + 1) n [] (by omega) hn
  exact ⟨c, rest, by simpa [Nat.repr, Nat.toDigits] using heq, hc⟩

/-- `cast.ToInt` reads back the decimal text of every `int64`. -/
theorem castToInt_toString (x : Int) (hlo : -2 ^ 63 ≤ x) (hhi : x < 2 ^ 63) :
    castToInt (toString x) = x := by
  have hdot : ∀ l : List Char, (∀ c ∈ l, c.isDigit) → '.' ∉ l :=
    fun l h hl => absurd (h _ hl) (by decide)
  cases x with
  | ofNat n =>
    show castToInt (Nat.repr n) = n
    rcases Nat.eq_zero_or_pos n with rfl | hn
    · decide
    obtain ⟨pre, hpre, -, hdig, hval⟩ := repr_digits n
    obtain ⟨c, rest, hcr, hc⟩ := repr_head hn
    rw [hcr] at hpre; subst hpre
    rw [castToInt, hcr, trimZeroDecimal_of_not_mem (hdot _ hdig),
      parseIntBase0_decimal hdig hc (by rw [hval]; exact hhi), hval]
    rfl
  | negSucc m =>
    show castToInt ⟨'-' :: (Nat.repr (m + 1)).toList⟩ = Int.negSucc m
    obtain ⟨pre, hpre, -, hdig, hval⟩ := repr_digits (m + 1)
    obtain ⟨c, rest, hcr, hc⟩ := repr_head (Nat.succ_pos m)
    rw [hcr] at hpre; subst hpre
    have hdigs : ∀ d ∈ '-' :: c :: rest, d ≠ '.' := by
      intro d hd
      rcases List.mem_cons.mp hd with rfl | hd
      · decide
      · exact fun e => hdot _ hdig (e ▸ hd)
    rw [castToInt, String.toList, hcr, trimZeroDecimal_of_not_mem (fun h => hdigs _ h rfl),
      parseIntBase0_neg_decimal hdig hc (by rw [hval, ← Int.negSucc_coe]; exact hlo), hval]
    rfl

/-! ### What `LoadConfig` sets from decimal text -/

/-- A `BINANCE_LEVERAGE` written as the decimal text of an integer below `2^63`: a
    non-negative one is a fixed leverage on both bounds; a negative one splits at its sign
    into an empty minimum and its digits, and falls back to `10`. -/
theorem loadConfig_toString (n : Int) (hhi : n < 2 ^ 63) :
    loadConfig (some (toString n)) = if 0 ≤ n then ⟨n, n, n, false⟩ else ⟨10, 10, 10, false⟩ := by
  have hdash : ∀ l : List Char, (∀ c ∈ l, c.isDigit) → '-' ∉ l :=
    fun l h hl => absurd (h _ hl) (by decide)
  rw [loadConfig_eq]
  cases n with
  | ofNat k =>
    obtain ⟨pre, hpre, -, hdig, -⟩ := repr_digits k
    have htext : (getString (some (toString (Int.ofNat k)))).toList = pre := by rw [← hpre]; rfl
    have hnonneg : 0 ≤ Int.ofNat k := Int.ofNat_nonneg k
    rw [htext, if_neg (hdash _ hdig), if_pos hnonneg, getInt,
      castToInt_toString (Int.ofNat k) (le_trans (by decide) hnonneg) hhi]
  | negSucc m =>
    obtain ⟨pre, hpre, -, hdig, -⟩ := repr_digits (m + 1)
    have htext : (getString (some (toString (Int.negSucc m)))).toList = '-' :: pre := by
      rw [← hpre]; rfl
    have hsplit : ('-' :: pre).splitOn '-' = [[], pre] := by
      rw [List.splitOn, List.splitOnP_cons, if_pos (beq_self_eq_true _), ← List.splitOn,
        splitOn_of_not_mem (hdash _ hdig)]
    have hempty : parseInt64 ⟨trimSpace []⟩ = 0 := by decide
    rw [htext, if_pos (List.mem_cons_self _ _), hsplit]
    dsimp only
    rw [hempty, if_neg (fun h => absurd h.1 (lt_irrefl 0)),
      if_neg (Int.not_le.mpr (Int.negSucc_lt_zero m))]

/-- `20` is a fixed leverage of 20; `-5` is an invalid range and gives the default 10. -/
theorem loadConfig_toString_samples :
    loadConfig (some (toString (20 : Int))) = ⟨20, 20, 20, false⟩ ∧
      loadConfig (some (toString (-5 : Int))) = ⟨10, 10, 10, false⟩ :=
  ⟨loadConfig_toString 20 (by decide), loadConfig_toString (-5) (by decide)⟩

/-- A `CRYPTO_LOOKBACK_DAYS` written as the decimal text of an `int64` `n` gives `n` days,
    whatever the other settings, and `0` gives the default of the timeframe. -/
theorem loadTradingParams_lookbackDays (settings : String → Option String) (n : Int)
    (hset : settings "CRYPTO_LOOKBACK_DAYS" = some (toString n))
    (hlo : -2 ^ 63 ≤ n) (hhi : n < 2 ^ 63) :
    (loadTradingParams settings).cryptoLookbackDays =
      if n = 0 then calculateLookbackDays (viperGetString "1h" (settings "CRYPTO_TIMEFRAME"))
      else n := by
  simp only [loadTradingParams, tradingIntervalDefault_eq, parseCryptoSymbols_eq,
    multiTimeframeDefaults_cryptoLookbackDays, autoLookbackDays_eq]
  simp only [readTradingParams, viperGetInt, hset, castToInt_toString n hlo hhi]

/-- Seven days set stay seven; zero days on the `4h` timeframe become its fifteen. -/
theorem loadTradingParams_lookbackDays_samples :
    (loadTradingParams fun key => if key = "CRYPTO_LOOKBACK_DAYS" then some (toString (7 : Int))
      else none).cryptoLookbackDays = 7 ∧
    (loadTradingParams fun key => if key = "CRYPTO_LOOKBACK_DAYS" then some (toString (0 : Int))
      else if key = "CRYPTO_TIMEFRAME" then some "4h" else none).cryptoLookbackDays = 15 :=
  ⟨loadTradingParams_lookbackDays _ 7 rfl (by decide) (by decide),
    loadTradingParams_lookbackDays _ 0 rfl (by decide) (by decide)⟩

end TradingBot
