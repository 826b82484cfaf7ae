import Mathlib.Data.Rat.Floor
import Mathlib.Data.List.Basic
import Mathlib.Data.Nat.Digits

/-!
# Text the stop-loss manager formats and scans

`placeStopLossOrder` sends the stop price as `fmt.Sprintf("%.2f", stopPrice)` and the
quantity as `fmt.Sprintf("%.4f", pos.Quantity)`, stores the exchange's order id as
`fmt.Sprintf("%d", order.OrderID)`, and `cancelStopLossOrder` reads it back with
`parseInt64`, that is `fmt.Sscanf(s, "%d", &i)`. The exchange symbol is
`Config.GetBinanceSymbolFor`.

A `%.<prec>f` text is modelled by the number it denotes (`formatFixed`): the value scaled
by `10^prec` and rounded to the nearest integer, ties to even, as Go's `strconv` rounds.

## Key results

- `parseInt64_toString_int`: scanning the `%d` text of any `int64` gives it back, negative
  values and both extremes included; `parseInt64_toString` is its case of an order id
  `0 ≤ n < 2^63`.
-/

namespace TradingBot

/-- `Config.GetBinanceSymbolFor`: `strings.ReplaceAll(symbol, "/", "")`. -/
def getBinanceSymbolFor (symbol : String) : String :=
  String.mk (symbol.toList.filter (· ≠ '/'))

/-- Round to the nearest integer, halves to the even neighbour. -/
def roundHalfEven (x : ℚ) : ℤ :=
  let f := ⌊x⌋
  if x - f < 1 / 2 then f
  else if 1 / 2 < x - f then f + 1
  else if f % 2 = 0 then f else f + 1

/-- The number that `fmt.Sprintf("%.<prec>f", x)` writes. -/
def formatFixed (prec : Nat) (x : ℚ) : ℚ :=
  roundHalfEven (x * 10 ^ prec) / 10 ^ prec

/-- `isSpace` of Go's `fmt` scanner (its `space` table of Unicode blanks). -/
def isScanSpace (c : Char) : Bool :=
  let n := c.toNat
  (0x09 ≤ n && n ≤ 0x0d) || n == 0x20 || n == 0x85 || n == 0xa0 || n == 0x1680 ||
    (0x2000 ≤ n && n ≤ 0x200a) || n == 0x2028 || n == 0x2029 || n == 0x202f ||
    n == 0x205f || n == 0x3000

/-- `SkipSpace` as `Sscanf` runs it: blanks are passed over, and a newline is the error
    `"unexpected newline"` (`Sscanf` does not count newlines as space). -/
def skipSpace : List Char → Option (List Char)
  | [] => some []
  | c :: cs => if c = '\n' then none else if isScanSpace c then skipSpace cs else some (c :: cs)

/-- The optional sign that `scanInt` accepts before the digits. -/
def scanSign : List Char → Bool × List Char
  | '+' :: cs => (false, cs)
  | '-' :: cs => (true, cs)
  | cs => (false, cs)

/-- The value of a run of decimal digits, most significant first. -/
def decimalValue (ds : List Char) : Nat :=
  ds.foldl (fun acc d => 10 * acc + (d.toNat - '0'.toNat)) 0

/-- `parseInt64`: `fmt.Sscanf(s, "%d", &i)` into a zero `int64`. The scanner skips blanks,
    takes an optional sign and the longest run of decimal digits, and ignores what follows;
    a newline before the token, a token without digits, or a value outside `int64` is a
    scan error, which leaves `i` at 0. -/
def parseInt64 (s : String) : Int :=
  match skipSpace s.toList with
  | none => 0
  | some cs =>
    let digits := (scanSign cs).2.takeWhile Char.isDigit
    let value : Int := if (scanSign cs).1 then -(decimalValue digits : Int) else decimalValue digits
    if digits = [] then 0 else if -2 ^ 63 ≤ value ∧ value < 2 ^ 63 then value else 0

/-! ## The `%d` text of a natural number scans back -/

private theorem digitChar_isDigit {d : Nat} (h : d < 10) : (Nat.digitChar d).isDigit = true :=
  (by decide : ∀ d : Fin 10, (Nat.digitChar d).isDigit = true) ⟨d, h⟩

/-- The value a decimal digit character shows. -/
theorem digitChar_value {d : Nat} (h : d < 10) :
    (Nat.digitChar d).toNat - '0'.toNat = d :=
  (by decide : ∀ d : Fin 10, (Nat.digitChar d).toNat - '0'.toNat = d) ⟨d, h⟩

/-- A decimal digit is no blank of the scanner. -/
private theorem isScanSpace_of_isDigit {c : Char} (h : c.isDigit = true) : isScanSpace c = false := by
  simp only [Char.isDigit, Bool.and_eq_true, decide_eq_true_eq] at h
  have : 48 ≤ c.toNat ∧ c.toNat ≤ 57 := ⟨h.1, h.2⟩
  simp only [isScanSpace, Bool.or_eq_false_iff, Bool.and_eq_false_iff, decide_eq_false_iff_not,
    beq_eq_false_iff_ne]
  omega

/-- `toDigitsCore` puts the digits of `n` in front of what it was given. -/
theorem toDigitsCore_eq (fuel n : Nat) (ds : List Char) (h : n < fuel) :
    ∃ pre, Nat.toDigitsCore 10 fuel n ds = pre ++ ds ∧ pre ≠ [] ∧
      (∀ c ∈ pre, c.isDigit = true) ∧ decimalValue pre = n := by
  induction fuel generalizing n ds with
  | zero => omega
  | succ fuel ih =>
    have hd : n % 10 < 10 := Nat.mod_lt _ (by omega)
    by_cases hq : n / 10 = 0
    · refine ⟨[Nat.digitChar (n % 10)], ?_, by simp, by simpa using digitChar_isDigit hd, ?_⟩
      · simp [Nat.toDigitsCore, hq]
      · simp only [decimalValue, List.foldl, digitChar_value hd]; omega
    · obtain ⟨pre, heq, -, hdig, hval⟩ :=
        ih (n / 10) (Nat.digitChar (n % 10) :: ds) (by omega)
      refine ⟨pre ++ [Nat.digitChar (n % 10)], ?_, by simp, ?_, ?_⟩
      · simp [Nat.toDigitsCore, hq, heq]
      · simpa [or_imp, forall_and, digitChar_isDigit hd] using hdig
      · simp only [decimalValue, List.foldl_append, List.foldl] at hval ⊢
        rw [hval, digitChar_value hd]; omega

/-- The `%d` text of a natural number is its run of decimal digits. -/
theorem repr_digits (n : Nat) :
    ∃ pre, (Nat.repr n).toList = pre ∧ pre ≠ [] ∧ (∀ c ∈ pre, c.isDigit = true) ∧
      decimalValue pre = n := by
  obtain ⟨pre, heq, h⟩ := toDigitsCore_eq (n + 1) n [] (by omega)
  exact ⟨pre, by simpa [Nat.repr, Nat.toDigits] using heq, h⟩

/-- A text that starts with its sign or its first digit scans as that sign and the run of
    digits after it. -/
private theorem parseInt64_scan {cs pre : List Char} {neg : Bool} (hskip : skipSpace cs = some cs)
    (hsign : scanSign cs = (neg, pre)) (hne : pre ≠ []) (hdig : ∀ c ∈ pre, c.isDigit = true)
    (hlo : -2 ^ 63 ≤ if neg then -(decimalValue pre : Int) else decimalValue pre)
    (hhi : (if neg then -(decimalValue pre : Int) else decimalValue pre) < 2 ^ 63) :
    parseInt64 ⟨cs⟩ = if neg then -(decimalValue pre : Int) else decimalValue pre := by
  have htake : pre.takeWhile Char.isDigit = pre := List.takeWhile_eq_self_iff.mpr hdig
  have htext : (String.mk cs).toList = cs := rfl
  simp only [parseInt64, htext, hskip, hsign, htake, hne, hlo, hhi, and_self, if_true, if_false]

/-- Scanning the `%d` text of any `int64` gives it back, the negative range and both
    extremes included. -/
theorem parseInt64_toString_int (x : Int) (hlo : -2 ^ 63 ≤ x) (hhi : x < 2 ^ 63) :
    parseInt64 (toString x) = x := by
  cases x with
  | ofNat n =>
    obtain ⟨pre, htext, hne, hdig, hval⟩ := repr_digits n
    obtain ⟨c, cs, rfl⟩ := List.exists_cons_of_ne_nil hne
    have hc : c.isDigit = true := hdig c (by simp)
    have hnl : c ≠ '\n' := by rintro rfl; exact absurd hc (by decide)
    have hskip : skipSpace (c :: cs) = some (c :: cs) := by
      simp [skipSpace, hnl, isScanSpace_of_isDigit hc]
    have hsign : scanSign (c :: cs) = (false, c :: cs) := by
      unfold scanSign; split <;> simp_all [Char.isDigit]
    have htext' : toString (Int.ofNat n) = ⟨c :: cs⟩ := String.ext (by simpa [toString, Int.repr] using htext)
    rw [htext', parseInt64_scan hskip hsign hne hdig] <;>
      simp only [hval, Bool.false_eq_true, if_false, Int.ofNat_eq_coe] at hlo hhi ⊢ <;> omega
  | negSucc m =>
    obtain ⟨pre, htext, hne, hdig, hval⟩ := repr_digits (m + 1)
    have htext' : toString (Int.negSucc m) = ⟨'-' :: pre⟩ := String.ext (by
      show ['-'] ++ (Nat.repr (m + 1)).toList = '-' :: pre
      rw [htext]; rfl)
    have hskip : skipSpace ('-' :: pre) = some ('-' :: pre) := by simp [skipSpace, isScanSpace]
    rw [htext', parseInt64_scan hskip rfl hne hdig] <;>
      simp only [hval, if_true, Int.negSucc_eq] at hlo hhi ⊢ <;> omega

/-- Scanning the `%d` text of an order id in the `int64` range gives the id back. -/
theorem parseInt64_toString (n : Nat) (h : n < 2 ^ 63) : parseInt64 (toString (n : Int)) = n :=
  parseInt64_toString_int n (by omega) (by omega)

/-- The `%d` text of an order id is never the empty id. -/
theorem toString_ne_empty (n : Nat) : toString (n : Int) ≠ "" := by
  obtain ⟨pre, htext, hne, -⟩ := repr_digits n
  intro h
  apply hne
  rw [← htext]
  simpa [toString, Int.repr] using congrArg String.toList h

/-- Two order ids in the `int64` range with the same `%d` text are equal. -/
theorem toString_inj_of_lt {a b : Nat} (ha : a < 2 ^ 63) (hb : b < 2 ^ 63)
    (h : toString (a : Int) = toString (b : Int)) : a = b := by
  have := congrArg parseInt64 h
  rwa [parseInt64_toString a ha, parseInt64_toString b hb, Nat.cast_inj] at this

end TradingBot
