import Tomiris.Features.FloatIndicators
import Tomiris.Spec.Technical

/-!
# What the features raise on floats

Most divisors are not zero: periods, one more than a ratio of averages, a mean that was compared with
zero first. The others are closes, which can be zero as floats. So a feature either returns its
result, or is refused by `finite_values`, which is caught, or divides by a close that is zero, which
is not; and `pstdev` raises what is not caught if it is given an infinite return.

## Key results

- `Floats.Escapes`: when an exception leaves the features of a series
- `Floats.pipeline_caught_iff`: exactly then something is raised that is not caught
- `Floats.escapes_of_tiny`: the closes that Python takes for zero
-/

namespace Tomiris

open Except FloatFormat
open TechnicalAnalysisEngine (Caught)

namespace Floats

variable (tools : FloatTools)

section Division

variable {tools} {x y z : PyFloat}

/-- The one way in which a quotient raises. -/
theorem divide_zero (h : y.isZero = true) : tools.divide x y = .error .zeroDivisionError := by
  unfold FloatTools.divide
  rw [div_eq_none.mpr h]

/-- A quotient that does not. -/
theorem divide_eq_ok : tools.divide x y = .ok z ↔ tools.format.div x y = some z := by
  unfold FloatTools.divide
  cases tools.format.div x y <;> simp

/-- By what is not zero can be divided. -/
theorem divide_ok (h : y.isZero = false) : ∃ z, tools.divide x y = .ok z := by
  cases hdiv : tools.format.div x y with
  | none =>
    rw [div_eq_none.mp hdiv] at h
    cases h
  | some z => exact ⟨z, divide_eq_ok.mpr hdiv⟩

/-- Only a division by zero raises, and it is not caught. -/
theorem divide_caught_iff : Caught (tools.divide x y) ↔ y.isZero = false := by
  constructor
  · intro h
    cases hzero : y.isZero with
    | false => rfl
    | true => exact absurd (h _ (divide_zero hzero)) (by decide)
  · exact fun h => failsWith_of_ok (divide_ok h)

/-- What comes after a division of what is not zero is reached. -/
theorem divide_bind_caught_iff {β : Type} {f : PyFloat → Except ComputeError β}
    (hf : ∀ z, Caught (f z)) : Caught (tools.divide x y >>= f) ↔ y.isZero = false :=
  ⟨fun h => divide_caught_iff.mp (failsWith_bind_iff.mp h).1,
    fun h => failsWith_bind (divide_caught_iff.mpr h) fun z _ => hf z⟩

/-- The sign rule. -/
theorem divide_notNeg (h : tools.divide x y = .ok z) (hx : x.NotNeg) (hy : y.NotNeg) : z.NotNeg :=
  div_notNeg hx hy (divide_eq_ok.mp h)

/-- A period is a float. -/
theorem float_natCast {n : Nat} (h : n ≤ 2 ^ 53) : tools.float n = .finite n :=
  tools.format.round_natCast n h

/-- And not zero. -/
theorem float_ne_zero {n : Nat} (h : 0 < n) : (tools.float n).isZero = false := by
  have hone : (1 : Rat) ≤ n := by exact_mod_cast h
  rcases @round_cases tools.format _ _ isFloat_one hone with heq | ⟨r, heq, hr⟩
  · rw [FloatTools.float, heq]
    rfl
  · have hne : r ≠ 0 := by linarith
    rw [FloatTools.float, heq]
    simp [PyFloat.isZero, hne]

end Division

section Averages

variable {tools} {period : Nat} {values : List PyFloat}

/-- One turn of Wilder's loop divides by the period. -/
theorem smooth_ok (hperiod : 1 ≤ period) (average value : PyFloat) :
    ∃ next, tools.divide (tools.format.add (tools.format.mul average (tools.float (period - 1)))
      value) (tools.float period) = .ok next ∧ (average.NotNeg → value.NotNeg → next.NotNeg) := by
  obtain ⟨next, hnext⟩ := @divide_ok tools (tools.format.add
    (tools.format.mul average (tools.float (period - 1))) value) (tools.float period)
    (float_ne_zero hperiod)
  refine ⟨next, hnext, fun haverage hvalue => ?_⟩
  have hweight : (0 : Rat) ≤ period - 1 := by
    have : (1 : Rat) ≤ period := by exact_mod_cast hperiod
    linarith
  exact divide_notNeg hnext
    (add_notNeg (mul_notNeg haverage (round_notNeg hweight)) hvalue)
    (round_notNeg (Nat.cast_nonneg period))

/-- So no turn of it raises. -/
theorem foldlM_smooth_ok (hperiod : 1 ≤ period) (average : PyFloat) :
    ∃ last, values.foldlM (fun average value =>
        tools.divide (tools.format.add (tools.format.mul average (tools.float (period - 1))) value)
          (tools.float period)) average = .ok last ∧
      (average.NotNeg → (∀ value ∈ values, value.NotNeg) → last.NotNeg) := by
  induction values generalizing average with
  | nil => exact ⟨average, rfl, fun h _ => h⟩
  | cons value rest ih =>
    obtain ⟨next, hnext, hnotNeg⟩ := @smooth_ok tools period hperiod average value
    obtain ⟨last, hlast, hlast'⟩ := ih next
    refine ⟨last, ?_, fun haverage h => ?_⟩
    · rw [List.foldlM_cons, hnext]
      exact hlast
    · rw [List.forall_mem_cons] at h
      exact hlast' (hnotNeg haverage h.1) h.2

/-- Wilder's average divides by the period only, and keeps the sign. -/
theorem wilder_ok (hperiod : 1 ≤ period) :
    ∃ average, wilder tools period values = .ok average ∧
      ((∀ value ∈ values, value.NotNeg) → average.NotNeg) := by
  obtain ⟨mean, hmean⟩ := @divide_ok tools (tools.sum (values.take period)) (tools.float period)
    (float_ne_zero hperiod)
  obtain ⟨average, haverage, hnotNeg⟩ := @foldlM_smooth_ok tools period (values.drop period)
    hperiod mean
  refine ⟨average, ?_, fun h => ?_⟩
  · unfold wilder
    rw [hmean]
    exact haverage
  -- a mean of what is not negative, blended with what is not negative
  · have hsum := tools.sum_notNeg (values.take period)
      fun value hvalue => h value (List.mem_of_mem_take hvalue)
    exact hnotNeg (divide_notNeg hmean hsum (round_notNeg (Nat.cast_nonneg period)))
      fun value hvalue => h value (List.mem_of_mem_drop hvalue)

/-- There is one value for each one that is smoothed. -/
theorem emaFrom_length (multiplier last : PyFloat) (values : List PyFloat) :
    (emaFrom tools multiplier last values).length = values.length := by
  induction values generalizing last with
  | nil => rfl
  | cons value rest ih => simp [emaFrom, ih]

/-- And one for the first. -/
@[simp] theorem emaValues_length (values : List PyFloat) (period : Nat) :
    (emaValues tools values period).length = values.length := by
  cases values with
  | nil => rfl
  | cons value rest => simp [emaValues, emaFrom_length]

end Averages

section Results

variable {tools} {feature : Feature} {s : MarketDataSeries} {values : List (String × PyFloat)}

/-- A value that is not finite is refused with a `ValueError`. -/
theorem checked_caught : Caught (feature.checked s values) := by
  unfold Feature.checked
  split
  · exact failsWith_error rfl
  · exact failsWith_ok _

/-- What is not refused is reported. -/
theorem checked_reports {f : FeatureResult} (h : feature.checked s values = .ok f) :
    feature.Reports s f := by
  unfold Feature.checked at h
  split at h
  · cases h
  · cases h
    exact .valid _

/-- One finite value is not. -/
theorem checked_finite (name : String) (q : Rat) :
    feature.checked s [(name, .finite q)] = .ok (feature.result s [(name, q)]) := rfl

end Results

section Closes

variable {tools} (s : MarketDataSeries)

/-- There is a close for each bar. -/
@[simp] theorem closes_length : (tools.closes s).length = s.bars.length := List.length_map ..

/-- A look-up in a list of results. -/
theorem fromEnd_map {α β : Type} (f : α → β) (l : List α) (back : Nat) :
    fromEnd (l.map f) back = (fromEnd l back).map f := by
  unfold fromEnd
  rw [← List.map_reverse, List.getElem?_map]
  cases l.reverse[back]? <;> rfl

/-- The last element. -/
theorem fromEnd_last {α : Type} {l : List α} (h : l ≠ []) : fromEnd l 0 = .ok (l.getLast h) := by
  unfold fromEnd
  rw [← List.head?_eq_getElem?, List.head?_reverse, List.getLast?_eq_some_getLast h]

/-- The last close. -/
theorem fromEnd_lastClose : fromEnd (tools.closes s) 0 = .ok (tools.float s.lastBar.close) := by
  unfold FloatTools.closes
  rw [fromEnd_map, fromEnd_last s.bars_ne_nil]
  rfl

/-- A price is a number that is not negative, or too great for a float. -/
abbrev Price (x : PyFloat) : Prop := (PyFloat.finite 0).le x = true

/-- Prices are positive, and so are their floats, unless they underflow. -/
theorem closes_price : ∀ close ∈ tools.closes s, Price close := by
  intro close h
  obtain ⟨bar, -, rfl⟩ := List.mem_map.mp h
  have hmono := tools.format.round_mono 0 bar.close bar.valid.positive.2.2.2.le
  rwa [isFloat_zero 0 rfl] at hmono

end Closes

section Indicators

variable {tools} (s : MarketDataSeries)

/-- An average divides by nothing. -/
theorem ema_caught (period : Nat) : Caught (EMAFeature.compute tools period s) := by
  unfold EMAFeature.compute
  split
  · exact failsWith_ok _
  · obtain ⟨ema, -, hema⟩ : ∃ ema ∈ emaValues tools (tools.closes s) period,
        fromEnd (emaValues tools (tools.closes s) period) 0 = .ok ema :=
      fromEnd_ok (by simpa using s.bars_pos)
    rw [hema]
    exact failsWith_bind (failsWith_ok _) fun _ _ => checked_caught

/-- What the average reports. -/
theorem ema_reports {period : Nat} {f : FeatureResult}
    (h : EMAFeature.compute tools period s = .ok f) :
    (Tomiris.EMAFeature.feature period).Reports s f := by
  unfold EMAFeature.compute at h
  split at h
  · cases h
    exact .invalid
  · obtain ⟨ema, -, h⟩ := bind_eq_ok.mp h
    exact checked_reports h

/-- The divisors are not zero: the average loss by the case, the sum since the averages are not
    negative. -/
theorem index_ok {avgGain avgLoss : PyFloat} (hgain : avgGain.NotNeg) (hloss : avgLoss.NotNeg) :
    ∃ rsi, RSIFeature.index tools avgGain avgLoss = .ok rsi := by
  unfold RSIFeature.index
  split
  · exact ⟨_, rfl⟩
  split
  · exact ⟨_, rfl⟩
  -- the loss is not zero, and one plus a ratio that is not negative is not zero either
  · rename_i hne
    obtain ⟨ratio, hratio⟩ := @divide_ok tools avgGain avgLoss (by simpa using hne)
    have hone : tools.float 1 = .finite 1 := by
      simpa using @float_natCast tools 1 (by norm_num)
    have hsum := @one_add_ne_zero tools.format ratio (divide_notNeg hratio hgain hloss)
    rw [← hone] at hsum
    obtain ⟨share, hshare⟩ := @divide_ok tools (tools.float 100) _ hsum
    exact bind_ok hratio (bind_ok hshare ⟨_, rfl⟩)

/-- The index is between its bounds, whatever the averages are. -/
theorem clamp_finite (x : PyFloat) :
    ∃ q, (tools.float 100).min ((tools.float 0).max x) = .finite q := by
  have hzero : tools.float 0 = .finite 0 := by
    simpa using @float_natCast tools 0 (by norm_num)
  have hhundred : tools.float 100 = .finite 100 := by
    simpa using @float_natCast tools 100 (by norm_num)
  rw [hzero, hhundred]
  unfold PyFloat.min PyFloat.max
  cases x with
  | finite q =>
    split_ifs
    · exact ⟨q, rfl⟩
    · exact ⟨100, rfl⟩
    · exact ⟨0, rfl⟩
    · exact ⟨100, rfl⟩
  -- NaN is no greater than 0, so 0 stays
  | nan => exact ⟨0, by simp [PyFloat.lt]⟩
  | posInf => exact ⟨100, by simp [PyFloat.lt]⟩
  | negInf => exact ⟨0, by simp [PyFloat.lt]⟩

/-- The index is always computed. -/
theorem rsi_reports (period : Nat) :
    ∃ f, RSIFeature.compute tools period s = .ok f ∧
      (Tomiris.RSIFeature.feature period).Reports s f := by
  unfold RSIFeature.compute
  simp only
  split
  · exact ⟨_, rfl, .invalid⟩
  · rename_i hguard
    have hperiod : 1 ≤ period := by omega
    have hzero : tools.float 0 = .finite 0 := by
      simpa using @float_natCast tools 0 (by norm_num)
    obtain ⟨avgGain, hgain, hgain'⟩ := @wilder_ok tools period
      ((changes tools (tools.closes s)).map (fun change => change.max (tools.float 0))) hperiod
    obtain ⟨avgLoss, hloss, hloss'⟩ := @wilder_ok tools period
      ((changes tools (tools.closes s)).map (fun change => change.neg.max (tools.float 0))) hperiod
    -- both averages are made of what was cut off at zero
    have hgainNotNeg : avgGain.NotNeg := by
      refine hgain' fun value hvalue => ?_
      obtain ⟨change, -, rfl⟩ := List.mem_map.mp hvalue
      rw [hzero]
      exact PyFloat.max_zero_notNeg change
    have hlossNotNeg : avgLoss.NotNeg := by
      refine hloss' fun value hvalue => ?_
      obtain ⟨change, -, rfl⟩ := List.mem_map.mp hvalue
      rw [hzero]
      exact PyFloat.max_zero_notNeg change.neg
    obtain ⟨rsi, hrsi⟩ := @index_ok tools _ _ hgainNotNeg hlossNotNeg
    obtain ⟨q, hq⟩ := @clamp_finite tools rsi
    refine ⟨_, bind_eq_ok.mpr ⟨avgGain, hgain, bind_eq_ok.mpr ⟨avgLoss, hloss,
      bind_eq_ok.mpr ⟨rsi, hrsi, ?_⟩⟩⟩, .valid [("rsi", q)]⟩
    rw [hq]
    exact checked_finite _ _

/-- Nor does a difference of averages. -/
theorem macd_caught (fast slow signal : Nat) :
    Caught (MACDFeature.compute tools fast slow signal s) := by
  unfold MACDFeature.compute
  simp only
  split
  · exact failsWith_ok _
  -- there is a difference and a signal value for each bar, and at least one bar
  · have hlength : (List.zipWith tools.format.sub (emaValues tools (tools.closes s) fast)
        (emaValues tools (tools.closes s) slow)).length = s.bars.length := by simp
    obtain ⟨macd, -, hmacd⟩ := @fromEnd_ok _ _ 0 (hlength.symm ▸ s.bars_pos)
    refine failsWith_bind (failsWith_of_ok ⟨_, hmacd⟩) fun _ _ => ?_
    obtain ⟨signalValue, -, hsignal⟩ := @fromEnd_ok _ (emaValues tools (List.zipWith
      tools.format.sub (emaValues tools (tools.closes s) fast)
      (emaValues tools (tools.closes s) slow)) signal) 0 (by
        rw [emaValues_length, hlength]
        exact s.bars_pos)
    exact failsWith_bind (failsWith_of_ok ⟨_, hsignal⟩) fun _ _ => checked_caught

/-- What the difference reports. -/
theorem macd_reports {fast slow signal : Nat} {f : FeatureResult}
    (h : MACDFeature.compute tools fast slow signal s = .ok f) :
    (Tomiris.MACDFeature.feature fast slow signal).Reports s f := by
  unfold MACDFeature.compute at h
  simp only at h
  split at h
  · cases h
    exact .invalid
  · obtain ⟨macd, -, h⟩ := bind_eq_ok.mp h
    obtain ⟨signalValue, -, h⟩ := bind_eq_ok.mp h
    exact checked_reports h

/-- The true range is divided by the last close. -/
theorem atr_caught_iff {period : Nat} (hperiod : 2 ≤ period) :
    Caught (ATRFeature.compute tools period s) ↔
      (period < s.bars.length → (tools.float s.lastBar.close).isZero = false) := by
  unfold ATRFeature.compute
  split
  · exact iff_of_true (failsWith_ok _) fun hlt => by omega
  · have hlt : period < s.bars.length := by omega
    obtain ⟨atr, hatr, -⟩ := @wilder_ok tools period (ATRFeature.trueRanges tools none
      (tools.candles s)) (by omega)
    rw [hatr, fromEnd_lastClose, imp_iff_right hlt, ok_bind, ok_bind]
    exact divide_bind_caught_iff fun _ => checked_caught

/-- What the true range reports. -/
theorem atr_reports {period : Nat} {f : FeatureResult}
    (h : ATRFeature.compute tools period s = .ok f) :
    (Tomiris.ATRFeature.feature period).Reports s f := by
  unfold ATRFeature.compute at h
  split at h
  · cases h
    exact .invalid
  · obtain ⟨atr, -, h⟩ := bind_eq_ok.mp h
    obtain ⟨close, -, h⟩ := bind_eq_ok.mp h
    obtain ⟨percent, -, h⟩ := bind_eq_ok.mp h
    exact checked_reports h

/-- The last close is divided by the one so many bars before it. -/
theorem return_caught_iff {lookback : Nat} (hlookback : 1 ≤ lookback) :
    Caught (ReturnFeature.compute tools lookback s) ↔
      ∀ bar, fromEnd s.bars lookback = .ok bar → (tools.float bar.close).isZero = false := by
  unfold ReturnFeature.compute
  split
  -- too few bars, so there is none to look at
  · refine iff_of_true (failsWith_ok _) fun bar hbar => ?_
    have hnone : s.bars.reverse[lookback]? = none := by
      rw [List.getElem?_eq_none_iff, List.length_reverse]
      omega
    unfold fromEnd at hbar
    rw [hnone] at hbar
    cases hbar
  · obtain ⟨bar, -, hbar⟩ := @fromEnd_ok _ s.bars lookback (by omega)
    have hprevious : fromEnd (tools.closes s) lookback = .ok (tools.float bar.close) := by
      unfold FloatTools.closes
      rw [fromEnd_map, hbar]
      rfl
    rw [hprevious, fromEnd_lastClose, hbar, ok_bind, ok_bind,
      divide_bind_caught_iff fun _ => checked_caught]
    constructor
    · intro h bar' hbar'
      cases hbar'
      exact h
    · exact fun h => h bar rfl

/-- What the return reports. -/
theorem return_reports {lookback : Nat} {f : FeatureResult}
    (h : ReturnFeature.compute tools lookback s = .ok f) :
    (Tomiris.ReturnFeature.feature lookback).Reports s f := by
  unfold ReturnFeature.compute at h
  split at h
  · cases h
    exact .invalid
  · obtain ⟨previous, -, h⟩ := bind_eq_ok.mp h
    obtain ⟨current, -, h⟩ := bind_eq_ok.mp h
    obtain ⟨quotient, -, h⟩ := bind_eq_ok.mp h
    exact checked_reports h

/-- A logarithm of what is not positive raises a `ValueError`. -/
theorem mathLog_caught (x : PyFloat) : Caught (tools.mathLog x) := by
  unfold FloatTools.mathLog
  split
  · split
    · exact failsWith_error rfl
    · exact failsWith_ok _
  · exact failsWith_ok _
  · exact failsWith_ok _
  · exact failsWith_error rfl

/-- A price after which there is none that is zero has a logarithm of its ratio to the one before
    only if it is not zero itself. -/
theorem mathLog_ratio {x y z r : PyFloat} (hx : Price x) (hy : Price y)
    (hratio : tools.divide y x = .ok z) (hlog : tools.mathLog z = .ok r) : y.isZero = false := by
  cases hzero : y.isZero with
  | false => rfl
  | true =>
    -- zero by a price is zero, which has no logarithm
    rcases PyFloat.le_finite_cases hy with rfl | ⟨q, rfl, -⟩
    · cases hzero
    have hq : q = 0 := by simpa [PyFloat.isZero] using hzero
    have hz : z = .finite 0 := by
      have hdiv := divide_eq_ok.mp hratio
      unfold FloatFormat.div at hdiv
      rw [hq] at hdiv
      split at hdiv
      · cases hdiv
      rcases PyFloat.le_finite_cases hx with rfl | ⟨p, rfl, -⟩
      · exact (Option.some.inj hdiv).symm
      · have hround := Option.some.inj hdiv
        rw [zero_div, isFloat_zero 0 rfl] at hround
        exact hround.symm
    rw [hz] at hlog
    simp [FloatTools.mathLog] at hlog

/-- The first close is divided by, and each later one only if its logarithm was taken before. -/
theorem logReturns_caught {x : PyFloat} {rest : List PyFloat} (hx : x.isZero = false)
    (hprice : Price x) (hrest : ∀ y ∈ rest, Price y) :
    Caught (VolatilityFeature.logReturns tools (x :: rest)) := by
  induction rest generalizing x with
  | nil => exact failsWith_ok _
  | cons y rest ih =>
    rw [List.forall_mem_cons] at hrest
    unfold VolatilityFeature.logReturns at ih ⊢
    rw [List.tail_cons, List.zip_cons_cons, List.mapM_cons]
    refine failsWith_bind (failsWith_bind (divide_caught_iff.mpr hx) fun z _ => mathLog_caught z)
      fun r hr => ?_
    obtain ⟨z, hratio, hlog⟩ := bind_eq_ok.mp hr
    exact failsWith_bind (ih (mathLog_ratio hprice hrest.1 hratio hlog) hrest.1 hrest.2)
      fun _ _ => failsWith_ok _

/-- The first quotient is by the first close. -/
theorem logReturns_zero {x y : PyFloat} {rest : List PyFloat} (hx : x.isZero = true) :
    VolatilityFeature.logReturns tools (x :: y :: rest) = .error .zeroDivisionError := by
  unfold VolatilityFeature.logReturns
  rw [List.tail_cons, List.zip_cons_cons, List.mapM_cons, divide_zero hx]
  rfl

/-- One number without a fraction is enough. -/
theorem mapM_finite?_eq_none {data : List PyFloat} :
    data.mapM PyFloat.finite? = none ↔ ∃ x ∈ data, x.finite? = none := by
  induction data with
  | nil => simp
  | cons x rest ih =>
    rw [List.mapM_cons]
    cases hx : x.finite? with
    | none => simp [hx]
    | some q =>
      cases hrest : rest.mapM PyFloat.finite? with
      | none => simpa [hx, hrest] using ih.mp hrest
      | some numbers => simpa [hx, hrest] using ih

/-- `pstdev` raises an `AttributeError` for such a number, and a `ValueError` for no numbers. -/
theorem pstdev_caught_iff {data : List PyFloat} :
    Caught (tools.statisticsPstdev data) ↔ ∀ x ∈ data, x.finite? ≠ none := by
  unfold FloatTools.statisticsPstdev
  split
  · rename_i hempty
    rw [List.isEmpty_iff.mp hempty]
    exact iff_of_true (failsWith_error rfl) fun x hx => by cases hx
  · cases hdata : data.mapM PyFloat.finite? with
    -- one of the numbers is not finite: the `AttributeError` of the source
    | none =>
      obtain ⟨x, hx, hnone⟩ := mapM_finite?_eq_none.mp hdata
      exact iff_of_false (fun h => absurd (h _ rfl) (by decide)) fun h => h x hx hnone
    -- all are finite
    | some numbers =>
      refine iff_of_true (failsWith_ok _) fun x hx hnone => ?_
      rw [mapM_finite?_eq_none.mpr ⟨x, hx, hnone⟩] at hdata
      cases hdata

/-- The closes from the first bar on. -/
theorem closes_eq_cons :
    tools.closes s = tools.float s.firstBar.close :: (s.bars.tail.map fun bar =>
      tools.float bar.close) := by
  have hbars : s.bars = s.firstBar :: s.bars.tail := (List.cons_head_tail s.bars_ne_nil).symm
  unfold FloatTools.closes
  conv_lhs => rw [hbars]
  rfl

/-- The second close is divided by the first, and `pstdev` is given the last returns. -/
theorem volatility_caught_iff {period : Nat} (hperiod : 2 ≤ period) :
    Caught (VolatilityFeature.compute tools period s) ↔ (period < s.bars.length →
      (tools.float s.firstBar.close).isZero = false ∧
      ∀ returns, VolatilityFeature.logReturns tools (tools.closes s) = .ok returns →
        ∀ x ∈ returns.rtake period, x.finite? ≠ none) := by
  unfold VolatilityFeature.compute
  simp only [closes_length]
  split
  · exact iff_of_true (failsWith_ok _) fun hlt => by omega
  · have hlt : period < s.bars.length := by omega
    rw [imp_iff_right hlt]
    have hprice := @closes_price tools s
    rw [closes_eq_cons, List.forall_mem_cons] at hprice
    constructor
    · intro h
      obtain ⟨hreturns, h⟩ := failsWith_bind_iff.mp h
      refine ⟨?_, fun returns heq => pstdev_caught_iff.mp (failsWith_bind_iff.mp (h returns heq)).1⟩
      cases hzero : (tools.float s.firstBar.close).isZero with
      | false => rfl
      | true =>
        -- there is a second close
        rw [closes_eq_cons] at hreturns
        obtain ⟨bar, rest, hrest⟩ := List.exists_cons_of_length_pos
          (show 0 < s.bars.tail.length by rw [List.length_tail]; omega)
        rw [hrest, List.map_cons] at hreturns
        exact absurd (hreturns _ (logReturns_zero hzero)) (by decide)
    · rintro ⟨hfirst, hfinite⟩
      refine failsWith_bind ?_ fun returns heq => ?_
      · rw [closes_eq_cons]
        exact logReturns_caught hfirst hprice.1 hprice.2
      · exact failsWith_bind (pstdev_caught_iff.mpr (hfinite returns heq)) fun _ _ => checked_caught

/-- What the volatility reports. -/
theorem volatility_reports {period : Nat} {f : FeatureResult}
    (h : VolatilityFeature.compute tools period s = .ok f) :
    (Tomiris.VolatilityFeature.feature period).Reports s f := by
  unfold VolatilityFeature.compute at h
  simp only at h
  split at h
  · cases h
    exact .invalid
  · obtain ⟨returns, -, h⟩ := bind_eq_ok.mp h
    obtain ⟨volatility, -, h⟩ := bind_eq_ok.mp h
    exact checked_reports h

/-- A mean divides by its period. -/
theorem mean_ok {period : Nat} (hperiod : 1 ≤ period) (values : List PyFloat) :
    ∃ mean, VolumeTrendFeature.mean tools period values = .ok mean :=
  divide_ok (float_ne_zero hperiod)

/-- The volume feature looks before it divides by a mean. -/
theorem volume_caught (shortPeriod longPeriod : Nat) :
    Caught (VolumeTrendFeature.compute tools shortPeriod longPeriod s) := by
  unfold VolumeTrendFeature.compute
  simp only
  split
  · exact failsWith_ok _
  · obtain ⟨shortMean, hshort⟩ := @mean_ok tools shortPeriod (by omega) (tools.volumes s)
    obtain ⟨longMean, hlongMean⟩ := @mean_ok tools longPeriod (by omega) (tools.volumes s)
    rw [hshort, hlongMean, ok_bind, ok_bind]
    split
    · exact checked_caught
    · rename_i hne
      exact (divide_bind_caught_iff fun _ => checked_caught).mpr (by simpa using hne)

/-- What it reports. -/
theorem volume_reports {shortPeriod longPeriod : Nat} {f : FeatureResult}
    (h : VolumeTrendFeature.compute tools shortPeriod longPeriod s = .ok f) :
    (Tomiris.VolumeTrendFeature.feature shortPeriod longPeriod).Reports s f := by
  unfold VolumeTrendFeature.compute at h
  simp only at h
  split at h
  · cases h
    exact .invalid
  · obtain ⟨shortMean, -, h⟩ := bind_eq_ok.mp h
    obtain ⟨longMean, -, h⟩ := bind_eq_ok.mp h
    split at h
    · exact checked_reports h
    · obtain ⟨ratio, -, h⟩ := bind_eq_ok.mp h
      exact checked_reports h

end Indicators

section Pipeline

variable (config : FeaturePipelineConfig) (s : MarketDataSeries)

/-- The averages of a series are finite, so that the pipeline reaches the true range. -/
def Averaged : Prop :=
  (∃ f, EMAFeature.compute tools config.emaFast s = .ok f) ∧
  (∃ f, EMAFeature.compute tools config.emaSlow s = .ok f) ∧
  ∃ f, MACDFeature.compute tools config.macdFast config.macdSlow config.macdSignal s = .ok f

/-- How an exception that is not caught leaves the features of a series: three closes that are zero
    as floats are divided by, and `pstdev` is given a return that is not finite. -/
inductive Escapes : Prop
  | lastClose (averaged : Averaged tools config s) (bars : config.atrPeriod < s.bars.length)
      (zero : (tools.float s.lastBar.close).isZero = true)
  | earlierClose (averaged : Averaged tools config s)
      (atr : ∃ f, ATRFeature.compute tools config.atrPeriod s = .ok f) (bar : OHLCVBar)
      (found : fromEnd s.bars config.returnLookback = .ok bar)
      (zero : (tools.float bar.close).isZero = true)
  | firstClose (averaged : Averaged tools config s)
      (atr : ∃ f, ATRFeature.compute tools config.atrPeriod s = .ok f)
      (return' : ∃ f, ReturnFeature.compute tools config.returnLookback s = .ok f)
      (bars : config.volatilityPeriod < s.bars.length)
      (zero : (tools.float s.firstBar.close).isZero = true)
  | infiniteReturn (averaged : Averaged tools config s)
      (atr : ∃ f, ATRFeature.compute tools config.atrPeriod s = .ok f)
      (return' : ∃ f, ReturnFeature.compute tools config.returnLookback s = .ok f)
      (bars : config.volatilityPeriod < s.bars.length) (returns : List PyFloat)
      (logReturns : VolatilityFeature.logReturns tools (tools.closes s) = .ok returns)
      (x : PyFloat) (mem : x ∈ returns.rtake config.volatilityPeriod) (infinite : x.finite? = none)

variable {tools config s}

/-- The true range is divided by the last close. -/
theorem atr_caught_of_not_escapes (h : ¬ Escapes tools config s)
    (haveraged : Averaged tools config s) :
    Caught (ATRFeature.compute tools config.atrPeriod s) := by
  rw [atr_caught_iff s config.valid.atr.1]
  intro hbars
  cases hzero : (tools.float s.lastBar.close).isZero with
  | false => rfl
  | true => exact absurd (.lastClose haveraged hbars hzero) h

/-- The return behind it is a quotient by an earlier one. -/
theorem return_caught_of_not_escapes (h : ¬ Escapes tools config s)
    (haveraged : Averaged tools config s)
    (hatr : ∃ f, ATRFeature.compute tools config.atrPeriod s = .ok f) :
    Caught (ReturnFeature.compute tools config.returnLookback s) := by
  rw [return_caught_iff s config.valid.return_lookback.1]
  intro bar hbar
  cases hzero : (tools.float bar.close).isZero with
  | false => rfl
  | true => exact absurd (.earlierClose haveraged hatr bar hbar hzero) h

/-- The volatility behind both divides by every close but the last. -/
theorem volatility_caught_of_not_escapes (h : ¬ Escapes tools config s)
    (haveraged : Averaged tools config s)
    (hatr : ∃ f, ATRFeature.compute tools config.atrPeriod s = .ok f)
    (hreturn : ∃ f, ReturnFeature.compute tools config.returnLookback s = .ok f) :
    Caught (VolatilityFeature.compute tools config.volatilityPeriod s) := by
  rw [volatility_caught_iff s config.valid.volatility.1]
  intro hbars
  constructor
  · cases hzero : (tools.float s.firstBar.close).isZero with
    | false => rfl
    | true => exact absurd (.firstClose haveraged hatr hreturn hbars hzero) h
  · intro returns heq x hx hinfinite
    exact h (.infiniteReturn haveraged hatr hreturn hbars returns heq x hx hinfinite)

/-- Behind finite averages the pipeline goes on with the true range. -/
theorem compute_of_averaged (h : Averaged tools config s) : ∃ emaFast emaSlow rsi macd,
    TechnicalFeaturePipeline.compute tools config s = (do
      let atr ← ATRFeature.compute tools config.atrPeriod s
      let return' ← ReturnFeature.compute tools config.returnLookback s
      let volatility ← VolatilityFeature.compute tools config.volatilityPeriod s
      let volume ← VolumeTrendFeature.compute tools config.volumeShortPeriod
        config.volumeLongPeriod s
      pure [emaFast, emaSlow, rsi, macd, atr, return', volatility, volume]) := by
  obtain ⟨⟨emaFast, hemaFast⟩, ⟨emaSlow, hemaSlow⟩, macd, hmacd⟩ := h
  obtain ⟨rsi, hrsi, -⟩ := @rsi_reports tools s config.rsiPeriod
  refine ⟨emaFast, emaSlow, rsi, macd, ?_⟩
  unfold TechnicalFeaturePipeline.compute
  rw [hemaFast, hemaSlow, hrsi, hmacd]
  rfl

/-- Nothing else raises what is not caught. -/
theorem pipeline_caught (h : ¬ Escapes tools config s) :
    Caught (TechnicalFeaturePipeline.compute tools config s) := by
  unfold TechnicalFeaturePipeline.compute
  -- the features in the order of the pipeline; each may rely on those before it
  refine failsWith_bind (ema_caught s _) fun emaFast hemaFast => ?_
  refine failsWith_bind (ema_caught s _) fun emaSlow hemaSlow => ?_
  obtain ⟨rsi, hrsi, -⟩ := @rsi_reports tools s config.rsiPeriod
  refine failsWith_bind (failsWith_of_ok ⟨rsi, hrsi⟩) fun _ _ => ?_
  refine failsWith_bind (macd_caught s _ _ _) fun macd hmacd => ?_
  have haveraged : Averaged tools config s := ⟨⟨_, hemaFast⟩, ⟨_, hemaSlow⟩, _, hmacd⟩
  refine failsWith_bind (atr_caught_of_not_escapes h haveraged) fun atr hatr => ?_
  refine failsWith_bind (return_caught_of_not_escapes h haveraged ⟨_, hatr⟩)
    fun return' hreturn => ?_
  refine failsWith_bind (volatility_caught_of_not_escapes h haveraged ⟨_, hatr⟩ ⟨_, hreturn⟩)
    fun volatility _ => ?_
  exact failsWith_bind (volume_caught s _ _) fun _ _ => failsWith_ok _

/-- A last close that is at most half of the least float: the true range is divided by zero. -/
theorem escapes_of_tiny (hformat : tools.format = .binary64) (haveraged : Averaged tools config s)
    (hbars : config.atrPeriod < s.bars.length) (hclose : s.lastBar.close ≤ 2 ^ (-1075 : Int)) :
    Escapes tools config s := by
  refine .lastClose haveraged hbars ?_
  have hzero : tools.float s.lastBar.close = .finite 0 := by
    rw [FloatTools.float, hformat]
    exact Binary64.round_eq_zero s.lastBar.valid.positive.2.2.2 hclose
  rw [hzero]
  rfl

/-- An exception leaves the features in these ways and in no other. -/
theorem pipeline_caught_iff :
    Caught (TechnicalFeaturePipeline.compute tools config s) ↔ ¬ Escapes tools config s := by
  refine ⟨fun h hescapes => ?_, pipeline_caught⟩
  -- each case reaches the feature that divides, and the feature raises
  have hreach : ∀ (haveraged : Averaged tools config s),
      Caught (ATRFeature.compute tools config.atrPeriod s) ∧
      ((∃ f, ATRFeature.compute tools config.atrPeriod s = .ok f) →
        Caught (ReturnFeature.compute tools config.returnLookback s) ∧
        ((∃ f, ReturnFeature.compute tools config.returnLookback s = .ok f) →
          Caught (VolatilityFeature.compute tools config.volatilityPeriod s))) := by
    intro haveraged
    obtain ⟨emaFast, emaSlow, rsi, macd, heq⟩ := compute_of_averaged haveraged
    rw [heq] at h
    obtain ⟨hcaught, hrest⟩ := failsWith_bind_iff.mp h
    refine ⟨hcaught, fun ⟨atr, hatr⟩ => ?_⟩
    have hreturn := failsWith_bind_iff.mp (hrest atr hatr)
    refine ⟨hreturn.1, fun ⟨return', hreturn'⟩ => ?_⟩
    exact (failsWith_bind_iff.mp (hreturn.2 return' hreturn')).1
  have hvolatility := config.valid.volatility.1
  cases hescapes with
  | lastClose averaged bars zero =>
    have hcaught := (atr_caught_iff s config.valid.atr.1).mp (hreach averaged).1 bars
    rw [zero] at hcaught
    cases hcaught
  | earlierClose averaged atr bar found zero =>
    have hcaught := (return_caught_iff s config.valid.return_lookback.1).mp
      ((hreach averaged).2 atr).1 bar found
    rw [zero] at hcaught
    cases hcaught
  | firstClose averaged atr return' bars zero =>
    have hcaught := ((volatility_caught_iff s hvolatility).mp
      (((hreach averaged).2 atr).2 return') bars).1
    rw [zero] at hcaught
    cases hcaught
  | infiniteReturn averaged atr return' bars returns logReturns x mem infinite =>
    exact ((volatility_caught_iff s hvolatility).mp (((hreach averaged).2 atr).2 return') bars).2
      returns logReturns x mem infinite

/-- What the pipeline returns, it returns under the names and with the parameters of its features. -/
theorem pipeline_reports {features : List FeatureResult}
    (h : TechnicalFeaturePipeline.compute tools config s = .ok features) :
    ∃ emaFast emaSlow rsi macd atr return' volatility volume,
      features = [emaFast, emaSlow, rsi, macd, atr, return', volatility, volume] ∧
      PipelineReports config s emaFast emaSlow rsi macd atr return' volatility volume := by
  unfold TechnicalFeaturePipeline.compute at h
  -- the eight features were computed one after the other
  obtain ⟨emaFast, hemaFast, h⟩ := bind_eq_ok.mp h
  obtain ⟨emaSlow, hemaSlow, h⟩ := bind_eq_ok.mp h
  obtain ⟨rsi, hrsi, h⟩ := bind_eq_ok.mp h
  obtain ⟨macd, hmacd, h⟩ := bind_eq_ok.mp h
  obtain ⟨atr, hatr, h⟩ := bind_eq_ok.mp h
  obtain ⟨return', hreturn, h⟩ := bind_eq_ok.mp h
  obtain ⟨volatility, hvolatility, h⟩ := bind_eq_ok.mp h
  obtain ⟨volume, hvolume, h⟩ := bind_eq_ok.mp h
  obtain ⟨rsi', hrsi', hreports⟩ := @rsi_reports tools s config.rsiPeriod
  rw [hrsi] at hrsi'
  cases hrsi'
  cases h
  exact ⟨emaFast, emaSlow, rsi, macd, atr, return', volatility, volume, rfl,
    { ema_fast := ema_reports s hemaFast
      ema_slow := ema_reports s hemaSlow
      rsi := hreports
      macd := macd_reports s hmacd
      atr := atr_reports s hatr
      return' := return_reports s hreturn
      volatility := volatility_reports s hvolatility
      volume := volume_reports s hvolume }⟩

end Pipeline

end Floats

end Tomiris
