import Mathlib.Data.List.Sort
import Tomiris.MarketData.Service

/-!
# Behind the quality gate

What the collector hands over. A report is `VALID`, or names one reason and rejects the series; an
approved series is in order and closes by its cutoff. The loop of the collector stops at the first
rejected series and otherwise collects all of them.

## Key results

- `validate_cases`, `validate_passes`: what a report says
- `collectAll_approved`, `collectAll_rejected`: what the loop returns or raises
-/

namespace Tomiris

namespace MarketDataValidator

variable {series : MarketDataSeries} {request : RequestFields}

/-- The report is `VALID`, or rejects the series for one reason. -/
def Decides (report : DataQualityReport) : Prop :=
  report.outcome = .valid ∨
    report.outcome ≠ .valid ∧ report.outcome ≠ .degraded ∧
      ∃ code, report.reasonCodes = [code] ∧ code.length ≤ 128

theorem decides_invalid {reason : String} (h : reason.length ≤ 128) (acceptedBars : Nat) :
    Decides (invalid reason acceptedBars) :=
  .inr ⟨by simp [invalid], by simp [invalid], reason, rfl, h⟩

/-- A check, and the ones after it. -/
theorem decides_ite {check : Prop} [Decidable check] {report rest : DataQualityReport}
    (h : Decides report) (hrest : Decides rest) : Decides (if check then report else rest) := by
  split
  · exact h
  · exact hrest

theorem validate_cases (series : MarketDataSeries) (request : RequestFields) :
    Decides (validate series request) := by
  unfold validate
  simp only
  apply decides_ite (decides_invalid (by decide) _)
  apply decides_ite (decides_invalid (by decide) _)
  -- too few bars are the one reason with an outcome of its own
  apply decides_ite (.inr ⟨by simp, by simp, _, rfl, by decide⟩)
  apply decides_ite (decides_invalid (by decide) _)
  apply decides_ite (decides_invalid (by decide) _)
  apply decides_ite (decides_invalid (by decide) _)
  apply decides_ite (decides_invalid (by decide) _)
  apply decides_ite (decides_invalid (by decide) _)
  apply decides_ite (decides_invalid (by decide) _)
  apply decides_ite (decides_invalid (by decide) _)
  exact .inl rfl

theorem passes_ite {check : Prop} [Decidable check] {report rest : DataQualityReport}
    (h : report.outcome ≠ .valid) :
    (if check then report else rest).outcome = .valid ↔ ¬ check ∧ rest.outcome = .valid := by
  by_cases hcheck : check
  · rw [if_pos hcheck]
    exact iff_of_false h fun hpasses => hpasses.1 hcheck
  · rw [if_neg hcheck]
    exact (and_iff_right hcheck).symm

/-- The checks that an approved series passes, in their order. -/
theorem validate_passes : (validate series request).outcome = .valid ↔
    (series.instrument = request.instrument ∧ series.timeframe = request.timeframe) ∧
    series.asOf = request.asOf ∧
    request.minimumBars ≤ series.bars.length ∧
    (series.bars.map (fun bar => bar.openTime)).Nodup ∧
    series.bars.map (fun bar => bar.openTime) =
      (series.bars.map (fun bar => bar.openTime)).mergeSort ∧
    (∀ bar ∈ series.bars, bar.closeTime ≤ request.asOf) ∧
    (request.closedOnly = true → ∀ bar ∈ series.bars, bar.closed = true) ∧
    (series.bars.zip series.bars.tail).any
      (fun pair => isGap request.timeframe pair.1 pair.2) = false ∧
    0 ≤ request.asOf - series.lastBar.closeTime ∧
    request.asOf - series.lastBar.closeTime ≤ seconds request.maxDataAgeSeconds := by
  have hinvalid : ∀ reason acceptedBars, (invalid reason acceptedBars).outcome ≠ .valid := by
    simp [invalid]
  unfold validate
  simp only
  rw [passes_ite (hinvalid _ _), passes_ite (hinvalid _ _), passes_ite (by simp),
    passes_ite (hinvalid _ _), passes_ite (hinvalid _ _), passes_ite (hinvalid _ _),
    passes_ite (hinvalid _ _), passes_ite (hinvalid _ _), passes_ite (hinvalid _ _),
    passes_ite (hinvalid _ _)]
  simp only [not_or, not_not, not_lt, Bool.not_eq_true, List.any_eq_false, Bool.and_eq_false_imp,
    Bool.not_eq_false', decide_eq_true_eq, and_true]

/-- An approved series is the one asked for, in order, and closes by the cutoff. -/
structure Approved (series : MarketDataSeries) (request : RequestFields) : Prop where
  identity : series.instrument = request.instrument ∧ series.timeframe = request.timeframe
  sorted : (series.bars.map (fun bar => bar.openTime)).Pairwise (· ≤ ·)
  closed_by : ∀ bar ∈ series.bars, bar.closeTime ≤ request.asOf

theorem validate_approved (h : (validate series request).outcome = .valid) :
    Approved series request := by
  obtain ⟨hidentity, -, -, -, hsorted, hclosed, -⟩ := validate_passes.mp h
  refine ⟨hidentity, ?_, hclosed⟩
  rw [hsorted]
  refine (List.pairwise_mergeSort ?_ ?_ _).imp (by simp)
  · intro a b c hab hbc
    simp only [decide_eq_true_eq] at hab hbc ⊢
    omega
  · intro a b
    simp only [Bool.or_eq_true, decide_eq_true_eq]
    omega

/-- The first bar of an approved series does not open after the last one closes. -/
theorem Approved.range (h : Approved series request) :
    series.firstBar.openTime ≤ series.lastBar.closeTime := by
  have hlast := series.lastBar.valid.times
  have hmem : series.lastBar ∈ series.bars := List.getLast_mem series.bars_ne_nil
  have hsorted := h.sorted
  -- the last bar is the first, or its open time is after the first's
  obtain ⟨first, rest, hbars⟩ := List.exists_cons_of_ne_nil series.bars_ne_nil
  have hfirst : series.firstBar = first := by
    simp [MarketDataSeries.firstBar, hbars]
  rw [hbars, List.map_cons, List.pairwise_cons] at hsorted
  rw [hfirst]
  rw [hbars] at hmem
  rcases List.mem_cons.mp hmem with heq | hrest
  · rw [heq] at hlast ⊢
    exact hlast.le
  · exact (hsorted.1 _ (List.mem_map_of_mem hrest)).trans hlast.le

end MarketDataValidator

namespace MarketDataCollector

/-- Every fetched series passes the gate. -/
def Accepted (fetched : List (MarketDataRequest × MarketDataSeries)) : Prop :=
  ∀ pair ∈ fetched,
    (MarketDataValidator.validate pair.2 pair.1.toRequestFields).outcome = .valid

instance (fetched : List (MarketDataRequest × MarketDataSeries)) : Decidable (Accepted fetched) :=
  inferInstanceAs (Decidable (∀ pair ∈ fetched, _))

theorem assign_length {κ ν : Type} [DecidableEq κ] (d : List (κ × ν)) (k : κ) (v : ν) :
    1 ≤ (assign d k v).length ∧ d.length ≤ (assign d k v).length ∧
      (assign d k v).length ≤ d.length + 1 := by
  unfold assign
  split
  · rename_i hknown
    have hpos : 1 ≤ d.length := by
      cases d with
      | nil => cases hknown
      | cons e rest => simp
    simpa using hpos
  · simp

/-- The loop collects the series that are all approved. -/
theorem collectAll_approved {fetched : List (MarketDataRequest × MarketDataSeries)}
    (h : Accepted fetched) (st : Collecting) :
    ∃ st', collectAll st fetched = .ok st' ∧ st'.series = st.series ++ fetched.map Prod.snd ∧
      (st.providers.length ≤ st'.providers.length ∧
        st'.providers.length ≤ st.providers.length + fetched.length) ∧
      (fetched ≠ [] → 1 ≤ st'.providers.length) := by
  induction fetched generalizing st with
  | nil => exact ⟨st, rfl, by simp, by simp, by simp⟩
  | cons pair rest ih =>
    obtain ⟨request, series⟩ := pair
    have hvalid : (MarketDataValidator.validate series request.toRequestFields).outcome = .valid :=
      h (request, series) (List.mem_cons_self ..)
    -- the first series adds itself and at most one provider
    have hone : ∃ st', collectOne st request series = .ok st' ∧
        st'.series = st.series ++ [series] ∧ 1 ≤ st'.providers.length ∧
        st.providers.length ≤ st'.providers.length ∧
        st'.providers.length ≤ st.providers.length + 1 := by
      unfold collectOne
      simp only [hvalid]
      exact ⟨_, rfl, rfl, assign_length ..⟩
    obtain ⟨st₁, hst₁, hseries, hpos, hmore, hless⟩ := hone
    obtain ⟨st', hst', hseries', ⟨hmore', hless'⟩, -⟩ :=
      ih (fun pair hpair => h pair (List.mem_cons_of_mem _ hpair)) st₁
    refine ⟨st', ?_, ?_, ?_, ?_⟩
    · rw [collectAll, hst₁]
      exact hst'
    · rw [hseries', hseries]
      simp
    · rw [List.length_cons]
      omega
    · intro _
      omega

/-- The loop stops at the first series that is not approved, with a short code. -/
theorem collectAll_rejected {fetched : List (MarketDataRequest × MarketDataSeries)}
    (h : ¬ Accepted fetched) (st : Collecting) :
    ∃ e, collectAll st fetched = .error e ∧ e.code.length ≤ 128 := by
  induction fetched generalizing st with
  | nil => exact absurd (by simp [Accepted]) h
  | cons pair rest ih =>
    obtain ⟨request, series⟩ := pair
    rw [collectAll]
    rcases MarketDataValidator.validate_cases series request.toRequestFields with
      hvalid | ⟨hne, hne', code, hcodes, hshort⟩
    -- the first series passes, so one of the rest does not
    · have hrest : ¬ Accepted rest := by
        intro hrest
        refine h ?_
        intro pair hpair
        rcases List.mem_cons.mp hpair with rfl | hpair
        · exact hvalid
        · exact hrest pair hpair
      unfold collectOne
      simp only [hvalid]
      exact ih hrest _
    -- the first series fails, with a code of the validator
    · have hone : collectOne st request series = .error ⟨code, "market data failed quality gate for "
          ++ (request.instrument ++ ":" ++ request.timeframe.value)⟩ := by
        unfold collectOne
        simp only [hcodes]
        exact if_pos ⟨hne, hne'⟩
      rw [hone]
      exact ⟨_, rfl, hshort⟩

end MarketDataCollector

end Tomiris
