import StructuralSeries.Proofs.Periods.Positive
import StructuralSeries.Proofs.Sample.Prepared
import StructuralSeries.Proofs.Settings.Kept

/-!
# Well-formed requests

Estimation reads a request without looking back at the call that it came from. What it may rely on is said in
`Request.WellFormed`, and every set-up gives it (`Request.wellFormed_of_setup`).

Each stage of a set-up establishes a part: the settings promise non-empty parameters and a natural horizon, the
periods are positive, the sample has its ends observed and a matrix that covers it, and compiling drops the
parameters of an open model. No later stage takes any of this back, since a request is only assembled from them.
-/

namespace StructuralSeries

/-! ## What the stages establish -/

namespace Stages.Of

variable [Text.Reader] {st : Stages} {y frequency : Value} {options : List (String × Value)}

theorem periods_pos (h : st.Of y frequency options) : ∀ x ∈ st.periods.data, Double.zero.lt x = true := by
  have hpromises := Settings.promises_of_resolve h.settings
  exact Periods.pos_of_derive (isFinite_of_frequencyOf h.frequency)
    (fun xs hxs => Contract.pos_of_arePeriods (hpromises.arePeriods xs hxs)) h.periods

/-- The compiled model is what compiling leaves of the horizon of the sample and of the parameters. -/
theorem compiled_eq (h : st.Of y frequency options) :
    ∃ first rest, st.periods = .ofList (first :: rest) ∧
      st.compiled = Compiled.around st.compiled.components (rest.length + 1) st.sample.horizon st.settings.initial
        st.settings.fixed := by
  obtain ⟨first, rest, hperiods⟩ := h.exists_periods
  have hm := h.compiled
  rw [hperiods] at hm
  exact ⟨first, rest, hperiods, Compiled.eq_around hm⟩

theorem horizon_eq (h : st.Of y frequency options) : st.compiled.horizon = st.sample.horizon.getD defaultHorizon := by
  obtain ⟨first, rest, -, hm⟩ := h.compiled_eq
  rw [hm]
  rfl

/-- The parameters of a compiled model are those of the settings, or an open model has lost them. -/
theorem parameters_eq (h : st.Of y frequency options) :
    st.compiled.p0 = (if st.compiled.components.isOpen then none else st.settings.initial) ∧
      st.compiled.p = (if st.compiled.components.isOpen then none else st.settings.fixed) := by
  obtain ⟨first, rest, -, hm⟩ := h.compiled_eq
  exact ⟨congrArg Compiled.p0 hm, congrArg Compiled.p hm⟩

theorem mem_initial (h : st.Of y frequency options) {xs : List Double} (hxs : xs ∈ st.compiled.p0) :
    xs ∈ st.settings.initial := by
  rw [h.parameters_eq.1] at hxs
  split at hxs
  · cases hxs
  · exact hxs

theorem mem_fixed (h : st.Of y frequency options) {xs : List Double} (hxs : xs ∈ st.compiled.p) :
    xs ∈ st.settings.fixed := by
  rw [h.parameters_eq.2] at hxs
  split at hxs
  · cases hxs
  · exact hxs

/-- A horizon is a natural number: one that a double can count to, unless it is the number of columns that real inputs
have beyond the series. -/
theorem exists_horizon (h : st.Of y frequency options) :
    ∃ n : Nat, st.compiled.horizon = n ∧ (n < Double.wholeBound ∨ ∃ u : Inputs, u.Given options ∧ n < u.width) := by
  have hpromises := Settings.promises_of_resolve h.settings
  rw [h.horizon_eq]
  rcases Sample.horizon_of_prepare h.sample with hasked | ⟨u, n, hu, hn, hlt⟩
  · rw [hasked]
    cases hh : st.settings.horizon with
    | none => exact ⟨18, rfl, Or.inl (by decide +kernel)⟩
    | some k =>
      obtain ⟨n, rfl, hlt⟩ := hpromises.horizon k hh
      exact ⟨n, rfl, Or.inl hlt⟩
  · rw [hn]
    exact ⟨n, rfl, Or.inr ⟨u, h.given hu, hlt⟩⟩

theorem horizon_nonneg (h : st.Of y frequency options) : 0 ≤ st.compiled.horizon := by
  obtain ⟨n, hn, -⟩ := h.exists_horizon
  rw [hn]
  exact Int.natCast_nonneg n

end Stages.Of

/-! ## Requests -/

namespace Request

/-- What estimation relies on. The arrays of a request are written as their values: the series, the periods, the
coefficients and the parameters along one axis, the inputs along two. -/
structure WellFormed (r : Request) : Prop where
  series_shape : (Grid.ofList r.series.values).shape = [r.n] ∧ 0 < r.n
  head_observed : (r.series.values.head r.series.nonempty).isNaN = false
  last_observed : (r.series.values.getLast r.series.nonempty).isNaN = false
  inputs_shape : r.inputs.toGrid.shape = [r.inputs.height, r.inputs.width] ∧ 0 < r.inputs.height ∧ 0 < r.inputs.width
  /-- More than two columns are as many as the series has values, or more. -/
  inputs_cover : 2 < r.inputs.width → r.n ≤ r.inputs.width
  horizon_nonneg : 0 ≤ r.horizon
  periods_ne_nil : r.periods ≠ []
  periods_pos : ∀ x ∈ r.periods, Double.zero.lt x = true
  rhos_eq : r.rhos = List.replicate r.periods.length .one
  initial_ne_nil : ∀ xs ∈ r.initial, xs ≠ []
  fixed_ne_nil : ∀ xs ∈ r.fixed, xs ≠ []
  /-- A model with a wildcard has no parameters. -/
  open_model : Token.wildcard ∈ r.model.toList → r.initial = none ∧ r.fixed = none
  criterion_named : r.criterion.name ∈ ["aic", "bic", "aicc"]

/-- **Every request that is set up is well formed.** -/
theorem wellFormed_of_setup [Text.Reader] {y frequency : Value} {options : List (String × Value)} {r : Request}
    (h : (setup y frequency options).result = .ok r) : r.WellFormed := by
  obtain ⟨st, hst, rfl⟩ := setup_eq_ok_iff.1 h
  have hpromises := Settings.promises_of_resolve hst.settings
  have hsound := Sample.sound_of_prepare hst.sample
  obtain ⟨first, rest, hperiods, hm⟩ := hst.compiled_eq
  have hdata : st.periods.data = first :: rest := by rw [hperiods]; rfl
  refine
    { series_shape := ⟨rfl, st.sample.series.length_pos⟩
      head_observed := hsound.ends.head
      last_observed := hsound.ends.last
      inputs_shape := ⟨rfl, hsound.height_pos, hsound.width_pos⟩
      inputs_cover := fun hwide => hsound.covered (decide_eq_true hwide)
      horizon_nonneg := hst.horizon_nonneg
      periods_ne_nil := ?_
      periods_pos := hst.periods_pos
      rhos_eq := ?_
      initial_ne_nil := fun xs hxs => hpromises.initial_ne_nil xs (hst.mem_initial hxs)
      fixed_ne_nil := fun xs hxs => hpromises.fixed_ne_nil xs (hst.mem_fixed hxs)
      open_model := ?_
      criterion_named := ?_ }
  · show st.periods.data ≠ []
    rw [hdata]
    simp
  · show st.compiled.rhos = List.replicate st.periods.data.length .one
    rw [hm, hdata]
    rfl
  · show Token.wildcard ∈ st.compiled.model.toList → st.compiled.p0 = none ∧ st.compiled.p = none
    rw [Compiled.model, Components.text, String.toList_ofList, Components.wildcard_mem_chars_iff]
    intro hopen
    rw [hst.parameters_eq.1, hst.parameters_eq.2]
    exact ⟨if_pos hopen, if_pos hopen⟩
  · show st.settings.criterion.name ∈ _
    cases st.settings.criterion <;> decide

/-- Missing values at both ends, inputs whose time runs along the rows, and fixed parameters. -/
theorem wellFormed_of_setup_missing_ends :
    ∃ r, (setup (.list [.float .nan, .int 1, .int 3, .float .nan]) (.int 4)
        [("u", .list [.list [.int 1], .list [.int 2], .list [.int 3], .list [.int 4], .list [.int 5]]),
          ("model", .text "llt/equal/arma(1,0)"), ("p", .list [.float .one])]).result = .ok r ∧
      r.n = 2 ∧ r.inputs.height = 1 ∧ r.fixed = some [.one] ∧ r.WellFormed := by
  have hr : (setup (.list [.float .nan, .int 1, .int 3, .float .nan]) (.int 4)
        [("u", .list [.list [.int 1], .list [.int 2], .list [.int 3], .list [.int 4], .list [.int 5]]),
          ("model", .text "llt/equal/arma(1,0)"), ("p", .list [.float .one])]).result.toOption.map
        (fun r => (r.n, r.inputs.height, r.fixed)) = some (2, 1, some [.one]) := by decide +kernel
  obtain ⟨r, hr, hvalues⟩ := exists_of_toOption_map hr
  simp only [Prod.mk.injEq] at hvalues
  exact ⟨r, hr, hvalues.1, hvalues.2.1, hvalues.2.2, wellFormed_of_setup hr⟩

end Request

end StructuralSeries
