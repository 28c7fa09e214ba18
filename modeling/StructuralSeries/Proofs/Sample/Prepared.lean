import StructuralSeries.Proofs.Inputs.Orientation
import StructuralSeries.Proofs.Request.Inputs
import StructuralSeries.Proofs.Value.Arrays

/-!
# Samples that are prepared

A prepared sample is sound (`Sample.Sound`): its series starts and ends with an observation, and its inputs are a
matrix that covers it. Preparing it again changes nothing if its inputs are those that were handed in
(`Sample.prepare_again`); they are unless real inputs have lost columns together with missing values, and this
happens only if the series that came with them was missing an end.
-/

namespace StructuralSeries

/-! ## Observed ends -/

namespace Series

/-- The first and the last value of a series are no missing ones. -/
structure EndsObserved (y : Series) : Prop where
  head : (y.values.head y.nonempty).isNaN = false
  last : (y.values.getLast y.nonempty).isNaN = false

variable {y z : Series} {before after : List Double}

theorem Trims.endsObserved (h : y.Trims z before after) : z.EndsObserved := ⟨h.head_observed, h.last_observed⟩

/-- Nothing is cut off a series with observed ends. -/
theorem EndsObserved.trims (h : y.EndsObserved) : y.Trims y [] [] where
  values_eq := by rw [List.nil_append, List.append_nil]
  missing_before := fun _ hx => absurd hx List.not_mem_nil
  missing_after := fun _ hx => absurd hx List.not_mem_nil
  head_observed := h.head
  last_observed := h.last

theorem EndsObserved.eq_nil (hy : y.EndsObserved) (h : y.Trims z before after) : before = [] ∧ after = [] := by
  have hspan : y.trim? = some ⟨before.length, z, after.length⟩ := trim?_eq_some_iff.2 ⟨_, _, h, rfl, rfl⟩
  have hself : y.trim? = some ⟨0, y, 0⟩ := trim?_eq_some_iff.2 ⟨_, _, hy.trims, rfl, rfl⟩
  rw [hspan, Option.some.injEq, Span.mk.injEq] at hself
  exact ⟨List.length_eq_zero_iff.1 hself.1, List.length_eq_zero_iff.1 hself.2.2⟩

end Series

namespace Sample

/-! ## Stages of a sample -/

section Stages

variable {y : Series} {u : Inputs} {asked horizon : Option Int} {silent : Bool} {sample : Sample}

/-- Inputs that are not real are never cut. -/
theorem inputs_of_not_isReal (h : (ofSeries y u horizon silent).result = .ok sample) (hu : u.isReal = false) :
    sample.inputs = u := by
  unfold ofSeries at h
  split at h
  · cases h
  · split at h
    · cases h
      rfl
    · simp only [Report.result_chain, Report.result_notify, ok_bind, Report.result_pure] at h
      cases h
      unfold cut
      rw [hu]
      rfl

theorem ofSeries_of_endsObserved (h : y.EndsObserved) (u : Inputs) (horizon : Option Int) (silent : Bool) :
    (ofSeries y u horizon silent).result = .ok ⟨y, u, horizon⟩ := by
  have hself : y.trim? = some ⟨0, y, 0⟩ := Series.trim?_eq_some_iff.2 ⟨_, _, h.trims, rfl, rfl⟩
  unfold ofSeries
  rw [hself]
  rfl

theorem horizonFor_eq_ok_iff {length : Nat} :
    horizonFor u length asked = .ok horizon ↔
      (u.isReal = false ∧ horizon = asked) ∨
        (u.isReal = true ∧ length ≤ u.width ∧ horizon = some ((u.width - length : Nat) : Int)) := by
  unfold horizonFor
  cases hu : u.isReal with
  | false => simp [eq_comm]
  | true =>
    rw [if_neg (by simp)]
    split
    · next hlt => simp [Nat.not_le.2 hlt]
    · next hle => simp [Nat.le_of_not_lt hle, eq_comm]

theorem horizonFor_eq_error_iff {length : Nat} {e : Fault} :
    horizonFor u length asked = .error e ↔
      (u.isReal = true ∧ u.width < length) ∧ Fault.refused .inputsTooShort = e := by
  unfold horizonFor
  cases hu : u.isReal with
  | false => simp
  | true =>
    rw [if_neg (by simp)]
    split
    · next hlt => simp [hlt]
    · next hle => simp [hle]

/-- There is a horizon exactly if real inputs are long enough. -/
theorem exists_horizonFor_iff (asked : Option Int) {length : Nat} :
    (∃ horizon, horizonFor u length asked = .ok horizon) ↔ (2 < u.width → length ≤ u.width) := by
  rw [exists_ok_iff]
  simp [horizonFor_eq_error_iff, Inputs.isReal_iff]

theorem ofSeries_eq_error_iff {e : Fault} :
    (ofSeries y u horizon silent).result = .error e ↔ y.trim? = none ∧ Fault.refused .seriesAllMissing = e := by
  unfold ofSeries
  cases ht : y.trim? with
  | none => exact ⟨fun h => ⟨rfl, Except.error.inj h⟩, fun h => congrArg Except.error h.2⟩
  | some span =>
    refine iff_of_false ?_ (fun h => Option.some_ne_none _ h.1)
    intro h
    dsimp only at h
    split at h
    · cases h
    · simp only [Report.result_chain, Report.result_notify, ok_bind, Report.result_pure] at h
      cases h

end Stages

/-! ## Soundness -/

/-- The sample of a call: its series starts and ends with an observation, and its inputs are a matrix that covers it. -/
structure Sound (sample : Sample) : Prop where
  ends : sample.series.EndsObserved
  height_pos : 0 < sample.inputs.height
  width_pos : 0 < sample.inputs.width
  covered : sample.inputs.isReal = true → sample.series.length ≤ sample.inputs.width

section Prepare

variable {y : Value} {g : Option (Grid Double)} {asked : Option Int} {silent : Bool} {sample : Sample}

theorem sound_of_prepare [Text.Reader] (h : (prepare y g asked silent).result = .ok sample) : sample.Sound := by
  obtain ⟨y₀, inputs, horizon, -, hinputs, hhorizon, hsample⟩ := prepare_eq_ok_iff.1 h
  obtain ⟨before, after, htrims, -, hwhole, hcut⟩ := exists_trims hsample
  have horiented := Inputs.isOriented_of_ofOption? hinputs
  have hn := sample.series.length_pos
  have hlen := htrims.length_eq
  rcases horizonFor_eq_ok_iff.1 hhorizon with ⟨hidle, -⟩ | ⟨hreal, hle, -⟩
  · have hsame := inputs_of_not_isReal hsample hidle
    rw [← hsame] at hidle horiented
    exact ⟨htrims.endsObserved, horiented.height_pos, horiented.width_pos, by simp [hidle]⟩
  -- real inputs are kept whole, or exactly the columns of the span are kept
  · have hwidth : sample.inputs.height = inputs.height ∧ sample.series.length ≤ sample.inputs.width := by
      by_cases hnil : before = [] ∧ after = []
      · rw [hwhole hnil]
        exact ⟨rfl, by omega⟩
      · rw [hcut hnil hreal]
        refine ⟨rfl, ?_⟩
        rw [Inputs.width_window (by omega)]
    refine ⟨htrims.endsObserved, ?_, Nat.lt_of_lt_of_le hn hwidth.2, fun _ => hwidth.2⟩
    rw [hwidth.1]
    exact horiented.height_pos

/-- The horizon of a sample is the one that was asked for, or real inputs leave it. -/
theorem horizon_of_prepare [Text.Reader] (h : (prepare y g asked silent).result = .ok sample) :
    sample.horizon = asked ∨
      ∃ (u : Inputs) (n : Nat), Inputs.ofOption? g = .ok u ∧ sample.horizon = some (n : Int) ∧ n < u.width := by
  obtain ⟨y₀, u, horizon, -, hu, hhorizon, hsample⟩ := prepare_eq_ok_iff.1 h
  obtain ⟨before, after, -, hkept, -⟩ := exists_trims hsample
  rcases horizonFor_eq_ok_iff.1 hhorizon with ⟨-, rfl⟩ | ⟨-, hle, rfl⟩
  · exact Or.inl hkept
  · have hn := y₀.length_pos
    exact Or.inr ⟨u, u.width - y₀.length, hu, hkept, by omega⟩

/-! ## Preparing again -/

/-- **A sample that has the inputs of its call is prepared to itself**, for the horizon that it has or any other if
it has none. -/
theorem prepare_again [Text.Reader] (h : (prepare y g asked silent).result = .ok sample)
    (hends : ∀ y₀ u, Series.ofValue y = .ok y₀ → Inputs.ofOption? g = .ok u → u.isReal = true → y₀.EndsObserved)
    (d : Int) (silent' : Bool) :
    (prepare (Request.lineValue sample.series.values) (some sample.inputs.toGrid) (some (sample.horizon.getD d))
      silent').result = .ok ⟨sample.series, sample.inputs, some (sample.horizon.getD d)⟩ := by
  obtain ⟨y₀, u, horizon, hy, hu, hhorizon, hsample⟩ := prepare_eq_ok_iff.1 h
  obtain ⟨before, after, htrims, hkept, hwhole, -⟩ := exists_trims hsample
  have hlast := ofSeries_of_endsObserved htrims.endsObserved sample.inputs (some (sample.horizon.getD d)) silent'
  have horiented := Inputs.isOriented_of_ofOption? hu
  rcases horizonFor_eq_ok_iff.1 hhorizon with ⟨hidle, -⟩ | ⟨hreal, hle, rfl⟩
  · have hsame := inputs_of_not_isReal hsample hidle
    rw [← hsame] at hidle horiented
    exact prepare_eq_ok_iff.2 ⟨sample.series, sample.inputs, _, Series.ofValue_lineValue _,
      Inputs.ofGrid?_toGrid horiented, horizonFor_eq_ok_iff.2 (Or.inl ⟨hidle, rfl⟩), hlast⟩
  -- nothing was cut off, so the series and its inputs are those of the call
  · have hnil := (hends y₀ u hy hu hreal).eq_nil htrims
    have hsame := hwhole hnil
    obtain ⟨rfl, rfl⟩ := hnil
    rw [← htrims.eq_of_nil] at hle hkept
    rw [← hsame] at hle hkept hreal horiented
    refine prepare_eq_ok_iff.2 ⟨sample.series, sample.inputs, _, Series.ofValue_lineValue _,
      Inputs.ofGrid?_toGrid horiented, horizonFor_eq_ok_iff.2 (Or.inr ⟨hreal, hle, ?_⟩), hlast⟩
    rw [hkept]
    rfl

end Prepare

end Sample

end StructuralSeries
