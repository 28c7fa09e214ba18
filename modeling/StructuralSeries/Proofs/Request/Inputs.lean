import StructuralSeries.Proofs.Request.Stages
import StructuralSeries.Proofs.Model.NormalForm
import StructuralSeries.Proofs.Series.Span
import StructuralSeries.Proofs.Settings.Drafts

/-!
# The inputs of a request

Real inputs are meant to cover the series and the horizon, which is the number of their columns beyond the series
as it was handed in. The columns of the observations always stay with them, also when missing values are cut off
the ends of the series. The columns of the horizon do not: the window that is kept is as long as what is left of
the series. So the inputs cover series and horizon exactly when nothing is cut off or there is no horizon
(`Request.covers_inputs_iff`).
-/

namespace StructuralSeries

/-! ## Inputs that are handed in -/

namespace Request

/-- The grid of inputs that the options of a call give, if it keeps its contract. -/
def GivesInputs (options : List (String × Value)) (g : Option (Grid Double)) : Prop :=
  Contract.inputs ((options.lookup Setting.inputs.name).getD .absent) = .ok (some g)

theorem GivesInputs.unique {options : List (String × Value)} {g g' : Option (Grid Double)}
    (h : GivesInputs options g) (h' : GivesInputs options g') : g = g' := by
  unfold GivesInputs at h h'
  rw [h] at h'
  exact Option.some.inj (Except.ok.inj h')

theorem givesInputs_of_resolve {options : List (String × Value)} {s : Settings}
    (h : (Settings.resolve options).result = .ok s) : GivesInputs options s.inputs := by
  obtain ⟨supplied, draft, horizon, outlier, hs, hd, -, -, rfl⟩ := Settings.resolve_eq_ok_iff.1 h
  have hg := hd.inputs
  rw [Supplied.value_of_ofOptions hs (by decide) (by decide)] at hg
  exact hg

end Request

/-- The inputs that the options of a call give, with time along the columns. -/
def Inputs.Given (u : Inputs) (options : List (String × Value)) : Prop :=
  ∃ g, Request.GivesInputs options g ∧ ofOption? g = .ok u

theorem Inputs.Given.unique {u v : Inputs} {options : List (String × Value)} (hu : u.Given options)
    (hv : v.Given options) : u = v := by
  obtain ⟨g, hg, hu⟩ := hu
  obtain ⟨g', hg', hv⟩ := hv
  rw [hg.unique hg', hv] at hu
  exact Except.ok.inj hu.symm

/-- The inputs of a call whose width has been worked out. -/
theorem Inputs.exists_given (options : List (String × Value)) {n : Nat}
    (h : (Contract.inputs ((options.lookup Setting.inputs.name).getD .absent)).toOption.map
      (fun g => g.map fun g => (ofOption? g).toOption.map width) = some (some (some n))) :
    ∃ u : Inputs, u.Given options ∧ u.width = n := by
  obtain ⟨read, hread, h⟩ := exists_of_toOption_map h
  obtain ⟨g, rfl, hwidth⟩ := Option.map_eq_some_iff.1 h
  obtain ⟨u, hu, hn⟩ := exists_of_toOption_map hwidth
  exact ⟨u, ⟨g, hread, hu⟩, hn⟩

/-- The inputs of a sample are those that the options give. -/
theorem Stages.Of.given [Text.Reader] {st : Stages} {y frequency : Value} {options : List (String × Value)} {u : Inputs}
    (h : st.Of y frequency options) (hu : Inputs.ofOption? st.settings.inputs = .ok u) : u.Given options :=
  ⟨st.settings.inputs, Request.givesInputs_of_resolve h.settings, hu⟩

/-! ## Samples -/

/-- What is cut off a series, and the inputs that are left. -/
theorem Sample.exists_trims {y : Series} {u : Inputs} {horizon : Option Int} {silent : Bool} {sample : Sample}
    (h : (ofSeries y u horizon silent).result = .ok sample) :
    ∃ before after, y.Trims sample.series before after ∧ sample.horizon = horizon ∧
      (before = [] ∧ after = [] → sample.inputs = u) ∧
      (¬ (before = [] ∧ after = []) → u.isReal = true →
        sample.inputs = u.window before.length sample.series.length) := by
  unfold ofSeries at h
  cases ht : y.trim? with
  | none =>
    rw [ht] at h
    cases h
  | some span =>
    obtain ⟨before, after, htrims, hleading, htrailing⟩ := Series.trim?_eq_some_iff.1 ht
    have hnil : span.leading = 0 ∧ span.trailing = 0 ↔ before = [] ∧ after = [] := by
      rw [hleading, htrailing, List.length_eq_zero_iff, List.length_eq_zero_iff]
    rw [ht] at h
    dsimp only at h
    split at h
    -- nothing is missing at the ends: the series itself is its span
    · next hz =>
      obtain ⟨rfl, rfl⟩ := hnil.1 hz
      cases h
      rw [htrims.eq_of_nil] at htrims
      exact ⟨[], [], htrims, rfl, fun _ => rfl, fun hne => absurd ⟨rfl, rfl⟩ hne⟩
    · next hz =>
      have hne := fun hc => hz (hnil.2 hc)
      simp only [Report.result_chain, Report.result_notify, ok_bind, Report.result_pure] at h
      cases h
      refine ⟨before, after, htrims, rfl, fun hc => absurd hc hne, fun _ hreal => ?_⟩
      rw [← hleading]
      exact if_pos hreal

/-! ## Windows -/

namespace Inputs

variable {u : Inputs} {first count : Nat}

theorem width_window (h : first + count ≤ u.width) : (u.window first count).width = count := by
  show ((u.columns.drop first).take count).length = count
  rw [List.length_take, List.length_drop]
  have : u.columns.length = u.width := rfl
  omega

end Inputs

/-! ## Requests -/

namespace Request

/-- The inputs `u` that were handed in go on in a request: it has a column for each observation and for each step
of the horizon, the former from `leading` columns on, the latter from the end. -/
structure Covers (r : Request) (u : Inputs) (leading : Nat) : Prop where
  width : (r.inputs.width : Int) = r.n + r.horizon
  observed : r.inputs.columns.take r.n = (u.columns.drop leading).take r.n
  future : r.inputs.columns.drop (r.inputs.width - r.horizon.toNat) = u.columns.drop (u.width - r.horizon.toNat)

section Cut

variable {r : Request} {u : Inputs} {y : Series} {before after : List Double}

/-- What becomes of real inputs `u` and of the series `y` that they were handed in with. -/
structure Follows (r : Request) (u : Inputs) (y : Series) (before after : List Double) : Prop where
  trims : y.Trims r.series before after
  length_le : y.length ≤ u.width
  horizon : r.horizon = (u.width - y.length : Nat)
  whole : before = [] ∧ after = [] → r.inputs = u
  cut : ¬ (before = [] ∧ after = []) → r.inputs = u.window before.length r.n

theorem Follows.observed (h : r.Follows u y before after) :
    r.inputs.columns.take r.n = (u.columns.drop before.length).take r.n := by
  by_cases hnil : before = [] ∧ after = []
  · rw [h.whole hnil, hnil.1]
    rfl
  · rw [h.cut hnil]
    show ((u.columns.drop before.length).take r.n).take r.n = _
    rw [List.take_take, Nat.min_self]

theorem Follows.length_eq (h : r.Follows u y before after) : y.length = before.length + r.n + after.length :=
  h.trims.length_eq

theorem Follows.width_of_cut (h : r.Follows u y before after) (hcut : ¬ (before = [] ∧ after = [])) :
    r.inputs.width = r.n := by
  have hle := h.length_le
  have hlen := h.length_eq
  rw [h.cut hcut]
  exact Inputs.width_window (by omega)

theorem Follows.covers_iff (h : r.Follows u y before after) :
    r.Covers u before.length ↔ (before = [] ∧ after = []) ∨ r.horizon = 0 := by
  have hle := h.length_le
  have hlen := h.length_eq
  have hh := h.horizon
  by_cases hnil : before = [] ∧ after = []
  · refine iff_of_true ⟨?_, h.observed, ?_⟩ (Or.inl hnil)
    · rw [h.whole hnil, hh]
      simp only [hnil.1, hnil.2, List.length_nil] at hlen
      omega
    · rw [h.whole hnil]
  -- a window is as wide as the span, so no column is left for a horizon
  · constructor
    · intro hc
      have hw := hc.width
      rw [h.width_of_cut hnil] at hw
      exact Or.inr (by omega)
    · intro hz
      have hzero : r.horizon = 0 := hz.resolve_left hnil
      refine ⟨?_, h.observed, ?_⟩
      · rw [h.width_of_cut hnil, hzero]
        omega
      · rw [hzero]
        show r.inputs.columns.drop r.inputs.columns.length = u.columns.drop u.columns.length
        rw [List.drop_length, List.drop_length]

end Cut

/-- Real inputs of a request follow its series. -/
theorem exists_follows [Text.Reader] {y frequency : Value} {options : List (String × Value)} {r : Request} {u : Inputs}
    (h : (setup y frequency options).result = .ok r) (hu : u.Given options) (hreal : u.isReal = true) :
    ∃ y₀ before after, Series.ofValue y = .ok y₀ ∧ r.Follows u y₀ before after := by
  obtain ⟨st, hst, rfl⟩ := setup_eq_ok_iff.1 h
  obtain ⟨y₀, inputs, horizon, hy, hinputs, hhorizon, hsample⟩ := Sample.prepare_eq_ok_iff.1 hst.sample
  obtain rfl := (hst.given hinputs).unique hu
  obtain ⟨before, after, htrims, hkept, hwhole, hcut⟩ := Sample.exists_trims hsample
  obtain ⟨first, rest, hperiods⟩ := hst.exists_periods
  have hm := hst.compiled
  rw [hperiods] at hm
  have hh := Compiled.horizon_of_ofValue hm
  rw [Sample.horizonFor, if_neg (by simp [hreal])] at hhorizon
  split at hhorizon
  · cases hhorizon
  · next hle =>
    cases hhorizon
    rw [hkept] at hh
    exact ⟨y₀, before, after, hy,
      { trims := htrims
        length_le := Nat.le_of_not_lt hle
        horizon := hh
        whole := hwhole
        cut := fun hnil => hcut hnil hreal }⟩

/-- **The inputs of a request cover its series and its horizon exactly when nothing is cut off the series or the
horizon is zero.** The columns of the observations are right in any case, and the horizon is what the inputs have
beyond the series as it was handed in. -/
theorem covers_inputs_iff [Text.Reader] {y frequency : Value} {options : List (String × Value)} {r : Request}
    {u : Inputs} (h : (setup y frequency options).result = .ok r) (hu : u.Given options) (hreal : u.isReal = true) :
    ∃ y₀ before after, Series.ofValue y = .ok y₀ ∧ y₀.Trims r.series before after ∧
      y₀.length ≤ u.width ∧ r.horizon = (u.width - y₀.length : Nat) ∧
      r.inputs.columns.take r.n = (u.columns.drop before.length).take r.n ∧
      (¬ (before = [] ∧ after = []) → r.inputs.width = r.n) ∧
      (r.Covers u before.length ↔ (before = [] ∧ after = []) ∨ r.horizon = 0) := by
  obtain ⟨y₀, before, after, hy, hf⟩ := exists_follows h hu hreal
  exact ⟨y₀, before, after, hy, hf.trims, hf.length_le, hf.horizon, hf.observed, hf.width_of_cut, hf.covers_iff⟩

/-- Three observations after a missing value, and six columns of inputs: the two columns of the horizon are gone. -/
theorem covers_inputs_iff_missing_head :
    ∃ r u, (setup (.list [.float .nan, .int 1, .int 2, .int 3]) (.int 4)
        [("u", .list [.int 1, .int 2, .int 3, .int 4, .int 5, .int 6])]).result = .ok r ∧
      u.Given [("u", .list [.int 1, .int 2, .int 3, .int 4, .int 5, .int 6])] ∧ u.width = 6 ∧
      r.n = 3 ∧ r.horizon = 2 ∧ r.inputs.width = 3 ∧
      ∃ (y₀ : Series) (before after : List Double), y₀.Trims r.series before after ∧
        before.length + after.length = 1 ∧ ¬ r.Covers u before.length := by
  have hr : (setup (.list [.float .nan, .int 1, .int 2, .int 3]) (.int 4)
      [("u", .list [.int 1, .int 2, .int 3, .int 4, .int 5, .int 6])]).result.toOption.map
        (fun r => (r.n, r.horizon)) = some (3, 2) := by decide +kernel
  have hg : ((Contract.inputs (.list [.int 1, .int 2, .int 3, .int 4, .int 5, .int 6])).bind fun g =>
      Inputs.ofOption? (g.getD none)).toOption.map (·.width) = some 6 := by decide +kernel
  have hsome : (Contract.inputs (.list [.int 1, .int 2, .int 3, .int 4, .int 5, .int 6])).toOption.map
      (·.isSome) = some true := by decide +kernel
  obtain ⟨r, hr, hvalues⟩ := exists_of_toOption_map hr
  obtain ⟨hn, hh⟩ := Prod.mk.inj hvalues
  obtain ⟨u, hu, hwidth⟩ := exists_of_toOption_map hg
  obtain ⟨g, hg, hu⟩ := bind_eq_ok.1 hu
  obtain ⟨g', hg', hsome⟩ := exists_of_toOption_map hsome
  obtain rfl : g = g' := Except.ok.inj (hg.symm.trans hg')
  obtain ⟨g, rfl⟩ := Option.isSome_iff_exists.1 hsome
  have hgiven : u.Given [("u", .list [.int 1, .int 2, .int 3, .int 4, .int 5, .int 6])] := ⟨g, hg, hu⟩
  have hreal : u.isReal = true := by simp [Inputs.isReal, Inputs.idleWidth, hwidth]
  obtain ⟨y₀, before, after, -, htrims, hle, hhorizon, -, hcut, hiff⟩ := covers_inputs_iff hr hgiven hreal
  have hlen := htrims.length_eq
  have hn' : r.series.length = 3 := hn
  have hsum : before.length + after.length = 1 := by omega
  have hne : ¬ (before = [] ∧ after = []) := by
    rintro ⟨rfl, rfl⟩
    simp at hsum
  refine ⟨r, u, hr, hgiven, hwidth, hn, hh, by rw [hcut hne, hn], y₀, before, after, htrims, hsum, ?_⟩
  rw [hiff]
  rintro (hc | hc)
  · exact hne hc
  · omega

end Request

end StructuralSeries
