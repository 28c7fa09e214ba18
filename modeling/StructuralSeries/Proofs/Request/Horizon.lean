import StructuralSeries.Proofs.Request.WellFormed
import StructuralSeries.Proofs.Settings.Horizon

/-!
# The horizon of a request

Real inputs fix the horizon: it is the number of their columns beyond the series as it was handed in, and a series
that is longer than they are is refused. Without real inputs the horizon is the one that the caller asked for, cut
down to its whole part, or the default one if the caller left it open (`Request.horizon_law`).

The whole part is exact but for numbers of fixed width past `2 ^ 53`, which go through the nearest double
(`Value.Real.ComesTo`).
-/

namespace StructuralSeries

namespace Sample

variable {y : Value} {y₀ : Series} {g : Option (Grid Double)} {u : Inputs} {asked : Option Int} {silent : Bool}

/-- **A sample is refused for its lengths exactly if real inputs are shorter than the series.** -/
theorem prepare_lengthMismatch_iff [Text.Reader] (hy : Series.ofValue y = .ok y₀) (hu : Inputs.ofOption? g = .ok u) :
    (∃ e, (prepare y g asked silent).result = .error e ∧ e.category = .lengthMismatch) ↔
      2 < u.width ∧ u.width < y₀.length := by
  have hreal : u.isReal = true ↔ 2 < u.width := decide_eq_true_iff
  rw [result_prepare, hy, ok_bind, hu, ok_bind]
  constructor
  · rintro ⟨e, he, hc⟩
    rcases bind_eq_error.1 he with he | ⟨horizon, -, he⟩
    · obtain ⟨⟨hr, hlt⟩, -⟩ := horizonFor_eq_error_iff.1 he
      exact ⟨hreal.1 hr, hlt⟩
    -- a series that is missing as a whole is refused as an argument
    · obtain ⟨-, rfl⟩ := ofSeries_eq_error_iff.1 he
      cases hc
  · rintro ⟨hr, hlt⟩
    refine ⟨.refused .inputsTooShort, ?_, rfl⟩
    exact bind_eq_error.2 (Or.inl (horizonFor_eq_error_iff.2 ⟨⟨hreal.2 hr, hlt⟩, rfl⟩))

/-- The horizon of a sample: what real inputs leave beyond the series, and else the one that was asked for. -/
theorem horizon_of_prepare_eq_ok [Text.Reader] {sample : Sample} (h : (prepare y g asked silent).result = .ok sample) :
    ∃ y₀, Series.ofValue y = .ok y₀ ∧
      (2 < Inputs.columnCount g → y₀.length ≤ Inputs.columnCount g ∧
        sample.horizon = some ((Inputs.columnCount g : Int) - y₀.length)) ∧
      (¬ 2 < Inputs.columnCount g → sample.horizon = asked) := by
  obtain ⟨y₀, u, horizon, hy, hu, hhorizon, hsample⟩ := prepare_eq_ok_iff.1 h
  obtain ⟨-, -, -, hkept, -⟩ := exists_trims hsample
  have hreal : u.isReal = true ↔ 2 < u.width := decide_eq_true_iff
  rw [← Inputs.width_eq_columnCount hu]
  refine ⟨y₀, hy, ?_⟩
  rcases horizonFor_eq_ok_iff.1 hhorizon with ⟨hidle, rfl⟩ | ⟨hr, hle, rfl⟩
  · have hnot : ¬ 2 < u.width := fun hlt => by simp [hreal.2 hlt] at hidle
    exact ⟨fun hlt => absurd hlt hnot, fun _ => hkept⟩
  · refine ⟨fun _ => ⟨hle, ?_⟩, fun hnot => absurd (hreal.1 hr) hnot⟩
    rw [hkept, Int.ofNat_sub hle]

end Sample

/-- The whole number `h` that a horizon comes to. It is the whole part exactly if no number of fixed width is changed
by the way through its nearest double, and none is up to `2 ^ 53`. -/
structure Value.Real.ComesTo (x : Value.Real) (h : Int) : Prop where
  wholePart_iff : x.wholePart? = some h ↔ ∀ n, x = .word n → (Double.ofInt n).floor? = some n
  of_word : ∀ n, x = .word n → (Double.ofInt n).floor? = some h
  of_le : (∀ n, x = .word n → n ≤ 2 ^ 53) → x.wholePart? = some h

theorem Value.AsksFor.comesTo {v : Value} {x : Value.Real} {h : Int} (ha : v.AsksFor x h) : x.ComesTo h where
  wholePart_iff := ha.wholePart?_eq_some_iff
  of_word := by
    rintro n rfl
    exact ha.floor?_of_word
  of_le := ha.wholePart?_eq_some

namespace Request

/-- The horizon of a request for a series of `n` values, inputs in the grid `g` and the horizon `v` of the caller. -/
structure HasHorizon (r : Request) (n : Nat) (g : Option (Grid Double)) (v : Value) : Prop where
  nonneg : 0 ≤ r.horizon
  of_inputs : 2 < Inputs.columnCount g → n ≤ Inputs.columnCount g ∧ r.horizon = Inputs.columnCount g - n
  of_caller : ¬ 2 < Inputs.columnCount g →
    (v.AsksForNone ∧ r.horizon = 18) ∨ ∃ x, v.real? = some x ∧ v.isNaN = false ∧ x.ComesTo r.horizon

theorem GivesInputs.axes_le {options : List (String × Value)} {g : Option (Grid Double)} (h : GivesInputs options g) :
    ∀ x ∈ g, x.axes ≤ 2 := by
  rintro x rfl
  exact (Contract.inputs_eq_some_iff.1 h).2.2

theorem hasHorizon_of_setup [Text.Reader] {y frequency : Value} {y₀ : Series} {options : List (String × Value)}
    {r : Request} (hy : Series.ofValue y = .ok y₀) (h : (setup y frequency options).result = .ok r) :
    ∃ g, GivesInputs options g ∧
      r.HasHorizon y₀.length g ((options.lookup Setting.horizon.name).getD .absent) := by
  obtain ⟨st, hst, rfl⟩ := setup_eq_ok_iff.1 h
  obtain ⟨y₁, hy₁, hinputs, hcaller⟩ := Sample.horizon_of_prepare_eq_ok hst.sample
  cases hy.symm.trans hy₁
  refine ⟨st.settings.inputs, givesInputs_of_resolve hst.settings, hst.horizon_nonneg, ?_, ?_⟩
  · intro hlt
    refine ⟨(hinputs hlt).1, ?_⟩
    show st.compiled.horizon = _
    rw [hst.horizon_eq, (hinputs hlt).2]
    rfl
  · intro hnot
    have hh : st.compiled.horizon = st.settings.horizon.getD defaultHorizon := by rw [hst.horizon_eq, hcaller hnot]
    show (_ ∧ st.compiled.horizon = 18) ∨ ∃ x : Value.Real, _ ∧ _ ∧ x.ComesTo st.compiled.horizon
    rcases Settings.horizon_cases hst.settings with ⟨hopen, hnone⟩ | ⟨x, k, hasks, hk⟩
    · rw [hh, hnone]
      exact Or.inl ⟨hopen, rfl⟩
    · rw [hh, hk]
      exact Or.inr ⟨x, hasks.real, hasks.isNaN, hasks.comesTo⟩

/-- **The horizon law.** A series is refused for its length exactly if the inputs have more than two columns and fewer
than it has values. Otherwise more than two columns leave the horizon, whatever horizon a caller asks for; without them
it is the caller's, or eighteen if that is left open. -/
theorem horizon_law [Text.Reader] {y : Value} {y₀ : Series} {g : Option (Grid Double)} (hy : Series.ofValue y = .ok y₀)
    (haxes : ∀ x ∈ g, x.axes ≤ 2) :
    (∀ (asked : Option Int) (silent : Bool),
        (∃ e, (Sample.prepare y g asked silent).result = .error e ∧ e.category = .lengthMismatch) ↔
          2 < Inputs.columnCount g ∧ Inputs.columnCount g < y₀.length) ∧
      (∀ (frequency : Value) (options : List (String × Value)) (r : Request),
        (setup y frequency options).result = .ok r →
          ∃ g', GivesInputs options g' ∧
            r.HasHorizon y₀.length g' ((options.lookup Setting.horizon.name).getD .absent)) ∧
      ∀ (frequency frequency' : Value) (options options' : List (String × Value)) (r r' : Request),
        (setup y frequency options).result = .ok r → (setup y frequency' options').result = .ok r' →
          GivesInputs options g → GivesInputs options' g → 2 < Inputs.columnCount g → r.horizon = r'.horizon := by
  refine ⟨?_, fun _ _ _ => hasHorizon_of_setup hy, ?_⟩
  · intro asked silent
    obtain ⟨u, hu⟩ := Inputs.exists_of_axes_le haxes
    rw [Sample.prepare_lengthMismatch_iff hy hu, Inputs.width_eq_columnCount hu]
  · intro frequency frequency' options options' r r' h h' hg hg' hlt
    obtain ⟨g₁, hg₁, hr⟩ := hasHorizon_of_setup hy h
    obtain ⟨g₂, hg₂, hr'⟩ := hasHorizon_of_setup hy h'
    obtain rfl := hg₁.unique hg
    obtain rfl := hg₂.unique hg'
    rw [(hr.of_inputs hlt).2, (hr'.of_inputs hlt).2]

/-- Three columns are too few for four values. A horizon of fixed width that no double holds loses one, and six columns
of inputs overrule any horizon. -/
theorem horizon_law_wide_word :
    (∃ e, (Sample.prepare (.list [.int 1, .int 2, .int 3, .int 4]) (some (.ofList [.one, .one, .one])) (some 7)
        true).result = .error e ∧ e.category = .lengthMismatch) ∧
      (∃ r, (setup (.list [.int 1, .int 2, .int 3]) (.int 4)
          [("h", .fixed (.int64 9007199254740993))]).result = .ok r ∧ r.horizon = 9007199254740992 ∧
        Value.Real.wholePart? (.word 9007199254740993) = some 9007199254740993 ∧
        Value.Real.wholePart? (.word 9007199254740993) ≠ some r.horizon ∧
        Value.Real.ComesTo (.word 9007199254740993) r.horizon) ∧
      ∃ r r', (setup (.list [.int 1, .int 2, .int 3]) (.int 4)
          [("u", .list [.int 1, .int 2, .int 3, .int 4, .int 5, .int 6])]).result = .ok r ∧
        (setup (.list [.int 1, .int 2, .int 3]) (.int 4)
          [("u", .list [.int 1, .int 2, .int 3, .int 4, .int 5, .int 6]), ("h", .int 9)]).result = .ok r' ∧
        r.horizon = 3 ∧ r'.horizon = 3 := by
  have hy : (Series.ofValue (.list [.int 1, .int 2, .int 3])).toOption.map Series.length = some 3 := by decide +kernel
  obtain ⟨y₀, hy, -⟩ := exists_of_toOption_map hy
  refine ⟨?_, ?_, ?_⟩
  · have hfour : (Series.ofValue (.list [.int 1, .int 2, .int 3, .int 4])).toOption.map Series.length = some 4 := by
      decide +kernel
    obtain ⟨y₁, hfour, hlen⟩ := exists_of_toOption_map hfour
    obtain ⟨hmismatch, -, -⟩ := horizon_law (g := some (.ofList [.one, .one, .one])) hfour (by rintro x ⟨⟩; decide)
    refine (hmismatch _ _).2 ⟨by decide, ?_⟩
    rw [hlen]
    decide
  · have hr : (setup (.list [.int 1, .int 2, .int 3]) (.int 4)
        [("h", .fixed (.int64 9007199254740993))]).result.toOption.map horizon = some 9007199254740992 := by
      decide +kernel
    obtain ⟨r, hr, hh⟩ := exists_of_toOption_map hr
    obtain ⟨-, hrequest, -⟩ := horizon_law (g := none) hy nofun
    obtain ⟨g, hg, hlaw⟩ := hrequest _ _ _ hr
    have hnone : GivesInputs [("h", .fixed (.int64 9007199254740993))] none := rfl
    obtain rfl := hg.unique hnone
    refine ⟨r, hr, hh, rfl, ?_, ?_⟩
    · rw [hh]
      decide
    · rcases hlaw.of_caller (by decide) with ⟨hopen, -⟩ | ⟨x, hx, -, hcomes⟩
      · rcases hopen with hopen | hopen
        · cases hopen
        · cases hopen
      · cases hx
        exact hcomes
  · have hr : (setup (.list [.int 1, .int 2, .int 3]) (.int 4)
        [("u", .list [.int 1, .int 2, .int 3, .int 4, .int 5, .int 6])]).result.toOption.map horizon = some 3 := by
      decide +kernel
    have hr' : (setup (.list [.int 1, .int 2, .int 3]) (.int 4)
        [("u", .list [.int 1, .int 2, .int 3, .int 4, .int 5, .int 6]), ("h", .int 9)]).result.toOption.map
        (fun _ => ()) = some () := by decide +kernel
    obtain ⟨r, hr, hh⟩ := exists_of_toOption_map hr
    obtain ⟨r', hr', -⟩ := exists_of_toOption_map hr'
    obtain ⟨g, hg, hlaw⟩ := hasHorizon_of_setup hy hr
    have hwide : 2 < Inputs.columnCount g := by
      by_contra hnot
      rcases hlaw.of_caller hnot with ⟨-, hdefault⟩ | ⟨x, hx, -⟩
      · rw [hh] at hdefault
        cases hdefault
      · cases hx
    obtain ⟨-, -, htwo⟩ := horizon_law hy hg.axes_le
    exact ⟨r, r', hr, hr', hh, (htwo _ _ _ _ _ _ hr hr' hg hg hwide).symm.trans hh⟩

end Request

end StructuralSeries
