import StructuralSeries.Proofs.Inputs.Orientation
import StructuralSeries.Proofs.Model.NormalForm
import StructuralSeries.Proofs.Request.Stages
import StructuralSeries.Proofs.Series.Leaks
import StructuralSeries.Proofs.Settings.Kept
import StructuralSeries.Proofs.Settings.Leaks
import StructuralSeries.Proofs.Settings.Names

/-!
# How a set-up fails

A set-up that fails is refused, with one of the four sorts of failure that its contract names, unless a fault leaks
from one of its stages. `Request.Leaks` lists what leaks, by the values of the call: settings, a refused value that
cannot be shown, the critical value, the frequency, the number of harmonics and the series. Nothing else does
(`Request.setup_eq_error_iff`); in particular a model string never leaks.
-/

namespace StructuralSeries

/-- The sorts of failure that the contract of a set-up names. -/
def Category.contractual : List Category := [.invalidArgument, .lengthMismatch, .missingConfiguration, .emptyModel]

/-- They are the sorts of refusals. -/
theorem Fault.category_mem_contractual_iff {e : Fault} :
    e.category ∈ Category.contractual ↔ ∃ why, e = .refused why := by
  cases e with
  | refused why => exact iff_of_true (by cases why <;> simp [category, Refusal.category, Category.contractual]) ⟨why, rfl⟩
  | _ => exact iff_of_false (by simp [Fault.category, Category.contractual]) nofun

/-! ## Frequency and periods -/

theorem frequencyOf_eq_error_iff {v : Value} {e : Fault} (he : ∀ why, e ≠ .refused why) :
    frequencyOf v = .error e ↔ v.IsHuge ∧ Fault.tooLarge = e := by
  unfold frequencyOf
  cases hr : v.real? with
  | none =>
    exact iff_of_false (refused_ne_error he) fun h => Value.not_isHuge_of_real?_eq_none hr h.1
  | some r =>
    dsimp only
    rw [bind_eq_error, or_iff_left, Value.toDouble_of_real? hr]
    rintro ⟨x, -, h⟩
    split at h
    · exact pure_ne_error h
    · exact refused_ne_error he h

namespace Periods

variable {f : Double} {e : Fault}

theorem supplied_ofList_ne_error (he : ∀ why, e ≠ .refused why) (xs : List Double) :
    supplied (.ofList xs) ≠ .error e := by
  intro h
  cases xs with
  | nil => exact refused_ne_error he h
  | cons first rest =>
    rw [supplied_ofList_cons] at h
    split at h
    · exact refused_ne_error he h
    · cases h

theorem harmonics_eq_error_iff :
    harmonics f = .error e ↔
      (f.le .one = false ∧ (periodLimit : Int) ≤ harmonicCount f) ∧ Fault.tooManyPeriods = e := by
  unfold harmonics
  split
  · next h => simp [h]
  · next h =>
    split
    · next hc => simp [h, hc]
    · next hc => simp [hc]

/-- Only the harmonics of a frequency leak: there can be too many of them. -/
theorem derive_eq_error_iff {explicit : Option (List Double)} (he : ∀ why, e ≠ .refused why) :
    derive f (explicit.map Grid.ofList) = .error e ↔
      explicit = none ∧ (f.le .one = false ∧ (periodLimit : Int) ≤ harmonicCount f) ∧ Fault.tooManyPeriods = e := by
  cases explicit with
  | some xs => exact iff_of_false (supplied_ofList_ne_error he xs) nofun
  | none =>
    show (harmonics f >>= fun ps => supplied (.ofList ps)) = _ ↔ _
    rw [bind_eq_error, or_iff_left, harmonics_eq_error_iff]
    · simp
    · rintro ⟨ps, -, h⟩
      exact supplied_ofList_ne_error he ps h

end Periods

/-! ## Samples -/

namespace Sample

variable {e : Fault}

theorem ofSeries_ne_error (he : ∀ why, e ≠ .refused why) (y : Series) (u : Inputs) (horizon : Option Int)
    (silent : Bool) : (ofSeries y u horizon silent).result ≠ .error e := by
  intro h
  unfold ofSeries at h
  split at h
  · exact refused_ne_error he h
  · split at h
    · cases h
    · simp only [Report.result_chain, Report.result_notify, ok_bind, Report.result_pure] at h
      cases h

/-- With a matrix of inputs, a sample leaks what the series leaks. -/
theorem prepare_eq_error_iff [Text.Reader] (he : ∀ why, e ≠ .refused why) {y : Value} {u : Option (Grid Double)}
    (hu : ∀ x ∈ u, x.axes ≤ 2) {asked : Option Int} {silent : Bool} :
    (prepare y u asked silent).result = .error e ↔ y.LeaksAsSeries e := by
  obtain ⟨inputs, hinputs⟩ := Inputs.exists_of_axes_le hu
  rw [result_prepare, bind_eq_error, or_iff_left, Series.ofValue_eq_error_iff he]
  rintro ⟨y₀, -, h⟩
  rw [hinputs, ok_bind] at h
  rcases bind_eq_error.1 h with h | ⟨horizon, -, h⟩
  · unfold horizonFor at h
    split at h
    · cases h
    · split at h
      · exact refused_ne_error he h
      · cases h
  · exact ofSeries_ne_error he _ _ _ _ h

end Sample

/-! ## Settings -/

theorem Supplied.ofOptions_ne_error {options : List (String × Value)} {e : Fault} (he : ∀ why, e ≠ .refused why) :
    ofOptions options ≠ .error e := by
  intro h
  rw [ofOptions_eq] at h
  split at h
  · exact refused_ne_error he h
  · cases h

namespace Request

/-- What a call leaks, by its values. -/
inductive Leaks [Text.Reader] (y frequency : Value) (options : List (String × Value)) : Fault → Prop
  /-- The first setting that does not keep its contract leaks a fault instead of breaking it. -/
  | setting {supplied : Supplied} {before after : List Setting} {s : Setting} {e : Fault}
      (hsupplied : Supplied.ofOptions options = .ok supplied) (hall : Setting.all = before ++ s :: after)
      (hbefore : ∀ t ∈ before, t.verdict (supplied.value t) = .ok true) (h : s.Leaks (supplied.value s) e) :
      Leaks y frequency options e
  /-- The first setting that does not keep its contract breaks it with a value that cannot be shown. -/
  | unshown {supplied : Supplied} {before after : List Setting} {s : Setting}
      (hsupplied : Supplied.ofOptions options = .ok supplied) (hall : Setting.all = before ++ s :: after)
      (hbefore : ∀ t ∈ before, t.verdict (supplied.value t) = .ok true)
      (hbroken : s.verdict (supplied.value s) = .ok false) (h : (supplied.value s).isShowable = false) :
      Leaks y frequency options .tooManyDigits
  /-- All settings keep their contracts, but the critical value is huge. -/
  | outlier {supplied : Supplied} (hsupplied : Supplied.ofOptions options = .ok supplied)
      (hall : ∀ s : Setting, s.verdict (supplied.value s) = .ok true) (h : (supplied.value .outlier).IsHuge) :
      Leaks y frequency options .tooLarge
  /-- The frequency is huge. -/
  | frequency {s : Settings} (hsettings : (Settings.resolve options).result = .ok s) (h : frequency.IsHuge) :
      Leaks y frequency options .tooLarge
  /-- No periods are given, and the frequency has more harmonics than an array can hold. -/
  | harmonics {s : Settings} {f : Double} (hsettings : (Settings.resolve options).result = .ok s)
      (hfrequency : frequencyOf frequency = .ok f) (hperiods : s.periods = none) (hle : f.le .one = false)
      (h : (periodLimit : Int) ≤ harmonicCount f) : Leaks y frequency options .tooManyPeriods
  /-- The series is ragged, or too large. -/
  | series {s : Settings} {f : Double} {periods : Grid Double} {e : Fault}
      (hsettings : (Settings.resolve options).result = .ok s) (hfrequency : frequencyOf frequency = .ok f)
      (hperiods : Periods.derive f (s.periods.map Grid.ofList) = .ok periods) (h : y.LeaksAsSeries e) :
      Leaks y frequency options e

variable {y frequency : Value} {options : List (String × Value)} {e : Fault}

theorem resolve_eq_error_iff_leaks (he : ∀ why, e ≠ .refused why) :
    (Settings.resolve options).result = .error e ↔
      ∃ supplied, Supplied.ofOptions options = .ok supplied ∧
        ((∃ before s after, Setting.all = before ++ s :: after ∧
          (∀ t ∈ before, t.verdict (supplied.value t) = .ok true) ∧
          (s.Leaks (supplied.value s) e ∨ s.verdict (supplied.value s) = .ok false ∧
            (supplied.value s).isShowable = false ∧ Fault.tooManyDigits = e)) ∨
        (∀ s : Setting, s.verdict (supplied.value s) = .ok true) ∧ (supplied.value .outlier).IsHuge ∧
          Fault.tooLarge = e) := by
  rw [Settings.resolve_eq_error_iff, or_iff_right (Supplied.ofOptions_ne_error he)]
  refine exists_congr fun supplied => and_congr_right fun _ => or_congr ?_ ?_
  · have hcheck : ∀ s : Setting, supplied.check s = .error e ↔ s.Leaks (supplied.value s) e ∨
        s.verdict (supplied.value s) = .ok false ∧ (supplied.value s).isShowable = false ∧ Fault.tooManyDigits = e :=
      fun s => by rw [Supplied.check_eq_error_iff, Setting.verdict_eq_error_iff, Supplied.broken_eq_iff he]
    simp only [Supplied.draft_eq_error_iff, hcheck]
  · rw [← Supplied.exists_draft_iff]
    constructor
    · rintro ⟨draft, hd, h⟩
      exact ⟨⟨draft, hd⟩, (Value.toDouble_of_real? (Except.ok.inj hd.outlier)).1 h⟩
    · rintro ⟨⟨draft, hd⟩, h⟩
      exact ⟨draft, hd, (Value.toDouble_of_real? (Except.ok.inj hd.outlier)).2 h⟩

/-- **A set-up that is not refused fails exactly with what leaks.** -/
theorem setup_eq_error_iff [Text.Reader] (hn : WellNamed options) (he : ∀ why, e ≠ .refused why) :
    (setup y frequency options).result = .error e ↔ Leaks y frequency options e := by
  rw [result_setup hn, outcome]
  constructor
  · intro h
    rcases bind_eq_error.1 h with h | ⟨s, hs, h⟩
    · obtain ⟨supplied, hsupplied, h⟩ := (resolve_eq_error_iff_leaks he).1 h
      rcases h with ⟨before, t, after, hall, hbefore, ht | ⟨hbroken, hshow, rfl⟩⟩ | ⟨hall, hhuge, rfl⟩
      · exact .setting hsupplied hall hbefore ht
      · exact .unshown hsupplied hall hbefore hbroken hshow
      · exact .outlier hsupplied hall hhuge
    rcases bind_eq_error.1 h with h | ⟨f, hf, h⟩
    · obtain ⟨hhuge, rfl⟩ := (frequencyOf_eq_error_iff he).1 h
      exact .frequency hs hhuge
    rcases bind_eq_error.1 h with h | ⟨periods, hp, h⟩
    · obtain ⟨hnone, ⟨hle, hlimit⟩, rfl⟩ := (Periods.derive_eq_error_iff he).1 h
      exact .harmonics hs hf hnone hle hlimit
    rcases bind_eq_error.1 h with h | ⟨sample, -, h⟩
    · exact .series hs hf hp ((Sample.prepare_eq_error_iff he (Settings.axes_le_of_resolve hs)).1 h)
    -- with periods along one axis, a model is compiled or refused
    rcases bind_eq_error.1 h with h | ⟨m, -, h⟩
    · obtain ⟨first, rest, rfl, -⟩ := Periods.exists_of_derive_eq_ok hp
      exact absurd h (Compiled.ofValue_ne_error he)
    · exact absurd h pure_ne_error
  · intro h
    cases h with
    | setting hsupplied hall hbefore h =>
      rw [(resolve_eq_error_iff_leaks he).2 ⟨_, hsupplied, Or.inl ⟨_, _, _, hall, hbefore, Or.inl h⟩⟩]
      rfl
    | unshown hsupplied hall hbefore hbroken h =>
      rw [(resolve_eq_error_iff_leaks he).2
        ⟨_, hsupplied, Or.inl ⟨_, _, _, hall, hbefore, Or.inr ⟨hbroken, h, rfl⟩⟩⟩]
      rfl
    | outlier hsupplied hall h =>
      rw [(resolve_eq_error_iff_leaks he).2 ⟨_, hsupplied, Or.inr ⟨hall, h, rfl⟩⟩]
      rfl
    | frequency hs h =>
      rw [hs, ok_bind, (frequencyOf_eq_error_iff he).2 ⟨h, rfl⟩]
      rfl
    | harmonics hs hf hnone hle h =>
      rw [hs, ok_bind, hf, ok_bind, (Periods.derive_eq_error_iff he).2 ⟨hnone, ⟨hle, h⟩, rfl⟩]
      rfl
    | series hs hf hp h =>
      rw [hs, ok_bind, hf, ok_bind, hp, ok_bind,
        (Sample.prepare_eq_error_iff he (Settings.axes_le_of_resolve hs)).2 h]
      rfl

theorem Leaks.category_eq [Text.Reader] (h : Leaks y frequency options e) :
    e.category = .unfitValue ∨ e.category = .overflow := by
  cases h with
  | setting _ _ _ h => exact h.category_eq
  | unshown => exact Or.inl rfl
  | outlier => exact Or.inr rfl
  | frequency => exact Or.inr rfl
  | harmonics => exact Or.inl rfl
  | series _ _ _ h => exact h.category_eq

theorem Leaks.not_mem_contractual [Text.Reader] (h : Leaks y frequency options e) :
    e.category ∉ Category.contractual := by
  rcases h.category_eq with hc | hc
  · rw [hc]
    decide
  · rw [hc]
    decide

/-- The first setting that breaks its contract is refused under its name, if its value can be shown. -/
theorem setup_of_brokenContract [Text.Reader] (hn : WellNamed options) {supplied : Supplied}
    {before after : List Setting} {s : Setting} (hsupplied : Supplied.ofOptions options = .ok supplied)
    (hall : Setting.all = before ++ s :: after) (hbefore : ∀ t ∈ before, t.verdict (supplied.value t) = .ok true)
    (h : s.verdict (supplied.value s) = .ok false) (hshow : (supplied.value s).isShowable = true) :
    (setup y frequency options).result =
      .error (.refused (.brokenContract s.name s.contract (supplied.value s).shown)) := by
  have hcheck := Supplied.check_eq_error_iff.2 (Or.inr ⟨h, Supplied.broken_of_isShowable hshow⟩)
  have hdraft := Supplied.draft_eq_error_iff.2 ⟨before, s, after, hall, hbefore, hcheck⟩
  have hresolve := Settings.resolve_eq_error_iff.2 (Or.inr ⟨supplied, hsupplied, Or.inl hdraft⟩)
  rw [result_setup hn, outcome, hresolve]
  rfl

/-- **A set-up fails outside its contract exactly where a fault leaks**, and then over a value that does not fit or
is too large. The first setting that breaks its contract is refused under its name, if its value can be shown. -/
theorem fails_outside_contract_iff [Text.Reader] (hn : WellNamed options) (y frequency : Value) :
    (∀ e, ((setup y frequency options).result = .error e ∧ e.category ∉ Category.contractual) ↔
      Leaks y frequency options e) ∧
    (∀ e, Leaks y frequency options e → e.category = .unfitValue ∨ e.category = .overflow) ∧
    ∀ (supplied : Supplied) (before after : List Setting) (s : Setting),
      Supplied.ofOptions options = .ok supplied → Setting.all = before ++ s :: after →
      (∀ t ∈ before, t.verdict (supplied.value t) = .ok true) → s.verdict (supplied.value s) = .ok false →
      (supplied.value s).isShowable = true →
        (setup y frequency options).result =
          .error (.refused (.brokenContract s.name s.contract (supplied.value s).shown)) := by
  refine ⟨fun e => ⟨?_, fun h => ?_⟩, fun e h => h.category_eq, fun _ _ _ _ h₁ h₂ h₃ h₄ h₅ =>
    setup_of_brokenContract hn h₁ h₂ h₃ h₄ h₅⟩
  · rintro ⟨h, hc⟩
    exact (setup_eq_error_iff hn fun why hw => hc (Fault.category_mem_contractual_iff.2 ⟨why, hw⟩)).1 h
  · have hc := h.not_mem_contractual
    exact ⟨(setup_eq_error_iff hn fun why hw => hc (Fault.category_mem_contractual_iff.2 ⟨why, hw⟩)).2 h, hc⟩

/-- Initial parameters that nest in a ragged way leak, where a broken contract should be. -/
theorem fails_outside_contract_iff_ragged :
    WellNamed [("p0", .list [.list [.int 1], .list [.int 1, .int 2]])] ∧
      (setup (.list [.int 1, .int 2, .int 3]) (.int 4)
        [("p0", .list [.list [.int 1], .list [.int 1, .int 2]])]).result = .error .ragged ∧
      Fault.category .ragged ∉ Category.contractual := by
  have hn : WellNamed [("p0", .list [.list [.int 1], .list [.int 1, .int 2]])] := by
    simp [WellNamed, positional]
  have hkept : ∀ t ∈ [Setting.inputs, .periods, .model, .horizon, .outlier, .unitRootTest, .stepwise, .verbose,
      .concentrated, .arma],
      t.verdict (Supplied.value [("p0", .list [.list [.int 1], .list [.int 1, .int 2]])] t) = .ok true := by
    simp only [List.forall_mem_cons]
    exact ⟨rfl, rfl, rfl, rfl, rfl, rfl, rfl, rfl, rfl, rfl, fun t ht => absurd ht List.not_mem_nil⟩
  have hleak : Leaks (.list [.int 1, .int 2, .int 3]) (.int 4)
      [("p0", .list [.list [.int 1], .list [.int 1, .int 2]])] .ragged := by
    have hall : Setting.all = [Setting.inputs, .periods, .model, .horizon, .outlier, .unitRootTest, .stepwise,
      .verbose, .concentrated, .arma] ++ .initial :: [.fixed, .criterion] := rfl
    exact .setting rfl hall hkept (.ragged rfl)
  obtain ⟨hresult, hc⟩ := ((fails_outside_contract_iff hn _ _).1 _).2 hleak
  exact ⟨hn, hresult, hc⟩

end Request

end StructuralSeries
