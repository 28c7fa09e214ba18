import StructuralSeries.Proofs.Outcome
import StructuralSeries.Request

/-!
# The stages of a set-up

A set-up says things on the way, but its outcome is a chain of five stages: settings, frequency, periods, sample,
model. It gives a request exactly when all five succeed (`setup_eq_ok_iff`), and the request is made of what they
give.

## Shape

* `Request.outcome` — the chain, without what is said
* `Stages` — what the stages give, `Stages.Of` which calls they belong to
* `Periods.exists_of_derive_eq_ok`, `Sample.prepare_eq_ok_iff` — the two stages that are chains themselves
-/

namespace StructuralSeries

/-! ## The chain -/

namespace Request

/-- The outcome of a set-up, whatever is said on the way. -/
def outcome [Text.Reader] (y frequency : Value) (options : List (String × Value)) : Except Fault Request := do
  let s ← (Settings.resolve options).result
  let f ← frequencyOf frequency
  let periods ← Periods.derive f (s.periods.map Grid.ofList)
  let sample ← (Sample.prepare y s.inputs s.horizon (!s.verbose)).result
  let m ← Compiled.ofValue (.text s.model) periods sample.horizon s.initial s.fixed
  return assemble s sample periods.data m

/-- Whether no option has the name of an argument that is given by position. -/
def WellNamed (options : List (String × Value)) : Prop := ∀ o ∈ options, o.1 ∉ positional

theorem find?_positional {options : List (String × Value)} :
    (options.map Prod.fst).find? (· ∈ positional) = none ↔ WellNamed options := by
  simp [WellNamed, List.find?_eq_none]

theorem result_ofSettings [Text.Reader] (s : Settings) (y frequency : Value) :
    (ofSettings s y frequency).result = (do
      let f ← frequencyOf frequency
      let periods ← Periods.derive f (s.periods.map Grid.ofList)
      let sample ← (Sample.prepare y s.inputs s.horizon (!s.verbose)).result
      let m ← Compiled.ofValue (.text s.model) periods sample.horizon s.initial s.fixed
      return assemble s sample periods.data m) := by
  unfold ofSettings
  simp only [Report.result_chain, Report.result_liftM]
  refine bind_congr fun f => bind_congr fun periods => bind_congr fun sample => ?_
  -- a notice on the horizon does not change what follows
  cases overruled s.horizon sample.horizon with
  | none => simp only [Report.result_chain, Report.result_liftM, Report.result_pure]; rfl
  | some g => simp only [Report.result_chain, Report.result_liftM, Report.result_notify, ok_bind]; rfl

/-- **The outcome of a set-up is the chain of its stages.** -/
theorem result_setup [Text.Reader] {options : List (String × Value)} (h : WellNamed options) (y frequency : Value) :
    (setup y frequency options).result = outcome y frequency options := by
  unfold setup
  rw [find?_positional.2 h]
  simp only [Report.result_chain]
  exact bind_congr fun s => result_ofSettings s y frequency

theorem wellNamed_of_ok [Text.Reader] {y frequency : Value} {options : List (String × Value)} {r : Request}
    (h : (setup y frequency options).result = .ok r) : WellNamed options := by
  rw [← find?_positional]
  cases hf : (options.map Prod.fst).find? (· ∈ positional) with
  | none => rfl
  | some name =>
    unfold setup at h
    rw [hf] at h
    cases h

end Request

/-! ## The stages -/

/-- What the stages of a set-up give. -/
structure Stages where
  settings : Settings
  frequency : Double
  periods : Grid Double
  sample : Sample
  compiled : Compiled Int (List Double)

/-- The stages of a call, if none of them fails. -/
structure Stages.Of [Text.Reader] (st : Stages) (y frequency : Value) (options : List (String × Value)) : Prop where
  wellNamed : Request.WellNamed options
  settings : (Settings.resolve options).result = .ok st.settings
  frequency : frequencyOf frequency = .ok st.frequency
  periods : Periods.derive st.frequency (st.settings.periods.map Grid.ofList) = .ok st.periods
  sample : (Sample.prepare y st.settings.inputs st.settings.horizon (!st.settings.verbose)).result = .ok st.sample
  compiled : Compiled.ofValue (.text st.settings.model) st.periods st.sample.horizon st.settings.initial
    st.settings.fixed = .ok st.compiled

namespace Request

/-- **A set-up gives a request exactly when its stages succeed**, and the request is made of what they give. -/
theorem setup_eq_ok_iff [Text.Reader] {y frequency : Value} {options : List (String × Value)} {r : Request} :
    (setup y frequency options).result = .ok r ↔
      ∃ st : Stages, st.Of y frequency options ∧ assemble st.settings st.sample st.periods.data st.compiled = r := by
  constructor
  · intro h
    have hn := wellNamed_of_ok h
    rw [result_setup hn, outcome] at h
    obtain ⟨s, hs, h⟩ := bind_eq_ok.1 h
    obtain ⟨f, hf, h⟩ := bind_eq_ok.1 h
    obtain ⟨periods, hp, h⟩ := bind_eq_ok.1 h
    obtain ⟨sample, hsample, h⟩ := bind_eq_ok.1 h
    obtain ⟨m, hm, h⟩ := bind_eq_ok.1 h
    exact ⟨⟨s, f, periods, sample, m⟩, ⟨hn, hs, hf, hp, hsample, hm⟩, pure_eq_ok.1 h⟩
  · rintro ⟨st, hst, rfl⟩
    rw [result_setup hst.wellNamed, outcome, hst.settings, ok_bind, hst.frequency, ok_bind, hst.periods, ok_bind,
      hst.sample, ok_bind, hst.compiled]
    rfl

end Request

/-! ## Periods -/

namespace Periods

theorem supplied_ofList_cons (first : Double) (rest : List Double) :
    supplied (.ofList (first :: rest)) =
      if first.isNaN then .error (.refused .noPeriods) else .ok (.ofList (first :: rest)) := by
  unfold supplied
  rw [if_neg (by simp [Grid.size, Grid.ofList])]
  show (if first.isNaN = true then _ else _) = _
  split
  · rfl
  · rfl

/-- The periods of a model lie along one axis, and there is a first one, which is a number. -/
theorem exists_of_derive_eq_ok {f : Double} {explicit : Option (List Double)} {g : Grid Double}
    (h : derive f (explicit.map Grid.ofList) = .ok g) :
    ∃ first rest, g = .ofList (first :: rest) ∧ first.isNaN = false := by
  have key : ∀ xs : List Double, supplied (.ofList xs) = .ok g →
      ∃ first rest, g = .ofList (first :: rest) ∧ first.isNaN = false := by
    intro xs h
    cases xs with
    | nil => cases h
    | cons first rest =>
      rw [supplied_ofList_cons] at h
      split at h
      · cases h
      · next hn => exact ⟨first, rest, (Except.ok.inj h).symm, by simpa using hn⟩
  cases explicit with
  | some xs => exact key xs h
  | none =>
    obtain ⟨ps, -, h⟩ := bind_eq_ok.1 (show (harmonics f >>= fun ps => supplied (.ofList ps)) = .ok g from h)
    exact key ps h

end Periods

theorem Stages.Of.exists_periods [Text.Reader] {st : Stages} {y frequency : Value} {options : List (String × Value)}
    (h : st.Of y frequency options) : ∃ first rest, st.periods = .ofList (first :: rest) := by
  obtain ⟨first, rest, hp, -⟩ := Periods.exists_of_derive_eq_ok h.periods
  exact ⟨first, rest, hp⟩

/-! ## Samples -/

namespace Sample

/-- The outcome of a sample is a chain too. -/
theorem result_prepare [Text.Reader] (y : Value) (u : Option (Grid Double)) (asked : Option Int) (silent : Bool) :
    (prepare y u asked silent).result = (do
      let y ← Series.ofValue y
      let inputs ← Inputs.ofOption? u
      let horizon ← horizonFor inputs y.length asked
      (ofSeries y inputs horizon silent).result) := by
  unfold prepare
  simp only [Report.result_chain, Report.result_liftM]

theorem prepare_eq_ok_iff [Text.Reader] {y : Value} {u : Option (Grid Double)} {asked : Option Int} {silent : Bool}
    {sample : Sample} :
    (prepare y u asked silent).result = .ok sample ↔
      ∃ y₀ inputs horizon, Series.ofValue y = .ok y₀ ∧ Inputs.ofOption? u = .ok inputs ∧
        horizonFor inputs y₀.length asked = .ok horizon ∧
        (ofSeries y₀ inputs horizon silent).result = .ok sample := by
  rw [result_prepare]
  constructor
  · intro h
    obtain ⟨y₀, hy, h⟩ := bind_eq_ok.1 h
    obtain ⟨inputs, hu, h⟩ := bind_eq_ok.1 h
    obtain ⟨horizon, hh, h⟩ := bind_eq_ok.1 h
    exact ⟨y₀, inputs, horizon, hy, hu, hh, h⟩
  · rintro ⟨y₀, inputs, horizon, hy, hu, hh, h⟩
    rw [hy, ok_bind, hu, ok_bind, hh, ok_bind, h]

end Sample

end StructuralSeries
