import StructuralSeries.Proofs.Request.Stages
import StructuralSeries.Proofs.Settings.Verbose

/-!
# Set-ups that are not verbose

A call that is not verbose gives the request that the verbose one gives, but for being verbose, or fails as that one
does; it says the same warnings and no notice. As an equation of reports, it is the verbose call hushed
(`Request.setup_withVerbose`), and this holds of each stage.
-/

namespace StructuralSeries

namespace Sample

theorem hushed_ofSeries (y : Series) (u : Inputs) (horizon : Option Int) (silent : Bool) :
    (ofSeries y u horizon silent).hushed = ofSeries y u horizon true := by
  unfold ofSeries
  cases y.trim? with
  | none => rfl
  | some span =>
    dsimp only
    split
    · rfl
    · rfl

/-- A sample that is prepared in silence is prepared as it is otherwise. -/
theorem hushed_prepare [Text.Reader] (y : Value) (u : Option (Grid Double)) (asked : Option Int) (silent : Bool) :
    (prepare y u asked silent).hushed = prepare y u asked true := by
  unfold prepare
  simp only [Report.hushed_chain, Report.hushed_liftM, hushed_ofSeries]

end Sample

namespace Request

/-- The request of the same call if it is not verbose. -/
def quieted (r : Request) : Request := { r with verbose := false }

theorem ofSettings_quieted [Text.Reader] (s : Settings) (y frequency : Value) :
    ofSettings s.quieted y frequency = (quieted <$> ofSettings s y frequency).hushed := by
  have hsilent : (!s.quieted.verbose) = true := rfl
  unfold ofSettings
  rw [hsilent]
  simp only [map_bind, Report.hushed_chain, Report.hushed_liftM, Sample.hushed_prepare]
  refine bind_congr fun f => bind_congr fun periods => bind_congr fun sample => ?_
  -- the notice on the horizon is all that is hushed behind the sample
  have hsame : overruled s.quieted.horizon sample.horizon = overruled s.horizon sample.horizon := rfl
  rw [hsame]
  cases overruled s.horizon sample.horizon with
  | none =>
    simp only [map_bind, Report.hushed_chain, Report.hushed_liftM]
    rfl
  | some h =>
    simp only [map_bind, Report.hushed_chain, Report.hushed_liftM, Report.hushed_notify]
    rfl

theorem verbose_of_setup [Text.Reader] {y frequency : Value} {options : List (String × Value)} {r : Request}
    (h : (setup y frequency options).result = .ok r) :
    ∃ s, (Settings.resolve options).result = .ok s ∧ r.verbose = s.verbose := by
  obtain ⟨st, hst, rfl⟩ := setup_eq_ok_iff.1 h
  exact ⟨st.settings, hst.settings, rfl⟩

/-- **A call that is not verbose is the verbose call hushed.** -/
theorem setup_withVerbose [Text.Reader] {before after : List (String × Value)} {v w : Value} (hv : v.bool? = some true)
    (hw : w.bool? = some false) (y frequency : Value) :
    setup y frequency (withVerbose before after w) =
      (quieted <$> setup y frequency (withVerbose before after v)).hushed := by
  unfold setup
  rw [names_withVerbose, names_withVerbose]
  cases (before.map Prod.fst ++ Setting.verbose.name :: after.map Prod.fst).find? (· ∈ positional) with
  | some name => rfl
  | none =>
    show Settings.resolve (withVerbose before after w) >>= (fun s => ofSettings s y frequency) =
      (quieted <$> (Settings.resolve (withVerbose before after v) >>= fun s => ofSettings s y frequency)).hushed
    rw [Settings.resolve_withVerbose hv hw, bind_map_left, map_bind, Report.hushed_chain, Settings.hushed_resolve]
    exact bind_congr fun s => ofSettings_quieted s y frequency

end Request

end StructuralSeries
