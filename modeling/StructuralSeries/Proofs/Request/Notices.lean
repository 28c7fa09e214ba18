import StructuralSeries.Proofs.Request.Inputs
import StructuralSeries.Proofs.Request.Verbose
import StructuralSeries.Proofs.Sample.Prepared
import StructuralSeries.Proofs.Settings.Horizon

/-!
# Notices of a set-up

A verbose set-up says up to two notices: how many missing values it trims off the ends of the series, and that the
inputs overrule the horizon that was asked for. Both presuppose that the call has come so far that there is a series
to trim (`Preparation.Of`), the second one also that the series can be trimmed. A failure of a later stage does not take
them back.

* `Request.notices_of_preparation`, `Request.exists_preparation` — the notices of a call
* `Request.verbose_only_prints` — all that the option `verbose` does
-/

namespace StructuralSeries

/-! ## Calls that come to trim their series -/

/-- What a call has read when it comes to trim its series: the settings, the series as it was handed in, and the inputs
with time along the columns. -/
structure Preparation where
  settings : Settings
  series : Series
  inputs : Inputs

/-- The call comes to trim its series: its options and periods are in order, and its series and inputs, which are not
too short for it. -/
structure Preparation.Of [Text.Reader] (p : Preparation) (y frequency : Value) (options : List (String × Value)) :
    Prop where
  wellNamed : Request.WellNamed options
  settings : (Settings.resolve options).result = .ok p.settings
  periods : ∃ f periods, frequencyOf frequency = .ok f ∧
    Periods.derive f (p.settings.periods.map Grid.ofList) = .ok periods
  series : Series.ofValue y = .ok p.series
  inputs : Inputs.ofOption? p.settings.inputs = .ok p.inputs
  fits : 2 < p.inputs.width → p.series.length ≤ p.inputs.width

/-- The notice that missing values are trimmed, which takes a missing value at an end and an observation. -/
def Preparation.Trims (p : Preparation) (notice : Notice) : Prop :=
  ∃ z before after, p.series.Trims z before after ∧
    ((p.series.values.head p.series.nonempty).isNaN = true ∨
      (p.series.values.getLast p.series.nonempty).isNaN = true) ∧
    notice = .trimmed before.length after.length

/-- The notice that the inputs overrule the horizon `v` of the caller. -/
def Preparation.Overrules (p : Preparation) (v : Value) (notice : Notice) : Prop :=
  (∃ x ∈ p.series.values, x.isNaN = false) ∧ 2 < p.inputs.width ∧
    ∃ x k, v.AsksFor x k ∧ (p.inputs.width : Int) - p.series.length ≠ k ∧
      notice = .horizonFromInputs (p.inputs.width - p.series.length)

namespace Preparation

variable {p q : Preparation} {y frequency : Value} {options : List (String × Value)}

theorem Of.unique [Text.Reader] (hp : p.Of y frequency options) (hq : q.Of y frequency options) : p = q := by
  obtain ⟨settings, series, inputs⟩ := p
  obtain ⟨settings', series', inputs'⟩ := q
  have hsettings := hp.settings.symm.trans hq.settings
  have hseries := hp.series.symm.trans hq.series
  cases hsettings
  cases hseries
  have hinputs := hp.inputs.symm.trans hq.inputs
  cases hinputs
  rfl

/-- The horizon that the call would have, if its series can be trimmed. -/
def horizon (p : Preparation) : Option Int :=
  if p.inputs.isReal then some ((p.inputs.width - p.series.length : Nat) : Int) else p.settings.horizon

theorem Of.horizonFor [Text.Reader] (h : p.Of y frequency options) :
    Sample.horizonFor p.inputs p.series.length p.settings.horizon = .ok p.horizon := by
  unfold horizon
  rw [Sample.horizonFor_eq_ok_iff]
  cases hreal : p.inputs.isReal with
  | false => exact Or.inl ⟨rfl, rfl⟩
  | true => exact Or.inr ⟨rfl, h.fits (of_decide_eq_true hreal), rfl⟩

theorem Of.prepare_eq [Text.Reader] (h : p.Of y frequency options) (silent : Bool) :
    Sample.prepare y p.settings.inputs p.settings.horizon silent =
      Sample.ofSeries p.series p.inputs p.horizon silent := by
  unfold Sample.prepare
  rw [h.series, Report.liftM_ok_chain, h.inputs, Report.liftM_ok_chain, h.horizonFor, Report.liftM_ok_chain]

/-! ## Both notices -/

/-- The notice on what is trimmed off the series. -/
def trimNotice? (p : Preparation) : Option Notice :=
  p.series.trim?.bind fun span =>
    if span.leading = 0 ∧ span.trailing = 0 then none else some (.trimmed span.leading span.trailing)

/-- The notice on the horizon, for which the series has to be trimmed first. -/
def horizonNotice? (p : Preparation) : Option Notice :=
  p.series.trim?.bind fun _ => (Request.overruled p.settings.horizon p.horizon).map .horizonFromInputs

theorem trimNotice?_eq_some_iff {n : Notice} : p.trimNotice? = some n ↔ p.Trims n := by
  constructor
  · intro h
    obtain ⟨span, hspan, h⟩ := Option.bind_eq_some_iff.1 h
    obtain ⟨before, after, htrims, hleading, htrailing⟩ := Series.trim?_eq_some_iff.1 hspan
    split at h
    · cases h
    · next hne =>
      refine ⟨span.series, before, after, htrims, ?_, by rw [← hleading, ← htrailing]; exact (Option.some.inj h).symm⟩
      -- with both ends observed nothing would be cut off
      by_contra hends
      rw [not_or, Bool.not_eq_true, Bool.not_eq_true] at hends
      obtain ⟨rfl, rfl⟩ := Series.EndsObserved.eq_nil ⟨hends.1, hends.2⟩ htrims
      exact hne ⟨hleading, htrailing⟩
  · rintro ⟨z, before, after, htrims, hends, rfl⟩
    have hspan : p.series.trim? = some ⟨before.length, z, after.length⟩ :=
      Series.trim?_eq_some_iff.2 ⟨before, after, htrims, rfl, rfl⟩
    rw [trimNotice?, hspan, Option.bind_some, if_neg]
    rw [List.length_eq_zero_iff, List.length_eq_zero_iff]
    rintro ⟨rfl, rfl⟩
    have hobserved := htrims.endsObserved
    rw [htrims.eq_of_nil] at hobserved
    rcases hends with h | h
    · rw [hobserved.head] at h
      cases h
    · rw [hobserved.last] at h
      cases h

theorem overruled_eq_some_iff {asked got : Option Int} {h : Int} :
    Request.overruled asked got = some h ↔ got = some h ∧ ∃ k, asked = some k ∧ h ≠ k := by
  rcases asked with _ | k
  · simp [Request.overruled]
  · rcases got with _ | g
    · simp [Request.overruled]
    · show (if g = k then none else some g) = some h ↔ _
      by_cases hg : g = k
      · rw [if_pos hg]
        refine iff_of_false nofun ?_
        rintro ⟨hgot, _, hasked, hne⟩
        cases hgot
        cases hasked
        exact hne hg
      · rw [if_neg hg]
        refine ⟨fun hgot => ⟨hgot, k, rfl, ?_⟩, And.left⟩
        cases hgot
        exact hg

/-- A horizon of the settings is one that the caller asks for. -/
theorem Of.horizon_eq_some_iff [Text.Reader] (h : p.Of y frequency options) {k : Int} :
    p.settings.horizon = some k ↔ ∃ x, ((options.lookup Setting.horizon.name).getD .absent).AsksFor x k := by
  rcases Settings.horizon_cases h.settings with ⟨hopen, hnone⟩ | ⟨x, k', hasks, hsome⟩
  · refine iff_of_false (by rw [hnone]; exact nofun) ?_
    rintro ⟨x, hasks⟩
    exact hasks.not_asksForNone hopen
  · rw [hsome, Option.some.injEq]
    refine ⟨?_, fun ⟨_, hasks'⟩ => hasks.unique hasks'⟩
    rintro rfl
    exact ⟨x, hasks⟩

/-- A horizon that is overruled is one with another whole part, unless both the inputs and a horizon of fixed width are
out of all proportion. -/
theorem Of.ne_iff_wholePart?_ne [Text.Reader] (h : p.Of y frequency options) {v : Value} {x : Value.Real} {k : Int}
    (hasks : v.AsksFor x k) (hlt : 2 < p.inputs.width)
    (hbound : p.inputs.width ≤ Double.exactBound ∨ ∀ n, x = .word n → n ≤ Double.exactBound) :
    (p.inputs.width : Int) - p.series.length ≠ k ↔
      x.wholePart? ≠ some ((p.inputs.width : Int) - p.series.length) := by
  rcases hbound with hcolumns | hword
  · have hpos := p.series.length_pos
    rw [← Int.ofNat_sub (h.fits hlt), ne_comm]
    exact not_congr (hasks.eq_iff_wholePart?_eq_some (by omega))
  · rw [hasks.wholePart?_eq_some hword, ne_comm, Ne, Ne, Option.some.injEq]

theorem Of.horizonNotice?_eq_some_iff [Text.Reader] (h : p.Of y frequency options) {n : Notice} :
    p.horizonNotice? = some n ↔ p.Overrules ((options.lookup Setting.horizon.name).getD .absent) n := by
  have hobserved : (∃ span, p.series.trim? = some span) ↔ ∃ x ∈ p.series.values, x.isNaN = false := by
    rw [← Option.ne_none_iff_exists', Ne, Series.trim?_eq_none_iff]
    simp
  have hreal : p.inputs.isReal = true ↔ 2 < p.inputs.width := decide_eq_true_iff
  rw [horizonNotice?, Option.bind_eq_some_iff]
  constructor
  · rintro ⟨span, hspan, hn⟩
    obtain ⟨g, hg, rfl⟩ := Option.map_eq_some_iff.1 hn
    obtain ⟨hgot, k, hk, hne⟩ := overruled_eq_some_iff.1 hg
    have hwide : p.inputs.isReal = true := by
      by_contra hidle
      rw [horizon, if_neg hidle, hk] at hgot
      exact hne (Option.some.inj hgot).symm
    rw [horizon, if_pos hwide, Option.some.injEq] at hgot
    subst hgot
    obtain ⟨x, hasks⟩ := h.horizon_eq_some_iff.1 hk
    rw [Int.ofNat_sub (h.fits (hreal.1 hwide))] at hne ⊢
    exact ⟨hobserved.1 ⟨span, hspan⟩, hreal.1 hwide, x, k, hasks, hne, rfl⟩
  · rintro ⟨hx, hlt, x, k, hasks, hne, rfl⟩
    obtain ⟨span, hspan⟩ := hobserved.2 hx
    refine ⟨span, hspan, Option.map_eq_some_iff.2 ⟨_, overruled_eq_some_iff.2 ⟨?_, k, ?_, hne⟩, rfl⟩⟩
    · rw [horizon, if_pos (hreal.2 hlt), Int.ofNat_sub (h.fits hlt)]
    · exact h.horizon_eq_some_iff.2 ⟨x, hasks⟩

end Preparation

namespace Sample

/-- A sample that is prepared with a notice has read its series and its inputs. -/
theorem exists_of_mem_notices [Text.Reader] {y : Value} {g : Option (Grid Double)} {asked : Option Int} {silent : Bool}
    {n : Notice} (h : n ∈ (prepare y g asked silent).notices) :
    ∃ y₀ u horizon, Series.ofValue y = .ok y₀ ∧ Inputs.ofOption? g = .ok u ∧
      horizonFor u y₀.length asked = .ok horizon := by
  unfold prepare at h
  obtain ⟨y₀, hy, h⟩ := Report.mem_notices_liftM_chain h
  obtain ⟨u, hu, h⟩ := Report.mem_notices_liftM_chain h
  obtain ⟨horizon, hh, -⟩ := Report.mem_notices_liftM_chain h
  exact ⟨y₀, u, horizon, hy, hu, hh⟩

/-- A series is trimmed with a notice if anything is cut off. -/
theorem notices_ofSeries (y : Series) (u : Inputs) (horizon : Option Int) :
    (ofSeries y u horizon false).notices = (y.trim?.bind fun span =>
      if span.leading = 0 ∧ span.trailing = 0 then none
      else some (Notice.trimmed span.leading span.trailing)).toList := by
  unfold ofSeries
  cases y.trim? with
  | none => rfl
  | some span =>
    rw [Option.bind_some]
    dsimp only
    split
    · rfl
    · rfl

theorem exists_ofSeries {y : Series} {span : Series.Span} (h : y.trim? = some span) (u : Inputs)
    (horizon : Option Int) (silent : Bool) :
    ∃ sample, (ofSeries y u horizon silent).result = .ok sample ∧ sample.horizon = horizon := by
  cases hr : (ofSeries y u horizon silent).result with
  | error e =>
    obtain ⟨hnone, -⟩ := ofSeries_eq_error_iff.1 hr
    rw [h] at hnone
    cases hnone
  | ok sample =>
    obtain ⟨-, -, -, hkept, -⟩ := exists_trims hr
    exact ⟨sample, rfl, hkept⟩

end Sample

namespace Request

/-- **The notices of a call that comes to trim its series**, whatever becomes of it later. -/
theorem notices_of_preparation [Text.Reader] {p : Preparation} {y frequency : Value} {options : List (String × Value)}
    (h : p.Of y frequency options) (hverbose : p.settings.verbose = true) :
    (setup y frequency options).notices = p.trimNotice?.toList ++ p.horizonNotice?.toList := by
  obtain ⟨f, periods, hf, hp⟩ := h.periods
  have hsetup : (setup y frequency options).notices = (ofSettings p.settings y frequency).notices := by
    unfold setup
    rw [find?_positional.2 h.wellNamed]
    show (Settings.resolve options >>= fun s => ofSettings s y frequency).notices = _
    rw [Report.notices_chain_of_ok h.settings, Settings.notices_resolve, List.nil_append]
  rw [hsetup]
  unfold ofSettings
  rw [hverbose, Bool.not_true, hf, Report.liftM_ok_chain, hp, Report.liftM_ok_chain, h.prepare_eq,
    Preparation.trimNotice?, ← Sample.notices_ofSeries p.series p.inputs p.horizon, Preparation.horizonNotice?]
  cases ht : p.series.trim? with
  | none =>
    rw [Report.notices_chain_of_error (Sample.ofSeries_eq_error_iff.2 ⟨ht, rfl⟩)]
    exact (List.append_nil _).symm
  | some span =>
    obtain ⟨sample, hsample, hkept⟩ := Sample.exists_ofSeries ht p.inputs p.horizon false
    rw [Report.notices_chain_of_ok hsample, hkept, Option.bind_some]
    refine congrArg _ ?_
    -- the model that follows says no more
    cases overruled p.settings.horizon p.horizon with
    | none => exact Report.notices_liftM_pure _ _
    | some g => exact congrArg (List.cons _) (Report.notices_liftM_pure _ _)

/-- A call that says anything has come to trim its series. -/
theorem exists_preparation [Text.Reader] {y frequency : Value} {options : List (String × Value)} {n : Notice}
    (h : n ∈ (setup y frequency options).notices) : ∃ p : Preparation, p.Of y frequency options := by
  unfold setup at h
  cases hfind : (options.map Prod.fst).find? (· ∈ positional) with
  | some name =>
    rw [hfind] at h
    cases h
  | none =>
    rw [hfind] at h
    have h : n ∈ (Settings.resolve options >>= fun s => ofSettings s y frequency).notices := h
    rcases Report.mem_notices_chain h with h | ⟨s, hs, h⟩
    · rw [Settings.notices_resolve] at h
      cases h
    · unfold ofSettings at h
      obtain ⟨f, hf, h⟩ := Report.mem_notices_liftM_chain h
      obtain ⟨periods, hp, h⟩ := Report.mem_notices_liftM_chain h
      -- the notice is one of the sample, or one on the horizon of a sample that is there
      have hsample : ∃ y₀ u horizon, Series.ofValue y = .ok y₀ ∧ Inputs.ofOption? s.inputs = .ok u ∧
          Sample.horizonFor u y₀.length s.horizon = .ok horizon := by
        rcases Report.mem_notices_chain h with h | ⟨sample, hsample, -⟩
        · exact Sample.exists_of_mem_notices h
        · obtain ⟨y₀, u, horizon, hy, hu, hh, -⟩ := Sample.prepare_eq_ok_iff.1 hsample
          exact ⟨y₀, u, horizon, hy, hu, hh⟩
      obtain ⟨y₀, u, horizon, hy, hu, hh⟩ := hsample
      refine ⟨⟨s, y₀, u⟩, find?_positional.1 hfind, hs, ⟨f, periods, hf, hp⟩, hy, hu, fun hlt => ?_⟩
      rcases Sample.horizonFor_eq_ok_iff.1 hh with ⟨hidle, -⟩ | ⟨-, hle, -⟩
      · exact absurd (decide_eq_true hlt) (Bool.eq_false_iff.1 hidle)
      · exact hle

/-- **What the option `verbose` does.** Without it a call gives the same request but for that field, or fails alike,
with the same warnings and without a notice. With it the notices are those on what is trimmed and on the horizon, in
this order, whatever becomes of the call afterwards: the former exactly if the call comes to trim a series that is not
all missing and is missing an end, the latter exactly if the series can be trimmed, the caller asks for a horizon, and
inputs of more than two columns leave another one. That is one that is not the whole part of what the caller asks for,
for up to `2 ^ 53` columns and for any horizon but one of fixed width past `2 ^ 53`. -/
theorem verbose_only_prints [Text.Reader] (y frequency : Value) (before after : List (String × Value)) {v w : Value}
    (hv : v.bool? = some true) (hw : w.bool? = some false) :
    (setup y frequency (withVerbose before after w)).result =
        (setup y frequency (withVerbose before after v)).result.map quieted ∧
      (∀ r, (setup y frequency (withVerbose before after v)).result = .ok r → r.verbose = true) ∧
      (setup y frequency (withVerbose before after w)).warnings =
        (setup y frequency (withVerbose before after v)).warnings ∧
      (setup y frequency (withVerbose before after w)).notices = [] ∧
      ∃ trimmed overruled : Option Notice,
        (setup y frequency (withVerbose before after v)).notices = trimmed.toList ++ overruled.toList ∧
        (∀ n, trimmed = some n ↔ ∃ p : Preparation, p.Of y frequency (withVerbose before after v) ∧ p.Trims n) ∧
        (∀ n, overruled = some n ↔ ∃ p : Preparation, p.Of y frequency (withVerbose before after v) ∧
          p.Overrules (((withVerbose before after v).lookup Setting.horizon.name).getD .absent) n) ∧
        ∀ (p : Preparation) (x : Value.Real) (k : Int), p.Of y frequency (withVerbose before after v) →
          (((withVerbose before after v).lookup Setting.horizon.name).getD .absent).AsksFor x k →
          2 < p.inputs.width → (p.inputs.width ≤ Double.exactBound ∨ ∀ n, x = .word n → n ≤ Double.exactBound) →
            ((p.inputs.width : Int) - p.series.length ≠ k ↔
              x.wholePart? ≠ some ((p.inputs.width : Int) - p.series.length)) := by
  have hhushed : setup y frequency (withVerbose before after w) =
      (quieted <$> setup y frequency (withVerbose before after v)).hushed := setup_withVerbose hv hw y frequency
  refine ⟨?_, ?_, ?_, ?_, ?_⟩
  · rw [hhushed]
    exact Report.result_map _ _
  · intro r hr
    obtain ⟨s, hs, heq⟩ := verbose_of_setup hr
    rw [heq, Settings.verbose_of_resolve hv hs]
  · rw [hhushed]
    exact Report.warnings_map _ _
  · rw [hhushed]
    rfl
  · by_cases hp : ∃ p : Preparation, p.Of y frequency (withVerbose before after v)
    · obtain ⟨p, hp⟩ := hp
      refine ⟨p.trimNotice?, p.horizonNotice?,
        notices_of_preparation hp (Settings.verbose_of_resolve hv hp.settings), fun n => ?_, fun n => ?_,
        fun q x k hq => hq.ne_iff_wholePart?_ne⟩
      · rw [Preparation.trimNotice?_eq_some_iff]
        exact ⟨fun h => ⟨p, hp, h⟩, fun ⟨q, hq, h⟩ => hp.unique hq ▸ h⟩
      · rw [hp.horizonNotice?_eq_some_iff]
        exact ⟨fun h => ⟨p, hp, h⟩, fun ⟨q, hq, h⟩ => hp.unique hq ▸ h⟩
    · refine ⟨none, none, List.eq_nil_iff_forall_not_mem.2 fun n hn => hp (exists_preparation hn), fun n => ?_,
        fun n => ?_, fun q x k hq => hq.ne_iff_wholePart?_ne⟩
      · exact iff_of_false nofun fun ⟨p, h, _⟩ => hp ⟨p, h⟩
      · exact iff_of_false nofun fun ⟨p, h, _⟩ => hp ⟨p, h⟩

/-- A call that fails for its model has said by then that a value is trimmed and that the inputs leave a horizon of
three and not of nine. -/
theorem verbose_only_prints_failing :
    ∃ (y : Value) (before after : List (String × Value)) (p : Preparation),
      y = .list [.float .nan, .int 1, .int 2, .int 3] ∧
      before = [("u", .list [.int 1, .int 2, .int 3, .int 4, .int 5, .int 6, .int 7]), ("h", .int 9)] ∧
      after = [("model", .text "none/none/none/none")] ∧
      (setup y (.int 4) (withVerbose before after (.bool true))).notices = [.trimmed 1 0, .horizonFromInputs 3] ∧
      (setup y (.int 4) (withVerbose before after (.bool false))).notices = [] ∧
      (∃ e, (setup y (.int 4) (withVerbose before after (.bool true))).result = .error e ∧
        (setup y (.int 4) (withVerbose before after (.bool false))).result = .error e) ∧
      p.Of y (.int 4) (withVerbose before after (.bool true)) ∧ p.Trims (.trimmed 1 0) ∧
      p.Overrules (.int 9) (.horizonFromInputs 3) := by
  obtain ⟨y, hy⟩ : ∃ y, y = Value.list [.float .nan, .int 1, .int 2, .int 3] := ⟨_, rfl⟩
  obtain ⟨before, hbefore⟩ : ∃ before : List (String × Value),
    before = [("u", .list [.int 1, .int 2, .int 3, .int 4, .int 5, .int 6, .int 7]), ("h", .int 9)] := ⟨_, rfl⟩
  obtain ⟨after, hafter⟩ : ∃ after : List (String × Value), after = [("model", .text "none/none/none/none")] := ⟨_, rfl⟩
  have hsaid : (setup y (.int 4) (withVerbose before after (.bool true))).notices =
      [.trimmed 1 0, .horizonFromInputs 3] := by
    subst hy hbefore hafter
    decide +kernel
  have hfails : (setup y (.int 4) (withVerbose before after (.bool true))).result.toOption.isNone = true := by
    subst hy hbefore hafter
    decide +kernel
  have hasked : ((withVerbose before after (.bool true)).lookup Setting.horizon.name).getD .absent = .int 9 := by
    subst hbefore
    rfl
  obtain ⟨hresult, -, -, hquiet, trimmed, overruled, hnotices, htrimmed, hoverruled, -⟩ :=
    verbose_only_prints y (.int 4) before after (v := .bool true) (w := .bool false) rfl rfl
  rw [hsaid] at hnotices
  rw [hasked] at hoverruled
  rcases trimmed with _ | first <;> rcases overruled with _ | second <;> cases hnotices
  obtain ⟨p, hp, htrims⟩ := (htrimmed _).1 rfl
  obtain ⟨q, hq, hoverrules⟩ := (hoverruled _).1 rfl
  obtain rfl := hp.unique hq
  refine ⟨y, before, after, p, hy, hbefore, hafter, hsaid, hquiet, ?_, hp, htrims, hoverrules⟩
  cases hr : (setup y (.int 4) (withVerbose before after (.bool true))).result with
  | ok r =>
    rw [hr] at hfails
    cases hfails
  | error e =>
    rw [hr] at hresult
    exact ⟨e, rfl, hresult⟩

end Request

end StructuralSeries
