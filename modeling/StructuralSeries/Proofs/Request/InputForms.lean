import StructuralSeries.Proofs.Inputs.Turned
import StructuralSeries.Proofs.Request.Stages
import StructuralSeries.Proofs.Settings.Leaks
import StructuralSeries.Proofs.Settings.Names
import StructuralSeries.Proofs.Value.Arrays

/-!
# Inputs in every form

A set-up reads its inputs only as a table with time along the longer side. So a matrix and the turned matrix give the
same set-up, a line gives what the row and the column of its numbers give, and whatever stands for no inputs gives what
a call without the option gives (`Request.setup_inputs_either_way`): the same request or the same failure, with the same
notices and warnings.

The settings of two calls that differ in their inputs differ in nothing else (`Settings.resolve_insertInputs`), and the
later stages only see the oriented table (`Request.ofSettings_withInputs`).
-/

namespace StructuralSeries

/-! ## Values of inputs -/

namespace Contract

variable {v : Value} {g : Grid Double}

/-- Numbers along one axis or two are inputs. -/
theorem inputs_of_doubles? (h : v.doubles? = .ok (some g)) (hne : g.axes ≠ 0) (hle : g.axes ≤ 2) :
    inputs v = .ok (some (some g)) := by
  refine inputs_eq_some_iff.2 ⟨?_, h, hle⟩
  have hread : (v.elements >>= fun es => es.grid.traverse Value.toDouble) = .ok g := Value.doubles_of_doubles? h
  obtain ⟨es, hes, hg⟩ := bind_eq_ok.1 hread
  have hshape : g.shape = es.grid.shape := (Grid.traverse_eq_ok_iff.1 hg).1
  have haxes : es.grid.axes ≠ 0 := by
    unfold Grid.axes at hne ⊢
    rwa [← hshape]
  have habsent : v ≠ .absent := by
    rintro rfl
    cases hes
    exact haxes rfl
  rw [noInputs_eq habsent, hes]
  simp [Except.map, haxes]

end Contract

namespace Value

/-- A value that stands for no inputs: nothing, a single number that is not a number, or an array without cells. -/
inductive GivesNoInputs (v : Value) : Prop
  | absent (h : v = .absent)
  | notANumber {es : Elements} (hes : v.elements? = some es) (haxes : es.grid.axes = 0)
      (hnan : es.startsWithNaN = true)
  | empty {es : Elements} (hes : v.elements? = some es) (haxes : es.grid.axes ≤ 2) (hsize : es.grid.size = 0)

variable {v : Value}

theorem GivesNoInputs.of_isNaN (h : v.isNaN = true) : v.GivesNoInputs := by
  cases v with
  | float x => exact .notANumber rfl rfl h
  | complex z => exact .notANumber rfl rfl h
  | fixed x =>
    cases x with
    | float64 x => exact .notANumber rfl rfl h
    | float32 x => exact .notANumber rfl rfl h
    | complex128 z => exact .notANumber rfl rfl h
    | _ => cases h
  | _ => cases h

/-- An array without cells is read as one. -/
theorem doubles?_of_size_eq_zero {es : Elements} (hes : v.elements? = some es) (hsize : es.grid.size = 0) :
    ∃ g, v.doubles? = .ok (some g) ∧ g.shape = es.grid.shape ∧ g.size = 0 := by
  have hdata : es.grid.data = [] := List.length_eq_zero_iff.1 hsize
  have hvolume : volume es.grid.shape = 0 := by rw [← es.grid.data_length, hdata]; rfl
  have hread : v.doubles = .ok ⟨es.grid.shape, [], hvolume.symm⟩ := by
    unfold doubles
    rw [elements_eq_ok_iff.2 hes]
    refine Grid.traverse_eq_ok_iff.2 ⟨rfl, ?_⟩
    rw [hdata]
    rfl
  -- text and truth values have a cell
  have hnone : v.text? = none ∧ v.bool? = none := by
    cases v with
    | text _ | bool _ | fixed _ =>
      cases hes
      cases hdata
    | _ => exact ⟨rfl, rfl⟩
  exact ⟨⟨es.grid.shape, [], hvolume.symm⟩, doubles?_of_doubles hread hnone.1 hnone.2, rfl, rfl⟩

/-- What stands for no inputs is read as none, whatever it is. -/
theorem GivesNoInputs.exists_inputs (h : v.GivesNoInputs) :
    ∃ g, Contract.inputs v = .ok (some g) ∧ Inputs.ofOption? g = .ok Inputs.idle := by
  cases h with
  | absent h =>
    subst h
    exact ⟨none, rfl, rfl⟩
  | notANumber hes haxes hnan =>
    refine ⟨none, ?_, rfl⟩
    by_cases habsent : v = .absent
    · subst habsent
      rfl
    · unfold Contract.inputs
      rw [Contract.noInputs_eq habsent, elements_eq_ok_iff.2 hes]
      simp [Except.map, haxes, hnan, pure, Except.pure]
  | empty hes haxes hsize =>
    obtain ⟨g, hg, hshape, hsize'⟩ := doubles?_of_size_eq_zero hes hsize
    have hne : g.axes ≠ 0 := by
      intro hzero
      have hnil : g.shape = [] := List.length_eq_zero_iff.1 hzero
      have hlength := g.data_length
      rw [hnil] at hlength
      exact absurd (hsize'.symm.trans hlength) (by decide)
    have hle : g.axes ≤ 2 := by
      unfold Grid.axes
      rw [hshape]
      exact haxes
    exact ⟨some g, Contract.inputs_of_doubles? hg hne hle, Inputs.ofGrid?_of_size_eq_zero hsize'⟩

end Value

/-! ## Settings that differ in their inputs -/

/-- Options with a value for the inputs among them. -/
def Supplied.insertInputs (before after : List (String × Value)) (v : Value) : List (String × Value) :=
  before ++ (Setting.inputs.name, v) :: after

def Draft.withInputs (d : Draft) (g : Option (Grid Double)) : Draft := { d with inputs := g }

def Settings.withInputs (s : Settings) (g : Option (Grid Double)) : Settings := { s with inputs := g }

theorem Draft.settle_withInputs (d : Draft) (g : Option (Grid Double)) :
    (d.withInputs g).settle = (fun s : Settings => s.withInputs g) <$> d.settle := by
  unfold settle
  simp only [map_bind, map_pure]
  rfl

namespace Supplied

/-- Drafts of calls that agree on all other settings agree but for the inputs. -/
theorem draft_withInputs {supplied supplied' : Supplied} {g g' : Option (Grid Double)}
    (hother : ∀ s, s ≠ .inputs → supplied'.value s = supplied.value s)
    (hg : Contract.inputs (supplied.value .inputs) = .ok (some g))
    (hg' : Contract.inputs (supplied'.value .inputs) = .ok (some g')) :
    supplied'.draft = (fun d : Draft => d.withInputs g') <$> supplied.draft := by
  have hrequire : ∀ {α : Type} (s : Setting) (read : Value → Except Fault (Option α)), s ≠ .inputs →
      supplied'.require s read = supplied.require s read := by
    intro α s read hs
    rw [require, require, hother s hs, broken_congr (hother s hs)]
  unfold draft
  rw [require_eq_ok_iff.2 hg, require_eq_ok_iff.2 hg', ok_bind, ok_bind]
  simp (disch := decide) only [hrequire, map_bind, map_pure]
  rfl

variable {before after : List (String × Value)} {v : Value}

theorem canonical_insertInputs (before after : List (String × Value)) (v : Value) :
    canonical (insertInputs before after v) =
      canonical before ++ (Setting.inputs.name, v) :: canonical after :=
  canonical_insert (Setting.canonicalName_name .inputs)

end Supplied

namespace Settings

open Supplied

variable {before after : List (String × Value)} {v : Value} {g : Option (Grid Double)}

/-- **A call with inputs has the settings of the call without them**, but for the inputs, with the same warnings, or
fails as it does. -/
theorem resolve_insertInputs (hfresh : Setting.inputs.name ∉ names (before ++ after))
    (hv : Contract.inputs v = .ok (some g)) :
    resolve (insertInputs before after v) = (fun s : Settings => s.withInputs g) <$> resolve (before ++ after) := by
  have hother := ne_of_not_mem_names (s := .inputs) (by decide) (by decide) hfresh
  obtain ⟨hb, -⟩ := fresh_canonical hother
  have hnames : nameRefusal? (names (canonical (insertInputs before after v))) =
      nameRefusal? (names (canonical (before ++ after))) :=
    nameRefusal?_insert_option (Setting.canonicalName_name .inputs) hother
  cases hn : nameRefusal? (names (canonical (before ++ after))) with
  | some why =>
    rw [resolve_of_nameRefusal? hn, resolve_of_nameRefusal? (hnames.trans hn)]
    rfl
  | none =>
    have hsame : ∀ s, s ≠ .inputs →
        (canonical (insertInputs before after v)).value s = (canonical (before ++ after)).value s := by
      intro s hs
      rw [canonical_insertInputs, canonical_append]
      exact value_insert_of_ne hs
    have habsent : Contract.inputs ((canonical (before ++ after)).value .inputs) = .ok (some none) := by
      rw [value_eq_default (not_mem_names_canonical hother)]
      rfl
    have hgiven : Contract.inputs ((canonical (insertInputs before after v)).value .inputs) = .ok (some g) := by
      rw [canonical_insertInputs]
      exact (congrArg Contract.inputs (value_insert_self hb)).trans hv
    rw [resolve_of_names hn, resolve_of_names (hnames.trans hn), draft_withInputs hsame habsent hgiven]
    cases (canonical (before ++ after)).draft with
    | error e => rfl
    | ok d =>
      show (d.withInputs g).settle = _ <$> d.settle
      exact d.settle_withInputs g

end Settings

/-! ## Set-ups that differ in their inputs -/

namespace Request

open Supplied

variable {before after : List (String × Value)} {v w : Value} {g g' : Option (Grid Double)}

/-- The later stages see the oriented table alone. -/
theorem ofSettings_withInputs [Text.Reader] (h : Inputs.ofOption? g = Inputs.ofOption? g') (s : Settings)
    (y frequency : Value) : ofSettings (s.withInputs g) y frequency = ofSettings (s.withInputs g') y frequency := by
  have hprepare : ∀ asked silent, Sample.prepare y g asked silent = Sample.prepare y g' asked silent := by
    intro asked silent
    unfold Sample.prepare
    rw [h]
  unfold ofSettings
  simp only [Settings.withInputs, hprepare]
  rfl

theorem find?_insertInputs (before after : List (String × Value)) (v : Value) :
    ((insertInputs before after v).map Prod.fst).find? (· ∈ positional) =
      ((before ++ after).map Prod.fst).find? (· ∈ positional) := by
  have hnot : Setting.inputs.name ∉ positional := by decide
  simp only [insertInputs, List.map_append, List.map_cons, List.find?_append, List.find?_cons, decide_eq_false hnot]

theorem setup_insertInputs [Text.Reader] (hfresh : Setting.inputs.name ∉ names (before ++ after))
    (hv : Contract.inputs v = .ok (some g)) (hw : Contract.inputs w = .ok (some g'))
    (h : Inputs.ofOption? g = Inputs.ofOption? g') (y frequency : Value) :
    setup y frequency (insertInputs before after v) = setup y frequency (insertInputs before after w) := by
  unfold setup
  rw [find?_insertInputs, find?_insertInputs, Settings.resolve_insertInputs hfresh hv,
    Settings.resolve_insertInputs hfresh hw]
  simp only [bind_map_left, ofSettings_withInputs h]

/-- Inputs that are written as absent need not be written. -/
theorem setup_insertInputs_absent [Text.Reader] (hfresh : Setting.inputs.name ∉ names (before ++ after))
    (y frequency : Value) :
    setup y frequency (insertInputs before after .absent) = setup y frequency (before ++ after) := by
  have hresolve : Settings.resolve (insertInputs before after .absent) = Settings.resolve (before ++ after) := by
    refine Settings.resolve_insert_default (s := .inputs) (by decide) fun o ho heq => ?_
    rw [Setting.canonicalName_eq_iff (by decide) (by decide)] at heq
    exact hfresh (heq ▸ List.mem_map_of_mem ho)
  unfold setup
  rw [find?_insertInputs, hresolve]

/-- **Inputs mean the same in every form.**

Whatever the other options are, a matrix that is no square and the turned matrix give the same set-up; a line gives the
set-up of a single row and of a single column with its numbers; and nothing, a number that is not a number, and an array
without cells give the set-up of the call without inputs. The set-ups agree in the request or the failure, and in all
that is said on the way. -/
theorem setup_inputs_either_way [Text.Reader] (hfresh : Setting.inputs.name ∉ names (before ++ after))
    (y frequency : Value) :
    (∀ (v w : Value) (g g' : Grid Double) (tall wide : Nat), v.doubles? = .ok (some g) → w.doubles? = .ok (some g') →
      g.IsTurned g' tall wide → tall ≠ wide →
      setup y frequency (insertInputs before after v) = setup y frequency (insertInputs before after w)) ∧
    (∀ (v w : Value) (xs : List Double) (g : Grid Double), v.doubles? = .ok (some (.ofList xs)) →
      w.doubles? = .ok (some g) → g.data = xs → g.shape = [1, xs.length] ∨ g.shape = [xs.length, 1] →
      setup y frequency (insertInputs before after v) = setup y frequency (insertInputs before after w)) ∧
    (∀ v : Value, v.GivesNoInputs →
      setup y frequency (insertInputs before after v) = setup y frequency (before ++ after)) := by
  refine ⟨?turned, ?line, ?none⟩
  case turned =>
    intro v w g g' tall wide hv hw hg hne
    have hv := Contract.inputs_of_doubles? hv (by simp [Grid.axes, hg.shape]) (by simp [Grid.axes, hg.shape])
    have hw := Contract.inputs_of_doubles? hw (by simp [Grid.axes, hg.turned]) (by simp [Grid.axes, hg.turned])
    exact setup_insertInputs hfresh hv hw (Inputs.ofGrid?_turned hg hne) y frequency
  case line =>
    intro v w xs g hv hw hdata hshape
    have hv := Contract.inputs_of_doubles? hv (by simp [Grid.axes, Grid.ofList]) (by simp [Grid.axes, Grid.ofList])
    rcases hshape with hrow | hcolumn
    · have hw := Contract.inputs_of_doubles? hw (by simp [Grid.axes, hrow]) (by simp [Grid.axes, hrow])
      exact setup_insertInputs hfresh hv hw (Inputs.ofGrid?_line hrow hdata) y frequency
    · have hw := Contract.inputs_of_doubles? hw (by simp [Grid.axes, hcolumn]) (by simp [Grid.axes, hcolumn])
      exact setup_insertInputs hfresh hv hw (Inputs.ofGrid?_column hcolumn hdata) y frequency
  case none =>
    intro v hv
    obtain ⟨g, hg, hidle⟩ := hv.exists_inputs
    rw [setup_insertInputs hfresh hg (show Contract.inputs .absent = .ok (some none) from rfl) hidle,
      setup_insertInputs_absent hfresh]

/-- Three rows of two numbers and the table of three columns, the first column alone, and a number that is not a
number. -/
theorem setup_inputs_either_way_three :
    ((setup (.list [.float .one, .float .zero]) (.int 4) (insertInputs [("h", .int 3)] []
        (.list [.list [.float .one, .float .zero], .list [.float .zero, .float .zero],
          .list [.float .one, .float .one]]))).result.toOption.map Request.horizon = some 1 ∧
      setup (.list [.float .one, .float .zero]) (.int 4) (insertInputs [("h", .int 3)] []
        (.list [.list [.float .one, .float .zero], .list [.float .zero, .float .zero],
          .list [.float .one, .float .one]])) =
      setup (.list [.float .one, .float .zero]) (.int 4) (insertInputs [("h", .int 3)] []
        (.numbers .array (.float64 ⟨[2, 3], [.one, .zero, .one, .zero, .zero, .one], rfl⟩)))) ∧
    setup (.list [.float .one, .float .zero]) (.int 4) (insertInputs [("h", .int 3)] []
        (.tuple [.float .one, .float .zero, .float .one])) =
      setup (.list [.float .one, .float .zero]) (.int 4) (insertInputs [("h", .int 3)] []
        (.list [.list [.float .one], .list [.float .zero], .list [.float .one]])) ∧
    setup (.list [.float .one, .float .zero]) (.int 4) (insertInputs [("h", .int 3)] [] (.float .nan)) =
      setup (.list [.float .one, .float .zero]) (.int 4) [("h", .int 3)] := by
  have hfresh : Setting.inputs.name ∉ names ([("h", .int 3)] ++ []) := by decide
  obtain ⟨hturned, hline, hnone⟩ := setup_inputs_either_way hfresh (.list [.float .one, .float .zero]) (.int 4)
  have hrows : (Value.list [.list [.float .one, .float .zero], .list [.float .zero, .float .zero],
      .list [.float .one, .float .one]]).doubles? =
        .ok (some ⟨[3, 2], [.one, .zero, .zero, .zero, .one, .one], rfl⟩) := rfl
  have hcell : ∀ i < 3, ∀ j < 2, [Double.one, .zero, .one, .zero, .zero, .one][j * 3 + i]? =
      [Double.one, .zero, .zero, .zero, .one, .one][i * 2 + j]? := by decide +kernel
  refine ⟨⟨by decide +kernel, ?_⟩, ?_, ?_⟩
  · exact hturned _ _ _ _ 3 2 hrows (Value.doubles?_float64 _ _) ⟨rfl, rfl, hcell⟩ (by decide)
  · exact hline _ _ [.one, .zero, .one] ⟨[3, 1], [.one, .zero, .one], rfl⟩ rfl rfl rfl (Or.inr rfl)
  · exact hnone _ (.of_isNaN rfl)

end Request

end StructuralSeries
