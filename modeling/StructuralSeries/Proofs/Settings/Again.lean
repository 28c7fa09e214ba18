import StructuralSeries.Proofs.Report
import StructuralSeries.Proofs.Settings.Leaks
import StructuralSeries.Proofs.Settings.Written
import StructuralSeries.Proofs.Value.Numbers

/-!
# Settings that are resolved again

Settings can be written as options again, one for each setting. Resolving these gives the settings back without a
word (`Settings.resolve_resolved`), but for one case.

A vector whose first number is not a number is unset. Whether a value is unset is decided on its elements as they are,
before they are read as numbers, and something that is no number itself may be read as one that is not a number:
nothing is, and so is the text that names it. Such a value is resolved as given (`Value.HidesMark`), and the numbers
it was resolved to are unset when they are read again.
-/

namespace StructuralSeries

/-! ## Marked numbers -/

namespace Contract

/-- Whether inputs are a single number that is not a number. -/
def isMarkedInput (g : Grid Double) : Bool := g.axes = 0 && isMarked g.data

variable {v : Value} {g : Grid Double}

/-- **A value of numbers is a vector if the numbers are one**, and it is unset if they are marked. -/
theorem vector_of_holdsNumbers (h : v.HoldsNumbers g) (haxes : g.axes ≤ Elements.mostAxes) :
    vector v = .ok (if isMarked g.data then some none
      else if g.axes ≤ 1 ∧ g.size ≠ 0 then some (some g.data) else none) := by
  unfold vector
  rw [h.isUnset_eq haxes, h.doubles?_eq haxes, ok_bind, ok_bind]
  split <;> rfl

theorem noInputs_of_holdsNumbers (h : v.HoldsNumbers g) (haxes : g.axes ≤ Elements.mostAxes) :
    noInputs v = .ok (isMarkedInput g) := by
  obtain ⟨es, hes, hnumbers⟩ := h.exists_elements haxes
  have hsame : es.grid.axes = g.axes := congrArg List.length hnumbers.shape_eq
  rw [noInputs_eq h.ne_absent, Value.elements_eq_ok_iff.2 hes, Except.map,
    hnumbers.startsWithNaN (Value.isWide_of_elements? hes), hsame]
  rfl

/-- **A value of numbers is a matrix of inputs if the numbers are one**, and a single number may be marked. -/
theorem inputs_of_holdsNumbers (h : v.HoldsNumbers g) (haxes : g.axes ≤ Elements.mostAxes) :
    inputs v = .ok (if isMarkedInput g then some none else if g.axes ≤ 2 then some (some g) else none) := by
  unfold inputs
  rw [noInputs_of_holdsNumbers h haxes, h.doubles?_eq haxes]
  show (if isMarkedInput g = true then _ else _) = _
  split <;> rfl

/-! ## What is left without marks -/

/-- Optional numbers, where marked ones count as none. -/
def unmarked (p : Option (List Double)) : Option (List Double) := p.filter fun xs => !isMarked xs

/-- Optional inputs, where marked ones count as none. -/
def unmarkedInputs (u : Option (Grid Double)) : Option (Grid Double) := u.filter fun g => !isMarkedInput g

theorem unmarked_some (xs : List Double) : unmarked (some xs) = if isMarked xs then none else some xs := by
  by_cases h : isMarked xs = true
  · simp [unmarked, h]
  · simp [unmarked, h]

theorem unmarkedInputs_some (g : Grid Double) :
    unmarkedInputs (some g) = if isMarkedInput g then none else some g := by
  by_cases h : isMarkedInput g = true
  · simp [unmarkedInputs, h]
  · simp [unmarkedInputs, h]

/-- **Parameters that are written come back, unless they are marked.** -/
theorem vector_optionalLine_unmarked {p : Option (List Double)} (hne : ∀ xs ∈ p, xs ≠ []) :
    vector (Request.optionalLine p) = .ok (some (unmarked p)) := by
  cases p with
  | none => exact vector_optionalLine nofun
  | some xs =>
    have hline : (Grid.ofList xs).axes ≤ 1 ∧ (Grid.ofList xs).size ≠ 0 :=
      ⟨Nat.le_refl 1, fun hzero => hne xs rfl (List.length_eq_zero_iff.1 hzero)⟩
    rw [Request.optionalLine, Request.lineValue,
      vector_of_holdsNumbers (.float64 .array (.ofList xs)) (Nat.le_trans hline.1 (by decide)), if_pos hline]
    show Except.ok (if isMarked xs = true then _ else _) = _
    rw [unmarked_some]
    split <;> rfl

/-- **Inputs that are written come back, unless they are marked.** -/
theorem inputs_float64_unmarked (box : Box) (haxes : g.axes ≤ 2) :
    inputs (.numbers box (.float64 g)) = .ok (some (unmarkedInputs (some g))) := by
  rw [inputs_of_holdsNumbers (.float64 box g) (Nat.le_trans haxes (by decide)), if_pos haxes,
    unmarkedInputs_some]
  split <;> rfl

end Contract

/-! ## Marks that are hidden -/

/-- The value is a single element. -/
def Value.IsSingle (v : Value) : Prop := ∃ es, v.elements? = some es ∧ es.grid.axes = 0

namespace Contract

variable {v : Value}

theorem forall_isMarked_iff {p : Option (List Double)} (h : vector v = .ok (some p)) :
    (∀ xs ∈ p, isMarked xs = false) ↔ ¬ v.HidesMark := by
  cases p with
  | none =>
    refine iff_of_true nofun fun hv => ?_
    have hunset := vector_eq_none_iff.1 h
    obtain ⟨es, hes, hset⟩ := hv.exists_elements
    rw [Value.isUnset_eq hv.1, hes, Except.map, hset] at hunset
    cases hunset
  | some xs => simp [← isMarked_of_vector_iff h]

/-- A single input is marked if the value that it is read from hides a mark. -/
theorem isMarkedInput_of_inputs_iff {g : Grid Double} (h : inputs v = .ok (some (some g))) :
    isMarkedInput g = true ↔ v.IsSingle ∧ v.HidesMark := by
  obtain ⟨hnone, hg, -⟩ := inputs_eq_some_iff.1 h
  have habsent : v ≠ .absent := by
    rintro rfl
    cases hnone
  rw [noInputs_eq habsent] at hnone
  obtain ⟨es, hes, hnone⟩ := map_eq_ok.1 hnone
  have hes' := Value.elements_eq_ok_iff.1 hes
  have hread : (v.elements >>= fun es => es.grid.traverse Value.toDouble) = .ok g := Value.doubles_of_doubles? hg
  rw [hes, ok_bind] at hread
  have haxes : g.axes = es.grid.axes := congrArg List.length (Grid.traverse_eq_ok_iff.1 hread).1
  have hsingle : v.IsSingle ↔ g.axes = 0 := by
    rw [haxes]
    constructor
    · rintro ⟨es', hsame, hzero⟩
      obtain rfl := Option.some.inj (hes'.symm.trans hsame)
      exact hzero
    · intro hzero
      exact ⟨es, hes', hzero⟩
  rw [isMarkedInput, Bool.and_eq_true, decide_eq_true_eq, hsingle]
  refine and_congr_right fun hzero => ?_
  have hset : es.startsWithNaN = false := by simpa [← haxes, hzero] using hnone
  exact Value.isMarked_iff_hidesMark habsent hes' hset hg

theorem forall_isMarkedInput_iff {u : Option (Grid Double)} (h : inputs v = .ok (some u)) :
    (∀ g ∈ u, isMarkedInput g = false) ↔ ¬ (v.IsSingle ∧ v.HidesMark) := by
  cases u with
  | none =>
    refine iff_of_true nofun fun hv => ?_
    have hnone := inputs_eq_none_iff.1 h
    obtain ⟨es, hes, hset⟩ := hv.2.exists_elements
    rw [noInputs_eq hv.2.1, hes, Except.map, hset, Bool.and_false] at hnone
    cases hnone
  | some g => simp [← isMarkedInput_of_inputs_iff h]

end Contract

/-! ## Settings as options -/

namespace Settings

/-- Inputs as they are resolved. -/
def inputsValue : Option (Grid Double) → Value
  | none => .absent
  | some g => .numbers .array (.float64 g)

/-- A horizon as it is resolved. -/
def horizonValue : Option Int → Value
  | none => .absent
  | some n => .int n

/-- A setting as it is resolved. -/
def value (s : Settings) : Setting → Value
  | .inputs => inputsValue s.inputs
  | .periods => Request.optionalLine s.periods
  | .model => .text s.model
  | .horizon => horizonValue s.horizon
  | .outlier => .float s.outlier
  | .unitRootTest => .bool s.unitRootTest
  | .stepwise => .bool s.stepwise
  | .verbose => .bool s.verbose
  | .concentrated => .bool s.concentrated
  | .arma => .bool s.arma
  | .initial => Request.optionalLine s.initial
  | .fixed => Request.optionalLine s.fixed
  | .criterion => .text s.criterion.name

/-- All settings as options. -/
def options (s : Settings) : List (String × Value) := Supplied.named Setting.all s.value

/-- The draft that settings are settled from. -/
def draft (s : Settings) : Draft where
  inputs := s.inputs
  periods := s.periods
  model := s.model
  horizon := s.horizon.map .whole
  outlier := .double s.outlier
  unitRootTest := s.unitRootTest
  stepwise := s.stepwise
  verbose := s.verbose
  concentrated := s.concentrated
  arma := s.arma
  initial := s.initial
  fixed := s.fixed
  criterion := s.criterion

theorem settle_draft (s : Settings) : s.draft.settle = .ok s := by
  have hwhole : Draft.wholeHorizon s.draft.horizon = pure s.horizon := by
    unfold draft
    cases s.horizon <;> rfl
  unfold Draft.settle
  rw [hwhole, pure_bind]
  rfl

/-- The settings without what is marked. -/
def unmarked (s : Settings) : Settings :=
  { s with
    inputs := Contract.unmarkedInputs s.inputs
    initial := Contract.unmarked s.initial
    fixed := Contract.unmarked s.fixed }

theorem ofOptions_options (s : Settings) : Supplied.ofOptions s.options = .ok s.options :=
  Supplied.ofOptions_named (by decide)

theorem value_options (s : Settings) (t : Setting) : Supplied.value s.options t = s.value t := by
  rw [options, Supplied.value_named, if_pos t.mem_all]

/-- What a setting reads from its value, it reads from the options. -/
theorem read_options {α : Type} {s : Settings} {t : Setting} {read : Value → Except Fault (Option α)} {a : α}
    (h : read (s.value t) = .ok (some a)) : read (Supplied.value s.options t) = .ok (some a) := by
  rwa [value_options]

/-- **Settings that keep their promises mean themselves, but for what is marked.** -/
theorem draft_of_options {s : Settings} (hs : s.Promises) (haxes : ∀ g ∈ s.inputs, g.axes ≤ 2) :
    s.unmarked.draft.Of s.options where
  inputs := read_options <| by
    show Contract.inputs (inputsValue s.inputs) = .ok (some (Contract.unmarkedInputs s.inputs))
    cases hu : s.inputs with
    | none => rfl
    | some g => exact Contract.inputs_float64_unmarked .array (haxes g hu)
  periods := read_options <| by
    show Contract.periods (Request.optionalLine s.periods) = .ok (some s.periods)
    cases hp : s.periods with
    | none => rfl
    | some xs => exact Contract.periods_lineValue (hs.periods_ne_nil xs hp) (hs.arePeriods xs hp)
  model := read_options rfl
  horizon := read_options <| by
    show Contract.horizon (horizonValue s.horizon) = .ok (some (s.horizon.map .whole))
    cases hh : s.horizon with
    | none => rfl
    | some h =>
      obtain ⟨n, rfl, hbound⟩ := hs.horizon h hh
      exact Contract.horizon_int (Int.natCast_nonneg n) hbound
  outlier := read_options rfl
  unitRootTest := read_options rfl
  stepwise := read_options rfl
  verbose := read_options rfl
  concentrated := read_options rfl
  arma := read_options rfl
  initial := read_options (Contract.vector_optionalLine_unmarked hs.initial_ne_nil)
  fixed := read_options (Contract.vector_optionalLine_unmarked hs.fixed_ne_nil)
  criterion := read_options (Contract.criterion_name s.criterion)

theorem resolve_options {s : Settings} (hs : s.Promises) (haxes : ∀ g ∈ s.inputs, g.axes ≤ 2) :
    resolve s.options = .ok s.unmarked := by
  unfold resolve
  rw [ofOptions_options, Report.liftM_ok_chain, Supplied.draft_eq_ok_iff.2 (draft_of_options hs haxes),
    Report.liftM_ok_chain, settle_draft]

theorem unmarked_eq_self_iff {s : Settings} :
    s.unmarked = s ↔ (∀ g ∈ s.inputs, Contract.isMarkedInput g = false) ∧
      (∀ xs ∈ s.initial, Contract.isMarked xs = false) ∧ ∀ xs ∈ s.fixed, Contract.isMarked xs = false := by
  have hkeeps : ∀ {α : Type} {mark : α → Bool} {o : Option α}, o.filter (fun a => !mark a) = o ↔
      ∀ a ∈ o, mark a = false := by
    intro α mark o
    cases o with
    | none => simp
    | some a => simp [Option.filter]
  obtain ⟨⟩ := s
  simp only [unmarked, Settings.mk.injEq, true_and, and_true]
  rw [← hkeeps, ← hkeeps, ← hkeeps]
  rfl

/-- The options give a single input, or parameters, that hide a mark. -/
def HideMark (options : List (String × Value)) : Prop :=
  ((Supplied.value (Supplied.canonical options) .inputs).IsSingle ∧
      (Supplied.value (Supplied.canonical options) .inputs).HidesMark) ∨
    (Supplied.value (Supplied.canonical options) .initial).HidesMark ∨
    (Supplied.value (Supplied.canonical options) .fixed).HidesMark

/-- **Settings are resolved in one pass, unless an option hides a mark.**

The options that are written from resolved settings are always accepted, and nothing is said about them. They give the
settings back exactly if no option of the first pass hid a mark; what was read from one that did is then unset. Periods
never are. -/
theorem resolve_resolved {options : List (String × Value)} {s : Settings} (h : (resolve options).result = .ok s) :
    resolve s.options = .ok s.unmarked ∧
      (resolve s.options = .ok s ↔ ¬ HideMark options) ∧
      ∀ xs ∈ s.periods, Contract.isMarked xs = false := by
  obtain ⟨supplied, d, horizon, outlier, hsupplied, hd, -, -, rfl⟩ := resolve_eq_ok_iff.1 h
  obtain rfl : supplied = Supplied.canonical options := Supplied.eq_of_ofOptions hsupplied
  have hpromises := promises_of_resolve h
  have hagain := resolve_options hpromises (axes_le_of_resolve h)
  refine ⟨hagain, ?_, ?_⟩
  · have hsame : resolve (d.settled horizon outlier).options = .ok (d.settled horizon outlier) ↔
        (d.settled horizon outlier).unmarked = d.settled horizon outlier := by
      rw [hagain]
      exact ⟨fun heq => Except.ok.inj (congrArg Report.result heq), fun heq => congrArg Report.ok heq⟩
    rw [hsame, unmarked_eq_self_iff, HideMark, not_or, not_or]
    exact and_congr (Contract.forall_isMarkedInput_iff hd.inputs)
      (and_congr (Contract.forall_isMarked_iff hd.initial) (Contract.forall_isMarked_iff hd.fixed))
  · intro xs hxs
    have hne := hpromises.periods_ne_nil xs hxs
    have hhead := Contract.isNaN_of_arePeriods (hpromises.arePeriods xs hxs) hne
    rwa [Contract.isMarked, List.head?_eq_some_head hne]

/-- Initial parameters that start with nothing are given, and are unset when they are resolved again. -/
theorem resolve_resolved_nothing_first :
    ∃ s, (resolve [("p0", .list [.absent, .int 1])]).result = .ok s ∧ s.initial = some [.nan, .one] ∧
      resolve s.options = .ok s.unmarked ∧ s.unmarked.initial = none ∧ resolve s.options ≠ .ok s := by
  have hs : (resolve [("p0", .list [.absent, .int 1])]).result.toOption.map Settings.initial =
      some (some [.nan, .one]) := by decide +kernel
  obtain ⟨s, hs, hinitial⟩ := exists_of_toOption_map hs
  obtain ⟨hagain, hsame, -⟩ := resolve_resolved hs
  have hhides : (Value.list [.absent, .int 1]).HidesMark := ⟨nofun, _, .absent, rfl, by decide, rfl, rfl⟩
  refine ⟨s, hs, hinitial, hagain, ?_, fun heq => hsame.1 heq (Or.inr (Or.inl hhides))⟩
  show Contract.unmarked s.initial = none
  rw [hinitial]
  rfl

end Settings

end StructuralSeries
