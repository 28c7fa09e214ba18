import StructuralSeries.Proofs.Request.WellFormed
import StructuralSeries.Proofs.Settings.Written

/-!
# Requests that are set up again

A request says what it was set up from: its series and inputs, its model string, its horizon, and the meaning of
every setting. Setting it up again from that gives the same request (`Request.setup_again`), stage by stage.

* Settings that are written as options mean what was written, with two exceptions: parameters that start with what
  is not a number would count as unset, and a horizon past the largest double cannot be written.
* Periods are the ones that were given, or else the frequency gives them again.
* The sample is prepared already, unless real inputs have lost columns.
* The model string names components in normal form, and parameters that an open model has lost stay lost.
-/

namespace StructuralSeries

/-- The value that options give for a setting with a single name, or its default. -/
def Setting.given (s : Setting) (options : List (String × Value)) : Value := (options.lookup s.name).getD s.default

namespace Request

/-! ## The options of a request -/

/-- A setting as a request has it. -/
def setting (r : Request) : Setting → Value
  | .inputs => .numbers .array (.float64 r.inputs.toGrid)
  | .periods => lineValue r.periods
  | .model => .text r.model
  | .horizon => .int r.horizon
  | .outlier => .float r.outlier.neg
  | .unitRootTest => .bool r.unitRootTest
  | .stepwise => .bool r.stepwise
  | .verbose => .bool r.verbose
  | .concentrated => .bool r.concentrated
  | .arma => .bool r.arma
  | .initial => optionalLine r.initial
  | .fixed => optionalLine r.fixed
  | .criterion => .text r.criterion.name

/-- The options that set a request up again. Periods are among them only if they were given. -/
def again (r : Request) (periodsGiven : Bool) : List (String × Value) :=
  Supplied.named (Setting.all.filter fun s => periodsGiven || s ≠ .periods) r.setting

/-- What these options mean. -/
def draftAgain (r : Request) (periodsGiven : Bool) : Draft where
  inputs := some r.inputs.toGrid
  periods := if periodsGiven then some r.periods else none
  model := r.model
  horizon := some (.whole r.horizon)
  outlier := .double r.outlier.neg
  unitRootTest := r.unitRootTest
  stepwise := r.stepwise
  verbose := r.verbose
  concentrated := r.concentrated
  arma := r.arma
  initial := r.initial
  fixed := r.fixed
  criterion := r.criterion

/-- The settings that they amount to. -/
def settingsAgain (r : Request) (periodsGiven : Bool) : Settings :=
  (r.draftAgain periodsGiven).settled (some r.horizon) r.outlier.neg

theorem wellNamed_again (r : Request) (periodsGiven : Bool) : WellNamed (r.again periodsGiven) := by
  intro o ho
  obtain ⟨s, -, rfl⟩ := List.mem_map.1 ho
  show s.name ∉ positional
  cases s <;> decide

/-- A setting among these options is read from the value that the request has. -/
theorem read_again {α : Type} {r : Request} {periodsGiven : Bool} {s : Setting}
    {read : Value → Except Fault (Option α)} {a : α} (hs : s ≠ .periods) (h : read (r.setting s) = .ok (some a)) :
    read (Supplied.value (r.again periodsGiven) s) = .ok (some a) := by
  have hmem : s ∈ Setting.all.filter fun s => periodsGiven || s ≠ .periods :=
    List.mem_filter.2 ⟨Setting.mem_all s, by simp [hs]⟩
  rw [again, Supplied.value_named, if_pos hmem]
  exact h

/-- A request whose settings can be written: its periods, if they were given, its horizon and its parameters. -/
structure Writable (r : Request) (periodsGiven : Bool) : Prop where
  periods : periodsGiven = true → r.periods ≠ [] ∧ Contract.arePeriods r.periods = true
  horizon_nonneg : 0 ≤ r.horizon
  horizon_lt : r.horizon.natAbs < Double.wholeBound
  initial : ∀ xs ∈ r.initial, ∃ hne : xs ≠ [], (xs.head hne).isNaN = false
  fixed : ∀ xs ∈ r.fixed, ∃ hne : xs ≠ [], (xs.head hne).isNaN = false

theorem periods_again {r : Request} {periodsGiven : Bool} (h : r.Writable periodsGiven) :
    Contract.periods (Supplied.value (r.again periodsGiven) .periods) =
      .ok (some (if periodsGiven then some r.periods else none)) := by
  rw [again, Supplied.value_named]
  cases hg : periodsGiven with
  | true =>
    obtain ⟨hne, hare⟩ := h.periods hg
    exact Contract.periods_lineValue hne hare
  | false => rfl

theorem draft_again {r : Request} {periodsGiven : Bool} (h : r.Writable periodsGiven) :
    (r.draftAgain periodsGiven).Of (r.again periodsGiven) where
  inputs := read_again nofun (Contract.inputs_float64 .array (by simp [Grid.axes, Inputs.toGrid]) (Nat.le_refl 2))
  periods := periods_again h
  model := read_again nofun rfl
  horizon := read_again nofun (Contract.horizon_int h.horizon_nonneg h.horizon_lt)
  outlier := read_again nofun rfl
  unitRootTest := read_again nofun rfl
  stepwise := read_again nofun rfl
  verbose := read_again nofun rfl
  concentrated := read_again nofun rfl
  arma := read_again nofun rfl
  initial := read_again nofun (Contract.vector_optionalLine h.initial)
  fixed := read_again nofun (Contract.vector_optionalLine h.fixed)
  criterion := read_again nofun (Contract.criterion_name r.criterion)

/-- **The settings of a request resolve to themselves**, if they can be written. -/
theorem resolve_again {r : Request} {periodsGiven : Bool} (h : r.Writable periodsGiven) :
    (Settings.resolve (r.again periodsGiven)).result = .ok (r.settingsAgain periodsGiven) :=
  Settings.resolve_eq_ok_iff.2 ⟨r.again periodsGiven, r.draftAgain periodsGiven, some r.horizon, r.outlier.neg,
    Supplied.ofOptions_named (List.Nodup.filter _ (by decide)), draft_again h, rfl, rfl, rfl⟩

end Request

/-! ## What the call says of its vectors -/

theorem Contract.periods_eq_none_iff {v : Value} : periods v = .ok (some none) ↔ v.isUnset = .ok true := by
  rw [← vector_eq_none_iff]
  unfold periods
  constructor
  · intro h
    obtain ⟨r, hr, h⟩ := bind_eq_ok.1 h
    rcases r with _ | _ | xs
    · cases h
    · exact hr
    · have h := pure_eq_ok.1 h
      split at h
      · cases h
      · cases h
  · intro h
    rw [h]
    rfl

/-- Parameters that are unset, or made of numbers, can be written. -/
theorem Contract.exists_head_of_vector {v : Value} {p : Option (List Double)} (h : vector v = .ok (some p))
    (hv : v.isUnset = .ok true ∨ v.IsNumeric) : ∀ xs ∈ p, ∃ hne : xs ≠ [], (xs.head hne).isNaN = false := by
  rintro xs rfl
  rcases hv with hunset | hnumeric
  · rw [vector_eq_none_iff.2 hunset] at h
    cases h
  · exact ⟨ne_nil_of_vector h, head_of_vector h hnumeric (ne_nil_of_vector h)⟩

namespace Settings

variable {options : List (String × Value)} {s : Settings}

/-- The vectors of a call are what their options mean. -/
theorem vectors_of_resolve (h : (resolve options).result = .ok s) :
    Contract.periods (Setting.periods.given options) = .ok (some s.periods) ∧
      Contract.vector (Setting.initial.given options) = .ok (some s.initial) ∧
      Contract.vector (Setting.fixed.given options) = .ok (some s.fixed) := by
  obtain ⟨supplied, draft, horizon, outlier, hs, hd, -, -, rfl⟩ := resolve_eq_ok_iff.1 h
  have hp := hd.periods
  have hi := hd.initial
  have hf := hd.fixed
  rw [Supplied.value_of_ofOptions hs (by decide) (by decide)] at hp hi hf
  exact ⟨hp, hi, hf⟩

end Settings

namespace Stages.Of

variable {st : Stages} {y frequency : Value} {options : List (String × Value)} {periodsGiven : Bool}

/-- The periods of a model are the given ones, if there are any. -/
theorem periods_of_given [Text.Reader] (h : st.Of y frequency options)
    (hgiven : (Setting.periods.given options).isUnset = .ok (!periodsGiven)) :
    (if periodsGiven then some st.periods.data else none) = st.settings.periods := by
  have hcontract := (Settings.vectors_of_resolve h.settings).1
  cases periodsGiven with
  | false =>
    rw [Contract.periods_eq_none_iff.2 hgiven] at hcontract
    exact Option.some.inj (Except.ok.inj hcontract)
  | true =>
    cases hp : st.settings.periods with
    | none =>
      rw [hp, Contract.periods_eq_none_iff, hgiven] at hcontract
      cases hcontract
    | some xs =>
      have hderived := h.periods
      rw [hp] at hderived
      rw [Periods.eq_of_supplied hderived]
      rfl

/-- The compiled model compiles to itself. -/
theorem compiled_again [Text.Reader] (h : st.Of y frequency options) :
    Compiled.ofValue (.text st.compiled.model) st.periods (some st.compiled.horizon) st.compiled.p0 st.compiled.p =
      .ok st.compiled := by
  obtain ⟨first, rest, hperiods, hm⟩ := h.compiled_eq
  have hpos := h.periods_pos
  have hcompiled := h.compiled
  rw [hperiods] at hpos hcompiled ⊢
  rw [Compiled.ofValue_of_model (hpos first List.mem_cons_self) hcompiled]
  generalize st.compiled.components = c at hm
  rw [hm]
  exact congrArg Except.ok (Compiled.around_around c _ _ _ _)

end Stages.Of

/-! ## Setting up again -/

namespace Request

section Stages

variable {st : Stages} {y frequency : Value} {options : List (String × Value)} {periodsGiven : Bool}

/-- The settings of a request can be written if its parameters were unset or made of numbers. -/
theorem writable_of_stages [Text.Reader] (h : st.Of y frequency options)
    (hgiven : (Setting.periods.given options).isUnset = .ok (!periodsGiven))
    (hsize : ∀ u : Inputs, u.Given options → u.width < Double.wholeBound)
    (hinitial : (Setting.initial.given options).isUnset = .ok true ∨ (Setting.initial.given options).IsNumeric)
    (hfixed : (Setting.fixed.given options).isUnset = .ok true ∨ (Setting.fixed.given options).IsNumeric) :
    (assemble st.settings st.sample st.periods.data st.compiled).Writable periodsGiven := by
  have hpromises := Settings.promises_of_resolve h.settings
  obtain ⟨-, hinitialRead, hfixedRead⟩ := Settings.vectors_of_resolve h.settings
  refine
    { periods := ?_
      horizon_nonneg := h.horizon_nonneg
      horizon_lt := ?_
      initial := fun xs hxs => Contract.exists_head_of_vector hinitialRead hinitial xs (h.mem_initial hxs)
      fixed := fun xs hxs => Contract.exists_head_of_vector hfixedRead hfixed xs (h.mem_fixed hxs) }
  · rintro rfl
    have hperiods : some st.periods.data = st.settings.periods := h.periods_of_given hgiven
    exact ⟨hpromises.periods_ne_nil _ hperiods.symm, hpromises.arePeriods _ hperiods.symm⟩
  · show st.compiled.horizon.natAbs < Double.wholeBound
    obtain ⟨n, hn, hbound⟩ := h.exists_horizon
    rw [hn, Int.natAbs_natCast]
    rcases hbound with hlt | ⟨u, hu, hlt⟩
    · exact hlt
    · exact Nat.lt_trans hlt (hsize u hu)

end Stages

/-- **Setting a request up again from what it says gives the same request.** Its parameters have to have been unset or
made of numbers, and real inputs have to have come with a series that misses neither end. An array has fewer columns
than a double can count to. -/
theorem setup_again [Text.Reader] {y frequency : Value} {options : List (String × Value)} {r : Request} {u : Inputs}
    {periodsGiven : Bool} (h : (setup y frequency options).result = .ok r) (hu : u.Given options)
    (hsize : u.width < Double.wholeBound)
    (hends : u.isReal = true → ∀ y₀, Series.ofValue y = .ok y₀ → y₀.EndsObserved)
    (hgiven : (Setting.periods.given options).isUnset = .ok (!periodsGiven))
    (hinitial : (Setting.initial.given options).isUnset = .ok true ∨ (Setting.initial.given options).IsNumeric)
    (hfixed : (Setting.fixed.given options).isUnset = .ok true ∨ (Setting.fixed.given options).IsNumeric) :
    (setup (lineValue r.series.values) frequency (r.again periodsGiven)).result = .ok r := by
  obtain ⟨st, hst, rfl⟩ := setup_eq_ok_iff.1 h
  have hwritable := writable_of_stages hst hgiven (fun v hv => hv.unique hu ▸ hsize) hinitial hfixed
  have hsample := Sample.prepare_again hst.sample (fun y₀ v hy hv hreal =>
    hends ((hst.given hv).unique hu ▸ hreal) y₀ hy) defaultHorizon (!st.settings.verbose)
  rw [← hst.horizon_eq] at hsample
  have hperiods := hst.periods
  rw [← hst.periods_of_given hgiven] at hperiods
  refine setup_eq_ok_iff.2 ⟨⟨settingsAgain _ periodsGiven, st.frequency, st.periods,
    ⟨st.sample.series, st.sample.inputs, some st.compiled.horizon⟩, st.compiled⟩,
    ⟨wellNamed_again _ _, resolve_again hwritable, hst.frequency, hperiods, hsample, hst.compiled_again⟩, ?_⟩
  -- the sign of the critical value has been turned twice
  simp [assemble, settingsAgain, draftAgain, Draft.settled]

/-- Real inputs, given periods and parameters, an order that is left out and a critical value. -/
theorem setup_again_real_inputs :
    ∃ r, (setup (.list [.int 1, .int 2, .int 3]) (.int 4)
        [("u", .list [.int 1, .int 2, .int 3, .int 4, .int 5]), ("periods", .list [.float (.ofInt 4)]),
          ("model", .text "LLT/equal/ARMA"), ("outlier", .int 3), ("p0", .list [.float .one, .float .nan])]).result =
        .ok r ∧
      r.horizon = 2 ∧ r.initial = some [.one, .nan] ∧
      (setup (lineValue r.series.values) (.int 4) (r.again true)).result = .ok r := by
  have hr : (setup (.list [.int 1, .int 2, .int 3]) (.int 4)
      [("u", .list [.int 1, .int 2, .int 3, .int 4, .int 5]), ("periods", .list [.float (.ofInt 4)]),
        ("model", .text "LLT/equal/ARMA"), ("outlier", .int 3),
        ("p0", .list [.float .one, .float .nan])]).result.toOption.map (fun r => (r.horizon, r.initial)) =
      some (2, some [.one, .nan]) := by decide +kernel
  obtain ⟨r, hr, hvalues⟩ := exists_of_toOption_map hr
  obtain ⟨hhorizon, hinitial⟩ := Prod.mk.inj hvalues
  obtain ⟨u, hu, hwidth⟩ := Inputs.exists_given
    [("u", .list [.int 1, .int 2, .int 3, .int 4, .int 5]), ("periods", .list [.float (.ofInt 4)]),
      ("model", .text "LLT/equal/ARMA"), ("outlier", .int 3), ("p0", .list [.float .one, .float .nan])]
    (by decide +kernel : _ = some (some (some 5)))
  refine ⟨r, hr, hhorizon, hinitial, setup_again hr hu ?_ ?_ ?_ ?_ ?_⟩
  · rw [hwidth]
    decide +kernel
  · intro _ y₀ hy
    have hvalues : (Series.ofValue (.list [.int 1, .int 2, .int 3])).toOption.map Series.values =
        some [.ofInt 1, .ofInt 2, .ofInt 3] := by decide +kernel
    rw [hy] at hvalues
    obtain ⟨values, hne⟩ := y₀
    obtain rfl := Option.some.inj hvalues
    exact ⟨rfl, rfl⟩
  · decide +kernel
  · exact Or.inr ⟨_, rfl, by decide +kernel⟩
  · exact Or.inl rfl

end Request

end StructuralSeries
