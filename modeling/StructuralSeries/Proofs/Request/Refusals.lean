import StructuralSeries.Proofs.Model.Switches
import StructuralSeries.Proofs.Request.Leaks
import StructuralSeries.Proofs.Sample.Prepared

/-!
# What is left to refuse

Once the settings of a call are resolved, its periods are derived and its series is read, four things can still go
wrong: inputs that are too short, a series of missing values only, a model string that does not name the components, and
a model in which nothing is left (`Request.LateRefusal`). They are asked for in this order, each refusal is one of the
contract, and a call to which none of them applies gives a request (`Request.fails_late_iff`).

The stages in between look things up that need not be there: the ends of the series and of its observations, the second
axis of the inputs, the first period, the first character of the cycle. None of these look-ups is guarded where it is
made. Each is backed by what an earlier stage gives, which is collected in `Request.Delivered`.
-/

namespace StructuralSeries

/-! ## Samples of a series that is read -/

namespace Sample

variable {y : Value} {y₀ : Series} {g : Option (Grid Double)} {u : Inputs}

/-- **A sample is refused for inputs that are too short, or else for missing values only.** -/
theorem prepare_fails_iff [Text.Reader] (hy : Series.ofValue y = .ok y₀) (hu : Inputs.ofOption? g = .ok u)
    (asked : Option Int) (silent : Bool) {e : Fault} :
    (prepare y g asked silent).result = .error e ↔
      ((2 < u.width ∧ u.width < y₀.length) ∧ Fault.refused .inputsTooShort = e) ∨
        (2 < u.width → y₀.length ≤ u.width) ∧ (∀ x ∈ y₀.values, x.isNaN = true) ∧
          Fault.refused .seriesAllMissing = e := by
  rw [result_prepare, hy, ok_bind, hu, ok_bind, bind_eq_error, horizonFor_eq_error_iff, Inputs.isReal_iff,
    ← exists_horizonFor_iff asked]
  simp only [ofSeries_eq_error_iff, Series.trim?_eq_none_iff, exists_and_right]

/-- Otherwise there is a sample. -/
theorem exists_prepare_iff [Text.Reader] (hy : Series.ofValue y = .ok y₀) (hu : Inputs.ofOption? g = .ok u)
    (asked : Option Int) (silent : Bool) :
    (∃ sample, (prepare y g asked silent).result = .ok sample) ↔
      (2 < u.width → y₀.length ≤ u.width) ∧ ∃ x ∈ y₀.values, x.isNaN = false := by
  rw [exists_ok_iff]
  simp only [ne_eq, prepare_fails_iff hy hu asked silent]
  constructor
  · intro h
    have hfits : 2 < u.width → y₀.length ≤ u.width := fun hwide =>
      Nat.le_of_not_lt fun hlt => h _ (Or.inl ⟨⟨hwide, hlt⟩, rfl⟩)
    refine ⟨hfits, ?_⟩
    by_contra hnone
    exact h _ (Or.inr ⟨hfits, by simpa using hnone, rfl⟩)
  · rintro ⟨hfits, x, hx, hobserved⟩ e (⟨⟨hwide, hlt⟩, -⟩ | ⟨-, hall, -⟩)
    · exact absurd (hfits hwide) (Nat.not_le.2 hlt)
    · rw [hall x hx] at hobserved
      cases hobserved

end Sample

namespace Request

/-- Options that resolve are settings, so none of them is an argument that is given by position. -/
theorem wellNamed_of_resolve {options : List (String × Value)} {s : Settings}
    (h : (Settings.resolve options).result = .ok s) : WellNamed options := by
  obtain ⟨supplied, -, -, -, hsupplied, -⟩ := Settings.resolve_eq_ok_iff.1 h
  have hcanonical : ∀ n ∈ positional, Setting.isName (Setting.canonicalName n) = false := by decide
  intro o ho hpositional
  have hname := Supplied.isName_of_ofOptions hsupplied ho
  rw [hcanonical _ hpositional] at hname
  cases hname

/-! ## What the late stages look up -/

/-- What the stages after the reading of a series look up, each of them without a guard of its own. -/
structure Delivered (s : Settings) (y : Series) (u : Inputs) (periods : Grid Double) : Prop where
  first_value : ∃ x, y.values[0]? = some x
  last_value : ∃ x, y.values[y.length - 1]? = some x
  /-- Where there are observations, the search for them finds a first and a last one. -/
  observed : (∃ x ∈ y.values, x.isNaN = false) → ∃ low high, y.places.head? = some low ∧
    y.places.getLast? = some high ∧ low ≤ high ∧ high < y.length
  axes : u.toGrid.shape = [u.height, u.width] ∧ 0 < u.height ∧ 0 < u.width
  period : ∃ first, Periods.first periods = .ok first ∧ first.isNaN = false
  /-- A hint for the search for a cycle can be written. -/
  hint : ∃ t, Token.hinted periods = .ok t
  cycle : ∀ parsed first, Components.parse s.model = .ok parsed →
    ∃ c, (parsed.components.plain first).cycle.head? = some c

section Delivered

variable {s : Settings} {y : Series} {u : Inputs} {f : Double} {periods : Grid Double}

theorem delivered (y : Series) (hu : Inputs.ofOption? s.inputs = .ok u)
    (hp : Periods.derive f (s.periods.map Grid.ofList) = .ok periods) : Delivered s y u periods := by
  have hpos := y.length_pos
  have horiented := Inputs.isOriented_of_ofOption? hu
  obtain ⟨first, rest, rfl, hnan⟩ := Periods.exists_of_derive_eq_ok hp
  exact
    { first_value := ⟨_, List.getElem?_eq_getElem hpos⟩
      last_value := ⟨_, List.getElem?_eq_getElem (Nat.sub_lt hpos Nat.one_pos)⟩
      observed := fun hobserved => by
        obtain ⟨z, before, after, htrims⟩ := Series.exists_trims hobserved
        have hlen := htrims.length_eq
        have hspan := z.length_pos
        exact ⟨_, _, htrims.head?_places, htrims.getLast?_places, by omega, by omega⟩
      axes := ⟨rfl, horiented.height_pos, horiented.width_pos⟩
      period := ⟨first, Periods.first_ofList_cons first rest, hnan⟩
      hint := ⟨_, rfl⟩
      cycle := fun _ first hparsed => Components.exists_head?_cycle hparsed first }

end Delivered

/-! ## What they refuse -/

/-- Why a call is refused whose settings, periods and series have been read. Each reason supposes that those before it
do not apply. -/
inductive LateRefusal (s : Settings) (y : Series) (u : Inputs) (first : Double) : Refusal → Prop
  | inputsTooShort (hwide : 2 < u.width) (hshort : u.width < y.length) : LateRefusal s y u first .inputsTooShort
  | allMissing (hfits : 2 < u.width → y.length ≤ u.width) (hmissing : ∀ x ∈ y.values, x.isNaN = true) :
      LateRefusal s y u first .seriesAllMissing
  | layout (hfits : 2 < u.width → y.length ≤ u.width) (hobserved : ∃ x ∈ y.values, x.isNaN = false)
      (hlayout : ¬ Components.HasLayout s.model.toList) : LateRefusal s y u first (.modelLayout s.model)
  | empty (hfits : 2 < u.width → y.length ≤ u.width) (hobserved : ∃ x ∈ y.values, x.isNaN = false)
      {parsed : Components.Parsed} (hparsed : Components.parse s.model = .ok parsed)
      (hvoid : (parsed.components.plain first).IsVoid first) : LateRefusal s y u first .emptyModel

section Late

variable {y frequency : Value} {options : List (String × Value)} {s : Settings} {f : Double} {periods : Grid Double}
  {y₀ : Series} {u : Inputs} {first : Double} {rest : List Double}

/-- What is left of a call once its settings and its periods are there. -/
theorem result_of_periods [Text.Reader] (hs : (Settings.resolve options).result = .ok s)
    (hf : frequencyOf frequency = .ok f) (hp : Periods.derive f (s.periods.map Grid.ofList) = .ok periods) :
    (setup y frequency options).result = (do
      let sample ← (Sample.prepare y s.inputs s.horizon (!s.verbose)).result
      let m ← Compiled.ofValue (.text s.model) periods sample.horizon s.initial s.fixed
      return assemble s sample periods.data m) := by
  rw [result_setup (wellNamed_of_resolve hs), outcome, hs, ok_bind, hf, ok_bind, hp, ok_bind]

theorem LateRefusal.category_mem {why : Refusal} (h : LateRefusal s y₀ u first why) :
    why.category ∈ [Category.lengthMismatch, .invalidArgument, .emptyModel] := by
  cases h with
  | inputsTooShort => decide
  | allMissing => decide
  | layout => exact List.mem_cons_of_mem _ List.mem_cons_self
  | empty => decide

/-- **What is left to fail is refused**, for one of four reasons. -/
theorem setup_eq_error_iff_lateRefusal [Text.Reader] (hs : (Settings.resolve options).result = .ok s)
    (hf : frequencyOf frequency = .ok f)
    (hp : Periods.derive f (s.periods.map Grid.ofList) = .ok (.ofList (first :: rest)))
    (hy : Series.ofValue y = .ok y₀) (hu : Inputs.ofOption? s.inputs = .ok u) {e : Fault} :
    (setup y frequency options).result = .error e ↔ ∃ why, LateRefusal s y₀ u first why ∧ Fault.refused why = e := by
  have hfails := Sample.prepare_fails_iff hy hu s.horizon (!s.verbose) (e := e)
  have hsample := Sample.exists_prepare_iff hy hu s.horizon (!s.verbose)
  rw [result_of_periods hs hf hp]
  constructor
  · intro h
    rcases bind_eq_error.1 h with h | ⟨sample, hr, h⟩
    · rcases hfails.1 h with ⟨⟨hwide, hlt⟩, rfl⟩ | ⟨hfits, hall, rfl⟩
      · exact ⟨_, .inputsTooShort hwide hlt, rfl⟩
      · exact ⟨_, .allMissing hfits hall, rfl⟩
    obtain ⟨hfits, hobserved⟩ := hsample.1 ⟨sample, hr⟩
    rcases bind_eq_error.1 h with h | ⟨m, -, h⟩
    · rcases Compiled.ofValue_eq_error_iff.1 h with ⟨hlayout, rfl⟩ | ⟨parsed, hparsed, hvoid, rfl⟩
      · exact ⟨_, .layout hfits hobserved hlayout, rfl⟩
      · exact ⟨_, .empty hfits hobserved hparsed hvoid, rfl⟩
    -- a request is put together without a check
    · exact absurd h pure_ne_error
  · rintro ⟨why, h, rfl⟩
    cases h with
    | inputsTooShort hwide hshort => exact bind_eq_error.2 (Or.inl (hfails.2 (Or.inl ⟨⟨hwide, hshort⟩, rfl⟩)))
    | allMissing hfits hmissing => exact bind_eq_error.2 (Or.inl (hfails.2 (Or.inr ⟨hfits, hmissing, rfl⟩)))
    | layout hfits hobserved hlayout =>
      obtain ⟨sample, hr⟩ := hsample.2 ⟨hfits, hobserved⟩
      refine bind_eq_error.2 (Or.inr ⟨sample, hr, bind_eq_error.2 (Or.inl ?_)⟩)
      exact Compiled.ofValue_eq_error_iff.2 (Or.inl ⟨hlayout, rfl⟩)
    | empty hfits hobserved hparsed hvoid =>
      obtain ⟨sample, hr⟩ := hsample.2 ⟨hfits, hobserved⟩
      refine bind_eq_error.2 (Or.inr ⟨sample, hr, bind_eq_error.2 (Or.inl ?_)⟩)
      exact Compiled.ofValue_eq_error_iff.2 (Or.inr ⟨_, hparsed, hvoid, rfl⟩)

end Late

/-- **The late stages are safe on what the early ones deliver.** Once the settings of a call, its periods and its series
have been read, everything that is looked up is there, and the call is refused exactly for one of four reasons; a call
to which none of them applies gives a request. A sample and a compiled model are always put together, with the horizon
of the sample or the default. -/
theorem fails_late_iff [Text.Reader] {y frequency : Value} {options : List (String × Value)} {s : Settings} {f : Double}
    {periods : Grid Double} {y₀ : Series} (hs : (Settings.resolve options).result = .ok s)
    (hf : frequencyOf frequency = .ok f) (hp : Periods.derive f (s.periods.map Grid.ofList) = .ok periods)
    (hy : Series.ofValue y = .ok y₀) :
    ∃ u first, Inputs.ofOption? s.inputs = .ok u ∧ Periods.first periods = .ok first ∧ Delivered s y₀ u periods ∧
      (∀ e, (setup y frequency options).result = .error e ↔
        ∃ why, LateRefusal s y₀ u first why ∧ Fault.refused why = e) ∧
      (∀ why, LateRefusal s y₀ u first why →
        why.category ∈ [Category.lengthMismatch, .invalidArgument, .emptyModel]) ∧
      ((∃ r, (setup y frequency options).result = .ok r) ↔ ∀ why, ¬ LateRefusal s y₀ u first why) ∧
      ∀ sample m, (Sample.prepare y s.inputs s.horizon (!s.verbose)).result = .ok sample →
        Compiled.ofValue (.text s.model) periods sample.horizon s.initial s.fixed = .ok m →
          (setup y frequency options).result = .ok (assemble s sample periods.data m) ∧
            (assemble s sample periods.data m).horizon = sample.horizon.getD defaultHorizon := by
  obtain ⟨u, hu⟩ := Inputs.exists_of_axes_le (Settings.axes_le_of_resolve hs)
  obtain ⟨first, rest, rfl, -⟩ := Periods.exists_of_derive_eq_ok hp
  have hfails := fun e => setup_eq_error_iff_lateRefusal hs hf hp hy hu (e := e)
  refine ⟨u, first, hu, Periods.first_ofList_cons first rest, delivered y₀ hu hp, hfails, fun _ h => h.category_mem, ?_,
    ?_⟩
  · rw [exists_ok_iff]
    simp only [ne_eq, hfails]
    exact ⟨fun h why hwhy => h _ ⟨why, hwhy, rfl⟩, fun h e ⟨why, hwhy, _⟩ => h why hwhy⟩
  · intro sample m hsample hm
    rw [result_of_periods hs hf hp, hsample, ok_bind, hm]
    exact ⟨rfl, Compiled.horizon_of_ofValue hm⟩

/-- Annual data without a trend: the seasonal component that the model names does not count, so the model is empty. -/
theorem fails_late_iff_annual :
    ∃ (s : Settings) (f : Double) (periods : Grid Double) (y₀ : Series),
      (Settings.resolve [("u", .list [.int 1, .int 2, .int 3]), ("model", .text "None/ EQUAL /none")]).result = .ok s ∧
      frequencyOf (.int 1) = .ok f ∧ Periods.derive f (s.periods.map Grid.ofList) = .ok periods ∧
      Series.ofValue (.list [.float .nan, .int 1, .int 2]) = .ok y₀ ∧
      (∃ u first, Inputs.ofOption? s.inputs = .ok u ∧ u.width = 3 ∧ Delivered s y₀ u periods ∧
        LateRefusal s y₀ u first .emptyModel) ∧
      (setup (.list [.float .nan, .int 1, .int 2]) (.int 1)
        [("u", .list [.int 1, .int 2, .int 3]), ("model", .text "None/ EQUAL /none")]).result =
          .error (.refused .emptyModel) := by
  have hs : (Settings.resolve [("u", .list [.int 1, .int 2, .int 3]),
      ("model", .text "None/ EQUAL /none")]).result.toOption.map
        (fun s => (s.model, s.periods, Inputs.columnCount s.inputs)) = some ("None/ EQUAL /none", none, 3) := by
    decide +kernel
  have hf : (frequencyOf (.int 1)).toOption.map (fun f =>
      (Periods.derive f none).toOption.map fun g => (Periods.first g).toOption.map isAnnual) =
        some (some (some true)) := by decide +kernel
  have hy : (Series.ofValue (.list [.float .nan, .int 1, .int 2])).toOption.map Series.values =
      some [.nan, .one, .ofInt 2] := by decide +kernel
  have hmodel : (Components.parse "None/ EQUAL /none").toOption.map Components.Parsed.components =
      some ⟨['N', 'o', 'n', 'e'], Token.off, ['E', 'Q', 'U', 'A', 'L'], Token.off⟩ := by decide +kernel
  obtain ⟨s, hs, hparts⟩ := exists_of_toOption_map hs
  simp only [Prod.mk.injEq] at hparts
  obtain ⟨hmodelText, hperiods, hcolumns⟩ := hparts
  obtain ⟨f, hf, hg⟩ := exists_of_toOption_map hf
  obtain ⟨periods, hp, hfirst⟩ := exists_of_toOption_map hg
  obtain ⟨first₀, hfirst, hannual⟩ := exists_of_toOption_map hfirst
  obtain ⟨y₀, hy, hvalues⟩ := exists_of_toOption_map hy
  obtain ⟨parsed, hparsed, hcomponents⟩ := exists_of_toOption_map hmodel
  have hderive : Periods.derive f (s.periods.map Grid.ofList) = .ok periods := by rw [hperiods]; exact hp
  obtain ⟨u, first, hu, hfirst', hdelivered, hfails, -, -, -⟩ := fails_late_iff hs hf hderive hy
  obtain rfl := Except.ok.inj (hfirst.symm.trans hfirst')
  have hwidth : u.width = 3 := (Inputs.width_eq_columnCount hu).trans hcolumns
  have hlength : y₀.length = 3 := by rw [Series.length, hvalues]; rfl
  have hvoid : (parsed.components.plain first₀).IsVoid first₀ := by
    rw [hcomponents, Components.plain, if_pos hannual]
    exact ⟨by decide +kernel, by decide +kernel, by decide +kernel, by decide +kernel, Or.inr hannual⟩
  have hlate : LateRefusal s y₀ u first₀ .emptyModel :=
    .empty (fun _ => by rw [hwidth, hlength]) ⟨.one, by rw [hvalues]; simp, rfl⟩
      (by rw [hmodelText]; exact hparsed) hvoid
  have hresult := (hfails _).2 ⟨_, hlate, rfl⟩
  exact ⟨s, f, periods, y₀, hs, hf, hderive, hy, ⟨u, first₀, hu, hwidth, hdelivered, hlate⟩, hresult⟩

end Request

end StructuralSeries
