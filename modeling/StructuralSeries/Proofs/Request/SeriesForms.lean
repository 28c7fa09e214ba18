import StructuralSeries.Proofs.Model.Presentation
import StructuralSeries.Proofs.Report
import StructuralSeries.Proofs.Request.Stages
import StructuralSeries.Proofs.Series.Lines
import StructuralSeries.Proofs.Settings.Verbose

/-!
# Series in every form

A set-up sees its series only as the line of doubles that it is read as (`Request.setup_congr`). So it is all one whether
the doubles come as a list, as a tuple, as an array, with labels or without, or as a table of one row or one column,
with one exception: a table of a single cell has no axis that is left, and is refused. It is told from the other forms
except where those fail in the same way (`Request.setup_series_forms`).

## Two steps

1. **Reading**: each form is read as its doubles (`Value.WritesLine.ofValue_eq`).
2. **Setting up**: what comes before the series and what comes after it do not look at its form (`Request.setup_eq`).
-/

namespace StructuralSeries

/-! ## Forms of a line -/

/-- The forms in which doubles can be written as a series. -/
inductive Value.WritesLine (xs : List Double) : Value → Prop
  | list : WritesLine xs (.list (xs.map .float))
  | tuple : WritesLine xs (.tuple (xs.map .float))
  | line (box : Box) : WritesLine xs (.numbers box (.float64 (.ofList xs)))
  | table (box : Box) {g : Grid Double} (hdata : g.data = xs)
      (hshape : g.shape = [xs.length, 1] ∨ g.shape = [1, xs.length]) : WritesLine xs (.numbers box (.float64 g))

/-- A table of a single cell. -/
def Value.IsLoneTable (v : Value) : Prop := ∃ box g, v = .numbers box (.float64 g) ∧ g.shape = [1, 1]

namespace Value.WritesLine

variable {y : Series} {v : Value}

/-- Single elements in a row are read as their doubles. -/
theorem ofValue_of_floats [Text.Reader] (hv : v.elements? = some ⟨Kind.joinAll ((y.values.map float).map kind),
    .ofList (y.values.map float)⟩) : Series.ofValue v = .ok y := by
  have hkind : Kind.joinAll ((y.values.map float).map kind) = .float := by
    refine Kind.joinAll_eq_of_forall (fun h => y.nonempty (by simpa using h)) fun k hk => ?_
    simp only [List.map_map, List.mem_map, Function.comp_apply] at hk
    obtain ⟨x, -, rfl⟩ := hk
    rfl
  rw [hkind] at hv
  refine Series.ofValue_eq_ok_iff.2 ⟨_, _, hv, Series.line?_ofList fun h => y.nonempty (List.map_eq_nil_iff.1 h), ?_⟩
  exact observations_doubles (fun _ => rfl) (fun _ => rfl) y.nonempty

theorem single_of_mem_map_float {xs : List Double} : ∀ c ∈ xs.map float, c.elements? = some (.single c) := by
  intro c hc
  obtain ⟨x, -, rfl⟩ := List.mem_map.1 hc
  rfl

/-- An array whose cells are a line is read as the line. -/
theorem ofValue_of_line? [Text.Reader] {box : Box} {g : Grid Double} (hline : Series.line? g = some y.values) :
    Series.ofValue (.numbers box (.float64 g)) = .ok y := by
  refine Series.ofValue_eq_ok_iff.2 ⟨_, y.values.map fun x => fixed (.float64 x), elements?_float64 box g, ?_, ?_⟩
  · rw [Series.line?_map, hline]
    rfl
  · exact observations_doubles (fun _ => rfl) (fun _ => rfl) y.nonempty

/-- **Every form is read as its doubles, but for a table of a single cell.** -/
theorem ofValue_eq [Text.Reader] (h : v.WritesLine y.values) :
    (¬ v.IsLoneTable → Series.ofValue v = .ok y) ∧
      (v.IsLoneTable → y.length = 1 ∧ Series.ofValue v = .error (.refused .seriesNotLine)) := by
  cases h with
  | list =>
    refine ⟨fun _ => ofValue_of_floats (elements?_list single_of_mem_map_float), ?_⟩
    rintro ⟨_, _, heq, -⟩
    cases heq
  | tuple =>
    refine ⟨fun _ => ofValue_of_floats (elements?_tuple single_of_mem_map_float), ?_⟩
    rintro ⟨_, _, heq, -⟩
    cases heq
  | line box =>
    refine ⟨fun _ => ofValue_of_line? (Series.line?_ofList y.nonempty), ?_⟩
    rintro ⟨_, g, heq, hshape⟩
    cases heq
    simp [Grid.ofList] at hshape
  | @table box g hdata hshape =>
    have hline := Series.line?_table hshape (Nat.ne_of_gt y.length_pos)
    rw [hdata] at hline
    by_cases hone : y.values.length = 1
    · rw [if_pos hone] at hline
      have hlone : (numbers box (.float64 g)).IsLoneTable := by
        refine ⟨box, g, rfl, ?_⟩
        rwa [hone, or_self] at hshape
      refine ⟨fun h => absurd hlone h, fun _ => ⟨hone, ?_⟩⟩
      have htext : ∀ s, numbers box (.float64 g) ≠ .text s := by
        rintro s ⟨⟩
      rw [Series.ofValue_eq htext, elements_float64, ok_bind, Series.line?_map, hline]
      rfl
    · rw [if_neg hone] at hline
      refine ⟨fun _ => ofValue_of_line? hline, ?_⟩
      rintro ⟨_, _, heq, hlone⟩
      cases heq
      rw [hlone] at hshape
      rcases hshape with h | h
      · exact absurd (List.cons.inj h).1.symm hone
      · exact absurd (List.cons.inj (List.cons.inj h).2).1.symm hone

end Value.WritesLine

/-! ## What a set-up sees of its series -/

namespace Request

/-- The stages of a set-up before it comes to the series: settings, frequency, periods. -/
def opening (frequency : Value) (options : List (String × Value)) : Report (Settings × Grid Double) := do
  match (options.map Prod.fst).find? (· ∈ positional) with
  | some name => Report.ofExcept (.error (.misfit (.boundTwice "uc_setup" name)))
  | none => pure ()
  let s ← Settings.resolve options
  let f ← frequencyOf frequency
  let periods ← Periods.derive f (s.periods.map Grid.ofList)
  return (s, periods)

/-- The stages that follow once the series is read. -/
def closing (st : Settings × Grid Double) (y : Series) : Report Request := do
  let inputs ← Inputs.ofOption? st.1.inputs
  let horizon ← Sample.horizonFor inputs y.length st.1.horizon
  let sample ← Sample.ofSeries y inputs horizon (!st.1.verbose)
  match overruled st.1.horizon sample.horizon with
  | some h => Report.notify (!st.1.verbose) (.horizonFromInputs h)
  | none => pure ()
  let m ← Compiled.ofValue (.text st.1.model) st.2 sample.horizon st.1.initial st.1.fixed
  return assemble st.1 sample st.2.data m

/-- **A set-up reads its series in between, and looks at it no other time.** -/
theorem setup_eq [Text.Reader] (y frequency : Value) (options : List (String × Value)) :
    setup y frequency options =
      opening frequency options >>= fun st => (liftM (Series.ofValue y) : Report Series) >>= closing st := by
  unfold setup opening
  cases (options.map Prod.fst).find? (· ∈ positional) with
  | some name => rfl
  | none =>
    show (Settings.resolve options >>= fun s => ofSettings s y frequency) = (Settings.resolve options >>= _) >>= _
    rw [bind_assoc]
    refine bind_congr fun s => ?_
    rw [ofSettings, bind_assoc]
    refine bind_congr fun f => ?_
    rw [bind_assoc]
    refine bind_congr fun periods => ?_
    rw [pure_bind, Sample.prepare, bind_assoc]
    refine bind_congr fun line => ?_
    rw [bind_assoc]
    exact bind_congr fun inputs => (bind_assoc _ _ _).trans rfl

theorem setup_congr [Text.Reader] {v w : Value} (h : Series.ofValue v = Series.ofValue w) (frequency : Value)
    (options : List (String × Value)) : setup v frequency options = setup w frequency options := by
  rw [setup_eq, setup_eq, h]

/-- A series that is refused is refused once the call has come to it. -/
theorem setup_of_refused [Text.Reader] {v : Value} {why : Refusal} (h : Series.ofValue v = .error (.refused why))
    (frequency : Value) (options : List (String × Value)) :
    setup v frequency options = opening frequency options >>= fun _ => .ofExcept (.error (.refused why)) := by
  rw [setup_eq, h]
  rfl

theorem notices_opening (frequency : Value) (options : List (String × Value)) :
    (opening frequency options).notices = [] := by
  refine List.eq_nil_iff_forall_not_mem.2 fun n hn => ?_
  unfold opening at hn
  cases hfind : (options.map Prod.fst).find? (· ∈ positional) with
  | some name =>
    rw [hfind] at hn
    cases hn
  | none =>
    rw [hfind] at hn
    rcases Report.mem_notices_chain hn with hn | ⟨s, -, hn⟩
    · rw [Settings.notices_resolve] at hn
      cases hn
    · obtain ⟨f, -, hn⟩ := Report.mem_notices_liftM_chain hn
      obtain ⟨periods, -, hn⟩ := Report.mem_notices_liftM_chain hn
      cases hn

/-- A call fails whatever the series is exactly if it does not come to it. -/
theorem fails_anyway_iff [Text.Reader] {frequency : Value} {options : List (String × Value)} {e : Fault} :
    (opening frequency options).result = .error e ↔ ∀ y, (setup y frequency options).result = .error e := by
  constructor
  · intro h y
    rw [setup_eq, Report.result_chain, h]
    rfl
  · intro h
    cases hopening : (opening frequency options).result with
    | error e' =>
      have he := h .absent
      rw [setup_eq, Report.result_chain, hopening] at he
      obtain rfl : e' = e := Except.error.inj he
      rfl
    | ok st =>
      -- a text and a list without elements are refused for different reasons
      have htext := h (.text "")
      have hlist := h (.list [])
      have hisText : Series.ofValue (.text "") = .error (.refused .seriesIsText) := rfl
      have hnotLine : Series.ofValue (.list []) = .error (.refused .seriesNotLine) := rfl
      rw [setup_of_refused hisText, Report.result_chain, hopening] at htext
      rw [setup_of_refused hnotLine, Report.result_chain, hopening] at hlist
      cases htext
      cases hlist

end Request

/-! ## Telling forms apart -/

/-- Reports that say the same notices and give the same, or fail in the same way. -/
def Report.Agree {α : Type} (r r' : Report α) : Prop := r.notices = r'.notices ∧ SameOutcome r.result r'.result

theorem sameOutcome_error_iff {α : Type} {e : Fault} {x : Except Fault α} :
    SameOutcome (.error e) x ↔ ∃ e', x = .error e' ∧ e'.category = e.category := by
  cases x with
  | error e' => simp [SameOutcome, Except.mapError, eq_comm]
  | ok a => simp [SameOutcome, Except.mapError]

namespace Request

variable {y : Series} {v w : Value}

/-- **A series means the same in every form.** -/
theorem setup_series_forms [Text.Reader] (hv : v.WritesLine y.values) (hw : w.WritesLine y.values) (frequency : Value)
    (options : List (String × Value)) :
    ((v.IsLoneTable ↔ w.IsLoneTable) → setup v frequency options = setup w frequency options) ∧
    (v.IsLoneTable → ¬ w.IsLoneTable → y.length = 1 ∧
      ((setup v frequency options).Agree (setup w frequency options) ↔
        (∃ e, ∀ z, (setup z frequency options).result = .error e) ∨
          (setup w frequency options).notices = [] ∧
            ∃ e, (setup w frequency options).result = .error e ∧ e.category = .invalidArgument)) := by
  obtain ⟨hvline, hvlone⟩ := hv.ofValue_eq
  obtain ⟨hwline, hwlone⟩ := hw.ofValue_eq
  constructor
  · intro hboth
    refine setup_congr ?_ frequency options
    by_cases hlone : v.IsLoneTable
    · rw [(hvlone hlone).2, (hwlone (hboth.1 hlone)).2]
    · rw [hvline hlone, hwline fun h => hlone (hboth.2 h)]
  · intro hlone hother
    obtain ⟨hlength, hrefused⟩ := hvlone hlone
    refine ⟨hlength, ?_⟩
    unfold Report.Agree
    rw [setup_of_refused hrefused]
    cases hopening : (opening frequency options).result with
    | error e =>
      -- neither call comes to its series
      have hw := fails_anyway_iff.1 hopening w
      refine iff_of_true ⟨?_, ?_⟩ (Or.inl ⟨e, fails_anyway_iff.1 hopening⟩)
      · rw [setup_eq, Report.notices_chain_of_error hopening, Report.notices_chain_of_error hopening]
      · rw [Report.result_chain, hopening, hw]
        rfl
    | ok st =>
      have hnever : ¬ ∃ e, ∀ z, (setup z frequency options).result = .error e := by
        rintro ⟨e, h⟩
        rw [fails_anyway_iff.2 h] at hopening
        cases hopening
      rw [Report.notices_chain_of_ok hopening, notices_opening, Report.result_chain, hopening, ok_bind,
        or_iff_right hnever]
      exact and_congr eq_comm sameOutcome_error_iff

/-- Two numbers as a list and as a column, and one number as a table, which is refused, and as a list, which is not. -/
theorem setup_series_forms_one :
    setup (.list [.float .one, .float .zero]) (.int 4) [] =
        setup (.numbers .frame (.float64 ⟨[2, 1], [.one, .zero], rfl⟩)) (.int 4) [] ∧
      ¬ (setup (.numbers .array (.float64 ⟨[1, 1], [.one], rfl⟩)) (.int 4) []).Agree
        (setup (.list [.float .one]) (.int 4) []) := by
  have hlist : ∀ cells, ¬ (Value.list cells).IsLoneTable := by
    rintro cells ⟨_, _, heq, -⟩
    cases heq
  constructor
  · have hcolumn : ¬ (Value.numbers .frame (.float64 ⟨[2, 1], [.one, .zero], rfl⟩)).IsLoneTable := by
      rintro ⟨_, _, heq, hshape⟩
      cases heq
      cases hshape
    have hwrites : (Value.numbers .frame (.float64 ⟨[2, 1], [.one, .zero], rfl⟩)).WritesLine [.one, .zero] :=
      .table .frame rfl (Or.inl rfl)
    obtain ⟨hsame, -⟩ := @setup_series_forms ⟨[.one, .zero], List.cons_ne_nil _ _⟩ _ _ _ .list hwrites (.int 4) []
    exact hsame (iff_of_false (hlist _) hcolumn)
  · intro hagree
    have hwrites : (Value.numbers .array (.float64 ⟨[1, 1], [.one], rfl⟩)).WritesLine [.one] :=
      .table .array rfl (Or.inl rfl)
    obtain ⟨-, hapart⟩ := @setup_series_forms ⟨[.one], List.cons_ne_nil _ _⟩ _ _ _ hwrites .list (.int 4) []
    obtain ⟨-, hiff⟩ := hapart ⟨_, _, rfl, rfl⟩ (hlist _)
    have hok : (setup (.list [.float .one]) (.int 4) []).result.toOption.map (fun _ => ()) = some () := by
      decide +kernel
    obtain ⟨r, hok, -⟩ := exists_of_toOption_map hok
    rcases hiff.1 hagree with ⟨e, hfails⟩ | ⟨-, e, hfails, -⟩
    · exact nomatch hok.symm.trans (hfails _)
    · exact nomatch hok.symm.trans hfails

end Request

end StructuralSeries
