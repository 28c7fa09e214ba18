import StructuralSeries.Proofs.Session.Sharing

/-!
# What steps report

A set-up, a request that is made as given, and one that evolves from another succeed exactly if there is a request to
add, and then they add it. Looking at a request reports its fields, or what a path leads to. Writing reports the array
afterwards, or fails and may leave a part of it written.
-/

namespace StructuralSeries

/-! ## Steps that add a request -/

namespace Step

variable [Text.Reader] {s : Store}

theorem run_of_report {t : Store} {step : Step} {answer : Value} (h : (report s step).result = .ok (t, answer)) :
    (step.run s).1 = t ∧ (step.run s).2.result = .ok answer := by
  unfold run
  simp [h]

theorem run_setup {y frequency : Value} {options : List (String × Value)} {r : Request}
    (h : (Request.setup y frequency options).result = .ok r) :
    ((setup y frequency options).run s).1 = s.add (r.fields s.cells.length) ∧
      ((setup y frequency options).run s).2.result =
        .ok (Reached.value (s.add (r.fields s.cells.length)).cells (.request (r.fields s.cells.length).1)) := by
  refine run_of_report ?_
  simp only [report, Report.result_chain, Report.result_pure, h, ok_bind]
  rfl

theorem run_make {given : List (String × Value)} {placed : Fields × List Content} (h : s.made given = .ok placed) :
    ((make given).run s).1 = s.add placed ∧ ∃ answer, ((make given).run s).2.result = .ok answer := by
  have hreport : (report s (make given)).result = .ok (added s placed) := congrArg (Except.map (added s)) h
  obtain ⟨hstore, hok⟩ := run_of_report hreport
  exact ⟨hstore, _, hok⟩

theorem run_evolve {number : Nat} {changes : List (String × Value)} {old : Fields} {placed : Fields × List Content}
    (hold : s.request number = .ok old) (h : s.evolved old changes = .ok placed) :
    ((evolve number changes).run s).1 = s.add placed ∧
      ∃ answer, ((evolve number changes).run s).2.result = .ok answer := by
  have hreport : (report s (evolve number changes)).result = .ok (added s placed) := by
    show (s.request number >>= fun old => s.evolved old changes >>= fun placed => pure (added s placed)) = _
    rw [hold, ok_bind, h, ok_bind]
    rfl
  obtain ⟨hstore, hok⟩ := run_of_report hreport
  exact ⟨hstore, _, hok⟩

/-- A set-up that succeeds adds its request. -/
theorem exists_of_run_setup {y frequency : Value} {options : List (String × Value)} {answer : Value}
    (h : ((setup y frequency options).run s).2.result = .ok answer) :
    ∃ r, (Request.setup y frequency options).result = .ok r := by
  have hreport := report_of_run h
  simp only [report, Report.result_chain, Report.result_pure] at hreport
  obtain ⟨r, hr, -⟩ := bind_eq_ok.1 hreport
  exact ⟨r, hr⟩

theorem exists_of_run_make {given : List (String × Value)} {answer : Value}
    (h : ((make given).run s).2.result = .ok answer) : ∃ placed, s.made given = .ok placed := by
  obtain ⟨placed, hplaced, -⟩ := map_eq_ok.1
    (show (s.made given).map (added s) = .ok (((make given).run s).1, answer) from report_of_run h)
  exact ⟨placed, hplaced⟩

theorem exists_of_run_evolve {number : Nat} {changes : List (String × Value)} {answer : Value}
    (h : ((evolve number changes).run s).2.result = .ok answer) :
    ∃ old placed, s.request number = .ok old ∧ s.evolved old changes = .ok placed := by
  obtain ⟨old, hold, hreport⟩ := bind_eq_ok.1 (report_of_run h)
  obtain ⟨placed, hplaced, -⟩ := bind_eq_ok.1 hreport
  exact ⟨old, placed, hold, hplaced⟩

end Step

namespace Store

variable {s : Store}

theorem request_add (s : Store) (placed : Fields × List Content) :
    (s.add placed).request s.requests.length = .ok placed.1 := by
  rw [request_eq_ok_iff]
  exact List.getElem?_concat_length

theorem after_concat [Text.Reader] (s : Store) (steps : List Step) (step : Step) :
    s.after (steps ++ [step]) = (step.run (s.after steps)).1 := by
  rw [after_append]
  rfl

theorem length_requests_add (s : Store) (placed : Fields × List Content) :
    (s.add placed).requests.length = s.requests.length + 1 := List.length_append

theorem lt_of_request {s : Store} {number : Nat} {fields : Fields} (h : s.request number = .ok fields) :
    number < s.requests.length := (List.getElem?_eq_some_iff.1 (request_eq_ok_iff.1 h)).1

theorem length_requests_le_after [Text.Reader] (steps later : List Step) :
    (empty.after steps).requests.length ≤ (empty.after (steps ++ later)).requests.length := by
  rw [after_append]
  exact (requests_prefix_after _ later).length_le

/-! ## Steps that look at a request -/

theorem run_snapshot [Text.Reader] {number : Nat} {fields : Fields} (h : s.request number = .ok fields) :
    ((Step.snapshot number).run s).2 = .ok (.mapping (Held.entries s.cells fields)) := by
  simp [Step.run, Step.report, h, Report.ofExcept, Report.ok, pure, Except.pure]

theorem run_get [Text.Reader] {number : Nat} {fields : Fields} (h : s.request number = .ok fields) (path : String) :
    ((Step.get number path).run s).2 =
      .ofExcept ((Reached.follow s.cells fields (pathNames path)).map (Reached.value s.cells)) := by
  have hreport : Step.report s (.get number path) =
      .ofExcept ((Reached.follow s.cells fields (pathNames path)).map fun r => (s, r.value s.cells)) := by
    simp only [Step.report, h, ok_bind]
    cases Reached.follow s.cells fields (pathNames path) <;> rfl
  rw [Step.run, hreport]
  cases Reached.follow s.cells fields (pathNames path) <;> rfl

/-! ## Steps that write -/

/-- Writing to what a path leads to: the store with the value in it, or what a write leaves that breaks off. -/
theorem run_write [Text.Reader] {number : Nat} {path : String} {fields : Fields} {held : Held}
    (h : s.request number = .ok fields)
    (hpath : Reached.follow s.cells fields (pathNames path) = .ok (.held held)) (index : List Int) (v : Value) :
    (Step.write number path index v).run s =
      match s.write held index v with
      | .ok (t, answer) => (t, .ok answer)
      | .error e => (s.brokenOff held index v, .ofExcept (.error e)) := by
  have hreport : Step.report s (.write number path index v) = .ofExcept (s.write held index v) := by
    simp only [Step.report, h, ok_bind, hpath]
  have hbroken : Step.brokenOff s (.write number path index v) = s.brokenOff held index v := by
    simp only [Step.brokenOff, h, ok_bind, hpath]
  rw [Step.run, hreport, hbroken]
  cases s.write held index v <;> rfl

end Store

end StructuralSeries
