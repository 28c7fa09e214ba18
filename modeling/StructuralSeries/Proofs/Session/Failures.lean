import StructuralSeries.Proofs.Session.Steps
import StructuralSeries.Proofs.Store.Writes

/-!
# Failed steps leave no trace

A step that fails leaves the store as it is (`Step.run_of_error_of_writesScalar`), so a session gives the same answers
without the steps that fail (`Store.session_succeeding`). The one exception are writes of more than a scalar: they go
cell by cell and may have written some cells before they fail.

Setting or deleting a field fails whatever it is asked for (`Step.run_set`, `Step.run_delete`).
-/

namespace StructuralSeries

namespace Step

variable [Text.Reader] {s : Store}

/-! ## One step -/

/-- What the step writes, if it writes, is a single element. -/
def WritesScalar : Step → Prop
  | write _ _ _ v => v.isScalar = true
  | _ => True

/-- A step that looks for what to throw fails in any case. -/
theorem run_of_throw {step : Step} {found : Except Fault Fault} (hreport : report s step = .ofExcept (found >>= throw))
    (hkept : brokenOff s step = s) : ∃ e, step.run s = (s, .ofExcept (.error e)) := by
  rw [run, hreport, hkept]
  cases found with
  | error e => exact ⟨e, rfl⟩
  | ok e => exact ⟨e, rfl⟩

theorem run_set (s : Store) (number : Nat) (path : String) (v : Value) :
    ∃ e, (set number path v).run s = (s, .ofExcept (.error e)) := run_of_throw rfl rfl

theorem run_delete (s : Store) (number : Nat) (path : String) :
    ∃ e, (delete number path).run s = (s, .ofExcept (.error e)) := run_of_throw rfl rfl

/-- A write of a scalar that fails leaves the store as it is, wherever it fails. -/
theorem run_write_of_error {number : Nat} {path : String} {index : List Int} {v : Value} (hv : v.isScalar = true)
    {e : Fault} (h : ((write number path index v).run s).2.result = .error e) :
    ((write number path index v).run s).1 = s := by
  rw [run_of_error h, brokenOff]
  split
  · next held hheld =>
    obtain ⟨fields, hfields, hpath⟩ := bind_eq_ok.1 hheld
    rw [Store.run_write hfields hpath] at h
    cases hw : s.write held index v with
    | error e => exact Store.brokenOff_of_error hv hw
    | ok t =>
      rw [hw] at h
      cases h
  · rfl

/-- **A step that fails leaves the store as it is**, unless it writes more than a scalar. -/
theorem run_of_error_of_writesScalar {step : Step} (hw : step.WritesScalar) {e : Fault}
    (h : (step.run s).2.result = .error e) : (step.run s).1 = s := by
  cases step with
  | write number path index v => exact run_write_of_error hw h
  | _ => exact run_of_error h

end Step

namespace Store

/-! ## Sessions -/

section Sessions

variable [Text.Reader]

/-- The steps of a session that succeed. -/
def succeeding (s : Store) (steps : List Step) : List Step :=
  ((steps.zip (s.session steps)).filter fun e => e.2.result.isOk).map Prod.fst

theorem succeeding_cons (s : Store) (step : Step) (steps : List Step) :
    s.succeeding (step :: steps) =
      if (step.run s).2.result.isOk then step :: (step.run s).1.succeeding steps
      else (step.run s).1.succeeding steps := by
  unfold succeeding
  rw [session, List.zip_cons_cons, List.filter_cons]
  split
  · rfl
  · rfl

theorem session_cons (s : Store) (step : Step) (steps : List Step) :
    s.session (step :: steps) = (step.run s).2 :: (step.run s).1.session steps := rfl

/-- A session goes on after a step that fails as if there had been none. -/
theorem succeeding_cases (s : Store) {step : Step} (steps : List Step) (hw : step.WritesScalar) :
    (∃ e, (step.run s).2.result = .error e ∧ (step.run s).1 = s ∧ s.succeeding (step :: steps) = s.succeeding steps) ∨
      ∃ answer, (step.run s).2.result = .ok answer ∧
        s.succeeding (step :: steps) = step :: (step.run s).1.succeeding steps := by
  rw [succeeding_cons]
  cases hr : (step.run s).2.result with
  | error e =>
    have hstore := Step.run_of_error_of_writesScalar hw hr
    exact Or.inl ⟨e, rfl, hstore, by rw [if_neg (by simp [Except.isOk, Except.toBool]), hstore]⟩
  | ok answer => exact Or.inr ⟨answer, rfl, if_pos rfl⟩

theorem session_of_succeeding (s : Store) {steps : List Step} (h : ∀ step ∈ steps, step.WritesScalar) :
    s.session (s.succeeding steps) = (s.session steps).filter fun r => r.result.isOk := by
  induction steps generalizing s with
  | nil => rfl
  | cons step steps ih =>
    have ih := fun t : Store => ih t fun x hx => h x (List.mem_cons_of_mem _ hx)
    rw [session_cons, List.filter_cons]
    rcases succeeding_cases s steps (h step List.mem_cons_self) with ⟨e, hr, hstore, heq⟩ | ⟨answer, hr, heq⟩
    · rw [heq, hr, hstore, ih]
      rfl
    · rw [heq, hr, session_cons, ih]
      rfl

theorem after_succeeding (s : Store) {steps : List Step} (h : ∀ step ∈ steps, step.WritesScalar) :
    s.after (s.succeeding steps) = s.after steps := by
  induction steps generalizing s with
  | nil => rfl
  | cons step steps ih =>
    have ih := fun t : Store => ih t fun x hx => h x (List.mem_cons_of_mem _ hx)
    rw [after_cons]
    rcases succeeding_cases s steps (h step List.mem_cons_self) with ⟨e, -, hstore, heq⟩ | ⟨answer, -, heq⟩
    · rw [heq, hstore, ih]
    · rw [heq, after_cons, ih]

/-- **Failed steps leave no trace.** Without the steps that fail, a session gives the answers of the others, and it ends
in the same store. Setting and deleting always fail and leave the store as it is, and so does every write of a scalar
that fails. -/
theorem session_succeeding (s : Store) {steps : List Step} (h : ∀ step ∈ steps, step.WritesScalar) :
    s.session (s.succeeding steps) = (s.session steps).filter (fun r => r.result.isOk) ∧
      s.after (s.succeeding steps) = s.after steps ∧
      (∀ number path v, ∃ e, (Step.set number path v).run s = (s, .ofExcept (.error e))) ∧
      (∀ number path, ∃ e, (Step.delete number path).run s = (s, .ofExcept (.error e))) ∧
      ∀ number path index v, v.isScalar = true → ∀ e,
        ((Step.write number path index v).run s).2.result = .error e →
          ((Step.write number path index v).run s).1 = s :=
  ⟨session_of_succeeding s h, after_succeeding s h, Step.run_set s, Step.run_delete s,
    fun _ _ _ _ hv _ he => Step.run_write_of_error hv he⟩

end Sessions

/-- Eleven steps, of which one is a set-up that succeeds, one a write and one a second request made from the first. The
other eight fail: a series without values, a field that is set and one that is deleted, a change of no field, and writes
to a read-only array, past the end of one, to what is no array, and of text that is no number. -/
theorem session_succeeding_three :
    ∃ steps : List Step, steps =
        [.setup (.list [.int 1, .int 2, .int 3]) (.int 4) [], .setup (.list []) (.int 4) [], .set 0 "h" (.int 3),
          .delete 0 "model", .evolve 0 [("x", .int 1)], .write 0 "y" [0] (.int 7),
          .write 0 "hidden.type_outliers" [0, 2] (.int 7), .write 0 "model" [0] (.int 7),
          .write 0 "hidden.type_outliers" [0] (.text "x"), .write 0 "hidden.type_outliers" [0] (.int 7),
          .evolve 0 [("h", .int 3)]] ∧
      (∀ step ∈ steps, step.WritesScalar) ∧
      ((empty.session steps).map fun r => r.result.isOk) =
        [true, false, false, false, false, false, false, false, false, true, true] ∧
      empty.session (empty.succeeding steps) = (empty.session steps).filter (fun r => r.result.isOk) ∧
      (empty.session (empty.succeeding steps)).length = 3 := by
  have hkept : ∀ {steps : List Step} {oks : List Bool}, (∀ step ∈ steps, step.WritesScalar) →
      ((empty.session steps).map fun r => r.result.isOk) = oks → (∀ step ∈ steps, step.WritesScalar) ∧
        ((empty.session steps).map fun r => r.result.isOk) = oks ∧
        empty.session (empty.succeeding steps) = (empty.session steps).filter (fun r => r.result.isOk) ∧
        (empty.session (empty.succeeding steps)).length = oks.countP id := by
    intro steps oks hscalar hoks
    obtain ⟨hsession, -⟩ := session_succeeding empty hscalar
    refine ⟨hscalar, hoks, hsession, ?_⟩
    rw [hsession, ← List.countP_eq_length_filter, ← hoks, List.countP_map]
    rfl
  refine ⟨_, rfl, hkept ?_ ?_⟩
  · simp only [List.forall_mem_cons]
    exact ⟨trivial, trivial, trivial, trivial, trivial, rfl, rfl, rfl, rfl, rfl, trivial, nofun⟩
  · decide +kernel

end Store

end StructuralSeries
