import StructuralSeries.Proofs.Outcome

/-!
# What reports say

A chain of reports says what its first part says, and then what its second part says if the first one succeeds. A
report can be hushed: it keeps its outcome and its warnings and says no notice. Hushing a chain hushes its parts
(`Report.hushed_chain`), so it is as good as silencing each line.
-/

namespace StructuralSeries.Report

variable {α β : Type}

/-! ## Chains that start with an outcome -/

theorem liftM_ok_chain (a : α) (f : α → Report β) : (liftM (Except.ok a : Except Fault α) : Report α) >>= f = f a :=
  pure_bind a f

/-! ## Notices of a chain -/

theorem notices_chain_of_ok {r : Report α} {a : α} (h : r.result = .ok a) (f : α → Report β) :
    (r >>= f).notices = r.notices ++ (f a).notices := by
  obtain ⟨result, notices, warnings⟩ := r
  obtain rfl : result = .ok a := h
  rfl

theorem notices_chain_of_error {r : Report α} {e : Fault} (h : r.result = .error e) (f : α → Report β) :
    (r >>= f).notices = r.notices := by
  obtain ⟨result, notices, warnings⟩ := r
  obtain rfl : result = .error e := h
  rfl

/-- **A notice of a chain is one of its first part, or one of its second part after the first one has succeeded.** -/
theorem mem_notices_chain {r : Report α} {f : α → Report β} {n : Notice} (h : n ∈ (r >>= f).notices) :
    n ∈ r.notices ∨ ∃ a, r.result = .ok a ∧ n ∈ (f a).notices := by
  cases hr : r.result with
  | error e =>
    rw [notices_chain_of_error hr] at h
    exact Or.inl h
  | ok a =>
    rw [notices_chain_of_ok hr] at h
    exact (List.mem_append.1 h).imp_right fun h => ⟨a, rfl, h⟩

theorem mem_notices_liftM_chain {x : Except Fault α} {f : α → Report β} {n : Notice}
    (h : n ∈ ((liftM x : Report α) >>= f).notices) : ∃ a, x = .ok a ∧ n ∈ (f a).notices :=
  (mem_notices_chain h).resolve_left List.not_mem_nil

/-- An outcome that is only put into another form says nothing. -/
theorem notices_liftM_pure (x : Except Fault α) (f : α → β) :
    ((liftM x : Report α) >>= fun a => pure (f a)).notices = [] := by
  cases x <;> rfl

/-! ## Changing what a report gives -/

theorem result_map (f : α → β) (r : Report α) : (f <$> r).result = r.result.map f := by
  rcases r with ⟨_ | _, _, _⟩ <;> rfl

theorem warnings_map (f : α → β) (r : Report α) : (f <$> r).warnings = r.warnings := by
  rcases r with ⟨_ | _, _, warnings⟩
  · rfl
  · exact List.append_nil warnings

/-- A chain warns as its first part does, if the second one never warns. -/
theorem warnings_chain_of_silent {r : Report α} {f : α → Report β} (h : ∀ a, (f a).warnings = []) :
    (r >>= f).warnings = r.warnings := by
  rcases r with ⟨_ | a, notices, warnings⟩
  · rfl
  · show warnings ++ (f a).warnings = warnings
    rw [h, List.append_nil]

/-- An outcome that is only put into another form warns of nothing. -/
theorem warnings_liftM_pure (x : Except Fault α) (f : α → β) :
    ((liftM x : Report α) >>= fun a => pure (f a)).warnings = [] := by
  cases x <;> rfl

/-! ## Hushed reports -/

/-- The report without its notices. -/
def hushed (r : Report α) : Report α := ⟨r.result, [], r.warnings⟩

theorem hushed_eq_self {r : Report α} (h : r.notices = []) : r.hushed = r := by
  rw [hushed, ← h]

@[simp] theorem hushed_liftM (x : Except Fault α) : (liftM x : Report α).hushed = liftM x := rfl

@[simp] theorem hushed_notify (silent : Bool) (n : Notice) : (notify silent n).hushed = pure () := rfl

/-- **A chain is hushed part by part.** -/
@[simp] theorem hushed_chain (r : Report α) (f : α → Report β) :
    (r >>= f).hushed = r.hushed >>= fun a => (f a).hushed := by
  rcases r with ⟨_ | _, _, _⟩ <;> rfl

end StructuralSeries.Report
