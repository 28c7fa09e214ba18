import StructuralSeries.Grid
import StructuralSeries.Report

/-!
# Outcomes of chains

A chain of operations succeeds exactly when each of them does, and it fails exactly when one of them fails after
those before it have succeeded. The same holds for a rule that is applied to the items of a list in order, or to the
cells of a grid.

What a report says on the way does not decide its outcome: `Report.result` turns a chain of reports into the
chain of their outcomes.
-/

namespace StructuralSeries

variable {ε α β : Type}

/-! ## Chains -/

theorem bind_eq_ok {x : Except ε α} {f : α → Except ε β} {b : β} :
    (x >>= f) = .ok b ↔ ∃ a, x = .ok a ∧ f a = .ok b := by
  cases x <;> simp [bind, Except.bind]

theorem bind_eq_error {x : Except ε α} {f : α → Except ε β} {e : ε} :
    (x >>= f) = .error e ↔ x = .error e ∨ ∃ a, x = .ok a ∧ f a = .error e := by
  cases x <;> simp [bind, Except.bind]

@[simp] theorem ok_bind (a : α) (f : α → Except ε β) : ((.ok a : Except ε α) >>= f) = f a := rfl

theorem pure_eq_ok {a b : α} : (pure a : Except ε α) = .ok b ↔ a = b := by
  simp [pure, Except.pure]

theorem pure_ne_error {a : α} {e : ε} : (pure a : Except ε α) ≠ .error e := by
  simp [pure, Except.pure]

theorem throw_ne_ok {e : ε} {a : α} : (throw e : Except ε α) ≠ .ok a := by
  simp [throw, throwThe, MonadExceptOf.throw]

theorem throw_eq_error {e e' : ε} : (throw e : Except ε α) = .error e' ↔ e = e' := by
  simp [throw, throwThe, MonadExceptOf.throw]

theorem map_eq_ok {f : α → β} {x : Except ε α} {b : β} :
    x.map f = .ok b ↔ ∃ a, x = .ok a ∧ f a = b := by
  cases x <;> simp [Except.map]

theorem map_eq_error {f : α → β} {x : Except ε α} {e : ε} :
    x.map f = .error e ↔ x = .error e := by
  cases x <;> simp [Except.map]

/-- What does not fail succeeds. -/
theorem exists_ok_iff {x : Except ε α} : (∃ a, x = .ok a) ↔ ∀ e, x ≠ .error e := by
  cases x <;> simp

/-- An outcome of which something can be seen is a success. -/
theorem exists_of_toOption_map {x : Except ε α} {f : α → β} {b : β} (h : x.toOption.map f = some b) :
    ∃ a, x = .ok a ∧ f a = b := by
  cases x with
  | error e => cases h
  | ok a => exact ⟨a, rfl, Option.some.inj h⟩

/-- Refusals are not the faults that are none. -/
theorem refused_ne_error {e : Fault} (he : ∀ why, e ≠ .refused why) {why : Refusal} :
    (.error (.refused why) : Except Fault α) ≠ .error e :=
  fun h => he why (Except.error.inj h).symm

/-! ## Lists -/

/-- **The first item on which a rule fails decides.** -/
theorem mapM_eq_error_iff {f : α → Except ε β} {as : List α} {e : ε} :
    as.mapM f = .error e ↔
      ∃ before a after, as = before ++ a :: after ∧ (∀ x ∈ before, ∃ b, f x = .ok b) ∧ f a = .error e := by
  constructor
  · intro h
    induction as with
    | nil => exact absurd h pure_ne_error
    | cons a as ih =>
      rw [List.mapM_cons] at h
      rcases bind_eq_error.1 h with ha | ⟨b, hb, h⟩
      · exact ⟨[], a, as, rfl, by simp, ha⟩
      · rcases bind_eq_error.1 h with h | ⟨bs, -, h⟩
        · obtain ⟨before, x, after, rfl, hbefore, hx⟩ := ih h
          refine ⟨a :: before, x, after, rfl, ?_, hx⟩
          intro y hy
          rcases List.mem_cons.1 hy with rfl | hy
          · exact ⟨b, hb⟩
          · exact hbefore y hy
        · exact absurd h pure_ne_error
  · rintro ⟨before, a, after, rfl, hbefore, ha⟩
    -- the items before it succeed one by one
    induction before with
    | nil => rw [List.nil_append, List.mapM_cons, ha]; rfl
    | cons x before ih =>
      obtain ⟨b, hb⟩ := hbefore x List.mem_cons_self
      rw [List.cons_append, List.mapM_cons, hb, ih fun y hy => hbefore y (List.mem_cons_of_mem _ hy)]
      rfl

/-- What a rule gives at a place comes from the item at that place. -/
theorem getElem?_of_mapM {f : α → Except ε β} {as : List α} {bs : List β} (h : as.mapM f = .ok bs) {i : Nat} {a : α}
    (ha : as[i]? = some a) : ∃ b, bs[i]? = some b ∧ f a = .ok b := by
  induction as generalizing bs i with
  | nil => cases ha
  | cons x xs ih =>
    rw [List.mapM_cons] at h
    obtain ⟨b, hb, h⟩ := bind_eq_ok.1 h
    obtain ⟨cs, hcs, h⟩ := bind_eq_ok.1 h
    cases h
    cases i with
    | zero =>
      cases ha
      exact ⟨b, rfl, hb⟩
    | succ i => exact ih hcs ha

namespace Grid

variable {f : α → Except ε β} {g : Grid α} {r : Grid β} {e : ε}

theorem traverse_eq_ok_iff : g.traverse f = .ok r ↔ r.shape = g.shape ∧ g.data.mapM f = .ok r.data := by
  unfold traverse
  split
  · next bs hbs =>
    constructor
    · intro h
      cases h
      exact ⟨rfl, hbs⟩
    · rintro ⟨hshape, hdata⟩
      exact congrArg Except.ok (Grid.ext hshape.symm (Except.ok.inj (hbs.symm.trans hdata)))
  · next e he => exact iff_of_false nofun fun h => nomatch he.symm.trans h.2

theorem traverse_eq_error_iff : g.traverse f = .error e ↔ g.data.mapM f = .error e := by
  unfold traverse
  split
  · next h => simp [h]
  · next h => simp [h]

end Grid

/-! ## Reports -/

namespace Report

@[simp] theorem result_liftM (x : Except Fault α) : (liftM x : Report α).result = x := rfl

@[simp] theorem result_pure (a : α) : (pure a : Report α).result = .ok a := rfl

@[simp] theorem result_notify (silent : Bool) (n : Notice) : (notify silent n).result = .ok () := rfl

@[simp] theorem result_chain (r : Report α) (f : α → Report β) :
    (r >>= f).result = (r.result >>= fun a => (f a).result) := result_bind r f

end Report

end StructuralSeries
