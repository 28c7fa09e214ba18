import StructuralSeries.Proofs.Settings.Drafts
import StructuralSeries.Proofs.Value.Leaks

/-!
# Faults of settings

A value of a matrix or a vector leaks the faults of its array, and a horizon leaks a huge whole number. No other
setting leaks anything: its value keeps the contract or breaks it (`Setting.verdict_eq_error_iff`).
-/

namespace StructuralSeries

namespace Contract

variable {v : Value} {e : Fault}

/-! ## Matrices and vectors -/

theorem noInputs_eq (h : v ≠ .absent) :
    noInputs v = v.elements.map fun es => es.grid.axes = 0 && es.startsWithNaN := by
  cases v with
  | absent => exact absurd rfl h
  | _ => rfl

/-- The contracts of matrices and vectors first ask whether anything is given, then read the numbers. Both steps
leak, and whether something is given does not hide a huge whole number. -/
theorem reading_eq_error_iff {α : Type} {isNone : Except Fault Bool} {test : Elements → Bool} {a : α}
    {k : Option (Grid Double) → Except Fault α} (habsent : v = .absent → isNone = .ok true)
    (hgiven : v ≠ .absent → isNone = v.elements.map test)
    (htest : ∀ es, es.startsWithNaN = false → test es = false) (hk : ∀ g e, k g ≠ .error e) :
    (isNone >>= fun none => if none then pure a else v.doubles? >>= k) = .error e ↔ v.Leaks e := by
  by_cases hv : v = .absent
  · rw [habsent hv]
    refine iff_of_false pure_ne_error ?_
    rintro (hnone | ⟨hes, hhuge⟩)
    · rw [hv] at hnone
      cases hnone
    · exact Value.ne_absent_of_hugeFirst hes hhuge hv
  · rw [hgiven hv]
    constructor
    · intro h
      rcases bind_eq_error.1 h with h | ⟨b, -, h⟩
      · obtain ⟨hnone, rfl⟩ := Value.elements_eq_error_iff.1 (map_eq_error.1 h)
        exact .ragged hnone
      · cases b with
        | true => exact absurd h pure_ne_error
        | false =>
          rcases bind_eq_error.1 h with h | ⟨g, -, h⟩
          · obtain ⟨hd, rfl⟩ := Value.doubles?_eq_error_iff.1 h
            obtain ⟨es, hes, hhuge⟩ := Value.doubles_eq_tooLarge_iff.1 hd
            exact .tooLarge hes hhuge
          · exact absurd h (hk _ _)
    · rintro (hnone | ⟨hes, hhuge⟩)
      · rw [Value.elements_eq_error_iff.2 ⟨hnone, rfl⟩]
        rfl
      -- a huge whole number makes the array one of objects, and such an array is not unset
      · have hd := Value.doubles_eq_tooLarge_iff.2 ⟨_, hes, hhuge⟩
        rw [Value.elements_eq_ok_iff.2 hes]
        show (if test _ then pure a else v.doubles? >>= k) = _
        rw [htest _ (Value.startsWithNaN_of_hugeFirst hes hhuge), Value.doubles?_eq_error_iff.2 ⟨hd, rfl⟩]
        rfl

theorem inputs_eq_error_iff : inputs v = .error e ↔ v.Leaks e := by
  unfold inputs
  refine reading_eq_error_iff (by rintro rfl; rfl) noInputs_eq (fun es h => by simp [h]) ?_
  rintro (_ | g) e
  · exact pure_ne_error
  · exact pure_ne_error

theorem vector_eq_error_iff : vector v = .error e ↔ v.Leaks e := by
  unfold vector
  refine reading_eq_error_iff (by rintro rfl; rfl) Value.isUnset_eq (fun es h => h) ?_
  rintro (_ | g) e
  · exact pure_ne_error
  · exact pure_ne_error

theorem periods_eq_error_iff : periods v = .error e ↔ v.Leaks e := by
  rw [← vector_eq_error_iff]
  unfold periods
  rw [bind_eq_error, or_iff_left]
  rintro ⟨_ | _ | xs, -, h⟩
  · exact pure_ne_error h
  · exact pure_ne_error h
  · exact pure_ne_error h

/-! ## Horizons -/

/-- A horizon that is a real number is judged by its double. -/
theorem horizon_eq {r : Value.Real} (h : v.real? = some r) :
    horizon v = (r.toDouble >>= fun x =>
      if x.isNaN then pure (some none)
      else pure (if x.isFinite && Double.zero.le x then some (some r) else none)) := by
  cases v with
  | absent => cases h
  | _ =>
    unfold horizon
    dsimp only
    rw [h]

theorem horizon_of_real?_eq_none (h : v.real? = none) : ∃ a, horizon v = .ok a := by
  cases v with
  | absent => exact ⟨_, rfl⟩
  | _ =>
    unfold horizon
    dsimp only
    rw [h]
    exact ⟨_, rfl⟩

theorem horizon_eq_error_iff : horizon v = .error e ↔ v.IsHuge ∧ Fault.tooLarge = e := by
  cases hr : v.real? with
  | none =>
    obtain ⟨a, ha⟩ := horizon_of_real?_eq_none hr
    rw [ha]
    exact iff_of_false nofun fun h => Value.not_isHuge_of_real?_eq_none hr h.1
  | some r =>
    rw [horizon_eq hr, bind_eq_error, or_iff_left, Value.toDouble_of_real? hr]
    rintro ⟨x, -, h⟩
    split at h
    · exact pure_ne_error h
    · exact pure_ne_error h

end Contract

/-! ## Settings -/

/-- The faults that a value leaks when it is given for a setting. -/
def Setting.Leaks : Setting → Value → Fault → Prop
  | inputs, v, e | periods, v, e | initial, v, e | fixed, v, e => v.Leaks e
  | horizon, v, e => v.IsHuge ∧ Fault.tooLarge = e
  | model, _, _ | outlier, _, _ | unitRootTest, _, _ | stepwise, _, _ | verbose, _, _ | concentrated, _, _
  | arma, _, _ | criterion, _, _ => False

theorem Setting.Leaks.category_eq {s : Setting} {v : Value} {e : Fault} (h : s.Leaks v e) :
    e.category = .unfitValue ∨ e.category = .overflow := by
  cases s with
  | inputs | periods | initial | fixed => exact Value.Leaks.category_eq h
  | horizon =>
    obtain ⟨-, rfl⟩ := h
    exact Or.inr rfl
  | _ => exact absurd h id

/-- **A value leaks a fault exactly when it neither keeps nor breaks the contract.** -/
theorem Setting.verdict_eq_error_iff {s : Setting} {v : Value} {e : Fault} :
    s.verdict v = .error e ↔ s.Leaks v e := by
  cases s with
  | inputs => exact map_eq_error.trans Contract.inputs_eq_error_iff
  | periods => exact map_eq_error.trans Contract.periods_eq_error_iff
  | horizon => exact map_eq_error.trans Contract.horizon_eq_error_iff
  | initial => exact map_eq_error.trans Contract.vector_eq_error_iff
  | fixed => exact map_eq_error.trans Contract.vector_eq_error_iff
  | _ => exact iff_of_false nofun id

end StructuralSeries
