import StructuralSeries.Proofs.Double.Size
import StructuralSeries.Proofs.Settings.Drafts

/-!
# What kept contracts promise

A setting that keeps its contract is known by what it means: a vector has numbers in it, periods are positive, a
horizon is a natural number that a double can count to. The settings of a call promise all of this together
(`Settings.promises_of_resolve`), whatever values they were read from.

Each contract is turned into the conditions under which it gives one meaning or another; the conditions are those
that its reading asks for, one after the other.
-/

namespace StructuralSeries

namespace Contract

/-! ## Values that may be left out -/

section LeftOut

variable {α β : Type} {isNone : Except Fault Bool} {read : Except Fault β}
  {k : β → Except Fault (Option (Option α))}

theorem leftOut_iff (hk : ∀ b, k b ≠ .ok (some none)) :
    (isNone >>= fun b => if b then pure (some none) else read >>= k) = .ok (some none) ↔
      isNone = .ok true := by
  constructor
  · intro h
    obtain ⟨b, hb, h⟩ := bind_eq_ok.1 h
    cases b with
    | true => exact hb
    | false =>
      obtain ⟨x, -, h⟩ := bind_eq_ok.1 h
      exact absurd h (hk x)
  · intro h
    rw [h]
    rfl

theorem given_iff {a : α} :
    (isNone >>= fun b => if b then pure (some none) else read >>= k) = .ok (some (some a)) ↔
      isNone = .ok false ∧ ∃ b, read = .ok b ∧ k b = .ok (some (some a)) := by
  constructor
  · intro h
    obtain ⟨b, hb, h⟩ := bind_eq_ok.1 h
    cases b with
    | true => cases h
    | false => exact ⟨hb, bind_eq_ok.1 h⟩
  · rintro ⟨hb, b, hread, h⟩
    rw [hb, ok_bind, if_neg Bool.false_ne_true, hread, ok_bind, h]

end LeftOut

/-! ## Matrices and vectors -/

variable {v : Value}

theorem inputs_eq_none_iff : inputs v = .ok (some none) ↔ noInputs v = .ok true := by
  unfold inputs
  refine leftOut_iff ?_
  rintro (_ | g) h
  · cases h
  · have h := pure_eq_ok.1 h
    split at h
    · cases h
    · cases h

theorem inputs_eq_some_iff {g : Grid Double} :
    inputs v = .ok (some (some g)) ↔ noInputs v = .ok false ∧ v.doubles? = .ok (some g) ∧ g.axes ≤ 2 := by
  unfold inputs
  rw [given_iff]
  refine and_congr_right fun _ => ⟨?_, ?_⟩
  · rintro ⟨_ | g', hread, h⟩
    · cases h
    · have h := pure_eq_ok.1 h
      split at h
      · next hle =>
        cases h
        exact ⟨hread, hle⟩
      · cases h
  · rintro ⟨hread, hle⟩
    exact ⟨some g, hread, by simp [hle, pure, Except.pure]⟩

theorem vector_eq_none_iff : vector v = .ok (some none) ↔ v.isUnset = .ok true := by
  unfold vector
  refine leftOut_iff ?_
  rintro (_ | g) h
  · cases h
  · have h := pure_eq_ok.1 h
    split at h
    · cases h
    · cases h

theorem vector_eq_some_iff {xs : List Double} :
    vector v = .ok (some (some xs)) ↔
      v.isUnset = .ok false ∧ ∃ g, v.doubles? = .ok (some g) ∧ (g.axes ≤ 1 ∧ g.size ≠ 0) ∧ g.data = xs := by
  unfold vector
  rw [given_iff]
  refine and_congr_right fun _ => ⟨?_, ?_⟩
  · rintro ⟨_ | g, hread, h⟩
    · cases h
    · have h := pure_eq_ok.1 h
      split at h
      · next hg =>
        cases h
        exact ⟨g, hread, hg, rfl⟩
      · cases h
  · rintro ⟨g, hread, hg, rfl⟩
    exact ⟨some g, hread, by simp [hg, pure, Except.pure]⟩

theorem ne_nil_of_vector {xs : List Double} (h : vector v = .ok (some (some xs))) : xs ≠ [] := by
  obtain ⟨-, g, -, ⟨-, hsize⟩, rfl⟩ := vector_eq_some_iff.1 h
  intro hnil
  exact hsize (List.length_eq_zero_iff.2 hnil)

/-- Periods are a vector of numbers that can be periods. -/
theorem periods_eq_some_iff {xs : List Double} :
    periods v = .ok (some (some xs)) ↔ vector v = .ok (some (some xs)) ∧ arePeriods xs = true := by
  unfold periods
  constructor
  · intro h
    obtain ⟨r, hr, h⟩ := bind_eq_ok.1 h
    rcases r with _ | _ | ys
    · cases h
    · cases h
    · have h := pure_eq_ok.1 h
      split at h
      · next hp =>
        cases h
        exact ⟨hr, hp⟩
      · cases h
  · rintro ⟨hv, hp⟩
    rw [hv]
    simp [hp, pure, Except.pure]

theorem arePeriods_iff {xs : List Double} :
    arePeriods xs = true ↔ (∀ x ∈ xs, x.isFinite = true ∧ Double.zero.lt x = true) ∧ xs.Nodup := by
  simp [arePeriods, List.Nodup]

theorem pos_of_arePeriods {xs : List Double} (h : arePeriods xs = true) : ∀ x ∈ xs, Double.zero.lt x = true :=
  fun x hx => ((arePeriods_iff.1 h).1 x hx).2

/-! ## Horizons -/

/-- A horizon that is given is a real number whose double is finite and not negative. -/
theorem exists_of_horizon {r : Value.Real} (h : horizon v = .ok (some (some r))) :
    ∃ x, r.toDouble = .ok x ∧ x.isFinite = true ∧ Double.zero.le x = true := by
  unfold horizon at h
  split at h
  · cases h
  · split at h
    · cases h
    · obtain ⟨x, hx, h⟩ := bind_eq_ok.1 h
      split at h
      · cases h
      · have h := pure_eq_ok.1 h
        split at h
        · next hc =>
          cases h
          rw [Bool.and_eq_true] at hc
          exact ⟨x, hx, hc⟩
        · cases h

end Contract

theorem Value.wholeToDouble_eq_ok_iff {n : Int} {x : Double} :
    wholeToDouble n = .ok x ↔ n.natAbs < Double.wholeBound ∧ Double.ofInt n = x := by
  unfold wholeToDouble
  by_cases h : n.natAbs < Double.wholeBound
  · rw [if_pos (Double.isFinite_ofInt_iff.2 h)]
    simp [h]
  · rw [if_neg fun hc => h (Double.isFinite_ofInt_iff.1 hc)]
    simp [h]

/-- The whole part of a horizon that keeps its contract is a natural number below the bound. -/
theorem Draft.exists_of_wholeHorizon {r : Value.Real} {x : Double} (hx : r.toDouble = .ok x)
    (hfinite : x.isFinite = true) (hpos : Double.zero.le x = true) :
    ∃ n : Nat, (wholeHorizon (some r)).result = .ok (some (n : Int)) ∧ n < Double.wholeBound := by
  cases r with
  | whole n =>
    obtain ⟨hbound, rfl⟩ := Value.wholeToDouble_eq_ok_iff.1 hx
    have hn : 0 ≤ n := Double.zero_le_ofInt_iff.1 hpos
    refine ⟨n.natAbs, ?_, hbound⟩
    rw [Int.natAbs_of_nonneg hn]
    rfl
  | word n =>
    cases hx
    obtain ⟨k, hk, hbound⟩ := Double.exists_floor? hfinite hpos
    exact ⟨k, congrArg Except.ok hk, hbound⟩
  | double y =>
    cases hx
    obtain ⟨k, hk, hbound⟩ := Double.exists_floor? hfinite hpos
    exact ⟨k, congrArg Except.ok hk, hbound⟩

/-! ## Settings -/

namespace Settings

/-- What the settings of a call promise to the stages that read them. -/
structure Promises (s : Settings) : Prop where
  periods_ne_nil : ∀ xs ∈ s.periods, xs ≠ []
  arePeriods : ∀ xs ∈ s.periods, Contract.arePeriods xs = true
  horizon : ∀ h ∈ s.horizon, ∃ n : Nat, h = n ∧ n < Double.wholeBound
  initial_ne_nil : ∀ xs ∈ s.initial, xs ≠ []
  fixed_ne_nil : ∀ xs ∈ s.fixed, xs ≠ []

/-- **The settings of a call keep their promises.** -/
theorem promises_of_resolve {options : List (String × Value)} {s : Settings}
    (h : (resolve options).result = .ok s) : s.Promises := by
  obtain ⟨supplied, draft, horizon, outlier, -, hd, hhorizon, -, rfl⟩ := resolve_eq_ok_iff.1 h
  have hperiods : ∀ xs ∈ draft.periods, Contract.vector (supplied.value .periods) = .ok (some (some xs)) ∧
      Contract.arePeriods xs = true := by
    intro xs hxs
    have hp := hd.periods
    rw [show draft.periods = some xs from hxs] at hp
    exact Contract.periods_eq_some_iff.1 hp
  refine ⟨fun xs hxs => Contract.ne_nil_of_vector (hperiods xs hxs).1, fun xs hxs => (hperiods xs hxs).2, ?_, ?_, ?_⟩
  · intro n hn
    have hn : horizon = some n := hn
    cases hr : draft.horizon with
    | none =>
      rw [hr, hn] at hhorizon
      cases hhorizon
    | some r =>
      have hc := hd.horizon
      rw [hr] at hc
      obtain ⟨x, hx, hfinite, hpos⟩ := Contract.exists_of_horizon hc
      obtain ⟨k, hk, hbound⟩ := Draft.exists_of_wholeHorizon hx hfinite hpos
      rw [hr, hk, hn] at hhorizon
      cases hhorizon
      exact ⟨k, rfl, hbound⟩
  · intro xs hxs
    have hi := hd.initial
    rw [show draft.initial = some xs from hxs] at hi
    exact Contract.ne_nil_of_vector hi
  · intro xs hxs
    have hf := hd.fixed
    rw [show draft.fixed = some xs from hxs] at hf
    exact Contract.ne_nil_of_vector hf

/-- The inputs of settings are a matrix. -/
theorem axes_le_of_resolve {options : List (String × Value)} {s : Settings} (h : (resolve options).result = .ok s) :
    ∀ g ∈ s.inputs, g.axes ≤ 2 := by
  obtain ⟨supplied, draft, horizon, outlier, -, hd, -, -, rfl⟩ := resolve_eq_ok_iff.1 h
  intro g hg
  have hinputs := hd.inputs
  rw [show draft.inputs = some g from hg] at hinputs
  exact (Contract.inputs_eq_some_iff.1 hinputs).2.2

end Settings

end StructuralSeries
