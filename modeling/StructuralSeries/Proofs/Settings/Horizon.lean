import StructuralSeries.Proofs.Double.Whole
import StructuralSeries.Proofs.Settings.Kept

/-!
# The horizon that is asked for

A caller asks for no horizon by leaving it out or by a number that is not a number; any other horizon becomes a whole
number (`Settings.horizon_cases`). That number is the whole part of what the caller wrote, with one exception
(`Value.AsksFor.wholePart?_eq_some_iff`): a whole number of fixed width goes through the nearest double, and past
`Double.exactBound` this need not be the number itself.

Below the bound the exception does not show: whatever goes in, a smaller whole number comes out exactly if it is the
whole part of what went in (`Value.AsksFor.eq_iff_wholePart?_eq_some`).
-/

namespace StructuralSeries

/-- The largest whole number that is not above a real one. -/
def Value.Real.wholePart? : Value.Real → Option Int
  | whole n | word n => some n
  | double x => x.floor?

/-! ## Horizons of a call -/

/-- A value asks for a horizon: it is the real number `r`, and `k` is the whole number that becomes of it. -/
structure Value.AsksFor (v : Value) (r : Value.Real) (k : Int) : Prop where
  real : v.real? = some r
  isNaN : v.isNaN = false
  inRange : ∃ x, r.toDouble = .ok x ∧ x.isFinite = true ∧ Double.zero.le x = true
  settled : (Draft.wholeHorizon (some r)).result = .ok (some k)

/-- A value leaves the horizon open. -/
def Value.AsksForNone (v : Value) : Prop := v = .absent ∨ v.isNaN = true

namespace Value

variable {v : Value} {r : Real}

/-- A real number is no number exactly if its double is none. -/
theorem isNaN_eq_of_toDouble {x : Double} (hr : v.real? = some r) (hx : r.toDouble = .ok x) : v.isNaN = x.isNaN := by
  have hwhole : ∀ n : Int, (Double.ofInt n).isNaN = false := fun _ => rfl
  unfold real? at hr
  split at hr <;> cases hr
  · obtain ⟨-, rfl⟩ := wholeToDouble_eq_ok_iff.1 hx
    exact (hwhole _).symm
  all_goals
    cases hx
    rfl

theorem AsksFor.unique {r' : Real} {k k' : Int} (h : v.AsksFor r k) (h' : v.AsksFor r' k') : k = k' := by
  have hreal := h.real.symm.trans h'.real
  cases hreal
  have hsettled := h.settled.symm.trans h'.settled
  cases hsettled
  rfl

theorem AsksFor.not_asksForNone {k : Int} (h : v.AsksFor r k) : ¬ v.AsksForNone := by
  rintro (rfl | hnan)
  · cases h.real
  · rw [h.isNaN] at hnan
    cases hnan

end Value

namespace Contract

variable {v : Value}

/-- What a kept contract says about a horizon: it is left open, or it is a real number. -/
theorem horizon_cases {asked : Option Value.Real} (h : horizon v = .ok (some asked)) :
    (asked = none ∧ v.AsksForNone) ∨ ∃ r, asked = some r ∧ v.real? = some r ∧ v.isNaN = false := by
  unfold horizon at h
  split at h
  · cases h
    exact Or.inl ⟨rfl, Or.inl rfl⟩
  · split at h
    · cases h
    · next r hr =>
      obtain ⟨x, hx, h⟩ := bind_eq_ok.1 h
      have hnan := Value.isNaN_eq_of_toDouble hr hx
      split at h
      · next hx' =>
        cases h
        exact Or.inl ⟨rfl, Or.inr (hnan.trans hx')⟩
      · next hx' =>
        have h := pure_eq_ok.1 h
        split at h
        · cases h
          exact Or.inr ⟨r, rfl, hr, hnan.trans (Bool.eq_false_iff.2 hx')⟩
        · cases h

end Contract

/-- **The horizon in the settings of a call**: none if the caller leaves it open, and else the whole number that
becomes of it. -/
theorem Settings.horizon_cases {options : List (String × Value)} {s : Settings} (h : (resolve options).result = .ok s) :
    (((options.lookup Setting.horizon.name).getD .absent).AsksForNone ∧ s.horizon = none) ∨
      ∃ r k, ((options.lookup Setting.horizon.name).getD .absent).AsksFor r k ∧ s.horizon = some k := by
  obtain ⟨supplied, draft, horizon, outlier, hs, hd, hhorizon, -, rfl⟩ := resolve_eq_ok_iff.1 h
  have hc := hd.horizon
  rw [Supplied.value_of_ofOptions hs (by decide) (by decide)] at hc
  rcases Contract.horizon_cases hc with ⟨hnone, hopen⟩ | ⟨r, hr, hreal, hnan⟩
  · rw [hnone] at hhorizon
    cases hhorizon
    exact Or.inl ⟨hopen, rfl⟩
  · rw [hr] at hc hhorizon
    obtain ⟨x, hx, hfinite, hpos⟩ := Contract.exists_of_horizon hc
    obtain ⟨k, hk, -⟩ := Draft.exists_of_wholeHorizon hx hfinite hpos
    rw [hk] at hhorizon
    cases hhorizon
    exact Or.inr ⟨r, k, ⟨hreal, hnan, ⟨x, hx, hfinite, hpos⟩, hk⟩, rfl⟩

/-! ## Whole parts -/

namespace Value.AsksFor

variable {v : Value} {r : Value.Real} {k : Int}

theorem nonneg (h : v.AsksFor r k) : 0 ≤ k := by
  obtain ⟨x, hx, hfinite, hpos⟩ := h.inRange
  obtain ⟨n, hn, -⟩ := Draft.exists_of_wholeHorizon hx hfinite hpos
  rw [h.settled] at hn
  cases hn
  exact Int.natCast_nonneg n

/-- A horizon of fixed width is the whole part of its double. -/
theorem floor?_of_word {n : Int} (h : v.AsksFor (.word n) k) : (Double.ofInt n).floor? = some k :=
  Except.ok.inj h.settled

/-- **The whole number is the whole part of what was asked for**, unless that is a whole number of fixed width whose
nearest double is another one. -/
theorem wholePart?_eq_some_iff (h : v.AsksFor r k) :
    r.wholePart? = some k ↔ ∀ n, r = .word n → (Double.ofInt n).floor? = some n := by
  cases r with
  | whole n =>
    have hk : n = k := Option.some.inj (Except.ok.inj h.settled)
    exact iff_of_true (congrArg some hk) fun _ hw => by cases hw
  | double x => exact iff_of_true (Except.ok.inj h.settled) fun _ hw => by cases hw
  | word n =>
    have hk := h.floor?_of_word
    constructor
    · intro hn _ hw
      cases hw
      exact hk.trans hn.symm
    · intro hword
      exact (hword n rfl).symm.trans hk

/-- A horizon of fixed width is not negative, and its double is finite. -/
theorem exists_of_word {n : Int} (h : v.AsksFor (.word n) k) : ∃ m : Nat, n = m ∧ m < Double.wholeBound := by
  obtain ⟨x, hx, hfinite, hpos⟩ := h.inRange
  cases hx
  have hn : 0 ≤ n := Double.zero_le_ofInt_iff.1 hpos
  exact ⟨n.natAbs, (Int.natAbs_of_nonneg hn).symm, Double.isFinite_ofInt_iff.1 hfinite⟩

/-- Up to the bound there is no exception. -/
theorem wholePart?_eq_some (h : v.AsksFor r k) (hbound : ∀ n, r = .word n → n ≤ Double.exactBound) :
    r.wholePart? = some k := by
  refine h.wholePart?_eq_some_iff.2 ?_
  rintro n rfl
  obtain ⟨m, rfl, -⟩ := h.exists_of_word
  exact Double.floor?_ofInt (by exact_mod_cast hbound _ rfl)

/-- **Below the bound nothing is mistaken for a whole part.** -/
theorem eq_iff_wholePart?_eq_some (h : v.AsksFor r k) {m : Nat} (hm : m < Double.exactBound) :
    k = m ↔ r.wholePart? = some (m : Int) := by
  by_cases hbound : ∀ n, r = .word n → n ≤ Double.exactBound
  · rw [h.wholePart?_eq_some hbound, Option.some.injEq]
  · simp only [not_forall] at hbound
    obtain ⟨n, rfl, hn⟩ := hbound
    obtain ⟨w, rfl, hw⟩ := h.exists_of_word
    have hfloor := h.floor?_of_word
    obtain ⟨j, rfl⟩ := Int.eq_ofNat_of_zero_le h.nonneg
    have hj : Double.exactBound ≤ j := Double.le_of_floor?_ofInt (by omega) hw hfloor
    -- both what was asked for and what became of it lie at the bound or past it
    refine iff_of_false (by omega) ?_
    show some (w : Int) ≠ some (m : Int)
    rw [Ne, Option.some.injEq]
    omega

end Value.AsksFor

end StructuralSeries
