import StructuralSeries.Proofs.Double.Rational
import StructuralSeries.Proofs.Double.Rounding

/-!
# Quotients of doubles

The quotient of a finite double by a count is a double that is nearest to the rational quotient
(`Double.isNearest_divCount`). It is the double itself for the count one, and half of it for the count two if the double
is not among the smallest (`Double.toRat?_divCount_two`). Quotients by different counts are told apart as long as the
counts are far below the precision of a double (`Double.lt_divCount`).

Order and value agree: doubles are compared as the rational numbers that they are (`Double.lt_iff_of_toRat?`,
`Double.le_iff_of_toRat?`).
-/

namespace StructuralSeries

/-! ## Values of doubles -/

namespace Format

/-- The value of a place on the line, in units. -/
def unitsAt (f : Format) (z : Int) : Int := if z < 0 then -(f.units z.natAbs) else f.units z.natAbs

theorem units_zero (f : Format) : f.units 0 = 0 := by simp [units, stage]

theorem unitsAt_lt {a b : Int} (f : Format) (hab : a < b) : f.unitsAt a < f.unitsAt b := by
  have hzero := f.units_zero
  have hmono : ∀ {m n : Nat}, m < n → f.units m < f.units n := fun h => f.units_strictMono h
  unfold unitsAt
  split_ifs with ha hb hb
  · have := hmono (show b.natAbs < a.natAbs by omega)
    omega
  · have := hmono (show 0 < a.natAbs by omega)
    omega
  · omega
  · have := hmono (show a.natAbs < b.natAbs by omega)
    omega

/-- **Places are ordered as their values.** -/
theorem unitsAt_lt_iff {a b : Int} (f : Format) : f.unitsAt a < f.unitsAt b ↔ a < b := by
  refine ⟨fun h => Int.not_le.1 fun hle => ?_, f.unitsAt_lt⟩
  rcases Int.lt_or_eq_of_le hle with hlt | rfl
  · exact Int.lt_asymm h (f.unitsAt_lt hlt)
  · exact Int.lt_irrefl _ h

end Format

namespace Double

variable {x y : Double} {q r : ℚ} {m : Magnitude}

theorem unitsOfOne_pos_rat : (0 : ℚ) < Magnitude.unitsOfOne := Nat.cast_pos.2 unitsOfOne_pos

theorem signedUnits?_signed (s : Bool) (h : m.isInfinite = false) :
    (signed s m).signedUnits? = some (if s then -(m.units : Int) else m.units) :=
  if_neg (by simp [h])

theorem toRat?_infinite {s : Bool} (h : m.isInfinite = true) : (signed s m).toRat? = none := by
  have hunits : (signed s m).signedUnits? = none := if_pos h
  rw [toRat?, hunits, Option.map_none]

/-- A number of some value is a sign with a finite magnitude. -/
theorem exists_of_toRat? (h : x.toRat? = some q) :
    ∃ s m, x = .signed s m ∧ m.isInfinite = false ∧
      q = ((if s then -(m.units : Int) else m.units : Int) : ℚ) / (Magnitude.unitsOfOne : ℚ) := by
  cases x with
  | nan => cases h
  | signed s m =>
    cases hinf : m.isInfinite with
    | true =>
      rw [toRat?_infinite hinf] at h
      cases h
    | false =>
      rw [toRat?, signedUnits?_signed s hinf, Option.map_some, Option.some.injEq] at h
      exact ⟨s, m, rfl, hinf, h.symm⟩

/-- A finite number has a place, and its value is the value of its place. -/
theorem exists_place (h : x.toRat? = some q) :
    ∃ z, x.place = some z ∧ q = (Format.double.unitsAt z : ℚ) / (Magnitude.unitsOfOne : ℚ) := by
  obtain ⟨s, m, rfl, -, rfl⟩ := exists_of_toRat? h
  cases s with
  | false =>
    refine ⟨m.rank, rfl, ?_⟩
    rw [Format.unitsAt, if_neg (Int.not_lt.2 (Int.natCast_nonneg _)), Int.natAbs_natCast]
    rfl
  | true =>
    refine ⟨-m.rank, rfl, ?_⟩
    rw [Format.unitsAt, Int.natAbs_neg, Int.natAbs_natCast, if_pos rfl]
    by_cases hrank : m.rank = 0
    · have hzero : m.units = 0 := by rw [Magnitude.units, hrank, Format.units_zero]
      rw [hrank, Format.units_zero, hzero]
      rfl
    · rw [if_pos (show -(m.rank : Int) < 0 by omega)]
      rfl

theorem place_lt_iff {a b : Int} :
    (Format.double.unitsAt a : ℚ) / (Magnitude.unitsOfOne : ℚ) <
      (Format.double.unitsAt b : ℚ) / (Magnitude.unitsOfOne : ℚ) ↔ a < b := by
  rw [div_lt_div_iff_of_pos_right unitsOfOne_pos_rat, Int.cast_lt, Format.double.unitsAt_lt_iff]

/-- **Doubles are ordered as the numbers that they are.** -/
theorem lt_iff_of_toRat? (hx : x.toRat? = some q) (hy : y.toRat? = some r) : x.lt y = true ↔ q < r := by
  obtain ⟨a, ha, rfl⟩ := exists_place hx
  obtain ⟨b, hb, rfl⟩ := exists_place hy
  rw [place_lt_iff, lt, ha, hb, decide_eq_true_eq]

theorem le_iff_of_toRat? (hx : x.toRat? = some q) (hy : y.toRat? = some r) : x.le y = true ↔ q ≤ r := by
  obtain ⟨a, ha, rfl⟩ := exists_place hx
  obtain ⟨b, hb, rfl⟩ := exists_place hy
  rw [← not_lt, place_lt_iff, not_lt, le, ha, hb, decide_eq_true_eq]

theorem isFinite_of_toRat? (h : x.toRat? = some q) : x.isFinite = true := by
  obtain ⟨s, m, rfl, hinf, -⟩ := exists_of_toRat? h
  simp [isFinite, hinf]

theorem isNaN_of_toRat? (h : x.toRat? = some q) : x.isNaN = false := by
  obtain ⟨s, m, rfl, -, -⟩ := exists_of_toRat? h
  rfl

/-- The value of a magnitude with a plain sign. -/
theorem toRat?_signed (h : m.rank < Format.double.top) :
    (signed false m).toRat? = some ((m.units : ℚ) / (Magnitude.unitsOfOne : ℚ)) := by
  rw [toRat?, signedUnits?_signed false (isInfinite_eq_false h)]
  rfl

/-- A positive finite number is a magnitude with a plain sign. -/
theorem exists_of_toRat?_pos (h : x.toRat? = some q) (hq : 0 < q) :
    ∃ m : Magnitude, x = .signed false m ∧ m.rank < Format.double.top ∧
      q * (Magnitude.unitsOfOne : ℚ) = (m.units : ℚ) := by
  have hone := unitsOfOne_pos_rat
  obtain ⟨s, m, rfl, hinf, rfl⟩ := exists_of_toRat? h
  cases s with
  | false => exact ⟨m, rfl, rank_lt_of_isInfinite hinf, div_mul_cancel₀ _ hone.ne'⟩
  | true =>
    exfalso
    rw [if_pos rfl, div_pos_iff_of_pos_right hone] at hq
    have hle : (0 : ℚ) ≤ (m.units : ℚ) := Nat.cast_nonneg _
    push_cast at hq
    linarith

/-! ## Quotients -/

/-- A double is nearest to a number: it is finite, and no finite double is nearer. -/
def IsNearest (x : Double) (q : ℚ) : Prop :=
  ∃ r, x.toRat? = some r ∧ ∀ (y : Double) (s : ℚ), y.toRat? = some s → |r - q| ≤ |s - q|

variable {c d : Nat}

/-- The rank of a quotient is not past the rank of the dividend. -/
theorem openRank_le (m : Magnitude) (hc : 0 < c) : Format.double.openRank m.units c ≤ m.rank := by
  have hmono := Format.openRank_mono (f := Format.double) hc Nat.one_pos
    (show m.units * 1 ≤ m.units * c from Nat.mul_le_mul_left _ hc)
  rwa [show Format.double.openRank m.units 1 = m.rank from Format.double.openRank_units m.rank] at hmono

/-- The rank of a ratio in units. -/
theorem rank_unitsOfOne (n : Nat) {d : Nat} (hd : 0 < d) :
    Format.double.rank n (Magnitude.unitsOfOne * d) = min Format.double.top (Format.double.openRank n d) := by
  unfold Magnitude.unitsOfOne
  exact Format.double.rank_scaled n hd

/-- The quotient of a positive finite number by a count. -/
theorem divCount_signed (h : m.rank < Format.double.top) (hc : 0 < c) :
    (signed false m).divCount c =
      .signed false ⟨Format.double.openRank m.units c, Nat.le_trans (openRank_le m hc) m.rank_le⟩ := by
  have hquotient : (signed false m).divCount c = ofRatio false m.units (Magnitude.unitsOfOne * c) :=
    if_neg (by simp [isInfinite_eq_false h])
  have hrank : Format.double.rank m.units (Magnitude.unitsOfOne * c) = Format.double.openRank m.units c := by
    rw [rank_unitsOfOne m.units hc, Nat.min_eq_right (Nat.le_trans (openRank_le m hc) m.rank_le)]
  rw [hquotient, ofRatio, Magnitude.ofRatio]
  simp only [hrank]

theorem toRat?_divCount_signed (h : m.rank < Format.double.top) (hc : 0 < c) :
    ((signed false m).divCount c).toRat? =
      some ((Format.double.units (Format.double.openRank m.units c) : ℚ) / (Magnitude.unitsOfOne : ℚ)) := by
  rw [divCount_signed h hc]
  exact toRat?_signed (Nat.lt_of_le_of_lt (openRank_le m hc) h)

/-- **The quotient by a count is correctly rounded.** -/
theorem isNearest_divCount (h : x.toRat? = some q) (hq : 0 < q) (hc : 0 < c) : (x.divCount c).IsNearest (q / c) := by
  obtain ⟨m, rfl, htop, hunits⟩ := exists_of_toRat?_pos h hq
  refine ⟨_, toRat?_divCount_signed htop hc, fun y s hy => ?_⟩
  have hone := unitsOfOne_pos_rat
  have hcount : (0 : ℚ) < c := Nat.cast_pos.2 hc
  -- both distances are differences of whole numbers of units, over the same denominator
  have hdistance : ∀ u : ℤ, |(u : ℚ) / (Magnitude.unitsOfOne : ℚ) - q / c| =
      (|u * (c : ℤ) - (m.units : ℤ)| : ℤ) / ((Magnitude.unitsOfOne : ℚ) * c) := by
    intro u
    have hsame : (u : ℚ) / (Magnitude.unitsOfOne : ℚ) - q / c =
        ((u * (c : ℤ) - (m.units : ℤ) : ℤ) : ℚ) / ((Magnitude.unitsOfOne : ℚ) * c) := by
      rw [div_sub_div _ _ hone.ne' hcount.ne', mul_comm _ q, hunits]
      push_cast
      rfl
    rw [hsame, abs_div, abs_of_pos (mul_pos hone hcount), Int.cast_abs]
  obtain ⟨z, -, rfl⟩ := exists_place hy
  rw [hdistance, ← Int.cast_natCast (R := ℚ) (Format.double.units _), hdistance,
    div_le_div_iff_of_pos_right (mul_pos hone hcount), Int.cast_le]
  rcases lt_or_ge z 0 with hz | hz
  · -- a number below zero is further off than zero is
    refine (Format.double.openRank_nearest m.units hc 0).trans ?_
    rw [Format.unitsAt, if_pos hz, Format.units_zero]
    have hpos : (0 : ℤ) ≤ (Format.double.units z.natAbs : ℤ) * c := by positivity
    have hdividend : (0 : ℤ) ≤ (m.units : ℤ) := Int.natCast_nonneg _
    rw [abs_of_nonpos (by push_cast; linarith), abs_of_nonpos (by linarith)]
    push_cast
    linarith
  · rw [Format.unitsAt, if_neg (not_lt.2 hz)]
    exact Format.double.openRank_nearest m.units hc z.natAbs

theorem divCount_one (h : x.toRat? = some q) (hq : 0 < q) : x.divCount 1 = x := by
  obtain ⟨m, rfl, htop, -⟩ := exists_of_toRat?_pos h hq
  rw [divCount_signed htop Nat.one_pos]
  have hrank : Format.double.openRank m.units 1 = m.rank := Format.double.openRank_units m.rank
  simp only [hrank]

/-- **Half of a number of at least one is a double.** -/
theorem toRat?_divCount_two (h : x.toRat? = some q) (hq : 1 ≤ q) : (x.divCount 2).toRat? = some (q / 2) := by
  obtain ⟨m, rfl, htop, hunits⟩ := exists_of_toRat?_pos h (by linarith)
  have hlarge : 2 * 2 ^ Format.double.fractionBits ≤ m.rank := by
    by_contra hlt
    have hfew : m.units ≤ (2 ^ (Format.double.fractionBits + 1) - 1) * 2 ^ 0 :=
      Format.units_le (f := Format.double) (s := 0) (Nat.not_le.1 hlt)
    have hone : (2 ^ (Format.double.fractionBits + 1) - 1) * 2 ^ 0 < Magnitude.unitsOfOne := by decide +kernel
    have hless : (m.units : ℚ) < Magnitude.unitsOfOne := Nat.cast_lt.2 (Nat.lt_of_le_of_lt hfew hone)
    have := mul_le_mul_of_nonneg_right hq unitsOfOne_pos_rat.le
    linarith
  obtain ⟨k, hk⟩ := Format.exists_doubled hlarge
  have hdouble : m.units = Format.double.units k * 2 := by
    rw [Magnitude.units, ← hk, Format.units_doubled, Nat.mul_comm]
  rw [toRat?_divCount_signed htop Nat.two_pos, Format.openRank_of_units Nat.two_pos hdouble]
  have hone := unitsOfOne_pos_rat
  rw [hdouble] at hunits
  push_cast at hunits
  refine congrArg some ?_
  rw [div_eq_div_iff hone.ne' two_ne_zero]
  linarith

/-- A nearest double is not below any double that the number is not below. -/
theorem IsNearest.le {Q s : ℚ} (h : x.IsNearest Q) (hx : x.toRat? = some r) (hy : y.toRat? = some s) (hs : s ≤ Q) :
    s ≤ r := by
  obtain ⟨r', hr', hnearest⟩ := h
  obtain rfl : r' = r := Option.some.inj (hr'.symm.trans hx)
  by_contra hlt
  have hcloser := hnearest y s hy
  rw [abs_of_nonpos (by linarith), abs_of_nonpos (by linarith)] at hcloser
  linarith

/-- A whole number up to the bound is its own double. -/
theorem toRat?_ofInt {n : Nat} (h : n ≤ exactBound) : (ofInt n).toRat? = some (n : ℚ) := by
  have hfinite : (Magnitude.ofRatio n 1).rank < Format.double.top :=
    (rank_lt_top_iff n).2 (Nat.lt_of_le_of_lt h exactBound_lt_wholeBound)
  rw [ofInt_natCast, toRat?_signed hfinite]
  have hunits : (Magnitude.ofRatio n 1).units = n * Magnitude.unitsOfOne := units_rank h
  rw [hunits, Nat.cast_mul, mul_div_cancel_right₀ _ unitsOfOne_pos_rat.ne']

theorem toRat?_one : one.toRat? = some 1 := by
  have h := toRat?_ofInt (n := 1) (by decide)
  rwa [Nat.cast_one] at h

/-- The quotients of a number of at least one by counts up to this one are told apart. -/
def countBound : Nat := 2 ^ 40

/-- Whole quotients of a number by two counts are told apart, if both are close to the number once they are multiplied
again. -/
theorem lt_of_close {a b c d u : Nat} (hcd : c < d) (hd : d ≤ countBound) (hu : 0 < u)
    (hlower : 2 ^ 53 * |(a * c : ℤ) - u| ≤ u) (hupper : 2 ^ 53 * |(b * d : ℤ) - u| ≤ u) : b < a := by
  by_contra hle
  have hstep : (a * c + a : ℤ) ≤ b * d := by
    have hmul : a * (c + 1) ≤ b * d := Nat.mul_le_mul (Nat.not_lt.1 hle) hcd
    zify at hmul
    linarith
  have hbelow := neg_abs_le ((a * c : ℤ) - u)
  have habove := le_abs_self ((b * d : ℤ) - u)
  -- the step from one count to the next is a whole quotient, so that would be small
  have hsmall : (2 ^ 53 * a : ℤ) ≤ 2 * u := by linarith
  have hscaled := mul_le_mul_of_nonneg_right hsmall (Int.natCast_nonneg c)
  have hcount : (2 * c : ℤ) < 2 ^ 53 - 1 := by
    have : c < 2 ^ 40 := Nat.lt_of_lt_of_le hcd hd
    omega
  have hproduct := mul_pos (Int.natCast_pos.2 hu) (sub_pos.2 hcount)
  linarith

/-- **Quotients by different counts differ.** The rounding of a quotient moves it by less than the step from one count
to the next. -/
theorem lt_divCount {d : Nat} (h : x.toRat? = some q) (hq : 1 ≤ q) (hc : 0 < c) (hcd : c < d)
    (hd : d ≤ countBound) : (x.divCount d).lt (x.divCount c) = true := by
  obtain ⟨m, rfl, htop, hunits⟩ := exists_of_toRat?_pos h (by linarith)
  have hd' : 0 < d := by omega
  rw [lt_iff_of_toRat? (toRat?_divCount_signed htop hd') (toRat?_divCount_signed htop hc),
    div_lt_div_iff_of_pos_right unitsOfOne_pos_rat, Nat.cast_lt]
  have hlarge : countBound * 2 ^ 52 ≤ m.units := by
    have hone : (countBound * 2 ^ 52 : ℕ) ≤ Magnitude.unitsOfOne := by decide +kernel
    have hle : Magnitude.unitsOfOne ≤ m.units := by
      have := mul_le_mul_of_nonneg_right hq unitsOfOne_pos_rat.le
      rw [one_mul, hunits] at this
      exact_mod_cast this
    exact Nat.le_trans hone hle
  have hclose : ∀ e, 0 < e → e ≤ countBound →
      2 ^ 53 * |(Format.double.units (Format.double.openRank m.units e) * e : ℤ) - m.units| ≤ m.units := by
    intro e he hle
    refine Format.double.openRank_close m.units he (Nat.le_trans ?_ hlarge)
    rw [Nat.mul_comm]
    exact Nat.mul_le_mul_right _ hle
  have hpos : 0 < m.units := Nat.lt_of_lt_of_le (by decide) hlarge
  exact lt_of_close hcd hd hpos (hclose c hc (by omega)) (hclose d hd' hd)

end Double

end StructuralSeries
