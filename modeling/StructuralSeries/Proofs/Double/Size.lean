import StructuralSeries.Proofs.Double.Range
import StructuralSeries.Proofs.Double.Written

/-!
# Signs and whole parts

What the ranks of magnitudes say about the numbers themselves: a ratio of at least one unit does not vanish, so
the quotients of a number above one by counts are positive (`Double.divCount_pos`); a number that is not negative
has a whole part that is not negative either, and below the bound of finite whole numbers
(`Double.exists_floor?`).
-/

namespace StructuralSeries

namespace Format

theorem unit_pos (f : Format) : 0 < Nat.pow 2 f.unitExponent := Nat.two_pow_pos _

/-- A ratio of at least one unit has a positive rank. -/
theorem rank_pos {f : Format} (htop : 0 < f.top) {n d : Nat} (hd : 0 < d)
    (h : d ≤ n * Nat.pow 2 f.unitExponent) : 0 < f.rank n d := by
  unfold rank
  dsimp only
  generalize n * Nat.pow 2 f.unitExponent = scaled at h ⊢
  generalize hs : (scaled / d).log2 - f.fractionBits = stage
  refine Nat.lt_min.2 ⟨htop, ?_⟩
  have hpow : 0 < Nat.pow 2 f.fractionBits := Nat.two_pow_pos _
  cases stage with
  | zero =>
    have hquot : 1 ≤ scaled / d := (Nat.one_le_div_iff hd).2 h
    have hround := div_le_roundDiv scaled (d * Nat.pow 2 0)
    rw [show d * Nat.pow 2 0 = d from Nat.mul_one d] at hround ⊢
    omega
  | succ k =>
    have hstage : 0 < (k + 1) * Nat.pow 2 f.fractionBits := Nat.mul_pos (Nat.succ_pos k) hpow
    omega

/-- In the first stage a magnitude has as many units as its rank. In the others the significand has its leading one,
and the step has doubled. -/
theorem units_cases (f : Format) (rank : Nat) :
    (rank < 2 ^ f.fractionBits ∧ f.units rank = rank) ∨ ∃ q t, t < 2 ^ f.fractionBits ∧
      rank = (q + 1) * 2 ^ f.fractionBits + t ∧ f.units rank = (2 ^ f.fractionBits + t) * 2 ^ q := by
  have hpow : ∀ e, Nat.pow 2 e = 2 ^ e := fun _ => rfl
  have hpos : 0 < 2 ^ f.fractionBits := Nat.two_pow_pos _
  have hsplit : rank / 2 ^ f.fractionBits * 2 ^ f.fractionBits + rank % 2 ^ f.fractionBits = rank :=
    Nat.div_add_mod' _ _
  have hmod := Nat.mod_lt rank hpos
  unfold units stage
  simp only [hpow]
  generalize rank % 2 ^ f.fractionBits = t at hsplit hmod
  cases hq : rank / 2 ^ f.fractionBits with
  | zero =>
    rw [hq, Nat.zero_mul, Nat.zero_add] at hsplit
    exact Or.inl ⟨hsplit ▸ hmod, by simp⟩
  | succ q =>
    rw [hq] at hsplit
    refine Or.inr ⟨q, t, hmod, hsplit.symm, ?_⟩
    rw [show q + 1 - 1 = q from rfl]
    rw [Nat.succ_mul] at hsplit
    congr 1
    omega

/-- A magnitude has at least as many units as its rank. -/
theorem le_units (f : Format) (rank : Nat) : rank ≤ f.units rank := by
  rcases f.units_cases rank with ⟨-, h⟩ | ⟨q, t, -, hrank, hunits⟩
  · exact Nat.le_of_eq h.symm
  · have hq : q + 1 ≤ 2 ^ q := Nat.lt_two_pow_self
    rw [hunits, hrank]
    calc (q + 1) * 2 ^ f.fractionBits + t ≤ (q + 1) * 2 ^ f.fractionBits + (q + 1) * t :=
          Nat.add_le_add_left (Nat.le_mul_of_pos_left t (Nat.succ_pos q)) _
      _ = (2 ^ f.fractionBits + t) * (q + 1) := by rw [← Nat.mul_add, Nat.mul_comm]
      _ ≤ (2 ^ f.fractionBits + t) * 2 ^ q := Nat.mul_le_mul_left _ hq

/-- Before the end of a stage a magnitude has at most the units of the largest significand with its step. -/
theorem units_le {f : Format} {rank s : Nat} (h : rank < (s + 2) * 2 ^ f.fractionBits) :
    f.units rank ≤ (2 ^ (f.fractionBits + 1) - 1) * 2 ^ s := by
  have hdouble : 2 ^ (f.fractionBits + 1) = 2 ^ f.fractionBits + 2 ^ f.fractionBits := by
    rw [Nat.pow_succ, Nat.mul_two]
  rcases f.units_cases rank with ⟨hlt, hunits⟩ | ⟨q, t, ht, hrank, hunits⟩
  · rw [hunits]
    exact Nat.le_trans (by omega) (Nat.le_mul_of_pos_right _ (Nat.two_pow_pos s))
  · have hq : q + 1 < s + 2 := by
      refine Nat.lt_of_mul_lt_mul_right (a := 2 ^ f.fractionBits) ?_
      omega
    rw [hunits]
    exact Nat.mul_le_mul (by omega) (Nat.pow_le_pow_right (by decide) (by omega))

end Format

/-! ## Doubles -/

namespace Double

theorem zero_lt_signed {m : Magnitude} (h : m.rank ≠ 0) : zero.lt (.signed false m) = true := by
  rw [lt, place_zero]
  simp only [place, decide_eq_true_eq]
  omega

section Infinite

variable {m : Magnitude}

theorem isInfinite_iff : m.isInfinite = true ↔ m.rank = Format.double.top := by
  rw [Magnitude.isInfinite, beq_iff_eq]

theorem rank_lt_of_isInfinite (h : m.isInfinite = false) : m.rank < Format.double.top := by
  have hne : m.rank ≠ Format.double.top := fun heq => by simp [isInfinite_iff.2 heq] at h
  exact Nat.lt_of_le_of_ne m.rank_le hne

theorem isInfinite_eq_false (h : m.rank < Format.double.top) : m.isInfinite = false :=
  Bool.eq_false_iff.2 fun hinf => Nat.ne_of_lt h (isInfinite_iff.1 hinf)

end Infinite

/-- A number that is not negative has a plain sign, or it is zero. -/
theorem exists_of_nonneg {x : Double} (h : zero.le x = true) :
    ∃ s m, x = .signed s m ∧ (s = true → m.rank = 0) := by
  rw [le, place_zero] at h
  cases x with
  | nan => simp [place] at h
  | signed s m =>
    refine ⟨s, m, rfl, ?_⟩
    rintro rfl
    simp only [place, decide_eq_true_eq] at h
    omega

theorem unitsOfOne_pos : 0 < Magnitude.unitsOfOne := by
  unfold Magnitude.unitsOfOne
  exact Format.unit_pos Format.double

/-- The whole part of the largest finite double is below the bound. -/
theorem units_div_lt_wholeBound {m : Magnitude} (h : m.rank < Format.double.top) :
    m.units / Magnitude.unitsOfOne < wholeBound := by
  have hbound : (2 ^ (Format.double.fractionBits + 1) - 1) * 2 ^ 2045 < Magnitude.unitsOfOne * wholeBound := by
    decide +kernel
  have hunits : m.units ≤ (2 ^ (Format.double.fractionBits + 1) - 1) * 2 ^ 2045 := Format.units_le h
  exact Nat.div_lt_of_lt_mul (Nat.lt_of_le_of_lt hunits hbound)

/-- **The whole part of a finite number that is not negative** is a natural number below the bound. -/
theorem exists_floor? {x : Double} (hfinite : x.isFinite = true) (h : zero.le x = true) :
    ∃ n : Nat, x.floor? = some (n : Int) ∧ n < wholeBound := by
  obtain ⟨s, m, rfl, hs⟩ := exists_of_nonneg h
  have hinf : m.isInfinite = false := by simpa [isFinite] using hfinite
  refine ⟨m.units / Magnitude.unitsOfOne, ?_, units_div_lt_wholeBound (rank_lt_of_isInfinite hinf)⟩
  unfold floor? signedUnits?
  dsimp only
  rw [if_neg (by simp [hinf])]
  cases s with
  | false => exact congrArg some (Int.natCast_ediv m.units Magnitude.unitsOfOne).symm
  | true =>
    have hzero : m.units = 0 := by
      unfold Magnitude.units
      rw [hs rfl]
      rfl
    rw [hzero, Nat.zero_div]
    exact congrArg some (Int.zero_ediv _)

/-- The double of a whole number has its sign. -/
theorem zero_le_ofInt_iff {n : Int} : zero.le (ofInt n) = true ↔ 0 ≤ n := by
  rw [le, place_zero]
  by_cases hn : n < 0
  · have hrank : 0 < Format.double.rank n.natAbs 1 := by
      refine Format.rank_pos top_pos Nat.one_pos ?_
      exact Nat.mul_pos (by omega) (Format.unit_pos Format.double)
    have hplace : (ofInt n).place = some (-(Format.double.rank n.natAbs 1 : Int)) := by
      unfold ofInt ofRatio
      rw [decide_eq_true hn]
      rfl
    rw [hplace]
    simp only [decide_eq_true_eq]
    omega
  · have hplace : (ofInt n).place = some (Format.double.rank n.natAbs 1 : Int) := by
      unfold ofInt ofRatio
      rw [decide_eq_false hn]
      rfl
    rw [hplace]
    simp only [decide_eq_true_eq]
    omega

theorem place_one : one.place = some (1023 * 2 ^ 52 : Int) := by decide +kernel

/-- A number above one and its quotients by counts that its rank exceeds are positive. -/
theorem divCount_pos {f : Double} (hfinite : f.isFinite = true) (h : f.le .one = false) {count : Nat}
    (hcount : 0 < count) (hle : count ≤ 2 ^ 60) : zero.lt (f.divCount count) = true := by
  rw [le, place_one] at h
  cases f with
  | nan => cases hfinite
  | signed s m =>
    have hinf : m.isInfinite = false := by simpa [isFinite] using hfinite
    cases s with
    | true =>
      simp only [place, decide_eq_false_iff_not] at h
      omega
    | false =>
      simp only [place, decide_eq_false_iff_not] at h
      have hrank : 2 ^ 60 < m.rank := by omega
      have hunits : count ≤ m.units := Nat.le_trans (by omega) (Format.double.le_units m.rank)
      unfold divCount
      dsimp only
      rw [if_neg (by simp [hinf])]
      refine zero_lt_signed (Nat.ne_of_gt ?_)
      refine Format.rank_pos top_pos (Nat.mul_pos unitsOfOne_pos hcount) ?_
      unfold Magnitude.unitsOfOne
      rw [Nat.mul_comm]
      exact Nat.mul_le_mul_right _ hunits

end Double

end StructuralSeries
