import StructuralSeries.Proofs.Double.Size

/-!
# Whole numbers that doubles hold

Up to `2 ^ 53` every whole number is a double, so it is the whole part of the double that is nearest to it
(`Double.floor?_ofInt`). Past that the nearest double may be another number, but it does not fall below the bound
(`Double.le_of_floor?_ofInt`).

A whole number is shifted until its leading one stands where a significand has it. Up to the bound this shift loses
nothing, and the stage of its rank undoes it.
-/

namespace StructuralSeries

namespace Format

theorem roundDiv_mul_self {m d : Nat} (hd : 0 < d) : roundDiv (m * d) d = m := by
  unfold roundDiv
  rw [Nat.mul_mod_left, Nat.mul_div_cancel m hd, if_pos (by omega)]

/-- The magnitude of a stage and a significand. -/
theorem units_of_stage (f : Format) (q : Nat) {t : Nat} (ht : t < 2 ^ f.fractionBits) :
    f.units ((q + 1) * 2 ^ f.fractionBits + t) = (2 ^ f.fractionBits + t) * 2 ^ q := by
  have hpow : ∀ e, Nat.pow 2 e = 2 ^ e := fun _ => rfl
  have hdiv : ((q + 1) * 2 ^ f.fractionBits + t) / 2 ^ f.fractionBits = q + 1 := by
    rw [Nat.mul_comm, Nat.mul_add_div (Nat.two_pow_pos _), Nat.div_eq_of_lt ht, Nat.add_zero]
  have hsub : (q + 1) * 2 ^ f.fractionBits + t - q * 2 ^ f.fractionBits = 2 ^ f.fractionBits + t := by
    rw [Nat.succ_mul]
    omega
  unfold units stage
  rw [hpow, hdiv, Nat.add_sub_cancel, hpow, hsub]

/-- **A whole number that fits a significand is its own magnitude.** -/
theorem units_rank_one {f : Format} (hf : f.fractionBits ≤ f.unitExponent) {n : Nat} (hn : n ≠ 0)
    (hfits : n.log2 ≤ f.fractionBits)
    (htop : (n.log2 + (f.unitExponent - f.fractionBits) + 2) * 2 ^ f.fractionBits ≤ f.top) :
    f.units (f.rank n 1) = n * 2 ^ f.unitExponent := by
  obtain ⟨shift, hshift⟩ := Nat.exists_eq_add_of_le hfits
  have hscale : n * 2 ^ f.fractionBits = n * 2 ^ shift * 2 ^ n.log2 := by
    rw [hshift, Nat.pow_add, Nat.mul_assoc, Nat.mul_comm (2 ^ shift)]
  obtain ⟨hlow, hhigh⟩ := significand_bounds f.fractionBits hn
  have hlt : n * 2 ^ shift < 2 * 2 ^ f.fractionBits := by
    have h := Nat.mul_lt_mul_of_pos_right (Nat.lt_log2_self (n := n)) (Nat.two_pow_pos shift)
    rwa [Nat.pow_succ, Nat.mul_comm (2 ^ n.log2), Nat.mul_assoc, ← Nat.pow_add, ← hshift] at h
  rw [rank_one hf hn, hscale, roundDiv_mul_self (Nat.two_pow_pos _)]
  rw [hscale, roundDiv_mul_self (Nat.two_pow_pos _)] at hlow
  obtain ⟨t, ht⟩ := Nat.exists_eq_add_of_le hlow
  generalize hq : n.log2 + (f.unitExponent - f.fractionBits) = q at htop ⊢
  have hstage : q * 2 ^ f.fractionBits + (2 ^ f.fractionBits + t) = (q + 1) * 2 ^ f.fractionBits + t := by
    rw [Nat.succ_mul, Nat.add_assoc]
  have hsplit : (q + 2) * 2 ^ f.fractionBits = (q + 1) * 2 ^ f.fractionBits + 2 ^ f.fractionBits := Nat.succ_mul _ _
  rw [ht, hstage, Nat.min_eq_right (by omega), units_of_stage f q (by omega), ← ht, Nat.mul_assoc, ← Nat.pow_add]
  congr 2
  omega

/-- Past the whole numbers that fit a significand the magnitudes only grow. -/
theorem le_units_of_le_rank {f : Format} {q rank : Nat} (h : (q + 1) * 2 ^ f.fractionBits ≤ rank) :
    2 ^ f.fractionBits * 2 ^ q ≤ f.units rank := by
  rcases f.units_cases rank with ⟨hlt, -⟩ | ⟨q', t, ht, hrank, hunits⟩
  · have hle : 2 ^ f.fractionBits ≤ (q + 1) * 2 ^ f.fractionBits := Nat.le_mul_of_pos_left _ (Nat.succ_pos q)
    omega
  · have hq : q < q' + 1 := by
      refine Nat.lt_of_succ_lt_succ (Nat.lt_of_mul_lt_mul_right (a := 2 ^ f.fractionBits) ?_)
      rw [Nat.succ_mul (q' + 1)]
      show (q + 1) * 2 ^ f.fractionBits < _
      omega
    rw [hunits]
    exact Nat.mul_le_mul (Nat.le_add_right _ _) (Nat.pow_le_pow_right (by decide) (Nat.le_of_lt_succ hq))

end Format

namespace Double

/-- The first whole number whose successor is no double. -/
def exactBound : Nat := 2 ^ 53

/-- The double of a natural number has a plain sign. -/
theorem ofInt_natCast (n : Nat) : ofInt n = .signed false (.ofRatio n 1) := by
  unfold ofInt ofRatio
  rw [decide_eq_false (by omega), Int.natAbs_natCast]

/-- The whole part of the double that is nearest to a natural number. -/
theorem floor?_ofInt_natCast {n : Nat} (h : n < wholeBound) :
    (ofInt n).floor? = some ((Format.double.units (Format.double.rank n 1) / Magnitude.unitsOfOne : Nat) : Int) := by
  have hfinite : (ofInt n).isFinite = true := isFinite_ofInt_iff.2 h
  rw [ofInt_natCast] at hfinite ⊢
  have hinf : (Magnitude.ofRatio n 1).isInfinite = false := by simpa [isFinite] using hfinite
  unfold floor? signedUnits?
  dsimp only
  rw [if_neg (by simp [hinf])]
  exact congrArg some (Int.natCast_ediv _ Magnitude.unitsOfOne).symm

theorem units_rank {n : Nat} (h : n ≤ exactBound) :
    Format.double.units (Format.double.rank n 1) = n * Magnitude.unitsOfOne := by
  rcases Nat.eq_zero_or_pos n with rfl | hpos
  · rw [Format.rank_zero, Nat.zero_mul]
    rfl
  · rcases Nat.lt_or_eq_of_le h with hlt | rfl
    · have hlog : n.log2 < 53 := (Nat.log2_lt (by omega)).2 hlt
      have hpow : ∀ e, Nat.pow 2 e = 2 ^ e := fun _ => rfl
      unfold Magnitude.unitsOfOne
      rw [hpow]
      refine Format.units_rank_one (by decide) (by omega) (Nat.le_of_lt_succ hlog) ?_
      show (n.log2 + (1074 - 52) + 2) * 2 ^ 52 ≤ 2047 * 2 ^ 52
      exact Nat.mul_le_mul_right _ (by omega)
    -- the bound itself has one bit more, and it is a power of two
    · decide +kernel

theorem exactBound_lt_wholeBound : exactBound < wholeBound := by decide +kernel

/-- **Up to the bound a whole number is its own double.** -/
theorem floor?_ofInt {n : Nat} (h : n ≤ exactBound) : (ofInt n).floor? = some (n : Int) := by
  rw [floor?_ofInt_natCast (Nat.lt_of_le_of_lt h exactBound_lt_wholeBound), units_rank h,
    Nat.mul_div_cancel _ unitsOfOne_pos]

/-- Past the bound the nearest double stays there. -/
theorem le_of_floor?_ofInt {n k : Nat} (h : exactBound ≤ n) (hn : n < wholeBound)
    (hk : (ofInt n).floor? = some (k : Int)) : exactBound ≤ k := by
  have hne : n ≠ 0 := by
    rintro rfl
    exact absurd h (by decide)
  have hlog : 53 ≤ n.log2 := (Nat.le_log2 hne).2 h
  obtain ⟨hlow, -⟩ := Format.significand_bounds 52 hne
  have hrank : (1075 + 1) * 2 ^ 52 ≤ Format.double.rank n 1 := by
    rw [Format.rank_one (by decide) hne]
    show _ ≤ min (2047 * 2 ^ 52) ((n.log2 + 1022) * 2 ^ 52 + Format.roundDiv (n * 2 ^ 52) (2 ^ n.log2))
    refine Nat.le_min.2 ⟨by omega, ?_⟩
    omega
  have hunits : 2 ^ Format.double.fractionBits * 2 ^ 1075 ≤ Format.double.units (Format.double.rank n 1) :=
    Format.le_units_of_le_rank hrank
  rw [floor?_ofInt_natCast hn, Option.some.injEq] at hk
  have hk : Format.double.units (Format.double.rank n 1) / Magnitude.unitsOfOne = k := by exact_mod_cast hk
  rw [← hk, Nat.le_div_iff_mul_le unitsOfOne_pos]
  refine Nat.le_trans (Nat.le_of_eq ?_) hunits
  decide +kernel

end Double

end StructuralSeries
