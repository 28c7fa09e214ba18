import Mathlib.Data.Nat.Log
import Mathlib.Tactic.Linarith
import Mathlib.Tactic.Positivity
import Mathlib.Tactic.Ring
import StructuralSeries.Proofs.Double.Whole

/-!
# Correct rounding

The rank of a ratio is that of a nearest magnitude (`Format.openRank_nearest`). So ranks follow the order of ratios
(`Format.openRank_mono`), and a ratio that is a magnitude has the rank of this magnitude (`Format.openRank_of_units`).

## Shape

* `Format.IsSignificand` — a stage and a significand that belong to each other; the magnitude is the significand times
  the step of the stage, also where the significand has been rounded up past its stage
* `Format.openRank` — the rank of a ratio of units, were there no largest magnitude
* `Format.openRank_spec` — its stage and its significand; everything else follows from these
-/

namespace StructuralSeries.Format

/-! ## Rounded quotients -/

section RoundDiv

variable {n d n' d' m : Nat}

theorem roundDiv_le_iff (hd : 0 < d) :
    roundDiv n d ≤ m ↔ 2 * n < (2 * m + 1) * d ∨ 2 * n = (2 * m + 1) * d ∧ m % 2 = 0 := by
  have hsplit : n / d * d + n % d = n := Nat.div_add_mod' n d
  have hr : n % d < d := Nat.mod_lt n hd
  have hodd : (2 * m + 1) * d = 2 * (m * d) + d := by ring
  rw [hodd]
  -- the quotient lies below `m`, at `m` or above it
  rcases Nat.lt_trichotomy (n / d) m with h | h | h
  · have hle : (n / d + 1) * d ≤ m * d := Nat.mul_le_mul_right d h
    rw [Nat.succ_mul] at hle
    exact iff_of_true (Nat.le_trans (roundDiv_le n d) h) (Or.inl (by omega))
  · have heq : m * d = n / d * d := by rw [h]
    rw [heq]
    unfold roundDiv
    split
    · exact iff_of_true (by omega) (by omega)
    · split
      · exact iff_of_false (by omega) (by omega)
      · omega
  · have hle : (m + 1) * d ≤ n / d * d := Nat.mul_le_mul_right d h
    rw [Nat.succ_mul] at hle
    have := div_le_roundDiv n d
    exact iff_of_false (by omega) (by omega)

/-- Rounding follows the order of ratios. -/
theorem roundDiv_mono (hd : 0 < d) (hd' : 0 < d') (h : n * d' ≤ n' * d) : roundDiv n d ≤ roundDiv n' d' := by
  have hupper := (roundDiv_le_iff (n := n') hd').1 (Nat.le_refl _)
  generalize roundDiv n' d' = m at hupper
  rw [roundDiv_le_iff hd]
  have hscaled : d' * (2 * n) ≤ d * (2 * n') := by linarith
  rcases hupper with hlt | ⟨heq, heven⟩
  · left
    refine Nat.lt_of_mul_lt_mul_left (a := d') ?_
    have := Nat.mul_lt_mul_of_pos_left hlt hd
    linarith
  · have hle : 2 * n ≤ (2 * m + 1) * d := by
      refine Nat.le_of_mul_le_mul_left ?_ hd'
      rw [heq] at hscaled
      linarith
    rcases Nat.lt_or_eq_of_le hle with hlt | heq'
    · exact Or.inl hlt
    · exact Or.inr ⟨heq', heven⟩

/-- Rounding moves a ratio by at most a half. -/
theorem roundDiv_close (n : Nat) (hd : 0 < d) :
    2 * n ≤ 2 * (roundDiv n d * d) + d ∧ 2 * (roundDiv n d * d) ≤ 2 * n + d := by
  constructor
  · have hupper := (roundDiv_le_iff (n := n) hd).1 (Nat.le_refl _)
    have hodd : (2 * roundDiv n d + 1) * d = 2 * (roundDiv n d * d) + d := by ring
    omega
  · cases hm : roundDiv n d with
    | zero => omega
    | succ m =>
      have hlower : ¬ roundDiv n d ≤ m := by omega
      rw [roundDiv_le_iff hd] at hlower
      have hodd : (2 * m + 1) * d = 2 * (m * d) + d := by ring
      have hnext : (m + 1) * d = m * d + d := Nat.succ_mul m d
      omega

/-- No other quotient is nearer. -/
theorem roundDiv_nearest (n : Nat) (hd : 0 < d) (k : Nat) :
    |(roundDiv n d * d : ℤ) - n| ≤ |(k * d : ℤ) - n| := by
  obtain ⟨hupper, hlower⟩ := roundDiv_close n hd
  generalize roundDiv n d = m at hupper hlower ⊢
  rcases eq_or_ne k m with rfl | hne
  · exact le_rfl
  · have hhalf : 2 * |(m * d : ℤ) - n| ≤ d := by
      rcases abs_cases ((m * d : ℤ) - n) with ⟨h, -⟩ | ⟨h, -⟩
      · omega
      · omega
    -- another quotient is at least a whole step away from this one
    have hfar : (d : ℤ) ≤ 2 * |(k * d : ℤ) - n| := by
      rcases Nat.lt_or_gt_of_ne hne with h | h
      · have hle : (k + 1) * d ≤ m * d := Nat.mul_le_mul_right d h
        rw [Nat.succ_mul] at hle
        have habs := neg_le_abs ((k * d : ℤ) - n)
        zify at hle hlower
        omega
      · have hle : (m + 1) * d ≤ k * d := Nat.mul_le_mul_right d h
        rw [Nat.succ_mul] at hle
        have habs := le_abs_self ((k * d : ℤ) - n)
        zify at hle hupper
        omega
    omega

end RoundDiv

/-! ## Stages and significands -/

variable {f : Format}

/-- A significand of a stage: it has all its bits, unless the stage is the first one, and at most the first value of the
next stage. -/
structure IsSignificand (f : Format) (s m : Nat) : Prop where
  le : m ≤ 2 * 2 ^ f.fractionBits
  le_of_pos : 0 < s → 2 ^ f.fractionBits ≤ m

/-- **The magnitude of a stage and a significand.** -/
theorem units_of_significand {s m : Nat} (h : f.IsSignificand s m) :
    f.units (s * 2 ^ f.fractionBits + m) = m * 2 ^ s := by
  have hpow : 0 < 2 ^ f.fractionBits := Nat.two_pow_pos _
  rcases Nat.lt_or_ge m (2 ^ f.fractionBits) with hlt | hge
  · have hs : s = 0 := by
      by_contra hs
      exact absurd (h.le_of_pos (Nat.pos_of_ne_zero hs)) (Nat.not_le.2 hlt)
    subst hs
    rcases f.units_cases (0 * 2 ^ f.fractionBits + m) with ⟨-, hunits⟩ | ⟨q, t, -, hrank, -⟩
    · rw [hunits, Nat.zero_mul, Nat.zero_add, Nat.pow_zero, Nat.mul_one]
    · rw [Nat.succ_mul] at hrank
      omega
  · obtain ⟨t, rfl⟩ := Nat.exists_eq_add_of_le hge
    rcases Nat.lt_or_eq_of_le h.le with hlt | heq
    · rw [← Nat.add_assoc, ← Nat.succ_mul, units_of_stage f s (by omega)]
    -- the significand is the first value of the next stage
    · have ht : t = 2 ^ f.fractionBits := by omega
      have hrank : s * 2 ^ f.fractionBits + (2 ^ f.fractionBits + t) = (s + 1 + 1) * 2 ^ f.fractionBits + 0 := by
        rw [ht]
        ring
      rw [hrank, units_of_stage f (s + 1) hpow, ht, Nat.pow_succ 2 s]
      ring

/-- Every rank has a stage and a significand that is not past it. -/
theorem exists_significand (f : Format) (r : Nat) :
    ∃ s m, f.IsSignificand s m ∧ m < 2 * 2 ^ f.fractionBits ∧ r = s * 2 ^ f.fractionBits + m := by
  rcases f.units_cases r with ⟨hlt, -⟩ | ⟨q, t, ht, hrank, -⟩
  · exact ⟨0, r, ⟨by omega, fun h => absurd h (Nat.lt_irrefl 0)⟩, by omega, by omega⟩
  · refine ⟨q, 2 ^ f.fractionBits + t, ⟨by omega, fun _ => Nat.le_add_right _ _⟩, by omega, ?_⟩
    rw [hrank, Nat.succ_mul, Nat.add_assoc]

/-- **Magnitudes grow with their rank.** -/
theorem units_strictMono (f : Format) : StrictMono f.units := by
  refine strictMono_nat_of_lt_succ fun r => ?_
  obtain ⟨s, m, h, hlt, rfl⟩ := f.exists_significand r
  have hnext : f.IsSignificand s (m + 1) := ⟨hlt, fun hs => Nat.le_succ_of_le (h.le_of_pos hs)⟩
  rw [units_of_significand h, Nat.add_assoc, units_of_significand hnext]
  exact Nat.mul_lt_mul_of_pos_right (Nat.lt_succ_self m) (Nat.two_pow_pos s)

/-- A magnitude is a multiple of the step of a stage, or it lies before that stage. -/
theorem units_multiple_or_lt (f : Format) (s r : Nat) :
    (∃ k, f.units r = k * 2 ^ s) ∨ 0 < s ∧ f.units r < 2 ^ f.fractionBits * 2 ^ s := by
  obtain ⟨q, m, h, hlt, rfl⟩ := f.exists_significand r
  rw [units_of_significand h]
  rcases Nat.lt_or_ge q s with hqs | hqs
  · right
    obtain ⟨k, rfl⟩ := Nat.exists_eq_add_of_lt hqs
    refine ⟨by omega, ?_⟩
    calc m * 2 ^ q < 2 * 2 ^ f.fractionBits * 2 ^ q := Nat.mul_lt_mul_of_pos_right hlt (Nat.two_pow_pos q)
      _ = 2 ^ f.fractionBits * 2 ^ (q + 1) := by ring
      _ ≤ 2 ^ f.fractionBits * 2 ^ (q + k + 1) :=
          Nat.mul_le_mul_left _ (Nat.pow_le_pow_right (by decide) (by omega))
  · obtain ⟨k, rfl⟩ := Nat.exists_eq_add_of_le hqs
    exact Or.inl ⟨m * 2 ^ k, by rw [Nat.add_comm s, Nat.pow_add, Nat.mul_assoc]⟩

/-! ## Doubling -/

/-- The rank of twice a magnitude. -/
def doubled (f : Format) (r : Nat) : Nat := if r < 2 ^ f.fractionBits then 2 * r else r + 2 ^ f.fractionBits

theorem units_doubled (f : Format) (r : Nat) : f.units (f.doubled r) = 2 * f.units r := by
  obtain ⟨s, m, h, hlt, rfl⟩ := f.exists_significand r
  unfold doubled
  rw [units_of_significand h]
  split
  · next hsmall =>
    have hs : s = 0 := by
      by_contra hs
      have := h.le_of_pos (Nat.pos_of_ne_zero hs)
      omega
    subst hs
    have hdouble : f.IsSignificand 0 (2 * m) := ⟨by omega, fun hpos => absurd hpos (Nat.lt_irrefl 0)⟩
    have hunits := units_of_significand hdouble
    rw [Nat.zero_mul, Nat.zero_add] at hunits ⊢
    rw [hunits, Nat.mul_assoc]
  · next hlarge =>
    have hfull : 2 ^ f.fractionBits ≤ m := by
      rcases Nat.eq_zero_or_pos s with rfl | hpos
      · omega
      · exact h.le_of_pos hpos
    have hrank : s * 2 ^ f.fractionBits + m + 2 ^ f.fractionBits = (s + 1) * 2 ^ f.fractionBits + m := by ring
    rw [hrank, units_of_significand ⟨h.le, fun _ => hfull⟩, Nat.pow_succ]
    ring

/-- Past the first two stages every magnitude is twice another one. -/
theorem exists_doubled {r : Nat} (h : 2 * 2 ^ f.fractionBits ≤ r) : ∃ k, f.doubled k = r := by
  refine ⟨r - 2 ^ f.fractionBits, ?_⟩
  unfold doubled
  rw [if_neg (by omega)]
  omega

/-! ## Ranks without a largest one -/

/-- The rank nearest to `n / d` units, were there no largest magnitude. -/
def openRank (f : Format) (n d : Nat) : Nat :=
  let stage := (n / d).log2 - f.fractionBits
  stage * 2 ^ f.fractionBits + roundDiv n (d * 2 ^ stage)

theorem rank_eq_min (f : Format) (n d : Nat) : f.rank n d = min f.top (f.openRank (n * 2 ^ f.unitExponent) d) := rfl

section OpenRank

variable {n d n' d' : Nat}

/-- **The rank of a ratio is a stage and a rounded significand.** The ratio has reached the stage, unless that is the
first one. -/
theorem openRank_spec (f : Format) (n : Nat) (hd : 0 < d) :
    ∃ s, f.IsSignificand s (roundDiv n (d * 2 ^ s)) ∧
      f.openRank n d = s * 2 ^ f.fractionBits + roundDiv n (d * 2 ^ s) ∧
      (n / d).log2 - f.fractionBits = s ∧ (0 < s → 2 ^ f.fractionBits * (d * 2 ^ s) ≤ n) := by
  have hstep : ∀ s, 0 < d * 2 ^ s := fun s => Nat.mul_pos hd (Nat.two_pow_pos s)
  generalize hs : (n / d).log2 - f.fractionBits = s
  have hreached : 0 < s → 2 ^ f.fractionBits * (d * 2 ^ s) ≤ n := by
    intro hpos
    have hlog : f.fractionBits + s = (n / d).log2 := by omega
    have hquot : n / d ≠ 0 := by
      intro hzero
      rw [hzero, Nat.log2_zero] at hlog
      omega
    have hle : 2 ^ (f.fractionBits + s) ≤ n / d := hlog ▸ Nat.log2_self_le hquot
    calc 2 ^ f.fractionBits * (d * 2 ^ s) = 2 ^ (f.fractionBits + s) * d := by rw [Nat.pow_add]; ring
      _ ≤ n / d * d := Nat.mul_le_mul_right d hle
      _ ≤ n := Nat.div_mul_le_self n d
  have hbelow : n < 2 * 2 ^ f.fractionBits * (d * 2 ^ s) := by
    have hlt : n / d < 2 ^ (f.fractionBits + s + 1) :=
      Nat.lt_of_lt_of_le Nat.lt_log2_self (Nat.pow_le_pow_right (by decide) (by omega))
    have hmul := (Nat.div_lt_iff_lt_mul hd).1 hlt
    calc n < 2 ^ (f.fractionBits + s + 1) * d := hmul
      _ = 2 * 2 ^ f.fractionBits * (d * 2 ^ s) := by rw [Nat.pow_succ, Nat.pow_add]; ring
  refine ⟨s, ⟨roundDiv_le_of_lt_mul hbelow, fun hpos => le_roundDiv_of_mul_le (hstep s) (hreached hpos)⟩, ?_, rfl,
    hreached⟩
  unfold openRank
  simp only [hs]

/-- **Ranks follow the order of ratios.** -/
theorem openRank_mono (hd : 0 < d) (hd' : 0 < d') (h : n * d' ≤ n' * d) : f.openRank n d ≤ f.openRank n' d' := by
  obtain ⟨s, hm, hrank, hs, -⟩ := f.openRank_spec n hd
  obtain ⟨s', hm', hrank', hs', -⟩ := f.openRank_spec n' hd'
  have hquot : n / d ≤ n' / d' := by
    rw [Nat.le_div_iff_mul_le hd']
    refine Nat.le_of_mul_le_mul_right ?_ hd
    calc n / d * d' * d = n / d * d * d' := by ring
      _ ≤ n * d' := Nat.mul_le_mul_right d' (Nat.div_mul_le_self n d)
      _ ≤ n' * d := h
  have hstage : s ≤ s' := by
    have hlog : (n / d).log2 ≤ (n' / d').log2 := by
      rw [Nat.log2_eq_log_two, Nat.log2_eq_log_two]
      exact Nat.log_mono_right hquot
    omega
  rw [hrank, hrank']
  rcases Nat.eq_or_lt_of_le hstage with rfl | hlt
  · refine Nat.add_le_add_left (roundDiv_mono (Nat.mul_pos hd (Nat.two_pow_pos _))
      (Nat.mul_pos hd' (Nat.two_pow_pos _)) ?_) _
    calc n * (d' * 2 ^ s) = n * d' * 2 ^ s := by ring
      _ ≤ n' * d * 2 ^ s := Nat.mul_le_mul_right _ h
      _ = n' * (d * 2 ^ s) := by ring
  · -- a significand that is rounded up past its stage lands on the first rank of the next one
    have hfirst := hm'.le_of_pos (by omega)
    have hnext : (s + 1) * 2 ^ f.fractionBits ≤ s' * 2 ^ f.fractionBits := Nat.mul_le_mul_right _ hlt
    rw [Nat.succ_mul] at hnext
    have hle := hm.le
    omega

/-- Equal ratios have one rank. -/
theorem openRank_congr (hd : 0 < d) (hd' : 0 < d') (h : n * d' = n' * d) : f.openRank n d = f.openRank n' d' :=
  Nat.le_antisymm (openRank_mono hd hd' (Nat.le_of_eq h)) (openRank_mono hd' hd (Nat.le_of_eq h.symm))

/-- **A ratio that is a magnitude has its rank.** -/
theorem openRank_units (f : Format) (r : Nat) : f.openRank (f.units r) 1 = r := by
  obtain ⟨q, m, h, hlt, rfl⟩ := f.exists_significand r
  rw [units_of_significand h]
  have hstage : (m * 2 ^ q / 1).log2 - f.fractionBits = q := by
    rw [Nat.div_one]
    rcases Nat.eq_zero_or_pos q with rfl | hpos
    · rw [Nat.pow_zero, Nat.mul_one]
      rcases Nat.eq_zero_or_pos m with rfl | hm
      · rw [Nat.log2_zero, Nat.zero_sub]
      · have hlog : m.log2 < f.fractionBits + 1 := (Nat.log2_lt (by omega)).2 (by rw [Nat.pow_succ]; omega)
        omega
    · have hfull := h.le_of_pos hpos
      have hne : m * 2 ^ q ≠ 0 :=
        (Nat.mul_pos (Nat.lt_of_lt_of_le (Nat.two_pow_pos _) hfull) (Nat.two_pow_pos q)).ne'
      have hlog : (m * 2 ^ q).log2 = f.fractionBits + q := by
        refine (Nat.log2_eq_iff hne).2 ⟨?_, ?_⟩
        · rw [Nat.pow_add]
          exact Nat.mul_le_mul_right _ hfull
        · calc m * 2 ^ q < 2 * 2 ^ f.fractionBits * 2 ^ q := Nat.mul_lt_mul_of_pos_right hlt (Nat.two_pow_pos q)
            _ = 2 ^ (f.fractionBits + q + 1) := by rw [Nat.pow_succ, Nat.pow_add]; ring
      omega
  unfold openRank
  simp only [hstage, Nat.one_mul, roundDiv_mul_self (Nat.two_pow_pos q)]

theorem openRank_of_units {r : Nat} (hd : 0 < d) (h : n = f.units r * d) : f.openRank n d = r := by
  rw [openRank_congr hd Nat.one_pos (by rw [h, Nat.mul_one]), openRank_units]

/-- **No other magnitude is nearer to the ratio.** -/
theorem openRank_nearest (f : Format) (n : Nat) (hd : 0 < d) (r : Nat) :
    |(f.units (f.openRank n d) * d : ℤ) - n| ≤ |(f.units r * d : ℤ) - n| := by
  obtain ⟨s, hm, hrank, -, hreached⟩ := f.openRank_spec n hd
  have hnearest : ∀ k : Nat, |(f.units (f.openRank n d) * d : ℤ) - n| ≤ |(k * 2 ^ s * d : ℤ) - n| := by
    intro k
    have hround := roundDiv_nearest n (Nat.mul_pos hd (Nat.two_pow_pos s)) k
    rw [hrank, units_of_significand hm]
    push_cast at hround ⊢
    rwa [← mul_assoc, mul_right_comm, ← mul_assoc, mul_right_comm (k : ℤ)] at hround
  rcases f.units_multiple_or_lt s r with ⟨k, hk⟩ | ⟨hpos, hlt⟩
  · have hround := hnearest k
    rw [hk]
    push_cast
    exact hround
  -- a magnitude before the stage is further off than the first one of the stage
  · refine (hnearest (2 ^ f.fractionBits)).trans ?_
    have hfirst : 2 ^ f.fractionBits * 2 ^ s * d ≤ n := by
      have := hreached hpos
      linarith
    have hless : f.units r * d ≤ 2 ^ f.fractionBits * 2 ^ s * d := Nat.mul_le_mul_right d (Nat.le_of_lt hlt)
    have hfirst' : ((2 ^ f.fractionBits * 2 ^ s * d : ℕ) : ℤ) ≤ n := by exact_mod_cast hfirst
    have hless' : ((f.units r * d : ℕ) : ℤ) ≤ ((2 ^ f.fractionBits * 2 ^ s * d : ℕ) : ℤ) := by exact_mod_cast hless
    push_cast at hfirst' hless' ⊢
    rw [abs_of_nonpos (by linarith), abs_of_nonpos (by linarith)]
    linarith

/-- **Past the first stage the error is small**: at most half a unit in the last bit of a significand. -/
theorem openRank_close (f : Format) (n : Nat) (hd : 0 < d) (hfull : 2 ^ f.fractionBits * d ≤ n) :
    2 * 2 ^ f.fractionBits * |(f.units (f.openRank n d) * d : ℤ) - n| ≤ n := by
  obtain ⟨s, hm, hrank, -, hreached⟩ := f.openRank_spec n hd
  have hstep : 2 ^ f.fractionBits * (d * 2 ^ s) ≤ n := by
    rcases Nat.eq_zero_or_pos s with rfl | hpos
    · rwa [Nat.pow_zero, Nat.mul_one]
    · exact hreached hpos
  obtain ⟨hupper, hlower⟩ := roundDiv_close n (Nat.mul_pos hd (Nat.two_pow_pos s))
  rw [hrank, units_of_significand hm]
  generalize roundDiv n (d * 2 ^ s) = m at hupper hlower ⊢
  have hhalf : 2 * |((m * 2 ^ s : ℕ) * d : ℤ) - n| ≤ (d * 2 ^ s : ℕ) := by
    have hcomm : ((m * 2 ^ s : ℕ) * d : ℤ) = ((m * (d * 2 ^ s) : ℕ) : ℤ) := by push_cast; ring
    rw [hcomm]
    rcases abs_cases (((m * (d * 2 ^ s) : ℕ) : ℤ) - n) with ⟨h, -⟩ | ⟨h, -⟩ <;> omega
  have hstep' : ((2 ^ f.fractionBits * (d * 2 ^ s) : ℕ) : ℤ) ≤ n := by exact_mod_cast hstep
  have hpow : (0 : ℤ) ≤ 2 ^ f.fractionBits := by positivity
  calc 2 * 2 ^ f.fractionBits * |((m * 2 ^ s : ℕ) * d : ℤ) - n|
      = 2 ^ f.fractionBits * (2 * |((m * 2 ^ s : ℕ) * d : ℤ) - n|) := by ring
    _ ≤ 2 ^ f.fractionBits * (d * 2 ^ s : ℕ) := mul_le_mul_of_nonneg_left hhalf hpow
    _ ≤ n := by push_cast at hstep' ⊢; exact hstep'

/-- The rank of a ratio of units over units. -/
theorem rank_scaled (f : Format) (n : Nat) (hd : 0 < d) :
    f.rank n (Nat.pow 2 f.unitExponent * d) = min f.top (f.openRank n d) := by
  have hunit : 0 < Nat.pow 2 f.unitExponent := f.unit_pos
  rw [rank_eq_min]
  refine congrArg (min f.top) (openRank_congr (Nat.mul_pos hunit hd) hd ?_)
  show n * Nat.pow 2 f.unitExponent * d = n * (Nat.pow 2 f.unitExponent * d)
  rw [Nat.mul_assoc]

end OpenRank

end StructuralSeries.Format
