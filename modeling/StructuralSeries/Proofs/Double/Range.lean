import Mathlib.Tactic.Linarith
import StructuralSeries.Double

/-!
# The range of whole numbers

A whole number is rounded to a finite double exactly when it lies below the middle between the largest finite
double and the power of two that would come next (`Double.isFinite_ofInt_iff`). The middle itself is a tie, and its
even neighbour is the one that does not exist.

## Two steps

1. The rank of a whole number is a stage and a rounded significand, and scaling by the smallest unit changes
   neither (`Format.rank_one`).
2. Every stage but the last is finite or infinite as a whole. In the last one the significand decides, by
   `Format.roundDiv_lt_iff`.
-/

namespace StructuralSeries

namespace Format

/-! ## Rounded quotients -/

section RoundDiv

variable {n d m : Nat}

theorem div_le_roundDiv (n d : Nat) : n / d ≤ roundDiv n d := by
  unfold roundDiv
  split
  · exact Nat.le_refl _
  · split
    · exact Nat.le_succ _
    · exact Nat.le_add_right _ _

theorem roundDiv_le (n d : Nat) : roundDiv n d ≤ n / d + 1 := by
  have := Nat.mod_lt (n / d) (Nat.succ_pos 1)
  unfold roundDiv
  split
  · omega
  · split
    · omega
    · omega

theorem roundDiv_le_of_lt_mul (h : n < m * d) : roundDiv n d ≤ m :=
  Nat.le_trans (roundDiv_le n d) (Nat.div_lt_of_lt_mul (by rwa [Nat.mul_comm]))

theorem le_roundDiv_of_mul_le (hd : 0 < d) (h : m * d ≤ n) : m ≤ roundDiv n d :=
  Nat.le_trans ((Nat.le_div_iff_mul_le hd).2 h) (div_le_roundDiv n d)

/-- Rounding stays below an even number up to the middle before it, where the tie goes up. -/
theorem roundDiv_lt_iff (hd : 0 < d) (hm : m % 2 = 0) : roundDiv n d < m ↔ 2 * n + d < 2 * (m * d) := by
  have hsplit : n / d * d + n % d = n := Nat.div_add_mod' n d
  have hr : n % d < d := Nat.mod_lt n hd
  -- the quotient lies one below `m`, further below, or not below at all
  rcases Nat.lt_trichotomy (n / d + 1) m with h | h | h
  · have hle : (n / d + 2) * d ≤ m * d := Nat.mul_le_mul_right d h
    rw [Nat.add_mul] at hle
    exact iff_of_true (Nat.lt_of_le_of_lt (roundDiv_le n d) h) (by omega)
  · have heq : m * d = n / d * d + d := by rw [← h, Nat.succ_mul]
    have hodd : n / d % 2 = 1 := by omega
    rw [heq]
    unfold roundDiv
    split
    · exact iff_of_true (by omega) (by omega)
    · split
      · exact iff_of_false (by omega) (by omega)
      · exact iff_of_false (by omega) (by omega)
  · have hle : m * d ≤ n / d * d := Nat.mul_le_mul_right d (by omega)
    have := div_le_roundDiv n d
    exact iff_of_false (by omega) (by omega)

/-- A common factor does not change the rounded quotient. -/
theorem roundDiv_mul_right (n d : Nat) {c : Nat} (hc : 0 < c) : roundDiv (n * c) (d * c) = roundDiv n d := by
  unfold roundDiv
  rw [Nat.mul_mod_mul_right, Nat.mul_div_mul_right _ _ hc, ← Nat.mul_assoc]
  simp only [Nat.mul_lt_mul_right hc]

end RoundDiv

/-! ## Ranks of whole numbers -/

/-- The rank of a whole number: its stage, and its significand rounded to the bits there are. -/
theorem rank_one {f : Format} (hf : f.fractionBits ≤ f.unitExponent) {n : Nat} (hn : n ≠ 0) :
    f.rank n 1 = min f.top ((n.log2 + (f.unitExponent - f.fractionBits)) * 2 ^ f.fractionBits +
      roundDiv (n * 2 ^ f.fractionBits) (2 ^ n.log2)) := by
  obtain ⟨k, hk⟩ := Nat.exists_eq_add_of_le hf
  have hpow : ∀ e, Nat.pow 2 e = 2 ^ e := fun _ => rfl
  have hlog : (n * 2 ^ (f.fractionBits + k)).log2 = n.log2 + (f.fractionBits + k) := by
    refine (Nat.log2_eq_iff (Nat.mul_ne_zero hn (Nat.two_pow_pos _).ne')).2 ⟨?_, ?_⟩
    · rw [Nat.pow_add]
      exact Nat.mul_le_mul_right _ (Nat.log2_self_le hn)
    · rw [Nat.add_right_comm, Nat.pow_add 2 (n.log2 + 1)]
      exact Nat.mul_lt_mul_of_pos_right Nat.lt_log2_self (Nat.two_pow_pos _)
  have hstage : n.log2 + (f.fractionBits + k) - f.fractionBits = n.log2 + k := by omega
  have hk' : f.fractionBits + k - f.fractionBits = k := by omega
  unfold rank
  dsimp only
  rw [hk, hpow, hpow, hpow, Nat.div_one, Nat.one_mul, hlog, hstage, hk', Nat.pow_add 2 f.fractionBits,
    Nat.pow_add 2 n.log2, ← Nat.mul_assoc, roundDiv_mul_right _ _ (Nat.two_pow_pos k)]

/-- A whole number below a power of two is rounded to a significand of the bits there are, or to the next power. -/
theorem significand_bounds (bits : Nat) {n : Nat} (hn : n ≠ 0) :
    2 ^ bits ≤ roundDiv (n * 2 ^ bits) (2 ^ n.log2) ∧ roundDiv (n * 2 ^ bits) (2 ^ n.log2) ≤ 2 * 2 ^ bits := by
  constructor
  · refine le_roundDiv_of_mul_le (Nat.two_pow_pos _) ?_
    rw [Nat.mul_comm]
    exact Nat.mul_le_mul_right _ (Nat.log2_self_le hn)
  · refine roundDiv_le_of_lt_mul ?_
    have h := Nat.mul_lt_mul_of_pos_right (Nat.lt_log2_self (n := n)) (Nat.two_pow_pos bits)
    rw [Nat.pow_succ] at h
    linarith

end Format

/-! ## Finite whole numbers -/

namespace Double

theorem top_pos : 0 < Format.double.top := by decide

/-- The first magnitude of a whole number that is too large for a finite double. -/
def wholeBound : Nat := 2 ^ 1024 - 2 ^ 970

theorem isFinite_ofInt (n : Int) :
    (ofInt n).isFinite = true ↔ Format.double.rank n.natAbs 1 < Format.double.top := by
  have hle := Format.double.rank_le_top n.natAbs 1
  show (!(Format.double.rank n.natAbs 1 == Format.double.top)) = true ↔ _
  rw [Bool.not_eq_true', beq_eq_false_iff_ne]
  omega

/-- The first whole number of the stage of the largest doubles. -/
def lastStage : Nat := 2 ^ 1023

theorem lastStage_pos : 0 < lastStage := by decide +kernel

theorem wholeBound_le : wholeBound ≤ 2 * lastStage := by decide +kernel

theorem rank_lt_top_iff (n : Nat) : Format.double.rank n 1 < Format.double.top ↔ n < wholeBound := by
  by_cases hn : n = 0
  · subst hn
    rw [Format.rank_zero]
    exact iff_of_true top_pos (by decide +kernel)
  · have hmin : ∀ a b : Nat, min a b < a ↔ b < a := by omega
    have hscale : 2 * (n * 2 ^ 52) = n * 2 ^ 53 := by omega
    obtain ⟨hlow, hhigh⟩ := Format.significand_bounds 52 hn
    rw [Format.rank_one (by decide) hn]
    show min (2047 * 2 ^ 52) ((n.log2 + 1022) * 2 ^ 52 + Format.roundDiv (n * 2 ^ 52) (2 ^ n.log2)) <
      2047 * 2 ^ 52 ↔ _
    rw [hmin]
    -- only in the stage of the largest doubles does the significand matter
    rcases Nat.lt_trichotomy n.log2 1023 with h | h | h
    · refine iff_of_true (by omega) ?_
      exact Nat.lt_trans ((Nat.log2_lt hn).1 h) (by decide +kernel)
    · have hstage : 2 ^ n.log2 = lastStage := by rw [h, lastStage]
      rw [hstage, h]
      have hlast : ∀ q, (1023 + 1022) * 2 ^ 52 + q < 2047 * 2 ^ 52 ↔ q < 2 ^ 53 := by omega
      have hbound : wholeBound * 2 ^ 53 + lastStage = 2 * (2 ^ 53 * lastStage) := by decide +kernel
      rw [hlast, Format.roundDiv_lt_iff lastStage_pos (by decide), hscale, ← hbound,
        Nat.add_lt_add_iff_right, Nat.mul_lt_mul_right (Nat.two_pow_pos _)]
    · refine iff_of_false (by omega) (Nat.not_lt.2 ?_)
      have hnext : ∀ {a b : Nat}, a < b → 2 * 2 ^ a ≤ 2 ^ b := by
        intro a b hab
        rw [← Nat.pow_succ']
        exact Nat.pow_le_pow_right (by decide) hab
      have hstage : 2 * lastStage ≤ 2 ^ n.log2 := by
        rw [lastStage]
        exact hnext h
      exact Nat.le_trans wholeBound_le (Nat.le_trans hstage (Nat.log2_self_le hn))

/-- **A whole number is a finite double exactly below the bound.** -/
theorem isFinite_ofInt_iff {n : Int} : (ofInt n).isFinite = true ↔ n.natAbs < wholeBound := by
  rw [isFinite_ofInt, rank_lt_top_iff]

end Double

end StructuralSeries
