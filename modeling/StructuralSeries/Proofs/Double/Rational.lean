import Mathlib.Data.Rat.Floor
import StructuralSeries.Proofs.Double.Size

/-!
# Doubles as rational numbers

A finite double is a whole number of the smallest units, so it is a rational number (`Double.toRat?`). The floor of
a double is the floor of that number, and a double is whole exactly if that number is.
-/

namespace StructuralSeries.Double

/-- The rational number that a finite double is. -/
def toRat? (x : Double) : Option ℚ := x.signedUnits?.map fun u : Int => (u : ℚ) / (Magnitude.unitsOfOne : ℚ)

theorem floor?_eq (x : Double) : x.floor? = x.toRat?.map Int.floor := by
  unfold floor? toRat?
  rw [Option.map_map]
  exact Option.map_congr fun u _ => (Rat.floor_intCast_div_natCast u Magnitude.unitsOfOne).symm

/-- **A double is whole if its floor is the double itself.** -/
theorem isWhole_iff {x : Double} {q : ℚ} (h : x.toRat? = some q) : x.isWhole = true ↔ (⌊q⌋ : ℚ) = q := by
  obtain ⟨u, hu, rfl⟩ := Option.map_eq_some_iff.1 h
  have hone : (Magnitude.unitsOfOne : ℚ) ≠ 0 := Nat.cast_ne_zero.2 (Nat.ne_of_gt unitsOfOne_pos)
  have hdvd : x.isWhole = true ↔ (Magnitude.unitsOfOne : ℤ) ∣ u := by
    simp only [isWhole, hu, beq_iff_eq, Int.dvd_iff_emod_eq_zero]
  rw [hdvd, Rat.floor_intCast_div_natCast, eq_div_iff hone]
  constructor
  · intro h
    exact_mod_cast Int.ediv_mul_cancel h
  · intro h
    exact ⟨u / (Magnitude.unitsOfOne : ℤ), by rw [mul_comm]; exact_mod_cast h.symm⟩

end StructuralSeries.Double
