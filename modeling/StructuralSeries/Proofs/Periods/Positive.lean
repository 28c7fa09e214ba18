import StructuralSeries.Proofs.Double.Size
import StructuralSeries.Proofs.Request.Stages

/-!
# Periods are positive

The periods of a model are positive, where they come from the frequency and where they are given. A frequency above
one is far above its last harmonic: there are so few harmonics that none of the quotients gets down to zero.
-/

namespace StructuralSeries

theorem isFinite_of_frequencyOf {v : Value} {f : Double} (h : frequencyOf v = .ok f) : f.isFinite = true := by
  unfold frequencyOf at h
  split at h
  · cases h
  · obtain ⟨x, -, h⟩ := bind_eq_ok.1 h
    split at h
    · next hfinite =>
      cases h
      exact hfinite
    · cases h

namespace Periods

theorem eq_of_supplied {xs : List Double} {g : Grid Double} (h : supplied (.ofList xs) = .ok g) :
    g = .ofList xs := by
  cases xs with
  | nil => cases h
  | cons first rest =>
    rw [supplied_ofList_cons] at h
    split at h
    · cases h
    · exact (Except.ok.inj h).symm

/-- The periods of a frequency are positive. -/
theorem pos_of_harmonics {f : Double} (hfinite : f.isFinite = true) {ps : List Double} (h : harmonics f = .ok ps) :
    ∀ x ∈ ps, Double.zero.lt x = true := by
  unfold harmonics at h
  split at h
  · cases h
    intro x hx
    rw [List.mem_singleton.1 hx]
    decide +kernel
  · next habove =>
    split at h
    · cases h
    · next hlimit =>
      cases h
      have hlimit : harmonicCount f < (2 ^ 60 : Nat) := Int.not_le.1 hlimit
      intro x hx
      obtain ⟨j, hj, rfl⟩ := List.mem_map.1 hx
      have hj := List.mem_range.1 hj
      exact Double.divCount_pos hfinite (by simpa using habove) (Nat.succ_pos j) (by omega)

theorem pos_of_derive {f : Double} (hfinite : f.isFinite = true) {explicit : Option (List Double)}
    (hexplicit : ∀ xs ∈ explicit, ∀ x ∈ xs, Double.zero.lt x = true) {g : Grid Double}
    (h : derive f (explicit.map Grid.ofList) = .ok g) : ∀ x ∈ g.data, Double.zero.lt x = true := by
  cases explicit with
  | some xs =>
    rw [eq_of_supplied h]
    exact hexplicit xs rfl
  | none =>
    obtain ⟨ps, hps, h⟩ := bind_eq_ok.1 (show (harmonics f >>= fun ps => supplied (.ofList ps)) = .ok g from h)
    rw [eq_of_supplied h]
    exact pos_of_harmonics hfinite hps

end Periods

end StructuralSeries
