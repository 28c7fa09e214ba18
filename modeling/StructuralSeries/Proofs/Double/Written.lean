import StructuralSeries.Double.Layout

/-!
# The characters of a written double

Without an exponent a double is written in digits, one point, one sign, and the letters of what is no decimal
number: `nan` and `inf`. A negative number starts with the sign.
-/

namespace StructuralSeries

namespace Layout

/-- The characters of a number without an exponent that are no digits. -/
def signs : List Char := ['-', '.', 'n', 'a', 'i', 'f']

theorem isDigit_of_mem_significant {n : Nat} {c : Char} (h : c ∈ significant n) : c.isDigit = true := by
  have hr := (List.dropWhile_sublist _).subset (List.mem_reverse.1 h)
  have hc : c ∈ Nat.toDigits 10 n := List.mem_reverse.1 hr
  exact Nat.isDigit_of_mem_toDigits (by omega) (by omega) hc

theorem mem_pointed {l : Layout} {digits : List Char} {places : Int} {c : Char}
    (h : c ∈ l.pointed digits places) : c ∈ digits ∨ c ∈ ['0', '.'] ∨ c ∈ l.whole := by
  unfold pointed at h
  split at h
  · simp only [List.cons_append, List.mem_cons, List.mem_append, List.mem_replicate] at h
    rcases h with rfl | rfl | ⟨-, rfl⟩ | h
    · exact Or.inr (Or.inl (by simp))
    · exact Or.inr (Or.inl (by simp))
    · exact Or.inr (Or.inl (by simp))
    · exact Or.inl h
  · split at h
    · simp only [List.mem_append, List.mem_replicate] at h
      rcases h with (h | ⟨-, rfl⟩) | h
      · exact Or.inl h
      · exact Or.inr (Or.inl (by simp))
      · exact Or.inr (Or.inr h)
    · simp only [List.mem_append, List.mem_cons] at h
      rcases h with h | rfl | h
      · exact Or.inl (List.mem_of_mem_take h)
      · exact Or.inr (Or.inl (by simp))
      · exact Or.inl (List.mem_of_mem_drop h)

theorem mem_positional_rankText {f : Format} {rank : Nat} {c : Char}
    (h : c ∈ positional.rankText f rank) : c.isDigit = true ∨ c ∈ signs := by
  have key : ∀ digits places, (∀ d ∈ digits, Char.isDigit d = true) →
      c ∈ positional.pointed digits places → c.isDigit = true ∨ c ∈ signs := by
    intro digits places hdigits hc
    rcases mem_pointed hc with hc | hc | hc
    · exact Or.inl (hdigits c hc)
    · simp only [List.mem_cons, List.not_mem_nil, or_false] at hc
      rcases hc with rfl | rfl
      · exact Or.inl rfl
      · exact Or.inr (by simp [signs])
    · exact absurd hc List.not_mem_nil
  unfold rankText at h
  split at h
  · exact key _ _ (by simp) h
  · exact key _ _ (fun d hd => isDigit_of_mem_significant hd) h

theorem nan_subset_signs : ['n', 'a', 'n'] ⊆ signs := by simp [signs]

theorem inf_subset_signs : ['i', 'n', 'f'] ⊆ signs := by simp [signs]

/-- **What stands in a number without an exponent.** -/
theorem mem_positional_text {x : Double} {c : Char} (h : c ∈ positional.text x) :
    c.isDigit = true ∨ c ∈ signs := by
  cases x with
  | nan => exact Or.inr (nan_subset_signs h)
  | signed s m =>
    rcases List.mem_append.1 h with h | h
    · cases s with
      | false => exact absurd h List.not_mem_nil
      | true => exact Or.inr (by simp_all [signText, signs])
    · split at h
      · exact Or.inr (inf_subset_signs h)
      · exact mem_positional_rankText h

theorem head?_text_of_negative (l : Layout) (m : Magnitude) : (l.text (.signed true m)).head? = some '-' := rfl

end Layout

/-! ## Products of a negative and a positive number -/

namespace Double

theorem place_zero : zero.place = some 0 := by simp [zero, ofInt, ofRatio, Magnitude.ofRatio, place]

/-- A positive number has a plain sign and a magnitude that is not zero. -/
theorem exists_of_pos {x : Double} (h : zero.lt x = true) : ∃ m, x = .signed false m ∧ m.rank ≠ 0 := by
  rw [lt, place_zero] at h
  cases x with
  | nan => simp [place] at h
  | signed s m =>
    cases s with
    | true =>
      simp only [place, decide_eq_true_eq] at h
      omega
    | false =>
      simp only [place, decide_eq_true_eq] at h
      exact ⟨m, rfl, by omega⟩

/-- A negative number times a positive one is negative, infinite ones included. -/
theorem mul_eq_negative {a b : Magnitude} (ha : a.rank ≠ 0) (hb : b.rank ≠ 0) :
    ∃ m, (signed true a).mul (signed false b) = .signed true m := by
  unfold mul
  dsimp only
  split
  · rw [if_neg (by simp [ha, hb])]
    exact ⟨_, rfl⟩
  · exact ⟨_, rfl⟩

end Double

end StructuralSeries
