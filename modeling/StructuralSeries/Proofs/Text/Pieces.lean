/-!
# Pieces between separators

A list that is cut at its separators falls into pieces: the parts without a separator whose two ends are ends of the list
or touch one (`mem_splitOn_iff`). There is one more of them than there are separators (`length_splitOn`), and what is done
to the items of the list can be done to those of the pieces, as long as it neither makes separators nor removes any
(`splitOn_map`, `splitOn_filter`).

All of this is by induction on the separators (`separator_induction`).
-/

namespace StructuralSeries

/-- A part of a list that holds no separator, and that begins and ends where the list does or at a separator. -/
structure IsPiece {α : Type} (a : α) (xs p : List α) : Prop where
  not_mem : a ∉ p
  bounded : ∃ before after, xs = before ++ p ++ after ∧ (before = [] ∨ before.getLast? = some a) ∧
    (after = [] ∨ after.head? = some a)

variable {α β : Type} [BEq α] [LawfulBEq α] [BEq β] [LawfulBEq β] {a : α}

/-- Induction on the separators of a list: without any it is one piece, and otherwise a piece comes first, then a
separator and the rest. -/
@[elab_as_elim]
theorem separator_induction (a : α) {motive : List α → Prop} (piece : ∀ p, a ∉ p → motive p)
    (cut : ∀ p rest, a ∉ p → motive rest → motive (p ++ a :: rest)) (xs : List α) : motive xs := by
  induction hn : xs.length using Nat.strongRecOn generalizing xs with
  | ind n ih =>
    by_cases ha : a ∈ xs
    · obtain ⟨p, rest, rfl, hp⟩ := List.eq_append_cons_of_mem ha
      have hlt : rest.length < n := by
        simp only [List.length_append, List.length_cons] at hn
        omega
      exact cut p rest hp (ih _ hlt rest rfl)
    · exact piece xs ha

/-- There is one more piece than there are separators. -/
theorem length_splitOn (xs : List α) : (xs.splitOn a).length = xs.count a + 1 := by
  induction xs using separator_induction a with
  | piece p hp => rw [List.splitOn_eq_singleton hp, List.count_eq_zero.2 hp, List.length_singleton]
  | cut p rest hp ih =>
    rw [List.splitOn_append_cons_self_of_not_mem hp, List.length_cons, ih, List.count_append,
      List.count_eq_zero.2 hp, List.count_cons_self, Nat.zero_add]

theorem not_mem_of_mem_splitOn {xs p : List α} (hp : p ∈ xs.splitOn a) : a ∉ p := by
  induction xs using separator_induction a with
  | piece q hq =>
    rw [List.splitOn_eq_singleton hq, List.mem_singleton] at hp
    rwa [hp]
  | cut q rest hq ih =>
    rw [List.splitOn_append_cons_self_of_not_mem hq] at hp
    rcases List.mem_cons.1 hp with rfl | hp
    · exact hq
    · exact ih hp

/-- **Cutting a list at its separators gives its pieces.** -/
theorem mem_splitOn_iff {xs p : List α} : p ∈ xs.splitOn a ↔ IsPiece a xs p := by
  constructor
  · intro hp
    refine ⟨not_mem_of_mem_splitOn hp, ?_⟩
    induction xs using separator_induction a with
    | piece q hq =>
      rw [List.splitOn_eq_singleton hq, List.mem_singleton] at hp
      exact ⟨[], [], by simp [hp], Or.inl rfl, Or.inl rfl⟩
    | cut q rest hq ih =>
      rw [List.splitOn_append_cons_self_of_not_mem hq] at hp
      rcases List.mem_cons.1 hp with rfl | hp
      · exact ⟨[], a :: rest, rfl, Or.inl rfl, Or.inr rfl⟩
      · obtain ⟨before, after, rfl, hbefore, hafter⟩ := ih hp
        refine ⟨q ++ a :: before, after, by simp, Or.inr ?_, hafter⟩
        rcases hbefore with rfl | hbefore
        · exact List.getLast?_concat
        · simp [List.getLast?_append, List.getLast?_cons, hbefore]
  · rintro ⟨hp, before, after, rfl, hbefore, hafter⟩
    have hfirst : p ∈ (p ++ after).splitOn a := by
      rcases hafter with rfl | hafter
      · simp [List.splitOn_eq_singleton hp]
      · obtain ⟨rest, rfl⟩ := List.head?_eq_some_iff.1 hafter
        rw [List.splitOn_append_cons_self_of_not_mem hp]
        exact List.mem_cons_self
    rcases hbefore with rfl | hbefore
    · exact hfirst
    · obtain ⟨front, rfl⟩ := List.getLast?_eq_some_iff.1 hbefore
      rw [show front ++ [a] ++ p ++ after = front ++ a :: (p ++ after) by simp, List.splitOn_append_cons_self]
      exact List.mem_append_right _ hfirst

/-- A function that neither makes a separator nor removes one can be applied to the pieces. -/
theorem splitOn_map {f : α → β} {b : β} (h : ∀ x, f x = b ↔ x = a) (xs : List α) :
    (xs.map f).splitOn b = (xs.splitOn a).map (List.map f) := by
  have hkeeps : ∀ p : List α, a ∉ p → b ∉ p.map f := by
    intro p hp hb
    obtain ⟨x, hx, hfx⟩ := List.mem_map.1 hb
    exact hp ((h x).1 hfx ▸ hx)
  induction xs using separator_induction a with
  | piece p hp => rw [List.splitOn_eq_singleton hp, List.splitOn_eq_singleton (hkeeps p hp), List.map_singleton]
  | cut p rest hp ih =>
    rw [List.map_append, List.map_cons, (h a).2 rfl, List.splitOn_append_cons_self_of_not_mem (hkeeps p hp), ih,
      List.splitOn_append_cons_self_of_not_mem hp, List.map_cons]

/-- What is dropped from a list that keeps its separators can be dropped from the pieces. -/
theorem splitOn_filter {p : α → Bool} (h : p a = true) (xs : List α) :
    (xs.filter p).splitOn a = (xs.splitOn a).map (List.filter p) := by
  have hkeeps : ∀ q : List α, a ∉ q → a ∉ q.filter p := fun q hq ha => hq (List.mem_filter.1 ha).1
  induction xs using separator_induction a with
  | piece q hq => rw [List.splitOn_eq_singleton hq, List.splitOn_eq_singleton (hkeeps q hq), List.map_singleton]
  | cut q rest hq ih =>
    rw [List.filter_append, List.filter_cons_of_pos h, List.splitOn_append_cons_self_of_not_mem (hkeeps q hq), ih,
      List.splitOn_append_cons_self_of_not_mem hq, List.map_cons]

end StructuralSeries
