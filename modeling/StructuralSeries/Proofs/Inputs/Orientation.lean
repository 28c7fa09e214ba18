import StructuralSeries.Inputs

/-!
# Inputs lie along time

A matrix of inputs is turned so that time runs along its longer side (`Inputs.IsOriented`), and a matrix that lies
this way is left as it is: written as a grid and read again it is the same matrix (`Inputs.ofGrid?_toGrid`).
-/

namespace StructuralSeries

namespace Inputs

variable {tall wide : Nat} {data : List Double}

theorem height_oriented (h : data.length = tall * wide) : (oriented tall wide data h).height = min tall wide := by
  unfold oriented
  split
  · next hlt => exact (Nat.min_eq_right (Nat.le_of_lt hlt)).symm
  · show (pieces wide tall data).length = _
    rw [length_pieces, Nat.min_eq_left (by omega)]

theorem width_oriented (h : data.length = tall * wide) : (oriented tall wide data h).width = max tall wide := by
  unfold oriented
  split
  · show (pieces wide tall data).length = _
    rw [length_pieces, Nat.max_eq_left (by omega)]
  · rw [width_ofRows fun r hr => length_of_mem_pieces h hr, Nat.max_eq_right (by omega)]

theorem isReal_iff {u : Inputs} : u.isReal = true ↔ 2 < u.width := decide_eq_true_iff

/-- Time runs along the longer side of a matrix of inputs, and no side is empty. -/
structure IsOriented (u : Inputs) : Prop where
  height_pos : 0 < u.height
  height_le_width : u.height ≤ u.width

theorem IsOriented.width_pos {u : Inputs} (h : u.IsOriented) : 0 < u.width :=
  Nat.lt_of_lt_of_le h.height_pos h.height_le_width

theorem isOriented_oriented (h : data.length = tall * wide) (hne : data.length ≠ 0) :
    (oriented tall wide data h).IsOriented := by
  have htall : 0 < tall := Nat.pos_of_ne_zero fun hz => hne (by rw [h, hz, Nat.zero_mul])
  have hwide : 0 < wide := Nat.pos_of_ne_zero fun hz => hne (by rw [h, hz, Nat.mul_zero])
  constructor
  · rw [height_oriented]
    omega
  · rw [height_oriented, width_oriented]
    omega

theorem isOriented_of_ofGrid? {g : Grid Double} {u : Inputs} (h : ofGrid? g = .ok u) : u.IsOriented := by
  unfold ofGrid? at h
  split at h
  · cases h
    exact ⟨by decide, by decide⟩
  · next hsize =>
    split at h
    · cases h
      exact isOriented_oriented _ hsize
    · cases h
      exact isOriented_oriented _ hsize
    · cases h
      exact isOriented_oriented _ hsize
    · cases h

theorem isOriented_of_ofOption? {g : Option (Grid Double)} {u : Inputs} (h : ofOption? g = .ok u) :
    u.IsOriented := by
  cases g with
  | none =>
    cases h
    exact ⟨by decide, by decide⟩
  | some g => exact isOriented_of_ofGrid? h

/-! ## Columns that are handed in -/

/-- The columns that inputs have once time runs along their longer side. Two stand for no inputs. -/
def columnCount : Option (Grid Double) → Nat
  | none => idleWidth
  | some g => if g.size = 0 then idleWidth else g.shape.foldr max 1

/-- **Inputs have as many columns as their longer side is long.** -/
theorem width_eq_columnCount {g : Option (Grid Double)} {u : Inputs} (h : ofOption? g = .ok u) :
    u.width = columnCount g := by
  cases g with
  | none =>
    cases h
    rfl
  | some g =>
    unfold ofOption? ofGrid? at h
    unfold columnCount
    dsimp only at h ⊢
    split at h
    · next hsize =>
      cases h
      rw [if_pos hsize]
      rfl
    · next hsize =>
      rw [if_neg hsize]
      split at h
      · cases h
        exact width_oriented _
      · cases h
        rw [width_oriented, Nat.max_comm]
        rfl
      · next k n data hlen =>
        cases h
        have hn : 1 ≤ n := by
          refine Nat.one_le_iff_ne_zero.2 ?_
          rintro rfl
          exact hsize (by simpa [Grid.size] using hlen)
        rw [width_oriented]
        show max k n = max k (max n 1)
        rw [Nat.max_eq_left hn]
      · cases h

/-- Inputs along at most two axes can be turned. -/
theorem exists_of_axes_le {g : Option (Grid Double)} (h : ∀ x ∈ g, x.axes ≤ 2) : ∃ u, ofOption? g = .ok u := by
  cases g with
  | none => exact ⟨idle, rfl⟩
  | some g =>
    have haxes := h g rfl
    show ∃ u, ofGrid? g = .ok u
    unfold ofGrid?
    split
    · exact ⟨_, rfl⟩
    · obtain ⟨shape, data, hdata⟩ := g
      match shape, hdata with
      | [], _ => exact ⟨_, rfl⟩
      | [n], _ => exact ⟨_, rfl⟩
      | [k, n], _ => exact ⟨_, rfl⟩
      | _ :: _ :: _ :: _, _ => simp [Grid.axes] at haxes

/-! ## Written and read again -/

/-- Rows that are written one after the other are cut into the same rows. -/
theorem pieces_flatten {α : Type} {width : Nat} {rows : List (List α)} (h : ∀ r ∈ rows, r.length = width) :
    pieces width rows.length rows.flatten = rows := by
  induction rows with
  | nil => rfl
  | cons r rows ih =>
    have hr := h r List.mem_cons_self
    rw [List.length_cons, pieces, List.flatten_cons, List.take_left' hr, List.drop_left' hr,
      ih fun x hx => h x (List.mem_cons_of_mem _ hx)]

theorem ofRows_rows (u : Inputs) : ofRows u.width u.rows = u :=
  Inputs.ext (length_transpose u.length_eq) (transpose_transpose u.length_eq)

/-- **A matrix that lies along time is read back as it is written.** -/
theorem ofGrid?_toGrid {u : Inputs} (h : u.IsOriented) : ofGrid? u.toGrid = .ok u := by
  have hrows : u.rows.length = u.height := length_transpose u.length_eq
  have hpieces : pieces u.width u.height u.rows.flatten = u.rows := by
    rw [← hrows]
    exact pieces_flatten fun r hr => length_of_mem_transpose hr
  have hsize : u.toGrid.size ≠ 0 := by
    show u.rows.flatten.length ≠ 0
    rw [u.sum_length_rows]
    exact Nat.ne_of_gt (Nat.mul_pos h.height_pos h.width_pos)
  unfold ofGrid?
  rw [if_neg hsize]
  show Except.ok (oriented u.height u.width u.rows.flatten u.sum_length_rows) = _
  unfold oriented
  rw [if_neg (Nat.not_lt.2 h.height_le_width), hpieces, ofRows_rows]

end Inputs

end StructuralSeries
