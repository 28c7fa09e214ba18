import StructuralSeries.Proofs.Outcome
import StructuralSeries.Store

/-!
# Writes that fail

A write goes cell by cell, so one that fails may leave a part of its cells written. The cells that a scalar goes to all
get copies of it, so either the first of them is written and so are all others, or none is. A scalar whose write fails
therefore leaves the array as it is (`Content.brokenOff_of_error`), and with it the store (`Store.brokenOff_of_error`).
-/

namespace StructuralSeries

/-! ## Scalars -/

namespace Value

/-- Whether a value is a single element: neither a sequence nor an array along any axis. -/
def isScalar : Value → Bool
  | list _ | tuple _ => false
  | numbers _ ns => ns.shape.isEmpty
  | objects _ shape _ => shape.isEmpty
  | _ => true

variable {v : Value}

/-- The elements of a scalar are along no axis. -/
theorem exists_elements_of_isScalar (h : v.isScalar = true) : ∃ es, v.elements? = some es ∧ es.grid.shape = [] := by
  cases v with
  | list _ => cases h
  | tuple _ => cases h
  | numbers _ ns => exact ⟨_, rfl, List.isEmpty_iff.1 h⟩
  | objects _ shape _ => exact ⟨_, rfl, List.isEmpty_iff.1 h⟩
  | _ => exact ⟨_, rfl, rfl⟩

theorem isScalar_lone (h : v.isScalar = true) : v.lone.isScalar = true := by
  unfold lone
  split
  · split
    · rfl
    · exact h
  · exact h

end Value

section Spread

variable {α : Type} {read : Value → Except Fault α}

/-! ## Copies -/

theorem mem_of_mem_pieces {a : α} {length count : Nat} {as p : List α} (hp : p ∈ pieces length count as) (ha : a ∈ p) :
    a ∈ as := by
  induction count generalizing as with
  | zero => cases hp
  | succ count ih =>
    rcases List.mem_cons.1 hp with rfl | hp
    · exact List.mem_of_mem_take ha
    · exact List.mem_of_mem_drop (ih hp)

theorem exists_mapM_flatten {f : List α → Option (List α)} {data : List α} {parts : List (List α)}
    (h : ∀ p ∈ parts, ∃ row, f p = some row ∧ ∀ a ∈ row, a ∈ data) :
    ∃ rows, parts.mapM f = some rows ∧ ∀ a ∈ rows.flatten, a ∈ data := by
  induction parts with
  | nil => exact ⟨[], rfl, nofun⟩
  | cons p parts ih =>
    obtain ⟨row, hrow, hmem⟩ := h p List.mem_cons_self
    obtain ⟨rows, hrows, hmems⟩ := ih fun q hq => h q (List.mem_cons_of_mem _ hq)
    refine ⟨row :: rows, by rw [List.mapM_cons, hrow, hrows]; rfl, fun a ha => ?_⟩
    rcases List.mem_append.1 ha with ha | ha
    · exact hmem a ha
    · exact hmems a ha

/-- Cells along axes of length one can be repeated to any shape with as many axes, and nothing else comes in. -/
theorem exists_spread (target : List Nat) (data : List α) :
    ∃ cells, spread target (List.replicate target.length 1) data = some cells ∧ ∀ a ∈ cells, a ∈ data := by
  induction target generalizing data with
  | nil => exact ⟨data, rfl, fun _ ha => ha⟩
  | cons n target ih =>
    have hsub : ∀ p ∈ (if 1 = n then pieces (volume (List.replicate target.length 1)) 1 data
        else List.replicate n data), ∀ a ∈ p, a ∈ data := by
      intro p hp a ha
      split at hp
      · exact mem_of_mem_pieces hp ha
      · rwa [List.eq_of_mem_replicate hp] at ha
    obtain ⟨rows, hrows, hmem⟩ := exists_mapM_flatten fun p hp => by
      obtain ⟨row, hrow, hmem⟩ := ih p
      exact ⟨row, hrow, fun a ha => hsub p hp a (hmem a ha)⟩
    refine ⟨rows.flatten, ?_, hmem⟩
    rw [List.length_cons, List.replicate_succ, spread, if_pos (Or.inr rfl), hrows]
    rfl

/-- What is along no axis can be repeated to any shape. -/
theorem Grid.exists_spread? {g : Grid α} (h : g.shape = []) (shape : List Nat) :
    ∃ cells, g.spread? shape = some cells ∧ ∀ a ∈ cells, a ∈ g.data := by
  obtain ⟨cells, hcells, hmem⟩ := exists_spread shape g.data
  refine ⟨cells, ?_, hmem⟩
  unfold spread?
  simpa [axes, h] using hcells

/-! ## What is written when a write breaks off -/

theorem readable_eq_nil {cells : List Value} (h : ∀ c ∈ cells, ∃ e, read c = .error e) : readable read cells = [] := by
  cases cells with
  | nil => rfl
  | cons c cells =>
    obtain ⟨e, he⟩ := h c List.mem_cons_self
    rw [readable, he]

theorem Grid.overwrite_nil (g : Grid α) (start : Nat) : g.overwrite start [] = g := by
  refine Grid.ext rfl (List.ext_getElem (by simp [overwrite]) fun i h₁ h₂ => ?_)
  simp [overwrite]

theorem cellsFor_cons (n : Nat) (shape : List Nat) (v : Value) :
    cellsFor read (n :: shape) v = (do
      let es ← v.elements
      let g ← es.grid.traverse read
      if v.isSequence && (n :: shape).length < g.axes then .error .unfitShape
      else match g.spread? (n :: shape) with
        | some cells => .ok cells
        | none => .error .unfitShape) := by
  unfold cellsFor
  refine bind_congr fun es => bind_congr fun g => ?_
  by_cases hc : (v.isSequence && (n :: shape).length < g.axes) = true
  · rw [if_pos hc]
    simp only [hc]
    rfl
  · rw [if_neg hc]
    simp only [hc]
    rfl

/-- A scalar that cannot be written is written to no cell. -/
theorem cellsBefore_of_error {v : Value} (hv : v.isScalar = true) {shape : List Nat} {e : Fault}
    (h : cellsFor read shape v = .error e) : cellsBefore read shape v = [] := by
  obtain ⟨es, hes, hshape⟩ := Value.exists_elements_of_isScalar hv
  cases shape with
  | nil => rfl
  | cons n shape =>
    have hread : ∃ e, es.grid.traverse read = .error e := by
      rw [cellsFor_cons, show v.elements = .ok es by rw [Value.elements, hes], ok_bind] at h
      cases hg : es.grid.traverse read with
      | error e => exact ⟨e, rfl⟩
      | ok g =>
        -- what is read along no axis fits any part
        have hnone : g.shape = [] := (Grid.traverse_eq_ok_iff.1 hg).1.trans hshape
        obtain ⟨cells, hcells, -⟩ := Grid.exists_spread? hnone (n :: shape)
        rw [hg, ok_bind, if_neg (by simp [Grid.axes, hnone]), hcells] at h
        cases h
    obtain ⟨e, he⟩ := hread
    obtain ⟨w, hw⟩ : ∃ w, es.grid.data = [w] :=
      List.length_eq_one_iff.1 (by rw [es.grid.data_length, hshape, volume_nil])
    have hfails : read w = .error e := by
      rw [Grid.traverse_eq_error_iff, hw, List.mapM_cons] at he
      rcases bind_eq_error.1 he with he | ⟨a, -, he⟩
      · exact he
      · exact absurd he pure_ne_error
    obtain ⟨cells, hcells, hmem⟩ := Grid.exists_spread? hshape (n :: shape)
    unfold cellsBefore
    rw [hes]
    dsimp only
    split
    · rfl
    · rw [hcells]
      refine readable_eq_nil fun c hc => ⟨e, ?_⟩
      have hsame : c = w := by simpa [hw] using hmem c hc
      rw [hsame, hfails]

/-- A list of as many cells as the part is read cell by cell, so the cells before the one that fails are written. -/
example : cellsBefore Value.toDouble [3] (.list [.int 5, .text "x", .int 7]) = [.ofInt 5] := by decide +kernel

/-! ## Arrays and stores -/

theorem Grid.brokenOff_of_error {v : Value} (hv : v.isScalar = true) {g : Grid α} {index : List Int} {e : Fault}
    (h : g.assign read index v = .error e) : g.brokenOff read index v = g := by
  unfold brokenOff
  unfold assign at h
  split at h
  · rfl
  · next start rest _ =>
    rcases bind_eq_error.1 h with h | ⟨cells, -, h⟩
    · rw [cellsBefore_of_error hv h, overwrite_nil]
    · exact absurd h pure_ne_error

end Spread

variable {v : Value} {index : List Int} {e : Fault}

/-- **A scalar that cannot be written leaves the array as it is.** -/
theorem Content.brokenOff_of_error (hv : v.isScalar = true) {c : Content} (h : c.assign index v = .error e) :
    c.brokenOff index v = c := by
  have hlone := Value.isScalar_lone hv
  unfold assign at h
  unfold brokenOff
  split at h
  · rw [Grid.brokenOff_of_error hlone (map_eq_error.1 h)]
  · rw [Grid.brokenOff_of_error hlone (map_eq_error.1 h)]
  · rw [Grid.brokenOff_of_error hlone (map_eq_error.1 h)]
  · rw [Grid.brokenOff_of_error hlone (map_eq_error.1 h)]
  · rw [Grid.brokenOff_of_error hlone (map_eq_error.1 h)]
  · rfl

/-- A write of a scalar that fails leaves the store as it is. -/
theorem Store.brokenOff_of_error (hv : v.isScalar = true) {s : Store} {held : Held}
    (h : s.write held index v = .error e) : s.brokenOff held index v = s := by
  cases held with
  | constant _ => rfl
  | record _ _ => rfl
  | cell i =>
    unfold write at h
    unfold brokenOff
    dsimp only at h ⊢
    cases hc : s.cells[i]? with
    | none => rfl
    | some c =>
      rw [hc] at h
      dsimp only
      rw [Content.brokenOff_of_error hv (map_eq_error.1 h)]
      obtain ⟨hlt, rfl⟩ := List.getElem?_eq_some_iff.1 hc
      rw [List.set_getElem_self]

end StructuralSeries
