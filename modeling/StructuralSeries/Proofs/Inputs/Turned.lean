import StructuralSeries.Proofs.Inputs.Orientation

/-!
# Inputs either way round

A table of inputs and the same table with its rows written as columns are the same inputs, unless it is a square
(`Inputs.ofGrid?_turned`). A line is a single row or a single column (`Inputs.ofGrid?_line`), and a table without
cells is no inputs (`Inputs.ofGrid?_of_size_eq_zero`).

Tables are compared cell by cell, so both ways of writing one are related by the cells alone (`Grid.IsTurned`).
-/

namespace StructuralSeries

variable {α : Type}

/-! ## Cells of tables -/

theorem getElem?_pieces {length count : Nat} {as : List α} (h : as.length = count * length) {i j : Nat}
    (hj : j < length) : ((pieces length count as)[i]?).bind (·[j]?) = as[i * length + j]? := by
  induction count generalizing as i with
  | zero =>
    have hnil : as = [] := List.length_eq_zero_iff.1 (by simpa using h)
    simp [pieces, hnil]
  | succ count ih =>
    rw [Nat.add_mul, Nat.one_mul] at h
    cases i with
    | zero => simp [pieces, hj]
    | succ i =>
      have hrest : (as.drop length).length = count * length := by
        rw [List.length_drop]
        omega
      have hplace : length + (i * length + j) = (i + 1) * length + j := by
        rw [Nat.add_mul, Nat.one_mul]
        omega
      rw [pieces, List.getElem?_cons_succ, ih hrest, List.getElem?_drop, hplace]

theorem getElem?_transpose {height : Nat} {cs : List (List α)} (h : ∀ c ∈ cs, c.length = height) (i j : Nat) :
    ((transpose height cs)[i]?).bind (·[j]?) = (cs[j]?).bind (·[i]?) := by
  induction cs generalizing j with
  | nil =>
    rw [transpose, List.getElem?_replicate]
    split
    · simp
    · simp
  | cons col cs ih =>
    obtain ⟨hcol, hcs⟩ := List.forall_mem_cons.1 h
    rw [transpose, List.getElem?_zipWith]
    by_cases hi : i < height
    · have hrow : i < (transpose height cs).length := by rw [length_transpose hcs]; exact hi
      have hi : i < col.length := by rw [hcol]; exact hi
      cases j with
      | zero => simp [hi, hrow]
      | succ j =>
        have ih := ih hcs j
        rw [List.getElem?_eq_getElem hrow] at ih
        simpa [hi, hrow] using ih
    · have hnone : col[i]? = none := List.getElem?_eq_none (by omega)
      cases j with
      | zero => simp [hnone]
      | succ j =>
        have hrow : (transpose height cs)[i]? = none := List.getElem?_eq_none (by rw [length_transpose hcs]; omega)
        have ih := ih hcs j
        rw [hrow] at ih
        simpa [hnone] using ih

/-- Tables of one size are equal if their cells are. -/
theorem rows_ext {width : Nat} {rows rows' : List (List α)} (hlen : rows.length = rows'.length)
    (hw : ∀ r ∈ rows, r.length = width) (hw' : ∀ r ∈ rows', r.length = width)
    (hcell : ∀ i < rows.length, ∀ j < width, (rows[i]?).bind (·[j]?) = (rows'[i]?).bind (·[j]?)) : rows = rows' := by
  refine List.ext_getElem hlen fun i hi hi' => ?_
  have hrow : rows[i].length = width := hw _ (List.getElem_mem hi)
  have hrow' : rows'[i].length = width := hw' _ (List.getElem_mem hi')
  refine List.ext_getElem (hrow.trans hrow'.symm) fun j hj hj' => ?_
  have h := hcell i hi j (by omega)
  simpa [hi, hi', hj, hj'] using h

/-! ## Tables either way round -/

/-- The grid `h` is the table `g` of so many rows and columns with rows and columns exchanged. -/
structure Grid.IsTurned (g h : Grid α) (tall wide : Nat) : Prop where
  shape : g.shape = [tall, wide]
  turned : h.shape = [wide, tall]
  cell : ∀ i < tall, ∀ j < wide, h.data[j * tall + i]? = g.data[i * wide + j]?

theorem Grid.IsTurned.symm {g h : Grid α} {tall wide : Nat} (hg : g.IsTurned h tall wide) :
    h.IsTurned g wide tall :=
  ⟨hg.turned, hg.shape, fun i hi j hj => (hg.cell j hj i hi).symm⟩

/-- A row and a column of the same cells are one table either way round. -/
theorem Grid.isTurned_column {g h : Grid α} {n : Nat} (hg : g.shape = [1, n]) (hh : h.shape = [n, 1])
    (hdata : h.data = g.data) : g.IsTurned h 1 n := by
  refine ⟨hg, hh, fun i hi j _ => ?_⟩
  obtain rfl : i = 0 := by omega
  simp [hdata]

namespace Inputs

/-- The rows of a tall table are the columns of the turned one. -/
theorem oriented_turned {tall wide : Nat} {data data' : List Double} (h : data.length = tall * wide)
    (h' : data'.length = wide * tall) (hlt : wide < tall)
    (hcell : ∀ i < tall, ∀ j < wide, data'[j * tall + i]? = data[i * wide + j]?) :
    oriented tall wide data h = oriented wide tall data' h' := by
  have hwide : ∀ r ∈ pieces wide tall data, r.length = wide := fun r hr => length_of_mem_pieces h hr
  have htall : ∀ r ∈ pieces tall wide data', r.length = tall := fun r hr => length_of_mem_pieces h' hr
  have hheight : (transpose tall (pieces tall wide data')).length = tall := length_transpose htall
  have hcolumns : pieces wide tall data = transpose tall (pieces tall wide data') := by
    refine rows_ext (by rw [length_pieces, hheight]) hwide ?_ fun i hi j hj => ?_
    · intro r hr
      rw [length_of_mem_transpose hr, length_pieces]
    · rw [length_pieces] at hi
      rw [getElem?_transpose htall, getElem?_pieces h hj, getElem?_pieces h' hi, hcell i hi j hj]
  unfold oriented
  rw [if_pos hlt, if_neg (by omega)]
  exact Inputs.ext (length_pieces _ _ _).symm hcolumns

theorem ofGrid?_of_size_eq_zero {g : Grid Double} (h : g.size = 0) : ofGrid? g = .ok idle := if_pos h

theorem ofGrid?_table {tall wide : Nat} {data : List Double} {h : data.length = volume [tall, wide]}
    (hlen : data.length = tall * wide) (hne : data.length ≠ 0) :
    ofGrid? ⟨[tall, wide], data, h⟩ = .ok (oriented tall wide data hlen) := if_neg hne

/-- **A table that is no square gives the same inputs either way round.** -/
theorem ofGrid?_turned {g g' : Grid Double} {tall wide : Nat} (hg : g.IsTurned g' tall wide) (hne : tall ≠ wide) :
    ofGrid? g = ofGrid? g' := by
  -- it is enough to look at a tall table, since its turned one is wide
  have key : ∀ {g g' : Grid Double} {tall wide : Nat}, g.IsTurned g' tall wide → wide < tall →
      ofGrid? g = ofGrid? g' := by
    rintro ⟨shape, data, h⟩ ⟨shape', data', h'⟩ tall wide ⟨hshape, hturned, hcell⟩ hlt
    obtain rfl : shape = [tall, wide] := hshape
    obtain rfl : shape' = [wide, tall] := hturned
    have hlen : data.length = tall * wide := by simpa using h
    have hlen' : data'.length = wide * tall := by simpa using h'
    by_cases hzero : data.length = 0
    · have hsize : Grid.size ⟨[tall, wide], data, h⟩ = 0 := hzero
      have hsize' : Grid.size ⟨[wide, tall], data', h'⟩ = 0 := by
        show data'.length = 0
        rw [hlen', Nat.mul_comm, ← hlen, hzero]
      rw [ofGrid?_of_size_eq_zero hsize, ofGrid?_of_size_eq_zero hsize']
    · have hzero' : data'.length ≠ 0 := by rwa [hlen', Nat.mul_comm, ← hlen]
      rw [ofGrid?_table hlen hzero, ofGrid?_table hlen' hzero', oriented_turned hlen hlen' hlt hcell]
  rcases Nat.lt_or_gt_of_ne hne with hlt | hlt
  · exact (key hg.symm hlt).symm
  · exact key hg hlt

/-- **A line is a single row.** -/
theorem ofGrid?_line {g : Grid Double} {xs : List Double} (hshape : g.shape = [1, xs.length]) (hdata : g.data = xs) :
    ofGrid? (.ofList xs) = ofGrid? g := by
  obtain ⟨shape, data, h⟩ := g
  obtain rfl : shape = [1, xs.length] := hshape
  obtain rfl : data = xs := hdata
  rfl

/-- **A line is a single column.** -/
theorem ofGrid?_column {g : Grid Double} {xs : List Double} (hshape : g.shape = [xs.length, 1])
    (hdata : g.data = xs) : ofGrid? (.ofList xs) = ofGrid? g := by
  let row : Grid Double := ⟨[1, xs.length], xs, by simp⟩
  rw [ofGrid?_line (g := row) rfl rfl]
  by_cases hlen : xs.length = 1
  · -- a single cell is a row and a column at once
    obtain ⟨shape, data, h⟩ := g
    obtain rfl : data = xs := hdata
    obtain rfl : shape = [data.length, 1] := hshape
    have hrow : row = ⟨[data.length, 1], data, h⟩ := by
      simp only [row, hlen]
    rw [hrow]
  · exact ofGrid?_turned (Grid.isTurned_column rfl hshape hdata) (by omega)

end Inputs

end StructuralSeries
