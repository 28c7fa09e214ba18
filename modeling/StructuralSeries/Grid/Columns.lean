/-!
# Rows and columns

A table is a list of rows of one width or a list of columns of one height. `transpose` turns one into the other,
and `transpose_transpose` says that nothing is lost. `pieces` cuts a row-major list into rows.
-/

namespace StructuralSeries

variable {α : Type}

/-! ## Transposing -/

/-- The rows of a list of columns of one height. -/
def transpose (height : Nat) : List (List α) → List (List α)
  | [] => List.replicate height []
  | c :: cs => List.zipWith List.cons c (transpose height cs)

theorem length_transpose {height : Nat} {cs : List (List α)} (h : ∀ c ∈ cs, c.length = height) :
    (transpose height cs).length = height := by
  induction cs with
  | nil => simp [transpose]
  | cons c cs ih =>
    have hc := h c List.mem_cons_self
    have ih := ih fun x hx => h x (List.mem_cons_of_mem _ hx)
    simp [transpose, hc, ih]

theorem length_of_mem_zipWith_cons {n : Nat} {c : List α} {rows : List (List α)}
    (h : ∀ r ∈ rows, r.length = n) {r : List α} (hr : r ∈ List.zipWith List.cons c rows) :
    r.length = n + 1 := by
  induction c generalizing rows with
  | nil => simp at hr
  | cons a c ih =>
    cases rows with
    | nil => simp at hr
    | cons s rows =>
      rw [List.zipWith_cons_cons, List.mem_cons] at hr
      rcases hr with rfl | hr
      · simp [h s List.mem_cons_self]
      · exact ih (fun x hx => h x (List.mem_cons_of_mem _ hx)) hr

theorem length_of_mem_transpose {height : Nat} {cs : List (List α)} {r : List α}
    (hr : r ∈ transpose height cs) : r.length = cs.length := by
  induction cs generalizing r with
  | nil => simp [(List.mem_replicate.1 hr).2]
  | cons c cs ih => exact length_of_mem_zipWith_cons (fun x hx => ih hx) hr

/-- Transposing rows whose heads are a column gives that column first. -/
theorem transpose_zipWith_cons {n : Nat} {c : List α} {rows : List (List α)}
    (h : c.length = rows.length) :
    transpose (n + 1) (List.zipWith List.cons c rows) = c :: transpose n rows := by
  induction c generalizing rows with
  | nil =>
    cases rows with
    | nil => simp [transpose, List.replicate_succ]
    | cons r rows => simp at h
  | cons a c ih =>
    cases rows with
    | nil => simp at h
    | cons r rows => simp [transpose, ih (by simpa using h)]

/-- Transposing twice gives the columns back. -/
theorem transpose_transpose {height : Nat} {cs : List (List α)} (h : ∀ c ∈ cs, c.length = height) :
    transpose cs.length (transpose height cs) = cs := by
  induction cs with
  | nil =>
    cases height <;> simp [transpose, List.replicate_succ]
  | cons c cs ih =>
    have hc := h c List.mem_cons_self
    have hcs : ∀ x ∈ cs, x.length = height := fun x hx => h x (List.mem_cons_of_mem _ hx)
    rw [transpose, List.length_cons, transpose_zipWith_cons (by rw [hc, length_transpose hcs]), ih hcs]

/-! ## Pieces -/

/-- So many pieces of one length, one after the other. -/
def pieces (length : Nat) : Nat → List α → List (List α)
  | 0, _ => []
  | count + 1, as => as.take length :: pieces length count (as.drop length)

@[simp] theorem length_pieces (length count : Nat) (as : List α) :
    (pieces length count as).length = count := by
  induction count generalizing as with
  | zero => rfl
  | succ count ih => simp [pieces, ih]

theorem length_of_mem_pieces {length count : Nat} {as p : List α} (h : as.length = count * length)
    (hp : p ∈ pieces length count as) : p.length = length := by
  induction count generalizing as with
  | zero => simp [pieces] at hp
  | succ count ih =>
    have hn : as.length = count * length + length := by rw [h, Nat.add_mul, Nat.one_mul]
    rcases List.mem_cons.1 hp with rfl | hp
    · rw [List.length_take]
      omega
    · exact ih (by rw [List.length_drop]; omega) hp

end StructuralSeries
