/-!
# Grids

A grid holds values along any number of axes: a shape and the values in row-major order, as many as the shape
asks for. A grid without axes holds one value.

`firstRow?` is the part at the first place of the first axis. `stack` puts grids of one shape on top of each other
along a new first axis. It is the only way in which nested sequences become a grid, so it alone decides what is
ragged.
-/

namespace StructuralSeries

/-- Number of cells of a shape. -/
def volume (shape : List Nat) : Nat := shape.foldr (· * ·) 1

@[simp] theorem volume_nil : volume [] = 1 := rfl

@[simp] theorem volume_cons (n : Nat) (shape : List Nat) : volume (n :: shape) = n * volume shape := rfl

/-- Values along the axes of a shape. -/
structure Grid (α : Type) where
  shape : List Nat
  data : List α
  data_length : data.length = volume shape

namespace Grid

variable {α β : Type}

/-- The grid of a shape, if there are as many values as it needs. -/
def ofData? (shape : List Nat) (data : List α) : Option (Grid α) :=
  if h : data.length = volume shape then some ⟨shape, data, h⟩ else none

/-- The grid of a shape from any list of values: surplus values are dropped, and cells without one hold the
filler. -/
def fit (filler : α) (shape : List Nat) (data : List α) : Grid α :=
  let kept := data.take (volume shape)
  ⟨shape, kept ++ List.replicate (volume shape - kept.length) filler, by
    have h : kept.length ≤ volume shape := List.length_take_le _ _
    simp only [List.length_append, List.length_replicate]
    omega⟩

/-- A single value. -/
def scalar (a : α) : Grid α := ⟨[], [a], rfl⟩

/-- Values along one axis. -/
def ofList (as : List α) : Grid α := ⟨[as.length], as, by simp⟩

def map (f : α → β) (g : Grid α) : Grid β := ⟨g.shape, g.data.map f, by simp [g.data_length]⟩

def size (g : Grid α) : Nat := g.data.length

/-- Number of axes. -/
def axes (g : Grid α) : Nat := g.shape.length

/-- The part at the first place of the first axis, if there is such a place. -/
def firstRow? (g : Grid α) : Option (Grid α) :=
  match g with
  | ⟨[], _, _⟩ | ⟨0 :: _, _, _⟩ => none
  | ⟨(n + 1) :: row, data, h⟩ => some ⟨row, data.take (volume row), by
      rw [volume_cons, Nat.add_mul, Nat.one_mul] at h
      rw [List.length_take]
      omega⟩

@[simp] theorem firstRow?_ofList_nil : (ofList ([] : List α)).firstRow? = none := rfl

@[simp] theorem firstRow?_ofList_cons (a : α) (as : List α) :
    (ofList (a :: as)).firstRow? = some (scalar a) := rfl

/-- A grid without axes gets one. -/
def atLeastLine (g : Grid α) : Grid α :=
  if h : g.shape = [] then ⟨[1], g.data, by simp [g.data_length, h]⟩ else g

/-- The grid without its axes of length one. -/
def squeezed (g : Grid α) : Grid α :=
  ⟨g.shape.filter (· ≠ 1), g.data, by
    rw [g.data_length]
    generalize g.shape = s
    induction s with
    | nil => rfl
    | cons n s ih =>
      by_cases h : n = 1 <;> simp [h, ih]⟩

theorem length_flatMap_data {shape : List Nat} {gs : List (Grid α)}
    (h : ∀ g ∈ gs, g.shape = shape) :
    (gs.flatMap data).length = gs.length * volume shape := by
  induction gs with
  | nil => simp
  | cons g gs ih =>
    have hg : g.data.length = volume shape := by
      rw [g.data_length, h g List.mem_cons_self]
    have ih := ih fun x hx => h x (List.mem_cons_of_mem _ hx)
    simp only [List.flatMap_cons, List.length_append, List.length_cons, ih, hg]
    rw [Nat.add_mul, Nat.one_mul, Nat.add_comm]

/-- Grids of one shape along a new first axis; nothing if the shapes differ. -/
def stack : List (Grid α) → Option (Grid α)
  | [] => some ⟨[0], [], by simp⟩
  | g :: gs =>
    if h : ∀ x ∈ gs, x.shape = g.shape then
      some ⟨(gs.length + 1) :: g.shape, g.data ++ gs.flatMap data, by
        rw [List.length_append, length_flatMap_data h, g.data_length, volume_cons, Nat.add_mul,
          Nat.one_mul, Nat.add_comm]⟩
    else none

/-- As many values as the shape needs are all kept. -/
theorem fit_data {filler : α} {shape : List Nat} {data : List α} (h : data.length = volume shape) :
    (fit filler shape data).data = data := by
  simp [fit, ← h]

theorem length_of_mapM {ε : Type} {f : α → Except ε β} {as : List α} {bs : List β}
    (h : as.mapM f = .ok bs) : bs.length = as.length := by
  induction as generalizing bs with
  | nil => cases h; rfl
  | cons a as ih =>
    rw [List.mapM_cons] at h
    cases ha : f a with
    | error e => rw [ha] at h; cases h
    | ok b =>
      cases hs : as.mapM f with
      | error e => rw [ha, hs] at h; cases h
      | ok cs =>
        rw [ha, hs] at h
        cases h
        simp [ih hs]

/-- The grid with a rule applied to each cell that may fail; the first failure in row-major order is the
failure of all. -/
def traverse {ε : Type} (f : α → Except ε β) (g : Grid α) : Except ε (Grid β) :=
  match h : g.data.mapM f with
  | .ok bs => .ok ⟨g.shape, bs, by rw [length_of_mapM h, g.data_length]⟩
  | .error e => .error e

@[simp] theorem map_shape (f : α → β) (g : Grid α) : (g.map f).shape = g.shape := rfl

@[simp] theorem map_data (f : α → β) (g : Grid α) : (g.map f).data = g.data.map f := rfl

@[ext] theorem ext {g h : Grid α} (hs : g.shape = h.shape) (hd : g.data = h.data) : g = h := by
  cases g; cases h; cases hs; cases hd; rfl

end Grid

end StructuralSeries
