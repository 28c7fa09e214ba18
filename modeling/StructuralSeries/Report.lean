import StructuralSeries.Fault

/-!
# Reports

The outcome of an operation together with what it said on the way: notices, which a caller can silence, and
warnings, which it cannot. What was said before a failure is kept.

`Report` is a monad: `bind` runs the second operation only on success and appends what it says.
-/

namespace StructuralSeries

/-- A line for the caller's eyes. -/
inductive Notice where
  /-- So many missing values were cut off at the two ends of the series. -/
  | trimmed (leading trailing : Nat)
  /-- The inputs fixed the horizon against the caller's. -/
  | horizonFromInputs (horizon : Int)
  deriving DecidableEq, Repr

/-- A remark that is never silenced. -/
inductive Warning where
  /-- A horizon that is not whole lost its fraction. -/
  | fractionalHorizon
  deriving DecidableEq, Repr

namespace Notice

def text : Notice → String
  | trimmed a b => s!"Warning: {a} leading and {b} trailing missing values removed from the series."
  | horizonFromInputs h => s!"Warning: Horizon taken from the inputs (h = {h})."

end Notice

namespace Warning

def text : Warning → String
  | fractionalHorizon => "h must be integer. It will be used its integer part."

end Warning

/-- An outcome and what was said on the way to it. -/
structure Report (α : Type) where
  result : Except Fault α
  notices : List Notice := []
  warnings : List Warning := []

namespace Report

variable {α β : Type}

/-- An outcome about which nothing is said. -/
def ofExcept (result : Except Fault α) : Report α := ⟨result, [], []⟩

def ok (a : α) : Report α := ofExcept (.ok a)

/-- Says a line unless silenced. -/
def notify (silent : Bool) (n : Notice) : Report Unit := ⟨.ok (), if silent then [] else [n], []⟩

def warn (w : Warning) : Report Unit := ⟨.ok (), [], [w]⟩

def bind (r : Report α) (f : α → Report β) : Report β :=
  match r.result with
  | .error e => ⟨.error e, r.notices, r.warnings⟩
  | .ok a => ⟨(f a).result, r.notices ++ (f a).notices, r.warnings ++ (f a).warnings⟩

instance : Monad Report where
  pure := ok
  bind := bind

instance : MonadLift (Except Fault) Report where
  monadLift := ofExcept

@[simp] theorem bind_ok (a : α) (f : α → Report β) : (ok a).bind f = f a := by
  simp [ok, ofExcept, bind]

@[simp] theorem bind_error (e : Fault) (f : α → Report β) :
    (ofExcept (.error e) : Report α).bind f = ofExcept (.error e) := rfl

theorem bind_assoc {γ : Type} (r : Report α) (f : α → Report β) (g : β → Report γ) :
    (r.bind f).bind g = r.bind fun a => (f a).bind g := by
  rcases r with ⟨e | a, ns, ws⟩
  · rfl
  · simp only [bind]
    cases (f a).result <;> simp

theorem map_id (r : Report α) : id <$> r = r := by
  rcases r with ⟨e | a, ns, ws⟩ <;> simp [Functor.map, bind, ok, ofExcept]

theorem pure_bind (a : α) (f : α → Report β) : (pure a : Report α) >>= f = f a := bind_ok a f

instance : LawfulMonad Report := LawfulMonad.mk' Report map_id pure_bind bind_assoc

/-- A report that fails had a first part that failed, or a second one. -/
theorem result_bind (r : Report α) (f : α → Report β) :
    (r.bind f).result = r.result.bind fun a => (f a).result := by
  unfold bind
  cases r.result <;> rfl

end Report

end StructuralSeries
