import StructuralSeries.Proofs.Series.Lines
import StructuralSeries.Proofs.Settings.Again
import StructuralSeries.Proofs.Settings.Names

/-!
# Numbers in every form

Four settings are numbers along axes (`Setting.arrays`). What a value of numbers means for one of them is said by the
numbers alone, not by what they come in (`Value.HoldSameNumbers.meanSame`). So calls whose options hold the same numbers
have one outcome (`Settings.resolve_numberForms`): the same settings, or the same failure. All that a form leaves behind
is how a refusal shows the value.

Calls are compared setting by setting (`Supplied.Alike`): alike calls keep and break the same contracts, and their
drafts are the same.
-/

namespace StructuralSeries

/-- The settings that are numbers along axes. -/
def Setting.arrays : List Setting := [inputs, periods, initial, fixed]

/-! ## Values of one meaning -/

/-- Two values mean the same for every setting that is numbers along axes. -/
structure Value.MeanSame (v w : Value) : Prop where
  inputs : Contract.inputs v = Contract.inputs w
  vector : Contract.vector v = Contract.vector w

/-- Two values hold the same numbers, along as many axes as an array can have. -/
def Value.HoldSameNumbers (v w : Value) : Prop :=
  ∃ g : Grid Double, g.axes ≤ Elements.mostAxes ∧ v.HoldsNumbers g ∧ w.HoldsNumbers g

namespace Value

variable {v w : Value}

theorem MeanSame.refl (v : Value) : v.MeanSame v := ⟨rfl, rfl⟩

theorem MeanSame.symm (h : v.MeanSame w) : w.MeanSame v := ⟨h.inputs.symm, h.vector.symm⟩

theorem MeanSame.periods (h : v.MeanSame w) : Contract.periods v = Contract.periods w := by
  unfold Contract.periods
  rw [h.vector]

/-- **Numbers mean the same in every form.** -/
theorem HoldSameNumbers.meanSame (h : v.HoldSameNumbers w) : v.MeanSame w := by
  obtain ⟨g, haxes, hv, hw⟩ := h
  exact ⟨by rw [Contract.inputs_of_holdsNumbers hv haxes, Contract.inputs_of_holdsNumbers hw haxes],
    by rw [Contract.vector_of_holdsNumbers hv haxes, Contract.vector_of_holdsNumbers hw haxes]⟩

theorem HoldsNumbers.isShowable {g : Grid Double} (h : v.HoldsNumbers g) : v.isShowable = true := by
  have hitems : ∀ {parts : List (Value × Grid Double)}, (∀ p ∈ parts, p.1.isShowable = true) →
      areShowableAt 0 (lists 0) (parts.map Prod.fst) = true :=
    fun hparts => areShowableAt_of_forall (List.forall_mem_map.2 hparts) _
  induction h with
  | number h => exact isShowable_of_number? h
  | float64 box g => rfl
  | float32 box g => rfl
  | list _ _ ih => exact hitems ih
  | tuple _ _ ih => exact hitems ih

theorem HoldSameNumbers.isShowable (h : v.HoldSameNumbers w) : v.isShowable = true ∧ w.isShowable = true := by
  obtain ⟨g, -, hv, hw⟩ := h
  exact ⟨hv.isShowable, hw.isShowable⟩

/-! ## Vectors and matrices of floats -/

/-- A list and a tuple of floats hold them along one axis. -/
theorem HoldsNumbers.floats (xs : List Double) :
    (Value.list (xs.map float)).HoldsNumbers (.ofList xs) ∧ (Value.tuple (xs.map float)).HoldsNumbers (.ofList xs) := by
  let parts : List (Value × Grid Double) := xs.map fun x => (float x, .scalar x)
  have hitems : parts.map Prod.fst = xs.map float := List.map_map
  have hgrids : parts.map Prod.snd = xs.map Grid.scalar := List.map_map
  have hparts : ∀ p ∈ parts, p.1.HoldsNumbers p.2 := by
    intro p hp
    obtain ⟨x, -, rfl⟩ := List.mem_map.1 hp
    exact .number rfl
  have hstack : Grid.stack (parts.map Prod.snd) = some (.ofList xs) := by rw [hgrids, Grid.stack_scalar]
  rw [← hitems]
  exact ⟨.list hparts hstack, .tuple hparts hstack⟩

/-- A list and a tuple of rows of one length, each a list or a tuple of floats, hold the matrix of these rows. -/
theorem HoldsNumbers.rows {n : Nat} {rows : List (Value × List Double)} (hne : rows ≠ [])
    (hrows : ∀ r ∈ rows, r.1 = Value.list (r.2.map float) ∨ r.1 = Value.tuple (r.2.map float))
    (hlength : ∀ r ∈ rows, r.2.length = n) :
    ∃ g : Grid Double, g.shape = [rows.length, n] ∧ g.data = rows.flatMap Prod.snd ∧
      (Value.list (rows.map Prod.fst)).HoldsNumbers g ∧ (Value.tuple (rows.map Prod.fst)).HoldsNumbers g := by
  let parts : List (Value × Grid Double) := rows.map fun r => (r.1, .ofList r.2)
  have hitems : parts.map Prod.fst = rows.map Prod.fst := List.map_map
  have hgrids : parts.map Prod.snd = rows.map fun r => .ofList r.2 := List.map_map
  have hparts : ∀ p ∈ parts, p.1.HoldsNumbers p.2 := by
    intro p hp
    obtain ⟨r, hr, rfl⟩ := List.mem_map.1 hp
    rcases hrows r hr with heq | heq
    · exact heq ▸ (floats r.2).1
    · exact heq ▸ (floats r.2).2
  have hstack : ∃ g : Grid Double, Grid.stack (parts.map Prod.snd) = some g ∧ g.shape = [rows.length, n] ∧
      g.data = rows.flatMap Prod.snd := by
    obtain ⟨r, rest, rfl⟩ := List.exists_cons_of_ne_nil hne
    obtain ⟨hr, hrest⟩ := List.forall_mem_cons.1 hlength
    have hshape : ∀ g ∈ rest.map (fun r : Value × List Double => Grid.ofList r.2),
        g.shape = (Grid.ofList r.2).shape := by
      intro g hg
      obtain ⟨r', hr', rfl⟩ := List.mem_map.1 hg
      show [r'.2.length] = [r.2.length]
      rw [hr, hrest r' hr']
    rw [hgrids, List.map_cons, Grid.stack, dif_pos hshape]
    refine ⟨_, rfl, ?_, ?_⟩
    · show [(rest.map _).length + 1, r.2.length] = _
      rw [List.length_map, hr]
      rfl
    · show r.2 ++ (rest.map _).flatMap Grid.data = _
      rw [List.flatMap_map]
      rfl
  obtain ⟨g, hg, hshape, hdata⟩ := hstack
  rw [← hitems]
  exact ⟨g, hshape, hdata, .list hparts hg, .tuple hparts hg⟩

end Value

/-! ## Alike calls -/

namespace Supplied

/-- Two calls give every setting the same value, or values of one meaning if the setting is numbers along axes. Values
that are not the same can be shown. -/
structure Alike (supplied supplied' : Supplied) : Prop where
  arrays : ∀ s ∈ Setting.arrays, (supplied.value s).MeanSame (supplied'.value s)
  shown : ∀ s ∈ Setting.arrays, supplied.value s = supplied'.value s ∨
    (supplied.value s).isShowable = true ∧ (supplied'.value s).isShowable = true
  others : ∀ s ∉ Setting.arrays, supplied.value s = supplied'.value s

/-- The call is refused because a setting breaks its contract. -/
def Breaks (supplied : Supplied) (s : Setting) : Prop :=
  supplied.draft = .error (.refused (.brokenContract s.name s.contract (supplied.value s).shown))

namespace Alike

variable {supplied supplied' : Supplied} {d : Draft}

theorem symm (h : supplied.Alike supplied') : supplied'.Alike supplied :=
  ⟨fun s hs => (h.arrays s hs).symm, fun s hs => (h.shown s hs).imp Eq.symm And.symm,
    fun s hs => (h.others s hs).symm⟩

theorem draft_of (h : supplied.Alike supplied') (hd : d.Of supplied) : d.Of supplied' where
  inputs := (h.arrays .inputs (by decide)).inputs ▸ hd.inputs
  periods := (h.arrays .periods (by decide)).periods ▸ hd.periods
  model := h.others .model (by decide) ▸ hd.model
  horizon := h.others .horizon (by decide) ▸ hd.horizon
  outlier := h.others .outlier (by decide) ▸ hd.outlier
  unitRootTest := h.others .unitRootTest (by decide) ▸ hd.unitRootTest
  stepwise := h.others .stepwise (by decide) ▸ hd.stepwise
  verbose := h.others .verbose (by decide) ▸ hd.verbose
  concentrated := h.others .concentrated (by decide) ▸ hd.concentrated
  arma := h.others .arma (by decide) ▸ hd.arma
  initial := (h.arrays .initial (by decide)).vector ▸ hd.initial
  fixed := (h.arrays .fixed (by decide)).vector ▸ hd.fixed
  criterion := h.others .criterion (by decide) ▸ hd.criterion

theorem verdict_eq (h : supplied.Alike supplied') (s : Setting) :
    s.verdict (supplied.value s) = s.verdict (supplied'.value s) := by
  cases s with
  | inputs => exact congrArg (Except.map _) (h.arrays .inputs (by decide)).inputs
  | periods => exact congrArg (Except.map _) (h.arrays .periods (by decide)).periods
  | initial => exact congrArg (Except.map _) (h.arrays .initial (by decide)).vector
  | fixed => exact congrArg (Except.map _) (h.arrays .fixed (by decide)).vector
  | _ => rw [h.others _ (by decide)]

/-- **Alike calls have one draft, fail in the same way, or break the contract of the same setting.** -/
theorem draft_eq_or_breaks (h : supplied.Alike supplied') :
    supplied.draft = supplied'.draft ∨ ∃ s ∈ Setting.arrays, supplied.Breaks s ∧ supplied'.Breaks s := by
  cases hdraft : supplied.draft with
  | ok d => exact Or.inl (draft_eq_ok_iff.2 (h.draft_of (draft_eq_ok_iff.1 hdraft))).symm
  | error e =>
    obtain ⟨before, s, after, hall, hbefore, hcheck⟩ := draft_eq_error_iff.1 hdraft
    have hbefore' : ∀ t ∈ before, t.verdict (supplied'.value t) = .ok true :=
      fun t ht => (h.verdict_eq t).symm.trans (hbefore t ht)
    have hfails : ∀ e', supplied'.check s = .error e' → supplied'.draft = .error e' :=
      fun e' he => draft_eq_error_iff.2 ⟨before, s, after, hall, hbefore', he⟩
    rcases check_eq_error_iff.1 hcheck with hleak | ⟨hbroken, rfl⟩
    · exact Or.inl (hfails e (check_eq_error_iff.2 (Or.inl ((h.verdict_eq s).symm.trans hleak)))).symm
    · have hbroken' := hfails _ (check_eq_error_iff.2 (Or.inr ⟨(h.verdict_eq s).symm.trans hbroken, rfl⟩))
      have hvalues : supplied.value s = supplied'.value s ∨ s ∈ Setting.arrays ∧
          (supplied.value s).isShowable = true ∧ (supplied'.value s).isShowable = true := by
        by_cases hs : s ∈ Setting.arrays
        · exact (h.shown s hs).imp_right (And.intro hs)
        · exact Or.inl (h.others s hs)
      rcases hvalues with heq | ⟨hs, hshow, hshow'⟩
      · rw [broken_congr heq]
        exact Or.inl hbroken'.symm
      · rw [broken_of_isShowable hshow] at hdraft
        rw [broken_of_isShowable hshow'] at hbroken'
        exact Or.inr ⟨s, hs, hdraft, hbroken'⟩

end Alike

/-! ## Options of the same numbers -/

/-- Two options of one name have one value, or they give the same numbers for a setting that is numbers along axes. -/
structure SameOption (o o' : String × Value) : Prop where
  name : o.1 = o'.1
  value : o.2 = o'.2 ∨ (∃ s ∈ Setting.arrays, o.1 = s.name) ∧ o.2.HoldSameNumbers o'.2

variable {options options' : List (String × Value)}

theorem names_eq_of_sameOption (h : List.Forall₂ SameOption options options') : names options = names options' := by
  induction h with
  | nil => rfl
  | cons hname _ ih => exact congrArg₂ List.cons hname.name ih

theorem value_cons (n : String) (v : Value) (supplied : Supplied) (s : Setting) :
    value ((n, v) :: supplied) s = if s.name = n then v else supplied.value s := by
  rw [value, List.lookup_cons]
  by_cases hn : s.name = n
  · simp [hn]
  · rw [if_neg hn, beq_eq_false_iff_ne.2 hn]
    rfl

theorem value_cases_of_sameOption (h : List.Forall₂ SameOption options options') (s : Setting) :
    (canonical options).value s = (canonical options').value s ∨
      s ∈ Setting.arrays ∧ ((canonical options).value s).HoldSameNumbers ((canonical options').value s) := by
  induction h with
  | nil => exact Or.inl rfl
  | @cons o o' rest rest' ho hrest ih =>
    have hcons : ∀ (p : String × Value) ps, (canonical (p :: ps)).value s =
        if s.name = Setting.canonicalName p.1 then p.2 else (canonical ps).value s :=
      fun p ps => value_cons _ _ _ _
    rw [hcons, hcons, ← ho.name]
    by_cases hs : s.name = Setting.canonicalName o.1
    · rw [if_pos hs, if_pos hs]
      refine ho.value.imp_right ?_
      rintro ⟨⟨t, ht, hname⟩, hsame⟩
      rw [hname, t.canonicalName_name] at hs
      exact ⟨Setting.name_injective hs ▸ ht, hsame⟩
    · rw [if_neg hs, if_neg hs]
      exact ih

theorem alike_of_sameOption (h : List.Forall₂ SameOption options options') :
    (canonical options).Alike (canonical options') where
  arrays s _ := by
    rcases value_cases_of_sameOption h s with heq | ⟨-, hsame⟩
    · exact heq ▸ .refl _
    · exact hsame.meanSame
  shown s _ := (value_cases_of_sameOption h s).imp_right fun hsame => hsame.2.isShowable
  others s hs := (value_cases_of_sameOption h s).resolve_right fun hsame => hs hsame.1

end Supplied

namespace Settings

open Supplied

variable {options options' : List (String × Value)}

/-- The report of a call that is refused because a setting breaks its contract. -/
def refusal (s : Setting) (v : Value) : Report Settings :=
  .ofExcept (.error (.refused (.brokenContract s.name s.contract v.shown)))

theorem resolve_of_breaks {s : Setting} (hnames : nameRefusal? (names (canonical options)) = none)
    (h : (canonical options).Breaks s) : resolve options = refusal s ((canonical options).value s) := by
  rw [resolve_of_names hnames, show (canonical options).draft = _ from h]
  rfl

/-- **It does not matter what numbers come in.**

Two calls whose options have the same names, the same numbers for the settings that are numbers along axes, and the same
values for all other settings have one outcome: the same settings, or the same failure, with the same warnings. If the
failure is that such a setting breaks its contract, then the two refusals differ in how they show the value. -/
theorem resolve_numberForms (h : List.Forall₂ SameOption options options') :
    resolve options = resolve options' ∨
      ∃ s ∈ Setting.arrays, resolve options = refusal s ((canonical options).value s) ∧
        resolve options' = refusal s ((canonical options').value s) := by
  have hsame : nameRefusal? (names (canonical options)) = nameRefusal? (names (canonical options')) := by
    rw [names_canonical, names_canonical, names_eq_of_sameOption h]
  cases hnames : nameRefusal? (names (canonical options)) with
  | some why =>
    left
    rw [resolve_of_nameRefusal? hnames, resolve_of_nameRefusal? (hsame ▸ hnames)]
  | none =>
    have hnames' : nameRefusal? (names (canonical options')) = none := hsame ▸ hnames
    rcases (alike_of_sameOption h).draft_eq_or_breaks with hdraft | ⟨s, hs, hbreaks, hbreaks'⟩
    · left
      rw [resolve_of_names hnames, resolve_of_names hnames', hdraft]
    · exact Or.inr ⟨s, hs, resolve_of_breaks hnames hbreaks, resolve_of_breaks hnames' hbreaks'⟩

/-- Two periods in a list and along a labelled axis, and a matrix of inputs in a list of a list and a tuple and in a
table. -/
theorem resolve_numberForms_mixed :
    resolve [("periods", .list [.float (.ofInt 4), .float (.ofInt 2)]), ("h", .int 3),
        ("u", .list [.list [.float .one, .float .zero], .tuple [.float .nan, .float .one]])] =
      resolve [("periods", .numbers .series (.float64 (.ofList [.ofInt 4, .ofInt 2]))), ("h", .int 3),
        ("u", .numbers .frame (.float64 ⟨[2, 2], [.one, .zero, .nan, .one], rfl⟩))] := by
  have hperiods : (Value.list [.float (.ofInt 4), .float (.ofInt 2)]).HoldSameNumbers
      (.numbers .series (.float64 (.ofList [.ofInt 4, .ofInt 2]))) :=
    ⟨_, by decide, (Value.HoldsNumbers.floats [.ofInt 4, .ofInt 2]).1, .float64 .series _⟩
  have hinputs : (Value.list [.list [.float .one, .float .zero], .tuple [.float .nan, .float .one]]).HoldSameNumbers
      (.numbers .frame (.float64 ⟨[2, 2], [.one, .zero, .nan, .one], rfl⟩)) := by
    obtain ⟨g, hshape, hdata, hlist, -⟩ := @Value.HoldsNumbers.rows 2
      [(.list [.float .one, .float .zero], [.one, .zero]), (.tuple [.float .nan, .float .one], [.nan, .one])]
      (List.cons_ne_nil _ _) (by simp) (by simp)
    obtain rfl : g = ⟨[2, 2], [.one, .zero, .nan, .one], rfl⟩ := Grid.ext hshape hdata
    exact ⟨_, by decide, hlist, .float64 .frame _⟩
  have hkept : (resolve [("periods", .list [.float (.ofInt 4), .float (.ofInt 2)]), ("h", .int 3),
      ("u", .list [.list [.float .one, .float .zero], .tuple [.float .nan, .float .one]])]).result.toOption.map
        Settings.periods = some (some [.ofInt 4, .ofInt 2]) := by decide +kernel
  refine (resolve_numberForms ?_).resolve_right ?_
  · refine .cons ⟨rfl, Or.inr ⟨⟨.periods, by decide, rfl⟩, hperiods⟩⟩ (.cons ⟨rfl, Or.inl rfl⟩ (.cons ?_ .nil))
    exact ⟨rfl, Or.inr ⟨⟨.inputs, by decide, rfl⟩, hinputs⟩⟩
  · rintro ⟨s, -, hrefused, -⟩
    rw [hrefused] at hkept
    cases hkept

end Settings

end StructuralSeries
