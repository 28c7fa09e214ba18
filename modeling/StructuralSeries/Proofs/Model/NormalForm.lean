import StructuralSeries.Proofs.Model.Components

/-!
# The normal form of a model

Compiling brings the components of a model into a normal form that is said on its own, token by token
(`Components.IsCanonical`). Components of that form are left as they are, so compiling twice is compiling once.

## Two steps

1. **Reaching the form**: `isCanonical_of_ofComponents`. The rewrites of the four tokens are independent of each
   other, but whether a model is empty is asked before two of them, so it is shown that those two neither open nor
   switch off a component.
2. **Keeping it**: `ofComponents_of_isCanonical`. What is left of compiling is to fill in a horizon and to drop the
   fixed parameters of an open model, and neither changes anything the second time.
-/

namespace StructuralSeries

namespace Components

/-! ## Empty models -/

/-- Everything is switched off and nothing is open; in annual data the seasonal component counts as switched off. -/
def IsVoid (c : Components) (first : Double) : Prop :=
  c.isOpen = false ∧ c.trend = Token.off ∧ c.cycle = Token.off ∧ c.irregular = Token.off ∧
    (c.seasonal = Token.off ∨ isAnnual first = true)

instance (c : Components) (first : Double) : Decidable (c.IsVoid first) :=
  inferInstanceAs (Decidable (_ ∧ _ ∧ _ ∧ _ ∧ (_ ∨ _)))

theorem isEmpty_ofList (c : Components) (first : Double) (rest : List Double) :
    c.isEmpty (.ofList (first :: rest)) = .ok (decide (c.IsVoid first)) := by
  unfold isEmpty
  by_cases ho : c.isOpen = true
  · have hv : ¬ c.IsVoid first := fun h => by simp [h.1] at ho
    rw [if_pos ho, decide_eq_false hv]
    rfl
  · rw [if_neg ho]
    by_cases hs : c.seasonal = Token.off
    · simp [IsVoid, ho, hs, bind, Except.bind, pure, Except.pure, Bool.and_assoc]
    · simp [IsVoid, ho, hs, bind, Except.bind, pure, Except.pure, Except.map, Bool.and_assoc]

/-! ## The form -/

/-- The normal form of a model for periods with a first one. -/
structure IsCanonical (c : Components) (first : Double) : Prop where
  settled : ∀ t ∈ c.tokens, t.IsSettled
  signed : c.cycle.IsSigned
  closed : c.irregular.IsClosed
  annual : isAnnual first = true → c.seasonal = Token.off
  occupied : ¬ c.IsVoid first

/-- The components of a model whose cycle has been made explicit. -/
def completed (c : Components) (cycle : Token) : Components :=
  { c with cycle := cycle, irregular := c.irregular.withOrder }

theorem isOpen_eq (c : Components) :
    c.isOpen = (c.trend.isOpen || c.cycle.isOpen || c.seasonal.isOpen || c.irregular.isOpen) := by
  simp [isOpen, tokens, Bool.or_assoc]

section Completed

variable {c : Components} {u : Token} {first : Double} {rest : List Double}

theorem isOpen_completed (h : c.cycle.explicitCycle (.ofList (first :: rest)) = .ok u) :
    (c.completed u).isOpen = c.isOpen := by
  rw [isOpen_eq, isOpen_eq]
  show (c.trend.isOpen || u.isOpen || c.seasonal.isOpen || c.irregular.withOrder.isOpen) = _
  rw [Token.isOpen_explicitCycle h, Token.isOpen_withOrder]

theorem isVoid_completed (h : c.cycle.explicitCycle (.ofList (first :: rest)) = .ok u) :
    (c.completed u).IsVoid first ↔ c.IsVoid first := by
  unfold IsVoid
  rw [isOpen_completed h]
  show _ ∧ c.trend = _ ∧ u = _ ∧ c.irregular.withOrder = _ ∧ (c.seasonal = _ ∨ _) ↔ _
  rw [Token.explicitCycle_eq_off_iff h, Token.withOrder_eq_off_iff]

end Completed

/-! ## Lower-casing and annual data -/

theorem mem_tokens_plain {c : Components} {first : Double} {t : Token} (h : t ∈ (c.plain first).tokens) :
    ∃ s, (s = Token.off ∨ s ∈ c.tokens) ∧ t = Text.lower s := by
  unfold plain at h
  rw [tokens_map] at h
  obtain ⟨s, hs, rfl⟩ := List.mem_map.1 h
  refine ⟨s, ?_, rfl⟩
  split at hs
  · simp only [tokens, List.mem_cons, List.not_mem_nil, or_false] at hs ⊢
    rcases hs with hs | hs | hs | hs
    · exact Or.inr (Or.inl hs)
    · exact Or.inr (Or.inr (Or.inl hs))
    · exact Or.inl hs
    · exact Or.inr (Or.inr (Or.inr (Or.inr hs)))
  · exact Or.inr hs

theorem isSettled_plain {c : Components} (h : ∀ t ∈ c.tokens, t.IsReadable) (first : Double) :
    ∀ t ∈ (c.plain first).tokens, t.IsSettled := by
  intro t ht
  obtain ⟨s, hs, rfl⟩ := mem_tokens_plain ht
  rcases hs with rfl | hs
  · exact Token.isReadable_off.isSettled_lower
  · exact (h s hs).isSettled_lower

theorem seasonal_plain {c : Components} {first : Double} (h : isAnnual first = true) :
    (c.plain first).seasonal = Token.off := by
  unfold plain
  rw [if_pos h]
  show Text.lower Token.off = Token.off
  decide

/-- Canonical components are plain already. -/
theorem IsCanonical.plain_eq {c : Components} {first : Double} (h : c.IsCanonical first) : c.plain first = c := by
  have hmap : c.map Text.lower = c := by
    have hl : ∀ t ∈ c.tokens, Text.lower t = t := fun t ht => (h.settled t ht).lower
    simp only [tokens, List.forall_mem_cons] at hl
    obtain ⟨ht, hc, hs, hi, -⟩ := hl
    rw [map, ht, hc, hs, hi]
  unfold plain
  split
  · next ha =>
    rw [show { c with seasonal := Token.off } = c by rw [← h.annual ha]]
    exact hmap
  · exact hmap

end Components

/-! ## Compiling -/

namespace Compiled

variable {η π : Type} [IntCast η] {c : Components} {first : Double} {rest : List Double} {horizon : Option η}
  {p0 p : Option π} {m : Compiled η π}

/-- What compiling leaves of horizon and parameters, once the components are there. -/
def around (c : Components) (count : Nat) (horizon : Option η) (p0 p : Option π) : Compiled η π where
  components := c
  horizon := horizon.getD (IntCast.intCast defaultHorizon)
  p0 := if c.isOpen then none else p0
  p := if c.isOpen then none else p
  rhos := List.replicate count .one

/-- **Exactly what compiling does**, for periods along one axis. -/
theorem ofComponents_ofList (c : Components) (first : Double) (rest : List Double) (horizon : Option η)
    (p0 p : Option π) :
    ofComponents c (.ofList (first :: rest)) horizon p0 p =
      if (c.plain first).IsVoid first then .error (.refused .emptyModel)
      else ((c.plain first).cycle.explicitCycle (.ofList (first :: rest))).map fun u =>
        around ((c.plain first).completed u) (rest.length + 1) horizon p0 p := by
  have hbind : ofComponents c (.ofList (first :: rest)) horizon p0 p =
      (if decide ((c.plain first).IsVoid first) then throw (.refused .emptyModel) else
        (c.plain first).cycle.explicitCycle (.ofList (first :: rest)) >>= fun u => pure
          { components := (c.plain first).completed u
            horizon := horizon.getD (IntCast.intCast defaultHorizon)
            p0 := if (c.plain first).isOpen then none else p0
            p := if (c.plain first).isOpen then none else p
            rhos := List.replicate (rest.length + 1) .one }) := by
    unfold ofComponents
    simp only [Periods.first_ofList_cons]
    show ((c.plain first).isEmpty _ >>= _) = _
    rw [Components.isEmpty_ofList]
    rfl
  rw [hbind]
  by_cases hv : (c.plain first).IsVoid first
  · rw [if_pos (decide_eq_true hv), if_pos hv]
    rfl
  · rw [if_neg (by simpa using hv), if_neg hv]
    cases hu : (c.plain first).cycle.explicitCycle (.ofList (first :: rest)) with
    | error e => rfl
    | ok u =>
      show Except.ok _ = Except.ok (around _ _ _ _ _)
      rw [around, Components.isOpen_completed hu]

theorem ofComponents_eq_ok_iff :
    ofComponents c (.ofList (first :: rest)) horizon p0 p = .ok m ↔
      ¬ (c.plain first).IsVoid first ∧
        ∃ u, (c.plain first).cycle.explicitCycle (.ofList (first :: rest)) = .ok u ∧
          around ((c.plain first).completed u) (rest.length + 1) horizon p0 p = m := by
  rw [ofComponents_ofList]
  split
  · next hv => exact iff_of_false (by simp) fun h => h.1 hv
  · next hv =>
    rw [map_eq_ok]
    exact (and_iff_right hv).symm

/-- The tokens of a compiled model are settled, whatever the sign of the first period. -/
theorem isSettled_of_ofComponents (hc : ∀ t ∈ c.tokens, t.IsReadable)
    (hm : ofComponents c (.ofList (first :: rest)) horizon p0 p = .ok m) :
    ∀ t ∈ m.components.tokens, t.IsSettled := by
  obtain ⟨-, u, hu, rfl⟩ := ofComponents_eq_ok_iff.1 hm
  have hplain := Components.isSettled_plain hc first
  simp only [Components.tokens, List.forall_mem_cons] at hplain
  obtain ⟨ht, hcy, hs, hi, -⟩ := hplain
  intro t hm
  simp only [around, Components.completed, Components.tokens, List.mem_cons, List.not_mem_nil, or_false] at hm
  rcases hm with rfl | rfl | rfl | rfl
  · exact ht
  · exact hcy.explicitCycle hu
  · exact hs
  · exact hi.withOrder

/-- Compiling reaches the normal form. -/
theorem isCanonical_of_ofComponents (hpos : Double.zero.lt first = true) (hc : ∀ t ∈ c.tokens, t.IsReadable)
    (hm : ofComponents c (.ofList (first :: rest)) horizon p0 p = .ok m) :
    m.components.IsCanonical first := by
  have hsettled := isSettled_of_ofComponents hc hm
  obtain ⟨hv, u, hu, rfl⟩ := ofComponents_eq_ok_iff.1 hm
  exact
    { settled := hsettled
      signed := Token.isSigned_of_explicitCycle hpos hu
      closed := Token.isClosed_withOrder _
      annual := fun ha => Components.seasonal_plain ha
      occupied := fun h => hv ((Components.isVoid_completed hu).1 h) }

/-- Canonical components are left as they are. -/
theorem ofComponents_of_isCanonical (hc : c.IsCanonical first) (rest : List Double) (horizon : Option η)
    (p0 p : Option π) :
    ofComponents c (.ofList (first :: rest)) horizon p0 p = .ok (around c (rest.length + 1) horizon p0 p) := by
  refine ofComponents_eq_ok_iff.2 ?_
  rw [hc.plain_eq]
  refine ⟨hc.occupied, c.cycle, hc.signed.explicitCycle_eq _, ?_⟩
  rw [Components.completed, hc.closed.withOrder_eq]

/-- The parameters of an open model are dropped once and for all, and a horizon is filled in once. -/
theorem around_around (c : Components) (count : Nat) (horizon : Option η) (p0 p : Option π) :
    let m := around c count horizon p0 p
    around c count (some m.horizon) m.p0 m.p = m := by
  unfold around
  cases c.isOpen <;> rfl

/-! ## Models by their strings -/

theorem ofValue_eq_ok_iff {v : Value} {periods : Grid Double} :
    ofValue v periods horizon p0 p = .ok m ↔
      ∃ parsed, Components.ofValue v = .ok parsed ∧
        ofComponents parsed.components periods horizon p0 p = .ok m := bind_eq_ok

/-- The model string of a compiled model names its components. -/
theorem parse_model {v : Value} (hm : ofValue v (.ofList (first :: rest)) horizon p0 p = .ok m) :
    Components.parse m.model = .ok ⟨m.components, false⟩ := by
  obtain ⟨parsed, hparsed, hm⟩ := ofValue_eq_ok_iff.1 hm
  have hsettled := isSettled_of_ofComponents (Components.isReadable_of_ofValue hparsed) hm
  exact Components.parse_text fun t ht => (hsettled t ht).toIsReadable

/-- A model that is not compiled is refused. -/
theorem ofValue_ne_error {v : Value} {e : Fault} (he : ∀ why, e ≠ .refused why) :
    ofValue v (.ofList (first :: rest)) horizon p0 p ≠ .error e := by
  intro h
  rcases bind_eq_error.1 h with h | ⟨parsed, hparsed, h⟩
  · unfold Components.ofValue Components.parse at h
    split at h
    · split at h
      · cases h
      · exact refused_ne_error he h
    · exact refused_ne_error he h
  · rw [ofComponents_ofList] at h
    split at h
    · exact refused_ne_error he h
    · have hreadable := Components.isReadable_of_ofValue hparsed
      -- a cycle that was read is not empty, so its sign can be looked at
      have hcycle := Components.isSettled_plain hreadable first (parsed.components.plain first).cycle (by
        simp [Components.tokens])
      obtain ⟨u, hu⟩ := Token.exists_explicitCycle hcycle.ne_nil first rest
      rw [hu] at h
      cases h

/-- What compiling leaves of horizon and parameters depends on the components that it gives. -/
theorem eq_around {v : Value} (h : ofValue v (.ofList (first :: rest)) horizon p0 p = .ok m) :
    m = around m.components (rest.length + 1) horizon p0 p := by
  obtain ⟨parsed, -, h⟩ := ofValue_eq_ok_iff.1 h
  obtain ⟨-, u, -, rfl⟩ := ofComponents_eq_ok_iff.1 h
  rfl

/-- A model keeps the horizon that is given. -/
theorem horizon_of_ofValue {v : Value} (hm : ofValue v (.ofList (first :: rest)) horizon p0 p = .ok m) :
    m.horizon = horizon.getD (IntCast.intCast defaultHorizon) := by
  obtain ⟨parsed, -, hm⟩ := ofValue_eq_ok_iff.1 hm
  obtain ⟨-, u, -, rfl⟩ := ofComponents_eq_ok_iff.1 hm
  rfl

theorem isCanonical_of_ofValue (hpos : Double.zero.lt first = true) {v : Value}
    (hm : ofValue v (.ofList (first :: rest)) horizon p0 p = .ok m) : m.components.IsCanonical first := by
  obtain ⟨parsed, hparsed, hm⟩ := ofValue_eq_ok_iff.1 hm
  exact isCanonical_of_ofComponents hpos (Components.isReadable_of_ofValue hparsed) hm

/-- The string of a compiled model gives its components again, whatever horizon and parameters come with it. -/
theorem ofValue_of_model (hpos : Double.zero.lt first = true) {v : Value}
    (hm : ofValue v (.ofList (first :: rest)) horizon p0 p = .ok m) (horizon' : Option η) (p0' p' : Option π) :
    ofValue (.text m.model) (.ofList (first :: rest)) horizon' p0' p' =
      .ok (around m.components (rest.length + 1) horizon' p0' p') :=
  ofValue_eq_ok_iff.2 ⟨⟨m.components, false⟩, parse_model hm,
    ofComponents_of_isCanonical (isCanonical_of_ofValue hpos hm) rest horizon' p0' p'⟩

/-- **A compiled model compiles to itself.** The string of a compiled model, with the horizon and the parameters
that it has, gives the very same model again. -/
theorem ofValue_model {model : String} (hpos : Double.zero.lt first = true)
    (hm : ofValue (.text model) (.ofList (first :: rest)) horizon p0 p = .ok m) :
    ofValue (.text m.model) (.ofList (first :: rest)) (some m.horizon) m.p0 m.p = .ok m := by
  have hparse : Components.ofValue (.text m.model) = .ok ⟨m.components, false⟩ := parse_model hm
  refine ofValue_eq_ok_iff.2 ⟨_, hparse, ?_⟩
  rw [ofComponents_of_isCanonical (isCanonical_of_ofValue hpos hm)]
  obtain ⟨parsed, -, hm⟩ := ofValue_eq_ok_iff.1 hm
  obtain ⟨-, u, -, rfl⟩ := ofComponents_eq_ok_iff.1 hm
  exact congrArg Except.ok (around_around _ _ _ _ _)

/-- A model with a search, an order and a default horizon, for monthly data: the hint is kept as it is. -/
theorem ofValue_model_search :
    ∃ m : Compiled Int (List Double),
      ofValue (.text "LLT/?/Equal/arma") (.ofList [.ofInt 12, .ofInt 6]) none (some [.one]) none = .ok m ∧
        m.components = ⟨['l', 'l', 't'], ['-', '4', '8', '?'], ['e', 'q', 'u', 'a', 'l'],
          ['a', 'r', 'm', 'a', '(', '0', ',', '0', ')']⟩ ∧
        m.horizon = 18 ∧ m.p0 = none ∧
        ofValue (.text m.model) (.ofList [.ofInt 12, .ofInt 6]) (some m.horizon) m.p0 m.p = .ok m := by
  have h : (ofValue (.text "LLT/?/Equal/arma") (.ofList [.ofInt 12, .ofInt 6]) (none : Option Int)
      (some [Double.one]) none).toOption.map (fun m => (m.components, m.horizon, m.p0)) =
      some (⟨['l', 'l', 't'], ['-', '4', '8', '?'], ['e', 'q', 'u', 'a', 'l'],
        ['a', 'r', 'm', 'a', '(', '0', ',', '0', ')']⟩, 18, none) := by decide +kernel
  obtain ⟨m, hm, he⟩ := exists_of_toOption_map h
  simp only [Prod.mk.injEq] at he
  exact ⟨m, hm, he.1, he.2.1, he.2.2, ofValue_model (by decide +kernel) hm⟩

end Compiled

end StructuralSeries
