import StructuralSeries.Proofs.Model.Layout
import StructuralSeries.Proofs.Model.NormalForm

/-!
# Switched off and left open

Two questions are asked of a model while it is compiled, in the middle of the rewrites of its tokens: whether everything
in it is switched off, so that it is refused as empty, and whether something in it is left open, so that its parameters
are dropped. This module answers both by the tokens as they were read.

* A model is empty exactly if all its components that count say `none`, in letters of either case
  (`Compiled.ofValue_empty_iff`). There is no other reason to refuse components that have been read.
* A compiled model is open exactly if some component that counts was read with a wildcard, and the parameters are dropped
  exactly then (`Compiled.parameters_of_wildcard`).

The seasonal component does not count in annual data. It is overwritten before either question is asked, and the first
answer looks at the first period once more.
-/

namespace StructuralSeries

/-! ## Annual data -/

/-- A positive number is the same as itself only. -/
theorem Double.same_positive_iff {x : Double} {m : Magnitude} (hm : m.rank ≠ 0) :
    x.same (.signed false m) = true ↔ x = .signed false m := by
  match x with
  | .nan => simp [same, place]
  | .signed true n =>
    simp only [same, place, beq_iff_eq, signed.injEq, Bool.true_eq_false, false_and, iff_false]
    omega
  | .signed false ⟨r, hr⟩ =>
    obtain ⟨k, hk⟩ := m
    simp only [same, place, beq_iff_eq, signed.injEq, Magnitude.mk.injEq, true_and]
    omega

/-- Data are annual exactly if their first period is one. -/
theorem isAnnual_iff {first : Double} : isAnnual first = true ↔ first = .one :=
  Double.same_positive_iff (m := .ofRatio 1 1) (by decide +kernel)

namespace Token

/-- Lower-casing neither makes nor removes a wildcard. -/
theorem wildcard_mem_lower_iff {t : Token} : wildcard ∈ Text.lower t ↔ wildcard ∈ t :=
  Text.mem_lower_iff (by decide) (by decide)

theorem isOpen_iff {t : Token} : t.isOpen = true ↔ wildcard ∈ t := List.contains_iff_mem

end Token

namespace Components

/-! ## Components as they were read -/

/-- Every component that counts says `none`, in letters of either case. -/
structure IsOff (c : Components) (first : Double) : Prop where
  trend : Text.lower c.trend = Token.off
  cycle : Text.lower c.cycle = Token.off
  irregular : Text.lower c.irregular = Token.off
  seasonal : first = .one ∨ Text.lower c.seasonal = Token.off

/-- Some component that counts has a wildcard. -/
def HasWildcard (c : Components) (first : Double) : Prop :=
  Token.wildcard ∈ c.trend ∨ Token.wildcard ∈ c.cycle ∨ Token.wildcard ∈ c.irregular ∨
    first ≠ .one ∧ Token.wildcard ∈ c.seasonal

theorem plain_of_annual (c : Components) :
    c.plain .one = ⟨Text.lower c.trend, Text.lower c.cycle, Token.off, Text.lower c.irregular⟩ := by
  rw [plain, if_pos (isAnnual_iff.2 rfl), map, show Text.lower Token.off = Token.off by decide]

theorem plain_of_not_annual {first : Double} (h : first ≠ .one) (c : Components) : c.plain first = c.map Text.lower := by
  rw [plain, if_neg fun ha => h (isAnnual_iff.1 ha)]

/-- Components that are switched off are not open. -/
theorem isOpen_eq_false_of_off {c : Components} (h : ∀ t ∈ c.tokens, t = Token.off) : c.isOpen = false := by
  rw [isOpen, List.any_eq_false]
  intro t ht
  rw [h t ht]
  decide

/-- **What it takes for a model to be empty**, said of the tokens before they are plain. -/
theorem isVoid_plain_iff {c : Components} {first : Double} : (c.plain first).IsVoid first ↔ c.IsOff first := by
  by_cases hone : first = .one
  · subst hone
    rw [plain_of_annual]
    constructor
    · rintro ⟨-, ht, hc, hi, -⟩
      exact ⟨ht, hc, hi, Or.inl rfl⟩
    · rintro ⟨ht, hc, hi, -⟩
      exact ⟨isOpen_eq_false_of_off (by simp [tokens, ht, hc, hi]), ht, hc, hi, Or.inl rfl⟩
  · rw [plain_of_not_annual hone]
    constructor
    · rintro ⟨-, ht, hc, hi, hs⟩
      exact ⟨ht, hc, hi, Or.inr (hs.resolve_right fun ha => hone (isAnnual_iff.1 ha))⟩
    · rintro ⟨ht, hc, hi, hs⟩
      have hs := hs.resolve_left hone
      exact ⟨isOpen_eq_false_of_off (by simp [tokens, map, ht, hc, hi, hs]), ht, hc, hi, Or.inl hs⟩

/-- **What it takes for a model to be open**, said of the tokens before they are plain. -/
theorem isOpen_plain_iff {c : Components} {first : Double} : (c.plain first).isOpen = true ↔ c.HasWildcard first := by
  unfold HasWildcard
  by_cases hone : first = .one
  · subst hone
    have hoff : Token.wildcard ∉ Token.off := by decide
    rw [plain_of_annual, isOpen_eq]
    simp [Token.isOpen_iff, Token.wildcard_mem_lower_iff, hoff, or_assoc]
  · rw [plain_of_not_annual hone, isOpen_eq]
    simp [map, Token.isOpen_iff, Token.wildcard_mem_lower_iff, hone, or_assoc, or_comm]

/-- A cycle that has been read has a first character. -/
theorem exists_head?_cycle {model : String} {parsed : Parsed} (h : parse model = .ok parsed) (first : Double) :
    ∃ c, (parsed.components.plain first).cycle.head? = some c := by
  have hreadable := isReadable_of_ofValue (v := .text model) h
  have hsettled := isSettled_plain hreadable first (parsed.components.plain first).cycle (by simp [tokens])
  obtain ⟨c, cs, hcycle⟩ := List.exists_cons_of_ne_nil hsettled.ne_nil
  exact ⟨c, by rw [hcycle]; rfl⟩

/-- A shorthand gives the cycle `none`. -/
theorem cycle_of_shorthand {model : String} {parsed : Parsed} (h : parse model = .ok parsed)
    (hshorthand : parsed.shorthand = true) : parsed.components.cycle = Token.off := by
  have h := parse_eq_ok_iff.1 h
  unfold read? ofPieces? at h
  split at h
  · split at h
    · cases h
      rfl
    · cases h
      cases hshorthand
    · cases h
  · cases h

end Components

namespace Compiled

variable {η π : Type} [IntCast η] {first : Double} {rest : List Double} {horizon : Option η} {p0 p : Option π}

/-! ## Empty models -/

/-- **A model is refused for its layout or because it is empty**, and for nothing else. -/
theorem ofValue_eq_error_iff {model : String} {e : Fault} :
    ofValue (.text model) (.ofList (first :: rest)) horizon p0 p = .error e ↔
      (¬ Components.HasLayout model.toList ∧ Fault.refused (.modelLayout model) = e) ∨
        ∃ parsed, Components.parse model = .ok parsed ∧ (parsed.components.plain first).IsVoid first ∧
          Fault.refused .emptyModel = e := by
  rw [← Components.parse_eq_error_iff]
  refine bind_eq_error.trans (or_congr_right (exists_congr fun parsed => and_congr_right fun hparsed => ?_))
  obtain ⟨c, hc⟩ := Components.exists_head?_cycle hparsed first
  have hne : (parsed.components.plain first).cycle ≠ [] := fun hnil => by
    rw [hnil] at hc
    cases hc
  obtain ⟨u, hu⟩ := Token.exists_explicitCycle hne first rest
  rw [ofComponents_ofList, hu]
  split
  · next hv => simp [hv]
  · next hv => simp [hv, Except.map]

/-- **Which models are empty.** Components that have been read are refused exactly if trend, cycle and irregular say
`none` in letters of either case and so does the seasonal component, unless the data are annual. The refusal is that of
an empty model, and components that are not refused are compiled. The cycle of a shorthand says `none`. -/
theorem ofValue_empty_iff {model : String} {parsed : Components.Parsed} (hparsed : Components.parse model = .ok parsed)
    (first : Double) (rest : List Double) (horizon : Option η) (p0 p : Option π) :
    (∀ e, ofValue (.text model) (.ofList (first :: rest)) horizon p0 p = .error e ↔
      parsed.components.IsOff first ∧ Fault.refused .emptyModel = e) ∧
    ((∃ m, ofValue (.text model) (.ofList (first :: rest)) horizon p0 p = .ok m) ↔ ¬ parsed.components.IsOff first) ∧
    (parsed.shorthand = true → parsed.components.cycle = Token.off) := by
  have hfails : ∀ e, ofValue (.text model) (.ofList (first :: rest)) horizon p0 p = .error e ↔
      parsed.components.IsOff first ∧ Fault.refused .emptyModel = e := by
    intro e
    have hlayout := Components.exists_parse_iff.1 ⟨parsed, hparsed⟩
    rw [ofValue_eq_error_iff, hparsed, or_iff_right fun h => h.1 hlayout]
    simp [Components.isVoid_plain_iff]
  refine ⟨hfails, ?_, Components.cycle_of_shorthand hparsed⟩
  rw [exists_ok_iff]
  simp [hfails]

/-- A shorthand that says nothing, for annual and for quarterly data: the seasonal component counts in the latter. -/
theorem ofValue_empty_iff_annual :
    ∃ parsed, Components.parse "None/EQUAL/none" = .ok parsed ∧ parsed.shorthand = true ∧
      ofValue (.text "None/EQUAL/none") (.ofList [.one]) (none : Option Int) (some [Double.one]) none =
        .error (.refused .emptyModel) ∧
      ∃ m, ofValue (.text "None/EQUAL/none") (.ofList [.ofInt 4, .ofInt 2]) (none : Option Int) (some [Double.one])
        none = .ok m := by
  obtain ⟨parsed, hparsed⟩ : ∃ parsed, Components.parse "None/EQUAL/none" = .ok parsed := ⟨_, rfl⟩
  have hcomponents : parsed.components = ⟨['N', 'o', 'n', 'e'], Token.off, ['E', 'Q', 'U', 'A', 'L'], Token.off⟩ := by
    cases hparsed
    decide +kernel
  have hoff : parsed.components.IsOff .one := by
    rw [hcomponents]
    exact ⟨by decide, by decide, by decide, Or.inl rfl⟩
  have hseasonal : ¬ parsed.components.IsOff (.ofInt 4) := by
    rw [hcomponents]
    rintro ⟨-, -, -, h | h⟩
    · revert h
      decide +kernel
    · revert h
      decide
  refine ⟨parsed, hparsed, ?_, ?_, ?_⟩
  · cases hparsed
    decide +kernel
  · exact ((ofValue_empty_iff hparsed _ _ _ _ _).1 _).2 ⟨hoff, rfl⟩
  · exact (ofValue_empty_iff hparsed _ _ _ _ _).2.1.2 hseasonal

/-! ## Open models -/

/-- A compiled model is open exactly if its components were, once they are plain. -/
theorem isOpen_of_ofComponents {c : Components} {m : Compiled η π}
    (hm : ofComponents c (.ofList (first :: rest)) horizon p0 p = .ok m) :
    m.components.isOpen = (c.plain first).isOpen := by
  obtain ⟨-, u, hu, rfl⟩ := ofComponents_eq_ok_iff.1 hm
  exact Components.isOpen_completed hu

omit [IntCast η] in
theorem wildcard_mem_model_iff {m : Compiled η π} : Token.wildcard ∈ m.model.toList ↔ m.components.isOpen = true := by
  rw [model, Components.text, String.toList_ofList]
  exact Components.wildcard_mem_chars_iff

/-- **Wildcards and fixed parameters.** A compiled model whose string has a wildcard has no parameters, and any other has
those that are given. Its string has a wildcard exactly if one was read in some component, where the seasonal one does
not count in annual data. -/
theorem parameters_of_wildcard {model : String} {m : Compiled η π}
    (hm : ofValue (.text model) (.ofList (first :: rest)) horizon p0 p = .ok m) :
    (Token.wildcard ∈ m.model.toList → m.p0 = none ∧ m.p = none) ∧
    (Token.wildcard ∉ m.model.toList → m.p0 = p0 ∧ m.p = p) ∧
    ∃ parsed, Components.parse model = .ok parsed ∧
      (Token.wildcard ∈ m.model.toList ↔ parsed.components.HasWildcard first) := by
  have hkept := eq_around hm
  obtain ⟨parsed, hparsed, hc⟩ := ofValue_eq_ok_iff.1 hm
  simp only [wildcard_mem_model_iff]
  refine ⟨fun ho => ?_, fun ho => ?_, parsed, hparsed, ?_⟩
  · rw [hkept]
    exact ⟨if_pos ho, if_pos ho⟩
  · rw [hkept]
    exact ⟨if_neg ho, if_neg ho⟩
  · rw [isOpen_of_ofComponents hc, Components.isOpen_plain_iff]

/-- A seasonal wildcard leaves an annual model closed, so its parameters are kept; a quarterly model loses them. -/
theorem parameters_of_wildcard_annual :
    (∃ m : Compiled Int (List Double),
      ofValue (.text "LLT/12/?/Arma") (.ofList [.one]) none (some [.one]) none = .ok m ∧
        m.model = "llt/+12/none/arma(0,0)" ∧ m.p0 = some [.one] ∧ m.p = none) ∧
    ∃ m : Compiled Int (List Double),
      ofValue (.text "LLT/12/?/Arma") (.ofList [.ofInt 4, .ofInt 2]) none (some [.one]) none = .ok m ∧
        m.model = "llt/+12/?/arma(0,0)" ∧ m.p0 = none ∧ m.p = none := by
  constructor
  · have h : (ofValue (.text "LLT/12/?/Arma") (.ofList [.one]) (none : Option Int) (some [Double.one])
        none).toOption.map (·.model) = some "llt/+12/none/arma(0,0)" := by decide +kernel
    obtain ⟨m, hm, hmodel⟩ := exists_of_toOption_map h
    have hclosed : Token.wildcard ∉ m.model.toList := by
      rw [hmodel]
      decide +kernel
    exact ⟨m, hm, hmodel, (parameters_of_wildcard hm).2.1 hclosed⟩
  · have h : (ofValue (.text "LLT/12/?/Arma") (.ofList [.ofInt 4, .ofInt 2]) (none : Option Int)
        (some [Double.one]) none).toOption.map (·.model) = some "llt/+12/?/arma(0,0)" := by decide +kernel
    obtain ⟨m, hm, hmodel⟩ := exists_of_toOption_map h
    have hopen : Token.wildcard ∈ m.model.toList := by
      rw [hmodel]
      decide +kernel
    exact ⟨m, hm, hmodel, (parameters_of_wildcard hm).1 hopen⟩

end Compiled

end StructuralSeries
