import StructuralSeries.Proofs.Model.NormalForm
import StructuralSeries.Proofs.Request.Stages

/-!
# The model of a request

The model string of a request is the string of its compiled components, so reading it never fails and gives these
components back. The periods that a set-up derives always lie along one axis and have a first one, which is all
that this takes; the sign of that period matters for the search of a cycle alone.
-/

namespace StructuralSeries

namespace Request

/-- A request reads its own model string. -/
theorem components_of_setup [Text.Reader] {y frequency : Value} {options : List (String × Value)} {r : Request}
    (h : (setup y frequency options).result = .ok r) :
    ∃ st : Stages, st.Of y frequency options ∧ r.model = st.compiled.model ∧
      r.components = .ok st.compiled.components := by
  obtain ⟨st, hst, rfl⟩ := setup_eq_ok_iff.1 h
  obtain ⟨first, rest, hp⟩ := hst.exists_periods
  have hm := hst.compiled
  rw [hp] at hm
  refine ⟨st, hst, rfl, ?_⟩
  show (Components.parse st.compiled.model).map (·.components) = _
  rw [Compiled.parse_model hm]
  rfl

/-- **Compiled models are canonical, and every request reads the components that it was compiled from.** For
periods whose first one is positive, a compiled model has four settled tokens, signed cycles, a closed order and
no seasonal component in annual data, and something is left in it to estimate or to identify. Its string is these
four tokens with slashes between them, and it names them. -/
theorem model_canonical [Text.Reader] {η π : Type} [IntCast η] :
    (∀ (model : String) (first : Double) (rest : List Double) (horizon : Option η) (p0 p : Option π)
      (m : Compiled η π), Double.zero.lt first = true →
      Compiled.ofValue (.text model) (.ofList (first :: rest)) horizon p0 p = .ok m →
        m.components.IsCanonical first ∧
          m.components.isEmpty (.ofList (first :: rest)) = .ok false ∧
          m.model.toList.splitOn Token.separator = m.components.tokens ∧
          Components.parse m.model = .ok ⟨m.components, false⟩) ∧
      ∀ (y frequency : Value) (options : List (String × Value)) (r : Request),
        (setup y frequency options).result = .ok r →
          ∃ st : Stages, st.Of y frequency options ∧ r.model = st.compiled.model ∧
            r.components = .ok st.compiled.components := by
  refine ⟨?_, fun _ _ _ _ h => components_of_setup h⟩
  intro model first rest horizon p0 p m hpos hm
  have hc := Compiled.isCanonical_of_ofValue hpos hm
  refine ⟨hc, ?_, ?_, Compiled.parse_model hm⟩
  · rw [Components.isEmpty_ofList, decide_eq_false hc.occupied]
  · rw [Compiled.model, Components.text, String.toList_ofList]
    exact Components.splitOn_chars fun t ht => (hc.settled t ht).no_separator

/-- The model of a quarterly series with a search for a cycle, in mixed case, with blanks and an open order. -/
theorem model_canonical_search :
    (∃ m : Compiled Int (List Double),
      Compiled.ofValue (.text " LLT/?/equal /arma(1,2") (.ofList [.ofInt 4, .ofInt 2]) none none none = .ok m ∧
        m.components = ⟨['l', 'l', 't'], ['-', '1', '6', '?'], ['e', 'q', 'u', 'a', 'l'],
          ['a', 'r', 'm', 'a', '(', '1', ',', '2', ')']⟩ ∧
        m.components.IsCanonical (.ofInt 4) ∧ Components.parse m.model = .ok ⟨m.components, false⟩) ∧
      ∃ r, (setup (.list [.int 1, .int 3, .int 2]) (.int 4) [("model", .text " LLT/?/equal /arma(1,2")]).result =
          .ok r ∧
        r.model = "llt/-16?/equal/arma(1,2)" ∧ ∃ c, r.components = .ok c := by
  have hlaw := model_canonical (η := Int) (π := List Double)
  constructor
  · have h : (Compiled.ofValue (.text " LLT/?/equal /arma(1,2") (.ofList [.ofInt 4, .ofInt 2]) (none : Option Int)
        (none : Option (List Double)) none).toOption.map (·.components) =
        some ⟨['l', 'l', 't'], ['-', '1', '6', '?'], ['e', 'q', 'u', 'a', 'l'],
          ['a', 'r', 'm', 'a', '(', '1', ',', '2', ')']⟩ := by decide +kernel
    obtain ⟨m, hm, hc⟩ := exists_of_toOption_map h
    obtain ⟨hcanonical, -, -, hparse⟩ := hlaw.1 _ _ _ _ _ _ _ (by decide +kernel) hm
    exact ⟨m, hm, hc, hcanonical, hparse⟩
  · have h : (setup (.list [.int 1, .int 3, .int 2]) (.int 4)
        [("model", .text " LLT/?/equal /arma(1,2")]).result.toOption.map (·.model) =
        some "llt/-16?/equal/arma(1,2)" := by decide +kernel
    obtain ⟨r, hr, hmodel⟩ := exists_of_toOption_map h
    obtain ⟨st, -, -, hc⟩ := hlaw.2 _ _ _ _ hr
    exact ⟨r, hr, hmodel, _, hc⟩

end Request

end StructuralSeries
