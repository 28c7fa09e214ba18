import StructuralSeries.Proofs.Model.Components
import StructuralSeries.Proofs.Text.Letters

/-!
# Presentations of a model

A model can be written in many ways: with blanks anywhere, in letters of either case, and without a cycle where
there is none. None of this reaches what the model compiles to, nor how it fails (`Compiled.ofValue_presentation`).

## Two steps

1. **Reading**: dropping blanks and folding letters commute with cutting the string at its slashes, so two
   presentations of a model name tokens that differ in the case of their letters at most
   (`Components.read?_folded`).
2. **Compiling**: the tokens are put into lower case before anything is asked of them, and the lower case of a folded
   token is that of the token (`Components.plain_folded`).
-/

namespace StructuralSeries

namespace Components

/-! ## Reading -/

/-- The pieces of a text are those of the text without its blanks. -/
theorem pieces_eq (cs : List Char) : pieces cs = (Text.squeeze cs).splitOn Token.separator :=
  (splitOn_filter (by decide) cs).symm

theorem map_folded_pieces (cs : List Char) :
    (pieces cs).map Text.folded = (Text.folded (Text.squeeze cs)).splitOn Token.separator := by
  rw [pieces_eq]
  exact (splitOn_map Text.toLower_eq_slash_iff (Text.squeeze cs)).symm

/-- Components that were read, with their letters folded. -/
def Parsed.folded (p : Parsed) : Parsed := ⟨p.components.map Text.folded, p.shorthand⟩

/-- Folding the letters of the pieces folds the components that they name. -/
theorem ofPieces?_folded (ps : List Token) : ofPieces? (ps.map Text.folded) = (ofPieces? ps).map Parsed.folded := by
  have hempty : ((ps.map Text.folded).all fun p => !p.isEmpty) = ps.all fun p => !p.isEmpty := by
    rw [List.all_map]
    congr 1
    funext p
    exact congrArg (! ·) List.isEmpty_map
  unfold ofPieces?
  rw [hempty]
  split
  · match ps with
    | [] | [_] | [_, _] => rfl
    | [_, _, _] => rfl
    | [_, _, _, _] => rfl
    | _ :: _ :: _ :: _ :: _ :: _ => rfl
  · rfl

/-- **What a text names depends on its characters without blanks, up to the case of the letters.** -/
theorem read?_folded (cs : List Char) :
    (read? cs).map Parsed.folded = ofPieces? ((Text.folded (Text.squeeze cs)).splitOn Token.separator) := by
  rw [← map_folded_pieces, ofPieces?_folded]
  rfl

/-- The shorthand names the pieces of the text with a cycle that is switched off. -/
theorem components_of_shorthand (t s i : Token) :
    (ofPieces? [t, s, i]).map Parsed.components = (ofPieces? [t, Token.off, s, i]).map Parsed.components := by
  have hoff : Token.off.isEmpty = false := rfl
  have hall : ([t, Token.off, s, i].all fun p => !p.isEmpty) = [t, s, i].all fun p => !p.isEmpty := by
    simp [hoff]
  unfold ofPieces?
  rw [hall]
  split
  · rfl
  · rfl

/-! ## Strings that name components, and strings that name none -/

theorem parse_of_read?_some {s : String} {q : Parsed} (h : read? s.toList = some q) : parse s = .ok q := by
  rw [parse, h]

theorem parse_of_read?_none {s : String} (h : read? s.toList = none) :
    parse s = .error (.refused (.modelLayout s)) := by
  rw [parse, h]

/-! ## Tokens before they are made explicit -/

/-- The letters of the tokens do not matter once they are in lower case. -/
theorem plain_folded (c : Components) (first : Double) : (c.map Text.folded).plain first = c.plain first := by
  unfold plain
  split
  · show ({ c.map Text.folded with seasonal := Token.off } : Components).map Text.lower = _
    simp only [map, Text.lower_folded]
  · simp only [map, Text.lower_folded]

end Components

/-! ## Compiling -/

/-- The same result, or failures of the same sort. -/
def SameOutcome {α : Type} (x y : Except Fault α) : Prop :=
  x.mapError Fault.category = y.mapError Fault.category

namespace Compiled

variable {η π : Type} [IntCast η] {periods : Grid Double} {horizon : Option η} {p0 p : Option π}

/-- Compiling looks at components only once they are plain. -/
theorem ofComponents_congr {c d : Components} (h : ∀ first, c.plain first = d.plain first) :
    ofComponents c periods horizon p0 p = ofComponents d periods horizon p0 p := by
  unfold ofComponents
  refine bind_congr fun first => ?_
  rw [h first]

/-- Options that agree under some functions are both empty or both not. -/
theorem eq_none_iff_of_map_eq {α β γ : Type} {f : α → γ} {g : β → γ} {x : Option α} {y : Option β}
    (h : x.map f = y.map g) : x = none ↔ y = none := by
  rw [← Option.map_eq_none_iff (f := f), h, Option.map_eq_none_iff]

/-- Model strings of which both name no components, or both name components that compile in the same way. -/
theorem sameOutcome_of_parsed {a b : String}
    (hnone : Components.read? a.toList = none ↔ Components.read? b.toList = none)
    (hsome : ∀ q r, Components.read? a.toList = some q → Components.read? b.toList = some r →
      ofComponents q.components periods horizon p0 p = ofComponents r.components periods horizon p0 p) :
    SameOutcome (ofValue (.text a) periods horizon p0 p) (ofValue (.text b) periods horizon p0 p) := by
  have hvalue : ∀ s : String, ofValue (.text s) periods horizon p0 p =
      Components.parse s >>= fun q => ofComponents q.components periods horizon p0 p := fun _ => rfl
  unfold SameOutcome
  rw [hvalue, hvalue]
  cases ha : Components.read? a.toList with
  -- the two refusals show their texts, but they are of one sort
  | none =>
    rw [Components.parse_of_read?_none ha, Components.parse_of_read?_none (hnone.1 ha)]
    rfl
  | some q =>
    cases hb : Components.read? b.toList with
    | none =>
      rw [hnone.2 hb] at ha
      cases ha
    | some r => rw [Components.parse_of_read?_some ha, Components.parse_of_read?_some hb, ok_bind, ok_bind, hsome q r ha hb]

/-- Model strings that name components with the same plain form, or no components at all, have the same outcome. -/
theorem sameOutcome_of_read? {a b : String}
    (h : ∀ first, (Components.read? a.toList).map (fun q => q.components.plain first) =
      (Components.read? b.toList).map fun q => q.components.plain first) :
    SameOutcome (ofValue (.text a) periods horizon p0 p) (ofValue (.text b) periods horizon p0 p) := by
  refine sameOutcome_of_parsed (eq_none_iff_of_map_eq (h .one)) fun q r hq hr => ofComponents_congr fun first => ?_
  have h := h first
  rw [hq, hr] at h
  exact Option.some.inj h

theorem plain_of_folded {a b : String}
    (h : Text.folded (Text.squeeze a.toList) = Text.folded (Text.squeeze b.toList)) (first : Double) :
    (Components.read? a.toList).map (fun q => q.components.plain first) =
      (Components.read? b.toList).map fun q => q.components.plain first := by
  have hfold : ∀ s : String, (Components.read? s.toList).map (fun q => q.components.plain first) =
      ((Components.read? s.toList).map Components.Parsed.folded).map fun q => q.components.plain first := by
    intro s
    rw [Option.map_map]
    congr 1
    funext q
    exact (Components.plain_folded q.components first).symm
  rw [hfold, hfold, Components.read?_folded, Components.read?_folded, h]

/-- Texts without slashes are the pieces of the text that they make up. -/
theorem read?_intercalate {ts : List (List Char)} (h : ∀ t ∈ ts, Token.separator ∉ t) (hne : ts ≠ []) :
    Components.read? (List.intercalate [Token.separator] ts) = Components.ofPieces? (ts.map Text.squeeze) := by
  rw [Components.read?, Components.pieces, List.splitOn_intercalate _ h hne]

/-- A text of pieces with slashes between them. -/
def slashed (ts : List (List Char)) : Value := .text (String.ofList (List.intercalate [Token.separator] ts))

theorem plain_of_shorthand {a b c : List Char} (ha : Token.separator ∉ a) (hb : Token.separator ∉ b)
    (hc : Token.separator ∉ c) (first : Double) :
    (Components.read? (List.intercalate [Token.separator] [a, b, c])).map (fun q => q.components.plain first) =
      (Components.read? (List.intercalate [Token.separator] [a, Token.off, b, c])).map
        fun q => q.components.plain first := by
  have hoff : Token.separator ∉ Token.off := by decide
  have hsqueeze : Text.squeeze Token.off = Token.off := by decide
  have hplain : ∀ o : Option Components.Parsed, o.map (fun q => q.components.plain first) =
      (o.map Components.Parsed.components).map fun d => d.plain first := by
    intro o
    rw [Option.map_map]
    rfl
  rw [read?_intercalate (by simp [ha, hb, hc]) (by simp), read?_intercalate (by simp [ha, hb, hc, hoff]) (by simp)]
  simp only [List.map_cons, List.map_nil, hsqueeze]
  rw [hplain, hplain, Components.components_of_shorthand]

/-- **A model means the same in every presentation.** Model strings that agree once their blanks are dropped and
their letters folded compile to the same model or fail in the same way, and so does a shorthand and the string with
the cycle `none` in it. This holds for all periods, horizons and parameters. -/
theorem ofValue_presentation (periods : Grid Double) (horizon : Option η) (p0 p : Option π) :
    (∀ a b : String, Text.folded (Text.squeeze a.toList) = Text.folded (Text.squeeze b.toList) →
      SameOutcome (ofValue (.text a) periods horizon p0 p) (ofValue (.text b) periods horizon p0 p)) ∧
    ∀ a b c : List Char, Token.separator ∉ a → Token.separator ∉ b → Token.separator ∉ c →
      SameOutcome (ofValue (slashed [a, b, c]) periods horizon p0 p)
        (ofValue (slashed [a, Token.off, b, c]) periods horizon p0 p) := by
  constructor
  · intro a b h
    exact sameOutcome_of_read? (plain_of_folded h)
  · intro a b c ha hb hc
    refine sameOutcome_of_read? fun first => ?_
    rw [String.toList_ofList, String.toList_ofList]
    exact plain_of_shorthand ha hb hc first

/-- Blanks, capitals and a shorthand, for monthly data; a capital sigma stays the last letter of its word. -/
theorem ofValue_presentation_blanks :
    ∃ m : Compiled Int (List Double),
      ofValue (.text "ΑΣ/none/EQUAL/Arma") (.ofList [.ofInt 12, .ofInt 6]) none (some [Double.one]) none = .ok m ∧
        m.components.trend = ['α', 'ς'] ∧
        SameOutcome (.ok m)
          (ofValue (.text " ΑΣ /No ne/Equal/\tarma") (.ofList [.ofInt 12, .ofInt 6]) none (some [Double.one]) none) ∧
        SameOutcome (ofValue (slashed [['Α', 'Σ'], ['E', 'Q', 'U', 'A', 'L'], ['A', 'r', 'm', 'a']])
          (.ofList [.ofInt 12, .ofInt 6]) none (some [Double.one]) none) (.ok m) := by
  have h : (ofValue (.text "ΑΣ/none/EQUAL/Arma") (.ofList [.ofInt 12, .ofInt 6]) (none : Option Int)
      (some [Double.one]) none).toOption.map (fun m => m.components.trend) = some ['α', 'ς'] := by decide +kernel
  obtain ⟨m, hm, htrend⟩ := exists_of_toOption_map h
  obtain ⟨hletters, hshort⟩ := ofValue_presentation (η := Int) (.ofList [.ofInt 12, .ofInt 6]) none
    (some [Double.one]) none
  have hlong : slashed [['Α', 'Σ'], Token.off, ['E', 'Q', 'U', 'A', 'L'], ['A', 'r', 'm', 'a']] =
      .text "ΑΣ/none/EQUAL/Arma" := rfl
  refine ⟨m, hm, htrend, ?_, ?_⟩
  · rw [← hm]
    exact hletters _ _ (by decide +kernel)
  · rw [← hm, ← hlong]
    exact hshort _ _ _ (by decide) (by decide) (by decide)

end Compiled

end StructuralSeries
