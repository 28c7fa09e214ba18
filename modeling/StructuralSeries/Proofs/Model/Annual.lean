import StructuralSeries.Proofs.Model.Switches

/-!
# The seasonal text of annual data

With annual data it does not matter what a model string says in its seasonal place, as long as something is said there.
It reaches neither the components nor the question whether they are empty or open, and so neither the parameters nor the
sort of a failure (`Compiled.ofValue_seasonal`).

## Two steps

1. **Reading**: strings that differ in the seasonal place name components that differ there only, or both name none
   (`Components.read?_seasonal`). The seasonal place is the last but one.
2. **Compiling**: the seasonal component of annual data is overwritten before anything is asked of it
   (`Compiled.ofComponents_withoutSeasonal`).
-/

namespace StructuralSeries

namespace Components

/-- A text in which something is written, and which has no slash to cut it. -/
structure IsWritten (s : List Char) : Prop where
  no_separator : Token.separator ∉ s
  written : ∃ c ∈ s, Text.isBlank c = false

/-- The components with the seasonal one switched off. -/
def withoutSeasonal (c : Components) : Components := { c with seasonal := Token.off }

/-! ## Reading -/

theorem pieces_append_cons (as bs : List Char) :
    pieces (as ++ Token.separator :: bs) = pieces as ++ pieces bs := by
  rw [pieces, List.splitOn_append_cons_self, List.map_append]
  rfl

theorem pieces_of_not_mem {s : List Char} (h : Token.separator ∉ s) : pieces s = [Text.squeeze s] := by
  rw [pieces, List.splitOn_eq_singleton h]
  rfl

theorem IsWritten.squeeze_ne_nil {s : List Char} (h : IsWritten s) : Text.squeeze s ≠ [] := by
  obtain ⟨c, hc, hblank⟩ := h.written
  exact List.ne_nil_of_mem (List.mem_filter.2 ⟨hc, by simp [hblank]⟩)

/-- Pieces name components only if there are three or four of them. -/
theorem ofPieces?_eq_none {ps : List Token} (h₃ : ps.length ≠ 3) (h₄ : ps.length ≠ 4) : ofPieces? ps = none := by
  unfold ofPieces?
  split
  · split
    · exact absurd rfl h₃
    · exact absurd rfl h₄
    · rfl
  · rfl

/-- A piece in the seasonal place reaches the seasonal component only. With one piece before it and two behind it, it
would be in the place of the cycle. -/
theorem ofPieces?_seasonal {ps qs : List Token} {s₁ s₂ : Token} (h₁ : s₁ ≠ []) (h₂ : s₂ ≠ []) (hps : ps.length ≠ 0)
    (hqs : qs.length ≠ 0) (hplace : qs.length = 2 → ps.length ≠ 1) :
    (ofPieces? (ps ++ s₁ :: qs)).map (fun q => q.components.withoutSeasonal) =
      (ofPieces? (ps ++ s₂ :: qs)).map fun q => q.components.withoutSeasonal := by
  have hlength : ∀ s, (ps ++ s :: qs).length = ps.length + qs.length + 1 := fun s => by
    rw [List.length_append, List.length_cons, Nat.add_assoc]
  by_cases hcount : ps.length + qs.length = 2 ∨ ps.length + qs.length = 3
  · have hall : ((ps ++ s₁ :: qs).all fun p => !p.isEmpty) = (ps ++ s₂ :: qs).all fun p => !p.isEmpty := by
      have hempty : ∀ {s : Token}, s ≠ [] → s.isEmpty = false := List.isEmpty_eq_false_iff.2
      rw [List.all_append, List.all_append, List.all_cons, List.all_cons, hempty h₁, hempty h₂]
    obtain ⟨i, rfl⟩ := List.length_eq_one_iff.1 (show qs.length = 1 by omega)
    rw [List.length_singleton] at hcount
    unfold ofPieces?
    rw [hall]
    rcases hcount with hcount | hcount
    · obtain ⟨t, rfl⟩ := List.length_eq_one_iff.1 (show ps.length = 1 by omega)
      split
      · rfl
      · rfl
    · match ps, hcount with
      | [t, c], _ =>
        split
        · rfl
        · rfl
  · rw [ofPieces?_eq_none (by rw [hlength]; omega) (by rw [hlength]; omega),
      ofPieces?_eq_none (by rw [hlength]; omega) (by rw [hlength]; omega)]

/-- **A text in the seasonal place reaches the seasonal component only.** It is not in that place if it stands first and
one slash follows later on, for then it is the cycle. -/
theorem read?_seasonal {before after s₁ s₂ : List Char} (h₁ : IsWritten s₁) (h₂ : IsWritten s₂)
    (hplace : after.count Token.separator = 1 → Token.separator ∈ before) :
    (read? (before ++ Token.separator :: (s₁ ++ Token.separator :: after))).map (fun q => q.components.withoutSeasonal) =
      (read? (before ++ Token.separator :: (s₂ ++ Token.separator :: after))).map
        fun q => q.components.withoutSeasonal := by
  have hread : ∀ s, IsWritten s → read? (before ++ Token.separator :: (s ++ Token.separator :: after)) =
      ofPieces? (pieces before ++ Text.squeeze s :: pieces after) := by
    intro s hs
    rw [read?, pieces_append_cons, pieces_append_cons, pieces_of_not_mem hs.no_separator, List.singleton_append]
  rw [hread s₁ h₁, hread s₂ h₂]
  refine ofPieces?_seasonal h₁.squeeze_ne_nil h₂.squeeze_ne_nil ?_ ?_ fun hafter hbefore => ?_
  · rw [length_pieces]
    exact Nat.succ_ne_zero _
  · rw [length_pieces]
    exact Nat.succ_ne_zero _
  · rw [length_pieces] at hafter hbefore
    have hmem := List.count_pos_iff.2 (hplace (Nat.succ.inj hafter))
    omega

end Components

namespace Compiled

variable {η π : Type} [IntCast η] {periods : Grid Double} {horizon : Option η} {p0 p : Option π}

/-! ## Compiling -/

/-- The seasonal component of annual data is overwritten before anything is asked of it. -/
theorem ofComponents_withoutSeasonal (hannual : Periods.first periods = .ok .one) (c : Components) :
    ofComponents c.withoutSeasonal periods horizon p0 p = ofComponents c periods horizon p0 p := by
  unfold ofComponents
  rw [hannual, ok_bind, ok_bind, Components.plain_of_annual, Components.plain_of_annual]
  rfl

/-- Model strings of annual data that differ in the seasonal place only have the same outcome. -/
theorem sameOutcome_of_withoutSeasonal (hannual : Periods.first periods = .ok .one) {a b : List Char}
    (h : (Components.read? a).map (fun q => q.components.withoutSeasonal) =
      (Components.read? b).map fun q => q.components.withoutSeasonal) :
    SameOutcome (ofValue (.text (String.ofList a)) periods horizon p0 p)
      (ofValue (.text (String.ofList b)) periods horizon p0 p) := by
  refine sameOutcome_of_parsed ?_ fun q r hq hr => ?_
  · rw [String.toList_ofList, String.toList_ofList]
    exact eq_none_iff_of_map_eq h
  · rw [String.toList_ofList] at hq hr
    rw [hq, hr] at h
    have h : q.components.withoutSeasonal = r.components.withoutSeasonal := Option.some.inj h
    rw [← ofComponents_withoutSeasonal hannual, h, ofComponents_withoutSeasonal hannual]

/-- **Annual data ignore the seasonal text.** Two model strings that differ only in what is written in the seasonal
place compile to the same model for periods that start with one, the parameters included, or fail in the same way. The
other texts are arbitrary: strings with too many slashes fail alike, and a shorthand only has to be one, so that the
text is not taken for the cycle of a longer string. -/
theorem ofValue_seasonal (hannual : Periods.first periods = .ok .one) (horizon : Option η) (p0 p : Option π)
    {s₁ s₂ : List Char} (h₁ : Components.IsWritten s₁) (h₂ : Components.IsWritten s₂) :
    (∀ t c i : List Char, SameOutcome (ofValue (slashed [t, c, s₁, i]) periods horizon p0 p)
      (ofValue (slashed [t, c, s₂, i]) periods horizon p0 p)) ∧
    ∀ t i : List Char, (i.count Token.separator = 1 → Token.separator ∈ t) →
      SameOutcome (ofValue (slashed [t, s₁, i]) periods horizon p0 p)
        (ofValue (slashed [t, s₂, i]) periods horizon p0 p) := by
  constructor
  · intro t c i
    have hlong : ∀ s, List.intercalate [Token.separator] [t, c, s, i] =
        (t ++ Token.separator :: c) ++ Token.separator :: (s ++ Token.separator :: i) := by
      intro s
      simp [List.intercalate]
    unfold slashed
    rw [hlong, hlong]
    exact sameOutcome_of_withoutSeasonal hannual (Components.read?_seasonal h₁ h₂ fun _ => by simp)
  · intro t i hplace
    have hshort : ∀ s, List.intercalate [Token.separator] [t, s, i] =
        t ++ Token.separator :: (s ++ Token.separator :: i) := by
      intro s
      simp [List.intercalate]
    unfold slashed
    rw [hshort, hshort]
    exact sameOutcome_of_withoutSeasonal hannual (Components.read?_seasonal h₁ h₂ hplace)

/-- A seasonal wildcard and a seasonal type in capitals give the same annual model, with its parameters, and the same
refusal where nothing else is switched on. -/
theorem ofValue_seasonal_wildcard :
    (∃ m : Compiled Int (List Double),
      ofValue (slashed [['l', 'l', 't'], ['4'], ['?'], ['a']]) (.ofList [.one, .ofInt 2]) none (some [.one]) none =
        .ok m ∧
      m.model = "llt/+4/none/a" ∧ m.p0 = some [.one] ∧
      SameOutcome (.ok m) (ofValue (slashed [['l', 'l', 't'], ['4'], ['E', ' ', 'Q'], ['a']])
        (.ofList [.one, .ofInt 2]) none (some [.one]) none)) ∧
    ofValue (slashed [Token.off, ['?'], Token.off]) (.ofList [.one]) (none : Option Int) (some [Double.one]) none =
      .error (.refused .emptyModel) ∧
    SameOutcome (.error (.refused .emptyModel)) (ofValue (slashed [Token.off, ['E', ' ', 'Q'], Token.off])
      (.ofList [.one]) (none : Option Int) (some [Double.one]) none) := by
  have hwildcard : Components.IsWritten ['?'] := ⟨by decide, '?', by decide, by decide⟩
  have hcapitals : Components.IsWritten ['E', ' ', 'Q'] := ⟨by decide, 'E', by decide, by decide⟩
  have hempty : ofValue (slashed [Token.off, ['?'], Token.off]) (.ofList [.one]) (none : Option Int)
      (some [Double.one]) none = .error (.refused .emptyModel) :=
    ofValue_eq_error_iff.2 (Or.inr ⟨⟨⟨Token.off, Token.off, ['?'], Token.off⟩, true⟩, rfl,
      Components.isVoid_plain_iff.2 ⟨by decide, by decide, by decide, Or.inl rfl⟩, rfl⟩)
  refine ⟨?_, hempty, ?_⟩
  · have h : (ofValue (slashed [['l', 'l', 't'], ['4'], ['?'], ['a']]) (.ofList [.one, .ofInt 2]) (none : Option Int)
        (some [Double.one]) none).toOption.map (fun m => (m.model, m.p0)) =
        some ("llt/+4/none/a", some [.one]) := by decide +kernel
    obtain ⟨m, hm, hparts⟩ := exists_of_toOption_map h
    simp only [Prod.mk.injEq] at hparts
    refine ⟨m, hm, hparts.1, hparts.2, ?_⟩
    rw [← hm]
    exact (ofValue_seasonal (Periods.first_ofList_cons _ _) none (some [Double.one]) none hwildcard hcapitals).1 _ _ _
  · rw [← hempty]
    exact (ofValue_seasonal (Periods.first_ofList_cons _ _) none (some [Double.one]) none hwildcard hcapitals).2 _ _
      (by decide)

end Compiled

end StructuralSeries
