import StructuralSeries.Proofs.Model.Presentation

/-!
# The layout of a model string

A text names components exactly if it has two or three slashes and something is written in every piece between them,
that is, something that is not blank. The components that it names spell it without its blanks; where it has two
slashes only, the cycle `none` is filled in behind the first of them. And whatever tokens could stand in a model string
are read back from the string that they make up (`Components.parse_exact`).

## Two steps

1. **Acceptance**: pieces are counted by the slashes between them, and each of them is a piece of the text itself
   (`Components.hasLayout_iff`).
2. **Spelling**: dropping blanks and cutting at slashes commute, so the pieces that are read, with slashes between them,
   are the text without its blanks (`Components.intercalate_pieces`).
-/

namespace StructuralSeries

namespace Components

/-! ## Texts that name components -/

/-- Three or four pieces between slashes, none of which is blank. -/
structure HasLayout (cs : List Char) : Prop where
  count : (cs.splitOn Token.separator).length = 3 ∨ (cs.splitOn Token.separator).length = 4
  written : ∀ p ∈ cs.splitOn Token.separator, ∃ c ∈ p, Text.isBlank c = false

/-- The layout by its slashes and by what stands between them. -/
theorem hasLayout_iff {cs : List Char} :
    HasLayout cs ↔ (cs.count Token.separator = 2 ∨ cs.count Token.separator = 3) ∧
      ∀ p, IsPiece Token.separator cs p → ∃ c ∈ p, Text.isBlank c = false := by
  have hlength := length_splitOn (a := Token.separator) cs
  constructor
  · rintro ⟨hcount, hwritten⟩
    exact ⟨by omega, fun p hp => hwritten p (mem_splitOn_iff.2 hp)⟩
  · rintro ⟨hcount, hwritten⟩
    exact ⟨by omega, fun p hp => hwritten p (mem_splitOn_iff.1 hp)⟩

theorem all_pieces_iff {cs : List Char} :
    ((pieces cs).all fun p => !p.isEmpty) = true ↔
      ∀ p ∈ cs.splitOn Token.separator, ∃ c ∈ p, Text.isBlank c = false := by
  rw [pieces, List.all_map, List.all_eq_true]
  refine forall₂_congr fun p _ => ?_
  simp [Text.squeeze]

/-- **A model string names components exactly if it has the layout.** -/
theorem exists_parse_iff {model : String} : (∃ parsed, parse model = .ok parsed) ↔ HasLayout model.toList := by
  have hlength : (pieces model.toList).length = (model.toList.splitOn Token.separator).length := List.length_map _
  unfold parse read? ofPieces?
  constructor
  · rintro ⟨parsed, h⟩
    split at h
    · next hread =>
      split at hread
      · next hall =>
        refine ⟨?_, all_pieces_iff.1 hall⟩
        rw [← hlength]
        split at hread
        · next heq => exact Or.inl (by rw [heq]; rfl)
        · next heq => exact Or.inr (by rw [heq]; rfl)
        · cases hread
      · cases hread
    · cases h
  · rintro ⟨hcount, hwritten⟩
    rw [if_pos (all_pieces_iff.2 hwritten)]
    rw [← hlength] at hcount
    match hpieces : pieces model.toList, hcount with
    | [t, s, i], _ => exact ⟨_, rfl⟩
    | [t, c, s, i], _ => exact ⟨_, rfl⟩

theorem parse_eq_error_iff {model : String} {e : Fault} :
    parse model = .error e ↔ ¬ HasLayout model.toList ∧ Fault.refused (.modelLayout model) = e := by
  rw [← exists_parse_iff]
  cases hread : read? model.toList with
  | none =>
    rw [parse_of_read?_none hread]
    simp
  | some parsed =>
    rw [parse_of_read?_some hread]
    simp

theorem parse_eq_ok_iff {model : String} {parsed : Parsed} :
    parse model = .ok parsed ↔ read? model.toList = some parsed := by
  refine ⟨fun h => ?_, parse_of_read?_some⟩
  unfold parse at h
  split at h
  · next hread => rw [hread, Except.ok.inj h]
  · cases h

theorem length_pieces (cs : List Char) : (pieces cs).length = cs.count Token.separator + 1 :=
  (List.length_map _).trans (length_splitOn cs)

/-! ## What the components spell -/

/-- A text with a cycle that is switched off behind its first separator. -/
def withCycle : List Char → List Char
  | [] => []
  | c :: cs => if c = Token.separator then c :: (Token.off ++ Token.separator :: cs) else c :: withCycle cs

theorem withCycle_append {t : Token} (ht : Token.separator ∉ t) (rest : List Char) :
    withCycle (t ++ Token.separator :: rest) = t ++ Token.separator :: (Token.off ++ Token.separator :: rest) := by
  induction t with
  | nil => rfl
  | cons c cs ih =>
    rw [List.mem_cons, not_or] at ht
    obtain ⟨hc, hcs⟩ := ht
    show (if c = Token.separator then _ else c :: withCycle (cs ++ _)) = _
    rw [if_neg (Ne.symm hc), ih hcs]
    rfl

/-- The pieces spell the text without its blanks. -/
theorem intercalate_pieces (cs : List Char) :
    List.intercalate [Token.separator] (pieces cs) = Text.squeeze cs := by
  rw [pieces_eq, List.intercalate_splitOn]

/-- **Components spell the text that names them**, without its blanks, and with a cycle if it gives none. -/
theorem chars_of_read? {cs : List Char} {parsed : Parsed} (h : read? cs = some parsed) :
    parsed.components.chars = (if parsed.shorthand then withCycle (Text.squeeze cs) else Text.squeeze cs) ∧
      (parsed.shorthand = true ↔ cs.count Token.separator = 2) := by
  have hlength := length_pieces cs
  rw [← intercalate_pieces]
  unfold read? ofPieces? at h
  split at h
  · split at h
    · next t s i hpieces =>
      cases h
      have ht : Token.separator ∉ t := not_mem_of_mem_pieces (show t ∈ pieces cs by rw [hpieces]; exact List.mem_cons_self)
      rw [hpieces] at hlength ⊢
      exact ⟨(withCycle_append ht _).symm, iff_of_true rfl (Nat.succ.inj hlength).symm⟩
    · next t c s i hpieces =>
      cases h
      rw [hpieces] at hlength ⊢
      refine ⟨rfl, iff_of_false Bool.false_ne_true fun hcount => ?_⟩
      rw [hcount] at hlength
      cases hlength
    · cases h
  · cases h

/-- **Which texts name components, and which components they name.** A text names components exactly if it has two or
three slashes and no piece between them is blank, and any other is refused as an invalid argument. Its components spell
it without its blanks, and with the cycle `none` behind the first slash if it has two, which is when it counts as a
shorthand. Readable tokens are read back from their own string, which is no shorthand. -/
theorem parse_exact :
    (∀ model : String,
      ((∃ parsed, parse model = .ok parsed) ↔
        (model.toList.count Token.separator = 2 ∨ model.toList.count Token.separator = 3) ∧
          ∀ p, IsPiece Token.separator model.toList p → ∃ c ∈ p, Text.isBlank c = false) ∧
      (∀ e, parse model = .error e → e = .refused (.modelLayout model) ∧ e.category = .invalidArgument) ∧
      ∀ parsed, parse model = .ok parsed →
        parsed.components.text = String.ofList (if model.toList.count Token.separator = 2
          then withCycle (Text.squeeze model.toList) else Text.squeeze model.toList) ∧
        (parsed.shorthand = true ↔ model.toList.count Token.separator = 2)) ∧
    ∀ c : Components, (∀ t ∈ c.tokens, t.IsReadable) → parse c.text = .ok ⟨c, false⟩ := by
  refine ⟨fun model => ⟨exists_parse_iff.trans hasLayout_iff, ?_, ?_⟩, fun c => parse_text⟩
  · intro e he
    obtain ⟨-, rfl⟩ := parse_eq_error_iff.1 he
    exact ⟨rfl, rfl⟩
  · intro parsed hparsed
    obtain ⟨hchars, hshorthand⟩ := chars_of_read? (parse_eq_ok_iff.1 hparsed)
    refine ⟨?_, hshorthand⟩
    rw [text, hchars]
    simp only [hshorthand]

/-- A shorthand with blanks around its slashes and in its words, a string with a blank piece between two slashes, and a
string of four tokens. -/
theorem parse_exact_blanks :
    (∃ parsed, parse "\trw / e qual/arma(1,2) " = .ok parsed ∧
      parsed.components.text = "rw/none/equal/arma(1,2)" ∧ parsed.shorthand = true) ∧
    parse "rw/ /equal/none" = .error (.refused (.modelLayout "rw/ /equal/none")) ∧
    parse "dt/+12?/none/?" = .ok ⟨⟨['d', 't'], ['+', '1', '2', '?'], Token.off, ['?']⟩, false⟩ := by
  obtain ⟨hreading, hback⟩ := parse_exact
  refine ⟨?_, ?_, ?_⟩
  · obtain ⟨parsed, hparsed⟩ : ∃ parsed, parse "\trw / e qual/arma(1,2) " = .ok parsed := ⟨_, rfl⟩
    obtain ⟨htext, hshorthand⟩ := (hreading _).2.2 parsed hparsed
    exact ⟨parsed, hparsed, htext.trans (by decide +kernel), hshorthand.2 (by decide +kernel)⟩
  · have hblank : IsPiece Token.separator "rw/ /equal/none".toList [' '] :=
      ⟨by decide, "rw/".toList, "/equal/none".toList, by decide +kernel, Or.inr (by decide +kernel),
        Or.inr (by decide +kernel)⟩
    cases hparse : parse "rw/ /equal/none" with
    | ok parsed =>
      obtain ⟨c, hc, hwritten⟩ := ((hreading _).1.1 ⟨parsed, hparse⟩).2 _ hblank
      rw [List.mem_singleton.1 hc] at hwritten
      cases hwritten
    | error e => rw [((hreading _).2.1 e hparse).1]
  · have hreadable : ∀ t : Token, t ≠ [] → t.all (fun c => c != Token.separator && !Text.isBlank c) = true →
        t.IsReadable := by
      intro t hne hall
      have hchar : ∀ c ∈ t, c ≠ Token.separator ∧ Text.isBlank c = false := by simpa using hall
      exact ⟨hne, fun hc => (hchar _ hc).1 rfl, fun c hc => (hchar c hc).2⟩
    refine hback ⟨['d', 't'], ['+', '1', '2', '?'], Token.off, ['?']⟩ fun t ht => ?_
    simp only [tokens, List.mem_cons, List.not_mem_nil, or_false] at ht
    rcases ht with rfl | rfl | rfl | rfl
    · exact hreadable _ (by decide) (by decide)
    · exact hreadable _ (by decide) (by decide)
    · exact Token.isReadable_off
    · exact hreadable _ (by decide) (by decide)

end Components

end StructuralSeries
