import StructuralSeries.Proofs.Model.Tokens
import StructuralSeries.Proofs.Outcome
import StructuralSeries.Proofs.Text.Pieces

/-!
# Reading the components of a model

Slashes divide a model string and blanks mean nothing in it. So the tokens that are read are not empty and hold
neither (`isReadable_of_ofValue`), and tokens of that kind are read back from the string that they make up
(`parse_text`).
-/

namespace StructuralSeries

namespace Token

theorem isReadable_off : off.IsReadable where
  ne_nil := by decide
  no_separator := by decide
  no_blank := fun c hc => by
    have hall : off.all (fun c => !Text.isBlank c) = true := by decide
    simpa using List.all_eq_true.1 hall c hc

end Token

namespace Components

/-! ## Tokens that are read -/

theorem not_mem_of_mem_pieces {cs : List Char} {p : Token} (hp : p ∈ pieces cs) : Token.separator ∉ p := by
  obtain ⟨q, hq, rfl⟩ := List.mem_map.1 hp
  intro hm
  exact not_mem_of_mem_splitOn hq (List.mem_filter.1 hm).1

theorem isReadable_of_mem_pieces {cs : List Char} {p : Token} (hp : p ∈ pieces cs) (hne : p ≠ []) :
    p.IsReadable where
  ne_nil := hne
  no_separator := not_mem_of_mem_pieces hp
  no_blank := fun _ hc => not_isBlank_of_mem_pieces hp hc

theorem isReadable_of_read? {cs : List Char} {p : Parsed} (h : read? cs = some p) :
    ∀ t ∈ p.components.tokens, t.IsReadable := by
  have hp : ∀ t ∈ pieces cs, t ≠ [] → t.IsReadable := fun t ht hne => isReadable_of_mem_pieces ht hne
  unfold read? ofPieces? at h
  split at h
  · next hall =>
    have hne : ∀ t ∈ pieces cs, t ≠ [] := by simpa using hall
    have hr : ∀ t ∈ pieces cs, t.IsReadable := fun t ht => hp t ht (hne t ht)
    split at h
    · next t s i hps =>
      rw [hps] at hr
      cases h
      intro x hx
      simp only [tokens, List.mem_cons, List.not_mem_nil, or_false] at hx
      rcases hx with rfl | rfl | rfl | rfl
      · exact hr _ (by simp)
      · exact Token.isReadable_off
      · exact hr _ (by simp)
      · exact hr _ (by simp)
    · next t c s i hps =>
      rw [hps] at hr
      cases h
      exact hr
    · cases h
  · cases h

/-- **The tokens that a value names are readable.** -/
theorem isReadable_of_ofValue {v : Value} {p : Parsed} (h : Components.ofValue v = .ok p) :
    ∀ t ∈ p.components.tokens, t.IsReadable := by
  unfold Components.ofValue parse at h
  split at h
  · split at h
    · next hr =>
      cases h
      exact isReadable_of_read? hr
    · cases h
  · cases h

/-! ## Tokens that are read back -/

theorem splitOn_chars {c : Components} (h : ∀ t ∈ c.tokens, Token.separator ∉ t) :
    c.chars.splitOn Token.separator = c.tokens :=
  List.splitOn_intercalate _ h (by simp [tokens])

/-- **The model string of readable tokens names these tokens**, and it is no shorthand. -/
theorem parse_text {c : Components} (h : ∀ t ∈ c.tokens, t.IsReadable) :
    parse c.text = .ok ⟨c, false⟩ := by
  have hsplit := splitOn_chars fun t ht => (h t ht).no_separator
  have hsqueeze : c.tokens.map Text.squeeze = c.tokens := by
    conv => rhs; rw [← List.map_id c.tokens]
    exact List.map_congr_left fun t ht => Text.squeeze_eq_self (h t ht).no_blank
  have hne : (c.tokens.all fun p => !p.isEmpty) = true := by
    rw [List.all_eq_true]
    intro t ht
    simpa using (h t ht).ne_nil
  have hread : read? c.chars = some ⟨c, false⟩ := by
    rw [read?, pieces, hsplit, hsqueeze]
    unfold ofPieces?
    rw [if_pos hne]
    rfl
  rw [parse, text, String.toList_ofList, hread]

/-! ## Characters of a model string -/

/-- A character that is no slash stands in a model string exactly if it stands in one of the tokens. -/
theorem mem_chars_iff {c : Components} {x : Char} (hx : x ≠ Token.separator) :
    x ∈ c.chars ↔ ∃ t ∈ c.tokens, x ∈ t := by
  simp [chars, tokens, List.intercalate, hx]

/-- A model string has a wildcard exactly if some component is open. -/
theorem wildcard_mem_chars_iff {c : Components} : Token.wildcard ∈ c.chars ↔ c.isOpen = true := by
  rw [mem_chars_iff (by decide), isOpen, List.any_eq_true]
  simp [Token.isOpen]

end Components

end StructuralSeries
