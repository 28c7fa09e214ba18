import StructuralSeries.Proofs.Text.LowerCase

/-!
# Letters of ASCII

A text whose ASCII letters are folded to lower case first has the same lower case as the text itself. The one
place where a neighbour matters is a capital sigma, and a letter of ASCII has case in both of its forms.

Folding a character changes it only if it is one of the capitals, so what is said of all characters here is checked
on these (`toLower_cases`).
-/

namespace StructuralSeries.Text

/-- The capital letters of ASCII. -/
def capitals : List Char :=
  ['A', 'B', 'C', 'D', 'E', 'F', 'G', 'H', 'I', 'J', 'K', 'L', 'M', 'N', 'O', 'P', 'Q', 'R', 'S', 'T', 'U', 'V',
    'W', 'X', 'Y', 'Z']

/-- The text with its ASCII letters in lower case. -/
def folded (cs : List Char) : List Char := cs.map Char.toLower

/-! ## Characters -/

theorem toLower_cases (c : Char) : c.toLower = c ∨ c ∈ capitals := by
  unfold Char.toLower
  split
  · next h =>
    right
    have hlow : 65 ≤ c.toNat := h.1
    have hhigh : c.toNat ≤ 90 := h.2
    have hmem : ∀ n ∈ List.range 26, Char.ofNat (65 + n) ∈ capitals := by decide
    have hc := hmem (c.toNat - 65) (List.mem_range.2 (by omega))
    rwa [show 65 + (c.toNat - 65) = c.toNat by omega, Char.ofNat_toNat] at hc
  · exact Or.inl rfl

/-- What holds of a character and itself, and of each capital and its small letter, holds of every character and its
folded form. -/
theorem toLower_induction {p : Char → Char → Prop} (hself : ∀ c, p c c) (hcapital : ∀ c ∈ capitals, p c.toLower c)
    (c : Char) : p c.toLower c := by
  rcases toLower_cases c with h | h
  · rw [h]
    exact hself c
  · exact hcapital c h

/-- What is checked on every capital holds of each. -/
theorem of_mem_capitals {p : Char → Prop} [DecidablePred p] (h : capitals.all (fun c => decide (p c)) = true) {c : Char}
    (hc : c ∈ capitals) : p c := of_decide_eq_true (List.all_eq_true.1 h c hc)

theorem toLower_eq_slash_iff (c : Char) : c.toLower = '/' ↔ c = '/' :=
  toLower_induction (p := fun d c => d = '/' ↔ c = '/') (fun _ => Iff.rfl)
    (fun _ hc => of_mem_capitals (p := fun c => c.toLower = '/' ↔ c = '/') (by decide +kernel) hc) c

/-- Whether two characters are the same to lower-casing, both where they stand and to the characters around them. -/
structure SameCase (d c : Char) : Prop where
  lowerAt_eq : ∀ before after, lowerAt before d after = lowerAt before c after
  ignorable_eq : inRanges caseIgnorable d.toNat = inRanges caseIgnorable c.toNat
  cased_eq : inRanges cased d.toNat = inRanges cased c.toNat

theorem lowerAt_of_isLower {c : Char} (hI : c ≠ 'İ') (hS : c ≠ 'Σ') (before after : List Char) :
    lowerAt before c after = [lowerChar c] := by
  unfold lowerAt
  rw [if_neg hI, if_neg hS]

theorem sameCase_toLower (c : Char) : SameCase c.toLower c := by
  refine toLower_induction (p := SameCase) (fun c => ⟨fun _ _ => rfl, rfl, rfl⟩) ?_ c
  intro c hc
  obtain ⟨hI, hS, hI', hS', hlower⟩ := of_mem_capitals (p := fun c => c ≠ 'İ' ∧ c ≠ 'Σ' ∧ c.toLower ≠ 'İ' ∧
    c.toLower ≠ 'Σ' ∧ lowerChar c.toLower = lowerChar c) (by decide +kernel) hc
  have hcase := of_mem_capitals (p := fun c => inRanges caseIgnorable c.toLower.toNat = inRanges caseIgnorable c.toNat ∧
    inRanges cased c.toLower.toNat = inRanges cased c.toNat) (by decide +kernel) hc
  refine ⟨fun before after => ?_, hcase.1, hcase.2⟩
  rw [lowerAt_of_isLower hI' hS', lowerAt_of_isLower hI hS, hlower]

/-! ## Texts -/

/-- Whether there is case ahead does not depend on the case of the letters. -/
theorem casedAhead_folded (cs : List Char) : casedAhead (folded cs) = casedAhead cs := by
  have hignore : (fun c : Char => inRanges caseIgnorable c.toNat) ∘ Char.toLower =
      fun c => inRanges caseIgnorable c.toNat := by
    funext c
    exact (sameCase_toLower c).ignorable_eq
  unfold casedAhead folded
  rw [List.dropWhile_map, hignore]
  cases cs.dropWhile fun c => inRanges caseIgnorable c.toNat with
  | nil => rfl
  | cons c rest => exact (sameCase_toLower c).cased_eq

theorem lowerAt_folded (before after : List Char) (c : Char) :
    lowerAt (folded before) c.toLower (folded after) = lowerAt before c after := by
  rw [(sameCase_toLower c).lowerAt_eq]
  unfold lowerAt
  rw [casedAhead_folded, casedAhead_folded]

theorem lowerFrom_folded (before cs : List Char) : lowerFrom (folded before) (folded cs) = lowerFrom before cs := by
  induction cs generalizing before with
  | nil => rfl
  | cons c after ih =>
    show lowerAt (folded before) c.toLower (folded after) ++ lowerFrom (folded (c :: before)) (folded after) = _
    rw [lowerAt_folded, ih]
    rfl

/-- **Folding the letters of ASCII does not change the lower case of a text.** -/
theorem lower_folded (cs : List Char) : lower (folded cs) = lower cs := lowerFrom_folded [] cs

end StructuralSeries.Text
