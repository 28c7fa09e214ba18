import Mathlib.Algebra.Group.Nat.Defs
import Mathlib.Data.List.TakeWhile
import StructuralSeries.Double.Reader
import StructuralSeries.Proofs.Text.Letters
import StructuralSeries.Text.Blank

/-!
# Text of digits

Text that is a whole number is a sign, if there is one, and digits (`Decimal.whole?_eq_some_iff`). It is also a decimal
number without a fraction (`Decimal.read?_of_digits`), and it names nothing (`Double.readNamed?_eq_none`).
-/

namespace StructuralSeries

namespace Text

theorem mem_of_mem_trim {p : Char → Bool} {cs : List Char} {c : Char} (h : c ∈ trim p cs) : c ∈ cs := by
  rw [trim, List.mem_reverse] at h
  exact (List.dropWhile_sublist p).subset (List.mem_reverse.1 ((List.dropWhile_sublist p).subset h))

end Text

namespace Decimal

theorem mem_of_mem_takeSign {cs : List Char} {c : Char} (h : c ∈ (takeSign cs).2) : c ∈ cs := by
  unfold takeSign at h
  split at h
  · exact List.mem_cons_of_mem _ h
  · exact List.mem_cons_of_mem _ h
  · exact h

theorem mem_takeSign_of_isDigit {cs : List Char} {c : Char} (h : c ∈ cs) (hc : c.isDigit = true) :
    c ∈ (takeSign cs).2 := by
  unfold takeSign
  split
  · refine (List.mem_cons.1 h).resolve_left ?_
    rintro rfl
    cases hc
  · refine (List.mem_cons.1 h).resolve_left ?_
    rintro rfl
    cases hc
  · exact h

/-- Text that is a whole number is a sign, if there is one, and digits. -/
theorem whole?_eq_some_iff {cs : List Char} {n : Int} :
    whole? cs = some n ↔ (takeSign cs).2 ≠ [] ∧ (∀ c ∈ (takeSign cs).2, c.isDigit = true) ∧
      (if (takeSign cs).1 then -(ofDigits (takeSign cs).2 : Int) else ofDigits (takeSign cs).2) = n := by
  unfold whole?
  simp only [Option.ite_none_left_eq_some, Bool.or_eq_true, List.isEmpty_iff, Bool.not_eq_true', not_or,
    Bool.not_eq_false, List.all_eq_true, Option.some.injEq, and_assoc]

/-- Digits are the decimal number that they write. -/
theorem read?_of_digits {ds : List Char} (hne : ds ≠ []) (h : ∀ c ∈ ds, c.isDigit = true) :
    read? ds = some ⟨ofDigits ds, 0⟩ := by
  have htake : ds.takeWhile Char.isDigit = ds := List.takeWhile_eq_self_iff.2 h
  have hdrop : ds.dropWhile Char.isDigit = [] := List.dropWhile_eq_nil_iff.2 h
  have hsplit : splitDigits ds = (ds, [], []) := by
    unfold splitDigits
    rw [hdrop, htake]
  unfold read?
  rw [hsplit]
  simp [hne, trailingExponent?]

theorem width_le {n k : Nat} (hk : 0 < k) (h : n < 10 ^ k) : width n ≤ k :=
  (Nat.length_toDigits_le_iff (by decide) hk).2 h

/-- A short whole number has the same rank if it is read as a decimal number. -/
theorem rank_of_whole {n : Nat} (h : n < 10 ^ 20) : rank .double ⟨n, 0⟩ = Format.double.rank n 1 := by
  have hwidth : width n ≤ 20 := width_le (by decide) h
  have hreach : reach = 400 := rfl
  unfold rank
  dsimp only
  by_cases hn : n = 0
  · simp [hn]
  · rw [if_neg hn, if_neg (by omega), if_neg (by omega)]
    simp [ratio]

end Decimal

namespace Double

/-- Text with a digit in it names neither an infinity nor what is not a number. -/
theorem readNamed?_eq_none {cs : List Char} {c : Char} (h : c ∈ cs) (hc : c.isDigit = true) : readNamed? cs = none := by
  have hbody : c ∈ (Decimal.takeSign cs).2.map Char.toLower := by
    rcases Text.toLower_cases c with hlower | hcapital
    · rw [← hlower]
      exact List.mem_map_of_mem (Decimal.mem_takeSign_of_isDigit h hc)
    · have hletter := Text.of_mem_capitals (p := fun a => a.isDigit = false) (by decide +kernel) hcapital
      rw [hc] at hletter
      cases hletter
  have hword : ∀ word : String, word.toList.all (fun a => !a.isDigit) = true →
      String.ofList ((Decimal.takeSign cs).2.map Char.toLower) ≠ word := by
    intro word hletters heq
    rw [← heq, String.toList_ofList, List.all_eq_true] at hletters
    have hletter := hletters c hbody
    rw [hc] at hletter
    cases hletter
  have hinf := hword "inf" (by decide +kernel)
  have hinfinity := hword "infinity" (by decide +kernel)
  have hnan := hword "nan" (by decide +kernel)
  simp [readNamed?, hinf, hinfinity, hnan]

end Double

end StructuralSeries
