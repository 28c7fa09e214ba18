import StructuralSeries.Text.CaseTable

/-!
# Lower case

Full lower-casing of text. Three kinds of characters have a lower case:

* most have one other character, from a table;
* `İ` becomes two, an `i` and a combining dot;
* a capital sigma becomes `ς` at the end of a word and `σ` elsewhere.

A sigma ends a word when the nearest character before it that is not ignorable has case, and the nearest one
after it has not or is missing.
-/

namespace StructuralSeries.Text

/-- Whether a number lies in one of the ranges, ends included. -/
def inRanges (ranges : List (Nat × Nat)) (n : Nat) : Bool :=
  ranges.any fun r => r.1 ≤ n && n ≤ r.2

namespace LowerRun

/-- Whether a character is one of the run. -/
def has (r : LowerRun) (n : Nat) : Bool :=
  r.first ≤ n && n ≤ r.last && (n - r.first) % r.step == 0

end LowerRun

/-- The lower case of a character that has a single one, and the character itself otherwise. -/
def lowerChar (c : Char) : Char :=
  match lowerRuns.find? (·.has c.toNat) with
  | some r => Char.ofNat (r.target + (c.toNat - r.first))
  | none => c

/-- Whether the nearest character that is not ignorable has case. -/
def casedAhead (cs : List Char) : Bool :=
  match cs.dropWhile fun c => inRanges caseIgnorable c.toNat with
  | [] => false
  | c :: _ => inRanges cased c.toNat

/-- The lower case of a character between the reversed text before it and the text after it. -/
def lowerAt (before : List Char) (c : Char) (after : List Char) : List Char :=
  if c = 'İ' then ['i', '\u0307']
  else if c = 'Σ' then [if casedAhead before && !casedAhead after then 'ς' else 'σ']
  else [lowerChar c]

/-- The lower case of a text whose preceding text, reversed, is given. -/
def lowerFrom (before : List Char) : List Char → List Char
  | [] => []
  | c :: after => lowerAt before c after ++ lowerFrom (c :: before) after

/-- The lower case of a text. -/
def lower (cs : List Char) : List Char := lowerFrom [] cs

end StructuralSeries.Text
