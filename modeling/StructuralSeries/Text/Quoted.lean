import StructuralSeries.Text.Lower
import StructuralSeries.Text.PrintableTable

/-!
# Quoted text

Text in quotes, as a message shows it. The quotes are single unless the text has a single quote and no double
one. The quote in use, the backslash and the characters that do not print are escaped, those by the shortest
of `\t`, `\n`, `\r`, `\xhh`, `\uhhhh` and `\Uhhhhhhhh`.
-/

namespace StructuralSeries.Text

/-- Whether a character is shown as it is. -/
def isPrintable (c : Char) : Bool := !inRanges unprintable c.toNat

/-- The quote that surrounds a text. -/
def quoteFor (cs : List Char) : Char :=
  if cs.contains '\'' && !cs.contains '"' then '"' else '\''

/-- A number in lower-case hexadecimal digits, at least so many. -/
def hex (width n : Nat) : List Char :=
  let digits := Nat.toDigits 16 n
  List.replicate (width - digits.length) '0' ++ digits

/-- A character inside quotes. -/
def escape (quote c : Char) : List Char :=
  if c = quote ∨ c = '\\' then ['\\', c]
  else if c = '\t' then ['\\', 't']
  else if c = '\n' then ['\\', 'n']
  else if c = '\r' then ['\\', 'r']
  else if isPrintable c then [c]
  else if c.toNat < 0x100 then '\\' :: 'x' :: hex 2 c.toNat
  else if c.toNat < 0x10000 then '\\' :: 'u' :: hex 4 c.toNat
  else '\\' :: 'U' :: hex 8 c.toNat

/-- The text in quotes. -/
def quoted (s : String) : String :=
  let cs := s.toList
  let q := quoteFor cs
  String.ofList (q :: cs.flatMap (escape q) ++ [q])

end StructuralSeries.Text
