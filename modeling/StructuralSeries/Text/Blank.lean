/-!
# Blank characters

Three sets of blank characters are in use. Model strings lose every character of `isBlank`. Text that is
read as a number is trimmed of ASCII blanks (`isAsciiBlank`), and where text comes from an option also of the
blank characters past ASCII (`isNumberBlank`). The information separators `U+001C` to `U+001F` are blank in a
model string and part of the text of a number.
-/

namespace StructuralSeries.Text

/-- White space of the Unicode Character Database, with the four information separators. -/
def isBlank (c : Char) : Bool :=
  let n := c.toNat
  (9 ≤ n && n ≤ 13) || (0x1C ≤ n && n ≤ 0x20) || n == 0x85 || n == 0xA0 || n == 0x1680 ||
    (0x2000 ≤ n && n ≤ 0x200A) || n == 0x2028 || n == 0x2029 || n == 0x202F || n == 0x205F ||
    n == 0x3000

/-- Tabulator, line feed, the two feeds after it, carriage return and space. -/
def isAsciiBlank (c : Char) : Bool :=
  let n := c.toNat
  (9 ≤ n && n ≤ 13) || n == 0x20

/-- Blanks around a number that is given as an option. -/
def isNumberBlank (c : Char) : Bool := isAsciiBlank c || (0x7F ≤ c.toNat && isBlank c)

/-- The text without the characters of a set at its two ends. -/
def trim (p : Char → Bool) (cs : List Char) : List Char :=
  ((cs.dropWhile p).reverse.dropWhile p).reverse

/-- The text without its blank characters. -/
def squeeze (cs : List Char) : List Char := cs.filter fun c => !isBlank c

theorem not_isBlank_of_mem_squeeze {c : Char} {cs : List Char} (h : c ∈ squeeze cs) :
    isBlank c = false := by
  simpa using (List.mem_filter.1 h).2

@[simp] theorem squeeze_squeeze (cs : List Char) : squeeze (squeeze cs) = squeeze cs := by
  simp [squeeze, List.filter_filter]

@[simp] theorem squeeze_append (as bs : List Char) : squeeze (as ++ bs) = squeeze as ++ squeeze bs := by
  simp [squeeze]

/-- Text without blank characters is left as it is. -/
theorem squeeze_eq_self {cs : List Char} (h : ∀ c ∈ cs, isBlank c = false) : squeeze cs = cs :=
  List.filter_eq_self.2 fun c hc => by simp [h c hc]

end StructuralSeries.Text
