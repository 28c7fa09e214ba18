import StructuralSeries.Fault
import StructuralSeries.Text.Blank
import StructuralSeries.Value

/-!
# The components of a model

A model string names one type for each of four components, with slashes between them:
`trend/cycle/seasonal/irregular`. The cycle may be left out; the shorthand `trend/seasonal/irregular` has the
cycle `none`. Blanks mean nothing anywhere in the string.

## Shape

* `Components` — the four tokens, and `Components.text`, which puts the slashes back
* `Components.Parsed` — components with the way they were written
* `Components.read?` — accepts three or four tokens, none of them empty
-/

namespace StructuralSeries

/-- The type of one component, as characters. -/
abbrev Token := List Char

namespace Token

/-- Asks for the type to be identified. -/
def wildcard : Char := '?'

/-- A component that is switched off. -/
def off : Token := ['n', 'o', 'n', 'e']

/-- Stands between the tokens of a model string. -/
def separator : Char := '/'

/-- Whether a token leaves something to be identified. -/
def isOpen (t : Token) : Bool := t.contains wildcard

end Token

/-- One type for each component. -/
structure Components where
  trend : Token
  cycle : Token
  seasonal : Token
  irregular : Token
  deriving DecidableEq

namespace Components

/-- The tokens in the order of a model string. -/
def tokens (c : Components) : List Token := [c.trend, c.cycle, c.seasonal, c.irregular]

/-- The tokens with slashes between them. -/
def chars (c : Components) : List Char := List.intercalate [Token.separator] c.tokens

/-- The model string of the components. -/
def text (c : Components) : String := String.ofList c.chars

/-- Whether some component is left to be identified. -/
def isOpen (c : Components) : Bool := c.tokens.any Token.isOpen

/-- The components with a function applied to every token. -/
def map (f : Token → Token) (c : Components) : Components :=
  ⟨f c.trend, f c.cycle, f c.seasonal, f c.irregular⟩

@[simp] theorem tokens_map (f : Token → Token) (c : Components) : (c.map f).tokens = c.tokens.map f := rfl

/-! ## Reading -/

/-- Components and whether the cycle was left out. -/
structure Parsed where
  components : Components
  shorthand : Bool
  deriving DecidableEq

/-- The pieces between slashes, without blanks. -/
def pieces (cs : List Char) : List Token := (cs.splitOn Token.separator).map Text.squeeze

/-- The components that pieces name; nothing unless there are three or four and none is empty. -/
def ofPieces? (ps : List Token) : Option Parsed :=
  if ps.all fun p => !p.isEmpty then
    match ps with
    | [t, s, i] => some ⟨⟨t, Token.off, s, i⟩, true⟩
    | [t, c, s, i] => some ⟨⟨t, c, s, i⟩, false⟩
    | _ => none
  else none

/-- The components that characters name. -/
def read? (cs : List Char) : Option Parsed := ofPieces? (pieces cs)

/-- The components that a model string names. -/
def parse (model : String) : Except Fault Parsed :=
  match read? model.toList with
  | some p => .ok p
  | none => .error (.refused (.modelLayout model))

/-- The components that a value names; only text does. -/
def ofValue (v : Value) : Except Fault Parsed :=
  match v.text? with
  | some model => parse model
  | none => .error (.refused .modelNotText)

theorem not_isBlank_of_mem_pieces {cs : List Char} {p : Token} (hp : p ∈ pieces cs) {c : Char}
    (hc : c ∈ p) : Text.isBlank c = false := by
  obtain ⟨q, _, rfl⟩ := List.mem_map.1 hp
  exact Text.not_isBlank_of_mem_squeeze hc

end Components

end StructuralSeries
