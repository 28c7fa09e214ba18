/-!
# The environment

What a report of a problem should say about the machine it happened on: the system, and the versions of the
packages that are installed.
-/

namespace StructuralSeries

/-- What is known of a machine. -/
structure Environment where
  /-- The version of the language that the packages run on. -/
  language : String
  machine : String
  /-- The installed packages and their versions. -/
  packages : List (String × String)

namespace Environment

/-- The version of a package. -/
def version (e : Environment) (package : String) : String :=
  (e.packages.lookup package).getD "not installed"

/-- A package and its version. -/
def packageLine (e : Environment) (package : String) : String := s!"  {package}: {e.version package}"

/-- The environment in sections, each after an empty line. -/
def sections (e : Environment) : List (String × List String) :=
  [("System:", ["  python: " ++ e.language, "  machine: " ++ e.machine]),
   ("UComp:", [e.packageLine "ucomp"]),
   ("Dependencies:", ["numpy", "pandas"].map e.packageLine)]

/-- The text of the sections as lines. An entry with line breaks in it takes several. -/
def lines (e : Environment) : List String :=
  let entries := e.sections.flatMap fun s => "" :: s.1 :: s.2
  entries.flatMap fun t => (t.toList.splitOn '\n').map String.ofList

end Environment

end StructuralSeries
