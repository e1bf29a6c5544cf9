import AwaitCalls.Text.Blank
import AwaitCalls.Transform

/-!
# Programs that name their patterns

The first line of a fixture is a comment that lists the paths of its async functions. The ending of its
file name decides the dialect.
-/
namespace AwaitCalls.Fixture

open AwaitCalls.Text

/-- What the first line starts with. -/
def header : List Char := "// paths:".toList

inductive Error
  | noHeader
  | transform (e : TransformError)

/-- The messages of an error with a colon between an error and its cause. -/
def Error.message : Error → String
  | noHeader => "fixture must start with `" ++ String.ofList header ++ " a.b c`"
  | transform e => ": ".intercalate e.chain

/-- What follows a text at the start of another. -/
def stripStart : List Char → List Char → Option (List Char)
  | [], cs => some cs
  | _ :: _, [] => none
  | p :: ps, c :: cs => if p = c then stripStart ps cs else none

/-- The paths that the first line lists. -/
def paths (source : String) : Except Error PatternSet :=
  match stripStart header (trimBlanks (firstLine source.toList)) with
  | none => .error .noHeader
  | some list => .ok (PatternSet.ofList ((blankSeparated list).map String.ofList))

/-- The dialect of a file. -/
def dialect (filename : String) : Dialect :=
  let ends (s : String) : Bool := filename.endsWith s
  ⟨ends ".ts" || ends ".tsx", ends ".jsx" || ends ".tsx", false⟩

/-- Await the calls of a fixture. -/
def run (source filename : String) : Except Error String := do
  let patterns ← paths source
  match transform { dialect := dialect filename } source patterns with
  | .ok t => return t.code
  | .error e => throw (.transform e)

end AwaitCalls.Fixture
