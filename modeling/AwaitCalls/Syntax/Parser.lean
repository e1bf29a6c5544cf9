import AwaitCalls.Decimal.Binary64
import AwaitCalls.Syntax.Grammar.Markup
import AwaitCalls.Syntax.Grammar.Modules

/-!
# Reading a program

`grammar` closes the rules of the grammar over each other; it recurses on the depth to which parts
may still nest. `parseProgram` reads a whole text. A text of `n` characters nests at most `n` deep and
each level of nesting passes a fixed number of rules, so the depth it starts with never runs out.
-/
namespace AwaitCalls.Syntax

open AwaitCalls.Text

/-- The rules of the grammar for parts that nest at most `depth` rules deep. -/
def grammar : (depth : Nat) → Grammar
  | 0 => default
  | depth + 1 =>
    { expr := fun c s => Grammar.exprRule (grammar depth) c s
      assign := fun c s => Grammar.assignRule (grammar depth) c s
      unary := fun c s => Grammar.unaryRule (grammar depth) c s
      binaryRest := fun e p c s => Grammar.binaryRestRule (grammar depth) e p c s
      lhs := fun c s => Grammar.lhsRule (grammar depth) c s
      memberOrNew := fun b c s => Grammar.memberOrNewRule (grammar depth) b c s
      subscripts := fun e a b c s => Grammar.subscriptsRule (grammar depth) e a b c s
      statement := fun b c s => Grammar.statementRule (grammar depth) b c s
      moduleItem := fun c s => Grammar.moduleItemRule (grammar depth) c s
      ifStatement := fun c s => Grammar.ifRule (grammar depth) c s
      block := fun b c s => Grammar.blockRule (grammar depth) b c s
      bindingPattern := fun b c s => Grammar.bindingPatternRule (grammar depth) b c s
      asPattern := fun r e c s => Grammar.asPatternRule (grammar depth) r e c s
      object := fun c s => Grammar.objectLiteral (grammar depth) c s
      params := fun c s => Grammar.formalParams (grammar depth) c s
      type := fun c s => Grammar.typeRule (grammar depth) c s
      typeOperator := fun c s => Grammar.typeOperatorRule (grammar depth) c s
      namespaceDecl := fun lo k c s => Grammar.namespaceRule (grammar depth) lo k c s
      jsxElement := fun c s => Grammar.jsxElementRule (grammar depth) c s }

/-- A depth that no part of a text exceeds. -/
def depthOf (s : Source) : Nat := 16 * s.size + 64

/-- A program with its text and the comments in it. -/
structure Parsed where
  source : Source
  program : Program
  comments : Comments
deriving Inhabited

/-- A syntax error and where it shows. -/
structure ParseError where
  fault : Fault
  place : Source.Place
deriving DecidableEq, Repr

def ParseError.message (e : ParseError) : String :=
  "Line " ++ Decimal.decimalText e.place.line ++ ": " ++ e.fault.message

/-- The line that names an interpreter, without its mark, and where the program starts. -/
def interpreterLine (s : Source) : Option String × Nat :=
  if s.startsAt 0 "#!" then
    let stop := s.skipWhile (fun c => !Source.isLineEnd c) 2
    (some (s.slice 2 stop), stop)
  else (none, 0)

/-- All items of a program. -/
def programItems (g : Grammar) : Parse (List Node) := do
  (← get).current.flaws.forM Parse.noteFlaw
  Grammar.items g.moduleItem true none

/-- Read the items of a program. A fault that ends the reading counts before those that were noted on
the way; of those the first counts. -/
def parseItems (s : Source) (dialect : Dialect) : Except SyntaxError (Program × Comments) :=
  let (interpreter, start) := interpreterLine s
  let first := s.lexAt start true
  let state : State :=
    { source := s
      current := first
      readTo := start
      moduleFaults := first.markupComments.reverse.map fun p => ⟨.legacyCommentInModule, p⟩
      comments := Parse.attach (interpreter.map fun _ => .punct "#!") start first {} }
  match programItems (grammar (depthOf s)) { dialect } state with
  | .error e _ => .error e
  | .ok body final =>
    let isModule := final.sawModuleItem || body.any Grammar.isModuleItem
    let faults := final.faults.reverse ++ (if isModule then final.moduleFaults.reverse else [])
    match faults with
    | e :: _ => .error e
    | [] =>
      let lo := if body.isEmpty && interpreter.isNone then first.lo else 0
      let span : Span := ⟨lo, if body.isEmpty then start else final.readTo⟩
      .ok (⟨isModule, interpreter, span, Children.ofList (Node.many .body body)⟩, final.comments)

/-- Read a program. -/
def parseProgram (text : String) (dialect : Dialect) : Except ParseError Parsed :=
  let source := Source.ofString text
  match parseItems source dialect with
  | .ok (program, comments) => .ok ⟨source, program, comments⟩
  | .error e => .error ⟨e.fault, source.place e.pos⟩

end AwaitCalls.Syntax
