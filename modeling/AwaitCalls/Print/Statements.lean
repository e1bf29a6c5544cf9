import AwaitCalls.Print.Functions

/-!
# Layout of statements

A statement ends its line, except a block. A block that is the body of something else is not a
statement by itself.
-/
namespace AwaitCalls.Print

open AwaitCalls.Syntax AwaitCalls.Text

/-- A declaration. A list of variables gets its semicolon here, since in the head of a loop it has
none. -/
def declaration (p : Part) : Write Unit := do
  p.print
  match p.kind with
  | .varDecl _ _ | .usingDecl _ => text ";"
  | _ => pure ()

/-- A statement with the comments after it and the end of its line. -/
def statement (p : Part) : Write Unit := do
  declaration p
  if p.kind ≠ .block then
    trailing p.span.hi
    optLineBreak

def statementIn (ps : Parts) (slot : Slot) : Write Unit :=
  match Parts.get? ps slot with
  | some p => statement p
  | none => pure ()

/-- Statements in braces. Comments before the closing brace stand at its indentation. -/
def block (ps : Parts) (span : Span) : Write Unit := do
  text "\x7b"
  let body := Parts.all ps .body
  if !body.isEmpty || (← hasLeading (span.hi - 1)) then listOf ListFormat.lines span body statement
  leading (span.hi - 1)
  text "\x7d"

/-- An expression as a statement. Comments after it wait until after the semicolon. -/
def expressionStatement (ps : Parts) (span : Span) : Write Unit :=
  holdingTrailing span.hi do
    Parts.print ps .expr
    text ";"

/-! ## Variables -/

def variableList (kind : VarKind) (isDeclare : Bool) (ps : Parts) (span : Span) : Write Unit := do
  if isDeclare then word "declare"
  text kind.text
  let declarators := Parts.all ps .declarator
  let startsWithName :=
    match (declarators.head?.bind fun d => Parts.get? d.parts .ident).map Part.kind with
    | some (.arrayPat _) | some (.objectPat _) => false
    | _ => true
  if startsWithName then space else optSpace
  list ListFormat.commas span declarators

def usingVariables (isAwait : Bool) (ps : Parts) (span : Span) : Write Unit := do
  if isAwait then word "await"
  word "using"
  list ListFormat.commas span (Parts.all ps .declarator)

def declarator (ps : Parts) : Write Unit := do
  if Parts.has ps .init then withDefault (Parts.print ps .ident) (Parts.print ps .init)
  else Parts.print ps .ident

/-! ## Branches -/

def ifStatement (ps : Parts) : Write Unit := do
  text "if"
  optSpace
  inParens (Parts.print ps .test)
  optSpace
  statementIn ps .consequent
  match Parts.get? ps .alternate with
  | none => pure ()
  | some alt =>
    if (Parts.get? ps .consequent).any fun c => c.kind = .block then optSpace
    text "else"
    if statementStartsWithWord alt.node then space else optSpace
    statement alt

def switchStatement (ps : Parts) (span : Span) : Write Unit := do
  text "switch"
  inParens (Parts.print ps .discriminant)
  text "\x7b"
  list ListFormat.lines span (Parts.all ps .case)
  text "\x7d"

def switchCase (ps : Parts) (span : Span) : Write Unit := do
  match Parts.get? ps .test with
  | some t =>
    text "case"
    spaceBefore (some t)
    t.print
  | none => text "default"
  text ":"
  listOf ListFormat.caseLines span (Parts.all ps .body) statement

def tryStatement (ps : Parts) : Write Unit := do
  text "try"
  optSpace
  Parts.print ps .block
  match Parts.get? ps .handler with
  | some h =>
    optSpace
    h.print
  | none => pure ()
  match Parts.get? ps .finalizer with
  | some f =>
    optSpace
    text "finally"
    f.print
  | none => pure ()

def catchClause (ps : Parts) : Write Unit := do
  text "catch"
  optSpace
  match Parts.get? ps .param with
  | some p => inParens p.print
  | none => pure ()
  optSpace
  Parts.print ps .body

/-! ## Loops -/

def whileLoop (ps : Parts) : Write Unit := do
  text "while"
  inParens (Parts.print ps .test)
  statementIn ps .body

def doLoop (ps : Parts) : Write Unit := do
  text "do"
  if (Parts.get? ps .body).any fun b => statementStartsWithWord b.node then space else optSpace
  statementIn ps .body
  text "while"
  optSpace
  inParens (Parts.print ps .test)

def forLoop (ps : Parts) : Write Unit := do
  text "for"
  let part (slot : Slot) : Write Unit := do
    match Parts.get? ps slot with
    | some p =>
      optSpace
      p.print
    | none => pure ()
  inParens do
    Parts.print ps .init
    text ";"
    part .test
    text ";"
    part .update
  statementIn ps .body

/-- The head of a loop over the elements of something. -/
def forEach (keyword : String) (ps : Parts) : Write Unit := do
  inParens do
    Parts.print ps .left
    if (Parts.get? ps .left).any fun l => endsWithWord l.node then space else optSpace
    text keyword
    spaceBefore (Parts.get? ps .right)
    Parts.print ps .right
  statementIn ps .body

def forIn (ps : Parts) : Write Unit := do
  text "for"
  forEach "in" ps

def forOf (isAwait : Bool) (ps : Parts) : Write Unit := do
  text "for"
  if isAwait then text " await"
  optSpace
  forEach "of" ps

/-! ## Jumps -/

/-- A jump with its label. -/
def jump (keyword : String) (ps : Parts) : Write Unit := do
  text keyword
  match Parts.get? ps .label with
  | some l =>
    space
    l.print
  | none => pure ()
  text ";"

/-- A jump with its value. -/
def jumpWith (keyword : String) (ps : Parts) : Write Unit := do
  text keyword
  match Parts.get? ps .expr with
  | some e =>
    spaceBefore (some e)
    e.print
  | none => pure ()
  text ";"

def labeled (ps : Parts) : Write Unit := do
  Parts.print ps .label
  text ":"
  optSpace
  statementIn ps .body

def withStatement (ps : Parts) : Write Unit := do
  text "with"
  optSpace
  inParens (Parts.print ps .object)
  statementIn ps .body

end AwaitCalls.Print
