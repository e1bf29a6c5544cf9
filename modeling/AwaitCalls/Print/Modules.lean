import AwaitCalls.Print.Statements

/-!
# Layout of imports and exports
-/
namespace AwaitCalls.Print

open AwaitCalls.Syntax AwaitCalls.Text

/-- The module that names come from, with what the import asks of it. -/
def moduleSource (ps : Parts) : Write Unit := do
  Parts.print ps .source
  match Parts.get? ps .attributes with
  | some a =>
    optSpace
    text "with"
    optSpace
    a.print
  | none => pure ()

def importDecl (isTypeOnly : Bool) (phase : ImportPhase) (ps : Parts) (span : Span) : Write Unit := do
  text "import"
  if isTypeOnly then text " type"
  match phase with
  | .evaluation => pure ()
  | .source => text " source"
  | .defer => text " defer"
  let specifiers := Parts.all ps .specifier
  let isDefault (p : Part) : Bool := p.kind = .importDefault
  let isNamespace (p : Part) : Bool := p.kind = .importNamespace
  let default := specifiers.filter isDefault
  let spaces := specifiers.filter isNamespace
  let named := specifiers.filter fun p => !isDefault p && !isNamespace p
  if !default.isEmpty then space else optSpace
  default.forM Part.print
  if !default.isEmpty && !(spaces.isEmpty && named.isEmpty) then
    text ","
    optSpace
  spaces.forM Part.print
  if !named.isEmpty then
    text "\x7b"
    list ListFormat.moduleNames span named
    text "\x7d"
    optSpace
    text "from"
    optSpace
  else if !specifiers.isEmpty then
    text " from"
    optSpace
  moduleSource ps
  text ";"

def importNamespace (ps : Parts) : Write Unit := do
  text "*"
  optSpace
  word "as"
  Parts.print ps .local

/-- A name and the name it goes by. -/
def renamed (isTypeOnly : Bool) (from? : Option Part) (alias? : Option Part) : Write Unit := do
  if isTypeOnly then word "type"
  match from?, alias? with
  | some a, some b =>
    a.print
    text " as "
    b.print
  | some a, none => a.print
  | none, some b => b.print
  | none, none => pure ()

def exportNamed (isTypeOnly : Bool) (ps : Parts) (span : Span) : Write Unit := do
  text "export"
  if isTypeOnly then text " type"
  optSpace
  let specifiers := Parts.all ps .specifier
  let spaces := specifiers.filter fun p => p.kind = .exportNamespace
  let named := specifiers.filter fun p => p.kind ≠ .exportNamespace
  spaces.forM Part.print
  if !spaces.isEmpty && !named.isEmpty then
    text ","
    optSpace
  let hasBraces := spaces.isEmpty || !named.isEmpty
  if hasBraces then
    text "\x7b"
    list ListFormat.moduleNames span named
    text "\x7d"
  if Parts.has ps .source then
    if hasBraces then optSpace else space
    text "from"
    optSpace
    moduleSource ps
  text ";"

def exportNamespace (ps : Parts) : Write Unit := do
  text "*"
  optSpace
  word "as"
  Parts.print ps .exported

def exportAll (isTypeOnly : Bool) (ps : Parts) : Write Unit := do
  text "export"
  if isTypeOnly then text " type " else optSpace
  text "*"
  optSpace
  text "from"
  optSpace
  moduleSource ps
  text ";"

/-- An exported declaration. Decorators of a class stand before the word. -/
def exportDecl (ps : Parts) : Write Unit := do
  match Parts.get? ps .decl with
  | none => pure ()
  | some d =>
    match d.kind with
    | .classDecl isDeclare =>
      match Parts.get? d.parts .klass with
      | some k => decorators k.parts
      | none => pure ()
      word "export"
      leading d.span.lo
      if isDeclare then word "declare"
      klass true d.parts
    | _ =>
      word "export"
      declaration d

def exportDefaultDecl (ps : Parts) : Write Unit := do
  text "export default "
  Parts.print ps .decl

def exportDefaultExpr (ps : Parts) : Write Unit := do
  text "export default"
  spaceBefore (Parts.get? ps .expr)
  Parts.print ps .expr
  text ";"

def importEquals (isExport isTypeOnly : Bool) (ps : Parts) : Write Unit := do
  if isExport then word "export"
  word "import"
  if isTypeOnly then word "type"
  Parts.print ps .ident
  optSpace
  text "="
  optSpace
  Parts.print ps .value
  text ";"

def externalReference (ps : Parts) : Write Unit := do
  text "require"
  inParens (Parts.print ps .source)

/-- `export =`, which takes no semicolon. -/
def exportAssignment (p : Write Unit) : Write Unit := do
  text "export"
  optSpace
  text "="
  optSpace
  p

end AwaitCalls.Print
