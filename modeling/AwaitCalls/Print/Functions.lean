import AwaitCalls.Print.Expressions

/-!
# Layout of functions and classes
-/
namespace AwaitCalls.Print

open AwaitCalls.Syntax AwaitCalls.Text

/-! ## Functions -/

def decorators (ps : Parts) : Write Unit := Parts.printAll ps .decorator

/-- A decorator ends its line, also in minified text. -/
def decorator (ps : Parts) : Write Unit := do
  text "@"
  Parts.print ps .decoratorExpr
  lineBreak

/-- Decorators of a parameter or of a hidden field, which start on a line of their own. -/
def paramDecorators (ps : Parts) (span : Span) : Write Unit :=
  list { isMultiLine := true, siblingSpace := false, isOptional := true } span
    (Parts.all ps .decorator)

def param (ps : Parts) (span : Span) : Write Unit := do
  paramDecorators ps span
  Parts.print ps .value

def access (mods : Modifiers) : Write Unit :=
  match mods.access with
  | some a => word a.text
  | none => pure ()

/-- A parameter that declares a property. -/
def paramProperty (mods : Modifiers) (ps : Parts) (span : Span) : Write Unit := do
  paramDecorators ps span
  access mods
  if mods.isOverride then word "override"
  if mods.isReadonly then word "readonly"
  Parts.print ps .formal

/-- A return type with its colon. -/
def returnType (ps : Parts) : Write Unit := do
  match Parts.get? ps .returnType with
  | some t =>
    text ":"
    optSpace
    t.print
  | none => pure ()

/-- A function from its parameters on. Without a body it is a declaration. -/
def functionTail (ps : Parts) (span : Span) : Write Unit := do
  Parts.print ps .typeParams
  inParens (commaList ps .param span)
  returnType ps
  match Parts.get? ps .body with
  | some b =>
    optSpace
    b.print
  | none => text ";"

/-- Is the function part asynchronous, and is it a generator? -/
def functionFlags (ps : Parts) : Bool × Bool :=
  match (Parts.get? ps .function).map Part.kind with
  | some (.function isAsync isGenerator) => (isAsync, isGenerator)
  | _ => (false, false)

/-- A function with its name, if it has one. `gap` stands between the star of a generator and its
name. -/
def namedFunction (gap : Write Unit) (ps : Parts) : Write Unit := do
  let (isAsync, isGenerator) := functionFlags ps
  if isAsync then word "async"
  text "function"
  if isGenerator then text "*"
  match Parts.get? ps .ident with
  | some id =>
    if isGenerator then gap else space
    id.print
  | none => pure ()
  Parts.print ps .function

/-- Parameters of an arrow function. A single name needs no parentheses in minified text. -/
def arrow (isAsync : Bool) (ps : Parts) (span : Span) : Write Unit := do
  let params := Parts.all ps .param
  let isBare :=
    match params.map Part.kind with
    | [.binding _ _] => true
    | _ => false
  let hasComment ← hasTrailing (params.map fun p => p.span.hi)
  let minify ← isMinified
  if isAsync then
    text "async"
    if isBare then space else optSpace
  Parts.print ps .typeParams
  if minify && isBare && !hasComment then list ListFormat.commas span params
  else inParens (list ListFormat.commas span params)
  match Parts.get? ps .returnType with
  | some t =>
    text ":"
    optSpace
    t.print
    optSpace
  | none => pure ()
  text "=>"
  match Parts.get? ps .body with
  | some b => if b.kind = .block then b.print else indented b.print
  | none => pure ()

/-! ## Methods of objects -/

def methodProperty (ps : Parts) : Write Unit := do
  let (isAsync, isGenerator) := functionFlags ps
  if isAsync then word "async"
  if isGenerator then text "*"
  Parts.print ps .key
  optSpace
  Parts.print ps .function

/-- Is the key a private name? -/
def isPrivateKey (ps : Parts) : Bool :=
  (Parts.get? ps .key).any fun k =>
    match k.kind with
    | .privateName _ => true
    | _ => false

def accessorKey (keyword : String) (ps : Parts) : Write Unit := do
  text keyword
  if isPrivateKey ps then space else spaceBefore (Parts.get? ps .key)
  Parts.print ps .key

def getter (ps : Parts) : Write Unit := do
  accessorKey "get" ps
  optSpace
  text "()"
  match Parts.get? ps .typeAnn with
  | some t =>
    text ":"
    optSpace
    t.print
  | none => pure ()
  optSpace
  Parts.print ps .body

def setter (ps : Parts) : Write Unit := do
  accessorKey "set" ps
  optSpace
  text "("
  match Parts.get? ps .thisParam with
  | some p =>
    p.print
    text ","
    optSpace
  | none => pure ()
  Parts.print ps .param
  text ")"
  Parts.print ps .body

/-! ## Classes -/

/-- The head of a class up to its members. -/
def classTail (ps : Parts) (span : Span) : Write Unit := do
  match Parts.get? ps .superclass with
  | some s =>
    space
    text "extends"
    spaceBefore (some s)
    s.print
    Parts.print ps .superTypeArgs
  | none => pure ()
  let interfaces := Parts.all ps .heritage
  if !interfaces.isEmpty then
    text " implements "
    list ListFormat.commas span interfaces
  optSpace
  text "\x7b"
  list ListFormat.lines span (Parts.all ps .member)
  text "\x7d"

/-- A class. `hasDecorators` says that its decorators are printed already. A class without a name does
not show its type parameters. -/
def klass (hasDecorators : Bool) (ps : Parts) : Write Unit := do
  match Parts.get? ps .klass with
  | none => pure ()
  | some k =>
    if !hasDecorators then decorators k.parts
    if k.kind = .classBody true then word "abstract"
    text "class"
    match Parts.get? ps .ident with
    | some id =>
      space
      id.print
      Parts.print k.parts .typeParams
    | none => pure ()
    classTail k.parts k.span

/-- Does the key begin with a letter or digit? -/
def keyStartsWithWord (ps : Parts) : Bool := (Parts.get? ps .key).any fun k => startsWithWord k.node

/-- A method of a class. The comments before its key come first. A private method does not show its
decorators. -/
def method (kind : MethodKind) (mods : Modifiers) (ps : Parts) : Write Unit := do
  let (isAsync, isGenerator) := functionFlags ps
  let fn := ((Parts.get? ps .function).map Part.parts).getD []
  let span := ((Parts.get? ps .function).map Part.span).getD ⟨0, 0⟩
  if !isPrivateKey ps then
    match Parts.get? ps .key with
    | some k => leading k.span.lo
    | none => pure ()
    decorators fn
  access mods
  if mods.isStatic then
    text "static"
    if isPrivateKey ps || isAsync || kind ≠ .method || (!isGenerator && keyStartsWithWord ps) then space
    else optSpace
  if mods.isAbstract then word "abstract"
  if mods.isOverride then word "override"
  match kind with
  | .method =>
    if isAsync then word "async"
    if isGenerator then text "*"
    Parts.print ps .key
  | .getter => accessorKey "get" ps
  | .setter => accessorKey "set" ps
  if mods.isOptional then text "?"
  functionTail fn span

/-- A field of a class. -/
def field (isAccessor : Bool) (mods : Modifiers) (ps : Parts) (span : Span) : Write Unit := do
  if isAccessor || isPrivateKey ps then paramDecorators ps span else decorators ps
  if mods.isDeclare then word "declare"
  access mods
  if mods.isStatic then word "static"
  if mods.isAbstract then word "abstract"
  if mods.isOverride then word "override"
  if mods.isReadonly then word "readonly"
  if isAccessor then word "accessor"
  Parts.print ps .key
  if mods.isOptional then text "?"
  match Parts.get? ps .typeAnn with
  | some t =>
    if mods.isDefinite then text "!"
    text ": "
    t.print
  | none => pure ()
  match Parts.get? ps .value with
  | some v =>
    optSpace
    text "="
    optSpace
    v.print
  | none => pure ()
  text ";"

def constructor (mods : Modifiers) (ps : Parts) (span : Span) : Write Unit := do
  access mods
  text "constructor"
  inParens (commaList ps .param span)
  match Parts.get? ps .body with
  | some b => b.print
  | none => text ";"

end AwaitCalls.Print
