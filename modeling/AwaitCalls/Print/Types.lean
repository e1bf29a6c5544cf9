import AwaitCalls.Print.Statements

/-!
# Layout of types and of declarations of types
-/
namespace AwaitCalls.Print

open AwaitCalls.Syntax AwaitCalls.Text

/-- A part after a mark with an optional space behind it, if it is there. -/
def after (mark : String) (ps : Parts) (slot : Slot) : Write Unit := do
  match Parts.get? ps slot with
  | some p =>
    text mark
    optSpace
    p.print
  | none => pure ()

def angled (ps : Parts) (span : Span) : Write Unit := do
  text "<"
  list ListFormat.commas span (Parts.all ps .element)
  text ">"

def typeParam (name : String) (isIn isOut isConst : Bool) (ps : Parts) : Write Unit := do
  if isConst then word "const"
  if isIn then word "in"
  if isOut then word "out"
  text name
  match Parts.get? ps .constraint with
  | some c =>
    text " extends "
    c.print
  | none => pure ()
  match Parts.get? ps .defaultType with
  | some d =>
    optSpace
    text "="
    optSpace
    d.print
  | none => pure ()

/-! ## Types -/

def functionType (ps : Parts) (span : Span) : Write Unit := do
  Parts.print ps .typeParams
  inParens (commaList ps .formal span)
  optSpace
  text "=>"
  optSpace
  Parts.print ps .returnType

def constructorType (isAbstract : Bool) (ps : Parts) (span : Span) : Write Unit := do
  if isAbstract then word "abstract"
  text "new"
  if Parts.has ps .typeParams then space
  functionType ps span

def typeReference (ps : Parts) : Write Unit := do
  Parts.print ps .ident
  Parts.print ps .typeArgs

def qualified (ps : Parts) : Write Unit := do
  Parts.print ps .left
  text "."
  Parts.print ps .right

def typeQuery (ps : Parts) : Write Unit := do
  word "typeof"
  Parts.print ps .ident
  Parts.print ps .typeArgs

def typeImport (ps : Parts) : Write Unit := do
  text "import"
  inParens do
    Parts.print ps .arg
    match Parts.get? ps .attributes with
    | some a =>
      text ","
      optSpace
      a.print
    | none => pure ()
  match Parts.get? ps .qualifier with
  | some q =>
    text "."
    q.print
  | none => pure ()
  Parts.print ps .typeArgs

/-- A member of an object type. An index signature has no semicolon of its own, because in a class it
takes none. -/
def typeMember (p : Part) : Write Unit := do
  p.print
  match p.kind with
  | .indexSignature _ => text ";"
  | _ => pure ()

def typeMembers (ps : Parts) (span : Span) : Write Unit := do
  text "\x7b"
  listOf ListFormat.lines span (Parts.all ps .member) typeMember
  text "\x7d"

def typeArray (ps : Parts) : Write Unit := do
  Parts.print ps .typeAnn
  text "[]"

def typeTuple (ps : Parts) (span : Span) : Write Unit := do
  text "["
  list ListFormat.commas span (Parts.all ps .element)
  text "]"

def tupleElement (ps : Parts) : Write Unit := do
  match Parts.get? ps .label with
  | some l =>
    l.print
    text ":"
    optSpace
  | none => pure ()
  Parts.print ps .typeAnn

def joinedTypes (op : String) (ps : Parts) (span : Span) : Write Unit :=
  list (ListFormat.joined op) span (Parts.all ps .element)

def conditionalType (ps : Parts) : Write Unit := do
  Parts.print ps .checkType
  text " extends "
  Parts.print ps .extendsType
  text " ? "
  Parts.print ps .trueType
  text " : "
  Parts.print ps .falseType

def indexedType (ps : Parts) : Write Unit := do
  Parts.print ps .object
  text "["
  Parts.print ps .indexType
  text "]"

/-- A modifier of a mapped type with its sign. -/
def mappedMark (m : MappedModifier) (mark : String) : Write Unit :=
  match m with
  | .absent => pure ()
  | .present => text mark
  | .plus => text ("+" ++ mark)
  | .minus => text ("-" ++ mark)

/-- A mapped type, which takes three lines also in minified text. -/
def mappedType (readonlyMod optionalMod : MappedModifier) (ps : Parts) : Write Unit := do
  text "\x7b"
  lineBreak
  indented do
    mappedMark readonlyMod "readonly "
    text "["
    match Parts.get? ps .param with
    | some p =>
      match p.kind with
      | .typeParam name _ _ _ => text name
      | _ => pure ()
      text " in "
      Parts.print p.parts .constraint
    | none => pure ()
    match Parts.get? ps .nameType with
    | some n =>
      text " as "
      n.print
    | none => pure ()
    text "]"
    mappedMark optionalMod "?"
    match Parts.get? ps .typeAnn with
    | some t =>
      text ": "
      t.print
    | none => pure ()
    text ";"
    lineBreak
  text "\x7d"

def typePredicate (isAsserts : Bool) (ps : Parts) : Write Unit := do
  if isAsserts then word "asserts"
  Parts.print ps .ident
  match Parts.get? ps .typeAnn with
  | some t =>
    text " is "
    t.print
  | none => pure ()

/-! ## Members of types -/

/-- The key of a member, in brackets if it is computed. -/
def memberKey (isComputed : Bool) (ps : Parts) : Write Unit := do
  if isComputed then
    text "["
    Parts.print ps .key
    text "]"
  else Parts.print ps .key

def propertySignature (isReadonly isComputed isOptional : Bool) (ps : Parts) : Write Unit := do
  if isReadonly then word "readonly"
  memberKey isComputed ps
  if isOptional then text "?"
  after ":" ps .typeAnn
  text ";"

def methodSignature (isComputed isOptional : Bool) (ps : Parts) (span : Span) : Write Unit := do
  memberKey isComputed ps
  if isOptional then text "?"
  Parts.print ps .typeParams
  inParens (commaList ps .formal span)
  after ":" ps .returnType
  text ";"

def getterSignature (isComputed : Bool) (ps : Parts) : Write Unit := do
  word "get"
  memberKey isComputed ps
  text "()"
  after ":" ps .typeAnn
  text ";"

def setterSignature (isComputed : Bool) (ps : Parts) : Write Unit := do
  word "set"
  memberKey isComputed ps
  inParens (Parts.print ps .formal)
  text ";"

def callSignature (ps : Parts) (span : Span) : Write Unit := do
  Parts.print ps .typeParams
  inParens (commaList ps .formal span)
  match Parts.get? ps .returnType with
  | some t =>
    text " : "
    t.print
  | none => pure ()
  text ";"

def constructSignature (ps : Parts) (span : Span) : Write Unit := do
  text "new"
  if Parts.has ps .typeParams then space
  Parts.print ps .typeParams
  inParens (commaList ps .formal span)
  match Parts.get? ps .returnType with
  | some t =>
    text ": "
    t.print
  | none => pure ()
  text ";"

def indexSignature (mods : Modifiers) (ps : Parts) (span : Span) : Write Unit := do
  if mods.isStatic then word "static"
  if mods.isReadonly then
    text "readonly"
    optSpace
  text "["
  list ListFormat.commas span (Parts.all ps .formal)
  text "]"
  after ":" ps .typeAnn

/-! ## Expressions with types -/

def asserted (keyword : String) (ps : Parts) : Write Unit := do
  Parts.print ps .expr
  space
  word keyword
  Parts.print ps .typeAnn

def typeAssertion (ps : Parts) : Write Unit := do
  text "<"
  Parts.print ps .typeAnn
  text ">"
  Parts.print ps .expr

def constAssertion (ps : Parts) : Write Unit := do
  Parts.print ps .expr
  text " as const"

def nonNull (ps : Parts) : Write Unit := do
  Parts.print ps .nonNullOperand
  text "!"

def instantiation (ps : Parts) : Write Unit := do
  Parts.print ps .instantiated
  Parts.print ps .typeArgs

/-! ## Declarations -/

def interface (isDeclare : Bool) (ps : Parts) (span : Span) : Write Unit := do
  if isDeclare then word "declare"
  word "interface"
  Parts.print ps .ident
  Parts.print ps .typeParams
  let bases := Parts.all ps .heritage
  if !bases.isEmpty then
    text " extends "
    list ListFormat.commas span bases
  optSpace
  typeMembers ps span

def heritage (ps : Parts) : Write Unit := do
  Parts.print ps .expr
  Parts.print ps .typeArgs

def typeAlias (isDeclare : Bool) (ps : Parts) : Write Unit := do
  if isDeclare then word "declare"
  word "type"
  Parts.print ps .ident
  Parts.print ps .typeParams
  optSpace
  text "="
  optSpace
  Parts.print ps .typeAnn
  text ";"

def enumeration (isDeclare isConst : Bool) (ps : Parts) (span : Span) : Write Unit := do
  if isDeclare then word "declare"
  if isConst then word "const"
  word "enum"
  Parts.print ps .ident
  optSpace
  text "\x7b"
  list ListFormat.commaLines span (Parts.all ps .member)
  text "\x7d"

def enumMember (ps : Parts) : Write Unit := do
  if Parts.has ps .init then withDefault (Parts.print ps .ident) (Parts.print ps .init)
  else Parts.print ps .ident

/-- The statements of a namespace in braces. A statement ends its line by itself. -/
def moduleBlock (ps : Parts) (span : Span) : Write Unit := do
  text "\x7b"
  indented do
    listOf { isMultiLine := true, siblingSpace := false, endsLine := false } span
      (Parts.all ps .body) statement
  text "\x7d"

/-- The dotted rest of the name of a namespace, and its body. -/
def namespaceTail (fuel : Nat) (ps : Parts) : Write Unit := do
  match fuel, Parts.get? ps .body with
  | fuel + 1, some b =>
    match b.kind with
    | .namespaceDecl _ _ =>
      text "."
      Parts.print b.parts .ident
      namespaceTail fuel b.parts
    | _ =>
      optSpace
      b.print
  | _, _ => pure ()

def namespaceDecl (isDeclare : Bool) (keyword : NamespaceKeyword) (ps : Parts) : Write Unit := do
  if isDeclare then word "declare"
  let isQuoted :=
    match (Parts.get? ps .ident).map Part.kind with
    | some (.str _ _) => true
    | _ => false
  if keyword ≠ .globalWord then word (if isQuoted then "module" else "namespace")
  Parts.print ps .ident
  match Parts.get? ps .body with
  | some b => namespaceTail (b.node.height + 1) ps
  | none => pure ()

end AwaitCalls.Print
