import AwaitCalls.Print.Edge
import AwaitCalls.Print.Literal
import AwaitCalls.Print.Part

/-!
# Layout of expressions and patterns
-/
namespace AwaitCalls.Print

open AwaitCalls.Syntax AwaitCalls.Text

/-- A space that is needed before an expression that begins with a letter. -/
def spaceBefore (p : Option Part) : Write Unit :=
  if p.any fun p => startsWithWord p.node then space else optSpace

/-- Print between parentheses. -/
def inParens (p : Write Unit) : Write Unit := do
  text "("
  p
  text ")"

/-- A part in parentheses if it is a list of expressions. -/
def commaList (ps : Parts) (slot : Slot) (span : Span) : Write Unit :=
  list ListFormat.commas span (Parts.all ps slot)

/-! ## Literals and templates -/

def templateWith (minify isTagged : Bool) : Parts → Parts → Write Unit
  | [], _ => pure ()
  | q :: qs, es => do
    match q.kind with
    | .quasi raw => text (pieceText minify isTagged raw)
    | _ => pure ()
    match es with
    | [] => templateWith minify isTagged qs []
    | e :: es =>
      text "$\x7b"
      e.print
      text "\x7d"
      templateWith minify isTagged qs es

def template (ps : Parts) (isTagged : Bool) : Write Unit := do
  text "`"
  templateWith (← isMinified) isTagged (Parts.all ps .quasi) (Parts.all ps .expr)
  text "`"

/-! ## Properties and calls -/

/-- The arguments of a call. -/
def arguments (ps : Parts) (span : Span) : Write Unit := inParens (commaList ps .arg span)

/-- `new`; without arguments the parentheses can go, unless something follows that would take them. -/
def newWith (hasArgs keepEmpty : Bool) (ps : Parts) (span : Span) : Write Unit := do
  text "new"
  let callee := Parts.get? ps .newCallee
  spaceBefore callee
  Parts.print ps .newCallee
  Parts.print ps .typeArgs
  if hasArgs && !((← isMinified) && !Parts.has ps .arg && !keepEmpty) then arguments ps span

/-- An expression in front of a property or a call. -/
def beforeSubscript (p : Part) : Write Unit :=
  match p.kind with
  | .new hasArgs => do
    leading p.span.lo
    newWith hasArgs true p.parts p.span
    trailing p.span.hi
  | _ => p.print

/-- A template after its tag. -/
def taggedTemplate (ps : Parts) : Write Unit := do
  match Parts.get? ps .tag with
  | some t => beforeSubscript t
  | none => pure ()
  Parts.print ps .typeArgs
  match Parts.get? ps .template with
  | some t =>
    leading t.span.lo
    template t.parts true
  | none => pure ()

/-- A property in brackets, or after a dot with the comments right before it. -/
def dotted (ps : Parts) : Write Unit := do
  match Parts.get? ps .property with
  | some p =>
    match p.kind with
    | .computed => p.print
    | _ =>
      leading (p.span.lo - 1)
      text "."
      p.print
  | none => pure ()

/-- A property in brackets, or after a mark. -/
def property (ps : Parts) (mark : String) : Write Unit := do
  match Parts.get? ps .property with
  | some p =>
    match p.kind with
    | .computed => p.print
    | _ =>
      text mark
      p.print
  | none => pure ()

/-- A property of an object. A number needs a dot of its own if it has none. -/
def member (ps : Parts) : Write Unit := do
  match Parts.get? ps .memberObject with
  | some o =>
    match o.kind with
    | .num raw =>
      leading o.span.lo
      text (numberText (← isMinified) raw)
      match Parts.get? ps .property with
      | some p =>
        if p.kind ≠ .computed && needsSecondDot (← isMinified) raw then
          leading (p.span.lo - 2)
          text "."
      | none => pure ()
    | _ => beforeSubscript o
  | none => pure ()
  dotted ps

/-- A property or call in an optional chain. -/
def optionalChain (isOptional : Bool) (ps : Parts) : Write Unit := do
  match Parts.get? ps .expr with
  | none => pure ()
  | some base =>
    match base.kind with
    | .member =>
      match Parts.get? base.parts .memberObject with
      | some o => beforeSubscript o
      | none => pure ()
      if isOptional then text "?."
      property base.parts (if isOptional then "" else ".")
    | _ =>
      Parts.print base.parts .optCallee
      if isOptional then text "?."
      arguments base.parts base.span

def call (ps : Parts) (span : Span) : Write Unit := do
  match Parts.get? ps .callee with
  | some c => beforeSubscript c
  | none => pure ()
  Parts.print ps .typeArgs
  arguments ps span

/-! ## Operators -/

/-- Would the operator and the sign that follows it read as one? -/
def unaryNeedsSpace (op : UnaryOp) (operand : Node) : Bool :=
  if op.isWord then startsWithWord operand
  else
    match op, operand.kind with
    | .plus, .unary .plus | .plus, .update .increment true => true
    | .minus, .unary .minus | .minus, .update .decrement true => true
    | _, _ => false

def unary (op : UnaryOp) (ps : Parts) : Write Unit := do
  text op.text
  match Parts.get? ps .operand with
  | some p =>
    if unaryNeedsSpace op p.node then space else if op.isWord then optSpace
    p.print
  | none => pure ()

def update (op : UpdateOp) (isPrefix : Bool) (ps : Parts) : Write Unit := do
  if isPrefix then text op.text
  Parts.print ps .operand
  if !isPrefix then text op.text

/-- The first operand of nested binary expressions. -/
def firstOperand : Node → Node
  | .mk (.binary _) _ (.cons _ left _) => firstOperand left
  | n => n

/-- Is this the negation of a decrement? -/
def isNegatedDecrement : Node → Bool
  | .mk (.unary .not) _ (.cons _ (.mk (.update .decrement _) _ _) _) => true
  | _ => false

/-- Would the operator and the sign that starts the right operand read as one? A negated decrement
after `<` would read as the start of a comment. -/
def signNeedsSpace (op : BinaryOp) (right : Node) : Bool :=
  let first := firstOperand right
  match op, first.kind with
  | .add, .unary .plus | .add, .update .increment true => true
  | .sub, .unary .minus | .sub, .update .decrement true => true
  | .lt, _ | .shiftLeft, _ => isNegatedDecrement first
  | _, _ => false

/-- Would a decrement and the operator after it read as the end of a comment? -/
def markNeedsSpace (op : BinaryOp) (left : Node) : Bool :=
  match op, left.kind with
  | .gt, .update .decrement false | .gtEq, .update .decrement false
  | .shiftRight, .update .decrement false | .shiftRightZero, .update .decrement false => true
  | _, _ => false

def binary (op : BinaryOp) (ps : Parts) : Write Unit := do
  let minify ← isMinified
  match ps with
  | [left, right] =>
    left.print
    let before := !minify || (if op.isWord then endsWithWord left.node else markNeedsSpace op left.node)
    if before then space
    text op.text
    let commented ← hasLeading right.span.lo
    let after := !minify || (if op.isWord then startsWithWord right.node
      else if op = .div then commented else signNeedsSpace op right.node)
    if after then space
    right.print
  | _ => pure ()

def assign (op : AssignOp) (ps : Parts) : Write Unit := do
  Parts.print ps .target
  optSpace
  text op.text
  optSpace
  Parts.print ps .right

def conditional (ps : Parts) : Write Unit := do
  Parts.print ps .test
  optSpace
  text "?"
  optSpace
  Parts.print ps .consequent
  optSpace
  text ":"
  optSpace
  Parts.print ps .alternate

def awaitExpr (ps : Parts) : Write Unit := do
  word "await"
  Parts.print ps .operand

/-- `yield`. Comments that end the line must not cut its operand off. -/
def yieldExpr (isDelegate : Bool) (ps : Parts) : Write Unit := do
  text "yield"
  if isDelegate then text "*"
  match Parts.get? ps .operand with
  | some p =>
    if ← leadingEndsLine p.span.lo then inParens p.print
    else
      if !isDelegate && startsWithWord p.node then space else optSpace
      p.print
  | none => pure ()

/-! ## Collections -/

def array (ps : Parts) (span : Span) : Write Unit := do
  let elements := Parts.all ps .element
  text "["
  match elements.getLast? with
  | none => pure ()
  | some last =>
    list { ListFormat.arrayElements with closingDelimiter := decide (last.kind = .hole) } span elements
  text "]"

def object (ps : Parts) (span : Span) : Write Unit := do
  text "\x7b"
  let properties := Parts.all ps .property
  if !properties.isEmpty || (← hasLeading (span.hi - 1)) then
    list { ListFormat.arrayElements with isMultiLine := !(← isMinified) } span properties
  leading (span.hi - 1)
  text "\x7d"

def keyValue (ps : Parts) : Write Unit := do
  Parts.print ps .key
  text ":"
  optSpace
  Parts.print ps .value

/-! ## Patterns -/

/-- The type of a pattern. `gap` stands before it. -/
def patternType (gap : Write Unit) (ps : Parts) : Write Unit := do
  match Parts.get? ps .typeAnn with
  | some t =>
    text ":"
    gap
    t.print
  | none => pure ()

def binding (name : String) (isOptional : Bool) (ps : Parts) : Write Unit := do
  text name
  if isOptional then text "?"
  patternType optSpace ps

/-- The marks after a bracketed pattern: a question mark and its type, before which minified text
keeps its space. -/
def patternEnd (isOptional : Bool) (ps : Parts) : Write Unit := do
  if isOptional then text "?"
  patternType space ps

def arrayPattern (isOptional : Bool) (ps : Parts) (span : Span) : Write Unit := do
  text "["
  let elements := Parts.all ps .element
  let closes := elements.getLast?.any fun p => p.kind = .hole
  list { ListFormat.commas with closingDelimiter := closes } span elements
  text "]"
  patternEnd isOptional ps

def objectPattern (isOptional : Bool) (ps : Parts) (span : Span) : Write Unit := do
  text "\x7b"
  list ListFormat.braced span (Parts.all ps .property)
  text "\x7d"
  patternEnd isOptional ps

def restPattern (ps : Parts) : Write Unit := do
  text "..."
  Parts.print ps .operand
  patternType optSpace ps

def withDefault (left right : Write Unit) : Write Unit := do
  left
  optSpace
  text "="
  optSpace
  right

def assignPatternProperty (ps : Parts) : Write Unit := do
  if Parts.has ps .value then withDefault (Parts.print ps .key) (Parts.print ps .value)
  else Parts.print ps .key

end AwaitCalls.Print
