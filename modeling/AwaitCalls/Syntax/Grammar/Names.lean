import AwaitCalls.Syntax.Grammar.State

/-!
# Rules for names

Which words are names depends on the context: strict code reserves more of them, and `await` and
`yield` are reserved in functions of their kind.
-/
namespace AwaitCalls.Syntax

open AwaitCalls.Text Parse

namespace Grammar

/-- Step over a word and give its name. -/
def takeWord : Parse String := do
  match ← token with
  | .word _ name =>
    bump
    return name
  | _ => fail .expectedIdent

/-- A word that may be any name, reserved ones included: the name of a property. -/
def propertyName : Parse Node := do
  let span ← hereSpan
  return Node.leaf (.name (← takeWord)) span

/-- The text and span of an identifier. `await` and `yield` are let through where asked. -/
def identText (allowAwait : Bool) : Parse (String × Span) := do
  let span ← hereSpan
  match ← token with
  | .word w name =>
    if w = "enum" then
      bump
      note (.reservedInStrict name) span.lo
      return (name, span)
    else if isStrictReserved w then
      bump
      noteStrict (.reservedInStrict name) span.lo
      return (name, span)
    else if w = "await" then
      let ctx ← read
      if ctx.inAmbient then
        bump
        return (w, span)
      else if ctx.inStaticBlock then fail .expectedIdent
      else if ctx.inAsync || ctx.inModule then fail .awaitAsIdent
      else if allowAwait then
        bump
        return (w, span)
      else fail .expectedIdent
    else if w = "this" && (← isTyped) then
      bump
      return (w, span)
    else if isReserved w then fail .expectedIdent
    else
      if name = "arguments" && (← read).inClassField then note .argumentsInField span.lo
      bump
      return (name, span)
  | _ => fail .expectedIdent

/-- An identifier as an expression. -/
def identRef (allowAwait : Bool) : Parse Node := do
  let (w, span) ← identText allowAwait
  return Node.leaf (.ident w) span

/-- Text and span of a name that a declaration binds. -/
def bindingText (refuseLet : Bool) : Parse (String × Span) := do
  let span ← hereSpan
  if refuseLet && (← isWord "let") then
    unexpected "let is reserved in const, let, class declaration"
  match ← token with
  | .word w name =>
    if !isReserved w && !isStrictReserved w && w ≠ "await" then
      bump
      if name = "eval" || name = "arguments" then noteStrict .evalOrArguments span.lo
      return (name, span)
  | _ => pure ()
  let (w, span) ← identText true
  let ctx ← read
  if (w = "await" && (ctx.inAsync || ctx.inStaticBlock)) || (w = "yield" && ctx.inGenerator) then
    note .expectedIdent span.lo
  return (w, span)

/-- A binding identifier as a pattern, without a type. -/
def bindingIdent (refuseLet : Bool) : Parse Node := do
  let (w, span) ← bindingText refuseLet
  return Node.leaf (.binding w false) span

/-- The name of a function or class, as an identifier. -/
def declaredIdent (refuseLet : Bool) : Parse Node := do
  let (w, span) ← bindingText refuseLet
  return Node.leaf (.ident w) span

/-- Is the current token a name that is not reserved in this context? -/
def atIdentRef : Parse Bool := do
  match ← token with
  | .word w _ => return !(← read).reserves w
  | _ => return false

/-- The name of a function or class, which may be absent unless it is required. -/
def optionalDeclaredIdent (isRequired refuseLet : Bool) : Parse (Option Node) := do
  if isRequired || (← atIdentRef) then return some (← declaredIdent refuseLet)
  else return none

/-- A private name such as `#x`. -/
def privateName : Parse Node := do
  let lo ← here
  bump
  let w ← takeWord
  return Node.leaf (.privateName w) (← spanFrom lo)

/-- A property name or a private name. -/
def memberName : Parse Node := do
  if ← isPunct "#" then privateName else propertyName

/-- A string literal at the cursor. -/
def stringLiteral : Parse Node := do
  let span ← hereSpan
  match ← token with
  | .str value raw =>
    bump
    return Node.leaf (.str value raw) span
  | _ => unexpected "a string literal"

end Grammar

end AwaitCalls.Syntax
