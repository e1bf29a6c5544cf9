import AwaitCalls.Print.Expressions
import AwaitCalls.Text.Entity

/-!
# Layout of markup
-/
namespace AwaitCalls.Print

open AwaitCalls.Syntax AwaitCalls.Text

def jsxElement (ps : Parts) : Write Unit := do
  Parts.print ps .opening
  Parts.printAll ps .child
  Parts.print ps .closing

def jsxFragment (ps : Parts) : Write Unit := do
  text "<>"
  Parts.printAll ps .child
  text "</>"

def jsxOpening (isSelfClosing : Bool) (ps : Parts) (span : Span) : Write Unit := do
  text "<"
  Parts.print ps .ident
  Parts.print ps .typeArgs
  let attrs := Parts.all ps .attr
  if !attrs.isEmpty then
    space
    list { keepsComments := false } span attrs
  if isSelfClosing then text "/"
  text ">"

def jsxClosing (ps : Parts) : Write Unit := do
  text "</"
  Parts.print ps .ident
  text ">"

def jsxAttr (ps : Parts) : Write Unit := do
  Parts.print ps .key
  match Parts.get? ps .value with
  | some v =>
    text "="
    v.print
  | none => pure ()

/-- A quoted value of an attribute. Minified text resolves its references and chooses its quotes anew. -/
def jsxString (raw : String) : Write Unit := do
  text (if ← isMinified then quotedValue (Entity.resolve (raw.toList.drop 1).dropLast) else raw)

/-- An expression in braces, with the comments behind the opening brace. -/
def jsxContainer (ps : Parts) (span : Span) : Write Unit := do
  text "\x7b"
  trailing (span.lo + 1)
  Parts.print ps .expr
  text "\x7d"

def inBraces (p : Write Unit) : Write Unit := do
  text "\x7b"
  p
  text "\x7d"

def spread (ps : Parts) : Write Unit := do
  text "..."
  Parts.print ps .expr

end AwaitCalls.Print
