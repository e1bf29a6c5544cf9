import AwaitCalls.Path
import AwaitCalls.Syntax.Node

/-!
# Which path a callee spells

An expression spells a path if it is a name, or a property of an expression that spells one. Brackets,
private names, calls, optional chains and everything else spell nothing; parentheses do not count.
-/
namespace AwaitCalls

open AwaitCalls.Syntax

/-- Is the expression exactly the static chain `path`? A chain of properties is longer than one
segment: `a` is not `a.b`. -/
def pathMatches : Node → List String → Bool
  | .mk .paren _ (.cons _ inner _), path => pathMatches inner path
  | .mk (.ident name) _ _, path => path == [name]
  | .mk .member _ (.cons _ object (.cons _ (.mk (.name name) _ _) _)), path =>
    match path.getLast? with
    | some last => !path.dropLast.isEmpty && name == last && pathMatches object path.dropLast
    | none => false
  | _, _ => false

end AwaitCalls
