import AwaitCalls.Syntax.Grammar.Names

/-!
# The rules that call each other

Rules of the grammar are mutually recursive. They are written against a `Grammar`, a record of the
rules for parts one level deeper, so that each family of rules stands in a module of its own and only
the closing definition recurses, on the depth that is left.
-/
namespace AwaitCalls.Syntax

/-- Which kind of pattern an expression is read as. -/
inductive PatternRole
  /-- Target of an assignment. -/
  | assign
  /-- Element of such a target. -/
  | assignElement
  /-- Parameter of an arrow function. -/
  | binding
  /-- Element of such a parameter. -/
  | bindingElement
deriving DecidableEq, Repr

/-- The role of the elements of a pattern. -/
def PatternRole.element : PatternRole → PatternRole
  | .assign | .assignElement => .assignElement
  | .binding | .bindingElement => .bindingElement

/-- The rules for parts one level deeper. -/
structure Grammar where
  /-- An expression, commas included. -/
  expr : Parse Node
  /-- An expression without commas at its top. -/
  assign : Parse Node
  unary : Parse Node
  /-- The binary operators after a left operand that bind tighter than a precedence. -/
  binaryRest : Node → Nat → Parse Node
  /-- A left-hand-side expression. -/
  lhs : Parse Node
  /-- A member expression or `new` without arguments, as the flag allows. -/
  memberOrNew : Bool → Parse Node
  /-- Properties, calls and the like after an expression: without calls, without brackets. -/
  subscripts : Node → Bool → Bool → Parse Node
  /-- A statement; the flag allows declarations. -/
  statement : Bool → Parse Node
  /-- A statement or a module item. -/
  moduleItem : Parse Node
  /-- An `if` statement, whose `else` the context may leave to the caller. -/
  ifStatement : Parse Node
  /-- A block; the flag allows directives. -/
  block : Bool → Parse Node
  /-- A binding pattern; the flag refuses `let` as a name. -/
  bindingPattern : Bool → Parse Node
  /-- An expression read again as a pattern. -/
  asPattern : PatternRole → Node → Parse Node
  /-- An object literal. -/
  object : Parse Node
  /-- The parameters of a function up to the closing parenthesis, which is not read. -/
  params : Parse (List Node)
  type : Parse Node
  /-- A type operator and its operand, or an array type. -/
  typeOperator : Parse Node
  /-- A namespace with a dotted name, from its name on. -/
  namespaceDecl : Nat → NamespaceKeyword → Parse Node
  jsxElement : Parse Node

instance : Inhabited Grammar :=
  let none : Parse Node := Parse.fail .endOfText
  ⟨⟨none, none, none, fun _ _ => none, none, fun _ => none, fun _ _ _ => none, fun _ => none, none,
    none, fun _ => none, fun _ => none, fun _ _ => none, none, Parse.fail .endOfText, none, none,
    fun _ _ => none, none⟩⟩

end AwaitCalls.Syntax
