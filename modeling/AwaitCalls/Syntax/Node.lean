import AwaitCalls.Text.Source
import AwaitCalls.Syntax.Kind

/-!
# Syntax trees

A node is a kind, the span of text it came from, and its parts. Each part stands in a slot that says
what it is to its parent. Parts are kept in the order in which a walk over the program visits them,
which for a few kinds differs from their order in the text: a class lists its members before its
superclass, and a `do` loop its test before its body.

One shape for all kinds makes every walk over a program one recursion, with `Children` as its list.
-/
namespace AwaitCalls.Syntax

open AwaitCalls.Text (Span)

/-- What a part is to its parent. -/
inductive Slot
  -- what is called, accessed, tagged or decorated with
  | memberObject | callee | newCallee | optCallee | tag | superclass | decoratorExpr
  | nonNullOperand | instantiated
  -- expressions and statements
  | expr | operand | left | right | target | test | consequent | alternate | arg | property | element
  | quasi | key | value | body | init | update | label | object | discriminant | case | param | formal
  | block | handler | finalizer | declarator | ident | function | klass | decorator | member
  | template
  -- modules
  | specifier | source | attributes | decl | imported | exported | local
  -- markup
  | opening | closing | child | attr
  -- types
  | typeAnn | typeParams | typeArgs | superTypeArgs | heritage | returnType | constraint
  | defaultType | nameType | checkType | extendsType | trueType | falseType | indexType
  | qualifier | thisParam
deriving DecidableEq, Repr, Inhabited

/-- Where a part stands: the kind of its parent, absent at the top of a program, and its slot there. -/
structure Place where
  parent : Option Kind
  slot : Slot
deriving DecidableEq

mutual

inductive Node
  | mk (kind : Kind) (span : Span) (children : Children)

/-- The parts of a node, in visiting order. -/
inductive Children
  | nil
  | cons (slot : Slot) (child : Node) (rest : Children)

end

namespace Children

def ofList : List (Slot × Node) → Children
  | [] => nil
  | (s, n) :: rest => cons s n (ofList rest)

def toList : Children → List (Slot × Node)
  | nil => []
  | cons s n rest => (s, n) :: rest.toList

/-- The first part in a slot. -/
def find? (slot : Slot) : Children → Option Node
  | nil => none
  | cons s n rest => if s = slot then some n else rest.find? slot

/-- The parts in a slot, in order. -/
def inSlot (slot : Slot) : Children → List Node
  | nil => []
  | cons s n rest => if s = slot then n :: rest.inSlot slot else rest.inSlot slot

end Children

instance : Inhabited Node := ⟨.mk .empty ⟨0, 0⟩ .nil⟩

instance : Inhabited Children := ⟨.nil⟩

namespace Node

def kind : Node → Kind
  | mk k _ _ => k

def span : Node → Span
  | mk _ s _ => s

def children : Node → Children
  | mk _ _ cs => cs

def lo (n : Node) : Nat := n.span.lo

def hi (n : Node) : Nat := n.span.hi

/-- The part in a slot that holds at most one. -/
def child? (n : Node) (slot : Slot) : Option Node := n.children.find? slot

/-- The parts in a slot that holds many. -/
def childrenIn (n : Node) (slot : Slot) : List Node := n.children.inSlot slot

/-- A node from its parts. -/
def of (kind : Kind) (span : Span) (parts : List (Slot × Node)) : Node :=
  .mk kind span (Children.ofList parts)

/-- A node without parts. -/
def leaf (kind : Kind) (span : Span) : Node := .mk kind span .nil

/-- A part that may be absent. -/
def opt (slot : Slot) : Option Node → List (Slot × Node)
  | none => []
  | some n => [(slot, n)]

/-- Parts that share a slot. -/
def many (slot : Slot) (ns : List Node) : List (Slot × Node) := ns.map fun n => (slot, n)

/-- Strip any number of enclosing parentheses. -/
def unparen : Node → Node
  | .mk .paren _ (.cons _ inner _) => inner.unparen
  | n => n

end Node

mutual

/-- Length of the longest chain of parts below a node. -/
def Node.height : Node → Nat
  | .mk _ _ cs => cs.height + 1

def Children.height : Children → Nat
  | .nil => 0
  | .cons _ n rest => max n.height rest.height

end

/-- A program: whether it is a module, the interpreter that its first line names, and its items. -/
structure Program where
  isModule : Bool
  interpreter : Option String
  span : Span
  /-- Top-level statements and module items. -/
  body : Children
deriving Inhabited

def Program.items (p : Program) : List Node := p.body.inSlot .body

end AwaitCalls.Syntax
