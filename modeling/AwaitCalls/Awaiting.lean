import AwaitCalls.Scan

/-!
# Awaiting calls

`await` is put in front of the chosen calls, inner ones first, and then every bare `await` that stands
where the grammar asks for a left-hand-side expression gets parentheses. Neither step adds or removes
a call, so numbers of calls stay valid.
-/
namespace AwaitCalls

open AwaitCalls.Syntax AwaitCalls.Text

/-- A call with `await` in front of it. -/
def awaited (call : Node) : Node := Node.of .await call.span [(.operand, call)]

/-- Result of a walk that wraps calls: the tree, the number of the next call, and how many calls were
wrapped. -/
structure Wrapped (α : Type) where
  tree : α
  next : Nat
  count : Nat

mutual

/-- Wrap the calls of a node with the given numbers, `next` being that of its first call. -/
def wrapNode (targets : List Nat) (next : Nat) : Node → Wrapped Node
  | .mk kind span parts =>
    match kind with
    | .call =>
      let inner := wrapChildren targets (next + 1) parts
      let call := Node.mk .call span inner.tree
      if targets.contains next then ⟨awaited call, inner.next, inner.count + 1⟩
      else ⟨call, inner.next, inner.count⟩
    | k =>
      let inner := wrapChildren targets next parts
      ⟨.mk k span inner.tree, inner.next, inner.count⟩

def wrapChildren (targets : List Nat) (next : Nat) : Children → Wrapped Children
  | .nil => ⟨.nil, next, 0⟩
  | .cons slot n rest =>
    let first := wrapNode targets next n
    let others := wrapChildren targets first.next rest
    ⟨.cons slot first.tree others.tree, others.next, first.count + others.count⟩

end

/-- Put a bare `await` in parentheses. -/
def parenthesized (n : Node) : Node :=
  if n.kind = .await then Node.of .paren n.span [(.expr, n)] else n

/-- The slot of a node in which the grammar asks for a left-hand-side expression, if it has one. -/
def leftHandSlot? : Kind → Option Slot
  | .member => some .memberObject
  | .call => some .callee
  | .new _ => some .newCallee
  | .optCall => some .optCallee
  | .tagged => some .tag
  -- `await x ** 2` cannot be read
  | .binary op => if op = .power then some .left else none
  | .classBody _ => some .superclass
  -- nor can `@await f()`, while `@(await f())` can
  | .decorator => some .decoratorExpr
  | .nonNull => some .nonNullOperand
  | .instantiation => some .instantiated
  | _ => none

/-- Must a left-hand-side expression stand here? -/
def Syntax.Place.asksLeftHandSide (place : Place) : Bool :=
  place.parent.bind leftHandSlot? = some place.slot

mutual

/-- Put every bare `await` in parentheses that stands where a left-hand-side expression must. -/
def parenthesizeNode : Node → Node
  | .mk kind span parts => .mk kind span (parenthesizeChildren (some kind) parts)

/-- The same in the parts of a node of the given kind, or of a program. -/
def parenthesizeChildren (parent : Option Kind) : Children → Children
  | .nil => .nil
  | .cons slot n rest =>
    let inner := parenthesizeNode n
    .cons slot (if Place.asksLeftHandSide ⟨parent, slot⟩ then parenthesized inner else inner)
      (parenthesizeChildren parent rest)

end

/-- Await the calls with the given numbers. Gives the program and how many calls were wrapped; numbers
that no call has count for nothing. -/
def awaitNumbered (p : Program) (targets : List Nat) : Program × Nat :=
  if targets.isEmpty then (p, 0)
  else
    let wrapped := wrapChildren targets 0 p.body
    let body := if wrapped.count > 0 then parenthesizeChildren none wrapped.tree else wrapped.tree
    ({ p with body }, wrapped.count)

/-- Await the calls at the given sites. -/
def awaitSites (p : Program) (sites : List CallSite) : Program × Nat :=
  awaitNumbered p (sites.map CallSite.ordinal)

end AwaitCalls
