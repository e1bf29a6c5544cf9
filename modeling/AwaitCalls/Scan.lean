import AwaitCalls.PatternSet

/-!
# Finding the calls to await

Calls are numbered in the order in which a walk over the program meets them, a call before the calls
inside it. Calls with `super` or `import` as callee are numbered too; optional calls and `new` are not.
-/
namespace AwaitCalls

open AwaitCalls.Syntax AwaitCalls.Text

/-- A call whose callee is in a set of patterns and which no `await` waits for yet. -/
structure CallSite where
  /-- Position among all calls of the program. -/
  ordinal : Nat
  span : Span
  /-- Index of the first pattern that the callee spells. -/
  pattern : Nat
deriving DecidableEq, Repr

/-- The callee of a call, if it is an expression: `super` and `import` are none. -/
def expressionCallee? (parts : Children) : Option Node :=
  match parts.find? .callee with
  | some callee =>
    match callee.kind with
    | .super | .importCallee _ => none
    | _ => some callee
  | none => none

/-- The pattern that the callee of a call spells. -/
def calleeMatch (patterns : PatternSet) (parts : Children) : Option Nat :=
  (expressionCallee? parts).bind patterns.findMatch

/-- Is the first part a call, perhaps in parentheses? -/
def operandIsCall : Children → Bool
  | .nil => false
  | .cons _ n _ => n.unparen.kind = .call

/-- What a walk that looks for calls remembers. -/
structure Scanner where
  /-- Number of the next call. -/
  next : Nat := 0
  /-- Set when the next call is the operand of an `await`. -/
  awaitedOperand : Bool := false
  found : Array CallSite := #[]

namespace Scanner

/-- Step into a node. An `await` leaves word for the call that it waits for, and the next call takes
that word away. -/
def enter (patterns : PatternSet) (st : Scanner) (kind : Kind) (span : Span) (parts : Children) :
    Scanner :=
  match kind with
  | .await => { st with awaitedOperand := operandIsCall parts }
  | .call =>
    let found :=
      match calleeMatch patterns parts with
      | some pattern =>
        if st.awaitedOperand then st.found else st.found.push ⟨st.next, span, pattern⟩
      | none => st.found
    { next := st.next + 1, awaitedOperand := false, found }
  | _ => st

mutual

/-- Walk over a node, itself first and then its parts. -/
def visit (patterns : PatternSet) (st : Scanner) : Node → Scanner
  | .mk kind span parts => visitAll patterns (st.enter patterns kind span parts) parts

def visitAll (patterns : PatternSet) (st : Scanner) : Children → Scanner
  | .nil => st
  | .cons _ n rest => visitAll patterns (visit patterns st n) rest

end

end Scanner

/-- The calls of a program to await, in order. -/
def scan (p : Program) (patterns : PatternSet) : List CallSite :=
  (Scanner.visitAll patterns {} p.body).found.toList

end AwaitCalls
