import AwaitCalls.Syntax.Grammar.Calls

/-!
# Rules for operators

Unary and binary operators, conditionals, assignments and sequences, from the tightest binding to the
loosest.
-/
namespace AwaitCalls.Syntax.Grammar

open AwaitCalls.Text Parse

/-- `await` and its operand. Where nothing can be awaited it is a name. -/
def awaitExpr (g : Grammar) (lo : Nat) : Parse Node := do
  if ← isPunct "*" then fail .awaitStar
  let ctx ← read
  let span ← spanFrom lo
  if !ctx.inAsync then
    let ends := (← isPunct ")") || (← isPunct "]") || (← isPunct ",") || (← atSemicolon)
    if ends then
      if ctx.inModule then note .awaitAsIdent lo
      return Node.leaf (.ident "await") span
  if ctx.isTopLevel then markModule
  if ctx.inFunction && !ctx.inAsync then note .awaitOutsideAsync lo
  if ctx.inParams && !ctx.inFunction then note .awaitInParams lo
  let operand ← g.unary
  return Node.of .await (← spanFrom lo) [(.operand, operand)]

def unaryOp? : Parse (Option UnaryOp) := do
  match ← token with
  | .punct "-" => return some .minus
  | .punct "+" => return some .plus
  | .punct "!" => return some .not
  | .punct "~" => return some .tilde
  | .word "typeof" _ => return some .typeOf
  | .word "void" _ => return some .void
  | .word "delete" _ => return some .delete
  | _ => return none

def updateOp? : Parse (Option UpdateOp) := do
  match ← token with
  | .punct "++" => return some .increment
  | .punct "--" => return some .decrement
  | _ => return none

/-- What `delete` may be applied to. -/
def checkDelete (operand : Node) : Parse Unit := do
  let inner := if ← isTyped then operand.unparen else operand
  match inner.kind, (inner.child? .expr).map Node.kind with
  | .ident _, _ => if !(← isTyped) then noteStrict .deleteIdentStrict inner.lo
  | .member, _ => pure ()
  | .optChain _, some .member => pure ()
  | _, _ => if ← isTyped then note .deleteOperand inner.lo

/-- A unary or update expression. -/
def unaryRule (g : Grammar) : Parse Node := do
  let lo ← here
  let dialect := (← read).dialect
  if dialect.typescript && !dialect.jsx && (← isPunct "<") then
    bump
    if ← eatWord "const" then
      expect ">"
      let e ← g.unary
      return Node.of .constAssertion (← spanFrom lo) [(.expr, e)]
    let ty ← g.type
    expectGt
    let e ← g.unary
    return Node.of .typeAssertion (← spanFrom lo) [(.expr, e), (.typeAnn, ty)]
  if let some op ← updateOp? then
    bump
    let operand ← g.unary
    checkTarget false operand
    return Node.of (.update op true) ⟨lo, operand.hi⟩ [(.operand, operand)]
  if let some op ← unaryOp? then
    bump
    let argLo := (← here) - 1
    let operand ←
      match ← caught g.unary with
      | .ok e => pure e
      | .error err => do
        note err.fault err.pos
        pure (invalidNode ⟨argLo, argLo⟩)
    if op = .delete then checkDelete operand
    return Node.of (.unary op) ⟨lo, operand.hi⟩ [(.operand, operand)]
  if ← eatWord "await" then return ← awaitExpr g lo
  let e ← g.lhs
  if (← isArrowHere e) || (← afterBreak) then return e
  if let some op ← updateOp? then
    checkTarget false e
    bump
    return Node.of (.update op false) (← spanFrom e.lo) [(.operand, e)]
  return e

/-- Is the node an application of one of the operators? -/
def isBinaryOf (ops : List BinaryOp) (n : Node) : Bool :=
  match n.kind with
  | .binary op => ops.contains op
  | _ => false

/-- `??` does not mix with the logical operators without parentheses. -/
def checkNullishMix (op : BinaryOp) (left right : Node) : Parse Unit := do
  let clash :=
    if op = .nullish then [.logicalOr, .logicalAnd]
    else if op = .logicalOr || op = .logicalAnd then [.nullish]
    else []
  [left, right].forM fun e => if isBinaryOf clash e then note .nullishMix e.lo else pure ()

/-- One binary operator with its right operand, or a type operator, after a left operand. -/
def binaryStep? (g : Grammar) (left : Node) (min : Nat) : Parse (Option Node) := do
  if (← isTyped) && !(← afterBreak) && 7 > min then
    if ← isWord "as" then
      bump
      if ← eatWord "const" then
        return some (Node.of .constAssertion (← spanFrom left.lo) [(.expr, left)])
      let ty ← g.type
      return some (Node.of .asExpr (← spanFrom left.lo) [(.expr, left), (.typeAnn, ty)])
    if ← isWord "satisfies" then
      bump
      let ty ← g.type
      return some (Node.of .satisfies (← spanFrom left.lo) [(.expr, left), (.typeAnn, ty)])
  match ← atBinaryOp? with
  | none => return none
  | some op =>
    if op.precedence ≤ min then return none
    bump
    if op = .power then
      match left.kind with
      | .unary _ | .await => fail .unaryBeforePower
      | _ => pure ()
    let first ← g.unary
    let right ← g.binaryRest first (if op = .power then op.precedence - 1 else op.precedence)
    checkNullishMix op left right
    return some (Node.of (.binary op) ⟨left.lo, right.hi⟩ [(.left, left), (.right, right)])

/-- The binary operators after a left operand that bind tighter than `min`. -/
def binaryRestRule (g : Grammar) (left : Node) (min : Nat) : Parse Node :=
  loop left fun e => binaryStep? g e min

def conditional (g : Grammar) : Parse Node := do
  let lo ← here
  let test ← binaryExpr g
  if ← isArrowHere test then return test
  if ← eat "?" then
    let cons ← inContext
      (fun c => { c with inConditional := true, expectColon := true, allowIn := true }) g.assign
    expect ":"
    let alt ← inContext (fun c => { c with inConditional := true, expectColon := false }) g.assign
    return Node.of .cond ⟨lo, alt.hi⟩ [(.test, test), (.consequent, cons), (.alternate, alt)]
  else return test

def yieldExpr (g : Grammar) : Parse Node := do
  let lo ← here
  bump
  let ctx ← read
  if ctx.inParams && !ctx.inFunction then failAt .yieldInParams lo
  if (← atSemicolon) || (!(← isPunct "*") && !(← startsExpr)) then
    return Node.leaf (.yield false) (← spanFrom lo)
  let isDelegate ← eat "*"
  let e ← g.assign
  return Node.of (.yield isDelegate) (← spanFrom lo) [(.operand, e)]

/-- An assignment or anything that binds tighter. -/
def assignBase (g : Grammar) : Parse Node := do
  if (← read).inGenerator && (← isWord "yield") then return ← yieldExpr g
  let lo ← here
  let start ←
    match ← token with
    | .bad f p => throw ⟨f, p⟩
    | .word w _ => pure (if isReserved w then none else some lo)
    | .punct "(" => pure (some lo)
    | _ => pure none
  modify fun s => { s with arrowStart := start }
  let e ← conditional g
  if ← isArrowHere e then return e
  match e.kind with
  | .cond | .binary _ | .unary _ | .update _ _ => return e
  | _ => finishAssign g lo e

/-- An arrow function with type parameters. -/
def genericArrow? (g : Grammar) : Parse (Option Node) :=
  noColon <| trial do
    let tps ← typeParams g false true
    let e ← assignBase g
    match e.kind with
    | .arrow isAsync =>
      let parts := e.children.toList
      let split := parts.filter (fun p => p.1 ≠ .returnType)
      let ret := parts.filter (fun p => p.1 = .returnType)
      return some (Node.of (.arrow isAsync) ⟨tps.lo, e.hi⟩ (split ++ [(.typeParams, tps)] ++ ret))
    | _ => return none

/-- Do type parameters stand at the cursor where markup could? A comma or a bound tells them apart. -/
def opensTypeParams : Parse Bool := lookahead false do
  bump
  let _ ← eatWord "const"
  if !(← token).isName then return false
  bump
  return (← isPunct ",") || (← isWord "extends")

/-- An expression without commas at its top. -/
def assignRule (g : Grammar) : Parse Node := do
  let dialect := (← read).dialect
  if dialect.typescript && (← isPunct "<") && (← peek).token.isAnyWord then
    if !dialect.jsx || (← opensTypeParams) then
      if let some arrow ← genericArrow? g then return arrow
  assignBase g

/-- An expression, commas included. -/
def exprRule (g : Grammar) : Parse Node := do
  let first ← g.assign
  if ← isPunct "," then
    let rest ← collect do
      if ← eat "," then return some (← g.assign) else return none
    return Node.of .seq (← spanFrom first.lo) (Node.many .element (first :: rest))
  else return first

end AwaitCalls.Syntax.Grammar
