import AwaitCalls.Syntax.Grammar.Primary

/-!
# Rules for properties and calls

What can follow a primary expression, and `new`, `super` and `import`, which start an expression only
together with what follows them.
-/
namespace AwaitCalls.Syntax.Grammar

open AwaitCalls.Text Parse

/-- Wrap a property or call in an optional chain, if it belongs to one. -/
def chained (isOptional : Bool) (object inner : Node) : Node :=
  if isOptional || object.isOptChain then Node.of (.optChain isOptional) inner.span [(.expr, inner)]
  else inner

/-- A call node: a plain call, or one in an optional chain. -/
def callNode (span : Span) (isOptional : Bool) (callee : Node) (args : List Node)
    (types : Option Node) : Node :=
  if isOptional || callee.isOptChain then
    let inner := Node.of .optCall span
      ((Slot.optCallee, callee) :: Node.many .arg args ++ Node.opt .typeArgs types)
    Node.of (.optChain isOptional) span [(.expr, inner)]
  else
    Node.of .call span ((Slot.callee, callee) :: Node.many .arg args ++ Node.opt .typeArgs types)

def isImportCallee (e : Node) : Bool :=
  match e.kind with
  | .importCallee _ => true
  | _ => false

/-- A `super` or `import` that something must follow. -/
def isBareCallee (e : Node) : Bool := e.kind = .super || isImportCallee e

/-- An `import` call has one or two arguments. -/
def checkImportArgs (callee : Node) (args : List Node) : Parse Unit := do
  if isImportCallee callee && (args.isEmpty || args.length > 2) then note .importArguments callee.lo

/-- Can the token after type arguments follow them, so that they were no comparison? -/
def endsTypeArgs : Parse Bool := do
  match ← token with
  | .punct p =>
    if ["<", "+", "-", "(", "`", "="].contains p || (p.toList.head? == some '>') then return false
    if (BinaryOp.ofPunct? p).isSome then return true
  | _ => pure ()
  if ← afterBreak then return true
  return !(← startsExpr)

/-- Type arguments that make an instantiation expression: not those of a call or a template, and not
a comparison. -/
def instantiationArgs? (g : Grammar) : Parse (Option Node) := do
  if !(← isTyped) || !(← isPunct "<") then return none
  trial do
    let args ← typeArgs g
    if ← endsTypeArgs then return some args else return none

/-- An expression with type arguments that make an instantiation expression, if it has any. -/
def instantiated (e : Node) (types : Option Node) : Parse Node := do
  match types with
  | some t => return Node.of .instantiation (← spanFrom e.lo) [(.instantiated, e), (.typeArgs, t)]
  | none => return e

/-- Type arguments after a property, as an instantiation. -/
def withInstantiation (g : Grammar) (e : Node) : Parse Node := do
  instantiated e (← instantiationArgs? g)

/-- The subscripts that only the typed dialect has. The flag says whether more may follow. -/
def typedSubscript? (g : Grammar) (obj : Node) (noCall : Bool) : Parse (Option (Node × Bool)) := do
  if !(← afterBreak) && (← isPunct "!") then
    bump
    if isBareCallee obj then
      fail (.nonNullNotAllowed (if obj.kind = .super then "super" else "import"))
    return some (Node.of .nonNull (← spanFrom obj.lo) [(.nonNullOperand, obj)], true)
  if isBareCallee obj || !(← atTypeArgs) then return none
  trial do
    if !noCall && obj.kind = .ident "async" && !(← afterBreak) then
      if let some arrow ← genericAsyncArrow? g obj.lo then return some (arrow, true)
    let types ← typeArgs g
    if !noCall && (← isPunct "(") then
      let args ← arguments g
      return some (callNode (← spanFrom obj.lo) false obj args (some types), true)
    else if ← isPunct "`" then
      return some (← taggedTemplate g obj (some types), true)
    else if (← isPunct "=") || (← isWord "as") || (← isWord "satisfies") then
      return some (← instantiated obj (some types), false)
    else return none

/-- `super` needs an enclosing member and takes no question mark. -/
def checkSuper (obj : Node) (isOptional noCall : Bool) : Parse Unit := do
  if !(← read).allowSuper then failAt .superNotAllowed obj.lo
  if isOptional then
    if noCall then failAt .superCallNotAllowed obj.lo
    failAt .superNotAllowed obj.lo

/-- Step over a question mark and a dot, which make what follows optional. -/
def eatQuestionDot : Parse Bool := do
  if (← isPunct "?") && (← peekPunct ".") then
    bump
    bump
    return true
  else return false

/-- One property, call or the like. The flag says whether more may follow. -/
def subscript (g : Grammar) (obj : Node) (noCall noComputed : Bool) : Parse (Node × Bool) := do
  let typed ← isTyped
  if typed then
    if let some r ← typedSubscript? g obj noCall then return r
  let unused ← instantiationArgs? g
  let isOptional ← eatQuestionDot
  if !noComputed && (← isPunct "[") then
    let bracket ← here
    bump
    let e ← noColon (allowIn g.expr)
    expect "]"
    let span ← spanFrom obj.lo
    let key := Node.of .computed (← spanFrom bracket) [(.expr, e)]
    if obj.kind = .super then
      checkSuper obj isOptional noCall
      return (Node.of .superProp span [(.object, obj), (.property, key)], true)
    if isImportCallee obj then fail .importAlone
    let m := Node.of .member span [(.memberObject, obj), (.property, key)]
    return (chained isOptional obj m, true)
  let types ← if typed && isOptional && (← atTypeArgs) then some <$> typeArgs g else pure none
  if types.isSome || ((← isPunct "(") && (!noCall || isOptional || isImportCallee obj)) then
    let args ← arguments g
    if isBareCallee obj && isOptional then fail .superOptional
    checkImportArgs obj args
    return (callNode (← spanFrom obj.lo) isOptional obj args types, true)
  if isOptional || (← isPunct ".") then
    if !isOptional then bump
    let name ← memberName
    let span ← spanFrom obj.lo
    if obj.kind = .super then
      checkSuper obj isOptional noCall
      return (← withInstantiation g (Node.of .superProp span [(.object, obj), (.property, name)]), true)
    if isImportCallee obj then unexpected "meta"
    let m := Node.of .member span [(.memberObject, obj), (.property, name)]
    return (← withInstantiation g (chained isOptional obj m), true)
  if obj.kind = .super then
    if noCall then fail .superCallNotAllowed
    fail .superNotAllowed
  if isImportCallee obj then fail .importAlone
  let e ← instantiated obj unused
  if ← isPunct "`" then return (← taggedTemplate g e none, true)
  return (e, false)

/-- Properties, calls and the like after an expression. -/
def subscriptsRule (g : Grammar) (obj : Node) (noCall noComputed : Bool) : Parse Node := do
  let (e, _) ← loop (obj, true) fun (e, more) => do
    if !more then return none
    return some (← subscript g e noCall noComputed)
  return e

/-- `import` as an expression; the word is read already. -/
def importExpr (g : Grammar) (lo : Nat) (noCall : Bool) : Parse Node := do
  let call (phase : ImportPhase) : Parse Node := do
    g.subscripts (Node.leaf (.importCallee phase) (← spanFrom lo)) noCall false
  if ← eat "." then
    markModule
    match ← takeWord with
    | "meta" => g.subscripts (Node.leaf .importMeta (← spanFrom lo)) noCall false
    | "defer" => call .defer
    | "source" => call .source
    | _ => unexpected "meta"
  else call .evaluation

/-- A member expression, or `new` with or without arguments. -/
def memberOrNewRule (g : Grammar) (isNew : Bool) : Parse Node := do
  let lo ← here
  if ← eatWord "new" then
    if ← eat "." then
      if !(← eatWord "target") then unexpected "target"
      let ctx ← read
      if !ctx.inPlainFunction && !ctx.inParams && !ctx.inClass then note .newTargetOutside lo
      return ← g.subscripts (Node.leaf .newTarget (← spanFrom lo)) true false
    let callee ← noColon (g.memberOrNew isNew)
    if ← isArrowHere callee then return callee
    if isNew then
      if callee.kind = .optChain true then failAt .newOptionalChain callee.lo
    let types ←
      if (← isTyped) && (← atTypeArgs) then
        trial do
          let types ← typeArgs g
          if ← isPunct "(" then return some types else return none
      else pure none
    if !isNew || (← isPunct "(") then
      let args ← arguments g
      let e := Node.of (.new true) (← spanFrom lo)
        ((Slot.newCallee, callee) :: Node.many .arg args ++ Node.opt .typeArgs types)
      return ← g.subscripts e true false
    return Node.of (.new false) (← spanFrom lo) ((Slot.newCallee, callee) :: Node.opt .typeArgs types)
  if ← isWord "super" then
    let span ← hereSpan
    bump
    return ← g.subscripts (Node.leaf .super span) true false
  if ← eatWord "import" then return ← importExpr g lo true
  let obj ← primary g
  if ← isArrowHere obj then return obj
  let obj ← withInstantiation g obj
  g.subscripts obj true false

/-- A left-hand-side expression: calls, properties, `new` and markup. -/
def lhsRule (g : Grammar) : Parse Node := do
  let lo ← here
  if (← read).dialect.jsx && (← isPunct "<") then
    let e ← g.jsxElement
    bump
    return e
  if ← isWord "super" then
    let span ← hereSpan
    bump
    return ← g.subscripts (Node.leaf .super span) false false
  if ← eatWord "import" then return ← importExpr g lo false
  let callee ← g.memberOrNew true
  if ← isArrowHere callee then return callee
  let types ←
    if (← isTyped) && (← atTypeArgs) then
      trial do
        let types ← typeArgs g
        if ← isPunct "(" then return some types else return none
    else pure none
  if callee.kind = .new false then
    if types.isSome then fail (.expected "(" (← token).shown)
    return callee
  if ← isPunct "(" then
    let args ← arguments g
    g.subscripts (callNode (← spanFrom lo) false callee args types) false false
  else return callee

end AwaitCalls.Syntax.Grammar
