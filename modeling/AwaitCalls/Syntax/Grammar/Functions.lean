import AwaitCalls.Syntax.Grammar.Patterns

/-!
# Rules for functions

Arguments, decorators, parameters and bodies. What a function is (asynchronous, a generator, an arrow
function) changes the context in which its parameters and its body are read.
-/
namespace AwaitCalls.Syntax.Grammar

open AwaitCalls.Text Parse

/-- An expression, or one that dots spread. -/
def spreadOrAssign (g : Grammar) : Parse Node := do
  let lo ← here
  if ← eat "..." then
    let e ← allowIn g.assign
    return Node.of .spread (← spanFrom lo) [(.expr, e)]
  else g.assign

/-- The arguments of a call with their parentheses. -/
def arguments (g : Grammar) : Parse (List Node) :=
  inContext (fun c => { c with expectColon := false }) do
    expect "("
    let (args, _) ← loop (([] : List Node), true) fun (acc, isFirst) => do
      if ← isPunct ")" then return none
      if !isFirst then
        expect ","
        if ← isPunct ")" then return none
      let a ← allowIn (spreadOrAssign g)
      return some (a :: acc, false)
    expect ")"
    return args.reverse

/-- A decorator. Parentheses around its whole expression are not part of the tree. -/
def decorator (g : Grammar) : Parse Node := do
  let lo ← here
  expect "@"
  let e ←
    if ← eat "(" then do
      let e ← g.expr
      expect ")"
      pure e
    else do
      let id ← identRef false
      g.subscripts id false true
  let args ← if (← isTyped) && (← isPunct "<") then some <$> typeArgs g else pure none
  let e ←
    if args.isSome || (← isPunct "(") then do
      let as ← arguments g
      pure (Node.of .call (← spanFrom e.lo)
        ((Slot.callee, e) :: Node.many .arg as ++ Node.opt .typeArgs args))
    else pure e
  return Node.of .decorator (← spanFrom lo) [(.decoratorExpr, e)]

/-- Decorators in front of a class, a member or a parameter. -/
def decorators (g : Grammar) (allowExport : Bool) : Parse (List Node) := do
  if !(← read).dialect.decorators then return []
  let lo ← here
  let ds ← collect do
    if ← isPunct "@" then return some (← decorator g) else return none
  let ctx ← read
  if !ds.isEmpty && (← isWord "export") && !ctx.inClass && !ctx.inFunction then
    if !allowExport then fail .exportAfterDecorator
    if !(← isTyped) then failAt .decoratorOnExport lo
  return ds

/-- One parameter, which a modifier must not precede. -/
def paramPattern (g : Grammar) : Parse Node := do
  let lo ← here
  let hasModifier ← if ← isTyped then eatParamModifier else pure false
  let patLo ← here
  let p ← g.bindingPattern false
  let typed ← isTyped
  let isOptional ← if typed then eat "?" else pure false
  let p := if isOptional then asOptional p else p
  let ann ← if typed then typeAnn? g else pure none
  let p ← if p.kind.isBinding then pure (annotated p ann) else withTypeAnn p patLo ann
  let p ←
    if ← eat "=" then do
      if isOptional then note .optionalWithInit p.lo
      let right ← allowIn g.assign
      if (← read).inAmbient then note .defaultInSignature lo
      pure (Node.of .assignPat (← spanFrom lo) [(.left, p), (.right, right)])
    else pure p
  if hasModifier then note .parameterProperty lo
  return p

/-- A rest parameter, whose dots are read already. -/
def restParam (g : Grammar) (lo : Nat) (allowInit : Bool) : Parse Node := do
  let p ← g.bindingPattern false
  let hasInit ← if allowInit then eat "=" else pure false
  let p ←
    if hasInit then do
      let right ← g.assign
      note .restInitializer p.lo
      pure (Node.of .assignPat (← spanFrom p.lo) [(.left, p), (.right, right)])
    else pure p
  let ann ← typeAnn? g
  return Node.of .rest (← spanFrom lo) ((Slot.operand, p) :: Node.opt .typeAnn ann)

/-- Parameters up to the closing parenthesis, which is not read. -/
def paramList (g : Grammar) (one : Nat → List Node → Parse Node) (allowRestInit : Bool) :
    Parse (List Node) := do
  let (ps, _) ← loop (([] : List Node), (none : Option Nat)) fun (acc, restLo) => do
    if (← isEof) || (← isPunct ")") then return none
    if let some p := restLo then note .restParamNotLast p
    let lo ← here
    let ds ← decorators g false
    let patLo ← here
    if ← eat "..." then
      let rest ← restParam g patLo allowRestInit
      if allowRestInit && (← isTyped) && (← isPunct "?") then
        noteHere .restOptional
        bump
      let p := Node.of .param (← spanFrom lo) (Node.many .decorator ds ++ [(.value, rest)])
      if !(← isPunct ")") then
        let comma ← here
        expect ","
        if ← isPunct ")" then note .commaAfterRest comma
      return some (p :: acc, some patLo)
    else
      let p ← one lo ds
      if !(← isPunct ")") then expect ","
      return some (p :: acc, restLo)
  return ps.reverse

/-- The parameters of a function. -/
def formalParams (g : Grammar) : Parse (List Node) :=
  paramList g
    (fun lo ds => do
      let p ← paramPattern g
      return Node.of .param (← spanFrom lo) (Node.many .decorator ds ++ [(.value, p)]))
    true

/-- A parameter of a constructor, which modifiers make a property. -/
def constructorParam (g : Grammar) (lo : Nat) (ds : List Node) : Parse Node := do
  let access ← modifier? ["public", "protected", "private"]
  let isOverride := (← modifier? ["override"]).isSome
  let isReadonly := (← modifier? ["readonly"]).isSome
  let p ← paramPattern g
  if access.isNone && !isOverride && !isReadonly then
    return Node.of .param (← spanFrom lo) (Node.many .decorator ds ++ [(.value, p)])
  match p.kind with
  | .binding _ _ | .assignPat =>
    let mods : Modifiers :=
      { access := access.map fun w =>
          if w = "public" then .publicly else if w = "protected" then .protectedly else .privately
        isOverride, isReadonly }
    return Node.of (.paramProp mods) (← spanFrom lo) (Node.many .decorator ds ++ [(.formal, p)])
  | _ => failAt .parameterPropertyPattern p.lo

/-- Are all parameters plain names? -/
def isSimpleParams (ps : List Node) : Bool :=
  ps.all fun p =>
    let pat := if p.kind = .param then (p.child? .value).getD p else p
    match pat.kind with
    | .binding _ _ => true
    | .paramProp _ => true
    | _ => false

/-- The spelling of a statement that is a string. -/
def directive? (s : Node) : Option String :=
  match (s.child? .expr).map Node.kind with
  | some (.str _ raw) => some raw
  | _ => none

/-- The directive `use strict` among the strings at the start of a block. -/
def strictDirective? (block : Node) : Option Nat :=
  let strings := (block.childrenIn .body).takeWhile fun s => (directive? s).isSome
  let strict := strings.find? fun s =>
    (directive? s).any fun raw => raw = "'use strict'" || raw = "\"use strict\""
  strict.map (·.lo)

/-- Read the body of a function. -/
def inBody {α : Type} (isAsync isGenerator isArrow : Bool) (p : Parse α) : Parse α := do
  let labels := (← get).labels
  modify fun s => { s with labels := [] }
  let a ← inContext
    (fun c => { c with
      inAsync := isAsync, inGenerator := isGenerator, inFunction := true
      inPlainFunction := c.inPlainFunction || !isArrow
      inStaticBlock := false, allowBreak := false, allowContinue := false, expectColon := false
      isTopLevel := false, skipElse := false, inForHead := false, inForAwaitHead := false }) p
  modify fun s => { s with labels }
  return a

/-- A block as the body of a function. Directives make only the bodies of plain functions strict. -/
def bodyBlock (g : Grammar) (isSimple isArrow : Bool) : Parse Node := do
  let b ← g.block !isArrow
  if !isSimple then (strictDirective? b).forM fun p => note .useStrictWithPatterns p
  return b

def noteAmbientBody : Parse Unit := do
  if (← read).inAmbient && (← isTyped) && (← isPunct "\x7b") then noteHere .bodyInAmbient

/-- The body of a function, which in the typed dialect may be absent. -/
def functionBody? (g : Grammar) (isAsync isGenerator isSimple : Bool) : Parse (Option Node) := do
  noteAmbientBody
  inBody isAsync isGenerator false do
    if (← isTyped) && !(← isPunct "\x7b") then
      if ← eatSemicolon then return none
    return some (← bodyBlock g isSimple false)

/-- The body of an arrow function: a block or an expression. -/
def arrowBody (g : Grammar) (isAsync isSimple : Bool) : Parse Node := do
  noteAmbientBody
  inBody isAsync false true do
    if ← isPunct "\x7b" then bodyBlock g isSimple true else g.assign

/-- Parameters without a body have no default values. -/
def checkBodiless (ps : List Node) : Parse Unit := do
  ps.forM fun p =>
    match p.child? .value with
    | some v => if v.kind = .assignPat then note .defaultInSignature v.lo else pure ()
    | none => pure ()

/-- A function from its type parameters on. -/
def functionFrom (g : Grammar) (lo : Nat) (ds : List Node) (params : Parse (List Node))
    (isAsync isGenerator : Bool) : Parse Node :=
  inContext (fun c => { c with inAsync := isAsync, inGenerator := isGenerator }) do
    let tps ← if ← isTyped then typeParams? g false true else pure none
    expect "("
    let ps ← inContext (fun c => { c with inParams := true, inFunction := false }) params
    expect ")"
    let ret ←
      if (← isTyped) && (← isPunct ":") then some <$> returnType g ":" else pure none
    let body ← functionBody? g isAsync isGenerator (isSimpleParams ps)
    if (← isTyped) && body.isNone then checkBodiless ps
    return Node.of (.function isAsync isGenerator) (← spanFrom lo)
      (Node.many .param ps ++ Node.many .decorator ds ++ Node.opt .body body ++
        Node.opt .typeParams tps ++ Node.opt .returnType ret)

/-- The name of a function, if any, and the function. The cursor stands at `function`. -/
def namedFunction (g : Grammar) (lo : Nat) (isAsync : Bool) (ds : List Node)
    (isExpr isNameRequired : Bool) : Parse (Option Node × Node) := do
  expectWord "function"
  let isGenerator ← eat "*"
  let plain (c : Context) : Context := { c with allowSuper := false, inClassField := false }
  let name ←
    inContext
      (fun c =>
        if isExpr then { plain c with inAsync := isAsync, inGenerator := isGenerator } else plain c)
      (optionalDeclaredIdent isNameRequired false)
  let f ← inContext (fun c => { plain c with expectColon := false })
    (functionFrom g lo ds (formalParams g) isAsync isGenerator)
  if isExpr && (f.child? .body).isNone then unexpected "\x7b"
  return (name, f)

/-- Step over `async` if it starts a function. Gives the start of the function. -/
def eatAsync : Parse Bool := do
  if ← isWord "async" then
    bump
    return true
  else return false

/-- A function declaration, with `async` if it has it. -/
def functionDecl (g : Grammar) (ds : List Node) : Parse Node := do
  let lo ← here
  let isAsync ← eatAsync
  let (name, f) ← namedFunction g lo isAsync ds false true
  return Node.of (.fnDecl false) f.span (Node.opt .ident name ++ [(.function, f)])

/-- A function expression, with `async` if it has it. -/
def functionExpr (g : Grammar) : Parse Node := do
  let lo ← here
  let isAsync ← eatAsync
  let (name, f) ← namedFunction g lo isAsync [] true false
  return Node.of .fnExpr f.span (Node.opt .ident name ++ [(.function, f)])

/-- Does `async function` stand at the cursor, on one line? -/
def atAsyncFunction : Parse Bool := do
  if ← isWord "async" then
    let next ← peek
    return next.token.isWord "function" && !next.afterBreak
  else return false

end AwaitCalls.Syntax.Grammar
