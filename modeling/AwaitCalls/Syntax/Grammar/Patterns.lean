import AwaitCalls.Syntax.Grammar.Types

/-!
# Rules for keys and patterns

A pattern is read as such in a declaration. In an assignment and in the parameters of an arrow
function it is first read as an expression and then turned into a pattern, because only what follows
shows which of the two it is.
-/
namespace AwaitCalls.Syntax

/-- Is this a part of an optional chain, possibly asserted to be present? -/
def Node.isOptChain : Node → Bool
  | .mk (.optChain _) _ _ => true
  | .mk .nonNull _ (.cons _ inner _) => inner.isOptChain
  | _ => false

/-- Can the expression be assigned to as it stands? -/
def Node.isSimpleTarget (isStrict : Bool) : Node → Bool
  | .mk (.ident w) _ _ => !(isStrict && (w == "eval" || w == "arguments"))
  | .mk .member _ (.cons _ object _) => !object.isOptChain
  | .mk .superProp _ _ => true
  | .mk .paren _ (.cons _ inner _) => inner.isSimpleTarget isStrict
  | .mk .nonNull _ (.cons _ inner _) => inner.isSimpleTarget isStrict
  | .mk .asExpr _ (.cons _ inner _) => inner.isSimpleTarget isStrict
  | .mk .satisfies _ (.cons _ inner _) => inner.isSimpleTarget isStrict
  | .mk .typeAssertion _ (.cons _ inner _) => inner.isSimpleTarget isStrict
  | .mk .instantiation _ (.cons _ inner _) => inner.isSimpleTarget isStrict
  | _ => false

/-- Is this an expression or pattern that the left side of an assignment may be? -/
def Node.isAssignTarget (n : Node) : Bool :=
  match n.kind with
  | .binding _ _ | .ident _ | .member | .superProp | .paren | .optChain _ | .asExpr | .satisfies
  | .nonNull | .typeAssertion | .instantiation | .arrayPat _ | .objectPat _ | .invalid => true
  | _ => false

namespace Grammar

open AwaitCalls.Text Parse

/-- Read a part in which `in` is an operator. -/
def allowIn {α : Type} (p : Parse α) : Parse α :=
  inContext (fun c => { c with allowIn := true }) p

/-- The key of a property or of a member. -/
def propertyKey (g : Grammar) : Parse Node := do
  let span ← hereSpan
  match ← token with
  | .str _ _ => stringLiteral
  | .num raw =>
    bump
    return Node.leaf (.num raw) span
  | .bigInt raw =>
    bump
    return Node.leaf (.bigInt raw) span
  | .word _ name =>
    bump
    return Node.leaf (.name name) span
  | .punct "[" =>
    bump
    let innerLo ← here
    let first ← allowIn g.assign
    let inner ←
      if (← isTyped) && (← isPunct ",") then do
        let rest ← collect do
          if ← eat "," then return some (← g.assign) else return none
        note .commaInComputedKey innerLo
        pure (Node.of .seq (← spanFrom innerLo) (Node.many .element (first :: rest)))
      else pure first
    expect "]"
    return Node.of .computed (← spanFrom span.lo) [(.expr, inner)]
  | _ => unexpected "identifier, string literal, numeric literal or [ for the computed key"

/-- A pattern, or a pattern with a default value. -/
def bindingElement (g : Grammar) : Parse Node := do
  let lo ← here
  let left ← g.bindingPattern false
  if ← eat "=" then
    let right ← allowIn g.assign
    if (← read).inAmbient then note .defaultInSignature lo
    return Node.of .assignPat (← spanFrom lo) [(.left, left), (.right, right)]
  return left

/-- In an ambient declaration a pattern may be marked as optional. -/
def ambientOptional : Parse Bool := do
  if (← read).inAmbient then eat "?" else return false

def arrayBinding (g : Grammar) : Parse Node := do
  let lo ← here
  expect "["
  let (elems, _) ← loop (([] : List Node), (none : Option Nat)) fun (acc, restLo) => do
    if (← isEof) || (← isPunct "]") then return none
    let span ← hereSpan
    if ← eat "," then return some (Node.leaf .hole span :: acc, restLo)
    if let some p := restLo then note .restNotLast p
    if ← eat "..." then
      let arg ← g.bindingPattern false
      let rest := Node.of .rest (← spanFrom span.lo) [(.operand, arg)]
      if !(← isPunct "]") then
        let comma ← here
        expect ","
        if ← isPunct "]" then note .commaAfterRest comma
      return some (rest :: acc, some span.lo)
    else
      let e ← bindingElement g
      if !(← isPunct "]") then expect ","
      return some (e :: acc, restLo)
  expect "]"
  let isOptional ← ambientOptional
  return Node.of (.arrayPat isOptional) (← spanFrom lo) (Node.many .element elems.reverse)

def objectBindingProp (g : Grammar) : Parse Node := do
  let lo ← here
  if ← eat "..." then
    let arg ← g.bindingPattern false
    return Node.of .rest (← spanFrom lo) [(.operand, arg)]
  let key ← propertyKey g
  if ← eat ":" then
    let value ← bindingElement g
    return Node.of .keyValuePat (← spanFrom lo) [(.key, key), (.value, value)]
  match key.kind with
  | .name w =>
    let name := Node.leaf (.binding w false) key.span
    if ← eat "=" then
      let value ← allowIn g.assign
      return Node.of .assignPatProp (← spanFrom lo) [(.key, name), (.value, value)]
    return Node.of .assignPatProp (← spanFrom lo) [(.key, name)]
  | _ => unexpected "an identifier"

/-- A rest element stands last in an object pattern, names a variable and takes no comma. -/
def checkObjectRest (trailingComma : Option Nat) : List Node → Parse Unit
  | [] => pure ()
  | [p] =>
    match p.kind with
    | .rest =>
      match (p.child? .operand).map Node.kind with
      | some (.binding _ _) => trailingComma.forM fun comma => note .commaAfterRest comma
      | _ => failAt .restWithoutIdent p.lo
    | _ => pure ()
  | p :: q :: ps => do
    if p.kind = .rest then note .restNotLast p.lo
    checkObjectRest trailingComma (q :: ps)

def objectBinding (g : Grammar) : Parse Node := do
  let lo ← here
  expect "\x7b"
  let (props, comma, _) ← loop (([] : List Node), (none : Option Nat), false)
    fun (acc, comma, stop) => do
      if stop || (← isPunct "\x7d") then return none
      let p ← objectBindingProp g
      if ← isPunct "\x7d" then return some (p :: acc, comma, true)
      let pos ← here
      expect ","
      return some (p :: acc, if ← isPunct "\x7d" then some pos else comma, false)
  expect "\x7d"
  checkObjectRest comma props.reverse
  let isOptional ← ambientOptional
  return Node.of (.objectPat isOptional) (← spanFrom lo) (Node.many .property props.reverse)

/-- A pattern in a declaration. -/
def bindingPatternRule (g : Grammar) (refuseLet : Bool) : Parse Node := do
  match ← token with
  | .word _ _ => bindingIdent refuseLet
  | .punct "[" => arrayBinding g
  | .punct "\x7b" => objectBinding g
  | .bad f p => throw ⟨f, p⟩
  | _ => unexpected "yield, an identifier, [ or \x7b"

/-- A pattern with a type annotation. Its span stays as it is. -/
def annotated (p : Node) (ann : Option Node) : Node :=
  .mk p.kind p.span (Children.ofList (p.children.toList ++ Node.opt .typeAnn ann))

/-- Add a type annotation to a pattern and stretch its span over it. -/
def withTypeAnn (p : Node) (lo : Nat) (ann : Option Node) : Parse Node := do
  match ann with
  | none => return p
  | some a => return Node.of p.kind (← spanFrom lo) (p.children.toList ++ [(.typeAnn, a)])

/-- Mark a pattern as optional. -/
def asOptional (p : Node) : Node :=
  match p.kind with
  | .binding w _ => .mk (.binding w true) p.span p.children
  | .arrayPat _ => .mk (.arrayPat true) p.span p.children
  | .objectPat _ => .mk (.objectPat true) p.span p.children
  | _ => p

/-- A node that stands for a part that could not be read. -/
def invalidNode (span : Span) : Node := Node.leaf .invalid span

/-- Is this one of the names that strict code must not bind? -/
def isStrictName (e : Node) : Bool :=
  match e.kind with
  | .ident w | .binding w _ => w == "eval" || w == "arguments"
  | _ => false

/-- Note that an expression cannot be assigned to. In the typed dialect literals and binary operations
pass, and calls unless `denyCall` says otherwise. -/
def checkTarget (denyCall : Bool) (e : Node) : Parse Unit := do
  let isStrict := (← read).isStrict
  if !(← isTyped) then
    if !e.isSimpleTarget isStrict then note .assignmentTarget e.lo
  else if isStrictName e then noteStrict .argumentsInStrict e.lo
  else
    let passes :=
      match e.unparen.kind with
      | .num _ | .bigInt _ | .str _ _ | .bool _ | .null | .regex _ _ | .binary _ => true
      | .call => !denyCall
      | _ => false
    if !passes && !e.isSimpleTarget isStrict then note .assignmentTarget e.lo

/-- A property of an object literal, read again as one of an object pattern. -/
def propertyAsPattern (g : Grammar) (role : PatternRole) (isLast : Bool) (comma : Option Nat)
    (p : Node) : Parse Node := do
  match p.kind with
  | .ident w => return Node.of .assignPatProp p.span [(.key, Node.leaf (.binding w false) p.span)]
  | .keyValue =>
    match p.child? .key, p.child? .value with
    | some k, some v =>
      return Node.of .keyValuePat p.span [(.key, k), (.value, ← g.asPattern role.element v)]
    | _, _ => return invalidNode p.span
  | .assignProp =>
    match p.child? .key, p.child? .value with
    | some k, some v =>
      let name :=
        match k.kind with
        | .ident w => Node.leaf (.binding w false) k.span
        | _ => k
      return Node.of .assignPatProp p.span [(.key, name), (.value, v)]
    | _, _ => return invalidNode p.span
  | .spread =>
    if !isLast then note .restNotLast p.lo
    else comma.forM fun pos => note .commaAfterRest pos
    match p.child? .expr with
    | none => return invalidNode p.span
    | some e =>
      let arg ←
        if role.element = .bindingElement then
          match e.kind with
          | .ident w => pure (Node.leaf (.binding w false) e.span)
          | _ => do
            note .restWithoutIdent p.lo
            pure (invalidNode p.span)
        else g.asPattern role.element e
      if arg.kind = .assignPat then note .restInitializer p.lo
      return Node.of .rest p.span [(.operand, arg)]
  | _ => failAt .notAPattern p.lo

/-- An element of an array literal, read again as one of an array pattern. -/
def elementAsPattern (g : Grammar) (role : PatternRole) (mayBeRest : Bool) (comma : Option Nat)
    (e : Node) : Parse (Option Node) := do
  match e.kind with
  | .hole => return some e
  | .spread =>
    if !mayBeRest then
      note .restNotLast e.lo
      return none
    match e.child? .expr with
    | none => return none
    | some inner =>
      if let .assign _ := inner.kind then note .restInitializer e.lo
      comma.forM fun pos => note .commaAfterRest pos
      let arg ← g.asPattern role.element inner
      return some (Node.of .rest inner.span [(.operand, arg)])
  | _ => return some (← g.asPattern role.element e)

def propertiesAsPatterns (g : Grammar) (role : PatternRole) (comma : Option Nat) :
    List Node → Parse (List Node)
  | [] => pure []
  | p :: ps => do
    let first ← propertyAsPattern g role ps.isEmpty comma p
    return first :: (← propertiesAsPatterns g role comma ps)

def elementsAsPatterns (g : Grammar) (role : PatternRole) (comma : Option Nat) :
    List Node → Parse (List Node)
  | [] => pure []
  | e :: es => do
    let first ← elementAsPattern g role es.isEmpty comma e
    return first.toList ++ (← elementsAsPatterns g role comma es)

/-- An expression read again as a pattern. -/
def asPatternRule (g : Grammar) (role : PatternRole) (e : Node) : Parse Node := do
  let isLiteral := e.kind = .object || e.kind = .array
  if role = .assign && !isLiteral then
    checkTarget true e
    match e.kind with
    | .ident w => return Node.leaf (.binding w false) e.span
    | _ => return e
  if role = .assignElement then
    match e.kind with
    | .array | .object | .assign _ => pure ()
    | .ident w =>
      if !e.isSimpleTarget (← read).isStrict then note .cannotAssign e.lo
      return Node.leaf (.binding w false) e.span
    | .member | .superProp | .call | .new _ | .num _ | .str _ _ | .bool _ | .null | .bigInt _
    | .regex _ _ | .fnExpr | .classExpr | .paren | .template | .asExpr | .nonNull | .satisfies
    | .typeAssertion =>
      if !e.isSimpleTarget (← read).isStrict then note .cannotAssign e.lo
      return e
    | _ => note .notAPattern e.lo
  let comma := ((← get).spreadCommas.find? fun p => p.1 == e.lo).map (·.2)
  match e.kind with
  | .assign .plain =>
    match e.child? .target, e.child? .right with
    | some l, some r => return Node.of .assignPat e.span [(.left, l), (.right, r)]
    | _, _ => return invalidNode e.span
  | .object =>
    let props ← propertiesAsPatterns g role comma (e.childrenIn .property)
    return Node.of (.objectPat false) e.span (Node.many .property props)
  | .ident w => return Node.leaf (.binding w false) e.span
  | .array =>
    let elems := e.childrenIn .element
    let kept := (elems.reverse.dropWhile fun n => n.kind = .hole).reverse
    let hasHoles := kept.length < elems.length
    let elems ←
      if hasHoles then do
        let ps ← elementsAsPatterns g role comma (kept ++ [Node.leaf .hole e.span])
        pure ps.dropLast
      else elementsAsPatterns g role comma kept
    return Node.of (.arrayPat false) e.span (Node.many .element elems)
  | _ =>
    note .notAPattern e.lo
    return invalidNode e.span

end Grammar

end AwaitCalls.Syntax
