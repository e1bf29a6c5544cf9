import AwaitCalls.Syntax.Grammar.Classes

/-!
# Rules for primary expressions

Literals, names, templates, and parentheses, which may turn out to hold the parameters of an arrow
function.
-/
namespace AwaitCalls.Syntax.Grammar

open AwaitCalls.Text Parse

/-- Forget that a colon ends the expression, inside brackets of any kind. -/
def noColon {α : Type} (p : Parse α) : Parse α :=
  inContext (fun c => { c with expectColon := false }) p

/-- Is this an arrow function that stands where it may, so that no operator follows it? -/
def isArrowHere (e : Node) : Parse Bool := do
  match e.kind with
  | .arrow _ => return (← get).arrowStart == some e.lo
  | _ => return false

/-- May the current token start an expression? -/
def startsExpr : Parse Bool := do
  match ← token with
  | .word w _ =>
    return !isReserved w || ["this", "super", "import", "function", "class", "new", "typeof", "void",
      "delete", "null", "true", "false"].contains w
  | .num _ | .bigInt _ | .str _ _ => return true
  | .punct p =>
    return ["\x7b", "(", "[", "`", "!", "~", "+", "-", "++", "--", "/", "/=", "<", "#", "@"].contains p
  | _ => return false

/-- The binary operator at the cursor that is spelled by a punctuator. -/
def atPunctOp? : Parse (Option BinaryOp) := do
  match ← token with
  | .punct p => return BinaryOp.ofPunct? p
  | _ => return none

/-- The binary operator at the cursor. -/
def atBinaryOp? : Parse (Option BinaryOp) := do
  if ← isWord "instanceof" then return some .instanceOf
  if (← isWord "in") && (← read).allowIn then return some .isIn
  atPunctOp?

/-- Operands joined by binary operators. A left operand that cannot be read, in front of an operator,
is noted and skipped. If a bad token is in its place, that is the fault. -/
def binaryExpr (g : Grammar) : Parse Node := do
  let first ←
    match ← caught g.unary with
    | .ok e => pure e
    | .error err => do
      match ← token with
      | .bad f p => if err.fault = .expectedExpression then throw ⟨f, p⟩
      | _ => pure ()
      match ← atBinaryOp? with
      | some _ =>
        noteHere .expectedExpression
        pure (invalidNode ⟨err.pos, err.pos⟩)
      | none => throw err
  if ← isArrowHere first then return first
  g.binaryRest first 0

/-- The rest of an assignment after its left side, if an assignment operator follows. -/
def finishAssign (g : Grammar) (lo : Nat) (e : Node) : Parse Node := do
  match ← token with
  | .punct p =>
    match AssignOp.ofPunct? p with
    | none => return e
    | some op =>
      let left ←
        if op = .plain then do
          let target ← g.asPattern .assign e
          if !target.isAssignTarget then failAt .invalidAssignTarget target.lo
          pure target
        else do
          if !e.isSimpleTarget (← read).isStrict then
            note (if ← isTyped then .assignmentTarget else .cannotAssign) e.lo
          if (← isTyped) && isStrictName e then noteStrict .argumentsInStrict e.lo
          if !e.isAssignTarget then failAt .invalidAssignTarget e.lo
          pure e
      bump
      let right ← g.assign
      return Node.of (.assign op) (← spanFrom lo) [(.target, left), (.right, right)]
  | _ => return e

def templateLiteral (g : Grammar) (isTagged : Bool) : Parse Node := do
  let lo ← here
  let parts ← noColon (templateParts isTagged (allowIn g.expr))
  return Node.of .template (← spanFrom lo) (orderTemplate parts)

def taggedTemplate (g : Grammar) (tag : Node) (args : Option Node) : Parse Node := do
  let tpl ← templateLiteral g true
  if let .optChain _ := tag.kind then note .taggedOptionalChain tag.lo
  return Node.of .tagged (← spanFrom tag.lo)
    ((Slot.tag, tag) :: Node.opt .typeArgs args ++ [(.template, tpl)])

/-- Flags that a regular expression may have. -/
def regexFlags : List Char := ['d', 'g', 'i', 'm', 's', 'u', 'v', 'y']

def regexLiteral : Parse Node := do
  let s ← get
  let lo := s.current.lo
  match s.source.regex? lo with
  | none =>
    set { s with current := { s.current with token := .bad .unterminatedRegex lo } }
    failAt .expectedExpression lo
  | some (body, flags, stop) =>
    resume (some { s.current with token := .str [] "", hi := stop }) stop
    let letters := flags.toList
    if letters.any fun c => !regexFlags.contains c then note .unknownRegexFlags lo
    (letters.eraseDups.filter fun c => letters.count c > 1).forM fun c =>
      note (.repeatedRegexFlag c) lo
    return Node.leaf (.regex body flags) ⟨lo, stop⟩

/-- A parameter in parentheses, known to be one only by what follows. -/
inductive ParenItem
  | expr (e : Node)
  | pattern (p : Node)

/-- An item in parentheses in the typed dialect, where a question mark or a colon may follow it. -/
def typedParenItem (g : Grammar) (lo : Nat) (hasModifier : Bool) : Parse ParenItem := do
  let patLo ← here
  let next ← peek
  let nextIsRef :=
    match next.token with
    | .word w _ => !isReserved w
    | _ => false
  let arg ←
    if (← atIdentRef) then do
      let e ← binaryExpr g
      if ← isArrowHere e then pure e else finishAssign g patLo e
    else if (← isPunct "...") && nextIsRef then do
      bump
      let e ← allowIn (binaryExpr g)
      pure (Node.of .spread (← spanFrom patLo) [(.expr, e)])
    else allowIn (spreadOrAssign g)
  let isSpread := arg.kind = .spread
  let inner := if isSpread then (arg.child? .expr).getD arg else arg
  let mut arg := arg
  let mut isOptional := false
  if ← isPunct "?" then
    let next ← peek
    if next.token.isPunct "," || next.token.isPunct ":" || next.token.isPunct ")" ||
        next.token.isPunct "=" then
      if isSpread then noteHere .restOptional
      bump
      match inner.kind with
      | .ident _ => isOptional := true
      | _ => failAt .optionalPattern arg.lo
    else if !isSpread then
      bump
      let cons ← inContext
        (fun c => { c with inConditional := true, expectColon := true, allowIn := true }) g.assign
      expect ":"
      let alt ← inContext (fun c => { c with inConditional := true, expectColon := false }) g.assign
      arg := Node.of .cond ⟨arg.lo, alt.hi⟩ [(.test, arg), (.consequent, cons), (.alternate, alt)]
  if isOptional || (← isPunct ":") then
    let p ← g.asPattern .binding (if isSpread then inner else arg)
    let p := if isOptional then asOptional p else p
    let p := if isSpread then Node.of .rest ⟨patLo, p.hi⟩ [(.operand, p)] else p
    let p ←
      match p.kind with
      | .binding _ _ | .arrayPat _ | .objectPat _ | .rest => do withTypeAnn p patLo (← typeAnn? g)
      | .assignPat => do
        if (← typeAnn? g).isSome then note .annotationAfterDefault patLo
        pure p
      | _ => pure p
    let p ←
      if ← eat "=" then do
        let right ← g.assign
        pure (Node.of .assignPat (← spanFrom patLo) [(.left, p), (.right, right)])
      else pure p
    if hasModifier then note .parameterProperty lo
    return .pattern p
  if hasModifier then note .parameterProperty lo
  return .expr arg

/-- Items in parentheses as parameters. -/
def itemsAsParams (g : Grammar) (comma : Option Nat) : List ParenItem → Parse (List Node)
  | [] => pure []
  | [.pattern p] => do
    if p.kind = .rest then comma.forM fun pos => note .commaAfterRest pos
    return [p]
  | [.expr e] => do
    match e.kind, e.child? .expr with
    | .spread, some inner =>
      if let .assign _ := inner.kind then note .restInitializer e.lo
      comma.forM fun pos => note .commaAfterRest pos
      let p ← g.asPattern .binding inner
      return [Node.of .rest e.span [(.operand, p)]]
    | _, _ => return [← g.asPattern .binding e]
  | item :: rest => do
    let first ←
      match item with
      | .pattern p =>
        if p.kind = .rest then do
          note .restParamNotLast p.lo
          pure []
        else pure [p]
      | .expr e =>
        if e.kind = .spread then do
          note .restParamNotLast e.lo
          pure []
        else pure [← g.asPattern .binding e]
    return first ++ (← itemsAsParams g comma rest)

/-- Strict code may not name a parameter `eval` or `arguments`. -/
def checkStrictParam (p : Node) : Parse Unit := do
  match p.kind with
  | .binding w _ =>
    if (← read).isStrict && (w = "eval" || w = "arguments") then note .evalOrArguments p.lo
  | _ => pure ()

/-- An arrow function from its body on. -/
def arrowFrom (g : Grammar) (lo : Nat) (isAsync : Bool) (ps : List Node) (tps ret : Option Node) :
    Parse Node := do
  let body ← arrowBody g isAsync (isSimpleParams ps)
  return Node.of (.arrow isAsync) (← spanFrom lo)
    (Node.many .param ps ++ [(.body, body)] ++ Node.opt .typeParams tps ++ Node.opt .returnType ret)

/-- Is the item a plain name? -/
def ParenItem.isName : ParenItem → Bool
  | .expr e =>
    match e.kind with
    | .ident _ => true
    | _ => false
  | .pattern p => p.kind.isBinding

/-- After an item, an arrow makes the items so far the parameters of one more item, if the first of them
is a name. The items come in reverse. -/
def arrowItem (g : Grammar) (lo : Nat) (isAsync : Bool) (items : List ParenItem) :
    Parse (List ParenItem) := do
  if !(← eat "=>") then return items
  if !(items.getLast?.any ParenItem.isName) then return items
  let ps ← itemsAsParams g none items.reverse
  let body ← arrowBody g false (isSimpleParams ps)
  let arrow := Node.of (.arrow isAsync) (← spanFrom lo) (Node.many .param ps ++ [(.body, body)])
  return .expr arrow :: items

/-- The items in parentheses, and the position of a comma after the last one. -/
def parenItems (g : Grammar) : Parse (List ParenItem × Option Nat) :=
  inContext (fun c => { c with expectColon := false, allowIn := true }) do
    expect "("
    let (items, comma) ← loop (([] : List ParenItem), (none : Option Nat)) fun (acc, comma) => do
      if ← isPunct ")" then return none
      let lo ← here
      let next ← peek
      let isAsync := (← isWord "async") && (next.token.isPunct "(" || next.token.isAnyWord)
      modify fun s => { s with arrowStart := some lo }
      let item ←
        if ← isTyped then do
          let hasModifier ← eatParamModifier
          typedParenItem g lo hasModifier
        else ParenItem.expr <$> spreadOrAssign g
      let acc ← arrowItem g lo isAsync (item :: acc)
      if ← isPunct ")" then return some (acc, comma)
      let pos ← here
      expect ","
      return some (acc, if ← isPunct ")" then some pos else comma)
    expect ")"
    return (items.reverse, comma)

/-- What stands in parentheses, or the arrow function whose parameters it is. For `async`, its span
is given, and without an arrow it is a call. -/
def parenOrArrow (g : Grammar) (canBeArrow : Bool) (async? : Option Span) : Parse Node := do
  let lo := (async?.map (·.lo)).getD (← here)
  let isAsync := async?.isSome
  let (items, comma) ← parenItems g
  let hasPattern := items.any fun
    | .pattern _ => true
    | .expr _ => false
  let typed ← isTyped
  let expectsColon := (← read).expectColon
  if typed && (← read).inConditional && (← isPunct ":") then
    let arrow ← trial do
      let ret ← returnType g ":"
      expect "=>"
      let ps ← itemsAsParams g none items
      let e ← arrowFrom g lo isAsync ps none (some ret)
      if expectsColon && !(← isPunct ":") then return none
      return some e
    if let some e := arrow then return e
  let ret ←
    if !expectsColon && typed && (← isPunct ":") then
      trial do
        let ret ← returnType g ":"
        if ← isPunct "=>" then return some ret else return none
    else pure none
  if hasPattern || (← isPunct "=>") then
    if ← afterBreak then failAt .lineBreakBeforeArrow lo
    if !canBeArrow then failAt .arrowNotAllowed lo
    expect "=>"
    let ps ← itemsAsParams g comma items
    ps.forM checkStrictParam
    let e ← arrowFrom g lo isAsync ps none ret
    if ((e.child? .body).any fun b => b.kind = .block) && (← atPunctOp?).isSome then
      noteHere .expectedSemicolon
      return ← g.binaryRest e 0
    return e
  let exprs := items.filterMap fun
    | .expr e => some e
    | .pattern _ => none
  exprs.forM fun e => do
    if e.kind = .object then
      (e.childrenIn .property).forM fun p => do
        if p.kind = .assignProp then note .shorthandDefault p.lo
  if let some span := async? then
    let callee := Node.leaf (.ident "async") span
    return Node.of .call (← spanFrom lo) ((Slot.callee, callee) :: Node.many .arg exprs)
  match exprs with
  | [] => failAt .emptyParens lo
  | [e] =>
    if e.kind = .spread then failAt .spreadInParens ((e.child? .expr).getD e).lo
    return Node.of .paren (← spanFrom lo) [(.expr, e)]
  | first :: _ =>
    exprs.forM fun e => do
      if e.kind = .spread then failAt .spreadInParens ((e.child? .expr).getD e).lo
    let last := exprs.getLastD first
    let seq := Node.of .seq ⟨first.lo, last.hi⟩ (Node.many .element exprs)
    return Node.of .paren (← spanFrom lo) [(.expr, seq)]

/-- An asynchronous arrow function with type parameters; `async` is read already. -/
def genericAsyncArrow? (g : Grammar) (lo : Nat) : Parse (Option Node) := do
  if !(← isPunct "<") || (← read).dialect.jsx then return none
  let head ← trial do
    let tps ← typeParams g false false
    expect "("
    let ps ← formalParams g
    expect ")"
    let ret ← if ← isPunct ":" then some <$> returnType g ":" else pure none
    expect "=>"
    return some (tps, ps.filterMap fun p => p.child? .value, ret)
  match head with
  | none => return none
  | some (tps, ps, ret) => return some (← arrowFrom g lo true ps (some tps) ret)

/-- What `async` starts, if it is not just a name. -/
def asyncStart? (g : Grammar) (canBeArrow : Bool) : Parse (Option Node) := do
  let span ← hereSpan
  let next ← peek
  if next.token.isWord "function" && !next.afterBreak then return some (← functionExpr g)
  if canBeArrow && (← isTyped) && next.token.isPunct "<" then
    let arrow ← trial do
      bump
      genericAsyncArrow? g span.lo
    if arrow.isSome then return arrow
  if canBeArrow && next.token.isPunct "(" && !next.afterBreak then
    bump
    return some (← parenOrArrow g canBeArrow (some span))
  return none

/-- A name, or the arrow function whose only parameter it is. -/
def nameOrArrow (g : Grammar) (canBeArrow : Bool) : Parse Node := do
  let lo ← here
  let isPlainAsync ← isWord "async"
  let ctx ← read
  let id ← identRef (!ctx.inAsync)
  if canBeArrow && isPlainAsync && !(← afterBreak) && (← atIdentRef) then
    if ctx.inForHead && (← isWord "of") && !(← peekPunct "=>") then
      if !ctx.inForAwaitHead then note .forOfAsync id.lo
      return id
    let p ← inContext (fun c => { c with inAsync := true }) (bindingIdent false)
    if (← isTyped) && (match p.kind with | .binding "as" _ => true | _ => false) &&
        !(← isPunct "=>") then
      let ty ← g.type
      return Node.of .asExpr (← spanFrom lo) [(.expr, id), (.typeAnn, ty)]
    expect "=>"
    arrowFrom g lo true [p] none none
  else if canBeArrow && !(← afterBreak) && (← isPunct "=>") then
    bump
    let p :=
      match id.kind with
      | .ident w => Node.leaf (.binding w false) id.span
      | _ => id
    checkStrictParam p
    arrowFrom g lo false [p] none none
  else return id

/-- An expression without operators, properties or calls. -/
def primary (g : Grammar) : Parse Node := do
  let span ← hereSpan
  let canBeArrow := (← get).arrowStart == some span.lo
  let leaf (k : Kind) : Parse Node := do
    bump
    return Node.leaf k span
  match ← token with
  | .word w _ =>
    if w = "async" then
      if let some e ← asyncStart? g canBeArrow then return e
      nameOrArrow g canBeArrow
    else if w = "this" then leaf .this
    else if w = "null" then leaf .null
    else if w = "true" then leaf (.bool true)
    else if w = "false" then leaf (.bool false)
    else if w = "function" then functionExpr g
    else if w = "class" then classExpr g span.lo []
    else if w = "let" || (← atIdentRef) then nameOrArrow g canBeArrow
    else fail .expectedExpression
  | .num raw => leaf (.num raw)
  | .bigInt raw => leaf (.bigInt raw)
  | .str v raw => leaf (.str v raw)
  | .punct "[" => noColon (arrayLiteral g)
  | .punct "\x7b" => objectLiteral g
  | .punct "(" => parenOrArrow g canBeArrow none
  | .punct "/" => regexLiteral
  | .punct "/=" => regexLiteral
  | .punct "`" => templateLiteral g false
  | .punct "#" => privateName
  | .punct "@" =>
    if (← read).dialect.decorators then
      let ds ← decorators g false
      if ← isWord "class" then classExpr g span.lo ds else fail .expectedExpression
    else fail .expectedExpression
  | _ => fail .expectedExpression

end AwaitCalls.Syntax.Grammar
