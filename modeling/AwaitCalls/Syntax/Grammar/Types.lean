import AwaitCalls.Text.StringLiteral
import AwaitCalls.Syntax.Grammar.Basic

/-!
# Rules for types
-/
namespace AwaitCalls.Syntax.Grammar

open AwaitCalls.Text Parse

/-- Step over a modifier, if what follows shows that the word is one. `isEnd` tells words that are none
by the token after them. -/
def modifierUnless? (isEnd : String → Lexeme → Bool) (allowed : List String) :
    Parse (Option String) := do
  if !(← isTyped) then return none
  match ← token with
  | .eof => fail .endOfText
  | .bad f p => throw ⟨f, p⟩
  | .word w _ =>
    if (isReserved w && w ≠ "in" && w ≠ "const") || !allowed.contains w then return none
    let next ← peek
    let follows :=
      match next.token with
      | .punct p => ["[", "\x7b", "*", "...", "#"].contains p
      | .word _ _ | .str _ _ | .num _ | .bigInt _ => true
      | _ => false
    if follows && !isEnd w next then
      bump
      return some w
    else return none
  | _ => return none

/-- Step over a modifier on the line of what it modifies. -/
def modifier? (allowed : List String) : Parse (Option String) :=
  modifierUnless? (fun _ next => next.afterBreak) allowed

/-- Close a list of types. A longer token that begins with `>` is split. -/
def expectGt : Parse Unit := do
  splitPunct '>'
  expect ">"

def atTypeArgs : Parse Bool := return (← isPunct "<") || (← isPunct "<<")

/-- Elements with commas between them up to a closing punctuator, which is not read. `missing` says what
to do without a comma. -/
def commaListWith (missing : Parse Unit) (isEnd : Parse Bool) (element : Parse Node) :
    Parse (List Node) := do
  let done ← loop (([] : List Node), false) fun (acc, stop) => do
    if stop || (← isEnd) then return none
    let e ← element
    if ← eat "," then return some (e :: acc, false)
    if ← isEnd then return some (e :: acc, true)
    missing
    return some (e :: acc, false)
  return done.1.reverse

/-- Elements of which a missing comma ends the reading. -/
def commaList (isEnd : Parse Bool) (element : Parse Node) : Parse (List Node) :=
  commaListWith (expect ",") isEnd element

def atGt : Parse Bool := do
  match ← token with
  | .punct p => return p.toList.head? == some '>'
  | _ => return false

/-- Type arguments such as `<A, B>`. -/
def typeArgs (g : Grammar) : Parse Node := do
  let lo ← here
  let args ← do
    splitPunct '<'
    expect "<"
    commaList atGt g.type
  expectGt
  let span ← spanFrom lo
  if args.isEmpty then note .emptyTypeArgs span.lo
  return Node.of .typeArgs span (Node.many .element args)

/-- A type after a punctuator, if the punctuator is there. -/
def typeAfter? (g : Grammar) (p : String) : Parse (Option Node) := do
  if ← eat p then return some (← g.type) else return none

def typeAfterWord? (g : Grammar) (w : String) : Parse (Option Node) := do
  if ← eatWord w then return some (← g.type) else return none

/-- A type parameter with its variance modifiers. -/
def typeParam (g : Grammar) (allowVariance allowConst : Bool) : Parse Node := do
  let lo ← here
  let (isIn, isOut, isConst) ← loop (false, false, false) fun (isIn, isOut, isConst) => do
    match ← modifierUnless? (fun _ _ => false) ["public", "private", "protected", "readonly",
        "abstract", "const", "override", "in", "out"] with
    | none => return none
    | some "const" =>
      if !allowConst then note .constModifier (← lastSpan).lo
      return some (isIn, isOut, true)
    | some "in" =>
      if !allowVariance then note (.varianceModifier "in") (← lastSpan).lo
      else if isIn then note (.repeatedModifier "in") (← lastSpan).lo
      else if isOut then note (.modifierOrder "in" "out") (← lastSpan).lo
      return some (true, isOut, isConst)
    | some "out" =>
      if !allowVariance then note (.varianceModifier "out") (← lastSpan).lo
      else if isOut then note (.repeatedModifier "out") (← lastSpan).lo
      return some (isIn, true, isConst)
    | some w =>
      note (.typeParamModifier w) (← lastSpan).lo
      return some (isIn, isOut, isConst)
  let name ← takeWord
  let constraint ← typeAfterWord? g "extends"
  let default ← typeAfter? g "="
  return Node.of (.typeParam name isIn isOut isConst) (← spanFrom lo)
    (Node.opt .constraint constraint ++ Node.opt .defaultType default)

/-- Type parameters such as `<T, U extends V>`. -/
def typeParams (g : Grammar) (allowVariance allowConst : Bool) : Parse Node := do
  let lo ← here
  if !(← isPunct "<") then unexpected "< (jsx tag start)"
  bump
  let params ← commaList atGt (typeParam g allowVariance allowConst)
  expectGt
  return Node.of .typeParams (← spanFrom lo) (Node.many .element params)

def typeParams? (g : Grammar) (allowVariance allowConst : Bool) : Parse (Option Node) := do
  if ← isPunct "<" then return some (← typeParams g allowVariance allowConst) else return none

/-- A type annotation from its colon or arrow, which is read already, on. -/
def typeAnnFrom (g : Grammar) (lo : Nat) : Parse Node := do
  let t ← g.type
  return Node.of .typeAnn (← spanFrom lo) [(.typeAnn, t)]

/-- A type annotation with its colon, if there is one. -/
def typeAnn? (g : Grammar) : Parse (Option Node) := do
  if (← isTyped) && (← isPunct ":") then
    let lo ← here
    bump
    return some (← typeAnnFrom g lo)
  else return none

/-- A dotted name of a type. -/
def entityName (allowReserved : Bool) : Parse Node := do
  let lo ← here
  let first ← propertyName
  let start := Node.leaf (.ident (match first.kind with | .name w => w | _ => "")) first.span
  if start.kind = .ident "void" then noteHere .expectedSemicolon
  loop start fun left => do
    if ← eat "." then
      if !(← token).isAnyWord && !(← isPunct "#") then
        noteHere .identifierExpected
        return none
      let right ←
        if allowReserved then propertyName
        else do
          let (w, span) ← identText false
          pure (Node.leaf (.name w) span)
      return some (Node.of .qualified (← spanFrom lo) [(.left, left), (.right, right)])
    else return none

/-- A return type, which may be a predicate on a parameter. `mark` is the colon or arrow before it. -/
def returnType (g : Grammar) (mark : String) : Parse Node := do
  let lo ← here
  expect mark
  let predLo ← here
  let asserts ←
    if ← isWord "asserts" then
      let next ← peek
      match next.token with
      | .word w _ => pure (!next.afterBreak && (!(← read).reserves w || w == "this"))
      | _ => pure false
    else pure false
  if asserts then bump
  let next ← peek
  let isPredicate := next.token.isWord "is" && !next.afterBreak
  let hasIs := isPredicate && ((← atIdentRef) || (← isWord "this"))
  if !(asserts || hasIs) then typeAnnFrom g lo
  else
    let nameSpan ← hereSpan
    let w ← takeWord
    let name :=
      if w = "this" then Node.leaf .typeThis nameSpan else Node.leaf (.ident w) nameSpan
    let ann ←
      if hasIs then do
        bump
        let annLo ← here
        pure (some (← typeAnnFrom g annLo))
      else pure none
    let pred := Node.of (.typePredicate asserts) (← spanFrom predLo)
      ((Slot.ident, name) :: Node.opt .typeAnn ann)
    return Node.of .typeAnn (← spanFrom lo) [(.typeAnn, pred)]

/-- The end of a member of an object type. -/
def typeMemberEnd : Parse Unit := do
  if !(← eat ",") then expectSemicolon

/-- Step over a modifier in front of a parameter of a type. -/
def eatParamModifier : Parse Bool := do
  match ← token with
  | .word w _ =>
    if ["public", "protected", "private", "readonly"].contains w then
      let next ← peek
      let follows := next.token.isAnyWord || next.token.isPunct "\x7b" || next.token.isPunct "["
      if follows then return (← modifier? ["public", "protected", "private", "readonly"]).isSome
      else return false
    else return false
  | _ => return false

/-- Does a parenthesis at the cursor open the parameters of a function type? -/
def opensFunctionType (g : Grammar) : Parse Bool := lookahead false do
  bump
  if (← isPunct ")") || (← isPunct "...") then return true
  let _ ← eatParamModifier
  let skipped ←
    if (← token).isAnyWord then
      bump
      pure true
    else if (← isPunct "\x7b") || (← isPunct "[") then
      let _ ← g.bindingPattern false
      pure true
    else pure false
  if !skipped then return false
  if (← isPunct ":") || (← isPunct ",") || (← isPunct "=") || (← isPunct "?") then return true
  if ← eat ")" then isPunct "=>" else return false

/-- The parameters of a signature with the closing parenthesis. They have no default values. -/
def signatureParams (g : Grammar) : Parse (List Node) := do
  let ps ← g.params
  let patterns := ps.filterMap fun p => p.child? .value
  if patterns.any fun p => p.kind = .assignPat then
    unexpected ("an identifier, [ for an array pattern, \x7b for an object patter or ... for a rest " ++
      "pattern")
  expect ")"
  return patterns

/-- A function type, or with `new` a constructor type. -/
def functionType (g : Grammar) (isFunction : Bool) : Parse Node := do
  let lo ← here
  let isAbstract ← if isFunction then pure false else eatWord "abstract"
  if !isFunction then expectWord "new"
  let tps ← typeParams? g false true
  expect "("
  let ps ← signatureParams g
  let ret ← returnType g "=>"
  return Node.of (if isFunction then .typeFn else .typeCtor isAbstract) (← spanFrom lo)
    (Node.many .formal ps ++ Node.opt .typeParams tps ++ [(.returnType, ret)])

/-- Types joined by an operator, which may also stand before the first one. -/
def joinedTypes (op : String) (kind : Kind) (part : Parse Node) : Parse Node := do
  let lo ← here
  let _ ← eat op
  let first ← part
  if ← isPunct op then
    let rest ← collect do
      if ← eat op then return some (← part) else return none
    return Node.of kind (← spanFrom lo) (Node.many .element (first :: rest))
  else return first

/-- A type other than a conditional one. -/
def nonConditionalType (g : Grammar) : Parse Node := do
  if (← isPunct "<") || ((← isPunct "(") && (← opensFunctionType g)) then functionType g true
  else if (← isWord "new") || ((← isWord "abstract") && (← peekWord "new")) then functionType g false
  else joinedTypes "|" .typeUnion (joinedTypes "&" .typeIntersection g.typeOperator)

/-- A type. -/
def typeRule (g : Grammar) : Parse Node := do
  let ty ← inContext (fun c => { c with noConditionalTypes := false }) (nonConditionalType g)
  if (← afterBreak) || !(← isWord "extends") then return ty
  bump
  let ext ← inContext (fun c => { c with noConditionalTypes := true }) (nonConditionalType g)
  expect "?"
  let yes ← inContext (fun c => { c with noConditionalTypes := false }) g.type
  expect ":"
  let no ← inContext (fun c => { c with noConditionalTypes := false }) g.type
  return Node.of .typeConditional (← spanFrom ty.lo)
    [(.checkType, ty), (.extendsType, ext), (.trueType, yes), (.falseType, no)]

/-- A named type with its arguments. -/
def typeReference (g : Grammar) : Parse Node := do
  let lo ← here
  let hasModifier ← eatParamModifier
  let name ← entityName true
  let args ← if !(← afterBreak) && (← atTypeArgs) then some <$> typeArgs g else pure none
  if hasModifier then note .parameterProperty lo
  return Node.of .typeRef (← spanFrom lo) ((Slot.ident, name) :: Node.opt .typeArgs args)

/-- Key of a member of an object type, and whether it stands in brackets. -/
def typeMemberKey (g : Grammar) : Parse (Bool × Node) := do
  if ← eat "[" then
    let key ← g.assign
    expect "]"
    return (true, key)
  match ← token with
  | .num _ | .str _ _ => return (false, ← g.memberOrNew true)
  | _ =>
    let n ← memberName
    match n.kind with
    | .name w => return (false, Node.leaf (.ident w) n.span)
    | _ =>
      note .privateInInterface n.lo
      return (false, n)

/-- An index signature such as `[key: string]: T`, if the bracket opens one. -/
def indexSignature? (g : Grammar) (lo : Nat) (mods : Modifiers) : Parse (Option Node) := do
  if !(← isPunct "[") then return none
  let opens ← lookahead false do
    bump
    if ← atIdentRef then
      bump
      return (← isPunct ":") || (← isPunct ",")
    else return false
  if !opens then return none
  bump
  let paramLo ← here
  let name ← takeWord
  let annLo ← here
  if ← eat "," then note .indexSignatureParams paramLo else expect ":"
  let ann ← typeAnnFrom g annLo
  let param := Node.of (.binding name false) (← spanFrom paramLo) [(.typeAnn, ann)]
  expect "]"
  let ty ← typeAnn? g
  typeMemberEnd
  return some (Node.of (.indexSignature mods) (← spanFrom lo)
    ((Slot.formal, param) :: Node.opt .typeAnn ty))

/-- A call signature, or with `new` a construct signature. -/
def callSignature (g : Grammar) (isCall : Bool) : Parse Node := do
  let lo ← here
  if !isCall then expectWord "new"
  let tps ← typeParams? g false true
  expect "("
  let ps ← signatureParams g
  let ret ← if ← isPunct ":" then some <$> returnType g ":" else pure none
  typeMemberEnd
  return Node.of (if isCall then .callSig else .ctorSig) (← spanFrom lo)
    (Node.many .formal ps ++ Node.opt .returnType ret ++ Node.opt .typeParams tps)

/-- A getter or setter of an object type. -/
def accessorSignature? (g : Grammar) (isReadonly : Bool) : Parse (Option Node) := trial do
  let lo ← here
  if isReadonly then fail .accessorReadonly
  let isGet ← eatWord "get"
  if !isGet then expectWord "set"
  let (isComputed, key) ← typeMemberKey g
  expect "("
  if isGet then
    expect ")"
    let ann ← typeAnn? g
    typeMemberEnd
    return some (Node.of (.getterSig isComputed) (← spanFrom lo)
      ((Slot.key, key) :: Node.opt .typeAnn ann))
  else
    let ps ← signatureParams g
    match ps with
    | [] => fail .setterParams
    | p :: _ =>
      typeMemberEnd
      return some (Node.of (.setterSig isComputed) (← spanFrom lo) [(.key, key), (.formal, p)])

/-- A member of an object type or interface. -/
def typeMember (g : Grammar) : Parse Node := do
  if (← isPunct "(") || (← isPunct "<") then callSignature g true
  else
    let next ← peek
    if (← isWord "new") && (next.token.isPunct "(" || next.token.isPunct "<") then
      callSignature g false
    else
      let lo ← here
      let isReadonly := (← modifier? ["readonly"]).isSome
      let mods : Modifiers := { isReadonly := isReadonly }
      if let some idx ← indexSignature? g lo mods then return idx
      if let some acc ← accessorSignature? g isReadonly then return acc
      let (isComputed, key) ← typeMemberKey g
      let isOptional ← eat "?"
      if (← isPunct "(") || (← isPunct "<") then
        if isReadonly then fail .readonlyMethod
        let tps ← typeParams? g false true
        expect "("
        let ps ← signatureParams g
        let ret ← if ← isPunct ":" then some <$> returnType g ":" else pure none
        typeMemberEnd
        return Node.of (.methodSig isComputed isOptional) (← spanFrom lo)
          ((Slot.key, key) :: Node.many .formal ps ++ Node.opt .returnType ret ++
            Node.opt .typeParams tps)
      else
        let ann ← typeAnn? g
        typeMemberEnd
        return Node.of (.propertySig isReadonly isComputed isOptional) (← spanFrom lo)
          ((Slot.key, key) :: Node.opt .typeAnn ann)

/-- The members of an object type or interface with their braces. -/
def typeMembers (g : Grammar) : Parse (List Node) := do
  expect "\x7b"
  let ms ← collect do
    if ← isPunct "\x7d" then return none else return some (← typeMember g)
  expect "\x7d"
  return ms

/-- Does a brace at the cursor open a mapped type? -/
def opensMappedType : Parse Bool := lookahead false do
  bump
  let isSigned ← if ← eat "+" then pure true else eat "-"
  if isSigned then isWord "readonly"
  else
    let _ ← eatWord "readonly"
    if !(← eat "[") then return false
    if !(← atIdentRef) then return false
    bump
    isWord "in"

/-- A sign and a mark, a mark alone, or nothing. -/
def mappedModifier (mark : Parse Bool) (expectMark : Parse Unit) : Parse MappedModifier := do
  if ← eat "+" then
    expectMark
    return .plus
  else if ← eat "-" then
    expectMark
    return .minus
  else if ← mark then return .present
  else return .absent

def mappedType (g : Grammar) : Parse Node := do
  let lo ← here
  expect "\x7b"
  let readonlyMod ← mappedModifier (eatWord "readonly") (expectWord "readonly")
  expect "["
  let paramLo ← here
  let name ← takeWord
  expectWord "in"
  let constraint ← g.type
  let param := Node.of (.typeParam name false false false) (← spanFrom paramLo)
    [(.constraint, constraint)]
  let nameType ← if ← eatWord "as" then some <$> g.type else pure none
  expect "]"
  let optionalMod ← mappedModifier (eat "?") (expect "?")
  let ann ← if ← eat ":" then some <$> g.type else pure none
  expectSemicolon
  expect "\x7d"
  return Node.of (.typeMapped readonlyMod optionalMod) (← spanFrom lo)
    ((Slot.param, param) :: Node.opt .nameType nameType ++ Node.opt .typeAnn ann)

/-- The name before the colon of a tuple element. -/
def tupleLabel? : Parse (Option Node) := trial do
  let lo ← here
  let isRest ← eat "..."
  let nameLo ← here
  let w ← takeWord
  let isOptional ← eat "?"
  let ident := Node.leaf (.binding w isOptional) (← spanFrom nameLo)
  expect ":"
  if isRest then return some (Node.of .rest (← spanFrom lo) [(.operand, ident)])
  else return some ident

def tupleElement (g : Grammar) : Parse Node := do
  let lo ← here
  let label ← tupleLabel?
  if ← eat "..." then
    let ty ← g.type
    let rest := Node.of .typeRest (← spanFrom lo) [(.typeAnn, ty)]
    return Node.of .tupleElement (← spanFrom lo) (Node.opt .label label ++ [(.typeAnn, rest)])
  let ty ← g.type
  let ty ←
    if ← eat "?" then pure (Node.of .typeOptional (← spanFrom lo) [(.typeAnn, ty)]) else pure ty
  return Node.of .tupleElement (← spanFrom lo) (Node.opt .label label ++ [(.typeAnn, ty)])

def tupleType (g : Grammar) : Parse Node := do
  let lo ← here
  expect "["
  let elems ← commaList (isPunct "]") (tupleElement g)
  expect "]"
  let kinds := elems.filterMap fun e => (e.child? .typeAnn).map Node.kind
  let afterOptional := kinds.dropWhile fun k => k ≠ .typeOptional
  if afterOptional.any fun k => k ≠ .typeOptional && k ≠ .typeRest then
    failAt .requiredAfterOptional lo
  return Node.of .typeTuple (← spanFrom lo) (Node.many .element elems)

/-- The attributes of an imported type: an object that says `with` which object. -/
def importTypeAttributes (g : Grammar) : Parse Node := do
  let lo ← here
  expect "\x7b"
  let keySpan ← hereSpan
  expectWord "with"
  expect ":"
  let value ← g.object
  let _ ← eat ","
  expect "\x7d"
  let entry := Node.of .keyValue ⟨keySpan.lo, value.hi⟩
    [(.key, Node.leaf (.name "with") keySpan), (.value, value)]
  return Node.of .object (← spanFrom lo) [(.property, entry)]

/-- A type that another module exports. -/
def importType (g : Grammar) : Parse Node := do
  let lo ← here
  expectWord "import"
  expect "("
  let span ← hereSpan
  let arg ←
    if (← token).isStr then stringLiteral
    else do
      bump
      note .importTypeName span.lo
      pure (Node.leaf (.str [] "\"\"") span)
  let attrs ←
    if (← eat ",") && (← isPunct "\x7b") then some <$> importTypeAttributes g else pure none
  expect ")"
  let qualifier ← if ← eat "." then some <$> entityName false else pure none
  let args ← if ← atTypeArgs then some <$> typeArgs g else pure none
  return Node.of .typeImport (← spanFrom lo)
    ((Slot.arg, arg) :: Node.opt .attributes attrs ++ Node.opt .qualifier qualifier ++
      Node.opt .typeArgs args)

def typeQuery (g : Grammar) : Parse Node := do
  let lo ← here
  expectWord "typeof"
  let name ← if ← isWord "import" then importType g else entityName true
  let args ← if !(← afterBreak) && (← atTypeArgs) then some <$> typeArgs g else pure none
  return Node.of .typeQuery (← spanFrom lo) ((Slot.ident, name) :: Node.opt .typeArgs args)

/-- The pieces and holes of a template. The cursor stands at its backquote; `hole` reads what stands
in braces. `isTagged` lets bad escapes pass. -/
def templateParts (isTagged : Bool) (hole : Parse Node) : Parse (List (Slot × Node)) := do
  let start ← here
  let piece (pos : Nat) : Parse (Node × Nat × Source.TemplateEnd) := do
    let s ← get
    let (stop, ending, bad) := s.source.templatePiece (s.source.size + 1 - pos) pos none
    if ending = .cut then throw ⟨.unterminatedTemplate, pos - 1⟩
    if let some e := bad then
      if !isTagged then throw e
    return (Node.leaf (.quasi (s.source.slice pos stop)) ⟨pos, stop⟩, stop, ending)
  let close (stop : Nat) : Parse Unit := do
    let cur := (← get).current
    resume (some { cur with token := .punct "`" }) stop
  let (first, stop, ending) ← piece (start + 1)
  if ending = .closed then
    close (stop + 1)
    return [(.quasi, first)]
  let done ← loop ([(Slot.quasi, first)], stop, false) fun (acc, stop, finished) => do
    if finished then return none
    let cur := (← get).current
    resume (some { cur with token := .punct "$\x7b" }) (stop + 2)
    let e ← hole
    if !(← isPunct "\x7d") then unexpected "`\x7d`"
    let (q, stop, ending) ← piece (← get).current.hi
    let acc := (Slot.quasi, q) :: (Slot.expr, e) :: acc
    if ending = .closed then
      close (stop + 1)
      return some (acc, stop, true)
    else return some (acc, stop, false)
  return done.1.reverse

/-- The parts of a template in visiting order: the expressions before the pieces of text. -/
def orderTemplate (parts : List (Slot × Node)) : List (Slot × Node) :=
  parts.filter (fun p => p.1 = .expr) ++ parts.filter (fun p => p.1 = .quasi)

/-- Types that are one word. -/
def keywordTypes : List String :=
  ["void", "null", "any", "boolean", "bigint", "never", "number", "object", "string", "symbol",
   "unknown", "undefined", "intrinsic"]

/-- A predicate on `this`. -/
def thisPredicate (g : Grammar) (lo : Nat) (asserts : Bool) (self : Node) : Parse Node := do
  let ann ←
    if ← isWord "is" then do
      bump
      let annLo ← here
      pure (some (← typeAnnFrom g annLo))
    else pure none
  return Node.of (.typePredicate asserts) (← spanFrom lo)
    ((Slot.ident, self) :: Node.opt .typeAnn ann)

/-- A type without operators around it. -/
def primaryType (g : Grammar) : Parse Node := do
  let lo ← here
  let span ← hereSpan
  let literal (k : Kind) : Parse Node := do
    bump
    return Node.of .typeLiteral span [(.typeAnn, Node.leaf k span)]
  match ← token with
  | .word w _ =>
    if w = "true" || w = "false" then literal (.bool (w == "true"))
    else if w = "import" then importType g
    else if w = "typeof" then typeQuery g
    else if w = "this" then
      bump
      let self := Node.leaf .typeThis span
      if !(← afterBreak) && (← isWord "is") then thisPredicate g lo false self else return self
    else if !isReserved w || ["void", "null", "break", "enum"].contains w then
      let next ← peek
      if w = "asserts" && next.token.isWord "this" then
        bump
        let selfSpan ← hereSpan
        bump
        thisPredicate g lo true (Node.leaf .typeThis selfSpan)
      else if keywordTypes.contains w && !next.token.isPunct "." then
        bump
        return Node.leaf (.typeKeyword w) span
      else typeReference g
    else unexpectedType
  | .str v raw => literal (.str v raw)
  | .num raw => literal (.num raw)
  | .bigInt raw => literal (.bigInt raw)
  | .punct "`" =>
    let parts ← templateParts false g.type
    let span ← spanFrom lo
    return Node.of .typeLiteral span [(.typeAnn, Node.of .typeTemplate span (orderTemplate parts))]
  | .punct "-" =>
    bump
    match ← token with
    | .num raw =>
      bump
      let span ← spanFrom lo
      return Node.of .typeLiteral span [(.typeAnn, Node.leaf (.num ("-" ++ raw)) span)]
    | .bigInt raw =>
      bump
      let span ← spanFrom lo
      return Node.of .typeLiteral span [(.typeAnn, Node.leaf (.bigInt ("-" ++ raw)) span)]
    | _ => unexpected "numeric literal or bigint literal"
  | .punct "\x7b" =>
    if ← opensMappedType then mappedType g
    else
      let ms ← typeMembers g
      return Node.of .typeLit (← spanFrom lo) (Node.many .member ms)
  | .punct "[" => tupleType g
  | .punct "(" =>
    bump
    let ty ← g.type
    expect ")"
    return Node.of .typeParen (← spanFrom lo) [(.typeAnn, ty)]
  | _ => unexpectedType
where
  unexpectedType : Parse Node :=
    unexpected ("an identifier, void, yield, null, await, break, a string literal, a numeric " ++
      "literal, true, false, `, -, import, this, typeof, \x7b, [, (")

/-- A type with brackets after it. -/
def arrayType (g : Grammar) : Parse Node := do
  let first ← primaryType g
  loop first fun ty => do
    if ← afterBreak then return none
    if ← eat "[" then
      if ← eat "]" then
        return some (Node.of .typeArray (← spanFrom ty.lo) [(.typeAnn, ty)])
      else
        let idx ← g.type
        expect "]"
        return some (Node.of .typeIndexed (← spanFrom ty.lo) [(.object, ty), (.indexType, idx)])
    else return none

/-- `infer T`, with a constraint where no conditional type follows. -/
def inferType (g : Grammar) : Parse Node := do
  let lo ← here
  bump
  let paramLo ← here
  let name ← takeWord
  let ctx ← read
  let constraint ← trial do
    expectWord "extends"
    let c ← nonConditionalType g
    if ctx.noConditionalTypes || !(← isPunct "?") then return some c else return none
  let param := Node.of (.typeParam name false false false) (← spanFrom paramLo)
    (Node.opt .constraint constraint)
  return Node.of .typeInfer (← spanFrom lo) [(.param, param)]

/-- An operator on types with its operand, or an array type. -/
def typeOperatorRule (g : Grammar) : Parse Node := do
  let lo ← here
  match ← token with
  | .eof => fail .endOfText
  | .bad f p => throw ⟨f, p⟩
  | .word w _ =>
    if w = "keyof" || w = "unique" || w = "readonly" then
      bump
      let ty ← g.typeOperator
      return Node.of (.typeOperator w) (← spanFrom lo) [(.typeAnn, ty)]
    else if w = "infer" then inferType g
    else arrayType g
  | _ => arrayType g

/-- A list of classes or interfaces after `extends` or `implements`. -/
def heritageClause (g : Grammar) : Parse (List Node) := do
  let isEnd : Parse Bool := do
    return (← isPunct "\x7b") || (← isWord "implements") || (← isWord "extends")
  commaList isEnd do
    let lo ← here
    let name ← propertyName
    let base := Node.leaf (.ident (match name.kind with | .name w => w | _ => "")) name.span
    let e ← g.subscripts base true true
    match e.kind with
    | .instantiation =>
      return Node.of .heritage (← spanFrom lo)
        (Node.opt .expr (e.child? .instantiated) ++ Node.opt .typeArgs (e.child? .typeArgs))
    | k =>
      let isName :=
        match k with
        | .ident _ | .member => true
        | _ => false
      if !isName then note .interfaceBase lo
      let args ← if ← atTypeArgs then some <$> typeArgs g else pure none
      return Node.of .heritage (← spanFrom lo) ((Slot.expr, e) :: Node.opt .typeArgs args)

/-- Names of types that no class or interface may take. -/
def typeWords : List String :=
  ["string", "null", "number", "object", "any", "unknown", "boolean", "bigint", "symbol", "void",
   "never", "intrinsic"]

/-- An interface from its name on. -/
def interfaceDecl (g : Grammar) (lo : Nat) : Parse Node := do
  let nameSpan ← hereSpan
  let w ← takeWord
  if typeWords.contains w then note .interfaceName nameSpan.lo
  let name := Node.leaf (.ident w) nameSpan
  let tps ← typeParams? g true false
  let ext ← if ← eatWord "extends" then heritageClause g else pure []
  if ← isWord "extends" then
    noteHere .repeatedExtends
    loop () fun _ => do
      if (← isEof) || (← isPunct "\x7b") then return none
      bump
      return some ()
  let ms ← typeMembers g
  return Node.of (.interface false) (← spanFrom lo)
    ((Slot.ident, name) :: Node.opt .typeParams tps ++ Node.many .heritage ext ++
      Node.many .member ms)

/-- A type alias from its name on. -/
def typeAlias (g : Grammar) (lo : Nat) : Parse Node := do
  let nameSpan ← hereSpan
  let name := Node.leaf (.ident (← takeWord)) nameSpan
  let tps ← typeParams? g true false
  if !(← eat "=") then unexpected "="
  let ty ← g.type
  expectSemicolon
  return Node.of (.typeAlias false) (← spanFrom lo)
    ((Slot.ident, name) :: Node.opt .typeParams tps ++ [(.typeAnn, ty)])

/-- A member of an enumeration. -/
def enumMember (g : Grammar) : Parse Node := do
  let lo ← here
  let span ← hereSpan
  let id ←
    match ← token with
    | .str _ _ => stringLiteral
    | .num raw =>
      note .enumNumericName span.lo
      bump
      pure (Node.leaf (.ident raw) span)
    | .punct "[" => do
      bump
      let e ← g.expr
      expect "]"
      match e.kind, (e.childrenIn .quasi).map Node.kind with
      | .str v raw, _ => pure (Node.leaf (.str v raw) e.span)
      | .template, [.quasi raw] =>
        let value := Source.templateValue raw
        pure (Node.leaf (.str value (quotedValue value)) e.span)
      | _, _ =>
        note .enumComputedName lo
        pure (Node.leaf (.ident "") (← spanFrom lo))
    | _ => do
      let w ← takeWord
      pure (Node.leaf (.ident w) span)
  let init ←
    if ← eat "=" then some <$> g.assign
    else if (← isPunct ",") || (← isPunct "\x7d") then pure none
    else do
      -- What cannot follow a name is taken for a comma, together with the token after it.
      noteHere .expectedSemicolon
      bump
      modify fun s => { s with current := { s.current with token := .punct "," } }
      pure none
  return Node.of .enumMember (← spanFrom lo) ((Slot.ident, id) :: Node.opt .init init)

/-- An enumeration from its name on. -/
def enumDecl (g : Grammar) (lo : Nat) (isConst : Bool) : Parse Node := do
  let nameSpan ← hereSpan
  let name := Node.leaf (.ident (← takeWord)) nameSpan
  expect "\x7b"
  let missing : Parse Unit := do noteHere (.expected "," (← token).shown)
  let ms ← commaListWith missing (isPunct "\x7d") (enumMember g)
  expect "\x7d"
  return Node.of (.enum false isConst) (← spanFrom lo)
    ((Slot.ident, name) :: Node.many .member ms)

end AwaitCalls.Syntax.Grammar
