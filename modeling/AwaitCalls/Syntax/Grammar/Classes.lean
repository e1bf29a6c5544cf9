import AwaitCalls.Syntax.Grammar.Objects

/-!
# Rules for classes
-/
namespace AwaitCalls.Syntax.Grammar

open AwaitCalls.Text Parse

/-- Does what follows the name of a member make it a method? -/
def atMethodParams : Parse Bool := do
  return (← isPunct "(") || ((← isTyped) && (← isPunct "<"))

/-- Does what follows the name of a member make it a field? -/
def atFieldEnd (acceptBreak : Bool) : Parse Bool := do
  if (← isTyped) && ((← isPunct "!") || (← isPunct ":")) then return true
  if (← isPunct "=") || (← isPunct "\x7d") then return true
  if acceptBreak then atSemicolon else isPunct ";"

def memberKey (g : Grammar) : Parse Node := do
  if ← isPunct "#" then
    let name ← privateName
    if name.kind = .privateName "constructor" then note .privateConstructor name.lo
    return name
  propertyKey g

def isPrivateKey (key : Node) : Bool :=
  match key.kind with
  | .privateName _ => true
  | _ => false

def isConstructorKey (key : Node) : Bool :=
  match key.kind with
  | .name "constructor" => true
  | .str value _ => value = "constructor".toList.map Char.toNat
  | _ => false

def accessModifier? : Parse (Option Access) := do
  match ← modifier? ["public", "protected", "private", "in", "out"] with
  | some "public" => return some .publicly
  | some "protected" => return some .protectedly
  | some "private" => return some .privately
  | some w =>
    note (.varianceModifier w) (← lastSpan).lo
    return none
  | none => return none

/-- A method from its parameters on. -/
def classMethod (g : Grammar) (lo : Nat) (kind : MethodKind) (mods : Modifiers) (ds : List Node)
    (key : Node) (params : Parse (List Node)) (isAsync isGenerator : Bool) : Parse Node := do
  let f ← inMember (functionFrom g lo ds params isAsync isGenerator)
  if isPrivateKey key then
    if mods.access.isSome then note .privateAccess lo
  else if mods.isAbstract && (f.child? .body).isSome then note .abstractBody lo
  return Node.of (.method kind mods) (← spanFrom lo) [(.key, key), (.function, f)]

/-- A field from what follows its name on. -/
def classField (g : Grammar) (lo : Nat) (mods : Modifiers) (isAccessor : Bool) (ds : List Node)
    (key : Node) : Parse Node := do
  if isConstructorKey key then failAt .constructorField key.lo
  if isPrivateKey key then
    if mods.isDeclare then note (.privateModifier "declare") key.lo
    if mods.isAbstract then note (.privateModifier "abstract") key.lo
  let isDefinite ← if (← isTyped) && !mods.isOptional then eat "!" else pure false
  let ann ← typeAnn? g
  let value ←
    if ← eat "=" then do
      some <$> inContext (fun c => { c with allowIn := true, inClassField := true }) g.assign
    else pure none
  if !(← eatSemicolon) then noteHere .expectedSemicolon
  if !isAccessor then
    if isPrivateKey key then
      if mods.access.isSome then note .privateAccess lo
    else if mods.isAbstract && value.isSome then note .abstractInit lo
  let mods := { mods with isDefinite }
  return Node.of (if isAccessor then .autoAccessor mods else .property mods) (← spanFrom lo)
    ((Slot.key, key) :: Node.opt .value value ++ Node.opt .typeAnn ann ++ Node.many .decorator ds)

/-- A constructor from its parameters on. -/
def constructorFrom (g : Grammar) (lo : Nat) (mods : Modifiers) (staticPos abstractPos : Option Nat)
    (key : Node) : Parse Node := do
  let typed ← isTyped
  if typed && mods.isOverride then note (.constructorModifier "override") lo
  if typed && (← isPunct "<") then
    let tps ← typeParams g false true
    let params := tps.childrenIn .element
    if params.isEmpty then note .emptyTypeParams tps.lo
    params.forM fun p => note .constructorTypeParams p.lo
  let (ps, body) ← inMember do
    expect "("
    let ps ← inContext
      (fun c => { c with inParams := true, inFunction := false, inAsync := false
                         inGenerator := false })
      (paramList g (constructorParam g) false)
    expect ")"
    if typed && (← isPunct ":") then
      let annLo ← here
      bump
      let ann ← typeAnnFrom g annLo
      note .constructorReturnType ((ann.child? .typeAnn).getD ann).lo
    return (ps, ← functionBody? g false false (isSimpleParams ps))
  if body.isNone then
    ps.forM fun p =>
      match p.kind with
      | .paramProp _ => note .parameterProperty p.lo
      | _ => pure ()
  if typed && body.isNone then checkBodiless ps
  staticPos.forM fun p => note (.constructorModifier "static") p
  if mods.isAbstract then abstractPos.forM fun p => note .abstractOutside p
  return Node.of (.ctor { access := mods.access, isOptional := mods.isOptional }) (← spanFrom lo)
    ((Slot.key, key) :: Node.many .param ps ++ Node.opt .body body)

def staticBlock (g : Grammar) (lo : Nat) : Parse Node := do
  let b ← inContext
    (fun c => { c with inStaticBlock := true, inClassField := true, isTopLevel := false })
    (g.block false)
  return Node.of .staticBlock (← spanFrom lo) [(.body, b)]

/-- Modifiers in front of the name of a member, in the order in which they are written. -/
def memberModifiers (mods : Modifiers) : Parse (Modifiers × Option Nat) :=
  loop (mods, (none : Option Nat)) fun (mods, _) => do
    let opensBlock (w : String) (next : Lexeme) := w = "static" && next.token.isPunct "\x7b"
    match ← modifierUnless? (fun w next => next.afterBreak || opensBlock w next)
        ["abstract", "readonly", "override", "static"] with
    | none => return none
    | some w =>
      let pos := (← lastSpan).lo
      if w = "abstract" then
        if mods.isAbstract then note (.repeatedModifier "abstract") pos
        else if mods.isOverride then note (.modifierOrder "abstract" "override") pos
        else if mods.isReadonly then note (.modifierOrder "abstract" "readonly") pos
        return some ({ mods with isAbstract := true }, some pos)
      else if w = "override" then
        if mods.isOverride then note (.repeatedModifier "override") pos
        else if mods.isReadonly then note (.modifierOrder "override" "readonly") pos
        else if mods.isDeclare then note (.modifierWith "override" "declare") pos
        else if !(← read).hasSuperclass then note .overrideWithoutBase pos
        return some ({ mods with isOverride := true }, some pos)
      else if w = "readonly" then
        if mods.isReadonly then note (.repeatedModifier "readonly") pos
        return some ({ mods with isReadonly := true }, some pos)
      else
        if mods.isOverride then note (.modifierOrder "static" "override") pos
        return some ({ mods with isStatic := true }, some pos)

/-- A getter or setter, whose first word is read already. -/
def classAccessor (g : Grammar) (lo : Nat) (mods : Modifiers) (ds : List Node) (word : Node)
    (isGetter : Bool) : Parse Node := do
  let key ← memberKey g
  if mods.isReadonly then note .accessorReadonly word.lo
  if isConstructorKey key then note .constructorAccessor word.lo
  if isGetter then classMethod g lo .getter mods ds key (getterParams g word.lo) false false
  else classMethod g lo .setter mods ds key (setterParams g word.lo) false false

/-- An asynchronous method, whose first word is read already. -/
def asyncMember (g : Grammar) (lo : Nat) (mods : Modifiers) (ds : List Node) : Parse Node := do
  let isOverride := (← modifier? ["override"]).isSome
  if isOverride then note (.modifierOrder "override" "async") (← lastSpan).lo
  let isGenerator ← eat "*"
  let key ← memberKey g
  if isConstructorKey key then failAt .constructorAsync key.lo
  if mods.isReadonly then note .readonlyMethod lo
  let isOptional ← if (← isTyped) && !mods.isOptional then eat "?" else pure mods.isOptional
  classMethod g lo .method { mods with isOptional, isOverride := mods.isOverride || isOverride } ds key
    (formalParams g) true isGenerator

/-- A member whose modifiers are read already. -/
def namedMember (g : Grammar) (lo : Nat) (mods : Modifiers)
    (declarePos staticPos modifierPos : Option Nat) (ds : List Node) : Parse Node := do
  if ← eat "*" then
    let key ← memberKey g
    if mods.isReadonly then note .readonlyMethod lo
    if isConstructorKey key then note .constructorGenerator lo
    return ← classMethod g lo .method mods ds key (formalParams g) false true
  let typed ← isTyped
  let isAccessor ←
    if typed && (← isWord "accessor") then do
      let next ← peek
      let follows :=
        !next.afterBreak &&
          (match next.token with
           | .word _ _ | .str _ _ | .num _ | .bigInt _ => true
           | .punct p => p == "[" || p == "#"
           | _ => false)
      if follows then bump
      pure follows
    else pure false
  let key ← memberKey g
  let isOptional ← if typed then eat "?" else pure false
  let mods := { mods with isOptional }
  if ← atMethodParams then
    declarePos.forM fun p => note .declareModifier p
    if mods.isReadonly then note .readonlyMethod lo
    if isConstructorKey key && (typed || !mods.isStatic) then
      return ← constructorFrom g lo mods staticPos modifierPos key
    return ← classMethod g lo .method mods ds key (formalParams g) false false
  let word :=
    match key.kind with
    | .name w => w
    | _ => ""
  let beforeGenerator := (← afterBreak) && (← isPunct "*")
  let isAccess ←
    if word = "get" || word = "set" then pure (!(← atFieldEnd false) && !beforeGenerator)
    else pure false
  if !isAccess && (← atFieldEnd true) then return ← classField g lo mods isAccessor ds key
  if word = "async" && !(← afterBreak) then return ← asyncMember g lo mods ds
  if isAccess then return ← classAccessor g lo mods ds key (word = "get")
  unexpected "* for generator, private key, identifier or async"

/-- A member named by a word that would otherwise be a modifier. -/
def memberNamed? (g : Grammar) (lo : Nat) (mods : Modifiers) (ds : List Node) (key : Node)
    (acceptBreak : Bool) : Parse (Option Node) := do
  let typed ← isTyped
  if ← atMethodParams then
    return some (← classMethod g lo .method mods ds key (formalParams g) false false)
  let isField ← atFieldEnd acceptBreak
  if isField || (typed && (← isPunct "?")) then
    let isOptional ← if typed then eat "?" else pure false
    return some (← classField g lo { mods with isOptional } false ds key)
  return none

def classMember (g : Grammar) : Parse Node := do
  let lo ← here
  let ds ← decorators g false
  let typed ← isTyped
  let firstSpan ← hereSpan
  let first ← if typed then eatWord "declare" else pure false
  let access ← if typed then accessModifier? else pure none
  let secondSpan ← hereSpan
  let second ← if typed && !first then eatWord "declare" else pure false
  let isDeclare := first || second
  if isDeclare then
    let key := Node.leaf (.name "declare") (if first then firstSpan else secondSpan)
    if let some m ← memberNamed? g lo { access } ds key true then return m
  let staticSpan ← hereSpan
  let isStatic ← eatWord "static"
  if isStatic && !(← isPunct "\x7b") then
    let key := Node.leaf (.name "static") staticSpan
    if let some m ← memberNamed? g lo { access, isDeclare } ds key false then return m
  let (mods, modifierPos) ← memberModifiers { access, isDeclare, isStatic }
  let declarePos :=
    if first then some firstSpan.lo else if second then some secondSpan.lo else none
  let staticPos := if isStatic then some staticSpan.lo else none
  if mods.isStatic && (← isPunct "\x7b") then
    declarePos.forM fun p => note .modifierHere p
    if access.isSome then note .modifierHere lo
    return ← staticBlock g lo
  if (← isWord "static") && (← peekPunct "\x7b") then
    modifierPos.forM fun p => note .modifierHere p
    staticPos.forM fun p => note .modifierHere p
    bump
    return ← staticBlock g lo
  if typed && !mods.isAbstract && !mods.isOverride && mods.access.isNone then
    if let some idx ← indexSignature? g lo { isReadonly := mods.isReadonly, isStatic := mods.isStatic }
    then return idx
  namedMember g lo mods declarePos staticPos modifierPos ds

/-- The members of a class up to the closing brace, which is not read. -/
def classMembers (g : Grammar) : Parse (List Node) := do
  let (ms, _) ← loop (([] : List Node), false) fun (acc, hasConstructor) => do
    if ← isPunct "\x7d" then return none
    let span ← hereSpan
    if ← eat ";" then return some (Node.leaf .emptyMember span :: acc, hasConstructor)
    let m ← inContext (fun c => { c with allowSuper := true }) (classMember g)
    match m.kind with
    | .ctor _ =>
      if (m.child? .body).isSome && !(← read).inAmbient then
        if hasConstructor then note .repeatedConstructor m.lo
        return some (m :: acc, true)
      else return some (m :: acc, hasConstructor)
    | _ => return some (m :: acc, hasConstructor)
  return ms.reverse

/-- A superclass with its type arguments. -/
def superclass (g : Grammar) : Parse (Node × Option Node) := do
  let e ← g.lhs
  match e.kind, e.child? .instantiated with
  | .instantiation, some inner => return (inner, e.child? .typeArgs)
  | _, _ =>
    if (← isTyped) && (← atTypeArgs) then return (e, some (← typeArgs g))
    else return (e, none)

/-- The superclass of a class with its type arguments, if any, and the interfaces that it implements. -/
def classHeritage (g : Grammar) : Parse (Option Node × Option Node × List Node) := do
  let typed ← isTyped
  let (base, baseArgs) ←
    if ← eatWord "extends" then do
      let (e, args) ← superclass g
      if typed then
        if ← eat "," then (← heritageClause g).forM fun extra => note .manyBases extra.lo
      pure (some e, args)
    else pure (none, none)
  if ← isWord "extends" then
    noteHere .repeatedExtends
    bump
    let _ ← superclass g
  let hasInterfaces ← if typed then eatWord "implements" else pure false
  let impl ← if hasInterfaces then heritageClause g else pure []
  if typed && (← isWord "implements") then
    noteHere .repeatedImplements
    bump
    let _ ← heritageClause g
  if typed && (← isWord "extends") then
    noteHere .lateExtends
    bump
    let (e, args) ← superclass g
    return (some (base.getD e), baseArgs <|> args, impl)
  return (base, baseArgs, impl)

/-- The name of a class, if any, and the class. The cursor stands at `class`. -/
def namedClass (g : Grammar) (lo : Nat) (ds : List Node) (isNameRequired isAbstract : Bool) :
    Parse (Option Node × Node) :=
  inContext (fun c => { c with isStrict := true }) do
    let typed ← isTyped
    expectWord "class"
    let name ← optionalDeclaredIdent isNameRequired true
    if typed then
      name.forM fun n =>
        match n.kind with
        | .ident w => if typeWords.contains w then note .className n.lo else pure ()
        | _ => pure ()
    let tps ← if typed then typeParams? g true true else pure none
    let (base, baseArgs, impl) ← classHeritage g
    expect "\x7b"
    let members ← inContext
      (fun c => { c with inClass := true, hasSuperclass := base.isSome, expectColon := false })
      (classMembers g)
    expect "\x7d"
    let k := Node.of (.classBody isAbstract) (← spanFrom lo)
      (Node.many .decorator ds ++ Node.many .member members ++ Node.opt .superclass base ++
        Node.opt .typeParams tps ++ Node.opt .superTypeArgs baseArgs ++ Node.many .heritage impl)
    return (name, k)

def classDecl (g : Grammar) (lo : Nat) (ds : List Node) (isAbstract : Bool) : Parse Node := do
  let (name, k) ← namedClass g lo ds true isAbstract
  return Node.of (.classDecl false) k.span (Node.opt .ident name ++ [(.klass, k)])

def classExpr (g : Grammar) (lo : Nat) (ds : List Node) : Parse Node := do
  let (name, k) ← namedClass g lo ds false false
  return Node.of .classExpr k.span (Node.opt .ident name ++ [(.klass, k)])

end AwaitCalls.Syntax.Grammar
