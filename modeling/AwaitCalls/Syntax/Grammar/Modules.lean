import AwaitCalls.Syntax.Grammar.Statements

/-!
# Rules for imports and exports
-/
namespace AwaitCalls.Syntax.Grammar

open AwaitCalls.Text Parse

/-- A quoted module name, its attributes and the end of the statement. -/
def sourceAndEnd (g : Grammar) : Parse (Node × Option Node) := do
  let src ← stringLiteral
  let hasAttrs ←
    if ← afterBreak then pure false
    else if ← eatWord "with" then pure true
    else eatWord "assert"
  let attrs ← if hasAttrs then some <$> objectLiteral g else pure none
  expectSemicolon
  return (src, attrs)

def fromClause (g : Grammar) : Parse (Node × Option Node) := do
  expectWord "from"
  sourceAndEnd g

/-- The name of an export as another module sees it: a word or a string. -/
def exportName : Parse Node := do
  match ← token with
  | .str _ _ => stringLiteral
  | .word _ name =>
    let span ← hereSpan
    bump
    return Node.leaf (.ident name) span
  | _ => unexpected "identifier or string"

def atWord : Parse Bool := return (← token).isAnyWord

/-- Can the current token be the name of an export? -/
def atExportName : Parse Bool := return (← token).isAnyWord || (← token).isStr

/-- A string names an import only together with the variable that it is bound to. -/
def failStringBinding {α : Type} (name : Node) : Parse α := do
  let value :=
    match name.kind with
    | .str value _ => value
    | _ => []
  failAt (.importStringBinding (String.ofList (value.map Char.ofNat))) name.lo

/-- The name that a binding gives. -/
def nameOf (n : Node) : String :=
  match n.kind with
  | .ident w | .name w => w
  | _ => ""

/-- After `type` in braces: is it a modifier, and which name follows it? `as` may be a name itself. -/
structure TypeModifier where
  isTypeOnly : Bool
  name : Node
  renamed : Option Node
  /-- The specifier is read to its end. -/
  isDone : Bool

/-- Read what follows the word `type` at the start of a specifier. -/
def afterTypeWord (typeWord : Node) (rename : Parse Node) : Parse TypeModifier := do
  let first ← exportName
  if nameOf first ≠ "as" then return ⟨true, first, none, false⟩
  if !(← atWord) then return ⟨true, first, none, true⟩
  let second ← rename
  if nameOf second ≠ "as" then return ⟨false, typeWord, some second, true⟩
  if ← atWord then
    let third ← rename
    return ⟨true, first, some third, true⟩
  return ⟨false, typeWord, some second, true⟩

def importSpecifier (isTypeOnly : Bool) : Parse Node := do
  let lo ← here
  let name ← exportName
  let node (isType : Bool) (binding : Node) (imported : Option Node) : Parse Node := do
    return Node.of (.importNamed isType) (← spanFrom lo)
      ((Slot.local, binding) :: Node.opt .imported imported)
  match name.kind with
  | .str _ _ =>
    if ← eatWord "as" then
      let binding ← declaredIdent false
      node false binding (some name)
    else failStringBinding name
  | _ =>
    let m ←
      if (← isTyped) && nameOf name = "type" && (← atExportName) then
        afterTypeWord name (declaredIdent false)
      else pure ⟨false, name, none, false⟩
    if m.isTypeOnly && isTypeOnly then note .typeOnNamedImport name.lo
    match m.renamed with
    | some binding => node m.isTypeOnly binding (some m.name)
    | none =>
      let isRenamed ← if m.isDone then pure false else eatWord "as"
      if isRenamed then
        let binding ← declaredIdent false
        node m.isTypeOnly binding (some m.name)
      else
        if let .str _ _ := m.name.kind then failStringBinding m.name
        node m.isTypeOnly m.name none

/-- Specifiers in braces, with their closing brace. -/
def specifiers (one : Parse Node) : Parse (List Node) := do
  let (ns, _) ← loop (([] : List Node), false) fun (acc, stop) => do
    if stop || (← isEof) || (← isPunct "\x7d") then return none
    let n ← one
    if ← isPunct "\x7d" then return some (n :: acc, true)
    expect ","
    return some (n :: acc, false)
  expect "\x7d"
  return ns.reverse

/-- `import x = …` from its equals sign on. -/
def importEquals (lo : Nat) (id : Node) (isExport isTypeOnly : Bool) : Parse Node := do
  expect "="
  let refLo ← here
  let ref ←
    if (← isWord "require") && (← peekPunct "(") then do
      bump
      expect "("
      let src ← stringLiteral
      expect ")"
      pure (Node.of .externalRef (← spanFrom refLo) [(.source, src)])
    else entityName false
  expectSemicolon
  return Node.of (.importEquals isExport isTypeOnly) (← spanFrom lo) [(.ident, id), (.value, ref)]

/-- The parts of an import before its braces. -/
structure ImportHead where
  binding : Option Node := none
  isTypeOnly : Bool := false
  phase : ImportPhase := .evaluation

/-- Is the word at the cursor a binding and not the `from` that ends the bindings? -/
def atImportBinding : Parse Bool := do
  if !(← atIdentRef) then return false
  if ← isWord "from" then peekWord "from" else return true

def importHead : Parse ImportHead := do
  if !(← atIdentRef) then return {}
  let first ← declaredIdent false
  let typed ← isTyped
  if typed && nameOf first = "type" then
    if (← isPunct "*") || (← isPunct "\x7b") then return { isTypeOnly := true }
    if ← atImportBinding then
      return { binding := some (← declaredIdent false), isTypeOnly := true }
    if (← atIdentRef) && (← peekPunct "=") then
      return { binding := some (← declaredIdent false), isTypeOnly := true }
  if nameOf first = "source" then
    if ← atImportBinding then return { binding := some (← declaredIdent false), phase := .source }
    if !(← isPunct ",") && !(← isWord "from") then return { phase := .source }
  if nameOf first = "defer" && !(← isPunct ",") && !(← isWord "from") then return { phase := .defer }
  return { binding := some first }

def importDecl (g : Grammar) : Parse Node := do
  let lo ← here
  expectWord "import"
  if (← token).isStr then
    let (src, attrs) ← sourceAndEnd g
    return Node.of (.importDecl false .evaluation) (← spanFrom lo)
      ((Slot.source, src) :: Node.opt .attributes attrs)
  let head ← importHead
  if let some id := head.binding then
    if (← isTyped) && (← isPunct "=") then return ← importEquals lo id false head.isTypeOnly
  let default := head.binding.map fun id => Node.of .importDefault id.span [(.local, id)]
  let more ←
    if default.isNone then pure true
    else if ← isWord "from" then pure false
    else do
      expect ","
      pure true
  let rest ←
    if !more then pure []
    else do
      let specLo ← here
      if head.phase ≠ .source && (← isPunct "*") then
        bump
        expectWord "as"
        let id ← declaredIdent false
        pure [Node.of .importNamespace (← spanFrom specLo) [(.local, id)]]
      else if head.phase = .evaluation && (← isPunct "\x7b") then
        bump
        specifiers (importSpecifier head.isTypeOnly)
      else pure []
  let (src, attrs) ← fromClause g
  return Node.of (.importDecl head.isTypeOnly head.phase) (← spanFrom lo)
    (Node.opt .specifier default ++ Node.many .specifier rest ++ [(.source, src)] ++
      Node.opt .attributes attrs)

/-! ## Exports -/

def exportSpecifier (isTypeOnly : Bool) : Parse Node := do
  let lo ← here
  let name ← exportName
  let m ←
    if (← isTyped) && nameOf name = "type" && (← atExportName) then afterTypeWord name exportName
    else pure ⟨false, name, none, false⟩
  if m.isTypeOnly && isTypeOnly then note .typeOnNamedExport name.lo
  let exported ←
    match m.renamed with
    | some n => pure (some n)
    | none =>
      let isRenamed ← if m.isDone then pure false else eatWord "as"
      if isRenamed then some <$> exportName else pure none
  return Node.of (.exportSpecifier m.isTypeOnly) (← spanFrom lo)
    ((Slot.local, m.name) :: Node.opt .exported exported)

/-- Without `from`, exported names must be bound in this module. -/
def checkLocalExports (specs : List Node) : Parse Unit :=
  specs.forM fun s => do
    match s.child? .local with
    | some n =>
      match n.kind with
      | .str _ _ => note .exportStringBinding n.lo
      | .ident w => if isReserved w then note (.exportNeedsFrom w) n.lo
      | _ => pure ()
    | none => pure ()

/-- `export` with a star or braces. -/
def exportList (g : Grammar) (lo : Nat) (isTypeOnly : Bool) : Parse Node := do
  let specLo ← here
  if ← isPunct "*" then
    if !(← peekWord "as") then
      bump
      let (src, attrs) ← fromClause g
      return Node.of (.exportAll isTypeOnly) (← spanFrom lo)
        ((Slot.source, src) :: Node.opt .attributes attrs)
    bump
    expectWord "as"
    let name ← exportName
    let spec := Node.of .exportNamespace (← spanFrom specLo) [(.exported, name)]
    let (src, attrs) ← fromClause g
    return Node.of (.exportNamed isTypeOnly) (← spanFrom lo)
      ([(Slot.specifier, spec), (Slot.source, src)] ++ Node.opt .attributes attrs)
  expect "\x7b"
  let specs ← specifiers (exportSpecifier isTypeOnly)
  if ← isWord "from" then
    let (src, attrs) ← fromClause g
    return Node.of (.exportNamed isTypeOnly) (← spanFrom lo)
      (Node.many .specifier specs ++ [(.source, src)] ++ Node.opt .attributes attrs)
  checkLocalExports specs
  expectSemicolon
  return Node.of (.exportNamed isTypeOnly) (← spanFrom lo) (Node.many .specifier specs)

/-- Decorators after `export`, which must not repeat those before it. -/
def lateDecorators (g : Grammar) (ds : List Node) : Parse (List Node) := do
  if (← read).dialect.decorators && (← isPunct "@") then
    let lo ← here
    let late ← decorators g false
    if !ds.isEmpty then failAt .repeatedDecorators lo
    return late
  else return ds

def exportDefault (g : Grammar) (lo : Nat) (ds : List Node) : Parse Node := do
  let ds ← lateDecorators g ds
  let decl (n : Node) : Parse Node := do
    return Node.of .exportDefaultDecl (← spanFrom lo) [(.decl, n)]
  let asClass (classLo : Nat) (isAbstract : Bool) : Parse Node := do
    let (name, k) ← namedClass g classLo ds false isAbstract
    decl (Node.of .classExpr k.span (Node.opt .ident name ++ [(.klass, k)]))
  let start ← here
  if ← isTyped then
    let next ← peek
    if (← isWord "abstract") && next.token.isWord "class" && !next.afterBreak then
      bump
      return ← asClass start true
    if (← isWord "abstract") && next.token.isWord "interface" then
      noteHere .abstractOutside
      bump
    if ← isWord "interface" then
      let at_ ← here
      bump
      return ← decl (← interfaceDecl g at_)
  if ← isWord "class" then return ← asClass start false
  if (← isWord "function") || (← atAsyncFunction) then
    let isAsync ← eatAsync
    let (name, f) ← namedFunction g start isAsync ds false false
    return ← decl (Node.of .fnExpr f.span (Node.opt .ident name ++ [(.function, f)]))
  let e ← allowIn g.assign
  expectSemicolon
  return Node.of .exportDefaultExpr (← spanFrom lo) [(.expr, e)]

/-- Exports that only the typed dialect has. -/
def typedExport? (g : Grammar) (lo : Nat) (ds : List Node) : Parse (Option Node) := do
  let after ← here
  let decl (n : Node) : Parse (Option Node) := do
    return some (Node.of .exportDecl (← spanFrom lo) [(.decl, n)])
  if ← eatWord "declare" then
    if let some d ← declareDecl? g after ds then return ← decl d
  match ← token with
  | .word w _ =>
    let found ← trial (typedDecl? g after w ds true)
    if let some d := found then return ← decl d
  | _ => pure ()
  if ← eatWord "import" then
    let next ← peek
    let isType := (← isWord "type") && next.token.isName
    if isType then bump
    let span ← hereSpan
    let id := Node.leaf (.ident (← takeWord)) span
    return some (← importEquals lo id true isType)
  if ← eat "=" then
    let e ← g.expr
    expectSemicolon
    return some (Node.of .exportAssignment (← spanFrom lo) [(.expr, e)])
  if ← eatWord "as" then
    expectWord "namespace"
    let id ← identRef false
    expectSemicolon
    return some (Node.of .namespaceExport (← spanFrom lo) [(.ident, id)])
  return none

def exportDecl (g : Grammar) (ds : List Node) : Parse Node := do
  let lo ← here
  expectWord "export"
  let typed ← isTyped
  if typed then
    if let some n ← typedExport? g lo ds then return n
  let isTypeOnly ← if typed then eatWord "type" else pure false
  if isTypeOnly then return ← exportList g lo true
  if ← eatWord "default" then return ← exportDefault g lo ds
  let ds ← lateDecorators g ds
  let decl (n : Node) : Parse Node := do
    return Node.of .exportDecl (← spanFrom lo) [(.decl, n)]
  let start ← here
  if ← isWord "class" then decl (← classDecl g start ds false)
  else if (← isWord "function") || (← atAsyncFunction) then decl (← functionDecl g ds)
  else if typed && (← isWord "const") && (← peekWord "enum") then
    bump
    bump
    decl (← enumDecl g start true)
  else if (← isWord "var") || (← isWord "const") || (← opensLet) then decl (← variableList g false)
  else exportList g lo false

/-- A statement or a module item. -/
def moduleItemRule (g : Grammar) : Parse Node :=
  inContext (fun c => { c with expectColon := false }) do
    let lo ← here
    let ds ← if ← isPunct "@" then decorators g true else pure []
    let ofModule (c : Context) : Context := if c.isTopLevel then c.ofModule else c
    if ← isWord "import" then
      if let some s ← importStatement? g then return s
      return ← inContext ofModule (importDecl g)
    if ← isWord "export" then return ← inContext ofModule (exportDecl g ds)
    plainStatement g lo true ds

end AwaitCalls.Syntax.Grammar
