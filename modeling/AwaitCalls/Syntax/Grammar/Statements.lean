import AwaitCalls.Syntax.Grammar.Variables
import AwaitCalls.Syntax.Grammar.Declarations

/-!
# Rules for statements
-/
namespace AwaitCalls.Syntax.Grammar

open AwaitCalls.Text Parse

/-- Read statements that are not at the top of the program. -/
def nested {α : Type} (p : Parse α) : Parse α :=
  inContext (fun c => { c with isTopLevel := false }) p

/-- Read the body of a loop. -/
def loopBody (g : Grammar) : Parse Node :=
  inContext (fun c => { c with allowBreak := true, allowContinue := true, isTopLevel := false })
    (g.statement false)

/-- A condition in parentheses. -/
def parenthesized (g : Grammar) : Parse Node := do
  expect "("
  let e ← allowIn g.expr
  expect ")"
  return e

/-- Does the token spell the directive that makes code strict? -/
def isStrictDirective : Token → Bool
  | .str _ raw => raw = "'use strict'" || raw = "\"use strict\""
  | _ => false

/-- Is the item an import or an export? -/
def isModuleItem (n : Node) : Bool :=
  match n.kind with
  | .importDecl _ _ | .exportDecl | .exportNamed _ | .exportAll _ | .exportDefaultDecl
  | .exportDefaultExpr | .importEquals _ _ | .exportAssignment | .namespaceExport => true
  | _ => false

/-- Items up to a closing brace, or to the end of the text if `stop` is absent. The brace is read. What
follows an import or an export is read as part of a module. -/
def items (item : Parse Node) (allowDirectives : Bool) (stop : Option String) : Parse (List Node) := do
  let isStrict := allowDirectives && isStrictDirective (← token)
  let (ns, _) ← inContext (fun c => if isStrict then { c with isStrict := true } else c) <|
    loop (([] : List Node), false) fun (acc, isModule) => do
      if ← isEof then
        stop.forM fun p => noteHere (.expected p "<eof>")
        return none
      match stop with
      | some p => if ← isPunct p then return none
      | none => pure ()
      let n ← inContext (fun c => if isModule then c.ofModule else c) item
      return some (n :: acc, isModule || isModuleItem n)
  if stop.isSome && !(← isEof) then bump
  return ns.reverse

/-- A block. -/
def blockRule (g : Grammar) (allowDirectives : Bool) : Parse Node := do
  let lo ← here
  expect "\x7b"
  let body ← nested (items (g.statement true) allowDirectives (some "\x7d"))
  return Node.of .block (← spanFrom lo) (Node.many .body body)

def jump (isBreak : Bool) : Parse Node := do
  let lo ← here
  bump
  let label ←
    if ← eatSemicolon then pure none
    else do
      let id ← identRef true
      expectSemicolon
      pure (some id)
  let name :=
    match label.map Node.kind with
    | some (.ident w) => some w
    | _ => none
  let labels := (← get).labels
  let isUnknown := name.any fun w => !labels.contains w
  let ctx ← read
  if isBreak then
    if isUnknown then note .breakLabel lo
    else if !ctx.allowBreak then note .breakOutside lo
  else if !ctx.allowContinue then note .continueOutside lo
  else if isUnknown then note .jumpAcrossFunction lo
  return Node.of (if isBreak then .breakStmt else .continueStmt) (← spanFrom lo)
    (Node.opt .label label)

/-! ## Loops -/

/-- What stands in the parentheses of a `for` loop. -/
inductive ForHead
  | plain (init test update : Option Node)
  | isIn (left right : Node)
  | isOf (left right : Node)

/-- The test and update of a loop, after the first semicolon. -/
def plainHead (g : Grammar) (init : Option Node) : Parse ForHead := do
  let test ←
    if ← eat ";" then pure none
    else do
      let e ← allowIn g.expr
      let _ ← eat ";"
      pure (some e)
  let update ← if ← isPunct ")" then pure none else some <$> allowIn g.expr
  return .plain init test update

/-- The rest of a head after what each round assigns to. -/
def eachHead (g : Grammar) (left : Node) : Parse ForHead := do
  if ← eatWord "of" then return .isOf left (← allowIn g.assign)
  bump
  match left.kind with
  | .usingDecl _ => note .usingInForIn left.lo
  | _ => pure ()
  return .isIn left (← allowIn g.expr)

def isNamePattern (p : Node) : Bool :=
  match p.kind with
  | .binding _ _ => true
  | .arrayPat _ | .objectPat _ | .rest | .assignPat => false
  | _ => true

/-- The head of a loop over a declared variable has one variable, without a value or a type. -/
def checkEachDecl (decl : Node) : Parse Unit := do
  let ds := decl.childrenIn .declarator
  let names := ds.filterMap fun d => d.child? .ident
  match ds, names with
  | [d], [name] =>
    if ((← read).isStrict || (← isWord "of")) && (d.child? .init).isSome then
      note .initInForHead name.lo
    if (← isTyped) && (name.child? .typeAnn).isSome then note .forOfTypeAnn name.lo
  | _, _ => (names.drop 1).forM fun n => note .oneBinding n.lo
  if (← isTyped) && (← isWord "in") then
    names.forM fun n => do if !isNamePattern n then note .forInPattern n.lo

/-- `using x` or `await using x` in front of `of` or `in`. -/
def usingHead? (lo : Nat) (init : Node) : Parse (Option Node) := do
  if !(← isTyped) then return none
  let isUsing (n : Node) : Bool := n.kind = .ident "using"
  let isAwait := init.kind = .await && ((init.child? .operand).any isUsing)
  if !(isUsing init || isAwait) || (← isWord "of") then return none
  let next ← peek
  if !(next.token.isWord "of" || next.token.isWord "in") then return none
  let name ← bindingIdent false
  let d := Node.of (.declarator false) (← spanFrom lo) [(.ident, name)]
  return some (Node.of (.usingDecl isAwait) (← spanFrom lo) [(.declarator, d)])

def forHead (g : Grammar) : Parse ForHead := do
  if (← isWord "const") || (← isWord "var") || (← opensLet) then
    let decl ← inContext (fun c => { c with allowIn := false }) (variableList g true)
    if ← atForWord then
      checkEachDecl decl
      return ← eachHead g decl
    expect ";"
    return ← plainHead g (some decl)
  if ← eat ";" then return ← plainHead g none
  let lo ← here
  let init ← inContext (fun c => { c with allowIn := false }) g.expr
  if let some decl ← usingHead? lo init then return ← eachHead g decl
  if ← atForWord then
    let pat ← g.asPattern .assign init
    if (← isTyped) && (← isWord "in") && !isNamePattern pat then note .forInPattern pat.lo
    return ← eachHead g pat
  expect ";"
  plainHead g (some init)

def forStatement (g : Grammar) : Parse Node := do
  let lo ← here
  bump
  let awaitLo ← here
  let isAwait ← eatWord "await"
  expect "("
  let head ← inContext (fun c => { c with inForHead := true, inForAwaitHead := isAwait }) (forHead g)
  expect ")"
  let body ← loopBody g
  let span ← spanFrom lo
  match head with
  | .plain init test update =>
    if isAwait then failAt .forAwaitHead awaitLo
    return Node.of .forStmt span (Node.opt .init init ++ Node.opt .test test ++
      Node.opt .update update ++ [(.body, body)])
  | .isIn left right =>
    if isAwait then failAt .forAwaitHead awaitLo
    return Node.of .forIn span [(.left, left), (.right, right), (.body, body)]
  | .isOf left right =>
    return Node.of (.forOf isAwait) span [(.left, left), (.right, right), (.body, body)]

def whileStatement (g : Grammar) : Parse Node := do
  let lo ← here
  bump
  let test ← parenthesized g
  let body ← loopBody g
  return Node.of .whileStmt (← spanFrom lo) [(.test, test), (.body, body)]

def doStatement (g : Grammar) : Parse Node := do
  let lo ← here
  bump
  let body ← loopBody g
  expectWord "while"
  let test ← parenthesized g
  let _ ← eat ";"
  return Node.of .doWhile (← spanFrom lo) [(.test, test), (.body, body)]

/-! ## Branches -/

/-- Attach the later branches of a chain of `else if` to the earlier ones. -/
def joinElse (alternate : Option Node) : List Node → Option Node
  | [] => alternate
  | n :: rest =>
    some (Node.of n.kind n.span
      (n.children.toList ++ Node.opt .alternate (joinElse alternate rest)))

/-- An `if` statement. A chain of `else if` is read in one loop. -/
def ifRule (g : Grammar) : Parse Node := do
  let lo ← here
  expectWord "if"
  let skipElse := (← read).skipElse
  let inner {α : Type} (p : Parse α) : Parse α :=
    inContext (fun c => { c with skipElse := false, isTopLevel := false }) p
  let test ← inner (parenthesized g)
  let cons ← inner (g.statement false)
  let alt ←
    if skipElse then pure none
    else do
      let (chain, last, _) ← loop (([] : List Node), (none : Option Node), false)
        fun (chain, last, stop) => do
          if stop then return none
          if !(← eatWord "else") then return none
          if ← isWord "if" then
            let n ← inContext (fun c => { c with skipElse := true, isTopLevel := false }) g.ifStatement
            return some (n :: chain, last, false)
          else
            let n ← inner (g.statement false)
            return some (chain, some n, true)
      pure (joinElse last chain.reverse)
  return Node.of .ifStmt (← spanFrom lo)
    ([(Slot.test, test), (Slot.consequent, cons)] ++ Node.opt .alternate alt)

def switchCase (g : Grammar) (previousDefault : Bool) : Parse Node := do
  let lo ← here
  let isCase ← isWord "case"
  bump
  let test ← if isCase then some <$> allowIn g.expr else pure none
  if !isCase && previousDefault then fail .repeatedDefault
  expect ":"
  let body ← collect do
    if (← isEof) || (← isWord "case") || (← isWord "default") || (← isPunct "\x7d") then return none
    else return some (← g.statement true)
  return Node.of .switchCase (← spanFrom lo) (Node.opt .test test ++ Node.many .body body)

def switchStatement (g : Grammar) : Parse Node := do
  let lo ← here
  bump
  let disc ← parenthesized g
  expect "\x7b"
  let (cases, _) ← inContext (fun c => { c with allowBreak := true, isTopLevel := false }) <|
    loop (([] : List Node), false) fun (acc, hasDefault) => do
      if !((← isWord "case") || (← isWord "default")) then return none
      let isDefault ← isWord "default"
      let c ← switchCase g hasDefault
      return some (c :: acc, hasDefault || isDefault)
  expect "\x7d"
  return Node.of .switchStmt (← spanFrom lo)
    ((Slot.discriminant, disc) :: Node.many .case cases.reverse)

def catchClause? (g : Grammar) : Parse (Option Node) := do
  let lo ← here
  if !(← eatWord "catch") then return none
  let param ←
    if ← eat "(" then do
      let p ← g.bindingPattern false
      let p ← if ← isTyped then annotated p <$> typeAnn? g else pure p
      expect ")"
      pure (some p)
    else pure none
  let body ← g.block false
  return some (Node.of .catchClause (← spanFrom lo) (Node.opt .param param ++ [(.body, body)]))

def finallyBlock? (g : Grammar) : Parse (Option Node) := do
  if ← eatWord "finally" then return some (← g.block false) else return none

def tryStatement (g : Grammar) : Parse Node := do
  let lo ← here
  bump
  let block ← g.block false
  let pos ← here
  let handler ← catchClause? g
  let finalizer ← finallyBlock? g
  if handler.isNone && finalizer.isNone then note .expectedSemicolon pos
  return Node.of .tryStmt (← spanFrom lo)
    ((Slot.block, block) :: Node.opt .handler handler ++ Node.opt .finalizer finalizer)

/-! ## Other statements -/

def returnStatement (g : Grammar) : Parse Node := do
  let lo ← here
  let result ← caught do
    bump
    let e ← if ← atSemicolon then pure none else some <$> allowIn g.expr
    expectSemicolon
    return Node.of .returnStmt (← spanFrom lo) (Node.opt .expr e)
  if !(← read).inFunction then note .returnOutside lo
  match result with
  | .ok n => return n
  | .error e => throw e

def throwStatement (g : Grammar) : Parse Node := do
  let lo ← here
  bump
  if ← afterBreak then fail .lineBreakAfterThrow
  let e ← allowIn g.expr
  expectSemicolon
  return Node.of .throwStmt (← spanFrom lo) [(.expr, e)]

def withStatement (g : Grammar) : Parse Node := do
  let lo ← here
  if ← isTyped then note .withInTyped lo
  noteStrict .withInStrict lo
  bump
  let object ← parenthesized g
  let body ← inContext (fun c => { c with inFunction := true, isTopLevel := false }) (g.statement false)
  return Node.of .withStmt (← spanFrom lo) [(.object, object), (.body, body)]

/-- A labelled statement; the label and its colon are read already. -/
def labeledStatement (g : Grammar) (label : Node) : Parse Node :=
  inContext (fun c => { c with allowBreak := true, isTopLevel := false }) do
    let name :=
      match label.kind with
      | .ident w => w
      | _ => ""
    let isRepeated := (← get).labels.contains name
    modify fun s => { s with labels := name :: s.labels }
    let body ←
      if ← isWord "function" then do
        let f ← functionDecl g []
        let fn := (f.child? .function).getD f
        if (← read).isStrict then note .labelledFunctionStrict fn.lo
        match fn.kind with
        | .function isAsync isGenerator =>
          if isAsync || isGenerator then note .labelledGenerator fn.lo
        | _ => pure ()
        pure f
      else g.statement false
    if isRepeated then note (.repeatedLabel name) label.lo
    modify fun s => { s with labels := s.labels.erase name }
    return Node.of .labeled (← spanFrom label.lo) [(.label, label), (.body, body)]

/-- A handler without `try` is noted and skipped. -/
def strayHandler (g : Grammar) : Parse Node := do
  let span ← hereSpan
  note .expectedSemicolon span.lo
  let _ ← caught (catchClause? g)
  let _ ← caught (finallyBlock? g)
  return Node.of .exprStmt span [(.expr, invalidNode span)]

/-- A statement that is an expression, a label, or a declaration that a plain name starts. -/
def expressionStatement (g : Grammar) (lo : Nat) (ds : List Node) : Parse Node := do
  let e ← allowIn g.expr
  let finish (e : Node) : Parse Node := do
    return Node.of .exprStmt (← spanFrom lo) [(.expr, e)]
  match e.kind with
  | .ident w =>
    if ← eat ":" then return ← labeledStatement g e
    if (← isTyped) && !(w = "interface" && (← afterBreak)) then
      if let some d ← wordDecl? g e.lo w ds then return d
  | _ => pure ()
  if ← eatSemicolon then return ← finish e
  if (← atPunctOp?).isSome then
    noteHere .expectedSemicolon
    return ← finish (← g.binaryRest e 0)
  fail .expectedStatementEnd

/-- `import(…)` and `import.meta` as statements, which need no semicolon. -/
def importStatement? (g : Grammar) : Parse (Option Node) := do
  if !(← isWord "import") then return none
  let next ← peek
  if !(next.token.isPunct "(" || next.token.isPunct ".") then return none
  let lo ← here
  let e ← g.expr
  let _ ← eat ";"
  return some (Node.of .exprStmt (← spanFrom lo) [(.expr, e)])

/-- Does a declaration that starts with the word at the cursor have its name on the same line? -/
def declaresName (w : String) : Parse Bool := do
  if !(← isWord w) then return false
  let next ← peek
  return next.token.isAnyWord && !next.afterBreak

/-- A statement that is neither an import nor an export. -/
def plainStatement (g : Grammar) (lo : Nat) (allowDecl : Bool) (ds : List Node) : Parse Node := do
  let typed ← isTyped
  if typed && (← isWord "const") && (← peekWord "enum") then
    bump
    bump
    return ← enumDecl g lo true
  if typed && (← peekWord "interface") &&
      ((← isWord "abstract") || (← isWord "public") || (← isWord "static")) then
    noteHere .interfaceName
    bump
    bump
    return ← interfaceDecl g lo
  match ← token with
  | .word "await" _ =>
    if allowDecl then
      if (← read).isTopLevel then markModule
      if ← peekWord "using" then
        bump
        if let some d ← usingDecl? g lo true then return d
        let e ← awaitExpr g lo
        let e ← allowIn (g.binaryRest e 0)
        let _ ← eatSemicolon
        return Node.of .exprStmt (← spanFrom lo) [(.expr, e)]
  | .word "break" _ => return ← jump true
  | .word "continue" _ => return ← jump false
  | .word "debugger" _ =>
    bump
    expectSemicolon
    return Node.leaf .debugger (← spanFrom lo)
  | .word "do" _ => return ← doStatement g
  | .word "for" _ => return ← forStatement g
  | .word "function" _ =>
    if !allowDecl then noteHere .declNotAllowed
    return ← functionDecl g ds
  | .word "class" _ =>
    if !allowDecl then noteHere .declNotAllowed
    return ← classDecl g lo ds false
  | .word "if" _ => return ← g.ifStatement
  | .word "return" _ => return ← returnStatement g
  | .word "switch" _ => return ← switchStatement g
  | .word "throw" _ => return ← throwStatement g
  | .word "catch" _ => return ← strayHandler g
  | .word "finally" _ => return ← strayHandler g
  | .word "try" _ => return ← tryStatement g
  | .word "with" _ => return ← withStatement g
  | .word "while" _ => return ← whileStatement g
  | .word "var" _ => return ← variableList g false
  | .word "let" _ => if allowDecl && (← opensLet) then return ← variableList g false
  | .word "const" _ => if allowDecl then return ← variableList g false
  | .word "using" _ =>
    if allowDecl then
      if let some d ← usingDecl? g lo false then return d
  | .word "interface" _ =>
    if typed && (← declaresName "interface") then
      bump
      return ← interfaceDecl g lo
  | .word "type" _ =>
    if typed && (← declaresName "type") then
      bump
      return ← typeAlias g lo
  | .word "enum" _ =>
    if typed && (← declaresName "enum") then
      bump
      return ← enumDecl g lo false
  | .punct "\x7b" => return ← g.block false
  | .punct ";" =>
    bump
    return Node.leaf .empty (← spanFrom lo)
  | _ => pure ()
  if ← atAsyncFunction then return ← functionDecl g ds
  expressionStatement g lo ds

/-- A statement; the flag allows declarations. -/
def statementRule (g : Grammar) (allowDecl : Bool) : Parse Node :=
  inContext (fun c => { c with expectColon := false }) do
    let lo ← here
    let ds ← if ← isPunct "@" then decorators g true else pure []
    if (← isWord "import") || (← isWord "export") then
      if let some s ← importStatement? g then return s
      fail .importExportOutside
    plainStatement g lo allowDecl ds

end AwaitCalls.Syntax.Grammar
