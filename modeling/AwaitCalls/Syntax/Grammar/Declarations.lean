import AwaitCalls.Syntax.Grammar.Variables

/-!
# Rules for declarations of the typed dialect

Declarations that a plain word starts (`abstract`, `declare`, `module`, …). Without the right
continuation the word is an ordinary name.
-/
namespace AwaitCalls.Syntax.Grammar

open AwaitCalls.Text Parse

/-- The items between the braces of a namespace. -/
def moduleBlock (g : Grammar) : Parse Node := do
  let lo ← here
  expect "\x7b"
  let body ← inContext (fun c => { c with isTopLevel := false }) <| collect do
    if ← isEof then
      noteHere (.expected "\x7d" "<eof>")
      return none
    if ← isPunct "\x7d" then return none
    return some (← g.moduleItem)
  if !(← isEof) then bump
  return Node.of .moduleBlock (← spanFrom lo) (Node.many .body body)

/-- A namespace from its name on. A dotted name nests one namespace in another. -/
def namespaceRule (g : Grammar) (lo : Nat) (keyword : NamespaceKeyword) : Parse Node := do
  let nameSpan ← hereSpan
  let name := Node.leaf (.ident (← takeWord)) nameSpan
  let body ←
    if ← eat "." then do
      let innerLo ← here
      g.namespaceDecl innerLo keyword
    else moduleBlock g
  return Node.of (.namespaceDecl false keyword) (← spanFrom lo) [(.ident, name), (.body, body)]

/-- A module with a quoted name, or the global scope. -/
def ambientModule (g : Grammar) (lo : Nat) : Parse Node := do
  let span ← hereSpan
  let (name, keyword) ←
    if ← isWord "global" then do
      bump
      pure (Node.leaf (.ident "global") span, NamespaceKeyword.globalWord)
    else
      match ← token with
      | .str _ _ => do pure (← stringLiteral, NamespaceKeyword.moduleWord)
      | _ => unexpected "global or a string literal"
  let body ←
    if ← isPunct "\x7b" then some <$> moduleBlock g
    else do
      expectSemicolon
      pure none
  return Node.of (.namespaceDecl false keyword) (← spanFrom lo)
    ((Slot.ident, name) :: Node.opt .body body)

/-- Step over the word of a declaration if it is not read yet. -/
def stepOver (isPending : Bool) : Parse Unit := do
  if isPending then bump

/-- The declaration that a word starts, if any. `isPending` says that the word is still at the
cursor, in which case the word alone decides. -/
def typedDecl? (g : Grammar) (lo : Nat) (w : String) (ds : List Node) (isPending : Bool) :
    Parse (Option Node) := do
  match w with
  | "abstract" =>
    if isPending || ((← isWord "class") && !(← afterBreak)) then
      stepOver isPending
      return some (← classDecl g lo ds true)
    return none
  | "enum" =>
    if isPending || (← atIdentRef) then
      stepOver isPending
      return some (← enumDecl g lo false)
    return none
  | "interface" =>
    if isPending || (← atIdentRef) then
      stepOver isPending
      return some (← interfaceDecl g lo)
    return none
  | "module" =>
    if ← (if isPending then pure false else afterBreak) then return none
    stepOver isPending
    if ← isEof then fail .endOfText
    if (← token).isStr then return some (← ambientModule g lo)
    if isPending || (← atIdentRef) then return some (← g.namespaceDecl lo .moduleWord)
    return none
  | "namespace" =>
    if isPending || (← atIdentRef) then
      stepOver isPending
      return some (← g.namespaceDecl lo .namespaceWord)
    return none
  | "type" =>
    if isPending || (!(← afterBreak) && (← atIdentRef)) then
      stepOver isPending
      return some (← typeAlias g lo)
    return none
  | _ => return none

/-- Mark a declaration as ambient. -/
def asAmbient (lo : Nat) (n : Node) : Node :=
  let kind :=
    match n.kind with
    | .fnDecl _ => .fnDecl true
    | .classDecl _ => .classDecl true
    | .varDecl k _ => .varDecl k true
    | .interface _ => .interface true
    | .typeAlias _ => .typeAlias true
    | .enum _ c => .enum true c
    | .namespaceDecl _ k => .namespaceDecl true k
    | k => k
  .mk kind ⟨lo, n.hi⟩ n.children

/-- What `declare` declares, if anything; the word is read already. -/
def declareDecl? (g : Grammar) (lo : Nat) (ds : List Node) : Parse (Option Node) := do
  if (← read).inAmbient then note .declareInAmbient lo
  inContext (fun c => { c with inAmbient := true }) do
    let found ←
      if ← isWord "function" then some <$> functionDecl g ds
      else if ← isWord "class" then some <$> classDecl g lo ds false
      else if (← isWord "const") && (← peekWord "enum") then do
        bump
        bump
        some <$> enumDecl g lo true
      else if (← isWord "const") || (← isWord "var") || (← isWord "let") then
        some <$> variableList g false
      else if ← isWord "global" then some <$> ambientModule g lo
      else
        match ← token with
        | .word w _ => typedDecl? g lo w ds true
        | _ => pure none
    return found.map (asAmbient lo)

/-- The declaration that a name read as an expression turns out to start, if any. -/
def wordDecl? (g : Grammar) (lo : Nat) (w : String) (ds : List Node) : Parse (Option Node) := do
  if w = "declare" then declareDecl? g lo ds
  else if w = "global" then
    if ← isPunct "\x7b" then
      let name := Node.leaf (.ident "global") ⟨lo, lo + 6⟩
      let body ← moduleBlock g
      return some (Node.of (.namespaceDecl false .globalWord) (← spanFrom lo)
        [(.ident, name), (.body, body)])
    else return none
  else typedDecl? g lo w ds false

end AwaitCalls.Syntax.Grammar
