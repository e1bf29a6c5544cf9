import AwaitCalls.Syntax.Grammar.Operators

/-!
# Rules for variable declarations
-/
namespace AwaitCalls.Syntax.Grammar

open AwaitCalls.Text Parse

/-- Does `let` at the cursor start a declaration? -/
def opensLet : Parse Bool := do
  if !(← isWord "let") then return false
  match (← peek).token with
  | .word w _ => return !isReserved w
  | .punct p => return p == "\x7b" || p == "["
  | _ => return false

def atForWord : Parse Bool := return (← isWord "in") || (← isWord "of")

/-- One declared variable or pattern. -/
def declarator (g : Grammar) (inFor : Bool) (kind : VarKind) : Parse Node := do
  let lo ← here
  let name ← g.bindingPattern (kind ≠ .var)
  let typed ← isTyped
  let isIdent := name.kind.isBinding
  let isDefinite ← if typed && isIdent then eat "!" else pure false
  let name ← if typed then annotated name <$> typeAnn? g else pure name
  let init ←
    if inFor && (← atForWord) then pure none
    else if ← eat "=" then some <$> g.assign
    else if (← read).inAmbient then pure none
    else if kind = .const && !inFor then do
      note .constWithoutInit lo
      pure none
    else if isIdent then pure none
    else failAt .patternWithoutInit lo
  return Node.of (.declarator isDefinite) (← spanFrom lo)
    ((Slot.ident, name) :: Node.opt .init init)

/-- Skip to the end of a statement that cannot be read further. -/
def skipStatement (g : Grammar) : Parse Unit := do
  let _ ← caught g.expr
  loop () fun _ => do
    if ← eatSemicolon then return none
    bump
    match ← token with
    | .bad _ _ => return none
    | _ => return some ()

/-- Declarators with commas between them. -/
def declarators (g : Grammar) (inFor : Bool) (kind : VarKind) : Parse (List Node) := do
  let (ds, _) ← loop (([] : List Node), false) fun (acc, stop) => do
    if stop then return none
    if ← isPunct ";" then
      let last ← lastSpan
      note .trailingComma (if acc.isEmpty then last.hi else last.lo)
      return none
    let d ←
      if kind ≠ .var || !inFor then allowIn (declarator g inFor kind) else declarator g inFor kind
    if ← eat "," then return some (d :: acc, false) else return some (d :: acc, true)
  return ds.reverse

/-- A variable declaration. In the head of a `for` loop no semicolon ends it. -/
def variableList (g : Grammar) (inFor : Bool) : Parse Node := do
  let lo ← here
  let kind ←
    if ← isWord "const" then pure VarKind.const
    else if ← isWord "let" then pure VarKind.lexical
    else pure VarKind.var
  bump
  if inFor && (← isTyped) && (← atForWord) then
    let isHead ← lookahead false do
      bump
      let _ ← g.assign
      expect ")"
      return true
    if isHead then
      note .emptyVarList (← lastEnd)
      return Node.leaf (.varDecl kind false) (← spanFrom lo)
  let ds ← declarators g inFor kind
  if !inFor then
    if !(← eatSemicolon) then
      noteHere .expectedSemicolon
      skipStatement g
  return Node.of (.varDecl kind false) (← spanFrom lo) (Node.many .declarator ds)

/-- A `using` declaration, if the word at the cursor starts one. `lo` is its start. -/
def usingDecl? (g : Grammar) (lo : Nat) (isAwait : Bool) : Parse (Option Node) := do
  if !(← isWord "using") then return none
  let next ← peek
  if next.afterBreak || !next.token.isName then return none
  bump
  let ds ← declarators g false .var
  if !(← isTyped) then note .usingNotEnabled lo
  ds.forM fun d => do
    match (d.child? .ident).map Node.kind with
    | some (.binding _ _) => pure ()
    | _ => note .bindingNameInUsing lo
    if (d.child? .init).isNone then note .usingWithoutInit lo
  let span ← spanFrom lo
  expectSemicolon
  return some (Node.of (.usingDecl isAwait) span (Node.many .declarator ds))

end AwaitCalls.Syntax.Grammar
