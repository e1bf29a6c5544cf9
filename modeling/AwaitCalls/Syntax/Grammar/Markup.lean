import AwaitCalls.Syntax.Grammar.Functions

/-!
# Rules for markup

Inside an element, text is not made of tokens, so these rules keep the cursor on the last token that
is one: the rule for an element ends with the cursor at its closing angle bracket, and the caller
decides whether text or a token follows.
-/
namespace AwaitCalls.Syntax.Grammar

open AwaitCalls.Text Parse

/-- A name, in which hyphens may stand. -/
def jsxName : Parse Node := do
  let cur := (← get).current
  match cur.token with
  | .word _ _ =>
    let source := (← get).source
    let stop := source.jsxNameEnd cur.lo
    resume (some { cur with hi := stop }) stop
    return Node.leaf (.name (source.slice cur.lo stop)) ⟨cur.lo, stop⟩
  | _ => unexpected "jsx identifier"

/-- The name of an attribute, or of an element without dots. -/
def jsxNamespacedName : Parse Node := do
  let lo ← here
  let first ← jsxName
  if ← eat ":" then
    let second ← jsxName
    return Node.of .jsxNamespaced (← spanFrom lo) [(.left, first), (.right, second)]
  else return first

def jsxElementName : Parse Node := do
  let first ← jsxNamespacedName
  loop first fun object => do
    if ← eat "." then
      let property ← jsxName
      return some (Node.of .jsxMember (← spanFrom first.lo)
        [(.object, object), (.property, property)])
    else return none

/-- The spelling of the name of an element. -/
def qualifiedJsxName : Node → String
  | .mk (.name w) _ _ => w
  | .mk .jsxMember _ (.cons _ object (.cons _ property _)) =>
    qualifiedJsxName object ++ "." ++ qualifiedJsxName property
  | .mk .jsxNamespaced _ (.cons _ left (.cons _ right _)) =>
    qualifiedJsxName left ++ ":" ++ qualifiedJsxName right
  | _ => ""

/-- Require a closing bracket at the cursor and leave it there. -/
def atClose (p : String) (c : Char) : Parse Unit := do
  splitPunct c
  if !(← isPunct p) then fail (.expected p (← token).shown)

/-- An expression in braces; the cursor stays at the closing one. -/
def jsxContainer (g : Grammar) (allowSpread : Bool) : Parse Node := do
  let lo ← here
  expect "\x7b"
  if ← isPunct "\x7d" then
    let cur := (← get).current
    let empty := Node.leaf .jsxEmptyExpr ⟨lo + 1, cur.lo⟩
    return Node.of .jsxExprContainer ⟨lo, cur.hi⟩ [(.expr, empty)]
  let isSpread ← if allowSpread then eat "..." else pure false
  let e ← inContext (fun c => { c with allowIn := true, expectColon := false }) g.expr
  atClose "\x7d" '\x7d'
  let cur := (← get).current
  return Node.of (if isSpread then .jsxSpreadChild else .jsxExprContainer) ⟨lo, cur.hi⟩ [(.expr, e)]

/-- The value of an attribute; the cursor stands at its equals sign. -/
def jsxAttrValue (g : Grammar) : Parse Node := do
  let s ← get
  let next := s.source.lexAt s.current.hi false
  match s.source.char? next.lo with
  | some q =>
    if q = '"' || q = '\'' then
      let close := s.source.skipWhile (fun c => c ≠ q) (next.lo + 1)
      if close ≥ s.source.size then note .unterminatedString next.lo
      let stop := min (close + 1) s.source.size
      let raw := s.source.slice next.lo stop
      let value : Lexeme := { next with token := .str [] raw, hi := stop }
      set { s with comments := attach (some s.current.token) s.current.hi value s.comments }
      resume (some value) stop
      return Node.leaf (.jsxStr raw) ⟨next.lo, stop⟩
  | none => pure ()
  bump
  if ← isPunct "\x7b" then
    let c ← jsxContainer g false
    bump
    if ((c.child? .expr).map Node.kind) == some .jsxEmptyExpr then failAt .jsxEmptyAttr c.lo
    return c
  else if ← isPunct "<" then
    let e ← g.jsxElement
    bump
    return e
  else fail .jsxAttrValue

def jsxAttribute (g : Grammar) : Parse Node := do
  let lo ← here
  if ← eat "\x7b" then
    expect "..."
    let e ← inContext (fun c => { c with allowIn := true, expectColon := false }) g.assign
    expect "\x7d"
    return Node.of .spread (← spanFrom lo) [(.expr, e)]
  let name ← jsxNamespacedName
  if ← isPunct "=" then
    let value ← jsxAttrValue g
    return Node.of .jsxAttr (← spanFrom lo) [(.key, name), (.value, value)]
  else return Node.of .jsxAttr (← spanFrom lo) [(.key, name)]

/-- The text of an element from a position on, up to a tag or an expression. -/
def jsxText? (pos : Nat) : Parse (Option Node × Nat) := do
  let source := (← get).source
  let stop := source.skipWhile (fun c => c ≠ '<' && c ≠ '\x7b') pos
  if stop = pos then return (none, pos)
  let bad := source.skipWhile (fun c => c ≠ '>' && c ≠ '\x7d') pos
  if bad < stop then
    match source.char? bad with
    | some '>' => note (.jsxTextToken "\x7b'>'\x7d" "&gt;") bad
    | _ => note (.jsxTextToken "\x7b'\x7d'\x7d" "&rbrace;") bad
  return (some (Node.leaf (.jsxText (source.slice pos stop)) ⟨pos, stop⟩), stop)

/-- Make the token at a position the current one. -/
def jumpTo (pos : Nat) : Parse Unit := do
  let cur := (← get).current
  resume (some { cur with token := .punct ">" }) pos

/-- The children of an element from a position on. Ends with the cursor at the bracket that opens the
closing tag. -/
def jsxChildren (g : Grammar) (pos : Nat) : Parse (List Node) := do
  let (children, _) ← loop (([] : List Node), pos) fun (acc, pos) => do
    let (text, pos) ← jsxText? pos
    let acc := text.toList ++ acc
    jumpTo pos
    if ← isPunct "\x7b" then
      let c ← jsxContainer g true
      return some (c :: acc, (← get).current.hi)
    splitPunct '<'
    if (← isPunct "<") && !(← peekPunct "/") then
      let e ← g.jsxElement
      return some (e :: acc, (← get).current.hi)
    -- Only the text before the closing tag is left to add, and it is added once.
    match text with
    | some _ => return some (acc, pos)
    | none => return none
  return children.reverse

/-- The name in a closing tag, if any. The cursor stays at its closing bracket. -/
def jsxClosing? : Parse (Nat × Option Node) := do
  if !((← isPunct "<") && (← peekPunct "/")) then fail (.expected "</" (← token).shown)
  bump
  bump
  splitPunct '>'
  let pos ← here
  if ← isPunct ">" then return (pos, none)
  let name ← jsxElementName
  atClose ">" '>'
  return (pos, some name)

/-- An element or a fragment. The cursor stays at its last closing bracket. -/
def jsxElementRule (g : Grammar) : Parse Node := do
  let lo ← here
  expect "<"
  splitPunct '>'
  if ← isPunct ">" then
    let children ← jsxChildren g (← get).current.hi
    let (pos, closing) ← jsxClosing?
    if closing.isSome then
      bump
      failAt .jsxClosingFragment pos
    return Node.of .jsxFragment ⟨lo, (← get).current.hi⟩ (Node.many .child children)
  let name ← jsxElementName
  let args ← if (← isTyped) && (← isPunct "<") then some <$> typeArgs g else pure none
  let attrs ← collect do
    splitPunct '>'
    if (← isPunct ">") || (← isPunct "/") then return none
    else return some (← jsxAttribute g)
  let isSelfClosing ← eat "/"
  atClose ">" '>'
  let stop := (← get).current.hi
  let opening := Node.of (.jsxOpening isSelfClosing) ⟨lo, stop⟩
    ((Slot.ident, name) :: Node.many .attr attrs ++ Node.opt .typeArgs args)
  if isSelfClosing then return Node.of .jsxElement ⟨lo, stop⟩ [(.opening, opening)]
  let children ← jsxChildren g stop
  let closingLo ← here
  let (pos, closing) ← jsxClosing?
  let wanted := qualifiedJsxName name
  match closing with
  | some n =>
    if qualifiedJsxName n ≠ wanted then
      bump
      failAt (.jsxClosingTag wanted) pos
    let stop := (← get).current.hi
    let tag := Node.of .jsxClosing ⟨closingLo, stop⟩ [(.ident, n)]
    return Node.of .jsxElement ⟨lo, stop⟩
      ((Slot.opening, opening) :: Node.many .child children ++ [(.closing, tag)])
  | none =>
    bump
    failAt (.jsxClosingTag wanted) pos

end AwaitCalls.Syntax.Grammar
