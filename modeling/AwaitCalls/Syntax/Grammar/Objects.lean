import AwaitCalls.Syntax.Grammar.Functions

/-!
# Rules for array and object literals
-/
namespace AwaitCalls.Syntax.Grammar

open AwaitCalls.Text Parse

/-- Remember a comma at the end of a literal, in case the literal turns out to be a pattern. -/
def rememberComma (lo comma : Nat) : Parse Unit :=
  modify fun s => { s with spreadCommas := (lo, comma) :: s.spreadCommas }

def arrayLiteral (g : Grammar) : Parse Node := do
  let lo ← here
  expect "["
  let elems ← collect do
    if ← isPunct "]" then return none
    let span ← hereSpan
    if ← eat "," then return some (Node.leaf .hole span)
    let e ← allowIn (spreadOrAssign g)
    if !(← isPunct "]") then
      let comma ← here
      expect ","
      if ← isPunct "]" then rememberComma lo comma
    return some e
  expect "]"
  return Node.of .array (← spanFrom lo) (Node.many .element elems)

/-- Parameters other than `this`. -/
def realParams (ps : List Node) : List Node :=
  ps.filter fun p =>
    match (p.child? .value).map Node.kind with
    | some (.binding "this" _) => false
    | _ => true

/-- The parameters of a getter: none. -/
def getterParams (g : Grammar) (pos : Nat) : Parse (List Node) := do
  let ps ← formalParams g
  if !(realParams ps).isEmpty then note .getterParams pos
  return ps

/-- The parameters of a setter: one, and not a rest parameter. -/
def setterParams (g : Grammar) (pos : Nat) : Parse (List Node) := do
  let ps ← formalParams g
  if (realParams ps).length ≠ 1 then note .setterParams pos
  match ps with
  | p :: _ =>
    match p.child? .value with
    | some v => if v.kind = .rest then note .restInSetter v.lo
    | none => pure ()
  | [] => pure ()
  return ps

/-- Read a member of an object or class, in which `super` means its prototype. -/
def inMember {α : Type} (p : Parse α) : Parse α :=
  inContext (fun c => { c with allowSuper := true, inClassField := false }) p

def objectMethod (g : Grammar) (lo : Nat) (key : Node) (isAsync isGenerator : Bool) : Parse Node := do
  let f ← inMember (functionFrom g lo [] (formalParams g) isAsync isGenerator)
  return Node.of .methodProp (← spanFrom lo) [(.key, key), (.function, f)]

/-- A getter, a setter or an asynchronous method, whose first word is read already. -/
def objectAccessor (g : Grammar) (lo : Nat) (word : String) : Parse Node := do
  let isGenerator ← if word = "async" then eat "*" else pure false
  let key ← propertyKey g
  if word = "get" then
    let f ← inMember (functionFrom g lo [] (getterParams g key.lo) false false)
    return Node.of .getter (← spanFrom lo)
      ((Slot.key, key) :: Node.opt .typeAnn (f.child? .returnType) ++ Node.opt .body (f.child? .body))
  else if word = "set" then
    let f ← inMember (functionFrom g lo [] (setterParams g key.lo) false false)
    let pats := (f.childrenIn .param).filterMap fun p => p.child? .value
    let (self, rest) :=
      match pats with
      | a :: b :: rest => (some a, b :: rest)
      | ps => (none, ps)
    return Node.of .setter (← spanFrom lo)
      ((Slot.key, key) :: Node.opt .thisParam self ++ Node.opt .param rest.head? ++
        Node.opt .body (f.child? .body))
  else objectMethod g lo key true isGenerator

/-- In the typed dialect, what can follow the key of a property. -/
def followsKey (key : Node) : Parse Bool := do
  match ← token with
  | .word _ _ | .str _ _ | .num _ => return true
  | .punct p =>
    return ["(", "[", ":", ",", "?", "=", "*", "<"].contains p ||
      (p == "\x7d" && (match key.kind with | .name _ => true | _ => false))
  | _ => return false

def objectProperty (g : Grammar) : Parse Node := do
  let lo ← here
  if ← eat "..." then
    let e ← allowIn g.assign
    return Node.of .spread (← spanFrom lo) [(.expr, e)]
  if ← eat "*" then
    let key ← propertyKey g
    return ← objectMethod g lo key false true
  let typed ← isTyped
  let hasModifier ← if typed then eatParamModifier else pure false
  let modifierLo := (← lastSpan).lo
  let key ← propertyKey g
  if typed && !(← followsKey key) then
    noteHere .expectedSemicolon
    let span ← spanFrom lo
    return Node.of .keyValue span [(.key, key), (.value, invalidNode span)]
  if ← eat ":" then
    let value ← allowIn g.assign
    return Node.of .keyValue (← spanFrom lo) [(.key, key), (.value, value)]
  if (← isPunct "(") || (typed && (← isPunct "<")) then
    return ← objectMethod g lo key false false
  match key.kind with
  | .name w =>
    if ← isPunct "?" then
      noteHere .optionalMember
      bump
    if (← isPunct "=") || (← isPunct ",") || (← isPunct "\x7d") then
      let name := Node.leaf (.ident w) key.span
      if ← eat "=" then
        let value ← allowIn g.assign
        return Node.of .assignProp (← spanFrom lo) [(.key, name), (.value, value)]
      return name
    if w = "get" || w = "set" || w = "async" then
      if hasModifier then note .asyncModifier modifierLo
      objectAccessor g lo w
    else if typed then
      unexpected ("... , *,  (, [, :, , ?, =, an identifier, public, protected, private, readonly, <.")
    else unexpected "... , *,  (, [, :, , ?, = or an identifier"
  | _ => unexpected "identifier"

def objectLiteral (g : Grammar) : Parse Node :=
  inContext (fun c => { c with expectColon := false }) do
    let lo ← here
    expect "\x7b"
    let props ← collect do
      if ← isPunct "\x7d" then return none
      let p ← objectProperty g
      if !(← isPunct "\x7d") then
        let comma ← here
        expect ","
        if ← isPunct "\x7d" then rememberComma lo comma
      return some p
    expect "\x7d"
    return Node.of .object (← spanFrom lo) (Node.many .property props)

end AwaitCalls.Syntax.Grammar
