import AwaitCalls.Dialect
import AwaitCalls.Syntax.Lexer
import AwaitCalls.Syntax.Node

/-!
# The state of reading a program

Reading moves a cursor over the text. A fault either ends the reading, keeping the cursor where it
stood, or is noted and reading goes on. What a word means depends on what encloses it; that is the
`Context`, which every rule passes to the rules it calls.
-/
namespace AwaitCalls.Syntax

open AwaitCalls.Text

/-- What encloses the cursor. -/
structure Context where
  dialect : Dialect
  isStrict : Bool := false
  /-- An import or an export has shown that the program is a module. -/
  inModule : Bool := false
  inFunction : Bool := false
  inAsync : Bool := false
  inGenerator : Bool := false
  inParams : Bool := false
  inClass : Bool := false
  inClassField : Bool := false
  inStaticBlock : Bool := false
  hasSuperclass : Bool := false
  allowSuper : Bool := false
  allowBreak : Bool := false
  allowContinue : Bool := false
  /-- `in` is an operator here; it is not in the head of a `for` loop. -/
  allowIn : Bool := true
  inConditional : Bool := false
  /-- The arm of a conditional expression that a colon ends. -/
  expectColon : Bool := false
  noConditionalTypes : Bool := false
  inAmbient : Bool := false
  isTopLevel : Bool := true
  /-- Inside a function other than an arrow function. -/
  inPlainFunction : Bool := false
  inForHead : Bool := false
  inForAwaitHead : Bool := false
  /-- The caller reads the `else` branch. -/
  skipElse : Bool := false
  /-- Faults that do not end the reading are dropped. -/
  isTrial : Bool := false

namespace Context

/-- The context after an import or an export at the top of the program. -/
def ofModule (ctx : Context) : Context := { ctx with isStrict := true, inModule := true }

/-- Is a word reserved where the context holds? -/
def reserves (ctx : Context) (w : String) : Bool :=
  if w = "await" then ctx.inAsync || ctx.inStaticBlock || ctx.inModule
  else if w = "yield" then ctx.inGenerator || ctx.isStrict
  else isReserved w || (ctx.isStrict && isStrictReserved w)

/-- A reserved word must not be spelled with escapes. -/
def settle (ctx : Context) (l : Lexeme) : Lexeme :=
  match l.token with
  | .word text name =>
    if text ≠ name && ctx.reserves text then
      { l with token := .bad (.escapeInReservedWord text) l.lo }
    else l
  | _ => l

end Context

/-- Comments by the position they belong to. -/
structure Comments where
  leading : List (Nat × Comment) := []
  trailing : List (Nat × Comment) := []
deriving Inhabited

structure State where
  source : Source
  current : Lexeme
  previous : Option Lexeme := none
  /-- End of the text read so far. -/
  readTo : Nat := 0
  /-- Noted faults, latest first. -/
  faults : List SyntaxError := []
  /-- Faults that count only if the program turns out to be a module, latest first. -/
  moduleFaults : List SyntaxError := []
  sawModuleItem : Bool := false
  arrowStart : Option Nat := none
  labels : List String := []
  /-- Commas that follow a spread element, by the start of that element. -/
  spreadCommas : List (Nat × Nat) := []
  /-- Found comments, latest first. -/
  comments : Comments := {}

/-- A rule of the grammar. -/
abbrev Parse := ReaderT Context (EStateM SyntaxError State)

namespace Parse

/-- The current token. -/
def token : Parse Token := return (← get).current.token

/-- Start of the current token. -/
def here : Parse Nat := return (← get).current.lo

/-- Span of the current token. -/
def hereSpan : Parse Span := return (← get).current.span

/-- End of the last token read. -/
def lastEnd : Parse Nat := return (← get).readTo

/-- Span from a position to the end of the last token read. -/
def spanFrom (lo : Nat) : Parse Span := return ⟨lo, (← get).readTo⟩

/-- Span of the last token read. -/
def lastSpan : Parse Span := do
  let s ← get
  return match s.previous with
    | some l => ⟨l.lo, s.readTo⟩
    | none => ⟨0, 0⟩

/-- Does a line break stand before the current token? -/
def afterBreak : Parse Bool := return (← get).current.afterBreak

def isTyped : Parse Bool := return (← read).dialect.typescript

/-- Run a rule in a changed context. -/
def inContext {α : Type} (change : Context → Context) (p : Parse α) : Parse α :=
  withReader change p

/-- Note a fault and go on. -/
def note (f : Fault) (pos : Nat) : Parse Unit := do
  if !(← read).isTrial then
    modify fun s => { s with faults := ⟨f, pos⟩ :: s.faults }

def noteHere (f : Fault) : Parse Unit := do note f (← here)

/-- Note a fault of strict code. Elsewhere it counts only if the program is a module. -/
def noteStrict (f : Fault) (pos : Nat) : Parse Unit := do
  let ctx ← read
  if !ctx.isTrial then
    if ctx.isStrict then note f pos
    modify fun s => { s with moduleFaults := ⟨f, pos⟩ :: s.moduleFaults }

/-- End the reading with a fault. A bad token at the cursor is noted first. -/
def failAt {α : Type} (f : Fault) (pos : Nat) : Parse α := do
  match ← token with
  | .bad g p => note g p
  | _ => pure ()
  throw ⟨f, pos⟩

def fail {α : Type} (f : Fault) : Parse α := do failAt f (← here)

/-- The comments of a gap, attached to the token before or after it. -/
def attach (before : Option Token) (readTo : Nat) (next : Lexeme) (c : Comments) : Comments :=
  next.comments.foldl
    (fun c found =>
      let kept :=
        match before with
        | none => false
        | some t =>
          !found.afterBreak &&
            (if found.comment.isBlock then t.keepsComment || found.beforeSemicolon
             else t.keepsLineComment)
      if kept || (next.token == .eof && before.isSome) then
        { c with trailing := (readTo, found.comment) :: c.trailing }
      else { c with leading := (next.lo, found.comment) :: c.leading })
    c

/-- Note what this program does not accept in a token. -/
def noteFlaw (f : Flaw) : Parse Unit := do
  match f.scope with
  | .all => note f.fault f.pos
  | .strict => noteStrict f.fault f.pos
  | .typed => if ← isTyped then note f.fault f.pos

/-- Go on with the token at or after `pos`; `before` is the token that ended there. -/
def resume (before : Option Lexeme) (pos : Nat) : Parse Unit := do
  let ctx ← read
  modify fun s =>
    let next := ctx.settle (s.source.lexAt pos false)
    let markup :=
      if ctx.isTrial then []
      else next.markupComments.reverse.map fun p => ⟨.legacyCommentInModule, p⟩
    { s with
      current := next
      previous := before
      readTo := pos
      moduleFaults := markup ++ s.moduleFaults
      comments := attach (before.map (·.token)) pos next s.comments }
  (← get).current.flaws.forM noteFlaw

/-- Step over the current token. -/
def bump : Parse Unit := do
  let cur := (← get).current
  resume (some cur) cur.hi

/-- The token after the current one. -/
def peek : Parse Lexeme := do
  let s ← get
  return (← read).settle (s.source.lexAt s.current.hi false)

def isPunct (p : String) : Parse Bool := return (← token).isPunct p

def isWord (w : String) : Parse Bool := return (← token).isWord w

def isEof : Parse Bool := return (← token) == .eof

def peekPunct (p : String) : Parse Bool := return (← peek).token.isPunct p

def peekWord (w : String) : Parse Bool := return (← peek).token.isWord w

/-- Step over a punctuator if it is there. -/
def eat (p : String) : Parse Bool := do
  if ← isPunct p then
    bump
    return true
  else return false

def eatWord (w : String) : Parse Bool := do
  if ← isWord w then
    bump
    return true
  else return false

def expect (p : String) : Parse Unit := do
  if !(← eat p) then fail (.expected p (← token).shown)

def expectWord (w : String) : Parse Unit := do
  if !(← eatWord w) then fail (.expected w (← token).shown)

/-- Fail at the current token, naming what could stand there. -/
def unexpected {α : Type} (wanted : String) : Parse α := do
  fail (.unexpected (← token).shown wanted)

/-- Can a statement end before the current token? -/
def atSemicolon : Parse Bool := do
  let t ← token
  return t.isPunct ";" || t.isPunct "\x7d" || t == .eof || (← afterBreak)

/-- End a statement, stepping over a semicolon if there is one. -/
def eatSemicolon : Parse Bool := do
  if ← eat ";" then return true
  let t ← token
  return t.isPunct "\x7d" || t == .eof || (← afterBreak)

def expectSemicolon : Parse Unit := do
  if !(← eatSemicolon) then fail (.expected ";" (← token).shown)

/-- Run a rule as a trial: if it fails or gives nothing, everything is as it was before. -/
def trial {α : Type} (p : Parse (Option α)) : Parse (Option α) := fun ctx s =>
  match p { ctx with isTrial := true } s with
  | .ok (some a) s' => .ok (some a) s'
  | .ok none _ => .ok none s
  | .error _ _ => .ok none s

/-- Run a rule, keep the cursor where it ends, and give its fault as a value. -/
def caught {α : Type} (p : Parse α) : Parse (Except SyntaxError α) := fun ctx s =>
  match p ctx s with
  | .ok a s' => .ok (.ok a) s'
  | .error e s' => .ok (.error e) s'

/-- Look ahead with a rule; nothing changes. -/
def lookahead {α : Type} (default : α) (p : Parse α) : Parse α := fun ctx s =>
  match p { ctx with isTrial := true } s with
  | .ok a _ => .ok a s
  | .error _ _ => .ok default s

def collectFrom {α : Type} (step : Parse (Option α)) : Nat → List α → Parse (List α)
  | 0, acc => pure acc.reverse
  | fuel + 1, acc => do
    match ← step with
    | none => pure acc.reverse
    | some a => collectFrom step fuel (a :: acc)

/-- Run a rule until it gives nothing, and collect what it gave. A text of `n` characters has at most
`n` tokens, which bounds the number of rounds. -/
def collect {α : Type} (step : Parse (Option α)) : Parse (List α) := do
  collectFrom step ((← get).source.size + 2) []

def loopFrom {σ : Type} (step : σ → Parse (Option σ)) : Nat → σ → Parse σ
  | 0, a => pure a
  | fuel + 1, a => do
    match ← step a with
    | none => pure a
    | some b => loopFrom step fuel b

/-- Run a rule on its own result until it gives nothing. -/
def loop {σ : Type} (start : σ) (step : σ → Parse (Option σ)) : Parse σ := do
  loopFrom step ((← get).source.size + 2) start

/-- Note that the program must be a module. -/
def markModule : Parse Unit := modify fun s => { s with sawModuleItem := true }

/-- Split a token that begins with a given character, so that this character is the current token. -/
def splitPunct (c : Char) : Parse Unit :=
  modify fun s =>
    match s.current.token with
    | .punct p =>
      if p.length > 1 && p.toList.head? == some c then
        { s with current :=
          { s.current with token := .punct (String.singleton c), hi := s.current.lo + 1 } }
      else s
    | _ => s

end Parse

end AwaitCalls.Syntax
