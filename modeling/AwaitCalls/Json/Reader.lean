import AwaitCalls.Json.Value
import AwaitCalls.Text.Source

/-!
# Reading the interchange format

The reader is a cursor over the characters of a text. A fault is reported at a byte offset: at the
cursor, or, where only the next character was looked at, one byte after it.
-/
namespace AwaitCalls

open AwaitCalls.Text

inductive JsonFault
  | endInList | endInObject | endInString | endInValue
  | expectedColon | expectedListEnd | expectedObjectEnd | expectedIdent | expectedValue
  | invalidEscape | invalidNumber | numberRange | loneSurrogate | hexEscapeEnd
  | controlCharacter | keyNotString | trailingComma | trailingCharacters | depth
  /-- The value has another type than what is read. -/
  | wrongType (found wanted : String)
  | tooLong (length : Nat)
  | repeatedField (name : String)
deriving DecidableEq, Repr, Inhabited

def JsonFault.message : JsonFault → String
  | endInList => "EOF while parsing a list"
  | endInObject => "EOF while parsing an object"
  | endInString => "EOF while parsing a string"
  | endInValue => "EOF while parsing a value"
  | expectedColon => "expected `:`"
  | expectedListEnd => "expected `,` or `]`"
  | expectedObjectEnd => "expected `,` or `\x7d`"
  | expectedIdent => "expected ident"
  | expectedValue => "expected value"
  | invalidEscape => "invalid escape"
  | invalidNumber => "invalid number"
  | numberRange => "number out of range"
  | loneSurrogate => "lone leading surrogate in hex escape"
  | hexEscapeEnd => "unexpected end of hex escape"
  | controlCharacter => "control character (\\u0000-\\u001F) found while parsing a string"
  | keyNotString => "key must be a string"
  | trailingComma => "trailing comma"
  | trailingCharacters => "trailing characters"
  | depth => "recursion limit exceeded"
  | wrongType found wanted => "invalid type: " ++ found ++ ", expected " ++ wanted
  | tooLong n => "invalid length " ++ Decimal.decimalText n ++ ", expected fewer elements in array"
  | repeatedField name => "duplicate field `" ++ name ++ "`"

/-- A fault and the line and column, in bytes, that it is reported at. -/
structure JsonError where
  fault : JsonFault
  line : Nat
  column : Nat
deriving DecidableEq, Repr, Inhabited

def JsonError.message (e : JsonError) : String :=
  e.fault.message ++ " at line " ++ Decimal.decimalText e.line ++ " column " ++
    Decimal.decimalText e.column

/-- Line and column of a byte offset. -/
def bytePlace (text : Source) (offset : Nat) : Nat × Nat :=
  let rec walk : List Char → Nat → Nat → Nat → Nat × Nat
    | [], pos, line, start => (line, min offset pos - start)
    | c :: rest, pos, line, start =>
      if pos ≥ offset then (line, offset - start)
      else
        let next := pos + Source.byteWidth c
        if c = '\n' && next ≤ offset then walk rest next (line + 1) next
        else walk rest next line start
  walk text.chars.toList 0 1 0

/-- A rule of the reader: it moves the cursor. -/
abbrev JsonRead := ReaderT Source (StateT Nat (Except JsonError))

namespace JsonRead

/-- Fail at a byte offset. -/
def failAt {α : Type} (f : JsonFault) (offset : Nat) : JsonRead α := do
  let text ← read
  let (line, column) := bytePlace text (min offset (text.byteOffset text.size))
  throw ⟨f, line, column⟩

/-- Fail at the cursor. -/
def fail {α : Type} (f : JsonFault) : JsonRead α := do
  failAt f ((← read).byteOffset (← get))

/-- Fail at the next character. -/
def failPeek {α : Type} (f : JsonFault) : JsonRead α := do
  failAt f ((← read).byteOffset (← get) + 1)

def peek : JsonRead (Option Char) := return (← read).chars[← get]?

def step : JsonRead Unit := modify (· + 1)

/-- Step over the next character and give it. -/
def next : JsonRead (Option Char) := do
  let c ← peek
  if c.isSome then step
  return c

def isJsonBlank (c : Char) : Bool := c = ' ' || c = '\n' || c = '\t' || c = '\r'

def skipBlanks : JsonRead (Option Char) := do
  let text ← read
  let rec walk (fuel pos : Nat) : Nat :=
    match fuel with
    | 0 => pos
    | fuel + 1 => if (text.chars[pos]?).any isJsonBlank then walk fuel (pos + 1) else pos
  modify fun pos => walk text.size pos
  peek

/-- The letters of a word after its first. -/
def letters : List Char → JsonRead Unit
  | [] => pure ()
  | c :: cs => do
    match ← next with
    | none => fail .endInValue
    | some d => if d = c then letters cs else fail .expectedIdent

def isDigitNext : JsonRead Bool := return (← peek).any Char.isDigit

/-- The digits at the cursor. -/
def digits : JsonRead (List Char) := do
  let text ← read
  let rec walk (fuel pos : Nat) : List Char :=
    match fuel with
    | 0 => []
    | fuel + 1 =>
      match text.chars[pos]? with
      | some c => if c.isDigit then c :: walk fuel (pos + 1) else []
      | none => []
  let ds := walk text.size (← get)
  modify (· + ds.length)
  return ds

/-- The whole part of a number. A zero at the start stands alone. -/
def wholePart (atEnd : JsonFault) : JsonRead (List Char) := do
  match ← next with
  | none => fail atEnd
  | some '0' => if ← isDigitNext then failPeek .invalidNumber else return ['0']
  | some c => if c.isDigit then return c :: (← digits) else fail .invalidNumber

/-- The largest whole number that is kept as such. -/
def maxWord : Nat := UInt64.size - 1

def valueOf (ds : List Char) : Nat := ds.foldl (fun n c => n * 10 + (c.toNat - '0'.toNat)) 0

/-- As many digits as fit a machine word, and how many are left. -/
def takeWord : List Char → Nat → Nat × Nat
  | [], n => (n, 0)
  | c :: cs, n =>
    let m := n * 10 + (c.toNat - '0'.toNat)
    if m > maxWord then (n, cs.length + 1) else takeWord cs m

/-- `significand * 10 ^ exponent` in floating point, by repeated scaling; nothing if it is out of
range. -/
def scale (significand : Nat) (exponent : Int) : Option Float :=
  let rec go (fuel : Nat) (f : Float) (e : Int) : Option Float :=
    match fuel with
    | 0 => some f
    | fuel + 1 =>
      let k := e.natAbs
      if k ≤ 308 then
        let p := Float.ofScientific 1 false k
        if e ≥ 0 then
          let r := f * p
          if r.isInf then none else some r
        else some (f / p)
      else if f == 0.0 then some f
      else if e ≥ 0 then none
      else go fuel (f / Float.ofScientific 1 false 308) (e + 308)
  go (exponent.natAbs + 1) (Float.ofNat significand) exponent

/-- A number; its sign is read already. -/
def number (isPositive : Bool) : JsonRead JsonNumber := do
  let whole ← wholePart .endInValue
  let (word, dropped) := takeWord whole 0
  let isFraction := (← peek) == some '.'
  let places ←
    if isFraction then do
      step
      let ds ← digits
      if ds.isEmpty then
        if (← peek).isSome then failPeek .invalidNumber else failPeek .endInValue
      pure ds
    else pure []
  let (word, used) :=
    if dropped > 0 then (word, 0)
    else
      let (w, left) := takeWord places word
      (w, places.length - left)
  let hasExponent := (← peek) == some 'e' || (← peek) == some 'E'
  let exponent : Int ←
    if hasExponent then do
      step
      let sign ← peek
      if sign == some '+' || sign == some '-' then step
      match ← next with
      | none => fail .endInValue
      | some c =>
        if !c.isDigit then fail .invalidNumber
        let n := valueOf (c :: (← digits))
        pure (if sign == some '-' then -(n : Int) else (n : Int))
    else pure 0
  if dropped = 0 && !isFraction && !hasExponent then
    if isPositive then return .natural word
    if word = 0 || word > UInt64.size / 2 then return .real (-(Float.ofNat word))
    return .negative word
  let total : Int := exponent + (dropped : Int) - (used : Int)
  match if word = 0 then some 0.0 else scale word total with
  | none => fail .numberRange
  | some f => return .real (if isPositive then f else -f)

/-- Skip a number; its sign is skipped already. -/
def skipNumber : JsonRead Unit := do
  let _ ← wholePart .invalidNumber
  if (← peek) == some '.' then
    step
    if (← digits).isEmpty then failPeek .invalidNumber
  if (← peek) == some 'e' || (← peek) == some 'E' then
    step
    let sign ← peek
    if sign == some '+' || sign == some '-' then step
    match ← next with
    | none => fail .invalidNumber
    | some c => if !c.isDigit then fail .invalidNumber
    let _ ← digits

/-- The value of a hexadecimal digit. -/
def hexValue? (c : Char) : Option Nat :=
  if c.isDigit then some (c.toNat - '0'.toNat)
  else if 'a' ≤ c && c ≤ 'f' then some (c.toNat - 'a'.toNat + 10)
  else if 'A' ≤ c && c ≤ 'F' then some (c.toNat - 'A'.toNat + 10)
  else none

/-- Four hexadecimal digits. -/
def hexEscape : JsonRead Nat := do
  let text ← read
  let pos ← get
  let add (acc : Option Nat) (i : Nat) : Option Nat := do
    let n ← acc
    let d ← (text.chars[pos + i]?).bind hexValue?
    return n * 16 + d
  match [0, 1, 2, 3].foldl add (some 0) with
  | some n =>
    modify (· + 4)
    return n
  | none =>
    let stop := text.byteOffset pos + 4
    failAt (if text.byteOffset text.size < stop then .endInString else .invalidEscape) stop

/-- What a letter after a backslash stands for. -/
def simpleEscape? : Char → Option Char
  | '"' => some '"'
  | '\\' => some '\\'
  | '/' => some '/'
  | 'b' => some '\x08'
  | 'f' => some '\x0c'
  | 'n' => some '\n'
  | 'r' => some '\r'
  | 't' => some '\t'
  | _ => none

/-- The character of a `\u` escape; one outside the basic plane takes two of them. -/
def unicodeEscape : JsonRead Char := do
  let n ← hexEscape
  if 0xDC00 ≤ n && n ≤ 0xDFFF then fail .loneSurrogate
  if n < 0xD800 || n > 0xDBFF then return Char.ofNat n
  let expectNext (c : Char) : JsonRead Unit := do
    match ← next with
    | none => fail .endInString
    | some d => if d ≠ c then fail .hexEscapeEnd
  expectNext '\\'
  expectNext 'u'
  let m ← hexEscape
  if m < 0xDC00 || m > 0xDFFF then fail .loneSurrogate
  return Char.ofNat (0x10000 + (n - 0xD800) * 0x400 + (m - 0xDC00))

/-- The rest of a string after its opening quote. `isKept` is false for a string that is skipped. -/
def stringFrom (isKept : Bool) : Nat → List Char → JsonRead String
  | 0, _ => fail .endInString
  | fuel + 1, acc => do
    match ← peek with
    | none => fail .endInString
    | some c =>
      if c = '"' then
        step
        return String.ofList acc.reverse
      else if c = '\\' then
        step
        match ← next with
        | none => fail .endInString
        | some 'u' =>
          if isKept then
            let d ← unicodeEscape
            stringFrom isKept fuel (d :: acc)
          else
            let _ ← hexEscape
            stringFrom isKept fuel acc
        | some e =>
          match simpleEscape? e with
          | some d => stringFrom isKept fuel (d :: acc)
          | none => fail .invalidEscape
      else if c.toNat < 0x20 then
        if isKept then step
        fail .controlCharacter
      else
        step
        stringFrom isKept fuel (c :: acc)

def string : JsonRead String := do stringFrom true ((← read).size + 1) []

def skipString : JsonRead Unit := do
  let _ ← stringFrom false ((← read).size + 1) []

/-- Is there another element in a list? -/
def moreElements (isFirst : Bool) : JsonRead Bool := do
  let after ←
    match ← skipBlanks with
    | none => fail .endInList
    | some ']' => return false
    | some c =>
      if isFirst then pure (some c)
      else if c = ',' then do
        step
        skipBlanks
      else failPeek .expectedListEnd
  match after with
  | some ']' => failPeek .trailingComma
  | some _ => return true
  | none => fail .endInValue

/-- Is there another member in an object? -/
def moreMembers (isFirst : Bool) : JsonRead Bool := do
  let after ←
    match ← skipBlanks with
    | none => fail .endInObject
    | some '\x7d' => return false
    | some c =>
      if isFirst then pure (some c)
      else if c = ',' then do
        step
        skipBlanks
      else failPeek .expectedObjectEnd
  match after with
  | some '"' => return true
  | some '\x7d' => failPeek .trailingComma
  | some _ => failPeek .keyNotString
  | none => fail .endInValue

def endList : JsonRead Unit := do
  match ← skipBlanks with
  | some ']' => step
  | some ',' =>
    step
    match ← skipBlanks with
    | some ']' => failPeek .trailingComma
    | _ => failPeek .trailingCharacters
  | some _ => failPeek .trailingCharacters
  | none => fail .endInList

def endObject : JsonRead Unit := do
  match ← skipBlanks with
  | some '\x7d' => step
  | some ',' => failPeek .trailingComma
  | some _ => failPeek .trailingCharacters
  | none => fail .endInObject

def colon : JsonRead Unit := do
  match ← skipBlanks with
  | some ':' => step
  | some _ => failPeek .expectedColon
  | none => fail .endInObject

/-- The key of a member; the cursor stands at its quote. -/
def key : JsonRead String := do
  step
  string

def endOfText : JsonRead Unit := do
  if (← skipBlanks).isSome then failPeek .trailingCharacters

/-- Nesting that a value may have. -/
def maxDepth : Nat := 127

/-- A value without parts. -/
def scalar? (c : Char) : JsonRead (Option Json) := do
  if c = 'n' then
    step
    letters ['u', 'l', 'l']
    return some .null
  else if c = 't' then
    step
    letters ['r', 'u', 'e']
    return some (.bool true)
  else if c = 'f' then
    step
    letters ['a', 'l', 's', 'e']
    return some (.bool false)
  else if c = '-' then
    step
    return some (.num (← number false))
  else if c.isDigit then return some (.num (← number true))
  else if c = '"' then
    step
    return some (.str (← string))
  else return none

/-- Elements until the list ends. -/
def elements (value : JsonRead Json) : Nat → Bool → JsonRead (List Json)
  | 0, _ => return []
  | fuel + 1, isFirst => do
    if ← moreElements isFirst then
      let v ← value
      return v :: (← elements value fuel false)
    else return []

/-- Members until the object ends; the last value of a key counts. -/
def members (value : JsonRead Json) : Nat → Bool → List (String × Json) → JsonRead (List (String × Json))
  | 0, _, acc => return acc
  | fuel + 1, isFirst, acc => do
    if ← moreMembers isFirst then
      let k ← key
      colon
      let v ← value
      members value fuel false (Json.insertMember k v acc)
    else return acc

/-- A value, given the rule for the values in it, or none if it may not nest. -/
def valueFrom (inner : Option (JsonRead Json)) : JsonRead Json := do
  match ← skipBlanks with
  | none => fail .endInValue
  | some c =>
    if let some v ← scalar? c then return v
    if c ≠ '[' && c ≠ '\x7b' then failPeek .expectedValue
    match inner with
    | none => failPeek .depth
    | some rule =>
      step
      if c = '[' then
        let items ← elements rule ((← read).size + 1) true
        endList
        return .arr items
      else
        let ms ← members rule ((← read).size + 1) true []
        endObject
        return .obj ms

/-- A value that nests at most `depth` deep. -/
def value : (depth : Nat) → JsonRead Json
  | 0 => valueFrom none
  | depth + 1 => valueFrom (some (value depth))

/-- Close the brackets that end at the cursor. Gives what still encloses it, or nothing if the
skipped value is complete, and stops where another value must follow. -/
def closeBrackets : Nat → List Char → Bool → JsonRead (List Char)
  | 0, open_, _ => return open_
  | _, [], _ => return []
  | fuel + 1, b :: rest, acceptComma => do
    match ← skipBlanks with
    | none => fail (if b = '[' then .endInList else .endInObject)
    | some c =>
      if c = ',' && acceptComma then
        step
        return b :: rest
      else if (c = ']' && b = '[') || (c = '\x7d' && b = '\x7b') then
        step
        closeBrackets fuel rest true
      else if acceptComma then failPeek (if b = '[' then .expectedListEnd else .expectedObjectEnd)
      else return b :: rest

/-- Skip a value, whatever it is and however deep it nests. -/
def skipValue : Nat → List Char → JsonRead Unit
  | 0, _ => return ()
  | fuel + 1, open_ => do
    let opened ←
      match ← skipBlanks with
      | none => fail .endInValue
      | some c =>
        if c = '[' || c = '\x7b' then do
          step
          pure (some c)
        else if c = '-' then do
          step
          skipNumber
          pure none
        else if c.isDigit then do
          skipNumber
          pure none
        else if c = '"' then do
          step
          skipString
          pure none
        else do
          match ← scalar? c with
          | some _ => pure none
          | none => failPeek .expectedValue
    let left ←
      match opened with
      | some b => closeBrackets (open_.length + 2) (b :: open_) false
      | none => closeBrackets (open_.length + 2) open_ true
    match left with
    | [] => return ()
    | b :: _ =>
      if b = '\x7b' then
        match ← skipBlanks with
        | some '"' => step
        | some _ => failPeek .keyNotString
        | none => fail .endInObject
        skipString
        colon
      skipValue fuel left

/-- Skip the value at the cursor. -/
def ignored : JsonRead Unit := do skipValue ((← read).size + 1) []

/-- Run a rule on a whole text. -/
def onText {α : Type} (rule : JsonRead α) (text : String) : Except JsonError α :=
  match (do
    let a ← rule
    endOfText
    return a : JsonRead α) ⟨text.toList.toArray⟩ 0 with
  | .ok (a, _) => .ok a
  | .error e => .error e

end JsonRead

/-- Read a value from a text. -/
def Json.parse (text : String) : Except JsonError Json :=
  (JsonRead.value JsonRead.maxDepth).onText text

end AwaitCalls
