import AwaitCalls.Text.Identifier
import AwaitCalls.Syntax.Token

/-!
# Reading tokens

`Source.lexAt` reads the token that starts at or after a position, in the grammar's ordinary mode.
Where the grammar reads text in another way (regular expressions, templates, markup), it calls the
function for that mode at a position of its choice. All of them are functions of the text and a
position, so looking ahead is calling them.
-/
namespace AwaitCalls.Text.Source

open AwaitCalls.Syntax

/-- The character at a position. -/
def char? (s : Source) (pos : Nat) : Option Char := s.chars[pos]?

/-- Does a text stand at a position? -/
def startsAt (s : Source) (pos : Nat) (text : String) : Bool :=
  let rec go : List Char → Nat → Bool
    | [], _ => true
    | c :: cs, p => s.chars[p]? == some c && go cs (p + 1)
  go text.toList pos

/-- The first position from `pos` on whose character fails the test. -/
def skipWhile (s : Source) (test : Char → Bool) (pos : Nat) : Nat :=
  if h : pos < s.chars.size then
    if test s.chars[pos] then s.skipWhile test (pos + 1) else pos
  else pos
termination_by s.chars.size - pos

def isLineEnd (c : Char) : Bool := c = '\n' || c = '\r' || c.toNat = 0x2028 || c.toNat = 0x2029

def isSpace (c : Char) : Bool :=
  let n := c.toNat
  n = 9 || n = 11 || n = 12 || n = 32 || n = 0xA0 || n = 0xFEFF || n = 0x1680 ||
    (0x2000 ≤ n && n ≤ 0x200A) || n = 0x202F || n = 0x205F || n = 0x3000

/-- The end of a comment in marks, from its inside, if it has one, and whether a line break stands in
it. -/
def blockCommentEnd (s : Source) : Nat → Nat → Bool → Option Nat × Bool
  | 0, _, broke => (none, broke)
  | fuel + 1, pos, broke =>
    match s.char? pos with
    | none => (none, broke)
    | some c =>
      if c = '*' && s.char? (pos + 1) == some '/' then (some pos, broke)
      else s.blockCommentEnd fuel (pos + 1) (broke || isLineEnd c)

/-- Marks that a merge leaves at the start of a line. -/
def conflictMarks : List String := ["=======", "<<<<<<< ", ">>>>>>> "]

/-- What stands between two tokens. -/
structure Gap where
  pos : Nat
  broke : Bool
  comments : List FoundComment
  /-- Starts of comments in the old markup style. -/
  markup : List Nat
  /-- Starts of lines that a merge left. -/
  conflicts : List Nat
  flaws : List Flaw

/-- Skip blanks and comments. The comments, the positions and the flaws come in reverse. A comment
without an end reaches to the end of the text. -/
def skipGap (s : Source) : Nat → Gap → Gap
  | 0, g => g
  | fuel + 1, g =>
    let lineComment (skip : Nat) (isMarkup : Bool) : Gap :=
      let stop := s.skipWhile (fun c => !isLineEnd c) (g.pos + skip)
      let found : FoundComment :=
        ⟨⟨false, s.slice (g.pos + skip) stop, ⟨g.pos, stop⟩⟩, g.broke, false⟩
      s.skipGap fuel
        { g with pos := stop, comments := found :: g.comments
                 markup := if isMarkup then g.pos :: g.markup else g.markup }
    match s.char? g.pos with
    | none => g
    | some c =>
      if isLineEnd c then s.skipGap fuel { g with pos := g.pos + 1, broke := true }
      else if isSpace c then s.skipGap fuel { g with pos := g.pos + 1 }
      else if s.startsAt g.pos "//" then lineComment 2 false
      else if s.startsAt g.pos "/*" then
        match s.blockCommentEnd (s.size + 1 - g.pos) (g.pos + 2) false with
        | (none, broke) =>
          { g with pos := s.size, broke := g.broke || broke
                   flaws := ⟨.all, .unterminatedComment, s.size⟩ :: g.flaws }
        | (some stop, broke) =>
          let found : FoundComment :=
            ⟨⟨true, s.slice (g.pos + 2) stop, ⟨g.pos, stop + 2⟩⟩, g.broke,
              s.char? (stop + 2) == some ';'⟩
          s.skipGap fuel
            { g with pos := stop + 2, broke := g.broke || broke, comments := found :: g.comments }
      else if s.startsAt g.pos "<!--" then lineComment 4 true
      else if g.broke && s.startsAt g.pos "-->" then lineComment 3 true
      else if g.broke && conflictMarks.any (s.startsAt g.pos) then
        s.skipGap fuel
          { g with pos := s.skipWhile (fun c => !isLineEnd c) g.pos
                   conflicts := g.pos :: g.conflicts
                   flaws := ⟨.all, .mergeConflict, g.pos⟩ :: g.flaws }
      else g

def hexDigit? (c : Char) : Option Nat :=
  if '0' ≤ c && c ≤ '9' then some (c.toNat - '0'.toNat)
  else if 'a' ≤ c && c ≤ 'f' then some (c.toNat - 'a'.toNat + 10)
  else if 'A' ≤ c && c ≤ 'F' then some (c.toNat - 'A'.toNat + 10)
  else none

/-- Digits of a base. -/
def isDigitOf (base : Nat) (c : Char) : Bool :=
  match hexDigit? c with
  | none => false
  | some d => d < base

/-- The flaw of a run of digits in which an underscore does not stand between two digits. -/
def separatorFlaws (s : Source) (base lo hi : Nat) : List Flaw :=
  let isMisplaced := (List.range (hi - lo)).any fun i =>
    s.char? (lo + i) == some '_' && (i = 0 || !(s.char? (lo + i + 1)).any (isDigitOf base))
  if isMisplaced then [⟨.all, .numericSeparator, lo⟩] else []

/-- Hexadecimal digits from `pos` on, in which underscores may stand: at most `most` of them, as long
as the value fits in 32 bits. Gives their count, their value and the position after them. -/
def hexRun (s : Source) (most : Nat) : Nat → Nat → Nat → Nat → Nat × Nat × Nat
  | 0, pos, count, value => (count, value, pos)
  | fuel + 1, pos, count, value =>
    if count = most || value > 0xFFFFFFFF then (count, value, pos)
    else
      match s.char? pos with
      | none => (count, value, pos)
      | some c =>
        if c = '_' then s.hexRun most fuel (pos + 1) count value
        else
          match hexDigit? c with
          | none => (count, value, pos)
          | some d => s.hexRun most fuel (pos + 1) (count + 1) (value * 16 + d)

/-- A code point, the position after its spelling and the flaws of the spelling. -/
structure Spelled where
  value : Nat
  stop : Nat
  flaws : List Flaw

/-- What follows `\x` or `\u`: exactly `n` hexadecimal digits. A fault stands after the digits. -/
def hexEscape (s : Source) (n : Nat) (wanted : String) (pos : Nat) : Except SyntaxError Spelled :=
  let (count, value, stop) := s.hexRun n (s.size + 1 - pos) pos 0 0
  if count = n then .ok ⟨value, stop, s.separatorFlaws 16 pos stop⟩
  else .error ⟨.badEscape wanted, stop⟩

/-- What follows `\u`: four hexadecimal digits, or a code point in braces. A fault stands after the
digits. -/
def unicodeEscape (s : Source) (pos : Nat) : Except SyntaxError Spelled :=
  if s.char? pos == some '\x7b' then
    let (count, value, stop) := s.hexRun (s.size + 1) (s.size + 1 - pos) (pos + 1) 0 0
    if count = 0 || value > 0xFFFFFFFF then .error ⟨.badEscape "1-6 hex characters", stop⟩
    else if value > 0x10FFFF then
      .error ⟨.badEscape "1-6 hex characters in the range 0 to 10FFFF.", stop⟩
    else if s.char? stop != some '\x7d' then .error ⟨.unclosedEscape, pos + 1⟩
    else .ok ⟨value, stop + 1, s.separatorFlaws 16 (pos + 1) stop⟩
  else s.hexEscape 4 "4 hex characters" pos

/-- What an escape sequence stands for. -/
structure Escape where
  /-- Nothing for an escaped line break. -/
  value : Option Nat
  stop : Nat
  flaws : List Flaw := []

/-- An escape sequence whose backslash stands before `pos`. -/
def escape (s : Source) (pos : Nat) : Except Fault Escape :=
  let spelled (r : Except SyntaxError Spelled) : Except Fault Escape :=
    match r with
    | .error e => .error e.fault
    | .ok p => .ok ⟨some p.value, p.stop, p.flaws⟩
  match s.char? pos with
  | none => .error .invalidEscape
  | some c =>
    if c = 'n' then .ok ⟨some 10, pos + 1, []⟩
    else if c = 'r' then .ok ⟨some 13, pos + 1, []⟩
    else if c = 't' then .ok ⟨some 9, pos + 1, []⟩
    else if c = 'b' then .ok ⟨some 8, pos + 1, []⟩
    else if c = 'v' then .ok ⟨some 11, pos + 1, []⟩
    else if c = 'f' then .ok ⟨some 12, pos + 1, []⟩
    else if c = '\r' then
      .ok ⟨none, if s.char? (pos + 1) == some '\n' then pos + 2 else pos + 1, []⟩
    else if isLineEnd c then .ok ⟨none, pos + 1, []⟩
    else if c = 'x' then spelled (s.hexEscape 2 "2 hex characters" (pos + 1))
    else if c = 'u' then spelled (s.unicodeEscape (pos + 1))
    else if isDigitOf 8 c then
      let isOctal := fun (d : Option Char) => d.any (isDigitOf 8)
      let digit := fun (d : Option Char) => (d.getD '0').toNat - '0'.toNat
      let d1 := s.char? (pos + 1)
      let d2 := s.char? (pos + 2)
      let v0 := c.toNat - '0'.toNat
      -- A zero alone is no octal escape.
      let flaws : List Flaw :=
        if c ≠ '0' || isOctal d1 then [⟨.strict, .legacyOctal, pos - 1⟩] else []
      if isOctal d1 then
        if c ≤ '3' && isOctal d2 then
          .ok ⟨some (v0 * 64 + digit d1 * 8 + digit d2), pos + 3, flaws⟩
        else .ok ⟨some (v0 * 8 + digit d1), pos + 2, flaws⟩
      else .ok ⟨some v0, pos + 1, flaws⟩
    else .ok ⟨some c.toNat, pos + 1, []⟩

/-- Join each high surrogate with the low surrogate after it. -/
def joinSurrogates : List Nat → List Nat
  | [] => []
  | [n] => [n]
  | h :: l :: rest =>
    if 0xD800 ≤ h && h ≤ 0xDBFF && 0xDC00 ≤ l && l ≤ 0xDFFF then
      (0x10000 + (h - 0xD800) * 0x400 + (l - 0xDC00)) :: joinSurrogates rest
    else h :: joinSurrogates (l :: rest)

/-- The inside of a string literal up to and over its closing quote, with its value in reverse. A string
that the line or the text ends is one all the same. -/
def stringBody (s : Source) (quote : Char) (start : Nat) :
    Nat → Nat → List Nat → List Flaw → Except SyntaxError (List Nat × Nat × List Flaw)
  | 0, pos, acc, flaws => .ok (acc, pos, flaws ++ [⟨.all, .unterminatedString, start⟩])
  | fuel + 1, pos, acc, flaws =>
    match s.char? pos with
    | none => .ok (acc, pos, flaws ++ [⟨.all, .unterminatedString, start⟩])
    | some c =>
      if c = quote then .ok (acc, pos + 1, flaws)
      else if c = '\\' then
        match s.escape (pos + 1) with
        | .error f => .error ⟨f, pos⟩
        | .ok e => s.stringBody quote start fuel e.stop (e.value.toList ++ acc) (flaws ++ e.flaws)
      else if c = '\n' || c = '\r' then .ok (acc, pos, flaws ++ [⟨.all, .unterminatedString, start⟩])
      else s.stringBody quote start fuel (pos + 1) (c.toNat :: acc) flaws

/-- The letters of a word as they are read. -/
structure Letters where
  /-- The letters, latest first, with their escapes read. -/
  letters : List Char := []
  isEscaped : Bool := false
  flaws : List Flaw := []

/-- The letters of a word from `pos` on, and where it ends. -/
def wordBody (s : Source) : Nat → Nat → Letters → Except SyntaxError (Letters × Nat)
  | 0, pos, w => .ok (w, pos)
  | fuel + 1, pos, w =>
    match s.char? pos with
    | none => .ok (w, pos)
    | some c =>
      if c = '\\' then
        if s.char? (pos + 1) == some 'u' then
          match s.unicodeEscape (pos + 2) with
          | .error e => .error e
          | .ok p =>
            let d := Char.ofNat p.value
            let flaws := if isIdPart d then p.flaws else p.flaws ++ [⟨.all, .invalidIdentChar, pos⟩]
            s.wordBody fuel p.stop
              { letters := d :: w.letters, isEscaped := true, flaws := w.flaws ++ flaws }
        else .error ⟨.expectedUnicodeEscape, pos⟩
      else if isIdPart c then s.wordBody fuel (pos + 1) { w with letters := c :: w.letters }
      else .ok (w, pos)

/-- A run of digits and underscores. -/
def digitsEnd (s : Source) (base : Nat) (pos : Nat) : Nat :=
  s.skipWhile (fun c => isDigitOf base c || c = '_') pos

/-- May a letter not follow a number? -/
def isAsciiIdStart (c : Char) : Bool := c.isAlpha || c = '_' || c = '$'

/-- A number that starts at `pos`, with its token, end and flaws. -/
def number (s : Source) (pos : Nat) : Token × Nat × List Flaw :=
  let big (stop : Nat) (flaws : List Flaw) : Token × Nat × List Flaw :=
    (.bigInt (s.slice pos stop), stop, flaws)
  let finish (stop : Nat) (flaws : List Flaw) : Token × Nat × List Flaw :=
    if (s.char? stop).any isAsciiIdStart then (.bad .identAfterNumber stop, stop, flaws)
    else (.num (s.slice pos stop), stop, flaws)
  let hasDigit (lo hi : Nat) : Bool := (s.slice lo hi).toList.any (· ≠ '_')
  let radix (base : Nat) : Token × Nat × List Flaw :=
    let stop := s.digitsEnd base (pos + 2)
    let flaws := s.separatorFlaws base (pos + 2) stop
    if !hasDigit (pos + 2) stop then (.bad (.expectedDigit base) (pos + 2), stop, flaws)
    else if s.char? stop == some 'n' then big (stop + 1) flaws
    else finish stop flaws
  let second := s.char? (pos + 1)
  if s.char? pos == some '0' && (second == some 'x' || second == some 'X') then radix 16
  else if s.char? pos == some '0' && (second == some 'o' || second == some 'O') then radix 8
  else if s.char? pos == some '0' && (second == some 'b' || second == some 'B') then radix 2
  else
    let intEnd := s.digitsEnd 10 pos
    let isLegacy := intEnd > pos + 1 && s.char? pos == some '0'
    let isOctal := isLegacy && (s.slice pos intEnd).toList.all fun c => c = '_' || isDigitOf 8 c
    let flaws := s.separatorFlaws 10 pos intEnd ++
      (if isOctal then [⟨.typed, .octalLiteral, pos⟩, ⟨.strict, .legacyOctal, pos⟩]
       else if isLegacy then [⟨.strict, .legacyDecimal, pos⟩]
       else [])
    if s.char? intEnd == some 'n' && intEnd > pos && !isLegacy then big (intEnd + 1) flaws
    else
      let fracEnd :=
        if s.char? intEnd == some '.' && !isOctal then s.digitsEnd 10 (intEnd + 1) else intEnd
      let flaws := flaws ++ s.separatorFlaws 10 (intEnd + 1) fracEnd
      let isExp := (s.char? fracEnd == some 'e' || s.char? fracEnd == some 'E') && !isOctal
      if !isExp then finish fracEnd flaws
      else
        let sign := s.char? (fracEnd + 1)
        let digits := if sign == some '+' || sign == some '-' then fracEnd + 2 else fracEnd + 1
        let stop := s.digitsEnd 10 digits
        let flaws := flaws ++ s.separatorFlaws 10 digits stop
        if sign.isNone then (.bad .exponentEnd (fracEnd + 1), fracEnd + 1, flaws)
        else if !hasDigit digits stop then (.bad (.expectedDigit 10) digits, stop, flaws)
        else finish stop flaws

/-- Punctuators of more than one character, longer ones before their beginnings. -/
def longPuncts : List String :=
  [">>>=", "...", "===", "!==", "**=", "<<=", ">>=", ">>>", "&&=", "||=", "??=", "=>", "==", "!=",
   "<=", ">=", "<<", ">>", "++", "--", "&&", "||", "??", "+=", "-=", "*=", "/=", "%=", "&=",
   "|=", "^=", "**"]

def shortPuncts : List Char :=
  ['\x7b', '\x7d', '(', ')', '[', ']', '.', ';', ',', '<', '>', '+', '-', '*', '/', '%', '&', '|',
   '^', '!', '~', '?', ':', '=', '@', '#', '\x60']

/-- A punctuator that starts at `pos`. -/
def punct? (s : Source) (pos : Nat) : Option String :=
  match longPuncts.find? fun p => s.startsAt pos p with
  | some p => some p
  | none => ((s.char? pos).filter shortPuncts.contains).map String.singleton

/-- How a piece of a template ends. -/
inductive TemplateEnd
  | closed | hole | cut
deriving DecidableEq

/-- A piece of a template from `pos` to the backquote or the hole that ends it: its end, how it ends,
and the first bad escape in it. -/
def templatePiece (s : Source) : Nat → Nat → Option SyntaxError → Nat × TemplateEnd × Option SyntaxError
  | 0, pos, bad => (pos, .cut, bad)
  | fuel + 1, pos, bad =>
    match s.char? pos with
    | none => (pos, .cut, bad)
    | some c =>
      if c = '\x60' then (pos, .closed, bad)
      else if c = '$' && s.char? (pos + 1) == some '\x7b' then (pos, .hole, bad)
      else if c = '\\' then
        let fault : Option SyntaxError :=
          match s.escape (pos + 1) with
          | .error f => some ⟨f, pos⟩
          | .ok e =>
            if e.flaws.any fun f => f.fault = .legacyOctal then some ⟨.legacyOctal, pos⟩ else none
        s.templatePiece fuel (pos + 2) (bad.orElse fun _ => fault)
      else s.templatePiece fuel (pos + 1) bad

/-- The token that starts exactly at `pos`, its end and its flaws. -/
def tokenAt (s : Source) (pos : Nat) : Token × Nat × List Flaw :=
  match s.char? pos with
  | none => (.eof, pos, [])
  | some c =>
    if isIdStart c || c = '\\' then
      match s.wordBody (s.size + 1 - pos) pos {} with
      | .error e => (.bad e.fault e.pos, pos + 1, [])
      | .ok (w, stop) =>
        let text := String.ofList w.letters.reverse
        let raw := s.slice pos stop
        let token : Token :=
          if !w.isEscaped then .word text text
          else if c = '\\' then .word raw text
          else if isReserved text then .bad (.escapeInReservedWord text) pos
          else if isContextual text then .word text raw
          else .word text text
        (token, stop, w.flaws)
    else if c.isDigit || (c = '.' && (s.char? (pos + 1)).any Char.isDigit) then s.number pos
    else if c = '"' || c = '\'' then
      match s.stringBody c pos (s.size + 1 - pos) (pos + 1) [] [] with
      | .error e => (.bad e.fault e.pos, s.size, [])
      | .ok (value, stop, flaws) =>
        (.str (joinSurrogates value.reverse) (s.slice pos stop), stop, flaws)
    else if c = '\x60' && (s.templatePiece (s.size + 1 - pos) (pos + 1) none).2.1 = .cut then
      (.bad .unterminatedTemplate pos, s.size, [])
    else
      match s.punct? pos with
      | some p => (.punct p, pos + p.length, [])
      | none => (.bad (.unexpectedChar c) pos, pos + 1, [])

/-- Read the next token at or after a position, with the blanks and comments before it. `isFirst`
says that no token stands before it, which counts as a line break. A comment in the old markup style
and a line that a merge left belong to the token after them, which starts where they do. -/
def lexAt (s : Source) (pos : Nat) (isFirst : Bool) : Lexeme :=
  let g := s.skipGap (s.size + 1 - pos) ⟨pos, isFirst, [], [], [], []⟩
  let (token, stop, flaws) := s.tokenAt g.pos
  let isConflict := g.broke && s.startsAt g.pos "||||||| "
  { token := if isConflict then .bad .mergeConflict g.pos else token
    lo := (g.markup ++ g.conflicts).foldl min g.pos
    hi := stop
    afterBreak := g.broke
    comments := g.comments.reverse
    markupComments := g.markup.reverse
    flaws := g.flaws.reverse ++ flaws }

/-- The end of the body of a regular expression, which a slash outside brackets closes. -/
def regexBodyEnd (s : Source) : Nat → Nat → Bool → Option Nat
  | 0, _, _ => none
  | fuel + 1, pos, inClass =>
    match s.char? pos with
    | none => none
    | some c =>
      if isLineEnd c then none
      else if c = '\\' then
        match s.char? (pos + 1) with
        | none => none
        | some d => if isLineEnd d then none else s.regexBodyEnd fuel (pos + 2) inClass
      else if c = '[' then s.regexBodyEnd fuel (pos + 1) true
      else if c = ']' then s.regexBodyEnd fuel (pos + 1) false
      else if c = '/' && !inClass then some pos
      else s.regexBodyEnd fuel (pos + 1) inClass

/-- A regular expression that starts at `pos`: body, flags and end. -/
def regex? (s : Source) (pos : Nat) : Option (String × String × Nat) :=
  match s.regexBodyEnd (s.size + 1 - pos) (pos + 1) false with
  | none => none
  | some stop =>
    let flagsEnd :=
      if (s.char? (stop + 1)).any isAsciiIdStart then s.skipWhile isIdPart (stop + 1) else stop + 1
    some (s.slice (pos + 1) stop, s.slice (stop + 1) flagsEnd, flagsEnd)

/-- The code points that a piece of a template stands for, in reverse. A carriage return counts as a
line feed, and so does one with a line feed after it. -/
def templateBody (s : Source) : Nat → Nat → List Nat → List Nat
  | 0, _, acc => acc
  | fuel + 1, pos, acc =>
    match s.char? pos with
    | none => acc
    | some c =>
      if c = '\\' then
        match s.escape (pos + 1) with
        | .error _ => acc
        | .ok e => s.templateBody fuel e.stop (e.value.toList ++ acc)
      else if c = '\r' then
        s.templateBody fuel (if s.char? (pos + 1) == some '\n' then pos + 2 else pos + 1) (10 :: acc)
      else s.templateBody fuel (pos + 1) (c.toNat :: acc)

/-- The value of a piece of a template that is spelled `raw`. -/
def templateValue (raw : String) : List Nat :=
  let s : Source := ⟨raw.toList.toArray⟩
  joinSurrogates (s.templateBody s.size 0 []).reverse

/-- The end of a name in markup, in which hyphens may stand. -/
def jsxNameEnd (s : Source) (pos : Nat) : Nat :=
  s.skipWhile (fun c => isIdPart c || c = '-') pos

end AwaitCalls.Text.Source
