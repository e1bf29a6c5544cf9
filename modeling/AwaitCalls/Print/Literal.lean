import AwaitCalls.Decimal.Binary64
import AwaitCalls.Syntax.Lexer
import AwaitCalls.Text.StringLiteral

/-!
# Literals in minified text

Plain text keeps literals as they are spelled. Minified text writes their values: numbers in the
shortest of a few forms, strings with the quotes that need fewer escapes.
-/
namespace AwaitCalls.Print

open AwaitCalls.Decimal AwaitCalls.Text

/-! ## Numbers -/

/-- The value of a run of digits. -/
def digitsValue (base : Nat) (digits : List Char) : Nat :=
  digits.foldl (fun acc c => acc * base + (Source.hexDigit? c).getD 0) 0

/-- The decimal that a literal in base ten spells. -/
def scaledOfDecimal (chars : List Char) : Scaled :=
  let isExponent := fun c => c = 'e' || c = 'E'
  let mantissa := chars.takeWhile fun c => !isExponent c
  let whole := mantissa.takeWhile (· ≠ '.')
  let frac := (mantissa.dropWhile (· ≠ '.')).drop 1
  let exponent : Int :=
    match (chars.dropWhile fun c => !isExponent c).drop 1 with
    | '-' :: ds => -(digitsValue 10 ds : Int)
    | '+' :: ds => digitsValue 10 ds
    | ds => digitsValue 10 ds
  ⟨digitsValue 10 (whole ++ frac), exponent - frac.length⟩

/-- The natural number that a literal spells in a base other than ten. -/
def radixValue? : List Char → Option Nat
  | '0' :: c :: rest =>
    if c = 'x' || c = 'X' then some (digitsValue 16 rest)
    else if c = 'o' || c = 'O' then some (digitsValue 8 rest)
    else if c = 'b' || c = 'B' then some (digitsValue 2 rest)
    else if (c :: rest).all (Source.isDigitOf 8) then some (digitsValue 8 (c :: rest))
    else none
  | _ => none

/-- The value of a number literal; nothing if it is too large. -/
def numberValue? (raw : String) : Option Binary64 :=
  let chars := raw.toList.filter (· ≠ '_')
  match radixValue? chars with
  | some n => Binary64.ofFraction? n 1
  | none =>
    let d := scaledOfDecimal chars
    -- Exponents far outside the range need no exact arithmetic.
    if d.digits = 0 then some Binary64.zero
    else if d.exponent > 400 then none
    else if d.exponent + Binary64.digitCount d.digits < -400 then some Binary64.zero
    else Binary64.ofScaled? d

/-- The largest number of a 64-bit word. -/
def maxWord : Nat := UInt64.size - 1

def hexText (n : Nat) : String := "0x" ++ String.ofList (Nat.toDigits 16 n)

/-- Number of zeros at the start. -/
def zerosAt (cs : List Char) : Nat := (cs.takeWhile (· = '0')).length

/-- The shortest usual form of a decimal text. -/
def shortenDecimal (chars : List Char) : List Char :=
  match chars with
  | '0' :: '.' :: frac =>
    let zeros := zerosAt frac
    if zeros > 2 then frac.drop zeros ++ "e-".toList ++ Nat.toDigits 10 frac.length else '.' :: frac
  | _ =>
    let zeros := zerosAt chars.reverse
    if zeros ≥ 3 then chars.take (chars.length - zeros) ++ 'e' :: Nat.toDigits 10 zeros else chars

/-- A number in its short form. -/
def minifiedNumber (x : Binary64) : String :=
  let positional := x.shortest.positional
  match x.toNat? with
  | some n =>
    let word := min n maxWord
    if n ≤ maxWord + 1 && word ≥ 10000000 && word % 1000 ≠ 0 then hexText word
    else String.ofList (shortenDecimal positional.toList)
  | none => String.ofList (shortenDecimal positional.toList)

/-- The text of a number literal. -/
def numberText (minify : Bool) (raw : String) : String :=
  if !minify then raw
  else
    let (sign, digits) :=
      match raw.toList with
      | '-' :: rest => ("-", String.ofList rest)
      | _ => ("", raw)
    match numberValue? digits with
    | some x => sign ++ minifiedNumber x
    | none => raw

/-- Would a dot after the number belong to it? -/
def needsSecondDot (minify : Bool) (raw : String) : Bool :=
  if minify then (numberText true raw).toList.all Char.isDigit
  else
    let chars := raw.toList.filter (· ≠ '_')
    chars.all Char.isDigit && !(chars.length ≥ 2 && chars.head? == some '0')

/-- The text of a big integer literal. -/
def bigIntText (minify : Bool) (raw : String) : String :=
  if !minify then raw
  else
    let (sign, rest) :=
      match raw.toList with
      | '-' :: rest => ("-", rest)
      | rest => ("", rest)
    let digits := rest.filter fun c => c ≠ '_' && c ≠ 'n'
    let n := (radixValue? digits).getD (digitsValue 10 digits)
    sign ++ (if n ≥ 10000000000000000 then hexText n else decimalText n) ++ "n"

/-! ## Strings -/

/-- The text of a string literal. A directive with escapes keeps its spelling, on which its meaning
depends. -/
def stringText (minify : Bool) (value : List Nat) (raw : String) : String :=
  let isEscapedDirective := value == "use strict".toList.map Char.toNat && raw.toList.contains '\\'
  if !minify || isEscapedDirective then raw else quotedValue value

/-! ## Templates -/

/-- Line ends as line feeds. -/
def withLineFeeds : List Char → List Char
  | [] => []
  | ['\r'] => ['\n']
  | '\r' :: '\n' :: rest => '\n' :: withLineFeeds rest
  | '\r' :: c :: rest => '\n' :: withLineFeeds (c :: rest)
  | c :: rest => c :: withLineFeeds rest

/-- At most two hexadecimal digits: their value and how many there are. -/
def hexPair (cs : List Char) : Nat × Nat :=
  let digits := (cs.take 2).takeWhile fun c => (Source.hexDigit? c).isSome
  (digitsValue 16 digits, digits.length)

/-- A character given by its code in a template. `next` is the character after the escape. -/
def templateCode (n : Nat) (next : Option Char) : String :=
  if n = 0 then if next.any fun c => '1' ≤ c && c ≤ '9' then "\\x00" else "\\0"
  else if n < 16 then "\\x0" ++ hexPadded 1 n false
  else if 32 ≤ n && n ≤ 126 then String.singleton (Char.ofNat n)
  else "\\x" ++ hexPadded 2 n false

/-- A character that stands for itself in a template. `next` is the character after it. -/
def templateChar (c : Char) (next : Option Char) : String :=
  let n := c.toNat
  if n = 0 then templateCode 0 next
  else if n = 8 then "\\b"
  else if n = 11 then "\\v"
  else if n = 12 then "\\f"
  else if 0x7F ≤ n && n ≤ 0xFF then "\\x" ++ hexPadded 2 n false
  else if n = 0x2028 then "\\u2028"
  else if n = 0x2029 then "\\u2029"
  else if n = 0xFEFF then "\\uFEFF"
  else String.singleton c

/-- Does a backslash stay in front of the character? -/
def keepsBackslash (c : Char) : Bool :=
  ['\\', 'r', 'v', 'b', 'f', 'u', '\r', '\n', '\x60'].contains c || ('0' ≤ c && c ≤ '7')

/-- A piece of a template with its simple escapes written as the characters they stand for. The
character after an escape by code is kept as it is. `sawDollar` says that a dollar sign stands before,
so that a brace may need its backslash. -/
def unescapedPiece (sawDollar : Bool) : List Char → List Char
  | [] => []
  | ['\\'] => ['\\']
  | '\\' :: 'n' :: rest => '\n' :: unescapedPiece sawDollar rest
  | '\\' :: 't' :: rest => '\t' :: unescapedPiece sawDollar rest
  | '\\' :: 'x' :: rest =>
    let (n, count) := hexPair rest
    let after := rest.drop count
    (templateCode n after.head?).toList ++ after.take 1 ++ unescapedPiece sawDollar (after.drop 1)
  | '\\' :: c :: rest =>
    if c.toNat = 0x2028 || c.toNat = 0x2029 then unescapedPiece sawDollar rest
    else if keepsBackslash c || (c = '$' && rest.head? == some '\x7b') then
      '\\' :: c :: unescapedPiece sawDollar rest
    else if c = '\x7b' && sawDollar then '\\' :: c :: unescapedPiece false rest
    else (templateChar c rest.head?).toList ++ unescapedPiece (sawDollar || c = '$') rest
  | c :: rest => (templateChar c rest.head?).toList ++ unescapedPiece (sawDollar || c = '$') rest
termination_by cs => cs.length
decreasing_by all_goals simp only [List.length_cons, List.length_drop]; omega

/-- A piece of a template between its marks. A tag sees the spelling, so it is kept for one. -/
def pieceText (minify isTagged : Bool) (raw : String) : String :=
  let cs := withLineFeeds raw.toList
  String.ofList (if minify && !isTagged then unescapedPiece false cs else cs)

end AwaitCalls.Print
