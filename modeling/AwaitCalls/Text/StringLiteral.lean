/-!
# String literals

The text of a string literal with a given value. A value is a list of code points, among which a lone
surrogate may occur.
-/
namespace AwaitCalls.Text

/-- A number with a given number of hexadecimal digits. -/
def hexPadded (width n : Nat) (isUpper : Bool) : String :=
  let digits := Nat.toDigits 16 n
  let digits := if isUpper then digits.map Char.toUpper else digits
  String.ofList (List.replicate (width - digits.length) '0' ++ digits)

/-- The characters of a string literal between quotes; `quote` is the code of the quote. -/
def escapedUnits (quote : Nat) : List Nat → List Char
  | [] => []
  | n :: rest =>
    let shown : String :=
      if n = 0 then
        if rest.head?.any fun d => 0x30 ≤ d && d ≤ 0x39 then "\\x00" else "\\0"
      else if n = 8 then "\\b"
      else if n = 12 then "\\f"
      else if n = 10 then "\\n"
      else if n = 13 then "\\r"
      else if n = 11 then "\\v"
      else if n = 9 then "\t"
      else if n = 0x5C then "\\\\"
      else if n = quote then String.ofList ['\\', Char.ofNat n]
      else if n < 0x20 then "\\x" ++ hexPadded 2 n false
      else if n = 0x2028 then "\\u2028"
      else if n = 0x2029 then "\\u2029"
      else if n = 0xFEFF then "\\uFEFF"
      else if 0xD800 ≤ n && n ≤ 0xDFFF then "\\u" ++ hexPadded 4 n true
      else String.singleton (Char.ofNat n)
    shown.toList ++ escapedUnits quote rest

/-- A string value in quotes. Double quotes, unless the value has more of them than of single ones. -/
def quotedValue (value : List Nat) : String :=
  let quote := if value.count 0x22 > value.count 0x27 then '\'' else '"'
  String.ofList ([quote] ++ escapedUnits quote.toNat value ++ [quote])

end AwaitCalls.Text
