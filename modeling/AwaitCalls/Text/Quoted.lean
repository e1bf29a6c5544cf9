import AwaitCalls.Text.Width

/-!
# Text in quotes

How diagnostics quote characters and texts: control characters and characters that do not show on
their own are written as escapes.
-/
namespace AwaitCalls.Text

/-- Does the character show when it stands alone? -/
def isShown (c : Char) : Bool :=
  let n := c.toNat
  !(n < 0x20 || (0x7F ≤ n && n < 0xA0) || zeroWidthRanges.has n)

/-- A character between quotes of the given kind. -/
def escapeIn (quote : Char) (c : Char) : String :=
  if c = quote || c = '\\' then String.ofList ['\\', c]
  else if c = '\x00' then "\\0"
  else if c = '\n' then "\\n"
  else if c = '\r' then "\\r"
  else if c = '\t' then "\\t"
  else if isShown c then String.singleton c
  else "\\u\x7b" ++ String.ofList (Nat.toDigits 16 c.toNat) ++ "\x7d"

/-- A character in single quotes. -/
def quotedChar (c : Char) : String := "'" ++ escapeIn '\'' c ++ "'"

/-- A text in double quotes. -/
def quoted (s : String) : String := "\"" ++ String.join (s.toList.map (escapeIn '"')) ++ "\""

end AwaitCalls.Text
