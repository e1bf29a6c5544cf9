/-!
# White space

The Unicode property `White_Space`, with trimming and splitting by it.
-/
namespace AwaitCalls.Text

/-- The Unicode property `White_Space`. -/
def isBlank (c : Char) : Bool :=
  let n := c.toNat
  (9 ≤ n && n ≤ 13) || n = 0x20 || n = 0x85 || n = 0xA0 || n = 0x1680 ||
    (0x2000 ≤ n && n ≤ 0x200A) || n = 0x2028 || n = 0x2029 || n = 0x202F || n = 0x205F || n = 0x3000

/-- Drop white space at both ends. -/
def trimBlanks (cs : List Char) : List Char :=
  ((cs.dropWhile isBlank).reverse.dropWhile isBlank).reverse

/-- The maximal runs of characters that are not white space, in order. -/
def blankSeparated : List Char → List (List Char)
  | [] => []
  | c :: cs =>
    if isBlank c then blankSeparated cs
    else
      match cs, blankSeparated cs with
      | [], _ => [[c]]
      | d :: _, words =>
        if isBlank d then [c] :: words
        else
          match words with
          | [] => [[c]]
          | w :: rest => (c :: w) :: rest

/-- The text without its white space. -/
def squash (s : String) : String := String.ofList (s.toList.filter fun c => !isBlank c)

/-- The first line of a text, without its line feed and a carriage return before it. -/
def firstLine (cs : List Char) : List Char :=
  let line := cs.takeWhile (· ≠ '\n')
  if line.length < cs.length then
    match line.reverse with
    | '\r' :: rest => rest.reverse
    | _ => line
  else line

end AwaitCalls.Text
