import AwaitCalls.Text.Width

/-!
# Program text and positions in it

A position is a number of characters from the start. Reports show it as a line, counted from one, and
a display column, counted from zero; ranges are shown in bytes of the UTF-8 form.
-/
namespace AwaitCalls.Text

/-- The half-open range of characters that a construct covers. -/
structure Span where
  lo : Nat
  hi : Nat
deriving DecidableEq, Repr, Inhabited

/-- A program text as characters, without a byte order mark. -/
structure Source where
  chars : Array Char
deriving Inhabited

namespace Source

/-- Read a text; a byte order mark at the very start is not part of it. -/
def ofString (s : String) : Source :=
  match s.toList with
  | [] => ⟨#[]⟩
  | c :: cs => if c.toNat = 0xFEFF then ⟨cs.toArray⟩ else ⟨(c :: cs).toArray⟩

def size (s : Source) : Nat := s.chars.size

/-- The text between two positions. -/
def slice (s : Source) (lo hi : Nat) : String :=
  String.ofList (s.chars.extract lo hi).toList

/-- Bytes that a character takes. -/
def byteWidth (c : Char) : Nat :=
  let n := c.toNat
  if n < 0x80 then 1 else if n < 0x800 then 2 else if n < 0x10000 then 3 else 4

/-- Byte offset of a position. -/
def byteOffset (s : Source) (pos : Nat) : Nat :=
  s.chars.foldl (fun acc c => acc + byteWidth c) 0 0 (min pos s.chars.size)

/-- Position of the character at a byte offset. -/
def ofByteOffset (s : Source) (offset : Nat) : Nat :=
  let rec walk (cs : List Char) (bytes pos : Nat) : Nat :=
    match cs with
    | [] => pos
    | c :: rest => if offset ≤ bytes then pos else walk rest (bytes + byteWidth c) (pos + 1)
  walk s.chars.toList 0 0

/-- A place in a text as reports show it. -/
structure Place where
  line : Nat
  column : Nat
deriving DecidableEq, Repr, Inhabited

/-- Walk to `target`, keeping line and column. A line ends at a line feed, at a carriage return and a
line feed, or at a lone carriage return; the end of the text never starts a line of its own. -/
def placeFrom (target : Nat) : List Char → Nat → Place → Place
  | [], _, p => p
  | c :: rest, pos, p =>
    if target ≤ pos then p
    else
      let breaks := c = '\n' || (c = '\r' && rest.head? ≠ some '\n')
      let next : Place :=
        if breaks && !rest.isEmpty then ⟨p.line + 1, 0⟩ else ⟨p.line, p.column + columns c⟩
      placeFrom target rest (pos + 1) next

/-- Line and display column of a position. The empty text has no line, so its line is zero. -/
def place (s : Source) (pos : Nat) : Place :=
  if s.chars.isEmpty then ⟨0, 0⟩ else placeFrom pos s.chars.toList 0 ⟨1, 0⟩

end Source

end AwaitCalls.Text
