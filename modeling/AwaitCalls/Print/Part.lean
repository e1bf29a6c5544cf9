import AwaitCalls.Print.Writer

/-!
# Parts of a node, ready to print

A part is a child of a node together with the action that prints it. Rules for nodes put words and
punctuation around the actions of their parts; they never print a node by themselves.
-/
namespace AwaitCalls.Print

open AwaitCalls.Syntax AwaitCalls.Text

/-- A child of a node, how to print it, and its own parts. -/
inductive Part
  | mk (slot : Slot) (node : Node) (print : Write Unit) (parts : List Part)

namespace Part

def slot : Part → Slot
  | mk s _ _ _ => s

def node : Part → Node
  | mk _ n _ _ => n

def print : Part → Write Unit
  | mk _ _ p _ => p

def parts : Part → List Part
  | mk _ _ _ ps => ps

def kind (p : Part) : Kind := p.node.kind

def span (p : Part) : Span := p.node.span

end Part

/-- The parts of a node, in visiting order. -/
abbrev Parts := List Part

namespace Parts

def get? (ps : Parts) (slot : Slot) : Option Part := ps.find? fun p => p.slot = slot

def all (ps : Parts) (slot : Slot) : Parts := ps.filter fun p => p.slot = slot

def has (ps : Parts) (slot : Slot) : Bool := ps.any fun p => p.slot = slot

/-- Print the part in a slot, if it is there. -/
def print (ps : Parts) (slot : Slot) : Write Unit :=
  match Parts.get? ps slot with
  | some p => p.print
  | none => pure ()

/-- Print the parts in a slot one after the other. -/
def printAll (ps : Parts) (slot : Slot) : Write Unit := (Parts.all ps slot).forM Part.print

end Parts

/-- How a list of parts is laid out. -/
structure ListFormat where
  delimiter : String := ""
  /-- A space before the delimiter. -/
  delimiterSpace : Bool := false
  /-- A space between two elements on a line. -/
  siblingSpace : Bool := true
  /-- Every element on a line of its own. -/
  isMultiLine : Bool := false
  isIndented : Bool := false
  /-- The line of the last element is ended. -/
  endsLine : Bool := true
  /-- A space inside the brackets. -/
  braceSpace : Bool := false
  /-- A space inside the brackets of an empty list. -/
  emptySpace : Bool := false
  /-- Nothing is written for an empty list. -/
  isOptional : Bool := false
  /-- A delimiter after the last element. -/
  closingDelimiter : Bool := false
  /-- On one line, comments after an element stay behind it. -/
  keepsComments : Bool := true

namespace ListFormat

/-- Elements on one line with commas between them. -/
def commas : ListFormat := { delimiter := "," }

/-- Elements in the braces of a pattern. -/
def braced : ListFormat := { delimiter := ",", braceSpace := true }

/-- Names that a module imports or exports. -/
def moduleNames : ListFormat := { delimiter := ",", braceSpace := true, emptySpace := true }

/-- Elements of an array, each on its line. -/
def arrayElements : ListFormat := { delimiter := ",", isMultiLine := true, isIndented := true }

/-- Statements or members, each on its line. -/
def lines : ListFormat := { isMultiLine := true, isIndented := true, siblingSpace := false }

/-- Members of an enumeration, each on its line. -/
def commaLines : ListFormat :=
  { delimiter := ",", isMultiLine := true, isIndented := true, siblingSpace := false }

/-- Statements of a case, whose last line the next case ends. -/
def caseLines : ListFormat :=
  { isMultiLine := true, isIndented := true, siblingSpace := false, endsLine := false,
    isOptional := true }

/-- Types with an operator between them. -/
def joined (op : String) : ListFormat := { delimiter := op, delimiterSpace := true }

end ListFormat

/-- An element of a list with the comments after it that it has not printed itself. -/
def listElement (f : ListFormat) (print : Part → Write Unit) (p : Part) : Write Unit := do
  print p
  if f.keepsComments && !f.isMultiLine then trailingWith false p.span.hi

/-- The elements of a list from the second on; `previous` is the element before them. -/
def listRest (f : ListFormat) (parent : Span) (print : Part → Write Unit) (previous : Part) :
    Parts → Write Unit
  | [] => pure ()
  | p :: rest => do
    if !f.delimiter.isEmpty && previous.span.hi ≠ parent.hi then leading previous.span.hi
    if f.delimiterSpace then optSpace
    text f.delimiter
    if f.isMultiLine then optLineBreak else if f.siblingSpace then optSpace
    listElement f print p
    listRest f parent print p rest

/-- Print a list without its brackets. -/
def listOf (f : ListFormat) (parent : Span) (ps : Parts) (print : Part → Write Unit) : Write Unit := do
  match ps with
  | [] =>
    if !f.isOptional then
      if f.isMultiLine then optLineBreak else if f.emptySpace then optSpace
  | first :: rest =>
    if f.isMultiLine then optLineBreak else if f.braceSpace then optSpace
    let body : Write Unit := do
      listElement f print first
      listRest f parent print first rest
      if f.closingDelimiter then
        text f.delimiter
        optSpace
      let last := rest.getLastD first
      if !f.delimiter.isEmpty && last.span.hi ≠ parent.hi then leading last.span.hi
    if f.isIndented && !(← isMinified) then indented body else body
    if f.isMultiLine then
      if f.endsLine then optLineBreak
    else if f.braceSpace then optSpace

/-- Print a list of parts as they are. -/
def list (f : ListFormat) (parent : Span) (ps : Parts) : Write Unit := listOf f parent ps Part.print

end AwaitCalls.Print
