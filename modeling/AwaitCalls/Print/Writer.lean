import AwaitCalls.Syntax.Grammar.State

/-!
# Writing text with indentation and comments

A writer appends to a text. It puts the indentation in front of the first thing written on a line,
so empty lines never carry blanks and a line break right after another one writes nothing. Comments
belong to positions of the program. Those of a position are written once; which ones there are is given,
and the writer only remembers the positions that are done.
-/
namespace AwaitCalls.Print

open AwaitCalls.Syntax

/-- The text written so far. -/
structure Writer where
  text : String := ""
  indent : Nat := 0
  atLineStart : Bool := true
  /-- Positions whose comments before them are written. -/
  leadingDone : List Nat := []
  /-- Positions whose comments after them are written. -/
  trailingDone : List Nat := []
deriving Inhabited

/-- How a program is laid out. -/
structure Style where
  /-- Leave out optional white space. -/
  minify : Bool
  /-- The comments to write, in order. -/
  comments : Comments := {}

/-- An action that writes. It only appends to the text: what is written stays. -/
@[ext]
structure Write (α : Type) where
  act : Style → Writer → α × Writer
  appends : ∀ style w, ∃ more, (act style w).2.text = w.text ++ more

namespace Write

variable {α β : Type}

protected def pure (a : α) : Write α := ⟨fun _ w => (a, w), fun _ _ => ⟨"", String.append_empty.symm⟩⟩

protected def bind (p : Write α) (next : α → Write β) : Write β where
  act style w :=
    match p.act style w with
    | (a, w) => (next a).act style w
  appends style w := by
    obtain ⟨first, hfirst⟩ := p.appends style w
    obtain ⟨second, hsecond⟩ := (next (p.act style w).1).appends style (p.act style w).2
    exact ⟨first ++ second, by rw [← String.append_assoc, ← hfirst]; exact hsecond⟩

instance : Monad Write where
  pure := Write.pure
  bind := Write.bind

instance : MonadReaderOf Style Write :=
  ⟨⟨fun style w => (style, w), fun _ _ => ⟨"", String.append_empty.symm⟩⟩⟩

/-- What is written so far. -/
def writer : Write Writer := ⟨fun _ w => (w, w), fun _ _ => ⟨"", String.append_empty.symm⟩⟩

/-- Append to the text, or change what is kept beside it. -/
def change (f : Writer → Writer) (h : ∀ w, ∃ more, (f w).text = w.text ++ more) : Write Unit :=
  ⟨fun _ w => ((), f w), fun _ w => h w⟩

/-- Change what is kept beside the text. -/
def keepingText (f : Writer → Writer) (h : ∀ w, (f w).text = w.text) : Write Unit :=
  change f fun w => ⟨"", (h w).trans String.append_empty.symm⟩

/-- The text that an action writes by itself. -/
def run (p : Write Unit) (style : Style) : String := (p.act style {}).2.text

end Write

def isMinified : Write Bool := return (← read).minify

/-- The writer after a text. -/
def Writer.add (w : Writer) (s : String) : Writer :=
  if s.isEmpty then w
  else if w.atLineStart then
    { w with
      text := w.text ++ "".pushn ' ' (4 * w.indent) ++ s
      atLineStart := false }
  else { w with text := w.text ++ s }

theorem Writer.add_appends (w : Writer) (s : String) : ∃ more, (w.add s).text = w.text ++ more := by
  unfold Writer.add
  split
  · exact ⟨"", String.append_empty.symm⟩
  · split
    · exact ⟨"".pushn ' ' (4 * w.indent) ++ s, String.append_assoc⟩
    · exact ⟨s, rfl⟩

/-- Write a text. -/
def text (s : String) : Write Unit := .change (Writer.add · s) fun w => w.add_appends s

def space : Write Unit := text " "

/-- A space that minified text does without. -/
def optSpace : Write Unit := do
  if !(← isMinified) then space

/-- The writer after the end of a line, unless nothing is written on it. -/
def Writer.endLine (w : Writer) : Writer :=
  if w.atLineStart then w else { w with text := w.text ++ "\n", atLineStart := true }

theorem Writer.endLine_appends (w : Writer) : ∃ more, w.endLine.text = w.text ++ more := by
  unfold Writer.endLine
  split
  · exact ⟨"", String.append_empty.symm⟩
  · exact ⟨"\n", rfl⟩

/-- End the line, unless nothing is written on it. -/
def lineBreak : Write Unit := .change Writer.endLine Writer.endLine_appends

/-- A line break that minified text does without. -/
def optLineBreak : Write Unit := do
  if !(← isMinified) then lineBreak

/-- Write something indented one level deeper. -/
def indented (p : Write Unit) : Write Unit := do
  .keepingText (fun w => { w with indent := w.indent + 1 }) fun _ => rfl
  p
  .keepingText (fun w => { w with indent := w.indent - 1 }) fun _ => rfl

/-- A word and what must stand apart from it. -/
def word (s : String) : Write Unit := do
  text s
  space

/-! ## Comments -/

/-- Write one comment. -/
def comment (c : Comment) (spaceBefore : Bool) : Write Unit := do
  if spaceBefore then optSpace
  if c.isBlock then
    text "/*"
    text c.text
    text "*/"
    optSpace
  else
    text "//"
    text c.text
    lineBreak

/-- The comments of a list that belong to a position, unless the position is done. -/
def waitingAt (pos : Nat) (done : List Nat) (cs : List (Nat × Comment)) : List Comment :=
  if done.contains pos then [] else (cs.filter fun c => c.1 = pos).map (·.2)

/-- The comments that wait before a position. -/
def leadingAt (pos : Nat) : Write (List Comment) :=
  return waitingAt pos (← .writer).leadingDone (← read).comments.leading

/-- The comments that wait after a position. -/
def trailingAt (pos : Nat) : Write (List Comment) :=
  return waitingAt pos (← .writer).trailingDone (← read).comments.trailing

/-- Do comments stand before a position? -/
def hasLeading (pos : Nat) : Write Bool := return !(← leadingAt pos).isEmpty

/-- Would the comments that stand before a position end the line? -/
def leadingEndsLine (pos : Nat) : Write Bool :=
  return (← leadingAt pos).any fun c => !c.isBlock || c.text.toList.any Text.Source.isLineEnd

/-- Do comments stand after one of the positions? -/
def hasTrailing (positions : List Nat) : Write Bool := positions.anyM fun pos =>
  return !(← trailingAt pos).isEmpty

/-- Write the comments that stand before a position. -/
def leading (pos : Nat) : Write Unit := do
  let here ← leadingAt pos
  if !here.isEmpty then
    .keepingText (fun w => { w with leadingDone := pos :: w.leadingDone }) fun _ => rfl
    here.forM fun c => comment c false

/-- Write the comments that stand after a position. -/
def trailingWith (spaceBefore : Bool) (pos : Nat) : Write Unit := do
  let here ← trailingAt pos
  if !here.isEmpty then
    .keepingText (fun w => { w with trailingDone := pos :: w.trailingDone }) fun _ => rfl
    here.forM fun c => comment c spaceBefore

/-- Write the comments that stand after a position, apart from what stands before them. -/
def trailing (pos : Nat) : Write Unit := trailingWith true pos

/-- Write something and leave the comments after a position for later. -/
def holdingTrailing (pos : Nat) (p : Write Unit) : Write Unit := do
  if (← trailingAt pos).isEmpty then p
  else
    .keepingText (fun w => { w with trailingDone := pos :: w.trailingDone }) fun _ => rfl
    p
    .keepingText (fun w => { w with trailingDone := w.trailingDone.filter (· ≠ pos) }) fun _ => rfl

end AwaitCalls.Print
