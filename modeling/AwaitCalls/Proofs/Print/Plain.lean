import AwaitCalls.Print.Program
import AwaitCalls.Proofs.Positions

/-!
# Printing without comments

Spans tell the printer where comments belong and nothing else, so without comments they do not count.
`plain` takes the comments away from an action and commutes with sequencing. The parts of a node are
compared through their plain form, which has no spans: an action built from plain parts does, without
comments, what it does when it is built from the parts themselves.
-/
namespace AwaitCalls.Syntax

mutual

/-- A tree with all spans set to zero. -/
def Node.spanless : Node → Node
  | .mk kind _ parts => .mk kind ⟨0, 0⟩ parts.spanless

def Children.spanless : Children → Children
  | .nil => .nil
  | .cons slot n rest => .cons slot n.spanless rest.spanless

end

mutual

theorem Node.spanless_spanless : ∀ n : Node, n.spanless.spanless = n.spanless
  | .mk _ _ parts => by
    rw [Node.spanless, Node.spanless, Children.spanless_spanless]

theorem Children.spanless_spanless : ∀ parts : Children, parts.spanless.spanless = parts.spanless
  | .nil => rfl
  | .cons _ n rest => by
    rw [Children.spanless, Children.spanless, Node.spanless_spanless, Children.spanless_spanless]

end

@[simp]
theorem Node.kind_spanless (n : Node) : n.spanless.kind = n.kind := by cases n; rfl

@[simp]
theorem Children.find?_spanless (parts : Children) (slot : Slot) :
    parts.spanless.find? slot = (parts.find? slot).map Node.spanless := by
  induction parts with
  | nil => rfl
  | cons s n rest ih =>
    rw [Children.spanless, Children.find?, Children.find?, ih]
    split <;> rfl

mutual

@[simp]
theorem Node.height_spanless : ∀ n : Node, n.spanless.height = n.height
  | .mk _ _ parts => by rw [Node.spanless, Node.height, Children.height_spanless, Node.height]

@[simp]
theorem Children.height_spanless : ∀ parts : Children, parts.spanless.height = parts.height
  | .nil => rfl
  | .cons _ n rest => by
    rw [Children.spanless, Children.height, Node.height_spanless, Children.height_spanless,
      Children.height]

end

end AwaitCalls.Syntax

namespace AwaitCalls.Print

open AwaitCalls.Syntax AwaitCalls.Text

variable {α β : Type}

/-! ## Actions -/

instance : LawfulMonad Write :=
  .mk' Write (fun _ => rfl) (fun _ _ => rfl) (fun _ _ _ => rfl)

/-- An action when there are no comments to write. -/
def plain (p : Write α) : Write α where
  act style := p.act { style with comments := {} }
  appends style := p.appends { style with comments := {} }

@[simp]
theorem plain_plain (p : Write α) : plain (plain p) = plain p := rfl

@[simp]
theorem plain_pure (a : α) : plain (pure a) = pure a := rfl

@[simp]
theorem plain_bind (p : Write α) (f : α → Write β) :
    plain (p >>= f) = plain p >>= fun a => plain (f a) := rfl

@[simp]
theorem plain_map (f : α → β) (p : Write α) : plain (f <$> p) = f <$> plain p := rfl

@[simp]
theorem plain_ite (c : Prop) [Decidable c] (p q : Write α) :
    plain (if c then p else q) = if c then plain p else plain q := by
  split <;> rfl

@[simp]
theorem plain_isMinified : plain isMinified = isMinified := rfl

@[simp]
theorem plain_text (s : String) : plain (text s) = text s := rfl

@[simp]
theorem plain_space : plain space = space := rfl

@[simp]
theorem plain_optSpace : plain optSpace = optSpace := by
  simp [optSpace]

@[simp]
theorem plain_lineBreak : plain lineBreak = lineBreak := rfl

@[simp]
theorem plain_optLineBreak : plain optLineBreak = optLineBreak := by
  simp [optLineBreak]

@[simp]
theorem plain_indented (p : Write Unit) : plain (indented p) = indented (plain p) := rfl

@[simp]
theorem plain_word (s : String) : plain (word s) = word s := rfl

theorem waitingAt_nil (pos : Nat) (done : List Nat) : waitingAt pos done [] = [] := by
  rw [waitingAt, List.filter_nil, List.map_nil, ite_self]

@[simp]
theorem plain_leadingAt (pos : Nat) : plain (leadingAt pos) = pure [] := by
  ext1
  funext style w
  exact congrArg (·, w) (waitingAt_nil pos w.leadingDone)

@[simp]
theorem plain_trailingAt (pos : Nat) : plain (trailingAt pos) = pure [] := by
  ext1
  funext style w
  exact congrArg (·, w) (waitingAt_nil pos w.trailingDone)

@[simp]
theorem plain_hasLeading (pos : Nat) : plain (hasLeading pos) = pure false := by
  simp [hasLeading]

@[simp]
theorem plain_leadingEndsLine (pos : Nat) : plain (leadingEndsLine pos) = pure false := by
  simp [leadingEndsLine]

@[simp]
theorem plain_hasTrailing (positions : List Nat) : plain (hasTrailing positions) = pure false := by
  induction positions with
  | nil => rfl
  | cons pos rest ih =>
    rw [hasTrailing] at ih ⊢
    rw [List.anyM, plain_bind, plain_bind, plain_trailingAt]
    exact ih

@[simp]
theorem plain_leading (pos : Nat) : plain (leading pos) = pure () := by
  simp [leading]

@[simp]
theorem plain_trailingWith (spaceBefore : Bool) (pos : Nat) :
    plain (trailingWith spaceBefore pos) = pure () := by
  simp [trailingWith]

@[simp]
theorem plain_trailing (pos : Nat) : plain (trailing pos) = pure () := plain_trailingWith true pos

@[simp]
theorem plain_holdingTrailing (pos : Nat) (p : Write Unit) :
    plain (holdingTrailing pos p) = plain p := by
  simp [holdingTrailing]

/-! ## Parts -/

mutual

/-- A part without spans and comments. -/
def Part.plain : Part → Part
  | .mk slot n print ps => .mk slot n.spanless (Print.plain print) (Parts.plain ps)

def Parts.plain : List Part → List Part
  | [] => []
  | p :: ps => p.plain :: Parts.plain ps

end

@[simp]
theorem slot_plain (p : Part) : p.plain.slot = p.slot := by cases p; rfl

@[simp]
theorem node_plain (p : Part) : p.plain.node = p.node.spanless := by cases p; rfl

@[simp]
theorem kind_plain (p : Part) : p.plain.kind = p.kind := by
  rw [Part.kind, node_plain, Node.kind_spanless, Part.kind]

@[simp]
theorem print_plain (p : Part) : p.plain.print = plain p.print := by cases p; rfl

@[simp]
theorem parts_plain (p : Part) : p.plain.parts = Parts.plain p.parts := by cases p; rfl

namespace Parts

theorem plain_eq_map (ps : Parts) : Parts.plain ps = ps.map Part.plain := by
  induction ps with
  | nil => rfl
  | cons p ps ih => rw [Parts.plain, ih, List.map_cons]

@[simp]
theorem isEmpty_plain (ps : Parts) : (Parts.plain ps).isEmpty = ps.isEmpty := by cases ps <;> rfl

@[simp]
theorem get?_plain (ps : Parts) (slot : Slot) :
    Parts.get? (Parts.plain ps) slot = (Parts.get? ps slot).map Part.plain := by
  simp only [Parts.get?, plain_eq_map, List.find?_map, Function.comp_def, slot_plain]

@[simp]
theorem filter_plain (ps : Parts) (f : Part → Bool) (h : ∀ p : Part, f p.plain = f p) :
    (Parts.plain ps).filter f = Parts.plain (ps.filter f) := by
  simp [plain_eq_map, List.filter_map, Function.comp_def, h]

@[simp]
theorem all_plain (ps : Parts) (slot : Slot) :
    Parts.all (Parts.plain ps) slot = Parts.plain (Parts.all ps slot) :=
  filter_plain ps _ fun p => by rw [slot_plain]

@[simp]
theorem has_plain (ps : Parts) (slot : Slot) : Parts.has (Parts.plain ps) slot = Parts.has ps slot := by
  simp [Parts.has, plain_eq_map, Function.comp_def]

@[simp]
theorem head?_plain (ps : Parts) : (Parts.plain ps).head? = ps.head?.map Part.plain := by
  cases ps <;> rfl

@[simp]
theorem getLast?_plain (ps : Parts) : (Parts.plain ps).getLast? = ps.getLast?.map Part.plain := by
  rw [plain_eq_map, List.getLast?_map]

@[simp]
theorem map_kind_plain (ps : Parts) : (Parts.plain ps).map Part.kind = ps.map Part.kind := by
  simp [plain_eq_map, Function.comp_def]

/-- Printing plain parts one after the other. -/
theorem plain_forM {print print' : Part → Write Unit}
    (h : ∀ p : Part, Print.plain (print' p.plain) = Print.plain (print p)) (ps : Parts) :
    Print.plain (forM (Parts.plain ps) print') = Print.plain (forM ps print) := by
  induction ps with
  | nil => rfl
  | cons p ps ih =>
    rw [Parts.plain, List.forM_cons, List.forM_cons, plain_bind, plain_bind, h, ih]

@[simp]
theorem plain_forM_print (ps : Parts) :
    Print.plain (forM (Parts.plain ps) Part.print) = Print.plain (forM ps Part.print) :=
  plain_forM (fun p => by rw [print_plain, plain_plain]) ps

@[simp]
theorem plain_print (ps : Parts) (slot : Slot) :
    Print.plain (Parts.print (Parts.plain ps) slot) = Print.plain (Parts.print ps slot) := by
  rw [Parts.print, Parts.print, get?_plain]
  cases Parts.get? ps slot with
  | none => rfl
  | some p => exact (congrArg Print.plain (print_plain p)).trans (plain_plain p.print)

@[simp]
theorem plain_printAll (ps : Parts) (slot : Slot) :
    Print.plain (Parts.printAll (Parts.plain ps) slot) = Print.plain (Parts.printAll ps slot) := by
  rw [Parts.printAll, Parts.printAll, all_plain]
  exact plain_forM_print (Parts.all ps slot)

end Parts

/-! ## Lists -/

section Lists

variable {print print' : Part → Write Unit}

theorem plain_listElement (h : ∀ p : Part, plain (print' p.plain) = plain (print p)) (f : ListFormat)
    (p : Part) : plain (listElement f print' p.plain) = plain (listElement f print p) := by
  simp [listElement, h]

theorem plain_listRest (h : ∀ p : Part, plain (print' p.plain) = plain (print p)) (f : ListFormat)
    (span span' : Span) (previous previous' : Part) (ps : Parts) :
    plain (listRest f span' print' previous' (Parts.plain ps)) =
      plain (listRest f span print previous ps) := by
  induction ps generalizing previous previous' with
  | nil => rfl
  | cons p ps ih => simp [Parts.plain, listRest, plain_listElement h, ih p p.plain]

/-- Lists of plain parts look alike wherever they stand. -/
theorem plain_listOf (h : ∀ p : Part, plain (print' p.plain) = plain (print p)) (f : ListFormat)
    (span span' : Span) (ps : Parts) :
    plain (listOf f span' (Parts.plain ps) print') = plain (listOf f span ps print) := by
  cases ps with
  | nil => simp [Parts.plain, listOf]
  | cons p ps =>
    simp [Parts.plain, listOf, plain_listElement h, plain_listRest h f span span' p p.plain]

end Lists

theorem plain_list (f : ListFormat) (span span' : Span) (ps : Parts) :
    plain (list f span' (Parts.plain ps)) = plain (list f span ps) :=
  plain_listOf (fun p => by rw [print_plain, plain_plain]) f span span' ps

/-! ## Letters at the ends of an expression -/

mutual

@[simp]
theorem startsWithWord_spanless : ∀ n : Node, startsWithWord n.spanless = startsWithWord n
  | .mk kind span parts => by
    rw [Node.spanless]
    unfold startsWithWord
    simp only [firstStartsWithWord_spanless, targetStartsWithWord_spanless,
      onlyStartsWithWord_spanless]

theorem firstStartsWithWord_spanless : ∀ parts : Children,
    firstStartsWithWord parts.spanless = firstStartsWithWord parts
  | .nil => rfl
  | .cons _ n _ => startsWithWord_spanless n

theorem targetStartsWithWord_spanless : ∀ parts : Children,
    targetStartsWithWord parts.spanless = targetStartsWithWord parts
  | .nil => rfl
  | .cons slot (.mk kind span inner) rest => by
    have hn := startsWithWord_spanless (.mk kind span inner)
    have hinner := assertedStartsWithWord_spanless inner
    rw [Children.spanless, Node.spanless]
    rw [Node.spanless] at hn
    unfold targetStartsWithWord
    cases kind <;> first | exact hinner | exact hn

theorem assertedStartsWithWord_spanless : ∀ parts : Children,
    assertedStartsWithWord parts.spanless = assertedStartsWithWord parts
  | .nil => rfl
  | .cons slot n rest => by
    have hn := startsWithWord_spanless n
    have hrest := assertedStartsWithWord_spanless rest
    cases slot <;> first | exact hrest | exact hn

theorem onlyStartsWithWord_spanless : ∀ parts : Children,
    onlyStartsWithWord parts.spanless = onlyStartsWithWord parts
  | .nil => rfl
  | .cons slot n rest => by
    have hn := startsWithWord_spanless n
    by_cases hslot : slot = .param
    · subst hslot
      match rest with
      | .nil => exact hn
      | .cons next _ _ => cases next <;> first | exact hn | rfl
    · cases slot <;> first | rfl | exact absurd rfl hslot

end

@[simp]
theorem statementStartsWithWord_spanless (n : Node) :
    statementStartsWithWord n.spanless = statementStartsWithWord n := by
  obtain ⟨kind, span, parts⟩ := n
  have hexpr : (parts.spanless.find? .expr).any startsWithWord =
      (parts.find? .expr).any startsWithWord := by
    rw [Children.find?_spanless]
    cases parts.find? .expr with
    | none => rfl
    | some e => exact startsWithWord_spanless e
  cases kind <;> first | rfl | exact hexpr

mutual

@[simp]
theorem endsWithWord_spanless : ∀ n : Node, endsWithWord n.spanless = endsWithWord n
  | .mk kind span parts => by
    rw [Node.spanless]
    unfold endsWithWord
    simp only [lastIsComputed_spanless, firstEndsWithWord_spanless, lastEndsWithWord_spanless]

theorem lastIsComputed_spanless : ∀ parts : Children,
    lastIsComputed parts.spanless = lastIsComputed parts
  | .nil => rfl
  | .cons _ (.mk _ _ _) .nil => rfl
  | .cons _ (.mk _ _ _) (.cons slot n rest) => lastIsComputed_spanless (.cons slot n rest)

theorem firstEndsWithWord_spanless : ∀ parts : Children,
    firstEndsWithWord parts.spanless = firstEndsWithWord parts
  | .nil => rfl
  | .cons _ n _ => endsWithWord_spanless n

theorem lastEndsWithWord_spanless (before : Bool) : ∀ parts : Children,
    lastEndsWithWord before parts.spanless = lastEndsWithWord before parts
  | .nil => rfl
  | .cons _ n rest => by
    rw [Children.spanless, lastEndsWithWord, lastEndsWithWord, endsWithWord_spanless n,
      lastEndsWithWord_spanless _ rest]

end

end AwaitCalls.Print
