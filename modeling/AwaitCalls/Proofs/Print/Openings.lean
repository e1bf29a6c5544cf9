import AwaitCalls.Awaiting
import AwaitCalls.Proofs.Print.Plain

/-!
# What a printed text begins with

The printer only appends, so what is written first stays first. Without comments and indentation a node
begins with the text of its first part: a chain with its head, a decorated class with its first
decorator, and a program with its first item.
-/
namespace AwaitCalls

open AwaitCalls.Syntax AwaitCalls.Text

/-- A chain of members, calls and the like that starts with a given expression; each link stands in its
slot. -/
inductive HeadedBy (head : Node) : Node → Prop
  | head : HeadedBy head head
  | member {o : Node} (span : Span) (rest : Children) :
      HeadedBy head o → HeadedBy head (.mk .member span (.cons .memberObject o rest))
  | call {o : Node} (span : Span) (rest : Children) :
      HeadedBy head o → HeadedBy head (.mk .call span (.cons .callee o rest))
  | tagged {o : Node} (span : Span) (rest : Children) :
      HeadedBy head o → HeadedBy head (.mk .tagged span (.cons .tag o rest))
  | nonNull {o : Node} (span : Span) (rest : Children) :
      HeadedBy head o → HeadedBy head (.mk .nonNull span (.cons .nonNullOperand o rest))
  | instantiation {o : Node} (span : Span) (rest : Children) :
      HeadedBy head o → HeadedBy head (.mk .instantiation span (.cons .instantiated o rest))
  | optMember {o : Node} (isOptional : Bool) (span memberSpan : Span) (rest others : Children) :
      HeadedBy head o → HeadedBy head (.mk (.optChain isOptional) span
        (.cons .expr (.mk .member memberSpan (.cons .memberObject o rest)) others))
  | optCall {o : Node} (isOptional : Bool) (span callSpan : Span) (rest others : Children) :
      HeadedBy head o → HeadedBy head (.mk (.optChain isOptional) span
        (.cons .expr (.mk .optCall callSpan (.cons .optCallee o rest)) others))

namespace Print

variable {α β : Type} {t : String}

/-! ## What an action writes first -/

/-- Without comments and indentation, the first thing that the action writes is the text. -/
def Begins (t : String) (p : Write α) : Prop :=
  ∀ style w, w.indent = 0 → ∃ more, ((plain p).act style w).2.text = w.text ++ t ++ more

theorem begins_bind {p : Write α} {f : α → Write β} (h : Begins t p) : Begins t (p >>= f) := by
  intro style w hindent
  obtain ⟨first, hfirst⟩ := h style w hindent
  obtain ⟨second, hsecond⟩ :=
    (plain (f ((plain p).act style w).1)).appends style ((plain p).act style w).2
  exact ⟨first ++ second, hsecond.trans (by rw [hfirst, String.append_assoc])⟩

theorem text_add {w : Writer} (h : w.indent = 0) (s : String) : (w.add s).text = w.text ++ s := by
  unfold Writer.add
  split
  · rename_i hempty
    rw [String.isEmpty_iff.mp hempty, String.append_empty]
  · split
    · rw [h]
      exact congrArg (· ++ s) String.append_empty
    · rfl

theorem indent_add (w : Writer) (s : String) : (w.add s).indent = w.indent := by
  unfold Writer.add
  split
  · rfl
  · split <;> rfl

theorem begins_text (s : String) : Begins s (text s) := by
  intro style w hindent
  exact ⟨"", (text_add hindent s).trans String.append_empty.symm⟩

theorem begins_text_bind {s : String} {f : Unit → Write β} (h : Begins t (f ())) :
    Begins (s ++ t) (text s >>= f) := by
  intro style w hindent
  obtain ⟨more, hmore⟩ := h style (w.add s) ((indent_add w s).trans hindent)
  refine ⟨more, hmore.trans ?_⟩
  rw [text_add hindent, @String.append_assoc w.text s t]

/-- Comments that are not there write nothing. -/
theorem begins_leading_bind {pos : Nat} {f : Unit → Write β} (h : Begins t (f ())) :
    Begins t (leading pos >>= f) := by
  intro style w hindent
  rw [plain_bind, plain_leading, pure_bind]
  exact h style w hindent

/-! ## Parts of a node -/

theorem get?_partsOf (slot : Slot) (parts : Children) :
    Parts.get? (partsOf parts) slot = (parts.find? slot).map (partOf slot) := by
  induction parts with
  | nil => rfl
  | cons slot' n rest ih =>
    obtain ⟨kind, span, cs⟩ := n
    rw [partsOf, Parts.get?, List.find?_cons, Children.find?]
    by_cases h : slot' = slot
    · subst h
      simp [partOf, Part.slot]
    · have hslot : (partOf slot' (.mk kind span cs)).slot ≠ slot := h
      rw [Parts.get?] at ih
      simp [hslot, h, ih]

theorem head?_all_partsOf (slot : Slot) (parts : Children) :
    (Parts.all (partsOf parts) slot).head? = (parts.find? slot).map (partOf slot) := by
  rw [← get?_partsOf, Parts.get?, Parts.all, List.head?_filter]

/-- Wherever the node stands, the first thing that is written of it is the text. -/
def NodeBegins (t : String) (n : Node) : Prop := ∀ slot, Begins t (partOf slot n).print

theorem nodeBegins_of_rule {kind : Kind} {span : Span} {parts : Children} (hkind : kind ≠ .spread)
    (h : Begins t (rule kind span (partsOf parts))) : NodeBegins t (.mk kind span parts) := by
  intro slot
  show Begins t (printIn slot kind span (partsOf parts))
  unfold printIn
  extract_lets finish body
  have hbody : Begins t (body ()) := by
    dsimp only [body]
    split
    · exact absurd rfl hkind
    · exact begins_bind h
  split
  · exact begins_leading_bind hbody
  · exact hbody

theorem begins_print {slot : Slot} {parts : Children} {n : Node} (h : NodeBegins t n)
    (hfind : parts.find? slot = some n) : Begins t (Parts.print (partsOf parts) slot) := by
  rw [Parts.print, get?_partsOf, hfind]
  exact h slot

theorem kind_partOf (slot : Slot) (n : Node) : (partOf slot n).kind = n.kind := by
  cases n
  rfl

theorem begins_beforeSubscript {slot : Slot} {n : Node} (h : NodeBegins t n)
    (hnew : ∀ hasArgs, n.kind ≠ .new hasArgs) : Begins t (beforeSubscript (partOf slot n)) := by
  unfold beforeSubscript
  split
  · rename_i hasArgs hkind
    exact absurd ((kind_partOf slot n).symm.trans hkind) (hnew hasArgs)
  · exact h slot

/-! ## Chains -/

/-- Only the head of a chain can be a number or a `new`. -/
theorem kind_ne_of_headedBy {head x : Node} (h : HeadedBy head x) (hhead : head.kind = .paren) :
    (∀ hasArgs, x.kind ≠ .new hasArgs) ∧ ∀ raw, x.kind ≠ .num raw := by
  cases h with
  | head => rw [hhead]; exact ⟨nofun, nofun⟩
  | _ => exact ⟨nofun, nofun⟩

/-- A chain begins with its head. -/
theorem nodeBegins_headedBy {head x : Node} (h : HeadedBy head x) (hparen : head.kind = .paren)
    (hhead : NodeBegins t head) : NodeBegins t x := by
  induction h with
  | head => exact hhead
  | @member o span rest ho ih =>
    obtain ⟨hnew, hnum⟩ := kind_ne_of_headedBy ho hparen
    refine nodeBegins_of_rule (by simp) ?_
    show Begins t (Print.member (partsOf (.cons .memberObject o rest)))
    have hget : Parts.get? (partsOf (.cons .memberObject o rest)) .memberObject =
      some (partOf .memberObject o) := get?_partsOf _ _
    unfold Print.member
    rw [hget]
    dsimp only
    split
    · rename_i raw hkind
      exact absurd ((kind_partOf .memberObject o).symm.trans hkind) (hnum raw)
    · exact begins_bind (begins_beforeSubscript ih hnew)
  | @call o span rest ho ih =>
    obtain ⟨hnew, -⟩ := kind_ne_of_headedBy ho hparen
    refine nodeBegins_of_rule (by simp) ?_
    show Begins t (Print.call (partsOf (.cons .callee o rest)) span)
    have hget : Parts.get? (partsOf (.cons .callee o rest)) .callee = some (partOf .callee o) :=
      get?_partsOf _ _
    unfold Print.call
    rw [hget]
    exact begins_bind (begins_beforeSubscript ih hnew)
  | @tagged o span rest ho ih =>
    obtain ⟨hnew, -⟩ := kind_ne_of_headedBy ho hparen
    refine nodeBegins_of_rule (by simp) ?_
    show Begins t (taggedTemplate (partsOf (.cons .tag o rest)))
    have hget : Parts.get? (partsOf (.cons .tag o rest)) .tag = some (partOf .tag o) :=
      get?_partsOf _ _
    unfold taggedTemplate
    rw [hget]
    exact begins_bind (begins_beforeSubscript ih hnew)
  | @nonNull o span rest ho ih =>
    refine nodeBegins_of_rule (by simp) ?_
    exact begins_bind (begins_print ih rfl)
  | @instantiation o span rest ho ih =>
    refine nodeBegins_of_rule (by simp) ?_
    exact begins_bind (begins_print ih rfl)
  | @optMember o isOptional span memberSpan rest others ho ih =>
    obtain ⟨hnew, -⟩ := kind_ne_of_headedBy ho hparen
    refine nodeBegins_of_rule (by simp) ?_
    show Begins t (optionalChain isOptional (partsOf (.cons .expr
      (.mk .member memberSpan (.cons .memberObject o rest)) others)))
    have hbase : Parts.get? (partsOf (.cons .expr
        (.mk .member memberSpan (.cons .memberObject o rest)) others)) .expr =
      some (partOf .expr (.mk .member memberSpan (.cons .memberObject o rest))) := get?_partsOf _ _
    have hget : Parts.get? (partOf .expr (.mk .member memberSpan (.cons .memberObject o rest))).parts
      .memberObject = some (partOf .memberObject o) := get?_partsOf _ _
    unfold optionalChain
    rw [hbase]
    simp only [kind_partOf, Node.kind, hget]
    exact begins_bind (begins_beforeSubscript ih hnew)
  | @optCall o isOptional span callSpan rest others ho ih =>
    refine nodeBegins_of_rule (by simp) ?_
    show Begins t (optionalChain isOptional (partsOf (.cons .expr
      (.mk .optCall callSpan (.cons .optCallee o rest)) others)))
    unfold optionalChain
    rw [get?_partsOf]
    exact begins_bind (begins_print ih rfl)

/-! ## Awaits, statements and classes -/

theorem nodeBegins_awaited (c : Node) : NodeBegins "await " (awaited c) := by
  refine nodeBegins_of_rule (by simp) ?_
  have hword : Begins ("await" ++ " ") (text "await" >>= fun _ => space) :=
    begins_text_bind (begins_text " ")
  exact begins_bind hword

theorem nodeBegins_paren {n : Node} (h : NodeBegins t n) (span : Span) :
    NodeBegins ("(" ++ t) (Node.of .paren span [(.expr, n)]) := by
  refine nodeBegins_of_rule (by simp) ?_
  exact begins_text_bind (begins_bind (begins_print h rfl))

/-- An increment or decrement after its operand begins with it. -/
theorem nodeBegins_update {n : Node} (h : NodeBegins t n) (op : UpdateOp) (span : Span) :
    NodeBegins t (Node.of (.update op false) span [(.operand, n)]) := by
  refine nodeBegins_of_rule (by simp) ?_
  exact begins_bind (begins_print h rfl)

theorem nodeBegins_exprStmt {e : Node} {parts : Children} (h : NodeBegins t e)
    (hexpr : parts.find? .expr = some e) (span : Span) : NodeBegins t (.mk .exprStmt span parts) := by
  refine nodeBegins_of_rule (by simp) ?_
  show Begins t (holdingTrailing span.hi (Parts.print (partsOf parts) .expr >>= fun _ => text ";"))
  intro style w hindent
  rw [plain_holdingTrailing]
  exact begins_bind (begins_print h hexpr) style w hindent

theorem nodeBegins_decorator {x : Node} (h : NodeBegins t x) (span : Span) :
    NodeBegins ("@" ++ t) (Node.of .decorator span [(.decoratorExpr, x)]) := by
  refine nodeBegins_of_rule (by simp) ?_
  exact begins_text_bind (begins_bind (begins_print h rfl))

/-- A class begins with its first decorator. -/
theorem nodeBegins_classDecl {d : Node} {parts members : Children} {isAbstract : Bool}
    {span classSpan : Span} (h : NodeBegins t d)
    (hclass : parts.find? .klass = some (.mk (.classBody isAbstract) classSpan members))
    (hd : members.find? .decorator = some d) : NodeBegins t (.mk (.classDecl false) span parts) := by
  refine nodeBegins_of_rule (by simp) ?_
  show Begins t (klass false (partsOf parts))
  unfold klass
  rw [get?_partsOf, hclass]
  refine begins_bind ?_
  show Begins t (forM (Parts.all (partsOf members) .decorator) Part.print)
  have hhead := head?_all_partsOf .decorator members
  rw [hd] at hhead
  obtain ⟨rest, hall⟩ := List.head?_eq_some_iff.mp hhead
  rw [hall, List.forM_cons]
  exact begins_bind (h .decorator)

/-- A program without an interpreter begins with its first item. -/
theorem program_begins {p : Program} {slot : Slot} {n : Node} {others : Children}
    (hbody : p.body = .cons slot n others) (hinterpreter : p.interpreter = none)
    (h : NodeBegins t n) : ∃ more, program p none false = t ++ more := by
  have hitems : Begins t (items p.interpreter p.span (partsOf p.body)) := by
    rw [hinterpreter, hbody]
    refine begins_leading_bind (begins_bind ?_)
    exact begins_bind (begins_bind (begins_bind (h slot)))
  obtain ⟨more, hmore⟩ := hitems ⟨false, {}⟩ {} rfl
  exact ⟨more, hmore.trans (by rw [String.empty_append])⟩

end Print

end AwaitCalls
