import AwaitCalls.Proofs.ReadBack.Cores
import AwaitCalls.Proofs.Reading.Openings
import AwaitCalls.Proofs.Print.Openings

/-!
# Programs that open with an `await`

What a program opens with is what its text begins with, and that decides how the first item is read. A
decorator whose text starts with parentheses is what they hold, or one call of it, so that an awaited
call at the head of a longer chain is cut off; and past the word `await` no increment is read, so that an
awaited call cannot be incremented.
-/
namespace AwaitCalls

open AwaitCalls.Syntax AwaitCalls.Text

/-! ## Chains in decorators -/

/-- Kinds of expressions that go on after their first part. -/
def Syntax.Kind.isLink : Kind → Bool
  | .member | .call | .optChain _ | .optCall | .tagged | .nonNull | .instantiation => true
  | _ => false

/-- A chain of members, calls and the like that starts with a given expression. -/
inductive ChainFrom (head : Node) : Node → Prop
  | head : ChainFrom head head
  | link {kind : Kind} {inner : Node} (span : Span) (slot : Slot) (rest : Children)
      (isLink : kind.isLink = true) :
      ChainFrom head inner → ChainFrom head (.mk kind span (.cons slot inner rest))

theorem core_link {kind : Kind} (h : kind.isLink = true) (span : Span) (parts : Children) :
    core (.mk kind span parts) = .mk kind ⟨0, 0⟩ (coreAll parts) := by
  refine core_of_ne_paren ?_ span parts
  rintro rfl
  cases h

/-- Only the head of a chain is not a link. -/
theorem ChainFrom.eq_head {head x : Node} (h : ChainFrom head x)
    (hx : (core x).kind.isLink = false) : x = head := by
  cases h with
  | head => rfl
  | link span slot rest isLink =>
    rw [core_link isLink] at hx
    exact absurd isLink (by simpa [Node.kind] using hx)

theorem HeadedBy.chainFrom {head x : Node} (h : HeadedBy head x) : ChainFrom head x := by
  induction h with
  | head => exact .head
  | member span rest _ ih => exact ih.link span _ rest rfl
  | call span rest _ ih => exact ih.link span _ rest rfl
  | tagged span rest _ ih => exact ih.link span _ rest rfl
  | nonNull span rest _ ih => exact ih.link span _ rest rfl
  | instantiation span rest _ ih => exact ih.link span _ rest rfl
  | optMember isOptional span memberSpan rest others _ ih =>
    exact (ih.link memberSpan _ rest rfl).link span _ others rfl
  | optCall isOptional span callSpan rest others _ ih =>
    exact (ih.link callSpan _ rest rfl).link span _ others rfl

/-- Of the chains that start with what is no link, a decorator by an expression that is no link is the
same as one by such a chain only if the chain is its head or one call of it. -/
theorem eq_head_or_call_of_decoratesBy {e d head x : Node} {span : Span}
    (hby : Grammar.DecoratesBy e d) (he : (core e).kind.isLink = false) (hchain : ChainFrom head x)
    (hhead : (core head).kind.isLink = false)
    (hsame : core d = core (Node.of .decorator span [(.decoratorExpr, x)])) :
    x = head ∨ ∃ callSpan slot args, x = .mk .call callSpan (.cons slot head args) := by
  have hexpr : ∀ y, d = Node.of .decorator d.span [(.decoratorExpr, y)] → core y = core x := by
    intro y hy
    rw [hy] at hsame
    simpa [Node.of, Children.ofList, core, coreAll, coreNode] using hsame
  cases hby with
  | itself =>
    have hx : core e = core x := hexpr e rfl
    exact .inl (hchain.eq_head (hx ▸ he))
  | call _ callSpan args =>
    have hx := hexpr _ rfl
    rw [Node.of, core_link rfl, Children.ofList, coreAll] at hx
    cases hchain with
    | head =>
      rw [← hx] at hhead
      cases hhead
    | link span slot rest isLink hinner =>
      rw [core_link isLink, coreAll] at hx
      simp only [Node.mk.injEq, Children.cons.injEq, true_and] at hx
      obtain ⟨rfl, -, hinnerSame, -⟩ := hx
      obtain rfl := hinner.eq_head (hinnerSame ▸ he)
      exact .inr ⟨span, slot, rest, rfl⟩

/-- Of the chains that start with an `await` in parentheses, a decorator is read as such a chain only if
it is the `await` itself or one call of it. -/
theorem eq_head_or_call_of_decorator {g : Grammar} {ctx : Context} {s t u : State}
    {e d head x : Node} {span : Span} (hopen : Grammar.decoratorOpening g ctx s = .ok e u)
    (hread : Grammar.decorator g ctx s = .ok d t)
    (hawait : (core e).kind = .await) (hchain : ChainFrom head x) (hhead : (core head).kind = .await)
    (hsame : core d = core (Node.of .decorator span [(.decoratorExpr, x)])) :
    x = head ∨ ∃ callSpan slot args, x = .mk .call callSpan (.cons slot head args) :=
  eq_head_or_call_of_decoratesBy (Grammar.decoratesBy_decorator hopen hread) (by rw [hawait]; rfl)
    hchain (by rw [hhead]; rfl) hsame

/-! ## What a program opens with -/

/-- The first item of a program. -/
def Syntax.Program.firstItem? (p : Program) : Option Node :=
  match p.body with
  | .cons _ n _ => some n
  | .nil => none

/-- The first decorator of the class that a program opens with. -/
def Syntax.Program.openingDecorator? (p : Program) : Option Node :=
  match p.firstItem? with
  | some (.mk (.classDecl false) _ parts) =>
    match parts.find? .klass with
    | some (.mk (.classBody _) _ members) => members.find? .decorator
    | _ => none
  | _ => none

/-- The expression that a program opens with. -/
def Syntax.Program.openingExpression? (p : Program) : Option Node :=
  match p.firstItem? with
  | some (.mk .exprStmt _ parts) => parts.find? .expr
  | _ => none

theorem body_eq_of_firstItem? {p : Program} {n : Node} (h : p.firstItem? = some n) :
    ∃ slot others, p.body = .cons slot n others := by
  unfold Program.firstItem? at h
  split at h
  · rename_i slot m others hbody
    obtain rfl := Option.some.inj h
    exact ⟨slot, others, hbody⟩
  · cases h

theorem openingDecorator?_eq_some {p : Program} {d : Node} (h : p.openingDecorator? = some d) :
    ∃ span parts isAbstract classSpan members,
      p.firstItem? = some (.mk (.classDecl false) span parts) ∧
      parts.find? .klass = some (.mk (.classBody isAbstract) classSpan members) ∧
      members.find? .decorator = some d := by
  unfold Program.openingDecorator? at h
  split at h
  · rename_i span parts hitem
    split at h
    · rename_i isAbstract classSpan members hclass
      exact ⟨span, parts, isAbstract, classSpan, members, hitem, hclass, h⟩
    · cases h
  · cases h

theorem openingExpression?_eq_some {p : Program} {e : Node} (h : p.openingExpression? = some e) :
    ∃ span parts, p.firstItem? = some (.mk .exprStmt span parts) ∧ parts.find? .expr = some e := by
  unfold Program.openingExpression? at h
  split at h
  · rename_i span parts hitem
    exact ⟨span, parts, hitem, h⟩
  · cases h

/-- A program that is read back starts, up to spans and parentheses, with its first item. -/
theorem ReadsBack.firstItem {dialect : Dialect} {q : Program} {t : String} {n : Node}
    (h : ReadsBack dialect q) (hinterpreter : q.interpreter = none) (hitem : q.firstItem? = some n)
    (hbegins : Print.NodeBegins t n) : ∃ more reread slot m others,
      parseProgram (t ++ more) dialect = .ok reread ∧
      reread.program.body = .cons slot m others ∧ core m = core n := by
  obtain ⟨reread, hread, hsame⟩ := h
  obtain ⟨slot, others, hbody⟩ := body_eq_of_firstItem? hitem
  obtain ⟨more, hprinted⟩ := Print.program_begins hbody hinterpreter hbegins
  rw [hprinted] at hread
  have hcore := hsame.body
  rw [hbody, coreAll] at hcore
  cases hreread : reread.program.body with
  | nil =>
    rw [hreread] at hcore
    cases hcore
  | cons slot' m others' =>
    rw [hreread, coreAll, Children.cons.injEq] at hcore
    exact ⟨more, reread, slot', m, others', hread, hreread, hcore.2.1⟩

/-- What the first decorator of a class is read as. -/
theorem head?_of_decoratedBy {ds : List Node} {m d : Node} {span classSpan : Span}
    {parts members : Children} {isAbstract : Bool} (h : Grammar.DecoratedBy ds m)
    (hsame : core m = core (.mk (.classDecl false) span parts))
    (hclass : parts.find? .klass = some (.mk (.classBody isAbstract) classSpan members))
    (hd : members.find? .decorator = some d) : ∃ d' ∈ ds.head?, core d' = core d := by
  have hm : m.kind ≠ .paren := by
    intro hparen
    rw [Grammar.DecoratedBy, hparen] at h
    exact h
  obtain ⟨hkind, hparts⟩ := kind_and_child?_of_core_eq hsame hm (by simp [Node.kind])
  have hdeclared : m.kind = .classDecl false := hkind
  rw [Grammar.DecoratedBy, hdeclared] at h
  obtain ⟨k, hk, ⟨isAbstract', hbody⟩, hfirst⟩ := h
  have hklass := hparts .klass
  rw [hk, Node.child?, Node.children, hclass] at hklass
  obtain ⟨-, hmembers⟩ :=
    kind_and_child?_of_core_eq (Option.some.inj hklass) (by simp [hbody]) (by simp [Node.kind])
  have hdecorators := hmembers .decorator
  rw [hfirst, Node.child?, Node.children, hd] at hdecorators
  obtain ⟨d', hd', hcore⟩ := Option.map_eq_some_iff.mp hdecorators
  exact ⟨d', hd', hcore⟩

theorem kind_ne_paren_of_isOperation {e : Node} (h : Grammar.IsOperation e) : e.kind ≠ .paren := by
  intro hparen
  rw [Grammar.IsOperation, hparen] at h
  cases h

theorem isLink_core_of_isOperation {e : Node} (h : Grammar.IsOperation e) :
    (core e).kind.isLink = false := by
  rw [core_eq_of_kind_ne_paren (kind_ne_paren_of_isOperation h), Node.kind]
  rw [Grammar.IsOperation] at h
  cases hkind : e.kind with
  | member | call | optChain | optCall | tagged | nonNull | instantiation =>
    rw [hkind] at h
    cases h
  | _ => rfl

/-- A program that opens with a decorator that starts with an `await` in parentheses is read back only
if the decorator is the `await` itself or one call of it. -/
theorem ReadsBack.openingDecorator {dialect : Dialect} {q : Program} {c x : Node} {span : Span}
    (h : ReadsBack dialect q) (hinterpreter : q.interpreter = none)
    (hopen : q.openingDecorator? = some (Node.of .decorator span [(.decoratorExpr, x)]))
    (hx : HeadedBy (parenthesized (awaited c)) x) : x = parenthesized (awaited c) ∨
      ∃ callSpan slot args, x = .mk .call callSpan (.cons slot (parenthesized (awaited c)) args) := by
  obtain ⟨declSpan, parts, isAbstract, classSpan, members, hitem, hclass, hd⟩ :=
    openingDecorator?_eq_some hopen
  have hparen : Print.NodeBegins "(await " (parenthesized (awaited c)) :=
    Print.nodeBegins_paren (Print.nodeBegins_awaited c) c.span
  have hdecorator : Print.NodeBegins "@(await " (Node.of .decorator span [(.decoratorExpr, x)]) :=
    Print.nodeBegins_decorator (Print.nodeBegins_headedBy hx rfl hparen) span
  obtain ⟨more, reread, slot, m, others, hread, hbody, hsame⟩ :=
    h.firstItem hinterpreter hitem (Print.nodeBegins_classDecl hdecorator hclass hd)
  obtain ⟨ds, hdecorated, hds⟩ := Grammar.firstItem_of_opening hread hbody
  obtain ⟨d', hd', hcore⟩ := head?_of_decoratedBy hdecorated hsame hclass hd
  obtain ⟨e, he, hby⟩ := hds d' hd'
  have hhead : core (parenthesized (awaited c)) = core (awaited c) := core_parenthesized _
  exact eq_head_or_call_of_decoratesBy hby (isLink_core_of_isOperation he) hx.chainFrom
    (by rw [hhead]; rfl) hcore

/-- A program that opens with the increment or decrement of an awaited call is never read back. -/
theorem not_readsBack_of_openingUpdate {dialect : Dialect} {q : Program} {c : Node} {op : UpdateOp}
    {span : Span} (hinterpreter : q.interpreter = none)
    (hopen : q.openingExpression? = some (Node.of (.update op false) span [(.operand, awaited c)])) :
    ¬ ReadsBack dialect q := by
  intro h
  obtain ⟨stmtSpan, parts, hitem, hexpr⟩ := openingExpression?_eq_some hopen
  have hupdate := Print.nodeBegins_update (Print.nodeBegins_awaited c) op span
  obtain ⟨more, reread, slot, m, others, hread, hbody, hsame⟩ :=
    h.firstItem hinterpreter hitem (Print.nodeBegins_exprStmt hupdate hexpr stmtSpan)
  have hstates := Grammar.firstItem_of_await hread hbody
  have hm : m.kind ≠ .paren := by
    intro hparen
    rw [Grammar.StatesOperation, hparen] at hstates
    exact hstates
  obtain ⟨hkind, hparts⟩ := kind_and_child?_of_core_eq hsame hm (by simp [Node.kind])
  have hstated : m.kind = .exprStmt := hkind
  rw [Grammar.StatesOperation, hstated] at hstates
  obtain ⟨e, he, hoperation⟩ := hstates
  have hchild := hparts .expr
  rw [he, Node.child?, Node.children, hexpr] at hchild
  obtain ⟨hupdated, -⟩ := kind_and_child?_of_core_eq (Option.some.inj hchild)
    (kind_ne_paren_of_isOperation hoperation) (by simp [Node.of, Node.kind])
  rw [Grammar.IsOperation, hupdated] at hoperation
  cases hoperation

end AwaitCalls
