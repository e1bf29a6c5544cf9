import AwaitCalls.Proofs.Reading.Expressions

/-!
# Items

The decorators that are read in front of an item are those of the class that it declares, if it declares
one; no other rule for an item gives a class declaration. An item that starts with the word `await` is
an expression only of an operand that starts so, or of what operators make of one.
-/
namespace AwaitCalls.Syntax

open AwaitCalls.Text

namespace Grammar

open Parse

/-! ## Rules that give no class declaration -/

/-- Neither parentheses nor a class declaration. -/
def IsPlain (n : Node) : Prop :=
  match n.kind with
  | .paren | .classDecl _ => False
  | _ => True

variable (g : Grammar) (lo : Nat)

theorem ensures_enumDecl (isConst : Bool) : Ensures (enumDecl g lo isConst) IsPlain :=
  ensures_bind fun _ => ensures_bind fun _ => ensures_bind fun _ => ensures_bind fun _ =>
    ensures_bind fun _ => ensures_bind fun _ => ensures_pure trivial

theorem ensures_interfaceDecl : Ensures (interfaceDecl g lo) IsPlain := by
  refine ensures_bind fun _ => ensures_bind fun _ => ensures_when fun _ => ensures_bind fun _ =>
    ensures_bind fun _ => ensures_ite_bind fun _ => ensures_bind fun _ => ?_
  extract_lets members
  have hmembers : ∀ u, Ensures (members u) IsPlain := fun _ =>
    ensures_bind fun _ => ensures_bind fun _ => ensures_pure trivial
  exact ensures_ite (ensures_bind fun _ => ensures_bind hmembers) (hmembers ())

theorem ensures_typeAlias : Ensures (typeAlias g lo) IsPlain :=
  ensures_bind fun _ => ensures_bind fun _ => ensures_bind fun _ => ensures_bind fun _ =>
    ensures_when fun _ => ensures_bind fun _ => ensures_bind fun _ => ensures_bind fun _ =>
      ensures_pure trivial

theorem ensures_functionDecl (ds : List Node) : Ensures (functionDecl g ds) IsPlain :=
  ensures_bind fun _ => ensures_bind fun _ => ensures_bind fun _ => ensures_pure trivial

theorem ensures_variableList (inFor : Bool) : Ensures (variableList g inFor) IsPlain := by
  refine ensures_bind fun lo => ensures_bind fun _ => ensures_bind fun _ => ?_
  extract_lets declared
  have hdeclared : ∀ kind, Ensures (declared kind) IsPlain := by
    refine fun kind => ensures_bind fun _ => ensures_bind fun _ => ensures_bind fun _ => ?_
    extract_lets rest
    have hrest : ∀ u, Ensures (rest u) IsPlain := by
      refine fun _ => ensures_bind fun _ => ?_
      extract_lets finish
      have hfinish : ∀ u, Ensures (finish u) IsPlain := fun _ =>
        ensures_bind fun _ => ensures_pure trivial
      exact ensures_ite (ensures_bind fun _ => ensures_ite
        (ensures_bind fun _ => ensures_bind hfinish) (hfinish ())) (hfinish ())
    refine ensures_ite (ensures_bind fun _ => ensures_ite ?_ (hrest ())) (hrest ())
    exact ensures_bind fun _ => ensures_bind fun _ => ensures_bind fun _ => ensures_pure trivial
  exact ensures_ite (hdeclared _) (ensures_ite (hdeclared _) (hdeclared _))

theorem ensures_whileStatement : Ensures (whileStatement g) IsPlain :=
  ensures_bind fun _ => ensures_bind fun _ => ensures_bind fun _ => ensures_bind fun _ =>
    ensures_bind fun _ => ensures_pure trivial

theorem ensures_doStatement : Ensures (doStatement g) IsPlain :=
  ensures_bind fun _ => ensures_bind fun _ => ensures_bind fun _ => ensures_bind fun _ =>
    ensures_bind fun _ => ensures_bind fun _ => ensures_bind fun _ => ensures_pure trivial

theorem ensures_jump (isBreak : Bool) : Ensures (jump isBreak) IsPlain := by
  refine ensures_bind fun lo => ensures_bind fun _ => ensures_bind fun _ => ?_
  extract_lets labelled
  have hlabelled : ∀ label, Ensures (labelled label) IsPlain := by
    refine fun label => ensures_bind fun _ => ensures_bind fun _ => ?_
    extract_lets finish
    have hfinish : ∀ u, Ensures (finish u) IsPlain := fun _ =>
      ensures_bind fun _ => ensures_pure (by cases isBreak <;> trivial)
    exact ensures_ite
      (ensures_ite (ensures_bind hfinish) (ensures_ite (ensures_bind hfinish) (hfinish ())))
      (ensures_ite (ensures_bind hfinish) (ensures_ite (ensures_bind hfinish) (hfinish ())))
  exact ensures_ite (hlabelled none) (ensures_bind fun _ => ensures_bind fun _ => hlabelled _)

theorem ensures_forStatement : Ensures (forStatement g) IsPlain := by
  refine ensures_bind fun _ => ensures_bind fun _ => ensures_bind fun _ => ensures_bind fun _ =>
    ensures_bind fun _ => ensures_bind fun head => ensures_bind fun _ => ensures_bind fun _ =>
      ensures_bind fun _ => ?_
  cases head with
  | plain init test update => exact ensures_when fun _ => ensures_pure trivial
  | isIn left right => exact ensures_when fun _ => ensures_pure trivial
  | isOf left right => exact ensures_pure trivial

theorem ensures_ifRule : Ensures (ifRule g) IsPlain := by
  refine ensures_bind fun _ => ensures_bind fun _ => ensures_bind fun _ => ensures_bind fun _ =>
    ensures_bind fun _ => ?_
  extract_lets finish
  have hfinish : ∀ alt, Ensures (finish alt) IsPlain := fun _ =>
    ensures_bind fun _ => ensures_pure trivial
  exact ensures_ite (hfinish none) (ensures_bind fun _ => hfinish _)

theorem ensures_returnStatement : Ensures (returnStatement g) IsPlain := by
  refine ensures_bind fun lo => ensures_bind_of (@ensures_caught _ _ IsPlain ?_)
    fun result hresult => ensures_bind fun _ => ensures_when fun _ => ?_
  · refine ensures_bind fun _ => ensures_bind fun _ => ?_
    extract_lets finish
    have hfinish : ∀ e, Ensures (finish e) IsPlain := fun _ =>
      ensures_bind fun _ => ensures_bind fun _ => ensures_pure trivial
    exact ensures_ite (hfinish none) (ensures_bind hfinish)
  · cases result with
    | ok n => exact ensures_pure (hresult n rfl)
    | error e => exact ensures_throw e

theorem ensures_switchStatement : Ensures (switchStatement g) IsPlain :=
  ensures_bind fun _ => ensures_bind fun _ => ensures_bind fun _ => ensures_bind fun _ =>
    ensures_bind fun _ => ensures_bind fun _ => ensures_bind fun _ => ensures_pure trivial

theorem ensures_tryStatement : Ensures (tryStatement g) IsPlain :=
  ensures_bind fun _ => ensures_bind fun _ => ensures_bind fun _ => ensures_bind fun _ =>
    ensures_bind fun _ => ensures_bind fun _ => ensures_when fun _ => ensures_bind fun _ =>
      ensures_pure trivial

theorem ensures_throwStatement : Ensures (throwStatement g) IsPlain :=
  ensures_bind fun _ => ensures_bind fun _ => ensures_bind fun _ => ensures_when fun _ =>
    ensures_bind fun _ => ensures_bind fun _ => ensures_bind fun _ => ensures_pure trivial

theorem ensures_withStatement : Ensures (withStatement g) IsPlain :=
  ensures_bind fun _ => ensures_bind fun _ => ensures_when fun _ => ensures_bind fun _ =>
    ensures_bind fun _ => ensures_bind fun _ => ensures_bind fun _ => ensures_bind fun _ =>
      ensures_pure trivial

theorem ensures_blockRule (allowDirectives : Bool) : Ensures (blockRule g allowDirectives) IsPlain :=
  ensures_bind fun _ => ensures_bind fun _ => ensures_bind fun _ => ensures_bind fun _ =>
    ensures_pure trivial

theorem ensures_strayHandler : Ensures (strayHandler g) IsPlain :=
  ensures_bind fun _ => ensures_bind fun _ => ensures_bind fun _ => ensures_bind fun _ =>
    ensures_pure trivial

theorem ensures_labeledStatement (label : Node) :
    Ensures (labeledStatement g label) fun n => n.kind = .labeled := by
  unfold labeledStatement
  refine ensures_inContext ?_ _
  extract_lets name
  refine ensures_bind fun _ => ensures_bind fun _ => ensures_bind fun _ => ?_
  extract_lets finish
  have hfinish : ∀ body, Ensures (finish body) fun n => n.kind = .labeled := fun _ =>
    ensures_when fun _ => ensures_bind fun _ => ensures_bind fun _ => ensures_pure rfl
  refine ensures_ite (ensures_bind fun _ => ensures_bind fun _ => ensures_when fun _ => ?_)
    (ensures_bind hfinish)
  split
  · exact ensures_when fun _ => ensures_bind hfinish
  · exact ensures_bind hfinish

theorem ensures_usingDecl? (isAwait : Bool) :
    EnsuresFound (usingDecl? g lo isAwait) fun n => n.kind = .usingDecl isAwait :=
  ensures_bind fun _ => ensures_ite ensures_none <| ensures_bind fun _ => ensures_ite ensures_none <|
    ensures_bind fun _ => ensures_bind fun _ => ensures_bind fun _ => ensures_when fun _ =>
      ensures_bind fun _ => ensures_bind fun _ => ensures_bind fun _ => ensures_some rfl

theorem ensures_namespaceDecl (depth : Nat) (keyword : NamespaceKeyword) :
    Ensures ((grammar depth).namespaceDecl lo keyword) IsPlain := by
  cases depth with
  | zero => exact ensures_fail _
  | succ depth =>
    refine ensures_bind fun _ => ensures_bind fun _ => ensures_bind fun _ => ?_
    extract_lets finish
    have hfinish : ∀ body, Ensures (finish body) IsPlain := fun _ =>
      ensures_bind fun _ => ensures_pure trivial
    exact ensures_ite (ensures_bind fun _ => ensures_bind hfinish) (ensures_bind hfinish)

theorem ensures_ambientModule : Ensures (ambientModule g lo) IsPlain := by
  refine ensures_bind fun _ => ensures_bind fun _ => ?_
  extract_lets named
  have hnamed : ∀ r, Ensures (named r) IsPlain := by
    refine fun r => ensures_bind fun _ => ?_
    extract_lets finish
    have hfinish : ∀ body, Ensures (finish body) IsPlain := fun _ =>
      ensures_bind fun _ => ensures_pure trivial
    exact ensures_ite (ensures_bind hfinish) (ensures_bind fun _ => ensures_bind hfinish)
  refine ensures_ite (ensures_bind fun _ => ensures_bind hnamed) (ensures_bind fun _ => ?_)
  split
  · exact ensures_bind fun _ => ensures_bind hnamed
  · exact ensures_bind hnamed

/-! ## Class declarations -/

/-- A class whose first decorator is the first one given. -/
def IsClassOf (ds : List Node) (k : Node) : Prop :=
  (∃ isAbstract, k.kind = .classBody isAbstract) ∧ k.child? .decorator = ds.head?

theorem find?_ofList (slot : Slot) (parts : List (Slot × Node)) :
    (Children.ofList parts).find? slot = (parts.find? fun part => part.1 = slot).map (·.2) := by
  induction parts with
  | nil => rfl
  | cons part parts ih =>
    rw [Children.ofList, Children.find?, ih, List.find?_cons]
    by_cases h : part.1 = slot <;> simp [h]

theorem find?_many {slot slot' : Slot} (h : slot' ≠ slot) (ns : List Node) :
    (Node.many slot' ns).find? (fun part => part.1 = slot) = none := by
  simp [Node.many, h]

theorem find?_opt {slot slot' : Slot} (h : slot' ≠ slot) (n? : Option Node) :
    (Node.opt slot' n?).find? (fun part => part.1 = slot) = none := by
  cases n? <;> simp [Node.opt, h]

theorem isClassOf_body (ds members impl : List Node) (base tps args : Option Node) (isAbstract : Bool)
    (span : Span) : IsClassOf ds (Node.of (.classBody isAbstract) span
      (Node.many .decorator ds ++ Node.many .member members ++ Node.opt .superclass base ++
        Node.opt .typeParams tps ++ Node.opt .superTypeArgs args ++ Node.many .heritage impl)) := by
  refine ⟨⟨isAbstract, rfl⟩, ?_⟩
  rw [Node.child?, Node.of, Node.children, find?_ofList]
  simp only [List.find?_append]
  rw [find?_many (by decide : Slot.member ≠ .decorator), find?_opt (by decide), find?_opt (by decide),
    find?_opt (by decide), find?_many (by decide : Slot.heritage ≠ .decorator)]
  cases ds <;> simp [Node.many]

theorem ensures_namedClass (ds : List Node) (isNameRequired isAbstract : Bool) :
    Ensures (namedClass g lo ds isNameRequired isAbstract) fun r => IsClassOf ds r.2 := by
  unfold namedClass
  refine ensures_inContext (ensures_bind fun typed => ensures_bind fun _ => ensures_bind fun name =>
    ensures_when fun _ => ensures_ite_bind fun tps => ensures_bind fun heritage => ?_) _
  exact ensures_bind fun _ => ensures_bind fun members => ensures_bind fun _ => ensures_bind fun _ =>
    ensures_pure (isClassOf_body ds members _ _ tps _ _ _)

/-- Not parentheses, and a class declaration only of a class whose first decorator is the first one
given. -/
def DecoratedBy (ds : List Node) (n : Node) : Prop :=
  match n.kind with
  | .paren => False
  | .classDecl _ => ∃ k, n.child? .klass = some k ∧ IsClassOf ds k
  | _ => True

theorem IsPlain.decoratedBy {ds : List Node} {n : Node} (h : IsPlain n) : DecoratedBy ds n := by
  obtain ⟨kind, span, parts⟩ := n
  cases kind with
  | classDecl isAmbient => exact h.elim
  | _ => exact h

theorem ensures_decoratedBy {ds : List Node} {p : Parse Node} (h : Ensures p IsPlain) :
    Ensures p (DecoratedBy ds) :=
  fun ctx s n t hn => (h ctx s n t hn).decoratedBy

theorem decoratedBy_of_kind {ds : List Node} {n : Node} {kind : Kind} (h : n.kind = kind)
    (hkind : IsPlain (.mk kind ⟨0, 0⟩ .nil)) : DecoratedBy ds n := by
  subst h
  exact IsPlain.decoratedBy hkind

theorem ensures_classDecl (ds : List Node) (isAbstract : Bool) :
    Ensures (classDecl g lo ds isAbstract) (DecoratedBy ds) := by
  refine ensures_bind_of (ensures_namedClass g lo ds true isAbstract) fun ⟨name, k⟩ hk =>
    ensures_pure ⟨k, ?_, hk⟩
  cases name <;> rfl

theorem ensures_typedDecl? (depth : Nat) (w : String) (ds : List Node) (isPending : Bool) :
    EnsuresFound (typedDecl? (grammar depth) lo w ds isPending) (DecoratedBy ds) := by
  unfold typedDecl?
  split
  · refine ensures_bind fun _ => ensures_bind fun _ =>
      ensures_ite (ensures_bind fun _ => ?_) ensures_none
    exact ensures_bind_of (ensures_classDecl _ lo ds true) fun n hn => ensures_some hn
  · refine ensures_bind fun _ => ensures_ite (ensures_bind fun _ => ?_) ensures_none
    exact ensures_bind_of (ensures_enumDecl _ lo false) fun n hn => ensures_some hn.decoratedBy
  · refine ensures_bind fun _ => ensures_ite (ensures_bind fun _ => ?_) ensures_none
    exact ensures_bind_of (ensures_interfaceDecl _ lo) fun n hn => ensures_some hn.decoratedBy
  · refine ensures_bind fun _ => ensures_ite ensures_none <| ensures_bind fun _ => ensures_bind fun _ =>
      ensures_when fun _ => ensures_bind fun _ => ensures_ite ?_ ?_
    · exact ensures_bind_of (ensures_ambientModule _ lo) fun n hn => ensures_some hn.decoratedBy
    · refine ensures_bind fun _ => ensures_ite ?_ ensures_none
      exact ensures_bind_of (ensures_namespaceDecl lo depth _) fun n hn => ensures_some hn.decoratedBy
  · refine ensures_bind fun _ => ensures_ite (ensures_bind fun _ => ?_) ensures_none
    exact ensures_bind_of (ensures_namespaceDecl lo depth _) fun n hn => ensures_some hn.decoratedBy
  · refine ensures_bind fun _ => ensures_bind fun _ =>
      ensures_ite (ensures_bind fun _ => ?_) ensures_none
    exact ensures_bind_of (ensures_typeAlias _ lo) fun n hn => ensures_some hn.decoratedBy
  · exact ensures_none

theorem DecoratedBy.asAmbient {ds : List Node} {n : Node} (h : DecoratedBy ds n) :
    DecoratedBy ds (asAmbient lo n) := by
  obtain ⟨kind, span, parts⟩ := n
  cases kind <;> exact h

theorem ensures_declareDecl? (depth : Nat) (ds : List Node) :
    EnsuresFound (declareDecl? (grammar depth) lo ds) (DecoratedBy ds) := by
  refine ensures_bind fun _ => ensures_when fun _ => ensures_inContext ?_ _
  refine ensures_bind fun _ => ensures_bind fun _ => ensures_bind fun _ => ensures_bind fun _ =>
    ensures_bind fun _ => ensures_bind fun _ => ensures_bind fun _ => ensures_bind fun _ => ?_
  have hambient : ∀ found : Option Node, (∀ n ∈ found, DecoratedBy ds n) →
      EnsuresFound (pure (found.map (asAmbient lo))) (DecoratedBy ds) := by
    rintro (_ | n) h
    · exact ensures_none
    · exact ensures_some ((h n rfl).asAmbient lo)
  have hplain : ∀ {p : Parse Node}, Ensures p IsPlain → EnsuresFound (some <$> p) (DecoratedBy ds) :=
    fun h => ensures_some_map (ensures_decoratedBy h)
  extract_lets finish
  refine ensures_ite (ensures_bind_of (hplain (ensures_functionDecl _ ds)) hambient) (ensures_ite
    (ensures_bind_of (ensures_some_map (ensures_classDecl _ lo ds false)) hambient) (ensures_ite
      (ensures_bind fun _ => ensures_bind fun _ =>
        ensures_bind_of (hplain (ensures_enumDecl _ lo true)) hambient) (ensures_ite
        (ensures_bind_of (hplain (ensures_variableList _ false)) hambient) (ensures_ite
          (ensures_bind_of (hplain (ensures_ambientModule _ lo)) hambient)
          (ensures_bind fun _ => ?_)))))
  split
  · exact ensures_bind_of (ensures_typedDecl? lo depth _ ds true) hambient
  · exact hambient none nofun

theorem ensures_wordDecl? (depth : Nat) (w : String) (ds : List Node) :
    EnsuresFound (wordDecl? (grammar depth) lo w ds) (DecoratedBy ds) := by
  refine ensures_ite (ensures_declareDecl? lo depth ds) (ensures_ite (ensures_bind fun _ => ?_) ?_)
  · exact ensures_ite (ensures_bind fun _ => ensures_bind fun _ => ensures_some trivial) ensures_none
  · exact ensures_typedDecl? lo depth w ds false

theorem ensures_expressionStatement (depth : Nat) (ds : List Node) :
    Ensures (expressionStatement (grammar depth) lo ds) (DecoratedBy ds) := by
  refine ensures_bind fun e => ?_
  extract_lets finish rest
  have hfinish : ∀ e, Ensures (finish e) (DecoratedBy ds) := fun _ =>
    ensures_bind fun _ => ensures_pure trivial
  have hrest : ∀ u, Ensures (rest u) (DecoratedBy ds) := fun _ =>
    ensures_bind fun _ => ensures_ite (hfinish e) <| ensures_bind fun _ => ensures_ite
      (ensures_bind fun _ => ensures_bind hfinish) (ensures_fail _)
  split
  · rename_i w _
    have hlabeled : Ensures (labeledStatement (grammar depth) e) (DecoratedBy ds) := fun ctx s n t hn =>
      decoratedBy_of_kind (ensures_labeledStatement _ e ctx s n t hn) trivial
    refine ensures_bind fun _ => ensures_ite hlabeled <| ensures_bind fun _ => ensures_bind fun _ =>
      ensures_ite ?_ (hrest ())
    refine ensures_bind_of (ensures_wordDecl? e.lo depth w ds) fun found hfound => ?_
    cases found with
    | none => exact hrest ()
    | some d => exact ensures_pure (hfound d rfl)
  · exact hrest ()

/-! ## Imports and exports -/

theorem ensures_importStatement? : EnsuresFound (importStatement? g) IsPlain :=
  ensures_bind fun _ => ensures_ite ensures_none <| ensures_bind fun _ => ensures_ite ensures_none <|
    ensures_bind fun _ => ensures_bind fun _ => ensures_bind fun _ => ensures_bind fun _ =>
      ensures_some trivial

theorem ensures_importEquals (id : Node) (isExport isTypeOnly : Bool) :
    Ensures (importEquals lo id isExport isTypeOnly) IsPlain := by
  refine ensures_bind fun _ => ensures_bind fun _ => ensures_bind fun _ => ensures_bind fun _ => ?_
  extract_lets finish
  have hfinish : ∀ ref, Ensures (finish ref) IsPlain := fun _ =>
    ensures_bind fun _ => ensures_bind fun _ => ensures_pure trivial
  exact ensures_ite (ensures_bind fun _ => ensures_bind fun _ => ensures_bind fun _ =>
    ensures_bind fun _ => ensures_bind fun _ => hfinish _) (ensures_bind hfinish)

theorem ensures_importDecl : Ensures (importDecl g) IsPlain := by
  refine ensures_bind fun lo => ensures_bind fun _ => ensures_bind fun _ => ensures_ite
    (ensures_bind fun _ => ensures_bind fun _ => ensures_pure trivial) (ensures_bind fun head => ?_)
  extract_lets binding finish specifiers rest
  have hfinish : ∀ ns, Ensures (finish ns) IsPlain := fun _ =>
    ensures_bind fun _ => ensures_bind fun _ => ensures_pure trivial
  have hspecifiers : ∀ more, Ensures (specifiers more) IsPlain := fun _ =>
    ensures_ite (hfinish []) <| ensures_bind fun _ => ensures_bind fun _ => ensures_ite
      (ensures_bind fun _ => ensures_bind fun _ => ensures_bind fun _ => ensures_bind fun _ => hfinish _)
      (ensures_bind fun _ => ensures_ite (ensures_bind fun _ => ensures_bind hfinish) (hfinish []))
  have hrest : ∀ u, Ensures (rest u) IsPlain := fun _ =>
    ensures_bind fun _ => ensures_ite (hspecifiers true) <| ensures_ite (hspecifiers false)
      (ensures_bind fun _ => hspecifiers true)
  split
  · exact ensures_bind fun _ => ensures_bind fun _ => ensures_ite (ensures_importEquals lo _ _ _)
      (hrest ())
  · exact hrest ()

theorem ensures_exportList (isTypeOnly : Bool) : Ensures (exportList g lo isTypeOnly) IsPlain :=
  ensures_bind fun _ => ensures_bind fun _ => ensures_ite
    (ensures_bind fun _ => ensures_ite
      (ensures_bind fun _ => ensures_bind fun _ => ensures_bind fun _ => ensures_pure trivial)
      (ensures_bind fun _ => ensures_bind fun _ => ensures_bind fun _ => ensures_bind fun _ =>
        ensures_bind fun _ => ensures_bind fun _ => ensures_pure trivial))
    (ensures_bind fun _ => ensures_bind fun _ => ensures_bind fun _ => ensures_ite
      (ensures_bind fun _ => ensures_bind fun _ => ensures_pure trivial)
      (ensures_bind fun _ => ensures_bind fun _ => ensures_bind fun _ => ensures_pure trivial))

theorem ensures_exportDefault (ds : List Node) : Ensures (exportDefault g lo ds) IsPlain := by
  refine ensures_bind fun ds => ?_
  extract_lets decl asClass
  have hdecl : ∀ n, Ensures (decl n) IsPlain := fun _ => ensures_bind fun _ => ensures_pure trivial
  have hclass : ∀ lo isAbstract, Ensures (asClass lo isAbstract) IsPlain := fun _ _ =>
    ensures_bind fun _ => hdecl _
  refine ensures_bind fun start => ensures_bind fun _ => ?_
  extract_lets rest typed
  have hrest : ∀ u, Ensures (rest u) IsPlain := fun _ =>
    ensures_bind fun _ => ensures_ite (hclass start false) <| ensures_bind fun _ => ensures_bind fun _ =>
      ensures_ite (ensures_bind fun _ => ensures_bind fun _ => hdecl _)
        (ensures_bind fun _ => ensures_bind fun _ => ensures_bind fun _ => ensures_pure trivial)
  have htyped : ∀ u, Ensures (typed u) IsPlain := fun _ =>
    ensures_bind fun _ => ensures_ite (ensures_bind fun _ => ensures_bind fun _ => ensures_bind hdecl)
      (hrest ())
  exact ensures_ite (ensures_bind fun _ => ensures_bind fun _ => ensures_ite
    (ensures_bind fun _ => hclass start true) <| ensures_bind fun _ => ensures_ite
      (ensures_bind fun _ => ensures_bind htyped) (htyped ())) (hrest ())

theorem ensures_typedExport? (ds : List Node) : EnsuresFound (typedExport? g lo ds) IsPlain := by
  refine ensures_bind fun after => ?_
  extract_lets decl other rest
  have hdecl : ∀ n, EnsuresFound (decl n) IsPlain := fun _ =>
    ensures_bind fun _ => ensures_some trivial
  have hother : ∀ u, EnsuresFound (other u) IsPlain := fun _ =>
    ensures_bind fun _ => ensures_ite
      (ensures_bind fun _ => ensures_bind fun _ => ensures_when fun _ => ensures_bind fun _ =>
        ensures_bind fun _ =>
          ensures_bind_of (ensures_importEquals lo _ _ _) fun _ hn => ensures_some hn)
      (ensures_bind fun _ => ensures_ite
        (ensures_bind fun _ => ensures_bind fun _ => ensures_bind fun _ => ensures_some trivial)
        (ensures_bind fun _ => ensures_ite
          (ensures_bind fun _ => ensures_bind fun _ => ensures_bind fun _ => ensures_bind fun _ =>
            ensures_some trivial)
          ensures_none))
  have hrest : ∀ u, EnsuresFound (rest u) IsPlain := by
    refine fun _ => ensures_bind fun _ => ?_
    split
    · refine ensures_bind fun found => ?_
      cases found with
      | none => exact hother ()
      | some d => exact hdecl d
    · exact hother ()
  refine ensures_bind fun _ => ensures_ite (ensures_bind fun found => ?_) (hrest ())
  cases found with
  | none => exact hrest ()
  | some d => exact hdecl d

theorem ensures_exportDecl (ds : List Node) : Ensures (exportDecl g ds) IsPlain := by
  refine ensures_bind fun lo => ensures_bind fun _ => ensures_bind fun typed => ?_
  extract_lets decl list rest
  have hdecl : ∀ n, Ensures (decl n) IsPlain := fun _ => ensures_bind fun _ => ensures_pure trivial
  have hlist : ∀ isTypeOnly, Ensures (list isTypeOnly) IsPlain := fun _ =>
    ensures_ite (ensures_exportList g lo true) <| ensures_bind fun _ => ensures_ite
      (ensures_exportDefault g lo ds) <| ensures_bind fun ds => ensures_bind fun _ =>
        ensures_bind fun _ => ensures_ite (ensures_bind hdecl) <| ensures_bind fun _ =>
          ensures_bind fun _ => ensures_ite (ensures_bind hdecl) <| ensures_bind fun _ =>
            ensures_bind fun _ => ensures_ite
              (ensures_bind fun _ => ensures_bind fun _ => ensures_bind hdecl) <|
              ensures_bind fun _ => ensures_bind fun _ => ensures_bind fun _ =>
                ensures_ite (ensures_bind hdecl) (ensures_exportList g lo false)
  have hrest : ∀ u, Ensures (rest u) IsPlain := fun _ => ensures_ite_bind hlist
  refine ensures_ite (ensures_bind_of (ensures_typedExport? g lo ds) fun found hfound => ?_) (hrest ())
  cases found with
  | none => exact hrest ()
  | some n => exact ensures_pure (hfound n rfl)

/-! ## Statements and items -/

theorem ensures_ifStatement (depth : Nat) : Ensures (grammar depth).ifStatement IsPlain := by
  cases depth with
  | zero => exact ensures_fail _
  | succ depth => exact ensures_ifRule (grammar depth)

theorem ensures_block (depth : Nat) (allowDirectives : Bool) :
    Ensures ((grammar depth).block allowDirectives) IsPlain := by
  cases depth with
  | zero => exact ensures_fail _
  | succ depth => exact ensures_blockRule (grammar depth) allowDirectives

theorem ensures_plainStatement (depth : Nat) (allowDecl : Bool) (ds : List Node) :
    Ensures (plainStatement (grammar depth) lo allowDecl ds) (DecoratedBy ds) := by
  refine ensures_bind fun typed => ensures_bind fun _ => ensures_bind fun _ => ensures_ite ?_ ?_
  · exact ensures_bind fun _ => ensures_bind fun _ =>
      ensures_decoratedBy (ensures_enumDecl _ lo true)
  refine ensures_bind fun _ => ensures_bind fun _ => ensures_bind fun _ => ensures_bind fun _ =>
    ensures_ite (ensures_bind fun _ => ensures_bind fun _ => ensures_bind fun _ =>
      ensures_decoratedBy (ensures_interfaceDecl _ lo)) (ensures_bind fun _ => ?_)
  extract_lets rest
  have hrest : ∀ u, Ensures (rest u) (DecoratedBy ds) := fun _ =>
    ensures_bind fun _ => ensures_ite (ensures_decoratedBy (ensures_functionDecl _ ds))
      (ensures_expressionStatement lo depth ds)
  split
  · refine ensures_ite (ensures_bind fun _ => ensures_when fun _ => ensures_bind fun _ => ensures_ite
      (ensures_bind fun _ => ensures_bind_of (ensures_usingDecl? _ lo true) fun found hfound => ?_)
      (hrest ())) (hrest ())
    cases found with
    | none =>
      exact ensures_bind fun _ => ensures_bind fun _ => ensures_bind fun _ => ensures_bind fun _ =>
        ensures_pure trivial
    | some d => exact ensures_pure (decoratedBy_of_kind (hfound d rfl) trivial)
  · exact ensures_decoratedBy (ensures_jump true)
  · exact ensures_decoratedBy (ensures_jump false)
  · exact ensures_bind fun _ => ensures_bind fun _ => ensures_bind fun _ => ensures_pure trivial
  · exact ensures_decoratedBy (ensures_doStatement _)
  · exact ensures_decoratedBy (ensures_forStatement _)
  · exact ensures_when fun _ => ensures_decoratedBy (ensures_functionDecl _ ds)
  · exact ensures_when fun _ => ensures_classDecl _ lo ds false
  · exact ensures_decoratedBy (ensures_ifStatement depth)
  · exact ensures_decoratedBy (ensures_returnStatement _)
  · exact ensures_decoratedBy (ensures_switchStatement _)
  · exact ensures_decoratedBy (ensures_throwStatement _)
  · exact ensures_decoratedBy (ensures_strayHandler _)
  · exact ensures_decoratedBy (ensures_strayHandler _)
  · exact ensures_decoratedBy (ensures_tryStatement _)
  · exact ensures_decoratedBy (ensures_withStatement _)
  · exact ensures_decoratedBy (ensures_whileStatement _)
  · exact ensures_decoratedBy (ensures_variableList _ false)
  · exact ensures_bind fun _ =>
      ensures_ite (ensures_decoratedBy (ensures_variableList _ false)) (hrest ())
  · exact ensures_ite (ensures_decoratedBy (ensures_variableList _ false)) (hrest ())
  · refine ensures_ite (ensures_bind_of (ensures_usingDecl? _ lo false) fun found hfound => ?_)
      (hrest ())
    cases found with
    | none => exact hrest ()
    | some d => exact ensures_pure (decoratedBy_of_kind (hfound d rfl) trivial)
  · exact ensures_bind fun _ => ensures_ite
      (ensures_bind fun _ => ensures_decoratedBy (ensures_interfaceDecl _ lo)) (hrest ())
  · exact ensures_bind fun _ => ensures_ite
      (ensures_bind fun _ => ensures_decoratedBy (ensures_typeAlias _ lo)) (hrest ())
  · exact ensures_bind fun _ => ensures_ite
      (ensures_bind fun _ => ensures_decoratedBy (ensures_enumDecl _ lo false)) (hrest ())
  · exact ensures_decoratedBy (ensures_block depth false)
  · exact ensures_bind fun _ => ensures_bind fun _ => ensures_pure trivial
  · exact hrest ()

/-- Decorators that are read in front of an item are those of the class that it declares, if it declares
one. -/
theorem decoratedBy_moduleItem {depth : Nat} {ctx : Context} {s t : State} {n : Node}
    (hat : s.current.token.isPunct "@" = true) (h : (grammar (depth + 1)).moduleItem ctx s = .ok n t) :
    ∃ ctx' ds u, decorators (grammar depth) true ctx' s = .ok ds u ∧ DecoratedBy ds n := by
  rw [show (grammar (depth + 1)).moduleItem ctx s = moduleItemRule (grammar depth) ctx s from rfl,
    moduleItemRule, inContext_eq] at h
  obtain ⟨lo, _, hlo, h⟩ := bind_eq_ok.mp h
  cases hlo
  rw [bind_of_ok (isPunct_eq "@" _ s), hat, if_pos rfl] at h
  obtain ⟨ds, u, hds, h⟩ := bind_eq_ok.mp h
  refine ⟨_, ds, u, hds, ?_⟩
  refine ensures_bind (fun _ => ensures_ite (ensures_bind_of (ensures_importStatement? _) ?_) ?_)
    _ u n t h
  · rintro (_ | d) hplain
    · exact ensures_decoratedBy (ensures_inContext (ensures_importDecl _) _)
    · exact ensures_pure (hplain d rfl).decoratedBy
  · exact ensures_bind fun _ => ensures_ite
      (ensures_decoratedBy (ensures_inContext (ensures_exportDecl _ ds) _))
      (ensures_plainStatement _ depth true ds)

/-! ## Items that start with the word `await` -/

/-- Not parentheses, and if it is an expression as a statement, then of an operand or of what operators
make of one. -/
def StatesOperation (n : Node) : Prop :=
  match n.kind with
  | .paren => False
  | .exprStmt => ∃ e, n.child? .expr = some e ∧ IsOperation e
  | _ => True

theorem wordDecl?_await (g : Grammar) (lo : Nat) (ds : List Node) :
    wordDecl? g lo "await" ds = pure none := by
  rw [wordDecl?, if_neg (by decide), if_neg (by decide)]
  rfl

theorem statesOperation_expressionStatement {depth lo : Nat} {ds : List Node} {ctx : Context}
    {s t : State} {n : Node} (hat : s.current.token.isWord "await" = true)
    (h : expressionStatement (grammar depth) lo ds ctx s = .ok n t) : StatesOperation n := by
  obtain ⟨e, u, he, h⟩ := bind_eq_ok.mp h
  rw [allowIn, inContext_eq] at he
  have hoperation := isOperation_expr hat he
  have hfinish : ∀ e, IsOperation e → Ensures (do
      return Node.of .exprStmt (← spanFrom lo) [(.expr, e)]) StatesOperation := fun e he =>
    ensures_bind fun _ => ensures_pure ⟨e, rfl, he⟩
  have hrest : Ensures (do
      if ← eatSemicolon then return Node.of .exprStmt (← spanFrom lo) [(.expr, e)]
      if (← atPunctOp?).isSome then
        noteHere .expectedSemicolon
        let e ← (grammar depth).binaryRest e 0
        return Node.of .exprStmt (← spanFrom lo) [(.expr, e)]
      fail .expectedStatementEnd) StatesOperation :=
    ensures_bind fun _ => ensures_ite (hfinish e hoperation) <| ensures_bind fun _ => ensures_ite
      (ensures_bind fun _ => ensures_bind_of (ensures_binaryRest depth hoperation 0) hfinish)
      (ensures_fail _)
  refine (?_ : Ensures _ StatesOperation) ctx u n t h
  split
  · rename_i w hkind
    obtain rfl : w = "await" := by simpa [IsOperation, hkind, Kind.isOperation] using hoperation
    rw [wordDecl?_await]
    refine ensures_bind fun _ => ensures_ite (fun ctx s n t hn => ?_) <| ensures_bind fun _ =>
      ensures_bind fun _ => ensures_ite hrest hrest
    rw [StatesOperation, ensures_labeledStatement _ e ctx s n t hn]
    trivial
  · exact hrest

/-- The word `await` does not start an asynchronous function. -/
theorem statesOperation_unlessAsync {depth lo : Nat} {ds : List Node} {ctx : Context} {s t : State}
    {n : Node} (hat : s.current.token.isWord "await" = true)
    (h : (do
      if ← atAsyncFunction then return ← functionDecl (grammar depth) ds
      expressionStatement (grammar depth) lo ds) ctx s = .ok n t) : StatesOperation n := by
  obtain ⟨name, hword⟩ := Token.eq_word_of_isWord hat
  have hasync : atAsyncFunction ctx s = .ok false s := by
    rw [atAsyncFunction, bind_of_ok (isWord_eq "async" ctx s), hword]
    rfl
  rw [bind_of_ok hasync, if_neg (by simp)] at h
  exact statesOperation_expressionStatement hat h

/-- Past the word `await` a declaration of resources is read, or the operand is. -/
theorem ensures_awaitStatement (depth lo : Nat) : Ensures (do
    bump
    if let some d ← usingDecl? (grammar depth) lo true then return d
    let e ← awaitExpr (grammar depth) lo
    let e ← allowIn ((grammar depth).binaryRest e 0)
    let _ ← eatSemicolon
    return Node.of .exprStmt (← spanFrom lo) [(.expr, e)]) StatesOperation := by
  refine ensures_bind fun _ => ensures_bind_of (ensures_usingDecl? _ lo true) fun found hfound => ?_
  cases found with
  | some d =>
    refine ensures_pure ?_
    rw [StatesOperation, hfound d rfl]
    trivial
  | none =>
    refine ensures_bind_of (ensures_awaitExpr _ lo) fun e he => ?_
    refine ensures_bind_of (ensures_inContext (ensures_binaryRest depth he.isOperation 0) _)
      fun e he => ?_
    exact ensures_bind fun _ => ensures_bind fun _ => ensures_pure ⟨e, rfl, he⟩

theorem statesOperation_plainStatement {depth lo : Nat} {ds : List Node} {ctx : Context}
    {s t : State} {n : Node} (hat : s.current.token.isWord "await" = true)
    (h : plainStatement (grammar depth) lo true ds ctx s = .ok n t) : StatesOperation n := by
  obtain ⟨name, hword⟩ := Token.eq_word_of_isWord hat
  have hother : ∀ w, w ≠ "await" → isWord w ctx s = .ok false s := by
    intro w hw
    rw [isWord_eq, hword]
    simp [Token.isWord, Ne.symm hw]
  unfold plainStatement at h
  obtain ⟨typed, _, htyped, h⟩ := bind_eq_ok.mp h
  cases htyped
  rw [bind_of_ok (hother "const" (by decide))] at h
  obtain ⟨_, _, hpeek, h⟩ := bind_eq_ok.mp h
  cases hpeek
  rw [Bool.and_false, Bool.false_and, if_neg (by simp)] at h
  obtain ⟨_, _, hpeek, h⟩ := bind_eq_ok.mp h
  cases hpeek
  rw [bind_of_ok (hother "abstract" (by decide)), bind_of_ok (hother "public" (by decide)),
    bind_of_ok (hother "static" (by decide)), Bool.or_false, Bool.or_false, Bool.and_false,
    if_neg (by simp), bind_of_ok (token_eq ctx s), hword] at h
  -- only the branch of the word `await` is left
  obtain ⟨_, _, hread, h⟩ := bind_eq_ok.mp h
  cases hread
  obtain ⟨-, h⟩ | ⟨-, h⟩ := ite_eq_ok.mp h
  · obtain ⟨_, _, hmark, h⟩ := bind_eq_ok.mp h
    cases hmark
    obtain ⟨_, _, hpeek, h⟩ := bind_eq_ok.mp h
    cases hpeek
    obtain ⟨-, h⟩ | ⟨-, h⟩ := ite_eq_ok.mp h
    · exact ensures_awaitStatement depth lo _ _ n t h
    · exact statesOperation_unlessAsync (by exact hat) h
  · obtain ⟨_, _, hpeek, h⟩ := bind_eq_ok.mp h
    cases hpeek
    obtain ⟨-, h⟩ | ⟨-, h⟩ := ite_eq_ok.mp h
    · exact ensures_awaitStatement depth lo _ _ n t h
    · exact statesOperation_unlessAsync hat h

/-- An item that starts with the word `await`. -/
theorem statesOperation_moduleItem {depth : Nat} {ctx : Context} {s t : State} {n : Node}
    (hat : s.current.token.isWord "await" = true)
    (h : (grammar (depth + 1)).moduleItem ctx s = .ok n t) : StatesOperation n := by
  obtain ⟨name, hword⟩ := Token.eq_word_of_isWord hat
  rw [show (grammar (depth + 1)).moduleItem ctx s = moduleItemRule (grammar depth) ctx s from rfl,
    moduleItemRule, inContext_eq] at h
  obtain ⟨lo, _, hlo, h⟩ := bind_eq_ok.mp h
  cases hlo
  rw [bind_of_ok (isPunct_eq "@" _ s), hword, if_neg (by simp [Token.isPunct])] at h
  obtain ⟨ds, _, hds, h⟩ := bind_eq_ok.mp h
  cases hds
  dsimp only at h
  rw [bind_of_ok (isWord_eq "import" _ s), hword, if_neg (by simp [Token.isWord]),
    bind_of_ok (isWord_eq "export" _ s), hword, if_neg (by simp [Token.isWord])] at h
  exact statesOperation_plainStatement hat h

end Grammar

end AwaitCalls.Syntax
