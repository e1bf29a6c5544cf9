import AwaitCalls.Proofs.Stages
import AwaitCalls.Syntax.Parser
import AwaitCalls.Print.Program

/-!
# Trees up to spans and parentheses

Two programs agree up to spans and parentheses if they have the same core. A program is read back if its
text is accepted and read as a program with the same core. Awaits may be put in before or after the core
is taken, so that for a program with its calls awaited this is to read the program as it was, with one
await around each call that was found.
-/
namespace AwaitCalls

open AwaitCalls.Syntax AwaitCalls.Text

/-! ## Cores -/

/-- A node without a span, or what it holds if it is parentheses. -/
def coreNode : Kind → Children → Node
  | .paren, .cons _ n .nil => n
  | kind, parts => .mk kind ⟨0, 0⟩ parts

mutual

/-- A tree without spans and without parentheses. -/
def core : Node → Node
  | .mk kind _ parts => coreNode kind (coreAll parts)

def coreAll : Children → Children
  | .nil => .nil
  | .cons slot n rest => .cons slot (core n) (coreAll rest)

end

theorem coreNode_cases (kind : Kind) (parts : Children) :
    (kind = .paren ∧ ∃ slot n, parts = .cons slot n .nil ∧ coreNode kind parts = n) ∨
      coreNode kind parts = .mk kind ⟨0, 0⟩ parts := by
  unfold coreNode
  split
  · exact .inl ⟨rfl, _, _, rfl, rfl⟩
  · exact .inr rfl

theorem coreNode_of_ne_paren {kind : Kind} (h : kind ≠ .paren) (parts : Children) :
    coreNode kind parts = .mk kind ⟨0, 0⟩ parts := by
  obtain ⟨rfl, -⟩ | hkeep := coreNode_cases kind parts
  · exact absurd rfl h
  · exact hkeep

theorem core_of_ne_paren {kind : Kind} (h : kind ≠ .paren) (span : Span) (parts : Children) :
    core (.mk kind span parts) = .mk kind ⟨0, 0⟩ (coreAll parts) := by
  rw [core, coreNode_of_ne_paren h]

theorem core_eq_of_kind_ne_paren {n : Node} (h : n.kind ≠ .paren) :
    core n = .mk n.kind ⟨0, 0⟩ (coreAll n.children) := by
  cases n
  exact core_of_ne_paren h _ _

theorem find?_coreAll (slot : Slot) (parts : Children) :
    (coreAll parts).find? slot = (parts.find? slot).map core := by
  induction parts with
  | nil => rfl
  | cons slot' n rest ih =>
    rw [coreAll, Children.find?, Children.find?]
    split
    · rfl
    · exact ih

/-- Nodes that agree and are no parentheses are of one kind and agree part by part. -/
theorem kind_and_child?_of_core_eq {m n : Node} (h : core m = core n) (hm : m.kind ≠ .paren)
    (hn : n.kind ≠ .paren) :
    m.kind = n.kind ∧ ∀ slot, (m.child? slot).map core = (n.child? slot).map core := by
  rw [core_eq_of_kind_ne_paren hm, core_eq_of_kind_ne_paren hn, Node.mk.injEq] at h
  refine ⟨h.1, fun slot => ?_⟩
  rw [Node.child?, Node.child?, ← find?_coreAll, ← find?_coreAll, h.2.2]

mutual

theorem span_core : ∀ n : Node, (core n).span = ⟨0, 0⟩
  | .mk kind span parts => by
    rw [core]
    obtain ⟨-, slot, n, hparts, heq⟩ | hkeep := coreNode_cases kind (coreAll parts)
    · rw [heq]
      exact span_coreAll parts hparts
    · rw [hkeep]
      rfl

theorem span_coreAll : ∀ (parts : Children) {slot : Slot} {n : Node} {rest : Children},
    coreAll parts = .cons slot n rest → n.span = ⟨0, 0⟩
  | .nil, _, _, _, h => by simp [coreAll] at h
  | .cons slot m rest, _, n, _, h => by
    rw [coreAll, Children.cons.injEq] at h
    rw [← h.2.1]
    exact span_core m

end

theorem callCount_coreNode (kind : Kind) (parts : Children) :
    (coreNode kind parts).callCount = kind.calls + parts.callCount := by
  obtain ⟨rfl, slot, n, rfl, heq⟩ | hkeep := coreNode_cases kind parts
  · rw [heq, Children.callCount, Children.callCount]
    simp [Kind.calls]
  · rw [hkeep, Node.callCount]

mutual

theorem callCount_core : ∀ n : Node, (core n).callCount = n.callCount
  | .mk kind span parts => by rw [core, callCount_coreNode, callCount_coreAll, Node.callCount]

theorem callCount_coreAll : ∀ parts : Children, (coreAll parts).callCount = parts.callCount
  | .nil => rfl
  | .cons _ n rest => by
    rw [coreAll, Children.callCount, callCount_core, callCount_coreAll, Children.callCount]

end

theorem core_parenthesized (n : Node) : core (parenthesized n) = core n := by
  unfold parenthesized
  split
  · rw [Node.of, Children.ofList, Children.ofList, core, coreAll, coreAll, coreNode]
  · rfl

theorem core_parenthesizedIn (place : Place) (n : Node) : core (parenthesizedIn place n) = core n := by
  unfold parenthesizedIn
  split
  · exact core_parenthesized n
  · rfl

mutual

theorem core_parenthesizeNode : ∀ n : Node, core (parenthesizeNode n) = core n
  | .mk kind span parts => by rw [parenthesizeNode, core, coreAll_parenthesizeChildren, core]

theorem coreAll_parenthesizeChildren (parent : Option Kind) : ∀ parts : Children,
    coreAll (parenthesizeChildren parent parts) = coreAll parts
  | .nil => rfl
  | .cons slot n rest => by
    rw [parenthesizeChildren_cons, coreAll, core_parenthesizedIn, core_parenthesizeNode,
      coreAll_parenthesizeChildren, coreAll]

end

theorem core_awaitedTimes (m : Nat) (n : Node) :
    core (awaitedTimes m n) = awaitedTimes m (core n) := by
  induction m with
  | zero => rfl
  | succ m ih =>
    have hspan : (awaitedTimes m (core n)).span = ⟨0, 0⟩ := by rw [span_awaitedTimes, span_core]
    rw [awaitedTimes, awaited, Node.of, Children.ofList, Children.ofList, core_of_ne_paren (by simp),
      coreAll, coreAll, ih, awaitedTimes, awaited, hspan]
    rfl

/-- Parentheses hand an await on to what they hold. -/
theorem withAwaits_coreNode (times : Nat → Nat) (next : Nat) {kind : Kind} (h : kind ≠ .call)
    (parts : Children) : withAwaits times next (coreNode kind parts) =
      coreNode kind (withAwaitsAll times next parts) := by
  obtain ⟨rfl, slot, n, rfl, heq⟩ | hkeep := coreNode_cases kind parts
  · rw [heq, withAwaitsAll, withAwaitsAll, coreNode]
  · obtain ⟨rfl, slot, n, hparts, -⟩ | hkeep' := coreNode_cases kind (withAwaitsAll times next parts)
    · cases parts with
      | nil => simp [withAwaitsAll] at hparts
      | cons slot' n' rest =>
        cases rest with
        | nil => rw [coreNode, withAwaitsAll, withAwaitsAll, coreNode]
        | cons slot₂ n₂ rest => simp [withAwaitsAll] at hparts
    · rw [hkeep, hkeep', withAwaits_of_ne_call h]

mutual

/-- Awaits may be put in before or after spans and parentheses are taken away. -/
theorem core_withAwaits (times : Nat → Nat) : ∀ (next : Nat) (n : Node),
    core (withAwaits times next n) = withAwaits times next (core n)
  | next, .mk kind span parts => by
    by_cases hk : kind = .call
    · subst hk
      rw [withAwaits, core_awaitedTimes, core_of_ne_paren (by simp), coreAll_withAwaitsAll,
        core_of_ne_paren (by simp), withAwaits]
    · rw [withAwaits_of_ne_call hk, core, coreAll_withAwaitsAll, core, withAwaits_coreNode times next hk]

theorem coreAll_withAwaitsAll (times : Nat → Nat) : ∀ (next : Nat) (parts : Children),
    coreAll (withAwaitsAll times next parts) = withAwaitsAll times next (coreAll parts)
  | _, .nil => rfl
  | next, .cons slot n rest => by
    rw [withAwaitsAll, coreAll, core_withAwaits, coreAll_withAwaitsAll, coreAll, withAwaitsAll,
      callCount_core]

end

theorem coreAll_awaitNumbered (p : Program) (targets : List Nat) :
    coreAll (awaitNumbered p targets).1.body = withAwaitsAll (hits targets) 0 (coreAll p.body) := by
  rw [← coreAll_withAwaitsAll, awaitNumbered_eq]
  dsimp only
  split
  · rename_i hnone
    rw [withAwaitsAll_of_hitNumbers_eq_empty hnone]
  · rw [coreAll_parenthesizeChildren]

/-! ## When the text is read back -/

/-- Programs that agree up to spans and parentheses. -/
structure SameUpToParens (p q : Program) : Prop where
  isModule : p.isModule = q.isModule
  interpreter : p.interpreter = q.interpreter
  body : coreAll p.body = coreAll q.body

/-- The text that is printed for a program, without comments, is accepted and read as that program, up
to spans and parentheses. -/
def ReadsBack (dialect : Dialect) (p : Program) : Prop :=
  ∃ reread, parseProgram (Print.program p none false) dialect = .ok reread ∧
    SameUpToParens reread.program p

/-- The program `q` is, up to spans and parentheses, `p` with one await around each call whose number is
listed. -/
structure IsAwaiting (p : Program) (numbers : List Nat) (q : Program) : Prop where
  isModule : q.isModule = p.isModule
  interpreter : q.interpreter = p.interpreter
  body : coreAll q.body = withAwaitsAll (hits numbers) 0 (coreAll p.body)

theorem isModule_awaitMatching (p : Program) (patterns : PatternSet) :
    (awaitMatching p patterns).isModule = p.isModule := by
  rw [awaitMatching, awaitSites, awaitNumbered_eq]

theorem interpreter_awaitMatching (p : Program) (patterns : PatternSet) :
    (awaitMatching p patterns).interpreter = p.interpreter := by
  rw [awaitMatching, awaitSites, awaitNumbered_eq]

theorem sameUpToParens_awaitMatching_iff (p q : Program) (patterns : PatternSet) :
    SameUpToParens q (awaitMatching p patterns) ↔
      IsAwaiting p ((scan p patterns).map CallSite.ordinal) q := by
  have hmodule := isModule_awaitMatching p patterns
  have hinterpreter := interpreter_awaitMatching p patterns
  have hbody : coreAll (awaitMatching p patterns).body =
      withAwaitsAll (hits ((scan p patterns).map CallSite.ordinal)) 0 (coreAll p.body) :=
    coreAll_awaitNumbered p _
  constructor
  · intro h
    exact ⟨h.isModule.trans hmodule, h.interpreter.trans hinterpreter, h.body.trans hbody⟩
  · intro h
    exact ⟨h.isModule.trans hmodule.symm, h.interpreter.trans hinterpreter.symm,
      h.body.trans hbody.symm⟩

theorem readsBack_awaitMatching_iff (dialect : Dialect) (p : Program) (patterns : PatternSet) :
    ReadsBack dialect (awaitMatching p patterns) ↔ ∃ reread : Parsed,
      parseProgram (Print.program (awaitMatching p patterns) none false) dialect = .ok reread ∧
      IsAwaiting p ((scan p patterns).map CallSite.ordinal) reread.program := by
  unfold ReadsBack
  simp only [sameUpToParens_awaitMatching_iff]

-- what is read back can be computed, so that it can be tried on a text
deriving instance DecidableEq for Node, Children

instance (p q : Program) : Decidable (SameUpToParens p q) :=
  decidable_of_iff
    (p.isModule = q.isModule ∧ p.interpreter = q.interpreter ∧ coreAll p.body = coreAll q.body)
    ⟨fun ⟨h₁, h₂, h₃⟩ => ⟨h₁, h₂, h₃⟩, fun ⟨h₁, h₂, h₃⟩ => ⟨h₁, h₂, h₃⟩⟩

instance decidableExistsOk {ε α : Type} (x : Except ε α) (required : α → Prop)
    [DecidablePred required] : Decidable (∃ a, x = .ok a ∧ required a) :=
  match x with
  | .ok a => decidable_of_iff (required a) (by simp)
  | .error _ => isFalse (by simp)

instance (dialect : Dialect) (p : Program) : Decidable (ReadsBack dialect p) :=
  inferInstanceAs (Decidable (∃ _ : Parsed, _ ∧ _))

end AwaitCalls
