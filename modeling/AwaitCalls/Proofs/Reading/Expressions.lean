import AwaitCalls.Proofs.Reading.Steps
import AwaitCalls.Syntax.Parser

/-!
# Decorators and operands

A decorator that starts with parentheses is what they hold, or one call of it. What starts with the word
`await` is an `await`, or that word as a name, and an expression that starts so is this operand, or what
the operators after it make of it.
-/
namespace AwaitCalls.Syntax

open AwaitCalls.Text

/-- Kinds of an operand that starts with the word `await`, and of what operators make of one. -/
def Kind.isOperation : Kind → Bool
  | .ident w => w = "await"
  | .await | .invalid | .binary _ | .asExpr | .satisfies | .constAssertion | .cond | .assign _
  | .seq => true
  | _ => false

namespace Grammar

open Parse

/-! ## Decorators -/

/-- What is read in the parentheses that a decorator starts with. -/
def decoratorOpening (g : Grammar) : Parse Node := do
  bump
  if ← isPunct "(" then
    bump
    g.expr
  else unexpected "("

theorem decoratorOpening_eq_ok {g : Grammar} {ctx : Context} {s u : State} {e : Node}
    (h : decoratorOpening g ctx s = .ok e u) :
    ∃ s₁ s₂, bump ctx s = .ok () s₁ ∧ s₁.current.token.isPunct "(" = true ∧
      bump ctx s₁ = .ok () s₂ ∧ g.expr ctx s₂ = .ok e u := by
  obtain ⟨⟨⟩, s₁, hfirst, h⟩ := bind_eq_ok.mp h
  rw [bind_of_ok (isPunct_eq ..)] at h
  obtain ⟨hparen, h⟩ | ⟨-, h⟩ := ite_eq_ok.mp h
  · obtain ⟨⟨⟩, s₂, hsecond, hexpr⟩ := bind_eq_ok.mp h
    exact ⟨s₁, s₂, hfirst, hparen, hsecond, hexpr⟩
  · exact absurd h (unexpected_ne_ok _ ctx s₁ u e)

/-- A decorator whose expression is `e` or one call of it. -/
inductive DecoratesBy (e : Node) : Node → Prop
  | itself (span : Span) : DecoratesBy e (Node.of .decorator span [(.decoratorExpr, e)])
  | call (span callSpan : Span) (args : List (Slot × Node)) : DecoratesBy e
      (Node.of .decorator span [(.decoratorExpr, Node.of .call callSpan ((.callee, e) :: args))])

/-- A decorator whose text goes on with parentheses is what they hold, or one call of it. -/
theorem decorator_eq_ok {g : Grammar} {ctx : Context} {s t : State} {d : Node}
    (h : decorator g ctx s = .ok d t) : ∃ s₁, bump ctx s = .ok () s₁ ∧
      (s₁.current.token.isPunct "(" = true → ∃ s₂ u e, bump ctx s₁ = .ok () s₂ ∧
        g.expr ctx s₂ = .ok e u ∧ DecoratesBy e d) := by
  unfold decorator at h
  obtain ⟨lo, _, hlo, h⟩ := bind_eq_ok.mp h
  cases hlo
  obtain ⟨⟨⟩, s₁, hexpect, h⟩ := bind_eq_ok.mp h
  refine ⟨s₁, bump_of_expect hexpect, fun hparen => ?_⟩
  obtain ⟨b, s₂, heat, h⟩ := bind_eq_ok.mp h
  obtain ⟨-, rfl, hbump⟩ | ⟨hnot, -⟩ := eat_eq_ok.mp heat
  · rw [if_pos rfl] at h
    obtain ⟨e, u, hexpr, h⟩ := bind_eq_ok.mp h
    refine ⟨s₂, u, e, hbump, hexpr, ?_⟩
    obtain ⟨⟨⟩, v, -, h⟩ := bind_eq_ok.mp h
    rw [pure_bind] at h
    -- from here on only type arguments and arguments are read, and it does not matter where
    refine ensures_bind (fun isTyped => ensures_bind fun isLess => ensures_ite_bind fun typeArgs =>
      ensures_bind fun isCall => ensures_ite ?_ ?_) ctx v d t h
    · refine ensures_bind fun args => ensures_bind fun callSpan => ?_
      rw [pure_bind]
      exact ensures_bind fun span => ensures_pure (.call span callSpan _)
    · rw [pure_bind]
      exact ensures_bind fun span => ensures_pure (.itself span)
  · rw [hparen] at hnot
    cases hnot

theorem decoratesBy_decorator {g : Grammar} {ctx : Context} {s t u : State} {e d : Node}
    (hopen : decoratorOpening g ctx s = .ok e u) (h : decorator g ctx s = .ok d t) :
    DecoratesBy e d := by
  obtain ⟨s₁, s₂, hat, hparen, hbump, hexpr⟩ := decoratorOpening_eq_ok hopen
  obtain ⟨s₁', hat', hrest⟩ := decorator_eq_ok h
  cases hat.symm.trans hat'
  obtain ⟨s₂', u', e', hbump', hexpr', hby⟩ := hrest hparen
  cases hbump.symm.trans hbump'
  cases hexpr.symm.trans hexpr'
  exact hby

/-- Of the decorators at the cursor the first is read there; where there are none to read, none are. -/
theorem decorators_eq_ok {g : Grammar} {allowExport : Bool} {ctx : Context} {s t : State}
    {ds : List Node} (hat : s.current.token.isPunct "@" = true)
    (h : decorators g allowExport ctx s = .ok ds t) :
    ds = [] ∨ ∃ d u, ds.head? = some d ∧ decorator g ctx s = .ok d u := by
  obtain ⟨_, _, hread, h⟩ := bind_eq_ok.mp h
  cases hread
  obtain ⟨-, h⟩ | ⟨-, h⟩ := ite_eq_ok.mp h
  · obtain ⟨rfl, -⟩ := pure_eq_ok.mp h
    exact .inl rfl
  · obtain ⟨_, _, hlo, h⟩ := bind_eq_ok.mp h
    cases hlo
    obtain ⟨found, u, hfound, h⟩ := bind_eq_ok.mp h
    have hkeep : Ensures (pure found) (found = ·) := ensures_pure rfl
    obtain rfl : found = ds :=
      ensures_bind (fun _ => ensures_bind fun _ => ensures_ite (ensures_when fun _ =>
        ensures_bind fun _ => ensures_when fun _ => hkeep) hkeep) ctx u ds t h
    obtain ⟨_, _, hget, hfound⟩ := bind_eq_ok.mp hfound
    cases hget
    rw [collectFrom] at hfound
    obtain ⟨next, v, hnext, hfound⟩ := bind_eq_ok.mp hfound
    rw [bind_of_ok (isPunct_eq "@" ctx s), hat, if_pos rfl] at hnext
    obtain ⟨d, w, hd, hnext⟩ := bind_eq_ok.mp hnext
    obtain ⟨rfl, rfl⟩ := pure_eq_ok.mp hnext
    obtain ⟨rest, rfl⟩ := ensures_collectFrom _ _ [d] ctx w found u hfound
    exact .inr ⟨d, w, rfl, hd⟩

/-! ## The word `await` -/

/-- An `await`, or that word as a name. -/
def IsAwaitOrName (n : Node) : Prop := n.kind = .await ∨ n.kind = .ident "await"

theorem ensures_awaitExpr (g : Grammar) (lo : Nat) : Ensures (awaitExpr g lo) IsAwaitOrName := by
  unfold awaitExpr
  refine ensures_bind fun isStar => ensures_when fun _ => ensures_bind fun ctx =>
    ensures_bind fun span => ensures_ite ?_ ?_
  · refine ensures_bind fun _ => ensures_bind fun _ => ensures_bind fun _ => ensures_bind fun _ =>
      ensures_ite ?_ ?_
    · exact ensures_when fun _ => ensures_pure (.inr rfl)
    · exact ensures_when fun _ => ensures_when fun _ => ensures_when fun _ =>
        ensures_bind fun operand => ensures_bind fun _ => ensures_pure (.inl rfl)
  · exact ensures_when fun _ => ensures_when fun _ => ensures_when fun _ =>
      ensures_bind fun operand => ensures_bind fun _ => ensures_pure (.inl rfl)

/-- No operator stands at the word `await`. -/
theorem no_operator_at_await (ctx : Context) {s : State}
    (hat : s.current.token.isWord "await" = true) :
    isPunct "<" ctx s = .ok false s ∧ updateOp? ctx s = .ok none s ∧
      unaryOp? ctx s = .ok none s := by
  obtain ⟨name, hword⟩ := Token.eq_word_of_isWord hat
  refine ⟨?_, ?_, ?_⟩
  · rw [isPunct_eq, hword]
    rfl
  · rw [updateOp?, bind_of_ok (token_eq ctx s), hword]
    rfl
  · rw [unaryOp?, bind_of_ok (token_eq ctx s), hword]
    rfl

/-- What starts with the word `await` is never read as an increment or a decrement. -/
theorem isAwaitOrName_unaryRule {g : Grammar} {ctx : Context} {s t : State} {n : Node}
    (hat : s.current.token.isWord "await" = true) (h : unaryRule g ctx s = .ok n t) :
    IsAwaitOrName n := by
  obtain ⟨hless, hupdate, hunary⟩ := no_operator_at_await ctx hat
  unfold unaryRule at h
  obtain ⟨lo, u, hlo, h⟩ := bind_eq_ok.mp h
  cases hlo
  obtain ⟨_, u, hread, h⟩ := bind_eq_ok.mp h
  cases hread
  rw [bind_of_ok hless, Bool.and_false, if_neg (by simp), bind_of_ok hupdate] at h
  dsimp only at h
  rw [bind_of_ok hunary] at h
  obtain ⟨b, u, heat, h⟩ := bind_eq_ok.mp h
  obtain ⟨-, rfl, -⟩ | ⟨hnot, -⟩ := eatWord_eq_ok.mp heat
  · rw [if_pos rfl] at h
    exact ensures_awaitExpr g _ ctx u n t h
  · rw [hat] at hnot
    cases hnot

/-! ## Operators after an operand -/

/-- An operand that starts with the word `await`, or what operators make of one. -/
def IsOperation (n : Node) : Prop := n.kind.isOperation = true

theorem ensures_binaryStep? (g : Grammar) (left : Node) (min : Nat) :
    EnsuresFound (binaryStep? g left min) IsOperation := by
  unfold binaryStep?
  refine ensures_bind fun _ => ensures_bind fun _ => ?_
  extract_lets operator
  have hoperator : ∀ u, EnsuresFound (operator u) IsOperation := by
    refine fun _ => ensures_bind fun op? => ?_
    cases op? with
    | none => exact ensures_none
    | some op =>
      refine ensures_ite ensures_none (ensures_bind fun _ => ?_)
      extract_lets operand
      have hoperand : ∀ u, EnsuresFound (operand u) IsOperation := fun _ =>
        ensures_bind fun _ => ensures_bind fun _ => ensures_bind fun _ => ensures_some rfl
      refine ensures_ite ?_ (hoperand ())
      split
      · exact ensures_bind hoperand
      · exact ensures_bind hoperand
      · exact hoperand ()
  refine ensures_ite (ensures_bind fun _ => ensures_ite ?_ ?_) (hoperator ())
  · exact ensures_bind fun _ => ensures_bind fun _ => ensures_ite
      (ensures_bind fun _ => ensures_some rfl)
      (ensures_bind fun _ => ensures_bind fun _ => ensures_some rfl)
  · exact ensures_bind fun _ => ensures_ite
      (ensures_bind fun _ => ensures_bind fun _ => ensures_bind fun _ => ensures_some rfl)
      (hoperator ())

theorem ensures_binaryRest (depth : Nat) {left : Node} (hleft : IsOperation left) (min : Nat) :
    Ensures ((grammar depth).binaryRest left min) IsOperation := by
  cases depth with
  | zero => exact ensures_fail _
  | succ depth => exact ensures_loop hleft fun e _ => ensures_binaryStep? (grammar depth) e min

/-! ## Expressions that start with the word `await` -/

variable {depth : Nat} {ctx : Context} {s t : State} {n : Node}

theorem isAwaitOrName_unary (hat : s.current.token.isWord "await" = true)
    (h : (grammar depth).unary ctx s = .ok n t) : IsAwaitOrName n := by
  cases depth with
  | zero => exact absurd h (fail_ne_ok _ ctx s t n)
  | succ depth => exact isAwaitOrName_unaryRule hat h

theorem IsAwaitOrName.isOperation (h : IsAwaitOrName n) : IsOperation n := by
  rw [IsOperation]
  obtain h | h := h <;> rw [h] <;> rfl

theorem isOperation_binaryExpr (hat : s.current.token.isWord "await" = true)
    (h : binaryExpr (grammar depth) ctx s = .ok n t) : IsOperation n := by
  have hafter : ∀ first, IsOperation first → Ensures (do
      if ← isArrowHere first then return first
      (grammar depth).binaryRest first 0) IsOperation := by
    intro first hfirst
    exact ensures_bind fun _ => ensures_ite (ensures_pure hfirst) (ensures_binaryRest depth hfirst 0)
  obtain ⟨read, u, hcaught, h⟩ := bind_eq_ok.mp h
  cases read with
  | ok e =>
    have hread := isAwaitOrName_unary hat (of_caught hcaught)
    exact hafter e hread.isOperation ctx u n t h
  | error e =>
    -- the operand that could not be read is skipped
    refine ensures_bind (fun _ => ?_) ctx u n t h
    extract_lets skip
    have hskip : ∀ v, Ensures (skip v) IsOperation := by
      refine fun _ => ensures_bind fun op? => ?_
      cases op? with
      | none => exact ensures_bind_of (ensures_throw e) hafter
      | some op => exact ensures_bind fun _ => hafter (invalidNode ⟨e.pos, e.pos⟩) rfl
    split
    · exact ensures_ite (ensures_bind hskip) (hskip ())
    · exact hskip ()

theorem isOperation_conditional (hat : s.current.token.isWord "await" = true)
    (h : conditional (grammar depth) ctx s = .ok n t) : IsOperation n := by
  obtain ⟨lo, _, hlo, h⟩ := bind_eq_ok.mp h
  cases hlo
  obtain ⟨test, u, htest, h⟩ := bind_eq_ok.mp h
  have hoperation := isOperation_binaryExpr hat htest
  refine ensures_bind (fun _ => ensures_ite (ensures_pure hoperation) (ensures_bind fun _ =>
    ensures_ite ?_ (ensures_pure hoperation))) ctx u n t h
  exact ensures_bind fun _ => ensures_bind fun _ => ensures_bind fun _ => ensures_pure rfl

theorem ensures_finishAssign (g : Grammar) (lo : Nat) {e : Node} (he : IsOperation e) :
    Ensures (finishAssign g lo e) IsOperation := by
  refine ensures_bind fun _ => ?_
  split
  · split
    · exact ensures_pure he
    · extract_lets finish
      have hfinish : ∀ left, Ensures (finish left) IsOperation := fun _ =>
        ensures_bind fun _ => ensures_bind fun _ => ensures_bind fun _ => ensures_pure rfl
      refine ensures_ite (ensures_bind fun _ => ensures_when fun _ => ensures_bind hfinish)
        (ensures_bind fun _ => ensures_ite ?_ ?_)
      · exact ensures_bind fun _ => ensures_bind fun _ => ensures_bind fun _ =>
          ensures_when fun _ => ensures_when fun _ => ensures_bind hfinish
      · exact ensures_bind fun _ => ensures_when fun _ => ensures_when fun _ => ensures_bind hfinish
  · exact ensures_pure he

theorem isOperation_assignBase (hat : s.current.token.isWord "await" = true)
    (h : assignBase (grammar depth) ctx s = .ok n t) : IsOperation n := by
  obtain ⟨name, hword⟩ := Token.eq_word_of_isWord hat
  have hyield : isWord "yield" ctx s = .ok false s := by rw [isWord_eq, hword]; rfl
  unfold assignBase at h
  obtain ⟨_, _, hread, h⟩ := bind_eq_ok.mp h
  cases hread
  rw [bind_of_ok hyield, Bool.and_false, if_neg (by simp)] at h
  obtain ⟨lo, _, hlo, h⟩ := bind_eq_ok.mp h
  cases hlo
  rw [bind_of_ok (token_eq ctx s), hword] at h
  obtain ⟨start, _, hstart, h⟩ := bind_eq_ok.mp h
  cases hstart
  obtain ⟨_, _, hset, h⟩ := bind_eq_ok.mp h
  cases hset
  obtain ⟨e, v, he, h⟩ := bind_eq_ok.mp h
  have hoperation := isOperation_conditional (by exact hat) he
  refine ensures_bind (fun _ => ensures_ite (ensures_pure hoperation) ?_) ctx v n t h
  split
  · exact ensures_pure hoperation
  · exact ensures_pure hoperation
  · exact ensures_pure hoperation
  · exact ensures_pure hoperation
  · exact ensures_finishAssign _ _ hoperation

theorem isOperation_assign (hat : s.current.token.isWord "await" = true)
    (h : (grammar depth).assign ctx s = .ok n t) : IsOperation n := by
  cases depth with
  | zero => exact absurd h (fail_ne_ok _ ctx s t n)
  | succ depth =>
    obtain ⟨hless, -, -⟩ := no_operator_at_await ctx hat
    obtain ⟨_, _, hread, h⟩ := bind_eq_ok.mp h
    cases hread
    rw [bind_of_ok hless] at h
    obtain ⟨next, _, hpeek, h⟩ := bind_eq_ok.mp h
    cases hpeek
    rw [Bool.and_false, Bool.false_and, if_neg (by simp)] at h
    exact isOperation_assignBase hat h

theorem isOperation_expr (hat : s.current.token.isWord "await" = true)
    (h : (grammar depth).expr ctx s = .ok n t) : IsOperation n := by
  cases depth with
  | zero => exact absurd h (fail_ne_ok _ ctx s t n)
  | succ depth =>
    obtain ⟨first, u, hfirst, h⟩ := bind_eq_ok.mp h
    have hoperation := isOperation_assign hat hfirst
    refine ensures_bind (fun _ => ensures_ite ?_ (ensures_pure hoperation)) ctx u n t h
    exact ensures_bind fun _ => ensures_bind fun _ => ensures_pure rfl

end Grammar

end AwaitCalls.Syntax
