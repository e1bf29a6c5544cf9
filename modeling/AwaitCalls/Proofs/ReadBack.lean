import AwaitCalls.Proofs.ReadBack.AwaitedOpenings

/-!
# Reading back what was printed

The text of a program with its calls awaited should be read as that program again, up to spans and
parentheses. It is exactly if the text is accepted and what is read is the program as it was, with one
await around each call that was found. Two rules of the grammar decide where this fails: an awaited call
that heads a longer chain in a decorator is never read back, nor is one that is incremented. For whole
programs this is settled where they open with the decorator or the increment; nothing is said about how
the other rules read.
-/
namespace AwaitCalls

open AwaitCalls.Syntax AwaitCalls.Text

/-! ## Where `await` is legal -/

/-- May `await` stand in a part of a node, given whether it may where the node stands? -/
def Syntax.Kind.allowsAwait (kind : Kind) (allowed : Bool) (slot : Slot) : Bool :=
  match kind, slot with
  | .function isAsync _, .body | .arrow isAsync, .body => isAsync
  | .function _ _, .param | .arrow _, .param | .ctor _, .param | .setter, .param
  | .setter, .thisParam => false
  | .ctor _, .body | .getter, .body | .setter, .body | .staticBlock, .body
  | .moduleBlock, .body => false
  | .property _, .value | .autoAccessor _, .value | .enumMember, .init => false
  | _, _ => allowed

/-- May `await` stand at a position, given whether it may at the root? -/
def awaitLegalFrom (allowed : Bool) : Node → Position → Bool
  | _, [] => allowed
  | .mk kind _ parts, i :: π =>
    match parts.toList[i]? with
    | some (slot, n) => awaitLegalFrom (kind.allowsAwait allowed slot) n π
    | none => false

/-- The call with a number stands where `await` is legal: at the top level of a module, or in the body
of an asynchronous function with nothing in between that forbids it. -/
def AwaitLegalAt (p : Program) (number : Nat) : Prop :=
  ∃ π, p.body.callPositions[number]? = some π ∧
    awaitLegalFrom p.isModule (.mk .block p.span p.body) π = true

instance (p : Program) (number : Nat) : Decidable (AwaitLegalAt p number) :=
  decidable_of_iff ((p.body.callPositions[number]?).any fun π =>
    awaitLegalFrom p.isModule (.mk .block p.span p.body) π) (by simp [AwaitLegalAt, Option.any_eq_true])

/-! ## Awaits read back -/

/-- The text of a program with its calls awaited is read as that program, up to spans and parentheses,
exactly if it is accepted and what is read has one await around each call that was found and is
otherwise the program. It is not if the program opens with a decorator in which a call of the set heads a
chain that goes on by anything but one call, and not if it opens with the increment or decrement of such
a call. For in any text a decorator that starts with an `await` in parentheses is never read as a chain
that goes on after it, except by one call, and what starts with the word `await` is never read as an
increment or a decrement. -/
theorem awaits_read_back_iff (dialect : Dialect) (p : Program) (patterns : PatternSet) :
    (ReadsBack dialect (awaitMatching p patterns) ↔ ∃ reread : Parsed,
      parseProgram (Print.program (awaitMatching p patterns) none false) dialect = .ok reread ∧
      IsAwaiting p ((scan p patterns).map CallSite.ordinal) reread.program) ∧
    (p.interpreter = none → ∀ (c x : Node) (span : Span),
      p.openingDecorator? = some (Node.of .decorator span [(.decoratorExpr, x)]) →
      HeadedBy c x → patterns.Picks c → ReadsBack dialect (awaitMatching p patterns) →
        x = c ∨ ∃ callSpan slot args, x = .mk .call callSpan (.cons slot c args)) ∧
    (p.interpreter = none → ∀ (c : Node) (op : UpdateOp) (span : Span),
      p.openingExpression? = some (Node.of (.update op false) span [(.operand, c)]) →
      patterns.Picks c → ¬ ReadsBack dialect (awaitMatching p patterns)) ∧
    (∀ (g : Grammar) (ctx : Context) (s t u : State) (e d head x : Node) (span : Span),
      Grammar.decoratorOpening g ctx s = .ok e u → Grammar.decorator g ctx s = .ok d t →
      (core e).kind = .await → ChainFrom head x → (core head).kind = .await →
      core d = core (Node.of .decorator span [(.decoratorExpr, x)]) →
        x = head ∨ ∃ callSpan slot args, x = .mk .call callSpan (.cons slot head args)) ∧
    ∀ (g : Grammar) (ctx : Context) (s t : State) (n : Node),
      s.current.token.isWord "await" = true → Grammar.unaryRule g ctx s = .ok n t →
        n.kind = .await ∨ n.kind = .ident "await" := by
  refine ⟨readsBack_awaitMatching_iff dialect p patterns, ?_, ?_, ?_, ?_⟩
  · intro hinterpreter c x span hopen hx hc hread
    exact hread.openingDecorator_of_picks hinterpreter hopen hx hc
  · intro hinterpreter c op span hopen hc
    exact not_readsBack_of_openingUpdate_of_picks hinterpreter hopen hc
  · intro g ctx s t u e d head x span hopen hread hawait hchain hhead hsame
    exact eq_head_or_call_of_decorator hopen hread hawait hchain hhead hsame
  · intro g ctx s t n hat hread
    exact Grammar.isAwaitOrName_unaryRule hat hread

/-- Reading at the start of a text, inside an asynchronous function. -/
def readFromStart {α : Type} (rule : Parse α) (dialect : Dialect) (text : String) :
    EStateM.Result SyntaxError State α :=
  let source := Source.ofString text
  rule { dialect, inFunction := true, inAsync := true }
    { source, current := source.lexAt 0 true }

instance decidableExistsRead {α : Type} (r : EStateM.Result SyntaxError State α) (required : α → Prop)
    [DecidablePred required] : Decidable (∃ a t, r = .ok a t ∧ required a) :=
  match r with
  | .ok a _ => decidable_of_iff (required a) (by simp)
  | .error _ _ => isFalse (by simp)

/-- An awaited decorator is read back as the program with its one call awaited; one with a property of
the awaited call is not, nor is an awaited call that is incremented. A decorator that calls an `await` in
parentheses is read, and so is an `await` of what is incremented. -/
theorem awaits_read_back_iff_decorator :
    (∃ parsed reread : Parsed,
      parseProgram "async function a() \x7b @f() class A \x7b\x7d \x7d" { decorators := true } =
        .ok parsed ∧
      parseProgram "async function a() \x7b\n    @(await f())\n    class A \x7b\n    \x7d\n\x7d\n"
        { decorators := true } = .ok reread ∧
      IsAwaiting parsed.program [0] reread.program) ∧
    (∃ parsed : Parsed,
      parseProgram "@f().g class A \x7b\x7d" { decorators := true } = .ok parsed ∧
      Print.program (awaitMatching parsed.program (.ofList ["f"])) none false =
        "@(await f()).g\nclass A \x7b\n\x7d\n" ∧
      ¬ ReadsBack { decorators := true } (awaitMatching parsed.program (.ofList ["f"]))) ∧
    (∃ parsed : Parsed, parseProgram "f()++" { typescript := true } = .ok parsed ∧
      Print.program (awaitMatching parsed.program (.ofList ["f"])) none false = "await f()++;\n" ∧
      ¬ ReadsBack { typescript := true } (awaitMatching parsed.program (.ofList ["f"]))) ∧
    (∃ e d u t, readFromStart (Grammar.decoratorOpening (grammar 32)) {} "@(await f())(1)" = .ok e u ∧
      readFromStart (Grammar.decorator (grammar 32)) {} "@(await f())(1)" = .ok d t ∧
      (core e).kind = .await ∧
      ∀ head x span, ChainFrom head x → (core head).kind = .await →
        core d = core (Node.of .decorator span [(.decoratorExpr, x)]) →
          x = head ∨ ∃ callSpan slot args, x = .mk .call callSpan (.cons slot head args)) ∧
    ∃ n t, readFromStart (Grammar.unaryRule (grammar 32)) { typescript := true } "await f()++" =
        .ok n t ∧ (n.kind = .await ∨ n.kind = .ident "await") := by
  refine ⟨?_, ?_, ?_, ?_, ?_⟩
  · have hread : ∃ parsed : Parsed,
        parseProgram "async function a() \x7b @f() class A \x7b\x7d \x7d" { decorators := true } =
          .ok parsed ∧
        ReadsBack { decorators := true } (awaitMatching parsed.program (.ofList ["f"])) ∧
        Print.program (awaitMatching parsed.program (.ofList ["f"])) none false =
          "async function a() \x7b\n    @(await f())\n    class A \x7b\n    \x7d\n\x7d\n" ∧
        (scan parsed.program (.ofList ["f"])).map CallSite.ordinal = [0] := by
      decide +kernel
    obtain ⟨parsed, hparsed, hback, hprinted, hsites⟩ := hread
    obtain ⟨reread, hreread, hawaiting⟩ :=
      (awaits_read_back_iff { decorators := true } parsed.program (.ofList ["f"])).1.mp hback
    rw [hprinted] at hreread
    rw [hsites] at hawaiting
    exact ⟨parsed, reread, hparsed, hreread, hawaiting⟩
  · let call : Node := .mk .call ⟨1, 4⟩ (.cons .callee (.mk (.ident "f") ⟨1, 2⟩ .nil) .nil)
    let rest : Children := .cons .property (.mk (.name "g") ⟨5, 6⟩ .nil) .nil
    obtain ⟨parsed, hparsed, hinterpreter, hopen, hprinted⟩ : ∃ parsed : Parsed,
        parseProgram "@f().g class A \x7b\x7d" { decorators := true } = .ok parsed ∧
        parsed.program.interpreter = none ∧
        parsed.program.openingDecorator? = some (Node.of .decorator ⟨0, 6⟩
          [(.decoratorExpr, .mk .member ⟨1, 6⟩ (.cons .memberObject call rest))]) ∧
        Print.program (awaitMatching parsed.program (.ofList ["f"])) none false =
          "@(await f()).g\nclass A \x7b\n\x7d\n" := by
      decide +kernel
    refine ⟨parsed, hparsed, hprinted, fun hread => ?_⟩
    obtain hhead | ⟨callSpan, slot, args, hcall⟩ :=
      (awaits_read_back_iff { decorators := true } parsed.program (.ofList ["f"])).2.1 hinterpreter
        call _ _ hopen (.member _ _ .head) ⟨_, _, rfl, by decide +kernel⟩ hread
    · cases hhead
    · cases hcall
  · let call : Node := .mk .call ⟨0, 3⟩ (.cons .callee (.mk (.ident "f") ⟨0, 1⟩ .nil) .nil)
    obtain ⟨parsed, hparsed, hinterpreter, hopen, hprinted⟩ : ∃ parsed : Parsed,
        parseProgram "f()++" { typescript := true } = .ok parsed ∧
        parsed.program.interpreter = none ∧
        parsed.program.openingExpression? =
          some (Node.of (.update .increment false) ⟨0, 5⟩ [(.operand, call)]) ∧
        Print.program (awaitMatching parsed.program (.ofList ["f"])) none false = "await f()++;\n" := by
      decide +kernel
    exact ⟨parsed, hparsed, hprinted,
      (awaits_read_back_iff { typescript := true } parsed.program (.ofList ["f"])).2.2.1 hinterpreter
        call _ _ hopen ⟨_, _, rfl, by decide +kernel⟩⟩
  · obtain ⟨e, u, hopen, hawait⟩ : ∃ e u,
        readFromStart (Grammar.decoratorOpening (grammar 32)) {} "@(await f())(1)" = .ok e u ∧
        (core e).kind = .await := by decide +kernel
    obtain ⟨d, t, hread, -⟩ : ∃ d t,
        readFromStart (Grammar.decorator (grammar 32)) {} "@(await f())(1)" = .ok d t ∧ True := by
      decide +kernel
    exact ⟨e, d, u, t, hopen, hread, hawait, fun head x span hchain hhead hsame =>
      (awaits_read_back_iff {} default (.ofList [])).2.2.2.1 _ _ _ t u e d head x span hopen hread hawait
        hchain hhead hsame⟩
  · obtain ⟨n, t, hread, -⟩ : ∃ n t,
        readFromStart (Grammar.unaryRule (grammar 32)) { typescript := true } "await f()++" = .ok n t ∧
        True := by decide +kernel
    exact ⟨n, t, hread,
      (awaits_read_back_iff {} default (.ofList [])).2.2.2.2 _ _ _ t n (by decide +kernel) hread⟩

/-- A program that is read back, whose only call may be awaited, and that is not read back with it
awaited: the property after the decorator's parentheses is not part of the decorator. -/
theorem awaited_decorator_chain_not_read_back : ∃ parsed : Parsed,
    parseProgram "async function a() \x7b @f().g class A \x7b\x7d \x7d" { decorators := true } =
      .ok parsed ∧
    ReadsBack { decorators := true } parsed.program ∧
    (∀ site ∈ scan parsed.program (.ofList ["f"]), AwaitLegalAt parsed.program site.ordinal) ∧
    Print.program (awaitMatching parsed.program (.ofList ["f"])) none false =
      "async function a() \x7b\n    @(await f()).g\n    class A \x7b\n    \x7d\n\x7d\n" ∧
    ¬ ReadsBack { decorators := true } (awaitMatching parsed.program (.ofList ["f"])) := by
  decide +kernel

-- the same for a call that is incremented, which only the typed dialect accepts
example : ∃ parsed : Parsed,
    parseProgram "async function a() \x7b f()++ \x7d" { typescript := true } = .ok parsed ∧
    ReadsBack { typescript := true } parsed.program ∧
    (∀ site ∈ scan parsed.program (.ofList ["f"]), AwaitLegalAt parsed.program site.ordinal) ∧
    Print.program (awaitMatching parsed.program (.ofList ["f"])) none false =
      "async function a() \x7b\n    await f()++;\n\x7d\n" ∧
    ¬ ReadsBack { typescript := true } (awaitMatching parsed.program (.ofList ["f"])) := by
  decide +kernel

end AwaitCalls
