import AwaitCalls.Proofs.Reading.Tokens
import AwaitCalls.Proofs.Reading.Items

/-!
# What a program starts with

The first item of a program is read at the first token of its text. So a text that opens with an `await`
in the parentheses of a decorator starts with a class decorated by what they hold, or by one call of it,
if it starts with a class at all; and a text that opens with an `await` starts with no increment.
-/
namespace AwaitCalls.Syntax

open AwaitCalls.Text

namespace Grammar

open Parse

/-- The first of the items is read where reading starts. -/
theorem items_eq_ok {item : Parse Node} {allowDirectives : Bool} {ctx : Context} {s t : State}
    {n : Node} {ns : List Node} (h : items item allowDirectives none ctx s = .ok (n :: ns) t) :
    ∃ ctx' u, item ctx' s = .ok n u := by
  obtain ⟨_, _, htoken, h⟩ := bind_eq_ok.mp h
  cases htoken
  obtain ⟨⟨found, isModule⟩, u, hfound, h⟩ := bind_eq_ok.mp h
  have hreverse : found.reverse = n :: ns :=
    ensures_bind (fun _ => ensures_when fun _ => ensures_pure rfl) ctx u (n :: ns) t h
  rw [inContext_eq] at hfound
  obtain hstart | ⟨⟨first, isModule'⟩, v, rounds, hfirst, hrest⟩ := loop_eq_ok hfound
  · obtain ⟨rfl, -⟩ := Prod.mk.inj hstart
    cases hreverse
  · obtain ⟨_, _, heof, hfirst⟩ := bind_eq_ok.mp hfirst
    cases heof
    obtain ⟨-, hfirst⟩ | ⟨-, hfirst⟩ := ite_eq_ok.mp hfirst
    · obtain ⟨_, _, -, hfirst⟩ := bind_eq_ok.mp hfirst
      cases hfirst
    · obtain ⟨m, w, hm, hfirst⟩ := bind_eq_ok.mp hfirst
      obtain ⟨hpair, rfl⟩ := pure_eq_ok.mp hfirst
      obtain ⟨rfl, -⟩ := Prod.mk.inj (Option.some.inj hpair)
      have hkept : [m] <:+ found := by
        -- items are put in front of those read before
        refine @ensures_loopFrom _ (fun r => [m] <:+ r.1) _ ?_ rounds _ (List.suffix_refl _)
          _ _ _ _ hrest
        rintro ⟨acc, isModule⟩ hacc
        exact ensures_bind fun _ => ensures_ite (ensures_bind fun _ => ensures_none)
          (ensures_bind fun _ => ensures_some (hacc.trans (List.suffix_cons _ _)))
      obtain ⟨before, rfl⟩ := hkept
      rw [List.reverse_append] at hreverse
      cases hreverse
      exact ⟨_, _, hm⟩

/-- The first item of a program is read at the first token of its text. -/
theorem firstItem_of_parseProgram {text : String} {dialect : Dialect} {parsed : Parsed} {slot : Slot}
    {n : Node} {others : Children} (h : parseProgram text dialect = .ok parsed)
    (hbody : parsed.program.body = .cons slot n others)
    (hmark : (Source.ofString text).startsAt 0 "#!" = false)
    (hflaws : ((Source.ofString text).lexAt 0 true).flaws = []) :
    ∃ (depth : Nat) (ctx : Context) (s t : State), s.source = Source.ofString text ∧
      s.current = (Source.ofString text).lexAt 0 true ∧
      (grammar (depth + 1)).moduleItem ctx s = .ok n t := by
  have hline : interpreterLine (Source.ofString text) = (none, 0) := by simp [interpreterLine, hmark]
  unfold parseProgram at h
  dsimp only at h
  split at h
  · rename_i program comments hitems
    cases h
    simp only [parseItems, hline] at hitems
    split at hitems
    · cases hitems
    · rename_i body final hread
      split at hitems
      · cases hitems
      · cases hitems
        unfold programItems at hread
        obtain ⟨_, _, hget, hread⟩ := bind_eq_ok.mp hread
        cases hget
        rw [hflaws] at hread
        cases body with
        | nil => cases hbody
        | cons m ms =>
          cases hbody
          obtain ⟨ctx, t, hitem⟩ := items_eq_ok hread
          exact ⟨_, ctx, _, t, rfl, rfl, hitem⟩
  · cases h

/-- If a text that opens with `@(await ` starts with a class, then its first decorator is what the
parentheses hold, or one call of it. -/
theorem firstItem_of_opening {rest : String} {dialect : Dialect} {parsed : Parsed} {slot : Slot}
    {n : Node} {others : Children} (h : parseProgram ("@(await " ++ rest) dialect = .ok parsed)
    (hbody : parsed.program.body = .cons slot n others) :
    ∃ ds, DecoratedBy ds n ∧ ∀ d ∈ ds.head?, ∃ e, IsOperation e ∧ DecoratesBy e d := by
  have hfirst : (Source.ofString ("@(await " ++ rest)).chars.toList.drop 0 =
      '@' :: '(' :: ("await ".toList ++ rest.toList) :=
    Source.toList_ofString_append rfl (by decide) rest
  obtain ⟨hat, hatEnd, hatFlaws⟩ := Source.lexAt_of_isLone hfirst (by decide) true
  have hsecond := Source.drop_succ hfirst
  obtain ⟨hparen, hparenEnd, hparenFlaws⟩ := Source.lexAt_of_isLone hsecond (by decide) false
  obtain ⟨hword, hwordFlaws⟩ := Source.lexAt_await (Source.drop_succ hsecond) false
  have hmark : (Source.ofString ("@(await " ++ rest)).startsAt 0 "#!" = false :=
    Source.startsAt_eq_false (Source.char?_of_drop hfirst) (by decide)
  obtain ⟨depth, ctx, s, t, hsource, hcurrent, hitem⟩ :=
    firstItem_of_parseProgram h hbody hmark hatFlaws
  obtain ⟨ctx', ds, u, hds, hdecorated⟩ :=
    decoratedBy_moduleItem (by rw [hcurrent, hat]; rfl) hitem
  refine ⟨ds, hdecorated, fun d hd => ?_⟩
  obtain rfl | ⟨d', v, hhead, hread⟩ := decorators_eq_ok (by rw [hcurrent, hat]; rfl) hds
  · cases hd
  · obtain rfl : d' = d := Option.some.inj (hhead.symm.trans hd)
    -- the parenthesis, then the word
    obtain ⟨s₁, hbump, hrest⟩ := decorator_eq_ok hread
    have hnext : s.source.lexAt s.current.hi false =
        (Source.ofString ("@(await " ++ rest)).lexAt 1 false := by
      rw [hsource, hcurrent, hatEnd]
    obtain ⟨hcurrent₁, hsource₁⟩ := bump_eq_ok
      (by rw [hnext]; exact Context.settle_of_punct hparen) hparenFlaws hbump
    obtain ⟨s₂, w, e, hbump₂, hexpr, hby⟩ := hrest (by rw [hcurrent₁, hparen]; rfl)
    have hnext₁ : s₁.source.lexAt s₁.current.hi false =
        (Source.ofString ("@(await " ++ rest)).lexAt 2 false := by
      rw [hsource₁, hsource, hcurrent₁, hparenEnd]
    obtain ⟨hcurrent₂, -⟩ := bump_eq_ok
      (by rw [hnext₁]; exact Context.settle_of_word hword) hwordFlaws hbump₂
    exact ⟨e, isOperation_expr (by rw [hcurrent₂, hword]; rfl) hexpr, hby⟩

/-- If a text that opens with `await ` starts with an expression, then with an operand that starts so,
or what operators make of one. -/
theorem firstItem_of_await {rest : String} {dialect : Dialect} {parsed : Parsed} {slot : Slot}
    {n : Node} {others : Children} (h : parseProgram ("await " ++ rest) dialect = .ok parsed)
    (hbody : parsed.program.body = .cons slot n others) : StatesOperation n := by
  have hchars : (Source.ofString ("await " ++ rest)).chars.toList.drop 0 =
      "await ".toList ++ rest.toList := Source.toList_ofString_append rfl (by decide) rest
  obtain ⟨hword, hflaws⟩ := Source.lexAt_await hchars true
  have hmark : (Source.ofString ("await " ++ rest)).startsAt 0 "#!" = false :=
    Source.startsAt_eq_false (Source.char?_of_drop hchars) (by decide)
  obtain ⟨depth, ctx, s, t, -, hcurrent, hitem⟩ := firstItem_of_parseProgram h hbody hmark hflaws
  exact statesOperation_moduleItem (by rw [hcurrent, hword]; rfl) hitem

end Grammar

end AwaitCalls.Syntax
