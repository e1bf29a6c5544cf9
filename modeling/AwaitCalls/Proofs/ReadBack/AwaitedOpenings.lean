import AwaitCalls.Proofs.Walk
import AwaitCalls.Proofs.ReadBack.Openings

/-!
# Programs that open with a call to be awaited

A run keeps the links of a chain and awaits the call at its head, in parentheses. So a program that opens
with a decorator in which a call of the set heads a longer chain is not read back after the run, nor is
one that opens with the increment of such a call.
-/
namespace AwaitCalls

open AwaitCalls.Syntax AwaitCalls.Text

variable {patterns : PatternSet} {c x : Node}

/-- A call whose callee spells a path of the set. -/
def PatternSet.Picks (patterns : PatternSet) (c : Node) : Prop :=
  ∃ span parts, c = .mk .call span parts ∧
    ∃ path ∈ patterns.paths, calleeSpelling parts = some path.segments

theorem PatternSet.Picks.kind_eq (h : patterns.Picks c) : c.kind = .call := by
  obtain ⟨span, parts, rfl, -⟩ := h
  rfl

/-! ## Chains -/

/-- What a run makes of a call that it awaits, inside the `await`. -/
def awaitingCall (patterns : PatternSet) (c : Node) : Node :=
  .mk .call c.span (awaitingParts patterns false (some .call) c.children)

theorem awaitingNode_of_picks (h : patterns.Picks c) :
    awaitingNode patterns false c = awaited (awaitingCall patterns c) := by
  obtain ⟨span, parts, rfl, hspelled⟩ := h
  rw [awaitingNode, if_pos ⟨rfl, rfl, (calleeMatch_isSome_iff patterns parts).mpr hspelled⟩]
  rfl

/-- No path is the spelling of a chain that starts with a call. -/
theorem spelling_of_headedBy (h : HeadedBy c x) (hc : c.kind = .call) : spelling x = none := by
  induction h with
  | head =>
    obtain ⟨kind, span, parts⟩ := c
    obtain rfl : kind = .call := hc
    exact spelling_of_call span parts
  | member span rest _ ih =>
    rw [spelling_mk, firstSpelling, ih]
    rfl
  | _ => rfl

/-- Nodes that are no call and hand on no `await` stay as they are around their parts. -/
theorem awaitingNode_of_ne_call {kind : Kind} (hcall : kind ≠ .call)
    (hfirst : kind.awaitsFirst false = false) (span : Span) (parts : Children) (place : Place) :
    parenthesizedIn place (awaitingNode patterns false (.mk kind span parts)) =
      .mk kind span (awaitingParts patterns false (some kind) parts) := by
  rw [awaitingNode, if_neg (fun h => hcall h.1), hfirst, awaitedTimes]
  refine parenthesizedIn_of_ne_await ?_
  rintro rfl
  cases hfirst

/-- A call of a chain that starts with a call is not awaited itself. -/
theorem awaitingNode_call {o : Node} (h : HeadedBy c o) (hc : c.kind = .call) (span : Span)
    (rest : Children) (place : Place) :
    parenthesizedIn place (awaitingNode patterns false (.mk .call span (.cons .callee o rest))) =
      .mk .call span (awaitingParts patterns false (some .call) (.cons .callee o rest)) := by
  have hnone : calleeMatch patterns (.cons .callee o rest) = none := by
    rw [calleeMatch_eq, calleeSpelling]
    simp [Children.find?, spelling_of_headedBy h hc]
  rw [awaitingNode, if_neg (by simp [hnone])]
  exact parenthesizedIn_of_ne_await (by simp [awaitedTimes, Node.kind])

/-- After a run, a chain that starts with a call of the set starts with the `await` in parentheses. -/
theorem headedBy_awaitingNode (hc : patterns.Picks c) (hx : HeadedBy c x) {place : Place}
    (hplace : place.asksLeftHandSide = true) :
    HeadedBy (parenthesized (awaited (awaitingCall patterns c)))
      (parenthesizedIn place (awaitingNode patterns false x)) := by
  induction hx generalizing place with
  | head =>
    rw [awaitingNode_of_picks hc, parenthesizedIn, if_pos hplace]
    exact .head
  | member span rest _ ih =>
    rw [awaitingNode_of_ne_call (by simp) rfl, awaitingParts]
    exact .member span _ (ih rfl)
  | call span rest ho ih =>
    rw [awaitingNode_call ho hc.kind_eq, awaitingParts]
    exact .call span _ (ih rfl)
  | tagged span rest _ ih =>
    rw [awaitingNode_of_ne_call (by simp) rfl, awaitingParts]
    exact .tagged span _ (ih rfl)
  | nonNull span rest _ ih =>
    rw [awaitingNode_of_ne_call (by simp) rfl, awaitingParts]
    exact .nonNull span _ (ih rfl)
  | instantiation span rest _ ih =>
    rw [awaitingNode_of_ne_call (by simp) rfl, awaitingParts]
    exact .instantiation span _ (ih rfl)
  | optMember isOptional span memberSpan rest others _ ih =>
    rw [awaitingNode_of_ne_call (by simp) rfl, awaitingParts, awaitingNode_of_ne_call (by simp) rfl,
      awaitingParts]
    exact .optMember isOptional span memberSpan _ _ (ih rfl)
  | optCall isOptional span callSpan rest others _ ih =>
    rw [awaitingNode_of_ne_call (by simp) rfl, awaitingParts, awaitingNode_of_ne_call (by simp) rfl,
      awaitingParts]
    exact .optCall isOptional span callSpan _ _ (ih rfl)

/-- A run keeps the links of a chain. -/
theorem eq_head_or_isLink (hc : patterns.Picks c) (hx : HeadedBy c x) (place : Place) :
    x = c ∨ (parenthesizedIn place (awaitingNode patterns false x)).kind.isLink = true := by
  cases hx with
  | head => exact .inl rfl
  | call span rest ho =>
    rw [awaitingNode_call ho hc.kind_eq]
    exact .inr rfl
  | _ =>
    rw [awaitingNode_of_ne_call (by simp) rfl]
    exact .inr rfl

/-- What is an `await` in parentheses after a run, or one call of it, was the call that is awaited, or
one call of it. -/
theorem eq_head_or_call_of_awaitingNode (hc : patterns.Picks c) (hx : HeadedBy c x) {place : Place}
    {head : Node} (hhead : head.kind.isLink = false)
    (h : parenthesizedIn place (awaitingNode patterns false x) = head ∨ ∃ callSpan slot args,
      parenthesizedIn place (awaitingNode patterns false x) =
        .mk .call callSpan (.cons slot head args)) :
    x = c ∨ ∃ callSpan slot args, x = .mk .call callSpan (.cons slot c args) := by
  have hkept : ∀ {o : Node} {place : Place}, HeadedBy c o →
      parenthesizedIn place (awaitingNode patterns false o) = head → o = c := by
    intro o place ho heq
    obtain rfl | hlink := eq_head_or_isLink hc ho place
    · rfl
    · rw [heq, hhead] at hlink
      cases hlink
  obtain heq | ⟨callSpan, slot, args, heq⟩ := h
  · exact .inl (hkept hx heq)
  · cases hx with
    | head => exact .inl rfl
    | call span rest ho =>
      rw [awaitingNode_call ho hc.kind_eq, awaitingParts, Node.mk.injEq, Children.cons.injEq] at heq
      obtain rfl := hkept ho heq.2.2.2.1
      exact .inr ⟨span, .callee, rest, rfl⟩
    | _ =>
      rw [awaitingNode_of_ne_call (by simp) rfl] at heq
      cases heq

/-! ## Something is found -/

theorem sitesInAll_ne_nil {slot : Slot} {n : Node} (hn : ∀ k, sitesIn patterns false k n ≠ []) :
    ∀ {parts : Children}, parts.find? slot = some n → ∀ k, sitesInAll patterns false k parts ≠ [] := by
  intro parts
  induction parts with
  | nil => exact nofun
  | cons slot' m rest ih =>
    intro hfind k
    rw [Children.find?] at hfind
    rw [sitesInAll]
    split at hfind
    · obtain rfl := Option.some.inj hfind
      exact List.append_ne_nil_of_left_ne_nil (hn k) _
    · exact List.append_ne_nil_of_right_ne_nil _ (ih hfind _)

/-- What is found in a part is found in the node, unless the node hands on an `await`. -/
theorem sitesIn_ne_nil {kind : Kind} {slot : Slot} {n : Node} {parts : Children}
    (hfirst : kind.awaitsFirst false = false) (hfind : parts.find? slot = some n)
    (hn : ∀ k, sitesIn patterns false k n ≠ []) (span : Span) (k : Nat) :
    sitesIn patterns false k (.mk kind span parts) ≠ [] := by
  rw [sitesIn, hfirst]
  exact List.append_ne_nil_of_right_ne_nil _ (sitesInAll_ne_nil hn hfind _)

theorem sitesIn_ne_nil_of_first {kind : Kind} {n : Node} (hfirst : kind.awaitsFirst false = false)
    (hn : ∀ k, sitesIn patterns false k n ≠ []) (span : Span) (slot : Slot) (rest : Children)
    (k : Nat) : sitesIn patterns false k (.mk kind span (.cons slot n rest)) ≠ [] := by
  have hfind : (Children.cons slot n rest).find? slot = some n := by simp [Children.find?]
  exact sitesIn_ne_nil hfirst hfind hn span k

theorem sitesIn_ne_nil_of_headedBy (hc : patterns.Picks c) (hx : HeadedBy c x) (k : Nat) :
    sitesIn patterns false k x ≠ [] := by
  induction hx generalizing k with
  | head =>
    obtain ⟨span, parts, rfl, hspelled⟩ := hc
    obtain ⟨j, hj⟩ := Option.isSome_iff_exists.mp ((calleeMatch_isSome_iff patterns parts).mpr hspelled)
    refine List.append_ne_nil_of_left_ne_nil ?_ _
    simp [siteHere, hj]
  | member span rest _ ih => exact sitesIn_ne_nil_of_first rfl ih span _ rest k
  | call span rest _ ih => exact sitesIn_ne_nil_of_first rfl ih span _ rest k
  | tagged span rest _ ih => exact sitesIn_ne_nil_of_first rfl ih span _ rest k
  | nonNull span rest _ ih => exact sitesIn_ne_nil_of_first rfl ih span _ rest k
  | instantiation span rest _ ih => exact sitesIn_ne_nil_of_first rfl ih span _ rest k
  | optMember isOptional span memberSpan rest others _ ih =>
    exact sitesIn_ne_nil_of_first rfl (sitesIn_ne_nil_of_first rfl ih memberSpan _ rest) span _ others k
  | optCall isOptional span callSpan rest others _ ih =>
    exact sitesIn_ne_nil_of_first rfl (sitesIn_ne_nil_of_first rfl ih callSpan _ rest) span _ others k

theorem scan_ne_nil {p : Program} {n : Node} (h : p.firstItem? = some n)
    (hn : ∀ k, sitesIn patterns false k n ≠ []) : scan p patterns ≠ [] := by
  obtain ⟨slot, others, hbody⟩ := body_eq_of_firstItem? h
  rw [scan_eq_sitesInAll, hbody, sitesInAll]
  exact List.append_ne_nil_of_left_ne_nil (hn 0) _

/-! ## Openings -/

theorem find?_awaitingParts (slot : Slot) (parent : Option Kind) (parts : Children) :
    (awaitingParts patterns false parent parts).find? slot = (parts.find? slot).map fun n =>
      parenthesizedIn ⟨parent, slot⟩ (awaitingNode patterns false n) := by
  induction parts with
  | nil => rfl
  | cons slot' n rest ih =>
    rw [awaitingParts, Children.find?, Children.find?]
    split
    · rename_i hslot
      rw [hslot]
      rfl
    · exact ih

theorem firstItem?_awaitMatching {p : Program} {kind : Kind} {span : Span} {parts : Children}
    (hscan : scan p patterns ≠ []) (hitem : p.firstItem? = some (.mk kind span parts))
    (hcall : kind ≠ .call) (hfirst : kind.awaitsFirst false = false) :
    (awaitMatching p patterns).firstItem? =
      some (.mk kind span (awaitingParts patterns false (some kind) parts)) := by
  obtain ⟨slot, others, hbody⟩ := body_eq_of_firstItem? hitem
  rw [Program.firstItem?, body_awaitMatching hscan, hbody, awaitingParts,
    awaitingNode_of_ne_call hcall hfirst]

theorem openingDecorator?_awaitMatching {p : Program} {span : Span} (hscan : scan p patterns ≠ [])
    (h : p.openingDecorator? = some (Node.of .decorator span [(.decoratorExpr, x)])) :
    (awaitMatching p patterns).openingDecorator? = some (Node.of .decorator span [(.decoratorExpr,
      parenthesizedIn ⟨some .decorator, .decoratorExpr⟩ (awaitingNode patterns false x))]) := by
  obtain ⟨declSpan, parts, isAbstract, classSpan, members, hitem, hclass, hd⟩ :=
    openingDecorator?_eq_some h
  rw [Program.openingDecorator?, firstItem?_awaitMatching hscan hitem (by simp) rfl]
  dsimp only
  rw [find?_awaitingParts, hclass, Option.map_some, awaitingNode_of_ne_call (by simp) rfl]
  dsimp only
  rw [find?_awaitingParts, hd, Option.map_some, Node.of, awaitingNode_of_ne_call (by simp) rfl]
  rfl

theorem openingExpression?_awaitMatching {p : Program} {op : UpdateOp} {span : Span}
    (hscan : scan p patterns ≠ []) (hc : patterns.Picks c)
    (h : p.openingExpression? = some (Node.of (.update op false) span [(.operand, c)])) :
    (awaitMatching p patterns).openingExpression? = some (Node.of (.update op false) span
      [(.operand, awaited (awaitingCall patterns c))]) := by
  obtain ⟨stmtSpan, parts, hitem, hexpr⟩ := openingExpression?_eq_some h
  rw [Program.openingExpression?, firstItem?_awaitMatching hscan hitem (by simp) rfl]
  dsimp only
  rw [find?_awaitingParts, hexpr, Option.map_some, Node.of, awaitingNode_of_ne_call (by simp) rfl,
    Children.ofList, awaitingParts, awaitingNode_of_picks hc]
  rfl

/-- A program that opens with a decorator in which a call of the set heads a chain is read back after a
run only if the chain is the call itself or one call of it. -/
theorem ReadsBack.openingDecorator_of_picks {dialect : Dialect} {p : Program} {span : Span}
    (h : ReadsBack dialect (awaitMatching p patterns)) (hinterpreter : p.interpreter = none)
    (hopen : p.openingDecorator? = some (Node.of .decorator span [(.decoratorExpr, x)]))
    (hx : HeadedBy c x) (hc : patterns.Picks c) :
    x = c ∨ ∃ callSpan slot args, x = .mk .call callSpan (.cons slot c args) := by
  have hscan : scan p patterns ≠ [] := by
    obtain ⟨declSpan, parts, isAbstract, classSpan, members, hitem, hclass, hd⟩ :=
      openingDecorator?_eq_some hopen
    refine scan_ne_nil hitem (sitesIn_ne_nil rfl hclass (sitesIn_ne_nil rfl hd ?_ _) _)
    exact sitesIn_ne_nil_of_first rfl (sitesIn_ne_nil_of_headedBy hc hx) span _ _
  have hread := h.openingDecorator (by rw [interpreter_awaitMatching, hinterpreter])
    (openingDecorator?_awaitMatching hscan hopen) (headedBy_awaitingNode hc hx rfl)
  exact eq_head_or_call_of_awaitingNode hc hx rfl hread

/-- A program that opens with the increment or decrement of a call of the set is not read back after a
run. -/
theorem not_readsBack_of_openingUpdate_of_picks {dialect : Dialect} {p : Program} {op : UpdateOp}
    {span : Span} (hinterpreter : p.interpreter = none)
    (hopen : p.openingExpression? = some (Node.of (.update op false) span [(.operand, c)]))
    (hc : patterns.Picks c) : ¬ ReadsBack dialect (awaitMatching p patterns) := by
  have hscan : scan p patterns ≠ [] := by
    obtain ⟨stmtSpan, parts, hitem, hexpr⟩ := openingExpression?_eq_some hopen
    refine scan_ne_nil hitem (sitesIn_ne_nil rfl hexpr ?_ _)
    exact sitesIn_ne_nil_of_first rfl (sitesIn_ne_nil_of_headedBy hc .head) span _ _
  exact not_readsBack_of_openingUpdate (by rw [interpreter_awaitMatching, hinterpreter])
    (openingExpression?_awaitMatching hscan hc hopen)

end AwaitCalls
