import AwaitCalls.Proofs.Stages
import AwaitCalls.Proofs.Parentheses

/-!
# No await of an await is made

An `await` whose operand is again an `await`, in parentheses or not, can be counted from outside, as an
`await` that holds one, or from inside, as an `await` that is an operand. Counted from inside, awaiting
numbered calls adds one for each of them that is already the operand of an `await`, and parentheses
around an `await` change nothing. A scan never lists such a call, so a run leaves the count as it was.
Whether the program had awaits of awaits before makes no difference.
-/
namespace AwaitCalls

open AwaitCalls.Syntax AwaitCalls.Text

/-! ## Counting from outside -/

/-- Is the first part an `await`, perhaps in parentheses? -/
def operandIsAwait : Children → Bool
  | .nil => false
  | .cons _ n _ => n.unparen.kind = .await

/-- Is the node an `await` whose operand is again one, perhaps in parentheses? -/
def Syntax.Node.isDoubleAwait (n : Node) : Bool := n.kind = .await && operandIsAwait n.children

/-- Number of awaits in a list of parts, at any depth, whose operand is again an `await`. -/
def Syntax.Children.doubleAwaitCount (parts : Children) : Nat :=
  (parts.allParts none).countP fun part => part.2.isDoubleAwait

theorem toNat_eq_ite (b : Bool) : b.toNat = if b then 1 else 0 := by
  cases b <;> rfl

theorem Children.doubleAwaitCount_cons (slot : Slot) (n : Node) (rest : Children) :
    (Children.cons slot n rest).doubleAwaitCount =
      n.isDoubleAwait.toNat + n.children.doubleAwaitCount + rest.doubleAwaitCount := by
  obtain ⟨kind, span, parts⟩ := n
  have hparts := Children.countP_allParts Node.isDoubleAwait (some kind) parts
  simp only [Children.doubleAwaitCount, Children.allParts, Node.allParts, List.countP_cons,
    List.countP_append, Node.children, toNat_eq_ite, hparts]
  omega

/-! ## Counting from inside -/

mutual

/-- Number of awaits in a tree that are themselves the operand of an `await`. `isAwaited` says whether
the root is an operand. -/
def awaitedAwaits (isAwaited : Bool) : Node → Nat
  | .mk kind _ parts =>
    (isAwaited && kind = .await).toNat + awaitedAwaitsAll (kind.awaitsFirst isAwaited) parts

/-- The same in a list of parts. `isAwaited` is about the first one. -/
def awaitedAwaitsAll (isAwaited : Bool) : Children → Nat
  | .nil => 0
  | .cons _ n rest => awaitedAwaits isAwaited n + awaitedAwaitsAll false rest

end

/-- Parentheses hold an `await` if their first part does. -/
theorem unparen_paren_kind_await (span : Span) (parts : Children) :
    decide ((Node.mk .paren span parts).unparen.kind = .await) = operandIsAwait parts := by
  cases parts with
  | nil => rfl
  | cons slot n rest => rfl

mutual

/-- An `await` that is an operand is told by the one that holds it, or by what is known of the root. -/
theorem awaitedAwaits_eq : ∀ (b : Bool) (n : Node),
    awaitedAwaits b n = n.isDoubleAwait.toNat + n.children.doubleAwaitCount +
      (b && decide (n.unparen.kind = .await)).toNat
  | b, .mk kind span parts => by
    rw [awaitedAwaits, awaitedAwaitsAll_eq]
    by_cases hawait : kind = .await
    · subst hawait
      rw [Scanner.unparen_of_ne_paren (by simp)]
      simp only [Kind.awaitsFirst, Node.isDoubleAwait, Node.kind, Node.children, decide_true,
        Bool.true_or, Bool.true_and, Bool.and_true]
      omega
    · by_cases hparen : kind = .paren
      · subst hparen
        rw [unparen_paren_kind_await]
        simp [Kind.awaitsFirst, Node.isDoubleAwait, Node.kind, Node.children]
      · rw [Scanner.unparen_of_ne_paren hparen]
        simp [Kind.awaitsFirst, Node.isDoubleAwait, Node.kind, Node.children, hawait, hparen]

theorem awaitedAwaitsAll_eq : ∀ (b : Bool) (parts : Children),
    awaitedAwaitsAll b parts = parts.doubleAwaitCount + (b && operandIsAwait parts).toNat
  | b, .nil => by cases b <;> rfl
  | b, .cons slot n rest => by
    rw [awaitedAwaitsAll, awaitedAwaits_eq, awaitedAwaitsAll_eq, Children.doubleAwaitCount_cons,
      operandIsAwait, Bool.false_and, Bool.toNat_false]
    omega

end

/-- At the top nothing is an operand, and the two counts agree. -/
theorem doubleAwaitCount_eq (parts : Children) :
    parts.doubleAwaitCount = awaitedAwaitsAll false parts := by
  rw [awaitedAwaitsAll_eq, Bool.false_and, Bool.toNat_false, Nat.add_zero]

/-! ## Parentheses -/

/-- Parentheses hand down to the `await` in them whether they are awaited. -/
theorem awaitedAwaits_parenthesizedIn (b : Bool) (place : Place) (n : Node) :
    awaitedAwaits b (parenthesizedIn place n) = awaitedAwaits b n := by
  unfold parenthesizedIn parenthesized
  split
  · split
    · rw [Node.of, Children.ofList, Children.ofList, awaitedAwaits, awaitedAwaitsAll, awaitedAwaitsAll]
      simp [Kind.awaitsFirst]
    · rfl
  · rfl

mutual

theorem awaitedAwaits_parenthesizeNode : ∀ (b : Bool) (n : Node),
    awaitedAwaits b (parenthesizeNode n) = awaitedAwaits b n
  | b, .mk kind span parts => by
    rw [parenthesizeNode, awaitedAwaits, awaitedAwaitsAll_parenthesizeChildren, awaitedAwaits]

theorem awaitedAwaitsAll_parenthesizeChildren (parent : Option Kind) : ∀ (b : Bool) (parts : Children),
    awaitedAwaitsAll b (parenthesizeChildren parent parts) = awaitedAwaitsAll b parts
  | _, .nil => rfl
  | b, .cons slot n rest => by
    rw [parenthesizeChildren_cons, awaitedAwaitsAll, awaitedAwaits_parenthesizedIn,
      awaitedAwaits_parenthesizeNode, awaitedAwaitsAll_parenthesizeChildren, awaitedAwaitsAll]

end

/-! ## Awaiting numbered calls -/

/-- How many calls at the listed positions, numbered from `next`, are targets and are awaited already. -/
def awaitedTargets (targets : List Nat) (next : Nat) (isAwaited : Position → Bool)
    (positions : List Position) : Nat :=
  (positions.zipIdx next).countP fun call => decide (call.2 ∈ targets) && isAwaited call.1

theorem awaitedTargets_append (targets : List Nat) (next : Nat) (isAwaited : Position → Bool)
    (l l' : List Position) :
    awaitedTargets targets next isAwaited (l ++ l') =
      awaitedTargets targets next isAwaited l +
        awaitedTargets targets (next + l.length) isAwaited l' := by
  rw [awaitedTargets, List.zipIdx_append, List.countP_append]
  rfl

theorem awaitedTargets_map (targets : List Nat) (next : Nat) (isAwaited : Position → Bool)
    (f : Position → Position) (l : List Position) :
    awaitedTargets targets next isAwaited (l.map f) =
      awaitedTargets targets next (fun π => isAwaited (f π)) l := by
  rw [awaitedTargets, List.zipIdx_map, List.countP_map]
  rfl

theorem awaitedTargets_congr {targets : List Nat} {next : Nat} {a b : Position → Bool}
    {l : List Position} (h : ∀ π ∈ l, a π = b π) :
    awaitedTargets targets next a l = awaitedTargets targets next b l := by
  refine List.countP_congr fun call hcall => ?_
  rw [h call.1 (List.fst_mem_of_mem_zipIdx hcall)]

/-- A node that is a call comes first in its own list; below it, positions are those of its parts. -/
theorem awaitedTargets_callPositions (targets : List Nat) (next : Nat) (b : Bool) (kind : Kind)
    (span : Span) (parts : Children) :
    awaitedTargets targets next ((Node.mk kind span parts).awaitedAt b)
        (Node.mk kind span parts).callPositions =
      (decide (kind = .call) && (decide (next ∈ targets) && b)).toNat +
        awaitedTargets targets (next + kind.calls) (parts.awaitedAt (kind.awaitsFirst b))
          parts.callPositions := by
  have hbelow : ∀ next, awaitedTargets targets next ((Node.mk kind span parts).awaitedAt b)
      parts.callPositions =
        awaitedTargets targets next (parts.awaitedAt (kind.awaitsFirst b)) parts.callPositions := by
    intro next
    refine awaitedTargets_congr fun π hπ => ?_
    cases π with
    | nil => exact absurd rfl (Children.ne_nil_of_mem_callPositions hπ)
    | cons i π => rfl
  rw [Node.callPositions, awaitedTargets_append, hbelow]
  by_cases hk : kind = .call
  · subst hk
    simp [awaitedTargets, List.countP_cons, toNat_eq_ite]
  · simp [awaitedTargets, hk, Kind.calls]

mutual

/-- Awaiting numbered calls adds an `await` of an `await` for each of them that is awaited already, and
for no other. -/
theorem awaitedAwaits_withAwaits (targets : List Nat) : ∀ (b : Bool) (next : Nat) (n : Node),
    awaitedAwaits b (withAwaits (hits targets) next n) =
      awaitedAwaits b n + awaitedTargets targets next (n.awaitedAt b) n.callPositions
  | b, next, .mk kind span parts => by
    have hparts := awaitedAwaitsAll_withAwaitsAll targets (kind.awaitsFirst b) (next + kind.calls) parts
    rw [awaitedTargets_callPositions]
    by_cases hk : kind = .call
    · subst hk
      have hcall : ∀ (c : Bool) (inner : Children), awaitedAwaits c (.mk .call span inner) =
          awaitedAwaitsAll false inner := fun c inner => by
        simp [awaitedAwaits, Kind.awaitsFirst]
      have hfirst : Kind.awaitsFirst .call b = false := rfl
      rw [hfirst] at hparts ⊢
      rw [withAwaits, if_pos rfl, hcall]
      by_cases ht : next ∈ targets
      · -- the new `await` is an operand exactly if the call was
        rw [hits, if_pos ht, awaitedTimes, awaitedTimes, awaited, Node.of, Children.ofList,
          Children.ofList, awaitedAwaits, awaitedAwaitsAll, awaitedAwaitsAll, hcall, hparts]
        simp only [ht, decide_true, Bool.true_and, Bool.and_true]
        omega
      · rw [hits, if_neg ht, awaitedTimes, hcall, hparts]
        simp [ht]
    · rw [withAwaits_of_ne_call hk, awaitedAwaits, awaitedAwaits]
      rw [Kind.calls, if_neg hk, Nat.add_zero] at hparts ⊢
      rw [hparts]
      simp [hk, Nat.add_assoc]

theorem awaitedAwaitsAll_withAwaitsAll (targets : List Nat) :
    ∀ (b : Bool) (next : Nat) (parts : Children),
    awaitedAwaitsAll b (withAwaitsAll (hits targets) next parts) =
      awaitedAwaitsAll b parts + awaitedTargets targets next (parts.awaitedAt b) parts.callPositions
  | _, _, .nil => rfl
  | b, next, .cons slot n rest => by
    have hn := awaitedAwaits_withAwaits targets b next n
    have hrest := awaitedAwaitsAll_withAwaitsAll targets false (next + n.callCount) rest
    have hfirst : (fun π => (Children.cons slot n rest).awaitedAt b (0 :: π)) = n.awaitedAt b :=
      funext fun π => Children.cons_awaitedAt_zero b slot n rest π
    have hothers : (fun π => (Children.cons slot n rest).awaitedAt b (Position.next π)) =
        rest.awaitedAt false := funext fun π => Children.cons_awaitedAt_next b slot n rest π
    rw [withAwaitsAll, awaitedAwaitsAll, awaitedAwaitsAll, hn, hrest, Children.callPositions,
      awaitedTargets_append, awaitedTargets_map, awaitedTargets_map, hfirst, hothers, List.length_map,
      n.length_callPositions]
    omega

end

/-- What awaiting numbered calls does to the awaits of awaits of a program. -/
theorem doubleAwaitCount_awaitNumbered (p : Program) (targets : List Nat) :
    (awaitNumbered p targets).1.body.doubleAwaitCount =
      p.body.doubleAwaitCount +
        awaitedTargets targets 0 (p.body.awaitedAt false) p.body.callPositions := by
  have hwith := awaitedAwaitsAll_withAwaitsAll targets false 0 p.body
  rw [doubleAwaitCount_eq, doubleAwaitCount_eq, awaitNumbered_eq, ← hwith]
  dsimp only
  split
  · rename_i hnone
    rw [withAwaitsAll_of_hitNumbers_eq_empty hnone]
  · rw [awaitedAwaitsAll_parenthesizeChildren]

/-! ## Calls that a scan finds -/

/-- No call that a scan finds is awaited already. -/
theorem awaitedTargets_scan (p : Program) (patterns : PatternSet) :
    awaitedTargets ((scan p patterns).map CallSite.ordinal) 0 (p.body.awaitedAt false)
      p.body.callPositions = 0 := by
  refine List.countP_eq_zero.mpr ?_
  rintro ⟨π, k⟩ hπ hboth
  obtain ⟨hk, haw⟩ : k ∈ (scan p patterns).map CallSite.ordinal ∧ p.body.awaitedAt false π = true := by
    simpa using hboth
  obtain ⟨ρ, span, parts, hρ, hnot, -⟩ := mem_ordinals_scan.mp hk
  rw [List.mem_zipIdx_iff_getElem?] at hπ hρ
  obtain rfl : π = ρ := Option.some.inj (hπ.symm.trans hρ)
  rw [hnot] at haw
  cases haw

/-- A run makes no `await` of an `await`: there are as many as before, parentheses or not. This is due to
the calls that a scan leaves out, as awaiting the calls at any sites makes one for each that is the
operand of an `await`. -/
theorem awaitSites_makes_no_double_await (p : Program) (patterns : PatternSet) :
    (awaitSites p (scan p patterns)).1.body.doubleAwaitCount = p.body.doubleAwaitCount ∧
    ∀ sites : List CallSite,
      (awaitSites p sites).1.body.doubleAwaitCount = p.body.doubleAwaitCount +
        (p.body.callPositions.zipIdx).countP fun call =>
          decide (call.2 ∈ sites.map CallSite.ordinal) && p.body.awaitedAt false call.1 := by
  refine ⟨?_, fun sites => doubleAwaitCount_awaitNumbered p (sites.map CallSite.ordinal)⟩
  rw [awaitSites, doubleAwaitCount_awaitNumbered, awaitedTargets_scan, Nat.add_zero]

end AwaitCalls
