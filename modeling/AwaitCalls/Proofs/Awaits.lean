import AwaitCalls.Awaiting
import AwaitCalls.Proofs.Positions
import Mathlib.Data.Finset.Card
import Mathlib.Data.Finset.Range

/-!
# Trees with awaits put in

`withAwaits times` puts `times k` awaits around call number `k`, for any numbers of awaits. One run of
the wrapping walk is the case where each number is zero or one. Putting awaits in neither adds nor
removes a call, so two runs add up, and parenthesising in between changes nothing in the end. The
facts hold for every tree, and no order of the targets is assumed.
-/
namespace AwaitCalls

open AwaitCalls.Syntax AwaitCalls.Text

/-- A node with a number of awaits around it, all with its span. -/
def awaitedTimes : Nat → Node → Node
  | 0, n => n
  | m + 1, n => awaited (awaitedTimes m n)

mutual

/-- Put `times k` awaits around the call with number `k`; the first call of the node has number `next`. -/
def withAwaits (times : Nat → Nat) (next : Nat) : Node → Node
  | .mk kind span parts =>
    awaitedTimes (if kind = .call then times next else 0)
      (.mk kind span (withAwaitsAll times (next + kind.calls) parts))

def withAwaitsAll (times : Nat → Nat) (next : Nat) : Children → Children
  | .nil => .nil
  | .cons slot n rest =>
    .cons slot (withAwaits times next n) (withAwaitsAll times (next + n.callCount) rest)

end

/-- How many awaits one run puts around each call. -/
def hits (targets : List Nat) (k : Nat) : Nat := if k ∈ targets then 1 else 0

/-! ## One run of the walk -/

mutual

/-- A walk puts one await around each call whose number is a target, and counts them. -/
theorem wrapNode_eq (targets : List Nat) : ∀ (next : Nat) (n : Node),
    wrapNode targets next n =
      { tree := withAwaits (hits targets) next n
        next := next + n.callCount
        count := (List.range' next n.callCount).countP (· ∈ targets) }
  | next, .mk kind span parts => by
    have h := wrapChildren_eq targets (next + kind.calls) parts
    rw [Node.callCount, ← List.range'_append_1, List.countP_append, withAwaits]
    unfold wrapNode
    split
    · rw [Kind.calls_call] at h ⊢
      by_cases ht : next ∈ targets <;>
        simp [h, ht, hits, awaitedTimes, Nat.add_assoc, Nat.add_comm]
    · rename_i hk
      have hcalls : kind.calls = 0 := if_neg hk
      rw [hcalls, Nat.add_zero] at h
      simp [h, hcalls, show kind ≠ .call from hk, awaitedTimes]

theorem wrapChildren_eq (targets : List Nat) : ∀ (next : Nat) (parts : Children),
    wrapChildren targets next parts =
      { tree := withAwaitsAll (hits targets) next parts
        next := next + parts.callCount
        count := (List.range' next parts.callCount).countP (· ∈ targets) }
  | next, .nil => by simp [wrapChildren, withAwaitsAll, Children.callCount]
  | next, .cons slot n rest => by
    rw [wrapChildren, wrapNode_eq targets next n, wrapChildren_eq targets _ rest, Children.callCount,
      ← List.range'_append_1, List.countP_append]
    simp [withAwaitsAll, Nat.add_assoc]

end

mutual

/-- Only the numbers of the calls in the tree count. -/
theorem withAwaits_congr {a b : Nat → Nat} : ∀ {next : Nat} {n : Node},
    (∀ k, next ≤ k → k < next + n.callCount → a k = b k) → withAwaits a next n = withAwaits b next n
  | next, .mk kind span parts, h => by
    have hparts : withAwaitsAll a (next + kind.calls) parts =
        withAwaitsAll b (next + kind.calls) parts :=
      withAwaitsAll_congr fun k hlo hhi => h k (by omega) (by rw [Node.callCount]; omega)
    rw [withAwaits, withAwaits, hparts]
    by_cases hk : kind = .call
    · subst hk
      rw [if_pos rfl, if_pos rfl,
        h next (Nat.le_refl _) (by rw [Node.callCount, Kind.calls_call]; omega)]
    · rw [if_neg hk, if_neg hk]

theorem withAwaitsAll_congr {a b : Nat → Nat} : ∀ {next : Nat} {parts : Children},
    (∀ k, next ≤ k → k < next + parts.callCount → a k = b k) →
    withAwaitsAll a next parts = withAwaitsAll b next parts
  | _, .nil, _ => rfl
  | next, .cons slot n rest, h => by
    have hn : withAwaits a next n = withAwaits b next n :=
      withAwaits_congr fun k hlo hhi => h k hlo (by rw [Children.callCount]; omega)
    have hrest : withAwaitsAll a (next + n.callCount) rest =
        withAwaitsAll b (next + n.callCount) rest :=
      withAwaitsAll_congr fun k hlo hhi => h k (by omega) (by rw [Children.callCount]; omega)
    rw [withAwaitsAll, withAwaitsAll, hn, hrest]

end

mutual

theorem withAwaits_zero : ∀ (next : Nat) (n : Node), withAwaits (fun _ => 0) next n = n
  | next, .mk kind span parts => by
    rw [withAwaits, withAwaitsAll_zero, ite_self]
    rfl

theorem withAwaitsAll_zero : ∀ (next : Nat) (parts : Children),
    withAwaitsAll (fun _ => 0) next parts = parts
  | _, .nil => rfl
  | next, .cons slot n rest => by rw [withAwaitsAll, withAwaits_zero, withAwaitsAll_zero]

end

/-- The numbers among the targets that calls of the program have. -/
def hitNumbers (p : Program) (targets : List Nat) : Finset Nat :=
  targets.toFinset.filter (· < p.body.callCount)

theorem mem_hitNumbers {p : Program} {targets : List Nat} {k : Nat} :
    k ∈ hitNumbers p targets ↔ k ∈ targets ∧ k < p.body.callCount := by
  simp [hitNumbers]

theorem card_hitNumbers (p : Program) (targets : List Nat) :
    (List.range' 0 p.body.callCount).countP (· ∈ targets) = (hitNumbers p targets).card := by
  have h : hitNumbers p targets = (Finset.range p.body.callCount).filter (· ∈ targets) := by
    ext k
    simp [mem_hitNumbers, and_comm]
  rw [h, ← List.range_eq_range', List.countP_eq_length_filter]
  rfl

/-- Numbers that no call has put no awaits in. -/
theorem withAwaitsAll_of_hitNumbers_eq_empty {p : Program} {targets : List Nat}
    (h : hitNumbers p targets = ∅) : withAwaitsAll (hits targets) 0 p.body = p.body := by
  rw [withAwaitsAll_congr (b := fun _ => 0), withAwaitsAll_zero]
  intro k _ hk
  refine if_neg fun ht => ?_
  have hmem : k ∈ hitNumbers p targets := mem_hitNumbers.mpr ⟨ht, by omega⟩
  simp [h] at hmem

/-- What awaiting numbered calls does: nothing if no call has one of the numbers, and otherwise one
await around each call that has, and then parentheses. -/
theorem awaitNumbered_eq (p : Program) (targets : List Nat) :
    awaitNumbered p targets =
      ({ p with body :=
          if hitNumbers p targets = ∅ then p.body
          else parenthesizeChildren none (withAwaitsAll (hits targets) 0 p.body) },
        (hitNumbers p targets).card) := by
  unfold awaitNumbered
  by_cases ht : targets.isEmpty
  · have h : hitNumbers p targets = ∅ := by simp_all [hitNumbers]
    simp [ht, h]
  · rw [if_neg ht, wrapChildren_eq, card_hitNumbers]
    by_cases h : hitNumbers p targets = ∅
    · simp [h, withAwaitsAll_of_hitNumbers_eq_empty h]
    · simp [h, Finset.card_pos, Finset.nonempty_iff_ne_empty]

/-! ## Kinds, spans and numbers of calls -/

@[simp]
theorem span_awaitedTimes (m : Nat) (n : Node) : (awaitedTimes m n).span = n.span := by
  induction m with
  | zero => rfl
  | succ m ih => exact ih

@[simp]
theorem callCount_awaitedTimes (m : Nat) (n : Node) : (awaitedTimes m n).callCount = n.callCount := by
  induction m with
  | zero => rfl
  | succ m ih =>
    simp [awaitedTimes, awaited, Node.of, Children.ofList, Node.callCount, Children.callCount,
      Kind.calls, ih]

theorem awaitedTimes_awaitedTimes (m l : Nat) (n : Node) :
    awaitedTimes m (awaitedTimes l n) = awaitedTimes (l + m) n := by
  induction m with
  | zero => rfl
  | succ m ih => rw [awaitedTimes, ih]; rfl

@[simp]
theorem span_withAwaits (times : Nat → Nat) (next : Nat) (n : Node) :
    (withAwaits times next n).span = n.span := by
  cases n
  rw [withAwaits, span_awaitedTimes]
  rfl

/-- Only calls change their kind. -/
theorem withAwaits_of_ne_call {times : Nat → Nat} {next : Nat} {kind : Kind} (h : kind ≠ .call)
    (span : Span) (parts : Children) : withAwaits times next (.mk kind span parts) =
      .mk kind span (withAwaitsAll times next parts) := by
  rw [withAwaits, if_neg h, Kind.calls, if_neg h]
  rfl

mutual

theorem callCount_withAwaits (times : Nat → Nat) : ∀ (next : Nat) (n : Node),
    (withAwaits times next n).callCount = n.callCount
  | next, .mk kind span parts => by
    rw [withAwaits, callCount_awaitedTimes, Node.callCount, callCount_withAwaitsAll, Node.callCount]

theorem callCount_withAwaitsAll (times : Nat → Nat) : ∀ (next : Nat) (parts : Children),
    (withAwaitsAll times next parts).callCount = parts.callCount
  | _, .nil => rfl
  | next, .cons slot n rest => by
    rw [withAwaitsAll, Children.callCount, callCount_withAwaits, callCount_withAwaitsAll,
      Children.callCount]

end

/-- The part that parenthesising leaves in a place. -/
def parenthesizedIn (place : Place) (n : Node) : Node :=
  if place.asksLeftHandSide then parenthesized n else n

theorem parenthesizeChildren_cons (parent : Option Kind) (slot : Slot) (n : Node) (rest : Children) :
    parenthesizeChildren parent (.cons slot n rest) =
      .cons slot (parenthesizedIn ⟨parent, slot⟩ (parenthesizeNode n))
        (parenthesizeChildren parent rest) := rfl

theorem parenthesizedIn_of_ne_await {place : Place} {n : Node} (h : n.kind ≠ .await) :
    parenthesizedIn place n = n := by
  simp [parenthesizedIn, parenthesized, h]

@[simp]
theorem callCount_parenthesizedIn (place : Place) (n : Node) :
    (parenthesizedIn place n).callCount = n.callCount := by
  unfold parenthesizedIn parenthesized
  split
  · split
    · simp [Node.of, Children.ofList, Node.callCount, Children.callCount, Kind.calls]
    · rfl
  · rfl

@[simp]
theorem kind_parenthesizeNode (n : Node) : (parenthesizeNode n).kind = n.kind := by cases n; rfl

@[simp]
theorem span_parenthesizeNode (n : Node) : (parenthesizeNode n).span = n.span := by cases n; rfl

mutual

theorem callCount_parenthesizeNode : ∀ n : Node, (parenthesizeNode n).callCount = n.callCount
  | .mk kind span parts => by
    rw [parenthesizeNode, Node.callCount, callCount_parenthesizeChildren, Node.callCount]

theorem callCount_parenthesizeChildren (parent : Option Kind) : ∀ parts : Children,
    (parenthesizeChildren parent parts).callCount = parts.callCount
  | .nil => rfl
  | .cons slot n rest => by
    rw [parenthesizeChildren_cons, Children.callCount, callCount_parenthesizedIn,
      callCount_parenthesizeNode, callCount_parenthesizeChildren, Children.callCount]

end

/-! ## Two runs -/

theorem withAwaits_awaitedTimes (times : Nat → Nat) (next m : Nat) (n : Node) :
    withAwaits times next (awaitedTimes m n) = awaitedTimes m (withAwaits times next n) := by
  induction m with
  | zero => rfl
  | succ m ih =>
    simp only [awaitedTimes, awaited, Node.of, Children.ofList]
    rw [withAwaits_of_ne_call (by simp), withAwaitsAll, ih, withAwaitsAll, span_awaitedTimes,
      span_awaitedTimes, span_withAwaits]

mutual

/-- Awaits of two runs add up at each call. -/
theorem withAwaits_withAwaits (a b : Nat → Nat) : ∀ (next : Nat) (n : Node),
    withAwaits b next (withAwaits a next n) = withAwaits (fun k => a k + b k) next n
  | next, .mk kind span parts => by
    rw [withAwaits, withAwaits_awaitedTimes, withAwaits, awaitedTimes_awaitedTimes,
      withAwaitsAll_withAwaitsAll, withAwaits]
    congr 1
    split <;> simp [Nat.add_comm]

theorem withAwaitsAll_withAwaitsAll (a b : Nat → Nat) : ∀ (next : Nat) (parts : Children),
    withAwaitsAll b next (withAwaitsAll a next parts) =
      withAwaitsAll (fun k => a k + b k) next parts
  | _, .nil => rfl
  | next, .cons slot n rest => by
    rw [withAwaitsAll, withAwaitsAll, withAwaits_withAwaits, callCount_withAwaits,
      withAwaitsAll_withAwaitsAll, withAwaitsAll]

end

theorem parenthesizeNode_awaitedTimes (m : Nat) (n : Node) :
    parenthesizeNode (awaitedTimes m n) = awaitedTimes m (parenthesizeNode n) := by
  induction m with
  | zero => rfl
  | succ m ih =>
    simp only [awaitedTimes, awaited, Node.of, Children.ofList, parenthesizeNode,
      parenthesizeChildren, ih, span_awaitedTimes, span_parenthesizeNode]
    rfl

theorem parenthesizeNode_withAwaits_paren (times : Nat → Nat) (next : Nat) (span : Span) (n : Node) :
    parenthesizeNode (withAwaits times next (Node.of .paren span [(.expr, n)])) =
      Node.of .paren span [(.expr, parenthesizeNode (withAwaits times next n))] := by
  simp only [Node.of, Children.ofList]
  rw [withAwaits_of_ne_call (by simp), withAwaitsAll, withAwaitsAll, parenthesizeNode,
    parenthesizeChildren_cons, parenthesizeChildren]
  rfl

mutual

/-- Parenthesising before awaits are put in changes nothing, if it is done after. -/
theorem parenthesizeNode_withAwaits_parenthesizeNode (times : Nat → Nat) : ∀ (next : Nat) (n : Node),
    parenthesizeNode (withAwaits times next (parenthesizeNode n)) =
      parenthesizeNode (withAwaits times next n)
  | next, .mk kind span parts => by
    rw [parenthesizeNode, withAwaits, withAwaits, parenthesizeNode_awaitedTimes,
      parenthesizeNode_awaitedTimes, parenthesizeNode, parenthesizeNode,
      parenthesizeChildren_withAwaitsAll_parenthesizeChildren]

theorem parenthesizeChildren_withAwaitsAll_parenthesizeChildren (times : Nat → Nat)
    (parent : Option Kind) : ∀ (next : Nat) (parts : Children),
    parenthesizeChildren parent (withAwaitsAll times next (parenthesizeChildren parent parts)) =
      parenthesizeChildren parent (withAwaitsAll times next parts)
  | _, .nil => rfl
  | next, .cons slot n rest => by
    have hn := parenthesizeNode_withAwaits_parenthesizeNode times next n
    have hrest := parenthesizeChildren_withAwaitsAll_parenthesizeChildren times parent
      (next + n.callCount) rest
    have hfirst : parenthesizedIn ⟨parent, slot⟩ (parenthesizeNode
        (withAwaits times next (parenthesizedIn ⟨parent, slot⟩ (parenthesizeNode n)))) =
        parenthesizedIn ⟨parent, slot⟩ (parenthesizeNode (withAwaits times next n)) := by
      by_cases h : Place.asksLeftHandSide ⟨parent, slot⟩ = true ∧ n.kind = .await
      · -- the part is an `await` that was given parentheses before
        obtain ⟨kind, span, parts⟩ := n
        obtain ⟨hasks, rfl⟩ : Place.asksLeftHandSide ⟨parent, slot⟩ = true ∧ kind = .await := h
        have hin : ∀ m : Node, m.kind = .await → parenthesizedIn ⟨parent, slot⟩ m =
            Node.of .paren m.span [(.expr, m)] := fun m hm => by
          simp [parenthesizedIn, hasks, parenthesized, hm]
        rw [hin (parenthesizeNode (.mk .await span parts)) rfl, parenthesizeNode_withAwaits_paren, hn,
          parenthesizedIn_of_ne_await (by simp [Node.of, Node.kind]),
          withAwaits_of_ne_call (by simp), hin _ rfl]
        rfl
      · have hsame : parenthesizedIn ⟨parent, slot⟩ (parenthesizeNode n) = parenthesizeNode n := by
          unfold parenthesizedIn parenthesized
          rw [kind_parenthesizeNode]
          split
          · rename_i hs
            exact if_neg fun hk => h ⟨hs, hk⟩
          · rfl
        rw [hsame, hn]
    rw [parenthesizeChildren_cons, withAwaitsAll, withAwaitsAll, parenthesizeChildren_cons,
      parenthesizeChildren_cons, hfirst, callCount_parenthesizedIn, callCount_parenthesizeNode, hrest]

end

/-- Only which numbers are listed counts, not how often nor in which order. -/
theorem awaitNumbered_congr (p : Program) {a b : List Nat} (h : ∀ k, k ∈ a ↔ k ∈ b) :
    awaitNumbered p a = awaitNumbered p b := by
  have hhits : hits a = hits b := funext fun k => by simp [hits, h k]
  have hnumbers : hitNumbers p a = hitNumbers p b := by
    ext k
    rw [mem_hitNumbers, mem_hitNumbers, h k]
  rw [awaitNumbered_eq, awaitNumbered_eq, hhits, hnumbers]

/-- Awaiting calls keeps the number of calls. -/
@[simp]
theorem callCount_awaitNumbered (p : Program) (targets : List Nat) :
    (awaitNumbered p targets).1.body.callCount = p.body.callCount := by
  rw [awaitNumbered_eq]
  dsimp only
  split
  · rfl
  · rw [callCount_parenthesizeChildren, callCount_withAwaitsAll]

theorem hitNumbers_awaitNumbered (p : Program) (a b : List Nat) :
    hitNumbers (awaitNumbered p a).1 b = hitNumbers p b := by
  ext k
  rw [mem_hitNumbers, mem_hitNumbers, callCount_awaitNumbered]

theorem hitNumbers_append (p : Program) (a b : List Nat) :
    hitNumbers p (a ++ b) = hitNumbers p a ∪ hitNumbers p b := by
  ext k
  simp only [mem_hitNumbers, Finset.mem_union, List.mem_append, or_and_right]

/-- Numbers that no call has may be left out. -/
theorem withAwaitsAll_hits_congr {p : Program} {a b : List Nat} (h : hitNumbers p a = hitNumbers p b) :
    withAwaitsAll (hits a) 0 p.body = withAwaitsAll (hits b) 0 p.body := by
  refine withAwaitsAll_congr fun k _ hk => ?_
  have hiff : k ∈ a ↔ k ∈ b := by
    have hmem : k ∈ hitNumbers p a ↔ k ∈ hitNumbers p b := by rw [h]
    simpa [mem_hitNumbers, show k < p.body.callCount by omega] using hmem
  simp [hits, hiff]

/-- Two runs that share no number do what one run does. -/
theorem awaitNumbered_awaitNumbered (p : Program) {a b : List Nat} (h : ∀ k ∈ b, k ∉ a) :
    (awaitNumbered (awaitNumbered p a).1 b).1 = (awaitNumbered p (a ++ b)).1 := by
  have hunion := hitNumbers_append p a b
  rw [awaitNumbered_eq (awaitNumbered p a).1, hitNumbers_awaitNumbered]
  rw [awaitNumbered_eq p a, awaitNumbered_eq p (a ++ b)]
  by_cases ha : hitNumbers p a = ∅
  · rw [ha, Finset.empty_union] at hunion
    simp only [ha, hunion, if_true, withAwaitsAll_hits_congr hunion]
  · have hab : hitNumbers p (a ++ b) ≠ ∅ := by
      rw [hunion]
      exact fun he => ha (Finset.union_eq_empty.mp he).1
    by_cases hb : hitNumbers p b = ∅
    · rw [hb, Finset.union_empty] at hunion
      simp only [hb, if_true, if_neg ha, if_neg hab, withAwaitsAll_hits_congr hunion]
    · have hhits : hits (a ++ b) = fun k => hits a k + hits b k := funext fun k => by
        by_cases hk : k ∈ b
        · simp [hits, hk, h k hk]
        · simp [hits, hk]
      simp only [if_neg ha, if_neg hb, if_neg hab, hhits,
        parenthesizeChildren_withAwaitsAll_parenthesizeChildren, withAwaitsAll_withAwaitsAll]

end AwaitCalls
