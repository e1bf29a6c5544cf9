import AwaitCalls.Proofs.Insertions

/-!
# Several runs on one tree

Any number of runs, each with its own list of sites, comes down to how many runs have listed each call:
that many awaits are around the call, one right in the other, and parentheses are put once in the end.
So runs commute, numbers of calls stay valid, and runs that share no number do what one run does. The
sites need not come from a scan.
-/
namespace AwaitCalls

open AwaitCalls.Syntax AwaitCalls.Text

/-! ## The tree after several runs -/

/-- The program with `times k` awaits around call number `k`. If no call gets one the program stays as
it is, and otherwise bare awaits get their parentheses. -/
def awaitingTimes (p : Program) (times : Nat → Nat) : Program :=
  { p with body :=
      if ∀ k < p.body.callCount, times k = 0 then p.body
      else parenthesizeChildren none (withAwaitsAll times 0 p.body) }

theorem awaitingTimes_of_eq_zero {p : Program} {times : Nat → Nat}
    (h : ∀ k < p.body.callCount, times k = 0) : awaitingTimes p times = p := by
  rw [awaitingTimes, if_pos h]

theorem body_awaitingTimes_of_ne_zero {p : Program} {times : Nat → Nat}
    (h : ¬ ∀ k < p.body.callCount, times k = 0) :
    (awaitingTimes p times).body = parenthesizeChildren none (withAwaitsAll times 0 p.body) := if_neg h

/-- Only the numbers of calls of the program count. -/
theorem awaitingTimes_congr {p : Program} {a b : Nat → Nat} (h : ∀ k < p.body.callCount, a k = b k) :
    awaitingTimes p a = awaitingTimes p b := by
  have hzero : (∀ k < p.body.callCount, a k = 0) ↔ ∀ k < p.body.callCount, b k = 0 :=
    forall_congr' fun k => imp_congr_right fun hk => by rw [h k hk]
  have htree : withAwaitsAll a 0 p.body = withAwaitsAll b 0 p.body :=
    withAwaitsAll_congr fun k _ hk => h k (by omega)
  simp only [awaitingTimes, hzero, htree]

theorem callCount_awaitingTimes (p : Program) (times : Nat → Nat) :
    (awaitingTimes p times).body.callCount = p.body.callCount := by
  by_cases h : ∀ k < p.body.callCount, times k = 0
  · rw [awaitingTimes_of_eq_zero h]
  · rw [body_awaitingTimes_of_ne_zero h, callCount_parenthesizeChildren, callCount_withAwaitsAll]

/-- One run puts an await around each call that it lists. -/
theorem awaitSites_eq_awaitingTimes (p : Program) (sites : List CallSite) :
    (awaitSites p sites).1 = awaitingTimes p (hits (sites.map CallSite.ordinal)) := by
  have hnone : hitNumbers p (sites.map CallSite.ordinal) = ∅ ↔
      ∀ k < p.body.callCount, hits (sites.map CallSite.ordinal) k = 0 := by
    rw [Finset.eq_empty_iff_forall_notMem]
    refine forall_congr' fun k => ?_
    rw [mem_hitNumbers, hits]
    split <;> simp_all
  rw [awaitSites, awaitNumbered_eq, awaitingTimes]
  simp only [hnone]

/-- The awaits of a second run add to those of the first, and parentheses in between make no
difference. -/
theorem awaitingTimes_awaitingTimes (p : Program) (a b : Nat → Nat) :
    awaitingTimes (awaitingTimes p a) b = awaitingTimes p (fun k => a k + b k) := by
  by_cases ha : ∀ k < p.body.callCount, a k = 0
  · rw [awaitingTimes_of_eq_zero ha]
    exact awaitingTimes_congr fun k hk => by rw [ha k hk, Nat.zero_add]
  · by_cases hb : ∀ k < p.body.callCount, b k = 0
    · rw [awaitingTimes_of_eq_zero (by rwa [callCount_awaitingTimes])]
      exact awaitingTimes_congr fun k hk => by rw [hb k hk, Nat.add_zero]
    · have hsecond : ¬ ∀ k < (awaitingTimes p a).body.callCount, b k = 0 := by
        rwa [callCount_awaitingTimes]
      have hsum : ¬ ∀ k < p.body.callCount, a k + b k = 0 := fun h =>
        ha fun k hk => Nat.eq_zero_of_add_eq_zero_right (h k hk)
      have hbody : (awaitingTimes (awaitingTimes p a) b).body =
          (awaitingTimes p fun k => a k + b k).body := by
        rw [body_awaitingTimes_of_ne_zero hsecond, body_awaitingTimes_of_ne_zero ha,
          body_awaitingTimes_of_ne_zero hsum,
          parenthesizeChildren_withAwaitsAll_parenthesizeChildren, withAwaitsAll_withAwaitsAll]
      exact congrArg (fun body => { p with body }) hbody

/-- The program after runs with the given lists of sites, one after the other. -/
def awaitInTurn (p : Program) (runs : List (List CallSite)) : Program :=
  runs.foldl (fun q sites => (awaitSites q sites).1) p

/-- How many of the runs list a call with the number `k`. -/
def timesListed (runs : List (List CallSite)) (k : Nat) : Nat :=
  runs.countP fun sites => k ∈ sites.map CallSite.ordinal

theorem timesListed_concat (runs : List (List CallSite)) (sites : List CallSite) (k : Nat) :
    timesListed (runs ++ [sites]) k = timesListed runs k + hits (sites.map CallSite.ordinal) k := by
  rw [timesListed, List.countP_append, List.countP_singleton, timesListed, hits]
  simp only [decide_eq_true_eq]

/-- Runs in turn put as many awaits around a call as there are runs that list it. -/
theorem awaitInTurn_eq (p : Program) (runs : List (List CallSite)) :
    awaitInTurn p runs = awaitingTimes p (timesListed runs) := by
  induction runs using List.reverseRecOn with
  | nil => exact (awaitingTimes_of_eq_zero fun k _ => rfl).symm
  | append_singleton runs sites ih =>
    have hlast : awaitInTurn p (runs ++ [sites]) = (awaitSites (awaitInTurn p runs) sites).1 := by
      rw [awaitInTurn, List.foldl_append, List.foldl_cons, List.foldl_nil]
      rfl
    rw [hlast, ih, awaitSites_eq_awaitingTimes, awaitingTimes_awaitingTimes]
    exact awaitingTimes_congr fun k _ => (timesListed_concat runs sites k).symm

/-! ## Two runs -/

theorem awaitSites_awaitSites_comm (p : Program) (a b : List CallSite) :
    (awaitSites (awaitSites p a).1 b).1 = (awaitSites (awaitSites p b).1 a).1 := by
  rw [awaitSites_eq_awaitingTimes, awaitSites_eq_awaitingTimes, awaitSites_eq_awaitingTimes,
    awaitSites_eq_awaitingTimes, awaitingTimes_awaitingTimes, awaitingTimes_awaitingTimes]
  exact awaitingTimes_congr fun k _ => Nat.add_comm _ _

/-- A run counts the same calls whatever was awaited before. -/
theorem count_awaitSites_awaitSites (p : Program) (a b : List CallSite) :
    (awaitSites (awaitSites p a).1 b).2 = (awaitSites p b).2 := by
  have hsame := hitNumbers_awaitNumbered p (a.map CallSite.ordinal) (b.map CallSite.ordinal)
  rw [awaitSites, awaitNumbered_eq, awaitSites, awaitSites, awaitNumbered_eq p (b.map _)]
  exact congrArg Finset.card hsame

theorem awaitSites_append_of_disjoint (p : Program) {a b : List CallSite}
    (h : ∀ s ∈ a, ∀ t ∈ b, s.ordinal ≠ t.ordinal) :
    (awaitSites p (a ++ b)).1 = (awaitSites (awaitSites p a).1 b).1 ∧
      (awaitSites p (a ++ b)).2 = (awaitSites p a).2 + (awaitSites p b).2 := by
  have hnot : ∀ k ∈ b.map CallSite.ordinal, k ∉ a.map CallSite.ordinal := by
    intro k hb ha
    obtain ⟨t, ht, rfl⟩ := List.mem_map.mp hb
    obtain ⟨s, hs, heq⟩ := List.mem_map.mp ha
    exact h s hs t ht heq
  have hcard : Disjoint (hitNumbers p (a.map CallSite.ordinal)) (hitNumbers p (b.map CallSite.ordinal)) :=
    Finset.disjoint_left.mpr fun k ha hb => hnot k (mem_hitNumbers.mp hb).1 (mem_hitNumbers.mp ha).1
  constructor
  · rw [awaitSites, List.map_append]
    exact (awaitNumbered_awaitNumbered p hnot).symm
  · rw [awaitSites, awaitSites, awaitSites, List.map_append, awaitNumbered_eq, awaitNumbered_eq,
      awaitNumbered_eq, hitNumbers_append]
    exact Finset.card_union_of_disjoint hcard

/-! ## Marking what several runs insert -/

/-- A marked node with a number of inserted awaits around it. -/
def Marked.awaitedTimes (span : Span) : Nat → Marked → Marked
  | 0, m => m
  | t + 1, m => .inserted .await span .operand (m.awaitedTimes span t)

mutual

/-- The marked tree after runs that have put `times k` awaits around call number `k`. -/
def markTimes (times : Nat → Nat) (next : Nat) : Node → Marked
  | .mk kind span parts =>
    (Marked.original kind span
      (markTimesAll times (some kind) (next + kind.calls) parts)).awaitedTimes span
      (if kind = .call then times next else 0)

def markTimesAll (times : Nat → Nat) (parent : Option Kind) (next : Nat) : Children → MarkedParts
  | .nil => .nil
  | .cons slot n rest =>
    .cons slot ((markTimes times next n).inPlace ⟨parent, slot⟩)
      (markTimesAll times parent (next + n.callCount) rest)

end

/-- An inserted node is an `await` around a call, or around another inserted one, or parentheses around
an `await` in one of the ten places where a left-hand-side expression must stand. -/
inductive LayeredIn (place : Place) : Kind → Span → Slot → Marked → Prop
  | call {span : Span} {parts : MarkedParts} :
    LayeredIn place .await span .operand (.original .call span parts)
  | again {span : Span} {inner : Marked} :
    LayeredIn place .await span .operand (.inserted .await span .operand inner)
  | paren {inner : Marked} : LeftHandPlace place → inner.after.kind = .await →
    LayeredIn place .paren inner.after.span .expr inner

mutual

/-- All inserted nodes are of these forms; `place` is where the root stands. -/
def Marked.OnlyLayers (place : Place) : Marked → Prop
  | .original kind _ parts => parts.OnlyLayers (some kind)
  | .inserted kind span inside inner =>
    LayeredIn place kind span inside inner ∧ inner.OnlyLayers ⟨some kind, inside⟩

def MarkedParts.OnlyLayers (parent : Option Kind) : MarkedParts → Prop
  | .nil => True
  | .cons slot child rest => child.OnlyLayers ⟨parent, slot⟩ ∧ rest.OnlyLayers parent

end

theorem Marked.before_awaitedTimes (span : Span) (t : Nat) (m : Marked) :
    (m.awaitedTimes span t).before = m.before := by
  induction t with
  | zero => rfl
  | succ t ih => exact ih

theorem Marked.after_awaitedTimes (t : Nat) (m : Marked) :
    (m.awaitedTimes m.after.span t).after = AwaitCalls.awaitedTimes t m.after := by
  induction t with
  | zero => rfl
  | succ t ih =>
    rw [Marked.awaitedTimes, Marked.after, ih, AwaitCalls.awaitedTimes, awaited, span_awaitedTimes]
    rfl

theorem Marked.calls_awaitedTimes (span : Span) (t : Nat) (m : Marked) (around : List (Kind × Span)) :
    (m.awaitedTimes span t).calls around = m.calls (List.replicate t (.await, span) ++ around) := by
  induction t generalizing around with
  | zero => rfl
  | succ t ih =>
    rw [Marked.awaitedTimes, Marked.calls, ih, List.replicate_succ', List.append_assoc]
    rfl

mutual

theorem before_markTimes (times : Nat → Nat) : ∀ (next : Nat) (n : Node),
    (markTimes times next n).before = n
  | next, .mk kind span parts => by
    rw [markTimes, Marked.before_awaitedTimes, Marked.before, before_markTimesAll]

theorem before_markTimesAll (times : Nat → Nat) (parent : Option Kind) :
    ∀ (next : Nat) (parts : Children), (markTimesAll times parent next parts).before = parts
  | _, .nil => rfl
  | next, .cons slot n rest => by
    rw [markTimesAll, MarkedParts.before, Marked.before_inPlace, before_markTimes, before_markTimesAll]

end

mutual

theorem after_markTimes (times : Nat → Nat) : ∀ (next : Nat) (n : Node),
    (markTimes times next n).after = parenthesizeNode (withAwaits times next n)
  | next, .mk kind span parts => by
    have hroot := Marked.after_awaitedTimes (if kind = .call then times next else 0)
      (.original kind span (markTimesAll times (some kind) (next + kind.calls) parts))
    rw [markTimes, withAwaits, parenthesizeNode_awaitedTimes, parenthesizeNode,
      ← after_markTimesAll times (some kind) (next + kind.calls) parts]
    exact hroot

theorem after_markTimesAll (times : Nat → Nat) (parent : Option Kind) :
    ∀ (next : Nat) (parts : Children), (markTimesAll times parent next parts).after =
      parenthesizeChildren parent (withAwaitsAll times next parts)
  | _, .nil => rfl
  | next, .cons slot n rest => by
    rw [markTimesAll, MarkedParts.after, Marked.after_inPlace, after_markTimes, after_markTimesAll,
      withAwaitsAll, parenthesizeChildren_cons]

end

/-- Awaits around a call are of the forms that runs insert. -/
theorem Marked.onlyLayers_awaitedTimes {span : Span} {parts : MarkedParts}
    (h : parts.OnlyLayers (some .call)) (t : Nat) (place : Place) :
    ((Marked.original .call span parts).awaitedTimes span t).OnlyLayers place := by
  induction t generalizing place with
  | zero => exact h
  | succ t ih =>
    refine ⟨?_, ih ⟨some .await, .operand⟩⟩
    cases t with
    | zero => exact .call
    | succ t => exact .again

theorem Marked.onlyLayers_inPlace {m : Marked} (h : ∀ place, m.OnlyLayers place) (place : Place) :
    (m.inPlace place).OnlyLayers place := by
  unfold Marked.inPlace
  split
  · rename_i hparen
    exact ⟨.paren (asksLeftHandSide_iff.mp hparen.1) hparen.2, h _⟩
  · exact h place

mutual

theorem onlyLayers_markTimes (times : Nat → Nat) : ∀ (next : Nat) (n : Node) (place : Place),
    (markTimes times next n).OnlyLayers place
  | next, .mk kind span parts, place => by
    have hparts := onlyLayers_markTimesAll times (some kind) (next + kind.calls) parts
    rw [markTimes]
    by_cases hk : kind = .call
    · subst hk
      exact Marked.onlyLayers_awaitedTimes hparts _ place
    · rw [if_neg hk]
      exact hparts

theorem onlyLayers_markTimesAll (times : Nat → Nat) (parent : Option Kind) :
    ∀ (next : Nat) (parts : Children), (markTimesAll times parent next parts).OnlyLayers parent
  | _, .nil => trivial
  | next, .cons slot n rest =>
    ⟨Marked.onlyLayers_inPlace (onlyLayers_markTimes times next n) ⟨parent, slot⟩,
      onlyLayers_markTimesAll times parent (next + n.callCount) rest⟩

end

theorem LayeredIn.ne_call {place : Place} {inside : Slot} {kind : Kind} {span : Span} {inner : Marked}
    (h : LayeredIn place kind span inside inner) : kind ≠ .call := by
  cases h <;> simp

mutual

/-- Calls are not inserted, so that the calls of the result are the marked calls. -/
theorem Marked.map_after_calls_of_onlyLayers : ∀ (m : Marked) (around : List (Kind × Span))
    {place : Place}, m.OnlyLayers place → (m.calls around).map MarkedCall.after = m.after.calls
  | .original kind span parts, around, place, h => by
    rw [Marked.calls, Marked.after, Node.calls, List.map_append,
      parts.map_after_calls_of_onlyLayers h]
    by_cases hk : kind = .call <;> simp [hk, MarkedCall.after]
  | .inserted kind span inside inner, around, place, h => by
    rw [Marked.calls, Marked.after, inner.map_after_calls_of_onlyLayers _ h.2, Node.calls,
      Children.calls]
    simp [h.1.ne_call, Children.calls]

theorem MarkedParts.map_after_calls_of_onlyLayers : ∀ (m : MarkedParts) {parent : Option Kind},
    m.OnlyLayers parent → m.calls.map MarkedCall.after = m.after.calls
  | .nil, _, _ => rfl
  | .cons slot child rest, parent, h => by
    rw [MarkedParts.calls, MarkedParts.after, Children.calls, List.map_append,
      child.map_after_calls_of_onlyLayers _ h.1, rest.map_after_calls_of_onlyLayers h.2]

end

/-- A call has a number of inserted awaits around it, one right in the other and all with its span,
perhaps with parentheses around the outermost. -/
def MarkedCall.HasAwaits (c : MarkedCall) (t : Nat) : Prop :=
  c.around = List.replicate t (.await, c.span) ∨
    0 < t ∧ c.around = List.replicate t (.await, c.span) ++ [(.paren, c.span)]

/-- The calls of a node in its place: the node itself, if it is a call, and the calls of its parts. -/
theorem calls_markTimes (times : Nat → Nat) (next : Nat) (kind : Kind) (span : Span)
    (parts : Children) (place : Place) :
    ∃ around, ((markTimes times next (.mk kind span parts)).inPlace place).calls [] =
        (if kind = .call then
          [⟨around, span, markTimesAll times (some kind) (next + kind.calls) parts⟩] else []) ++
          (markTimesAll times (some kind) (next + kind.calls) parts).calls ∧
      (kind = .call → MarkedCall.HasAwaits
        ⟨around, span, markTimesAll times (some kind) (next + kind.calls) parts⟩ (times next)) := by
  have hroot : ∀ around, (markTimes times next (.mk kind span parts)).calls around =
      (if kind = .call then [⟨List.replicate (times next) (.await, span) ++ around, span,
        markTimesAll times (some kind) (next + kind.calls) parts⟩] else []) ++
        (markTimesAll times (some kind) (next + kind.calls) parts).calls := by
    intro around
    rw [markTimes, Marked.calls_awaitedTimes, Marked.calls]
    by_cases hk : kind = .call <;> simp [hk]
  have hafter := after_markTimes times next (.mk kind span parts)
  unfold Marked.inPlace
  split
  · -- the parentheses are around an await, which is inserted if the node is a call
    rename_i hparen
    have hspan : (markTimes times next (.mk kind span parts)).after.span = span := by
      rw [hafter, span_parenthesizeNode, span_withAwaits]
      rfl
    have hpos : kind = .call → 0 < times next := by
      rintro rfl
      refine Nat.pos_of_ne_zero fun hzero => ?_
      have hk := hparen.2
      rw [hafter, kind_parenthesizeNode, withAwaits, if_pos rfl, hzero] at hk
      simp [awaitedTimes, Node.kind] at hk
    refine ⟨List.replicate (times next) (.await, span) ++ [(.paren, span)], ?_,
      fun hk => .inr ⟨hpos hk, rfl⟩⟩
    rw [Marked.calls, hspan, hroot]
  · refine ⟨List.replicate (times next) (.await, span), ?_, fun _ => .inl rfl⟩
    rw [hroot, List.append_nil]

theorem length_calls_markTimes (times : Nat → Nat) (next : Nat) (n : Node) (place : Place) :
    (((markTimes times next n).inPlace place).calls []).length = n.callCount := by
  rw [← List.length_map (f := MarkedCall.before), Marked.map_before_calls, Marked.before_inPlace,
    before_markTimes, Node.length_calls]

mutual

/-- Call number `k` of a node has `times k` awaits around it. -/
theorem hasAwaits_markTimes (times : Nat → Nat) : ∀ (next : Nat) (n : Node) (place : Place),
    ∀ x ∈ (((markTimes times next n).inPlace place).calls []).zipIdx next, x.1.HasAwaits (times x.2)
  | next, .mk kind span parts, place => by
    have hparts := hasAwaits_markTimesAll times (some kind) (next + kind.calls) parts
    obtain ⟨around, hcalls, hroot⟩ := calls_markTimes times next kind span parts place
    rw [hcalls]
    by_cases hk : kind = .call
    · subst hk
      intro x hx
      rw [if_pos rfl, List.singleton_append, List.zipIdx_cons, List.mem_cons] at hx
      obtain rfl | hx := hx
      · exact hroot rfl
      · exact hparts x hx
    · rw [if_neg hk, List.nil_append]
      simpa [Kind.calls, hk] using hparts

theorem hasAwaits_markTimesAll (times : Nat → Nat) (parent : Option Kind) :
    ∀ (next : Nat) (parts : Children),
    ∀ x ∈ (markTimesAll times parent next parts).calls.zipIdx next, x.1.HasAwaits (times x.2)
  | _, .nil => by simp [markTimesAll, MarkedParts.calls]
  | next, .cons slot n rest => by
    intro x hx
    rw [markTimesAll, MarkedParts.calls, List.zipIdx_append, List.mem_append,
      length_calls_markTimes] at hx
    exact hx.elim (hasAwaits_markTimes times next n ⟨parent, slot⟩ x)
      (hasAwaits_markTimesAll times parent _ rest x)

end

/-! ## Main statement -/

/-- The program `q` is `p` with `times k` awaits put around call number `k`, and parentheses around some
awaits. -/
structure AwaitsLayered (p : Program) (times : Nat → Nat) (q : Program) : Prop where
  isModule : q.isModule = p.isModule
  interpreter : q.interpreter = p.interpreter
  span : q.span = p.span
  /-- There are as many calls as before. -/
  count : q.body.callPositions.length = p.body.callPositions.length
  /-- Deleting the inserted nodes gives `p` back. Call number `k` is call number `k` of `p` with
  insertions inside, and it has `times k` inserted awaits around it. -/
  marked : ∃ m : MarkedParts, m.before = p.body ∧ m.after = q.body ∧ m.OnlyLayers none ∧
    ∀ k : Fin p.body.callPositions.length, ∃ c, m.calls[k]? = some c ∧
      p.body.call? k = some c.before ∧ q.body.call? k = some c.after ∧ c.HasAwaits (times k)

theorem awaitsLayered_awaitingTimes {p : Program} {times : Nat → Nat}
    (h : ¬ ∀ k < p.body.callCount, times k = 0) :
    AwaitsLayered p times (awaitingTimes p times) where
  isModule := rfl
  interpreter := rfl
  span := rfl
  count := by
    rw [Children.length_callPositions, callCount_awaitingTimes, Children.length_callPositions]
  marked := by
    have hbefore := before_markTimesAll times none 0 p.body
    have hafter := (after_markTimesAll times none 0 p.body).trans (body_awaitingTimes_of_ne_zero h).symm
    have honly := onlyLayers_markTimesAll times none 0 p.body
    refine ⟨markTimesAll times none 0 p.body, hbefore, hafter, honly, fun k => ?_⟩
    have hlen : (markTimesAll times none 0 p.body).calls.length = p.body.callPositions.length := by
      rw [← List.length_map (f := MarkedCall.before), MarkedParts.map_before_calls, hbefore,
        Children.length_calls, Children.length_callPositions]
    have hk : (markTimesAll times none 0 p.body).calls[k.val]? =
        some ((markTimesAll times none 0 p.body).calls.get (k.cast hlen.symm)) :=
      List.getElem?_eq_getElem (by rw [hlen]; exact k.isLt)
    refine ⟨_, hk, ?_, ?_, ?_⟩
    · rw [Children.call?_eq, ← congrArg Children.calls hbefore, ← MarkedParts.map_before_calls,
        List.getElem?_map, hk]
      rfl
    · rw [Children.call?_eq, ← congrArg Children.calls hafter,
        ← MarkedParts.map_after_calls_of_onlyLayers _ honly, List.getElem?_map, hk]
      rfl
    · exact hasAwaits_markTimesAll times none 0 p.body (_, k.val) (List.mem_zipIdx_iff_getElem?.mpr hk)

/-- Two runs with any sites give the same program in either order and count the same calls in all; if
they share no number, one run with both lists does the same and counts as many. After any runs in turn,
call number `k` is still call number `k`, with as many awaits around it as there were runs that list it;
if none lists a call of the program, it stays as it is. -/
theorem awaitSites_runs_add_up (p : Program) :
    (∀ a b : List CallSite,
      (awaitSites (awaitSites p a).1 b).1 = (awaitSites (awaitSites p b).1 a).1 ∧
      (awaitSites p a).2 + (awaitSites (awaitSites p a).1 b).2 =
        (awaitSites p b).2 + (awaitSites (awaitSites p b).1 a).2 ∧
      ((∀ s ∈ a, ∀ t ∈ b, s.ordinal ≠ t.ordinal) →
        (awaitSites (awaitSites p a).1 b).1 = (awaitSites p (a ++ b)).1 ∧
        (awaitSites (awaitSites p b).1 a).1 = (awaitSites p (a ++ b)).1 ∧
        (awaitSites p (a ++ b)).2 = (awaitSites p a).2 + (awaitSites (awaitSites p a).1 b).2)) ∧
    ∀ runs : List (List CallSite),
      ((∀ k < p.body.callPositions.length, timesListed runs k = 0) → awaitInTurn p runs = p) ∧
      ((∃ k < p.body.callPositions.length, timesListed runs k ≠ 0) →
        AwaitsLayered p (timesListed runs) (awaitInTurn p runs)) := by
  refine ⟨fun a b => ⟨awaitSites_awaitSites_comm p a b, ?_, fun h => ?_⟩, fun runs => ?_⟩
  · rw [count_awaitSites_awaitSites, count_awaitSites_awaitSites, Nat.add_comm]
  · obtain ⟨htree, hcount⟩ := awaitSites_append_of_disjoint p h
    refine ⟨htree.symm, ?_, ?_⟩
    · rw [htree, awaitSites_awaitSites_comm]
    · rw [hcount, count_awaitSites_awaitSites]
  · rw [Children.length_callPositions, awaitInTurn_eq]
    refine ⟨awaitingTimes_of_eq_zero, fun hsome => awaitsLayered_awaitingTimes fun hnone => ?_⟩
    obtain ⟨k, hk, hlisted⟩ := hsome
    exact hlisted (hnone k hk)

end AwaitCalls
