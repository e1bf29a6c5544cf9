import AwaitCalls.Proofs.Stages

/-!
# One run as one walk

A run finds the calls that match, by their numbers, and then awaits the calls with these numbers. One
walk over the tree does the same without numbers: it awaits each call whose callee is in the set and that
is not awaited yet, and puts the `await` in parentheses where it must.
-/
namespace AwaitCalls

open AwaitCalls.Syntax AwaitCalls.Text

mutual

/-- A node with its calls awaited whose callee is in the set. `isAwaited` says that the node is the
operand of an `await`, perhaps in parentheses. -/
def awaitingNode (patterns : PatternSet) (isAwaited : Bool) : Node → Node
  | .mk kind span parts =>
    awaitedTimes
      (if kind = .call ∧ isAwaited = false ∧ (calleeMatch patterns parts).isSome then 1 else 0)
      (.mk kind span (awaitingParts patterns (kind.awaitsFirst isAwaited) (some kind) parts))

/-- The same in the parts of a node of the given kind, or of a program. `isAwaited` is about the first
one. -/
def awaitingParts (patterns : PatternSet) (isAwaited : Bool) (parent : Option Kind) :
    Children → Children
  | .nil => .nil
  | .cons slot n rest =>
    .cons slot (parenthesizedIn ⟨parent, slot⟩ (awaitingNode patterns isAwaited n))
      (awaitingParts patterns false parent rest)

end

/-! ## Numbers of sites in a range -/

theorem mem_ordinals_siteHere {patterns : PatternSet} {b : Bool} {next k : Nat} {kind : Kind}
    {span : Span} {parts : Children} :
    k ∈ (siteHere patterns b next kind span parts).map CallSite.ordinal ↔
      k = next ∧ kind = .call ∧ b = false ∧ (calleeMatch patterns parts).isSome := by
  unfold siteHere
  split
  · rename_i hcall
    cases calleeMatch patterns parts <;> simp [hcall]
  · rename_i hcall
    simp only [List.map_nil, List.not_mem_nil, false_iff]
    exact fun h => hcall ⟨h.2.1, h.2.2.1⟩

theorem bounds_of_mem_ordinals_sitesIn {patterns : PatternSet} {b : Bool} {next k : Nat} {n : Node}
    (h : k ∈ (sitesIn patterns b next n).map CallSite.ordinal) :
    next ≤ k ∧ k < next + n.callCount :=
  List.mem_range'_1.mp ((ordinals_sitesIn patterns b next n).subset h)

theorem bounds_of_mem_ordinals_sitesInAll {patterns : PatternSet} {b : Bool} {next k : Nat}
    {parts : Children} (h : k ∈ (sitesInAll patterns b next parts).map CallSite.ordinal) :
    next ≤ k ∧ k < next + parts.callCount :=
  List.mem_range'_1.mp ((ordinals_sitesInAll patterns b next parts).subset h)

/-! ## The two walks agree -/

mutual

/-- Where the targets are the sites, awaiting by number is awaiting by callee. -/
theorem parenthesizeNode_withAwaits_hits (patterns : PatternSet) (targets : List Nat) :
    ∀ (b : Bool) (next : Nat) (n : Node),
    (∀ k, next ≤ k → k < next + n.callCount →
      (k ∈ targets ↔ k ∈ (sitesIn patterns b next n).map CallSite.ordinal)) →
    parenthesizeNode (withAwaits (hits targets) next n) = awaitingNode patterns b n
  | b, next, .mk kind span parts, h => by
    have hparts := parenthesizeChildren_withAwaitsAll_hits patterns targets (kind.awaitsFirst b)
      (next + kind.calls) (some kind) parts fun k hlo hhi => by
        rw [h k (by omega) (by rw [Node.callCount]; omega), sitesIn, List.map_append, List.mem_append,
          mem_ordinals_siteHere]
        refine or_iff_right fun ⟨hk, hcall, _⟩ => ?_
        rw [hcall, Kind.calls_call] at hlo
        omega
    have hhere : (if kind = .call then hits targets next else 0) =
        if kind = .call ∧ b = false ∧ (calleeMatch patterns parts).isSome then 1 else 0 := by
      by_cases hcall : kind = .call
      · have hmem : next ∈ targets ↔ b = false ∧ (calleeMatch patterns parts).isSome := by
          rw [h next (Nat.le_refl _) (by rw [Node.callCount, hcall, Kind.calls_call]; omega), sitesIn,
            List.map_append, List.mem_append, mem_ordinals_siteHere, or_iff_left]
          · simp [hcall]
          · intro hin
            have hlo := (bounds_of_mem_ordinals_sitesInAll hin).1
            rw [hcall, Kind.calls_call] at hlo
            omega
        simp [hcall, hits, hmem]
      · simp [hcall]
    rw [withAwaits, hhere, parenthesizeNode_awaitedTimes, parenthesizeNode, hparts, awaitingNode]

theorem parenthesizeChildren_withAwaitsAll_hits (patterns : PatternSet) (targets : List Nat) :
    ∀ (b : Bool) (next : Nat) (parent : Option Kind) (parts : Children),
    (∀ k, next ≤ k → k < next + parts.callCount →
      (k ∈ targets ↔ k ∈ (sitesInAll patterns b next parts).map CallSite.ordinal)) →
    parenthesizeChildren parent (withAwaitsAll (hits targets) next parts) =
      awaitingParts patterns b parent parts
  | _, _, _, .nil, _ => rfl
  | b, next, parent, .cons slot n rest, h => by
    have hn := parenthesizeNode_withAwaits_hits patterns targets b next n fun k hlo hhi => by
      rw [h k hlo (by rw [Children.callCount]; omega), sitesInAll, List.map_append, List.mem_append]
      refine or_iff_left fun hin => ?_
      have hbounds := bounds_of_mem_ordinals_sitesInAll hin
      omega
    have hrest := parenthesizeChildren_withAwaitsAll_hits patterns targets false
      (next + n.callCount) parent rest fun k hlo hhi => by
        rw [h k (by omega) (by rw [Children.callCount]; omega), sitesInAll, List.map_append,
          List.mem_append]
        refine or_iff_right fun hin => ?_
        have hbounds := bounds_of_mem_ordinals_sitesIn hin
        omega
    rw [withAwaitsAll, parenthesizeChildren_cons, hn, hrest, awaitingParts]

end

/-- A run that finds a call is one walk over the items. -/
theorem body_awaitMatching {p : Program} {patterns : PatternSet} (h : scan p patterns ≠ []) :
    (awaitMatching p patterns).body = awaitingParts patterns false none p.body := by
  have hhit : hitNumbers p ((scan p patterns).map CallSite.ordinal) ≠ ∅ := by
    obtain ⟨site, hsite⟩ := List.exists_mem_of_ne_nil _ h
    have hmem : site.ordinal ∈ (scan p patterns).map CallSite.ordinal := List.mem_map_of_mem hsite
    have hlt := List.mem_range.mp ((ordinals_scan p patterns).subset hmem)
    exact Finset.ne_empty_of_mem (mem_hitNumbers.mpr ⟨hmem, hlt⟩)
  rw [awaitMatching, awaitSites, awaitNumbered_eq, if_neg hhit]
  refine parenthesizeChildren_withAwaitsAll_hits patterns _ false 0 none p.body fun k _ _ => ?_
  rw [scan_eq_sitesInAll]

end AwaitCalls
