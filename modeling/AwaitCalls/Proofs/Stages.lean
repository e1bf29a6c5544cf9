import AwaitCalls.Proofs.Scanning
import AwaitCalls.Proofs.Awaits
import AwaitCalls.Proofs.Spelling
import AwaitCalls.Proofs.FirstMentions

/-!
# Awaiting in stages

What a scan finds depends on a tree only up to spans and up to parentheses around an `await`, and a
call that has got an `await` is found no more. So a scan after some calls have been awaited finds what
it would have found before, less those calls, and two runs in a row, in either order, do what one run
with the patterns of both does. Nothing here says how a program is read or printed.
-/
namespace AwaitCalls

open AwaitCalls.Syntax AwaitCalls.Text

/-! ## Trees up to spans and parentheses -/

/-- A node without a span, or the `await` in it if it is just parentheses around one. -/
def bareNode : Kind → Children → Node
  | .paren, .cons _ (.mk .await span parts) .nil => .mk .await span parts
  | kind, parts => .mk kind ⟨0, 0⟩ parts

mutual

/-- A tree without spans and without parentheses around an `await`. -/
def bare : Node → Node
  | .mk kind _ parts => bareNode kind (bareAll parts)

def bareAll : Children → Children
  | .nil => .nil
  | .cons slot n rest => .cons slot (bare n) (bareAll rest)

end

/-- Either the node is parentheses around an `await`, or it keeps its kind and parts. -/
theorem bareNode_cases (kind : Kind) (parts : Children) :
    (kind = .paren ∧ ∃ slot n, parts = .cons slot n .nil ∧ n.kind = .await ∧ bareNode kind parts = n) ∨
      bareNode kind parts = .mk kind ⟨0, 0⟩ parts := by
  unfold bareNode
  split
  · exact .inl ⟨rfl, _, _, rfl, rfl, rfl⟩
  · exact .inr rfl

theorem bareNode_of_ne_paren {kind : Kind} (h : kind ≠ .paren) (parts : Children) :
    bareNode kind parts = .mk kind ⟨0, 0⟩ parts := by
  obtain ⟨rfl, -⟩ | hkeep := bareNode_cases kind parts
  · exact absurd rfl h
  · exact hkeep

theorem bareNode_paren_await (slot : Slot) {n : Node} (h : n.kind = .await) :
    bareNode .paren (.cons slot n .nil) = n := by
  obtain ⟨kind, span, parts⟩ := n
  obtain rfl : kind = .await := h
  rfl

theorem kind_bare_of_await {n : Node} (h : n.kind = .await) : (bare n).kind = .await := by
  obtain ⟨kind, span, parts⟩ := n
  obtain rfl : kind = .await := h
  rw [bare, bareNode_of_ne_paren (by simp)]
  rfl

theorem bare_parenthesizedIn (place : Place) (n : Node) : bare (parenthesizedIn place n) = bare n := by
  by_cases h : n.kind = .await
  · unfold parenthesizedIn
    split
    · rw [parenthesized, if_pos h, Node.of, Children.ofList, Children.ofList, bare, bareAll, bareAll,
        bareNode_paren_await _ (kind_bare_of_await h)]
    · rfl
  · rw [parenthesizedIn_of_ne_await h]

mutual

/-- Parenthesising puts parentheses around an `await` only. -/
theorem bare_parenthesizeNode : ∀ n : Node, bare (parenthesizeNode n) = bare n
  | .mk kind span parts => by rw [parenthesizeNode, bare, bareAll_parenthesizeChildren, bare]

theorem bareAll_parenthesizeChildren (parent : Option Kind) : ∀ parts : Children,
    bareAll (parenthesizeChildren parent parts) = bareAll parts
  | .nil => rfl
  | .cons slot n rest => by
    rw [parenthesizeChildren_cons, bareAll, bare_parenthesizedIn, bare_parenthesizeNode,
      bareAll_parenthesizeChildren, bareAll]

end

/-! ## Spellings do not change -/

@[simp]
theorem spelling_of_call (span : Span) (parts : Children) : spelling (.mk .call span parts) = none := by
  rw [spelling_mk]
  rfl

@[simp]
theorem spelling_of_await (span : Span) (parts : Children) :
    spelling (.mk .await span parts) = none := by
  rw [spelling_mk]
  rfl

theorem spelling_awaitedTimes_call (m : Nat) (span : Span) (parts : Children) :
    spelling (awaitedTimes m (.mk .call span parts)) = none := by
  cases m with
  | zero => exact spelling_of_call span parts
  | succ m => exact spelling_of_await _ _

theorem nameOf_awaitedTimes_call (m : Nat) (span : Span) (parts : Children) :
    nameOf (awaitedTimes m (.mk .call span parts)).kind = none := by
  cases m <;> rfl

theorem nameOf_bare (n : Node) : nameOf (bare n).kind = nameOf n.kind := by
  obtain ⟨kind, span, parts⟩ := n
  rw [bare]
  obtain ⟨rfl, slot, n, -, hn, heq⟩ | hkeep := bareNode_cases kind (bareAll parts)
  · rw [heq, hn]
    rfl
  · rw [hkeep]
    rfl

theorem nameOf_withAwaits (times : Nat → Nat) (next : Nat) (n : Node) :
    nameOf (withAwaits times next n).kind = nameOf n.kind := by
  obtain ⟨kind, span, parts⟩ := n
  by_cases h : kind = .call
  · subst h
    rw [withAwaits, nameOf_awaitedTimes_call]
    rfl
  · rw [withAwaits_of_ne_call h]
    rfl

theorem secondName_bareAll (parts : Children) : secondName (bareAll parts) = secondName parts := by
  match parts with
  | .nil | .cons _ _ .nil => rfl
  | .cons _ _ (.cons _ n _) => exact nameOf_bare n

theorem secondName_withAwaitsAll (times : Nat → Nat) (next : Nat) (parts : Children) :
    secondName (withAwaitsAll times next parts) = secondName parts := by
  match parts with
  | .nil | .cons _ _ .nil => rfl
  | .cons _ _ (.cons _ n _) => exact nameOf_withAwaits times _ n

mutual

theorem spelling_bare : ∀ n : Node, spelling (bare n) = spelling n
  | .mk kind span parts => by
    have hkept : spelling (.mk kind ⟨0, 0⟩ (bareAll parts)) = spelling (.mk kind span parts) :=
      spelling_congr (firstSpelling_bareAll parts) (secondName_bareAll parts)
    rw [bare, ← hkept]
    obtain ⟨rfl, slot, n, hparts, -, heq⟩ | hkeep := bareNode_cases kind (bareAll parts)
    · rw [heq, hparts, spelling_mk]
      rfl
    · rw [hkeep]

theorem firstSpelling_bareAll : ∀ parts : Children, firstSpelling (bareAll parts) = firstSpelling parts
  | .nil => rfl
  | .cons _ n _ => spelling_bare n

end

mutual

/-- Awaits never make an expression spell another path: calls spell none. -/
theorem spelling_withAwaits (times : Nat → Nat) : ∀ (next : Nat) (n : Node),
    spelling (withAwaits times next n) = spelling n
  | next, .mk kind span parts => by
    by_cases h : kind = .call
    · subst h
      rw [withAwaits, spelling_awaitedTimes_call, spelling_of_call]
    · rw [withAwaits_of_ne_call h]
      exact spelling_congr (firstSpelling_withAwaitsAll times next parts)
        (secondName_withAwaitsAll times next parts)

theorem firstSpelling_withAwaitsAll (times : Nat → Nat) : ∀ (next : Nat) (parts : Children),
    firstSpelling (withAwaitsAll times next parts) = firstSpelling parts
  | _, .nil => rfl
  | next, .cons _ n _ => spelling_withAwaits times next n

end

theorem calleeSpelling_cons (slot : Slot) (n : Node) (rest : Children) :
    calleeSpelling (.cons slot n rest) = if slot = .callee then spelling n else calleeSpelling rest := by
  rw [calleeSpelling, Children.find?]
  split <;> rfl

theorem calleeMatch_bareAll (patterns : PatternSet) (parts : Children) :
    calleeMatch patterns (bareAll parts) = calleeMatch patterns parts := by
  have h : calleeSpelling (bareAll parts) = calleeSpelling parts := by
    induction parts with
    | nil => rfl
    | cons slot n rest ih => rw [bareAll, calleeSpelling_cons, calleeSpelling_cons, spelling_bare, ih]
  rw [calleeMatch_eq, calleeMatch_eq, h]

theorem calleeMatch_withAwaitsAll (patterns : PatternSet) (times : Nat → Nat) (next : Nat)
    (parts : Children) :
    calleeMatch patterns (withAwaitsAll times next parts) = calleeMatch patterns parts := by
  have h : calleeSpelling (withAwaitsAll times next parts) = calleeSpelling parts := by
    induction parts generalizing next with
    | nil => rfl
    | cons slot n rest ih =>
      rw [withAwaitsAll, calleeSpelling_cons, calleeSpelling_cons, spelling_withAwaits, ih]
  rw [calleeMatch_eq, calleeMatch_eq, h]

/-! ## What a scan finds afterwards -/

/-- The number of a site and the pattern that it matches. -/
def CallSite.found (site : CallSite) : Nat × Nat := (site.ordinal, site.pattern)

theorem found_siteHere_congr (patterns : PatternSet) (b : Bool) (k : Nat) (kind : Kind)
    (span span' : Span) {parts parts' : Children}
    (h : calleeMatch patterns parts = calleeMatch patterns parts') :
    (siteHere patterns b k kind span parts).map CallSite.found =
      (siteHere patterns b k kind span' parts').map CallSite.found := by
  rw [siteHere, siteHere, h]
  split
  · cases calleeMatch patterns parts' <;> rfl
  · rfl

theorem callCount_bareNode (kind : Kind) (parts : Children) :
    (bareNode kind parts).callCount = kind.calls + parts.callCount := by
  obtain ⟨rfl, slot, n, rfl, -, heq⟩ | hkeep := bareNode_cases kind parts
  · rw [heq, Children.callCount, Children.callCount]
    simp [Kind.calls]
  · rw [hkeep, Node.callCount]

mutual

theorem callCount_bare : ∀ n : Node, (bare n).callCount = n.callCount
  | .mk kind span parts => by rw [bare, callCount_bareNode, callCount_bareAll, Node.callCount]

theorem callCount_bareAll : ∀ parts : Children, (bareAll parts).callCount = parts.callCount
  | .nil => rfl
  | .cons _ n rest => by
    rw [bareAll, Children.callCount, callCount_bare, callCount_bareAll, Children.callCount]

end

/-- Parentheses hand down to the `await` in them whether they are awaited. -/
theorem sitesIn_bareNode (patterns : PatternSet) (b : Bool) (k : Nat) (kind : Kind) (parts : Children) :
    sitesIn patterns b k (bareNode kind parts) = sitesIn patterns b k (.mk kind ⟨0, 0⟩ parts) := by
  obtain ⟨rfl, slot, n, rfl, -, heq⟩ | hkeep := bareNode_cases kind parts
  · rw [heq, sitesIn, sitesInAll, sitesInAll]
    simp [siteHere, Kind.calls, Kind.awaitsFirst]
  · rw [hkeep]

mutual

/-- A scan does not see spans, nor parentheses around an `await`. -/
theorem found_sitesIn_bare (patterns : PatternSet) : ∀ (b : Bool) (k : Nat) (n : Node),
    (sitesIn patterns b k (bare n)).map CallSite.found = (sitesIn patterns b k n).map CallSite.found
  | b, k, .mk kind span parts => by
    rw [bare, sitesIn_bareNode, sitesIn, sitesIn, List.map_append, List.map_append,
      found_sitesInAll_bareAll,
      found_siteHere_congr patterns b k kind _ span (calleeMatch_bareAll patterns parts)]

theorem found_sitesInAll_bareAll (patterns : PatternSet) : ∀ (b : Bool) (k : Nat) (parts : Children),
    (sitesInAll patterns b k (bareAll parts)).map CallSite.found =
      (sitesInAll patterns b k parts).map CallSite.found
  | _, _, .nil => rfl
  | b, k, .cons _ n rest => by
    rw [bareAll, sitesInAll, sitesInAll, List.map_append, List.map_append, found_sitesIn_bare,
      callCount_bare, found_sitesInAll_bareAll]

end

/-- Programs that agree up to spans and parentheses around an `await` have the same sites. -/
theorem found_scan_congr (patterns : PatternSet) {p q : Program} (h : bareAll p.body = bareAll q.body) :
    (scan p patterns).map CallSite.found = (scan q patterns).map CallSite.found := by
  rw [scan_eq_sitesInAll, scan_eq_sitesInAll, ← found_sitesInAll_bareAll, h, found_sitesInAll_bareAll]

theorem siteHere_of_ne_call (patterns : PatternSet) (b : Bool) (k : Nat) {kind : Kind}
    (h : kind ≠ .call) (span : Span) (parts : Children) :
    siteHere patterns b k kind span parts = [] := if_neg fun hc => h hc.1

/-- The sites in an awaited node are those of a node that is the operand of an `await`. -/
theorem sitesIn_awaited (patterns : PatternSet) (b : Bool) (k : Nat) (n : Node) :
    sitesIn patterns b k (awaited n) = sitesIn patterns true k n := by
  rw [awaited, Node.of, Children.ofList, Children.ofList, sitesIn, sitesInAll, sitesInAll,
    siteHere_of_ne_call patterns b k (by simp), List.nil_append, List.append_nil]
  rfl

theorem sitesIn_awaitedTimes (patterns : PatternSet) (b : Bool) (k m : Nat) (n : Node) :
    sitesIn patterns b k (awaitedTimes m n) =
      sitesIn patterns (if m = 0 then b else true) k n := by
  induction m generalizing b with
  | zero => rfl
  | succ m ih => rw [awaitedTimes, sitesIn_awaited, ih, ite_self, if_neg (Nat.succ_ne_zero m)]

/-- The site of a call stays if the call gets no `await`. -/
theorem siteHere_awaited (patterns : PatternSet) (b : Bool) (k m : Nat) (span : Span)
    {parts parts' : Children} (h : calleeMatch patterns parts' = calleeMatch patterns parts) :
    siteHere patterns (if m = 0 then b else true) k .call span parts' =
      if m = 0 then siteHere patterns b k .call span parts else [] := by
  by_cases hm : m = 0
  · rw [if_pos hm, if_pos hm, siteHere, siteHere, h]
  · rw [if_neg hm, if_neg hm, siteHere, if_neg (by simp)]

theorem filter_siteHere (patterns : PatternSet) (b : Bool) (k : Nat) (kind : Kind) (span : Span)
    (parts : Children) (keep : Nat → Bool) :
    (siteHere patterns b k kind span parts).filter (fun s => keep s.ordinal) =
      if keep k then siteHere patterns b k kind span parts else [] := by
  have hk : ∀ s ∈ siteHere patterns b k kind span parts, s.ordinal = k := fun s hs =>
    (mem_siteHere.mp hs).1
  split
  · rename_i h
    exact List.filter_eq_self.mpr fun s hs => by rw [hk s hs, h]
  · rename_i h
    exact List.filter_eq_nil_iff.mpr fun s hs => by rw [hk s hs]; exact h

mutual

/-- Awaits take away the sites of the calls that get one, and no others. -/
theorem sitesIn_withAwaits (patterns : PatternSet) (times : Nat → Nat) :
    ∀ (b : Bool) (k : Nat) (n : Node),
    sitesIn patterns b k (withAwaits times k n) =
      (sitesIn patterns b k n).filter fun s => times s.ordinal = 0
  | b, k, .mk kind span parts => by
    by_cases h : kind = .call
    · subst h
      rw [withAwaits, if_pos rfl, sitesIn_awaitedTimes, sitesIn, sitesIn, List.filter_append,
        filter_siteHere patterns b k .call span parts (fun k => times k = 0),
        siteHere_awaited patterns b k (times k) span (calleeMatch_withAwaitsAll patterns times _ parts),
        ← sitesInAll_withAwaitsAll]
      simp [Kind.awaitsFirst]
    · rw [withAwaits_of_ne_call h, sitesIn, sitesIn, siteHere_of_ne_call patterns b k h,
        siteHere_of_ne_call patterns b k h, List.nil_append, List.nil_append,
        ← sitesInAll_withAwaitsAll, Kind.calls, if_neg h]
      rfl

theorem sitesInAll_withAwaitsAll (patterns : PatternSet) (times : Nat → Nat) :
    ∀ (b : Bool) (k : Nat) (parts : Children),
    sitesInAll patterns b k (withAwaitsAll times k parts) =
      (sitesInAll patterns b k parts).filter fun s => times s.ordinal = 0
  | _, _, .nil => rfl
  | b, k, .cons slot n rest => by
    rw [withAwaitsAll, sitesInAll, sitesInAll, List.filter_append, sitesIn_withAwaits,
      callCount_withAwaits, sitesInAll_withAwaitsAll]

end

/-- Awaiting the calls with some numbers takes away their sites, whatever the patterns, and neither
adds nor renumbers any other. -/
theorem found_scan_awaitNumbered (p : Program) (patterns : PatternSet) (targets : List Nat) :
    (scan (awaitNumbered p targets).1 patterns).map CallSite.found =
      ((scan p patterns).filter fun s => s.ordinal ∉ targets).map CallSite.found := by
  have hbare : bareAll (awaitNumbered p targets).1.body =
      bareAll (withAwaitsAll (hits targets) 0 p.body) := by
    rw [awaitNumbered_eq]
    dsimp only
    split
    · rename_i h
      rw [withAwaitsAll_of_hitNumbers_eq_empty h]
    · rw [bareAll_parenthesizeChildren]
  have hkeep : ∀ k, decide (hits targets k = 0) = decide (k ∉ targets) := fun k => by simp [hits]
  rw [scan_eq_sitesInAll, ← found_sitesInAll_bareAll, hbare, found_sitesInAll_bareAll,
    sitesInAll_withAwaitsAll, scan_eq_sitesInAll]
  simp only [hkeep]

theorem ordinals_scan_awaitNumbered (p : Program) (patterns : PatternSet) (targets : List Nat) :
    (scan (awaitNumbered p targets).1 patterns).map CallSite.ordinal =
      ((scan p patterns).map CallSite.ordinal).filter (· ∉ targets) := by
  have h := congrArg (List.map Prod.fst) (found_scan_awaitNumbered p patterns targets)
  rw [List.map_map, List.map_map] at h
  rw [List.filter_map]
  exact h

/-! ## Patterns of two sets -/

/-- The set of the patterns of `a` followed by those of `b`. -/
def PatternSet.union (a b : PatternSet) : PatternSet :=
  PatternSet.ofList (a.paths.map AccessPath.display ++ b.paths.map AccessPath.display)

theorem PatternSet.mem_union {a b : PatternSet} {q : AccessPath} :
    q ∈ (a.union b).paths ↔ q ∈ a.paths ∨ q ∈ b.paths := by
  have hparse : AccessPath.parse ∘ AccessPath.display = id := funext AccessPath.parse_display
  rw [union, ofList, mem_insertAll, List.map_append, List.map_map, List.map_map, hparse, List.map_id,
    List.map_id, List.mem_append]
  simp [empty]

theorem calleeMatch_isSome_iff (patterns : PatternSet) (parts : Children) :
    (calleeMatch patterns parts).isSome ↔
      ∃ path ∈ patterns.paths, calleeSpelling parts = some path.segments := by
  rw [calleeMatch_eq]
  cases calleeSpelling parts with
  | none => simp
  | some spelled =>
    rw [Option.bind_some, List.findIdx?_isSome, List.any_eq_true]
    refine exists_congr fun path => and_congr_right fun _ => ?_
    rw [beq_iff_eq, Option.some.injEq, eq_comm]

theorem calleeMatch_union_isSome (a b : PatternSet) (parts : Children) :
    (calleeMatch (a.union b) parts).isSome ↔
      (calleeMatch a parts).isSome ∨ (calleeMatch b parts).isSome := by
  simp only [calleeMatch_isSome_iff, PatternSet.mem_union, or_and_right, exists_or]

/-- A number is that of a site if its call is not awaited and its callee is in the set. -/
theorem mem_ordinals_scan {p : Program} {patterns : PatternSet} {k : Nat} :
    k ∈ (scan p patterns).map CallSite.ordinal ↔
      ∃ π span parts, (π, k) ∈ p.body.callPositions.zipIdx ∧ p.body.awaitedAt false π = false ∧
        p.body.at? π = some (.mk .call span parts) ∧ (calleeMatch patterns parts).isSome := by
  rw [scan_eq_sitesInAll, List.mem_map]
  constructor
  · rintro ⟨site, hsite, rfl⟩
    obtain ⟨π, hπ, haw, parts, hat, hmatch⟩ := (mem_sitesInAll patterns false 0 p.body site).mp hsite
    exact ⟨π, site.span, parts, hπ, haw, hat, by rw [hmatch]; rfl⟩
  · rintro ⟨π, span, parts, hπ, haw, hat, hmatch⟩
    obtain ⟨j, hj⟩ := Option.isSome_iff_exists.mp hmatch
    exact ⟨⟨k, span, j⟩, (mem_sitesInAll patterns false 0 p.body _).mpr ⟨π, hπ, haw, parts, hat, hj⟩,
      rfl⟩

theorem mem_ordinals_scan_union {p : Program} {a b : PatternSet} {k : Nat} :
    k ∈ (scan p (a.union b)).map CallSite.ordinal ↔
      k ∈ (scan p a).map CallSite.ordinal ∨ k ∈ (scan p b).map CallSite.ordinal := by
  simp only [mem_ordinals_scan, calleeMatch_union_isSome, and_or_left, exists_or]

/-! ## Two runs -/

/-- One run: find the calls that match and await them. -/
def awaitMatching (p : Program) (patterns : PatternSet) : Program :=
  (awaitSites p (scan p patterns)).1

/-- A run that finds nothing leaves the program as it is. -/
theorem awaitMatching_of_scan_eq_nil {p : Program} {patterns : PatternSet} (h : scan p patterns = []) :
    awaitMatching p patterns = p := by
  rw [awaitMatching, h]
  rfl

theorem ordinals_scan_awaitMatching (p : Program) (a b : PatternSet) :
    (scan (awaitMatching p a) b).map CallSite.ordinal =
      ((scan p b).map CallSite.ordinal).filter (· ∉ (scan p a).map CallSite.ordinal) :=
  ordinals_scan_awaitNumbered p b _

/-- After a run with some patterns, a scan with the same patterns finds nothing. -/
theorem scan_awaitMatching_self (p : Program) (patterns : PatternSet) :
    scan (awaitMatching p patterns) patterns = [] := by
  have h := ordinals_scan_awaitMatching p patterns patterns
  rw [List.filter_eq_nil_iff.mpr (by simp)] at h
  exact List.map_eq_nil_iff.mp h

/-- Two runs in a row do what one run with the patterns of both does. -/
theorem awaitMatching_awaitMatching (p : Program) (a b : PatternSet) :
    awaitMatching (awaitMatching p a) b = awaitMatching p (a.union b) := by
  have hord := ordinals_scan_awaitMatching p a b
  have hdisjoint : ∀ k ∈ (scan (awaitMatching p a) b).map CallSite.ordinal,
      k ∉ (scan p a).map CallSite.ordinal := by
    rw [hord]
    intro k hk
    simpa using (List.mem_filter.mp hk).2
  have hsame : ∀ k, k ∈ (scan p a).map CallSite.ordinal ++
      (scan (awaitMatching p a) b).map CallSite.ordinal ↔
      k ∈ (scan p (a.union b)).map CallSite.ordinal := by
    intro k
    rw [mem_ordinals_scan_union, List.mem_append, hord, List.mem_filter, decide_eq_true_iff]
    tauto
  calc awaitMatching (awaitMatching p a) b
      = (awaitNumbered p ((scan p a).map CallSite.ordinal ++
          (scan (awaitMatching p a) b).map CallSite.ordinal)).1 :=
        awaitNumbered_awaitNumbered p hdisjoint
    _ = awaitMatching p (a.union b) := congrArg Prod.fst (awaitNumbered_congr p hsame)

theorem awaitMatching_union_comm (p : Program) (a b : PatternSet) :
    awaitMatching p (a.union b) = awaitMatching p (b.union a) := by
  refine congrArg Prod.fst (awaitNumbered_congr p fun k => ?_)
  rw [mem_ordinals_scan_union, mem_ordinals_scan_union, or_comm]

/-- A run with `a` leaves to a run with `b` the sites of `b` that are none of `a`, with their numbers,
and the two do what one run with the patterns of both does, in either order. In particular a second run
with the same patterns finds nothing and changes nothing. -/
theorem awaitMatching_in_stages (p : Program) (a b : PatternSet) :
    (scan (awaitMatching p a) b).map CallSite.ordinal =
      ((scan p b).map CallSite.ordinal).filter (· ∉ (scan p a).map CallSite.ordinal) ∧
    awaitMatching (awaitMatching p a) b = awaitMatching p (a.union b) ∧
    scan (awaitMatching p a) a = [] ∧
    awaitSites (awaitMatching p a) (scan (awaitMatching p a) a) = (awaitMatching p a, 0) ∧
    awaitMatching (awaitMatching p a) b = awaitMatching (awaitMatching p b) a := by
  refine ⟨ordinals_scan_awaitMatching p a b, awaitMatching_awaitMatching p a b,
    scan_awaitMatching_self p a, ?_, ?_⟩
  · rw [scan_awaitMatching_self]
    rfl
  · rw [awaitMatching_awaitMatching, awaitMatching_awaitMatching, awaitMatching_union_comm]

end AwaitCalls
