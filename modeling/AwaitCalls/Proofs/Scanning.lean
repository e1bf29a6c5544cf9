import AwaitCalls.Scan
import AwaitCalls.Proofs.Positions

/-!
# The scanner finds the calls to await, and only those

A scanner learns whether a call is awaited from a word that an `await` leaves for the next call. The
walk is compared with a plain recursion, `sitesIn`, that hands the same knowledge down the tree and
keeps no state. The invariant is `Told`: on coming to a node, the word is left exactly if the node is
the operand of an `await` and is a call in parentheses. From it follow what a step does, what a whole
walk does, and the state in which the walk comes to any position.
-/
namespace AwaitCalls

open AwaitCalls.Syntax AwaitCalls.Text

/-! ## Sites by recursion on the tree -/

/-- The site that a node is by itself. -/
def siteHere (patterns : PatternSet) (isAwaited : Bool) (next : Nat) (kind : Kind) (span : Span)
    (parts : Children) : List CallSite :=
  if kind = .call ∧ isAwaited = false then
    ((calleeMatch patterns parts).map fun pattern => ⟨next, span, pattern⟩).toList
  else []

mutual

/-- The sites in a node whose first call has number `next`. `isAwaited` says that the node is the
operand of an `await`, perhaps in parentheses. -/
def sitesIn (patterns : PatternSet) (isAwaited : Bool) (next : Nat) : Node → List CallSite
  | .mk kind span parts =>
    siteHere patterns isAwaited next kind span parts ++
      sitesInAll patterns (kind.awaitsFirst isAwaited) (next + kind.calls) parts

/-- The sites in a list of parts. `isAwaited` is about the first one. -/
def sitesInAll (patterns : PatternSet) (isAwaited : Bool) (next : Nat) : Children → List CallSite
  | .nil => []
  | .cons _ n rest =>
    sitesIn patterns isAwaited next n ++ sitesInAll patterns false (next + n.callCount) rest

end

/-! ## The word that an `await` leaves -/

namespace Scanner

/-- The scanner comes to a node with the word left exactly if the node is the operand of an `await` and
is a call in parentheses. -/
def Told (st : Scanner) (isAwaited : Bool) (n : Node) : Prop :=
  st.awaitedOperand = (isAwaited && decide (n.unparen.kind = .call))

/-- The same before a list of parts, about the first of them. -/
def ToldAll (st : Scanner) (isAwaited : Bool) (parts : Children) : Prop :=
  st.awaitedOperand = (isAwaited && operandIsCall parts)

theorem unparen_of_ne_paren {kind : Kind} (h : kind ≠ .paren) (span : Span) (parts : Children) :
    (Node.mk kind span parts).unparen = .mk kind span parts := by
  unfold Node.unparen
  split
  · simp_all
  · rfl

/-- Parentheses hold a call if their first part does. -/
theorem unparen_paren_kind (span : Span) (parts : Children) :
    decide ((Node.mk .paren span parts).unparen.kind = .call) = operandIsCall parts := by
  cases parts with
  | nil => rfl
  | cons slot n rest => rfl

/-- What stepping into a node does: it takes a number if it is a call, notes a site if it is one, and
leaves word for the call that it waits for. -/
theorem enter_eq (patterns : PatternSet) {st : Scanner} {isAwaited : Bool} {kind : Kind} {span : Span}
    {parts : Children} (h : st.Told isAwaited (.mk kind span parts)) :
    st.enter patterns kind span parts =
      { next := st.next + kind.calls
        awaitedOperand := kind.awaitsFirst isAwaited && operandIsCall parts
        found := st.found ++ (siteHere patterns isAwaited st.next kind span parts).toArray } := by
  unfold Told at h
  unfold enter
  split
  · simp [Kind.awaitsFirst, Kind.calls, siteHere]
  · rw [unparen_of_ne_paren (by simp)] at h
    have hflag : st.awaitedOperand = isAwaited := by simpa [Node.kind] using h
    cases isAwaited <;> cases hm : calleeMatch patterns parts <;>
      simp [Kind.awaitsFirst, siteHere, hflag, hm]
  · rename_i hawait hcall
    have hnone : siteHere patterns isAwaited st.next kind span parts = [] := by
      rw [siteHere, if_neg (fun hc => hcall hc.1)]
    have hcalls : kind.calls = 0 := if_neg hcall
    have hflag : st.awaitedOperand = (kind.awaitsFirst isAwaited && operandIsCall parts) := by
      by_cases hparen : kind = .paren
      · subst hparen
        simpa [Kind.awaitsFirst, unparen_paren_kind] using h
      · rw [unparen_of_ne_paren hparen] at h
        have hfirst : kind.awaitsFirst isAwaited = false := by
          simp [Kind.awaitsFirst, show kind ≠ .await from hawait, hparen]
        rw [h, hfirst]
        simp [Node.kind, show kind ≠ .call from hcall]
    cases st
    simp_all

theorem toldAll_of_taken {st : Scanner} (h : st.awaitedOperand = false) (parts : Children) :
    st.ToldAll false parts := by
  simp [ToldAll, h]

mutual

/-- A walk over a node numbers its calls, notes its sites and leaves no word behind. -/
theorem visit_eq (patterns : PatternSet) : ∀ (n : Node) {st : Scanner} {isAwaited : Bool},
    st.Told isAwaited n →
    visit patterns st n =
      { next := st.next + n.callCount
        awaitedOperand := false
        found := st.found ++ (sitesIn patterns isAwaited st.next n).toArray }
  | .mk kind span parts, st, isAwaited, h => by
    have hparts : (st.enter patterns kind span parts).ToldAll (kind.awaitsFirst isAwaited) parts := by
      rw [ToldAll, enter_eq patterns h]
    rw [visit, visitAll_eq patterns parts hparts, enter_eq patterns h]
    simp [Node.callCount, sitesIn, Nat.add_assoc]

theorem visitAll_eq (patterns : PatternSet) : ∀ (parts : Children) {st : Scanner} {isAwaited : Bool},
    st.ToldAll isAwaited parts →
    visitAll patterns st parts =
      { next := st.next + parts.callCount
        awaitedOperand := false
        found := st.found ++ (sitesInAll patterns isAwaited st.next parts).toArray }
  | .nil, st, isAwaited, h => by
    have hflag : st.awaitedOperand = false := by simpa [ToldAll, operandIsCall] using h
    cases st
    simp_all [visitAll, sitesInAll, Children.callCount]
  | .cons slot n rest, st, isAwaited, h => by
    have hn : st.Told isAwaited n := h
    rw [visitAll, visit_eq patterns n hn, visitAll_eq patterns rest (toldAll_of_taken rfl rest)]
    simp [Children.callCount, sitesInAll, Nat.add_assoc]

end

end Scanner

/-- The sites of a program, by recursion on its items. -/
theorem scan_eq_sitesInAll (p : Program) (patterns : PatternSet) :
    scan p patterns = sitesInAll patterns false 0 p.body := by
  rw [scan, Scanner.visitAll_eq patterns p.body (Scanner.toldAll_of_taken rfl p.body)]
  simp

/-! ## Numbers of the sites -/

/-- The site of a node has the number that the node takes. -/
theorem ordinals_siteHere (patterns : PatternSet) (b : Bool) (k : Nat) (kind : Kind) (span : Span)
    (parts : Children) :
    ((siteHere patterns b k kind span parts).map CallSite.ordinal).Sublist
      (List.range' k kind.calls) := by
  by_cases h : kind = .call
  · cases b <;> cases hm : calleeMatch patterns parts <;> simp [siteHere, h, hm]
  · simp [siteHere, h]

mutual

/-- Sites are numbered upwards, with numbers of calls of the node. -/
theorem ordinals_sitesIn (patterns : PatternSet) : ∀ (b : Bool) (k : Nat) (n : Node),
    ((sitesIn patterns b k n).map CallSite.ordinal).Sublist (List.range' k n.callCount)
  | b, k, .mk kind span parts => by
    rw [sitesIn, List.map_append, Node.callCount, ← List.range'_append_1]
    exact (ordinals_siteHere ..).append (ordinals_sitesInAll ..)

theorem ordinals_sitesInAll (patterns : PatternSet) : ∀ (b : Bool) (k : Nat) (parts : Children),
    ((sitesInAll patterns b k parts).map CallSite.ordinal).Sublist (List.range' k parts.callCount)
  | _, _, .nil => by simp [sitesInAll]
  | b, k, .cons _ n rest => by
    rw [sitesInAll, List.map_append, Children.callCount, ← List.range'_append_1]
    exact (ordinals_sitesIn ..).append (ordinals_sitesInAll ..)

end

/-- The numbers of the sites of a program are numbers of its calls, in order. -/
theorem ordinals_scan (p : Program) (patterns : PatternSet) :
    ((scan p patterns).map CallSite.ordinal).Sublist (List.range p.body.callCount) := by
  rw [scan_eq_sitesInAll, List.range_eq_range']
  exact ordinals_sitesInAll patterns false 0 p.body

/-! ## Sites and positions -/

/-- The site is the call at position `π`: it is not awaited and its callee is in the set. -/
def CallSite.IsAt (site : CallSite) (patterns : PatternSet) (found : Option Node) (isAwaited : Bool) :
    Prop :=
  isAwaited = false ∧ ∃ parts, found = some (.mk .call site.span parts) ∧
    calleeMatch patterns parts = some site.pattern

theorem mem_siteHere {patterns : PatternSet} {b : Bool} {k : Nat} {kind : Kind} {span : Span}
    {parts : Children} {site : CallSite} :
    site ∈ siteHere patterns b k kind span parts ↔
      site.ordinal = k ∧ site.IsAt patterns (some (.mk kind span parts)) b := by
  by_cases h : kind = .call ∧ b = false
  · obtain ⟨rfl, rfl⟩ := h
    obtain ⟨ordinal, siteSpan, pattern⟩ := site
    cases hm : calleeMatch patterns parts <;> simp [siteHere, hm, CallSite.IsAt]
    grind
  · simp only [siteHere, if_neg h, List.not_mem_nil, CallSite.IsAt, false_iff]
    grind

/-- Below a node, positions are those of its parts. -/
theorem at?_and_awaitedAt_of_mem (kind : Kind) (span : Span) {parts : Children} {π : Position}
    {i k : Nat} (h : (π, i) ∈ parts.callPositions.zipIdx k) (b : Bool) :
    (Node.mk kind span parts).at? π = parts.at? π ∧
      (Node.mk kind span parts).awaitedAt b π = parts.awaitedAt (kind.awaitsFirst b) π := by
  have hne := Children.ne_nil_of_mem_callPositions (List.fst_mem_of_mem_zipIdx h)
  cases π with
  | nil => exact absurd rfl hne
  | cons j π => exact ⟨rfl, rfl⟩

theorem exists_mem_zipIdx_map (f : Position → Position) (l : List Position) (i k : Nat)
    (Q : Position → Prop) :
    (∃ π, (π, i) ∈ (l.map f).zipIdx k ∧ Q π) ↔ ∃ π, (π, i) ∈ l.zipIdx k ∧ Q (f π) := by
  simp only [List.zipIdx_map, List.mem_map, Prod.exists, Prod.map_apply, id_eq, Prod.mk.injEq]
  constructor
  · rintro ⟨_, ⟨π, _, hπ, rfl, rfl⟩, hQ⟩
    exact ⟨π, hπ, hQ⟩
  · rintro ⟨π, hπ, hQ⟩
    exact ⟨f π, ⟨π, i, hπ, rfl, rfl⟩, hQ⟩

mutual

/-- A site is a call at a listed position, with the number of that position. -/
theorem mem_sitesIn (patterns : PatternSet) : ∀ (b : Bool) (k : Nat) (n : Node) (site : CallSite),
    site ∈ sitesIn patterns b k n ↔
      ∃ π, (π, site.ordinal) ∈ n.callPositions.zipIdx k ∧
        site.IsAt patterns (n.at? π) (n.awaitedAt b π)
  | b, k, .mk kind span parts, site => by
    have hparts : (∃ π, (π, site.ordinal) ∈ parts.callPositions.zipIdx (k + kind.calls) ∧
        site.IsAt patterns (parts.at? π) (parts.awaitedAt (kind.awaitsFirst b) π)) ↔
        ∃ π, (π, site.ordinal) ∈ parts.callPositions.zipIdx (k + kind.calls) ∧
          site.IsAt patterns ((Node.mk kind span parts).at? π)
            ((Node.mk kind span parts).awaitedAt b π) := by
      refine exists_congr fun π => and_congr_right fun h => ?_
      obtain ⟨hat, haw⟩ := at?_and_awaitedAt_of_mem kind span h b
      rw [hat, haw]
    rw [sitesIn, List.mem_append, mem_siteHere, mem_sitesInAll patterns, hparts]
    by_cases hk : kind = .call
    · subst hk
      simp only [Node.callPositions, if_pos, List.singleton_append, List.zipIdx_cons, List.mem_cons,
        Prod.mk.injEq, or_and_right, exists_or, and_assoc, exists_eq_left, Node.at?_nil,
        Node.awaitedAt_nil, Kind.calls_call]
    · have hnot : ¬ site.IsAt patterns (some (.mk kind span parts)) b := by
        rintro ⟨-, inner, h, -⟩
        exact hk (congrArg Node.kind (Option.some.inj h))
      simp [Node.callPositions, hk, hnot, Kind.calls]

theorem mem_sitesInAll (patterns : PatternSet) :
    ∀ (b : Bool) (k : Nat) (parts : Children) (site : CallSite),
    site ∈ sitesInAll patterns b k parts ↔
      ∃ π, (π, site.ordinal) ∈ parts.callPositions.zipIdx k ∧
        site.IsAt patterns (parts.at? π) (parts.awaitedAt b π)
  | b, k, .nil, site => by simp [sitesInAll, Children.callPositions]
  | b, k, .cons slot n rest, site => by
    rw [sitesInAll, List.mem_append, mem_sitesIn patterns, mem_sitesInAll patterns]
    simp only [Children.callPositions, List.zipIdx_append, List.length_map, n.length_callPositions,
      List.mem_append, or_and_right, exists_or, exists_mem_zipIdx_map, Children.cons_at?_zero,
      Children.cons_awaitedAt_zero, Children.cons_at?_next, Children.cons_awaitedAt_next]

end

/-! ## The state in which the walk comes to a position -/

namespace Scanner

/-- The scanner as it comes to a position in a tree: it has stepped into every node above and has walked
over everything before. -/
def comingTo (patterns : PatternSet) (st : Scanner) : Node → Position → Option Scanner
  | _, [] => some st
  | .mk kind span parts, i :: π =>
    (parts.part? i).bind fun n =>
      comingTo patterns (visitAll patterns (st.enter patterns kind span parts) (parts.before i)) n π

/-- The same for a position in a program. -/
def comingToIn (patterns : PatternSet) (p : Program) : Position → Option Scanner
  | [] => none
  | i :: π =>
    (p.body.part? i).bind fun n => comingTo patterns (visitAll patterns {} (p.body.before i)) n π

/-- Before the first part the word is the one left by the node, before a later part it is gone. -/
theorem told_part (patterns : PatternSet) {st : Scanner} {isAwaited : Bool} {parts : Children}
    {i : Nat} {n : Node} (h : st.ToldAll isAwaited parts) (hn : parts.part? i = some n) :
    (visitAll patterns st (parts.before i)).Told (i = 0 && isAwaited) n := by
  cases parts with
  | nil => simp [Children.part?] at hn
  | cons slot first rest =>
    cases i with
    | zero =>
      obtain rfl : first = n := Option.some.inj hn
      exact h
    | succ i =>
      have hbefore : st.ToldAll isAwaited (Children.before (.cons slot first rest) (i + 1)) := h
      rw [visitAll_eq patterns _ hbefore]
      simp [Told]

/-- Before a part the scanner has numbered the calls in the parts before it. -/
theorem next_part (patterns : PatternSet) {st : Scanner} {isAwaited : Bool} {parts : Children}
    {i : Nat} {n : Node} (h : st.ToldAll isAwaited parts) (hn : parts.part? i = some n) :
    (visitAll patterns st (parts.before i)).next = st.next + (parts.before i).callCount := by
  cases parts with
  | nil => simp [Children.part?] at hn
  | cons slot first rest =>
    cases i with
    | zero => rfl
    | succ i =>
      have hbefore : st.ToldAll isAwaited (Children.before (.cons slot first rest) (i + 1)) := h
      rw [visitAll_eq patterns _ hbefore]

/-- The scanner comes to a call with the number of the call, and with the word left exactly if the call
is the operand of an `await`, whatever stands before it. -/
theorem comingTo_call (patterns : PatternSet) {st : Scanner} {isAwaited : Bool} {n : Node} {k : Nat}
    {π : Position} (h : st.Told isAwaited n) (hπ : (π, k) ∈ n.callPositions.zipIdx st.next) :
    ∃ st', comingTo patterns st n π = some st' ∧ st'.next = k ∧
      st'.awaitedOperand = n.awaitedAt isAwaited π := by
  induction π generalizing st isAwaited n with
  | nil =>
    obtain ⟨kind, span, parts⟩ := n
    have hnot : ∀ m, (([] : Position), k) ∉ parts.callPositions.zipIdx m := fun m hm =>
      Children.ne_nil_of_mem_callPositions (List.fst_mem_of_mem_zipIdx hm) rfl
    by_cases hk : kind = .call
    · subst hk
      have hnext : k = st.next := by simpa [Node.callPositions, List.zipIdx_cons, hnot] using hπ
      refine ⟨st, rfl, hnext.symm, ?_⟩
      rw [h, unparen_of_ne_paren (by simp)]
      simp [Node.kind]
    · simp [Node.callPositions, hk, hnot] at hπ
  | cons i π ih =>
    obtain ⟨kind, span, parts⟩ := n
    have hmem : (i :: π, k) ∈ parts.callPositions.zipIdx (st.next + kind.calls) := by
      by_cases hk : kind = .call <;>
        simpa [Node.callPositions, hk, List.zipIdx_cons, Kind.calls] using hπ
    obtain ⟨call, args, hat⟩ := (parts.mem_callPositions _).mp (List.fst_mem_of_mem_zipIdx hmem)
    rw [Children.at?] at hat
    obtain ⟨c, hc, -⟩ := Option.bind_eq_some_iff.mp hat
    have hparts : (st.enter patterns kind span parts).ToldAll (kind.awaitsFirst isAwaited) parts := by
      rw [ToldAll, enter_eq patterns h]
    have hnext : (st.enter patterns kind span parts).next = st.next + kind.calls := by
      rw [enter_eq patterns h]
    obtain ⟨st', hst', hnum, hword⟩ := ih (told_part patterns hparts hc)
      (by rw [next_part patterns hparts hc, hnext]; exact Children.mem_zipIdx_of_part? hc hmem)
    refine ⟨st', ?_, hnum, ?_⟩
    · rw [comingTo, hc, Option.bind_some, hst']
    · simpa [Children.awaitedAt, hc] using hword

theorem comingToIn_call (patterns : PatternSet) {p : Program} {π : Position} {k : Nat}
    (h : p.body.callPositions[k]? = some π) :
    ∃ st, comingToIn patterns p π = some st ∧ st.next = k ∧
      (st.awaitedOperand = true ↔ p.body.OperandOfAwait π) := by
  have hmem : (π, k) ∈ p.body.callPositions.zipIdx 0 := List.mem_zipIdx_iff_getElem?.mpr h
  obtain ⟨span, parts, hat⟩ := (p.body.mem_callPositions π).mp (List.fst_mem_of_mem_zipIdx hmem)
  rw [← p.body.awaitedAt_iff π (by simp [hat])]
  cases π with
  | nil => simp at hat
  | cons i π =>
    rw [Children.at?] at hat
    obtain ⟨n, hn, -⟩ := Option.bind_eq_some_iff.mp hat
    have hstart : ({} : Scanner).ToldAll false p.body := toldAll_of_taken rfl p.body
    obtain ⟨st, hst, hnum, hword⟩ := comingTo_call patterns (told_part patterns hstart hn)
      (by rw [next_part patterns hstart hn]; exact Children.mem_zipIdx_of_part? hn hmem)
    refine ⟨st, by rw [comingToIn, hn, Option.bind_some, hst], hnum, ?_⟩
    simp [Children.awaitedAt, hn, hword]

end Scanner

/-! ## Main statement -/

/-- The callee spells the path with index `j`, and no path before it. -/
structure PatternSet.FirstMatch (patterns : PatternSet) (callee : Node) (j : Nat) : Prop where
  spelled : ∃ path, patterns.get? j = some path ∧ pathMatches callee path.segments = true
  first : ∀ i < j, ∀ path, patterns.get? i = some path → pathMatches callee path.segments = false

theorem PatternSet.findMatch_eq_some_iff (patterns : PatternSet) (callee : Node) (j : Nat) :
    patterns.findMatch callee = some j ↔ patterns.FirstMatch callee j := by
  rw [PatternSet.findMatch, List.findIdx?_eq_some_iff_getElem]
  constructor
  · rintro ⟨hj, hspelled, hfirst⟩
    refine ⟨⟨_, List.getElem?_eq_getElem hj, hspelled⟩, fun i hi path hpath => ?_⟩
    obtain ⟨hlt, rfl⟩ := List.getElem?_eq_some_iff.mp hpath
    simpa using hfirst i hi
  · rintro ⟨⟨path, hpath, hspelled⟩, hfirst⟩
    obtain ⟨hj, rfl⟩ := List.getElem?_eq_some_iff.mp hpath
    refine ⟨hj, hspelled, fun i hi => ?_⟩
    simpa using hfirst i hi _ (List.getElem?_eq_getElem (Nat.lt_trans hi hj))

theorem expressionCallee?_eq_some_iff {parts : Children} {callee : Node} :
    expressionCallee? parts = some callee ↔ parts.find? .callee = some callee ∧
      callee.kind ≠ .super ∧ ∀ phase, callee.kind ≠ .importCallee phase := by
  unfold expressionCallee?
  cases parts.find? .callee with
  | none => simp
  | some found =>
    dsimp only
    split
    · rename_i hkind
      exact iff_of_false nofun fun ⟨hfound, hsuper, _⟩ => hsuper (Option.some.inj hfound ▸ hkind)
    · rename_i phase hkind
      exact iff_of_false nofun fun ⟨hfound, _, himport⟩ =>
        himport phase (Option.some.inj hfound ▸ hkind)
    · rename_i hsuper himport
      constructor
      · rintro ⟨⟩
        exact ⟨rfl, hsuper, himport⟩
      · exact fun h => h.1

/-- Calls are numbered by their place in the list of call positions, which is sorted and complete. The
sites of a program are numbered upwards and are the calls whose callee is an expression, neither `super`
nor `import`, that spells a path of the set and which are not the operand of an `await`; each has the
number and span of its call and the index of the first path that the callee spells. The scanner comes to
a call with the number of the call, and with the word of an `await` left exactly if the call is the
operand of one. -/
theorem scan_finds_unawaited_calls (p : Program) (patterns : PatternSet) :
    p.body.callPositions.Pairwise (· < ·) ∧
    (∀ π, π ∈ p.body.callPositions ↔ ∃ span parts, p.body.at? π = some (.mk .call span parts)) ∧
    (scan p patterns).Pairwise (fun s t => s.ordinal < t.ordinal) ∧
    (∀ k span j, (⟨k, span, j⟩ : CallSite) ∈ scan p patterns ↔
      ∃ π parts callee, p.body.callPositions[k]? = some π ∧
        p.body.at? π = some (.mk .call span parts) ∧
        parts.find? .callee = some callee ∧ callee.kind ≠ .super ∧
        (∀ phase, callee.kind ≠ .importCallee phase) ∧ patterns.FirstMatch callee j ∧
        ¬ p.body.OperandOfAwait π) ∧
    (∀ k : Fin p.body.callPositions.length,
      ∃ st, Scanner.comingToIn patterns p (p.body.callPositions.get k) = some st ∧ st.next = k ∧
        (st.awaitedOperand = true ↔ p.body.OperandOfAwait (p.body.callPositions.get k))) := by
  refine ⟨p.body.sorted_callPositions, p.body.mem_callPositions, ?_, fun k span j => ?_, fun k => ?_⟩
  · have h := List.pairwise_lt_range.sublist (ordinals_scan p patterns)
    exact List.pairwise_map.mp h
  · rw [scan_eq_sitesInAll, mem_sitesInAll]
    simp only [List.mem_zipIdx_iff_getElem?, CallSite.IsAt, calleeMatch, Option.bind_eq_some_iff,
      PatternSet.findMatch_eq_some_iff, expressionCallee?_eq_some_iff]
    constructor
    · rintro ⟨π, hπ, haw, parts, hat, callee, ⟨hcallee, hsuper, himport⟩, hmatch⟩
      refine ⟨π, parts, callee, hπ, hat, hcallee, hsuper, himport, hmatch, ?_⟩
      rw [← p.body.awaitedAt_iff π (by simp [hat]), haw]
      simp
    · rintro ⟨π, parts, callee, hπ, hat, hcallee, hsuper, himport, hmatch, haw⟩
      rw [← p.body.awaitedAt_iff π (by simp [hat]), Bool.not_eq_true] at haw
      exact ⟨π, hπ, haw, parts, hat, callee, ⟨hcallee, hsuper, himport⟩, hmatch⟩
  · exact Scanner.comingToIn_call patterns (by simp)

end AwaitCalls
