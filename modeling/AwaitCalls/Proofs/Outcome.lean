import AwaitCalls.Proofs.SpelledCalls
import AwaitCalls.Proofs.Stages
import AwaitCalls.Proofs.Parentheses

/-!
# What a run returns

With no patterns a run gives its text back. Otherwise it fails exactly if the text cannot be read, and
then with that error; else it prints the tree in which the calls that a scan finds are awaited. The
errors for a miscount and for a pattern that is not there never come up: the walk that wraps calls
numbers them as the scan does, and a scan names only patterns of the set. Printing is a total function
here, so nothing is said about a printer that fails.
-/
namespace AwaitCalls

open AwaitCalls.Syntax AwaitCalls.Text

/-! ## Counting awaits -/

/-- Number of awaits in a list of parts, at any depth. -/
def Syntax.Children.awaitCount (parts : Children) : Nat :=
  (parts.allParts none).countP fun part => part.2.kind = .await

/-- Number of awaits in a tree, the root among them. -/
def Syntax.Node.awaitCount (n : Node) : Nat :=
  (if n.kind = .await then 1 else 0) + n.children.awaitCount

theorem Children.awaitCount_cons (slot : Slot) (n : Node) (rest : Children) :
    (Children.cons slot n rest).awaitCount = n.awaitCount + rest.awaitCount := by
  obtain ⟨kind, span, parts⟩ := n
  have hparts := Children.countP_allParts (fun n => n.kind = .await) (some kind) parts
  simp only [Children.awaitCount, Children.allParts, Node.allParts, List.countP_cons,
    List.countP_append, Node.awaitCount, Node.children, decide_eq_true_eq, hparts]
  omega

theorem Node.awaitCount_mk (kind : Kind) (span : Span) (parts : Children) :
    (Node.mk kind span parts).awaitCount = (if kind = .await then 1 else 0) + parts.awaitCount := rfl

theorem Children.awaitCount_singleton (slot : Slot) (n : Node) :
    (Children.cons slot n .nil).awaitCount = n.awaitCount := Children.awaitCount_cons slot n .nil

theorem awaitCount_awaited (n : Node) : (awaited n).awaitCount = n.awaitCount + 1 := by
  rw [awaited, Node.of, Children.ofList, Children.ofList, Node.awaitCount_mk,
    Children.awaitCount_singleton, if_pos rfl, Nat.add_comm]

theorem awaitCount_parenthesizedIn (place : Place) (n : Node) :
    (parenthesizedIn place n).awaitCount = n.awaitCount := by
  unfold parenthesizedIn parenthesized
  split
  · split
    · rw [Node.of, Children.ofList, Children.ofList, Node.awaitCount_mk,
        Children.awaitCount_singleton, if_neg (by simp), Nat.zero_add]
    · rfl
  · rfl

mutual

theorem awaitCount_parenthesizeNode : ∀ n : Node, (parenthesizeNode n).awaitCount = n.awaitCount
  | .mk kind span parts => by
    rw [parenthesizeNode, Node.awaitCount_mk, awaitCount_parenthesizeChildren, Node.awaitCount_mk]

theorem awaitCount_parenthesizeChildren (parent : Option Kind) : ∀ parts : Children,
    (parenthesizeChildren parent parts).awaitCount = parts.awaitCount
  | .nil => rfl
  | .cons slot n rest => by
    rw [parenthesizeChildren_cons, Children.awaitCount_cons, awaitCount_parenthesizedIn,
      awaitCount_parenthesizeNode, awaitCount_parenthesizeChildren, Children.awaitCount_cons]

end

mutual

/-- A run puts in one await for each call whose number is a target. -/
theorem awaitCount_withAwaits (targets : List Nat) : ∀ (next : Nat) (n : Node),
    (withAwaits (hits targets) next n).awaitCount =
      n.awaitCount + (List.range' next n.callCount).countP (· ∈ targets)
  | next, .mk kind span parts => by
    have hparts := awaitCount_withAwaitsAll targets (next + kind.calls) parts
    by_cases hk : kind = .call
    · subst hk
      rw [Kind.calls_call] at hparts
      have hrange : (List.range' next (Node.mk .call span parts).callCount).countP (· ∈ targets) =
          (List.range' (next + 1) parts.callCount).countP (· ∈ targets) + hits targets next := by
        rw [Node.callCount, Kind.calls_call, Nat.add_comm, List.range'_succ, List.countP_cons, hits]
        simp only [decide_eq_true_eq]
      rw [withAwaits, if_pos rfl, hrange, Kind.calls_call, Node.awaitCount_mk]
      by_cases ht : next ∈ targets
      · rw [hits, if_pos ht, awaitedTimes, awaitedTimes, awaitCount_awaited, Node.awaitCount_mk, hparts]
        omega
      · rw [hits, if_neg ht, awaitedTimes, Node.awaitCount_mk, hparts]
        omega
    · rw [Kind.calls, if_neg hk, Nat.add_zero] at hparts
      rw [withAwaits_of_ne_call hk, Node.awaitCount_mk, hparts, Node.awaitCount_mk, Node.callCount,
        Kind.calls, if_neg hk, Nat.zero_add, Nat.add_assoc]

theorem awaitCount_withAwaitsAll (targets : List Nat) : ∀ (next : Nat) (parts : Children),
    (withAwaitsAll (hits targets) next parts).awaitCount =
      parts.awaitCount + (List.range' next parts.callCount).countP (· ∈ targets)
  | _, .nil => rfl
  | next, .cons slot n rest => by
    have hn := awaitCount_withAwaits targets next n
    have hrest := awaitCount_withAwaitsAll targets (next + n.callCount) rest
    rw [withAwaitsAll, Children.awaitCount_cons, Children.awaitCount_cons, hn, hrest,
      Children.callCount, ← List.range'_append_1, List.countP_append]
    omega

end

/-- Awaiting calls adds as many awaits as it counts. -/
theorem awaitCount_awaitNumbered (p : Program) (targets : List Nat) :
    (awaitNumbered p targets).1.body.awaitCount = p.body.awaitCount + (awaitNumbered p targets).2 := by
  have hcount := awaitCount_withAwaitsAll targets 0 p.body
  rw [card_hitNumbers] at hcount
  rw [awaitNumbered_eq]
  dsimp only
  split
  · rename_i hnone
    rw [hnone, Finset.card_empty, Nat.add_zero]
  · rw [awaitCount_parenthesizeChildren, hcount]

/-! ## The internal errors never come up -/

/-- Every number that a scan finds is that of a call. -/
theorem hitNumbers_scan (p : Program) (patterns : PatternSet) :
    hitNumbers p ((scan p patterns).map CallSite.ordinal) =
      ((scan p patterns).map CallSite.ordinal).toFinset := by
  refine Finset.filter_true_of_mem fun k hk => ?_
  exact List.mem_range.mp ((ordinals_scan p patterns).subset (List.mem_toFinset.mp hk))

/-- The wrapping walk counts as many calls as the scan has found. -/
theorem count_awaitSites_scan (p : Program) (patterns : PatternSet) :
    (awaitSites p (scan p patterns)).2 = (scan p patterns).length := by
  have hnodup : ((scan p patterns).map CallSite.ordinal).Nodup :=
    List.nodup_range.sublist (ordinals_scan p patterns)
  rw [awaitSites, awaitNumbered_eq, hitNumbers_scan, List.toFinset_card_of_nodup hnodup,
    List.length_map]

/-- Awaiting the calls that a scan finds adds one `await` for each. -/
theorem awaitCount_awaitMatching (p : Program) (patterns : PatternSet) :
    (awaitMatching p patterns).body.awaitCount = p.body.awaitCount + (scan p patterns).length := by
  rw [awaitMatching, awaitSites, awaitCount_awaitNumbered]
  exact congrArg _ (count_awaitSites_scan p patterns)

/-- What has been read is printed with its calls awaited, and each of them is reported. -/
theorem transformParsed_eq (options : Options) (patterns : PatternSet) (parsed : Parsed) :
    (transformParsed options patterns parsed).2 =
      .ok ⟨Print.program (awaitMatching parsed.program patterns)
        (if options.comments then some parsed.comments else none) options.minify,
        (namedCalls parsed.program patterns).map (SpelledCall.reported parsed.source)⟩ := by
  have hcount := count_awaitSites_scan parsed.program patterns
  unfold transformParsed
  dsimp only
  rw [if_neg (by rw [hcount]; simp), mapM_reportSite_scan]
  rfl

theorem exists_transformParsed (options : Options) (patterns : PatternSet) (parsed : Parsed) :
    ∃ calls, (transformParsed options patterns parsed).2 =
        .ok ⟨Print.program (awaitMatching parsed.program patterns)
          (if options.comments then some parsed.comments else none) options.minify, calls⟩ ∧
      calls.length = (scan parsed.program patterns).length := by
  refine ⟨_, transformParsed_eq options patterns parsed, ?_⟩
  rw [scan_eq_map_siteOf, List.length_map, List.length_map]

theorem transform_of_isEmpty {options : Options} {text : String} {patterns : PatternSet}
    (h : patterns.isEmpty = true) : transform options text patterns = .ok ⟨text, []⟩ := by
  rw [transform, run, if_pos h]

theorem transform_of_error {options : Options} {text : String} {patterns : PatternSet} {e : ParseError}
    (hne : patterns.isEmpty = false) (h : parseProgram text options.dialect = .error e) :
    transform options text patterns = .error (.parse e) := by
  rw [transform, run, if_neg (by simp [hne]), h]

theorem transform_of_ok {options : Options} {text : String} {patterns : PatternSet} {parsed : Parsed}
    (hne : patterns.isEmpty = false) (h : parseProgram text options.dialect = .ok parsed) :
    transform options text patterns = (transformParsed options patterns parsed).2 := by
  rw [transform, run, if_neg (by simp [hne]), h]

/-! ## Main statement -/

/-- With no patterns a run gives the text back, readable or not. With patterns it fails with an error of
reading exactly if reading fails with it, and otherwise prints the program with its calls awaited, which
has one more `await` for each call of the report. It never finds a miscount, nor a pattern missing. -/
theorem transform_all_or_nothing (options : Options) (text : String) (patterns : PatternSet) :
    (patterns.isEmpty = true → transform options text patterns = .ok ⟨text, []⟩) ∧
    (patterns.isEmpty = false →
      (∀ e, transform options text patterns = .error (.parse e) ↔
        parseProgram text options.dialect = .error e) ∧
      ∀ parsed, parseProgram text options.dialect = .ok parsed → ∃ calls,
        transform options text patterns =
          .ok ⟨Print.program (awaitMatching parsed.program patterns)
            (if options.comments then some parsed.comments else none) options.minify, calls⟩ ∧
        (awaitMatching parsed.program patterns).body.awaitCount =
          parsed.program.body.awaitCount + calls.length) ∧
    (∀ scanned awaited, transform options text patterns ≠ .error (.countMismatch scanned awaited)) ∧
    ∀ index, transform options text patterns ≠ .error (.noPattern index) := by
  by_cases hempty : patterns.isEmpty = true
  · have hback : transform options text patterns = .ok ⟨text, []⟩ := transform_of_isEmpty hempty
    refine ⟨fun _ => hback, fun hne => ?_, fun scanned awaited => ?_, fun index => ?_⟩
    · simp [hempty] at hne
    · simp [hback]
    · simp [hback]
  · have hne : patterns.isEmpty = false := by simpa using hempty
    cases hread : parseProgram text options.dialect with
    | error e =>
      have hfail := transform_of_error hne hread
      refine ⟨fun h => absurd h hempty, fun _ => ⟨fun e' => ?_, fun parsed h => ?_⟩,
        fun scanned awaited => ?_, fun index => ?_⟩
      · simp [hfail]
      · cases h
      · simp [hfail]
      · simp [hfail]
    | ok parsed =>
      obtain ⟨calls, hdone, hlen⟩ := exists_transformParsed options patterns parsed
      rw [← transform_of_ok hne hread] at hdone
      refine ⟨fun h => absurd h hempty, fun _ => ⟨fun e => ?_, fun parsed' h => ?_⟩,
        fun scanned awaited => ?_, fun index => ?_⟩
      · simp [hdone]
      · obtain rfl : parsed = parsed' := Except.ok.inj h
        refine ⟨calls, hdone, ?_⟩
        rw [awaitCount_awaitMatching, hlen]
      · simp [hdone]
      · simp [hdone]

end AwaitCalls
