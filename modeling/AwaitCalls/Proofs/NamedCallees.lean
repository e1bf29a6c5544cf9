import AwaitCalls.Proofs.Outcome

/-!
# What a run takes from its patterns

What a run awaits and reports depends on its patterns through the calls that they name, and these depend
on the patterns through the paths that callees spell. So a run gives the same result for two lists of
patterns that name the same callees, in whatever order and with whatever else is in them. An empty list
is different: with it the text is not read at all.
-/
namespace AwaitCalls

open AwaitCalls.Syntax AwaitCalls.Text

/-- A run on what has been read depends on the patterns through the calls that they name. -/
theorem transformParsed_congr (options : Options) {a b : PatternSet} {parsed : Parsed}
    (h : namedCalls parsed.program a = namedCalls parsed.program b) :
    (transformParsed options a parsed).2 = (transformParsed options b parsed).2 := by
  have hsame : awaitMatching parsed.program a = awaitMatching parsed.program b := by
    rw [awaitMatching, awaitMatching, awaitSites, awaitSites, ordinals_scan_eq, ordinals_scan_eq, h]
  rw [transformParsed_eq, transformParsed_eq, hsame, h]

/-! ## Paths that callees spell -/

/-- The paths that the callees of the calls in a list of parts spell. -/
def Syntax.Children.calleePaths (parts : Children) : List (List String) :=
  parts.calls.filterMap fun call => calleeSpelling call.children

def Syntax.Node.calleePaths (n : Node) : List (List String) :=
  n.calls.filterMap fun call => calleeSpelling call.children

mutual

theorem mem_calleePaths_of_mem_spelledIn : ∀ {b : Bool} {k : Nat} {n : Node} {call : SpelledCall},
    call ∈ spelledIn b k n → call.path ∈ n.calleePaths
  | b, k, .mk kind span parts, call, h => by
    rw [spelledIn, List.mem_append] at h
    rw [Node.calleePaths, Node.calls, List.filterMap_append, List.mem_append]
    rcases h with hhere | hparts
    · left
      unfold spelledHere at hhere
      split at hhere
      · rename_i hcall
        obtain ⟨path, hpath, rfl⟩ : ∃ path, calleeSpelling parts = some path ∧
            ⟨k, span, path⟩ = call := by simpa using hhere
        rw [if_pos hcall.1]
        simp [Node.children, hpath]
      · simp at hhere
    · exact .inr (mem_calleePaths_of_mem_spelledInAll hparts)

theorem mem_calleePaths_of_mem_spelledInAll :
    ∀ {b : Bool} {k : Nat} {parts : Children} {call : SpelledCall},
    call ∈ spelledInAll b k parts → call.path ∈ parts.calleePaths
  | _, _, .nil, _, h => by simp [spelledInAll] at h
  | b, k, .cons slot n rest, call, h => by
    rw [spelledInAll, List.mem_append] at h
    rw [Children.calleePaths, Children.calls, List.filterMap_append, List.mem_append]
    exact h.imp mem_calleePaths_of_mem_spelledIn mem_calleePaths_of_mem_spelledInAll

end

/-- Sets that agree on the paths that callees spell name the same calls. -/
theorem namedCalls_congr {p : Program} {a b : PatternSet}
    (h : ∀ path ∈ p.body.calleePaths, a.hasPath path = b.hasPath path) :
    namedCalls p a = namedCalls p b :=
  List.filter_congr fun call hcall => h call.path (mem_calleePaths_of_mem_spelledInAll hcall)

/-- The paths of the callees in a text; none if it cannot be read. -/
def calleePathsOf (text : String) (dialect : Dialect) : List (List String) :=
  match parseProgram text dialect with
  | .ok parsed => parsed.program.body.calleePaths
  | .error _ => []

theorem calleePathsOf_of_ok {text : String} {dialect : Dialect} {parsed : Parsed}
    (h : parseProgram text dialect = .ok parsed) :
    calleePathsOf text dialect = parsed.program.body.calleePaths := by
  delta calleePathsOf
  rw [h]

/-- The segments of each pattern of a list. -/
def segmentLists (patterns : List String) : List (List String) :=
  patterns.map fun pattern => (AccessPath.parse pattern).segments

theorem PatternSet.hasPath_ofList {patterns : List String} {path : List String} :
    (PatternSet.ofList patterns).hasPath path = true ↔ path ∈ segmentLists patterns := by
  simp only [PatternSet.hasPath, List.any_eq_true, PatternSet.ofList, PatternSet.mem_insertAll,
    segmentLists, List.mem_map, beq_iff_eq]
  constructor
  · rintro ⟨p, hempty | ⟨pattern, hpattern, rfl⟩, rfl⟩
    · simp [PatternSet.empty] at hempty
    · exact ⟨pattern, hpattern, rfl⟩
  · rintro ⟨pattern, hpattern, rfl⟩
    exact ⟨_, .inr ⟨pattern, hpattern, rfl⟩, rfl⟩

/-! ## Runs with patterns that name the same callees -/

theorem transform_congr {options : Options} {text : String} {a b : List String} (ha : a ≠ [])
    (hb : b ≠ [])
    (h : ∀ path ∈ calleePathsOf text options.dialect, path ∈ segmentLists a ↔ path ∈ segmentLists b) :
    transform options text (.ofList a) = transform options text (.ofList b) := by
  have ha' := PatternSet.isEmpty_ofList ha
  have hb' := PatternSet.isEmpty_ofList hb
  cases hread : parseProgram text options.dialect with
  | error e => rw [transform_of_error ha' hread, transform_of_error hb' hread]
  | ok parsed =>
    rw [transform_of_ok ha' hread, transform_of_ok hb' hread]
    refine transformParsed_congr options (namedCalls_congr fun path hpath => ?_)
    rw [Bool.eq_iff_iff, PatternSet.hasPath_ofList, PatternSet.hasPath_ofList]
    exact h path (by rw [calleePathsOf_of_ok hread]; exact hpath)

/-- Patterns that no callee spells may be added anywhere, and others repeated or moved. -/
theorem transform_of_subset {options : Options} {text : String} {a b : List String} (ha : a ≠ [])
    (hsub : a ⊆ b) (hnew : ∀ pattern ∈ b, pattern ∉ a →
      (AccessPath.parse pattern).segments ∉ calleePathsOf text options.dialect) :
    transform options text (.ofList a) = transform options text (.ofList b) := by
  obtain ⟨pattern, rest, hcons⟩ := List.exists_cons_of_ne_nil ha
  have hb : b ≠ [] := List.ne_nil_of_mem (hsub (hcons ▸ List.mem_cons_self))
  refine transform_congr ha hb fun path hpath => ?_
  constructor
  · intro hmem
    exact List.map_subset _ hsub hmem
  · intro hmem
    obtain ⟨pattern, hpattern, rfl⟩ := List.mem_map.mp hmem
    by_contra hnot
    have hout : pattern ∉ a := fun hin => hnot (List.mem_map.mpr ⟨pattern, hin, rfl⟩)
    exact hnew pattern hpattern hout hpath

/-- Patterns may be moved and repeated. -/
theorem transform_congr_mem (options : Options) (text : String) {a b : List String}
    (h : ∀ pattern, pattern ∈ a ↔ pattern ∈ b) :
    transform options text (.ofList a) = transform options text (.ofList b) := by
  by_cases ha : a = []
  · have hb : b = [] := List.eq_nil_iff_forall_not_mem.mpr fun pattern hpattern => by
      simpa [ha] using (h pattern).mpr hpattern
    rw [ha, hb]
  · refine transform_of_subset ha (fun pattern hpattern => (h pattern).mp hpattern) ?_
    intro pattern hpattern hout
    exact absurd ((h pattern).mpr hpattern) hout

/-- Patterns that no callee spells leave a program as it was read. -/
theorem transform_of_unnamed {options : Options} {text : String} {a : List String} {parsed : Parsed}
    (ha : a ≠ []) (hread : parseProgram text options.dialect = .ok parsed)
    (h : ∀ path ∈ calleePathsOf text options.dialect, path ∉ segmentLists a) :
    transform options text (.ofList a) =
      .ok ⟨Print.program parsed.program (if options.comments then some parsed.comments else none)
        options.minify, []⟩ := by
  have hnone : namedCalls parsed.program (.ofList a) = [] := by
    refine List.filter_eq_nil_iff.mpr fun call hcall => ?_
    rw [PatternSet.hasPath_ofList]
    refine h call.path ?_
    rw [calleePathsOf_of_ok hread]
    exact mem_calleePaths_of_mem_spelledInAll hcall
  have hscan : scan parsed.program (.ofList a) = [] := by rw [scan_eq_map_siteOf, hnone]; rfl
  rw [transform_of_ok (PatternSet.isEmpty_ofList ha) hread, transformParsed_eq, hnone,
    awaitMatching_of_scan_eq_nil hscan]
  rfl

/-- Two lists of patterns, neither empty, give the same error or the same text and report if every path
that a callee in the text spells is in both or in neither. So patterns may be moved and repeated, and
ones that no callee spells may be added; and lists that name no callee all give the program printed as
it was read, with nothing reported. -/
theorem transform_depends_on_named_callees (options : Options) (text : String) {a : List String}
    (ha : a ≠ []) :
    (∀ b, b ≠ [] →
      (∀ path ∈ calleePathsOf text options.dialect,
        path ∈ segmentLists a ↔ path ∈ segmentLists b) →
      transform options text (.ofList a) = transform options text (.ofList b)) ∧
    (∀ b, (∀ pattern, pattern ∈ a ↔ pattern ∈ b) →
      transform options text (.ofList a) = transform options text (.ofList b)) ∧
    (∀ b, a ⊆ b →
      (∀ pattern ∈ b, pattern ∉ a →
        (AccessPath.parse pattern).segments ∉ calleePathsOf text options.dialect) →
      transform options text (.ofList a) = transform options text (.ofList b)) ∧
    ((∀ path ∈ calleePathsOf text options.dialect, path ∉ segmentLists a) →
      (∀ b, b ≠ [] → (∀ path ∈ calleePathsOf text options.dialect, path ∉ segmentLists b) →
        transform options text (.ofList a) = transform options text (.ofList b)) ∧
      ∀ parsed, parseProgram text options.dialect = .ok parsed →
        transform options text (.ofList a) =
          .ok ⟨Print.program parsed.program (if options.comments then some parsed.comments else none)
            options.minify, []⟩) := by
  refine ⟨fun b hb h => transform_congr ha hb h, fun b h => transform_congr_mem options text h,
    fun b hsub hnew => transform_of_subset ha hsub hnew, fun hunnamed => ⟨fun b hb hunnamed' => ?_,
      fun parsed hread => transform_of_unnamed ha hread hunnamed⟩⟩
  refine transform_congr ha hb fun path hpath => ?_
  exact iff_of_false (hunnamed path hpath) (hunnamed' path hpath)

/-- Two calls, one in the other: the patterns are moved, one is repeated, and two that no callee spells
are added, one of them with an empty segment. -/
theorem transform_depends_on_named_callees_moved :
    transform {} "f(db.find(1))" (.ofList ["db.find", "f"]) =
      .ok ⟨"await f(await db.find(1));\n", [⟨"f", ⟨1, 0⟩⟩, ⟨"db.find", ⟨1, 2⟩⟩]⟩ ∧
    transform {} "f(db.find(1))" (.ofList ["db.find", "f"]) =
      transform {} "f(db.find(1))" (.ofList ["f", "a..b", "db.find", "f", "find"]) := by
  refine ⟨by decide +kernel, ?_⟩
  obtain ⟨hsame, -⟩ := transform_depends_on_named_callees {} "f(db.find(1))" (a := ["db.find", "f"])
    (by simp)
  refine hsame _ (by simp) ?_
  decide +kernel

end AwaitCalls
