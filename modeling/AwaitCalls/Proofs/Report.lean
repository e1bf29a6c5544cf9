import AwaitCalls.Proofs.DottedPaths
import AwaitCalls.Proofs.Outcome
import AwaitCalls.Proofs.FirstMentions
import Mathlib.Data.List.Forall2

/-!
# The report of a run

A report is made after the program has been changed and printed, from numbers, spans and indices that were
noted before. It is compared here with the program as it was read: the calls that match and that no `await`
waits for, by their numbers. Each of them has one line, in order, with the spelling of its callee and the
place of its start in the text, and they are the calls that are awaited in the printed program.
-/
namespace AwaitCalls

open AwaitCalls.Syntax AwaitCalls.Text

/-! ## Sites by their numbers -/

/-- The call with number `k` covers a span and has an expression as its callee, neither `super` nor
`import`, and no `await` waits for it. -/
def Syntax.Children.UnawaitedCall (body : Children) (k : Nat) (span : Span) (callee : Node) : Prop :=
  ∃ π args, body.callPositions[k]? = some π ∧ body.at? π = some (.mk .call span args) ∧
    (args.find? .callee = some callee ∧ callee.kind ≠ .super ∧
      ∀ phase, callee.kind ≠ .importCallee phase) ∧ ¬ body.OperandOfAwait π

theorem mem_scan_iff {p : Program} {patterns : PatternSet} {site : CallSite} :
    site ∈ scan p patterns ↔ ∃ callee, p.body.UnawaitedCall site.ordinal site.span callee ∧
      patterns.findMatch callee = some site.pattern := by
  rw [scan_eq_sitesInAll, mem_sitesInAll]
  constructor
  · rintro ⟨π, hπ, hawaited, args, hat, hmatch⟩
    obtain ⟨callee, hcallee, hfind⟩ := Option.bind_eq_some_iff.mp hmatch
    have hnot : ¬ p.body.OperandOfAwait π := by
      rw [← p.body.awaitedAt_iff π (by simp [hat]), hawaited]
      simp
    exact ⟨callee, ⟨π, args, List.mem_zipIdx_iff_getElem?.mp hπ, hat,
      expressionCallee?_eq_some_iff.mp hcallee, hnot⟩, hfind⟩
  · rintro ⟨callee, ⟨π, args, hπ, hat, hcallee, hnot⟩, hfind⟩
    rw [← p.body.awaitedAt_iff π (by simp [hat]), Bool.not_eq_true] at hnot
    exact ⟨π, List.mem_zipIdx_iff_getElem?.mpr hπ, hnot, args, hat,
      Option.bind_eq_some_iff.mpr ⟨callee, expressionCallee?_eq_some_iff.mpr hcallee, hfind⟩⟩

/-- One of the paths of a set is the spelling of an expression. -/
def PatternSet.Names (patterns : PatternSet) (callee : Node) : Prop :=
  ∃ path ∈ patterns.paths, spelling callee = some path.segments

theorem PatternSet.names_iff {patterns : PatternSet} {callee : Node} :
    patterns.Names callee ↔ ∃ i, patterns.findMatch callee = some i := by
  rw [← Option.isSome_iff_exists, PatternSet.findMatch, List.findIdx?_isSome, List.any_eq_true]
  simp only [pathMatches_iff]
  rfl

theorem mem_ordinals_scan_iff {p : Program} {patterns : PatternSet} {k : Nat} :
    k ∈ (scan p patterns).map CallSite.ordinal ↔
      ∃ span callee, p.body.UnawaitedCall k span callee ∧ patterns.Names callee := by
  rw [List.mem_map]
  constructor
  · rintro ⟨site, hsite, rfl⟩
    obtain ⟨callee, hcall, hfind⟩ := mem_scan_iff.mp hsite
    exact ⟨site.span, callee, hcall, PatternSet.names_iff.mpr ⟨_, hfind⟩⟩
  · rintro ⟨span, callee, hcall, hnames⟩
    obtain ⟨j, hj⟩ := PatternSet.names_iff.mp hnames
    exact ⟨⟨k, span, j⟩, mem_scan_iff.mpr ⟨callee, hcall, hj⟩, rfl⟩

/-! ## Lines of the report -/

theorem source_of_parseProgram {text : String} {dialect : Dialect} {parsed : Parsed}
    (h : parseProgram text dialect = .ok parsed) : parsed.source = Source.ofString text := by
  unfold parseProgram at h
  dsimp only at h
  split at h
  · obtain rfl := Except.ok.inj h
    rfl
  · cases h

/-- A line of the report describes a call: it gives the spelling of the callee, which is one of the
patterns that were supplied, and the place where the call starts. -/
structure AwaitedCall.Describes (call : AwaitedCall) (text : String) (patterns : PatternSet)
    (span : Span) (callee : Node) : Prop where
  spelled : ∃ path, spelling callee = some path ∧ call.pattern = ".".intercalate path
  seen : call.pattern ∈ patterns.seen
  supplied : ∀ names, PatternSet.Supplied names patterns → call.pattern ∈ names
  place : call.place = (Source.ofString text).place span.lo

/-- The line made from the index that a scan has noted describes the call. -/
theorem describes_of_findMatch {patterns : PatternSet} {callee : Node} {i : Nat} {path : AccessPath}
    (hfind : patterns.findMatch callee = some i) (hget : patterns.get? i = some path) (text : String)
    (span : Span) :
    (⟨path.display, (Source.ofString text).place span.lo⟩ : AwaitedCall).Describes text patterns span
      callee := by
  have hseen : path.display ∈ patterns.seen :=
    (patterns.mem_seen_iff_mem_map_display _).mpr
      (List.mem_map.mpr ⟨path, List.mem_of_getElem? hget, rfl⟩)
  -- The index is looked up in the set that it was found in, so the path is the spelling.
  obtain ⟨⟨path', hget', hspelled⟩, -⟩ :=
    (firstMatch_iff patterns callee i).mp ((patterns.findMatch_eq_some_iff callee i).mp hfind)
  obtain rfl : path' = path := Option.some.inj (hget'.symm.trans hget)
  refine ⟨⟨_, hspelled, path'.display_eq_intercalate⟩, hseen, fun names hnames => ?_, rfl⟩
  exact ((PatternSet.listsFirst_of_supplied hnames).mem_seen_iff _).mp hseen

theorem reportSite_eq_ok {patterns : PatternSet} {source : Source} {site : CallSite}
    {call : AwaitedCall} (h : reportSite patterns source site = .ok call) :
    ∃ path, patterns.get? site.pattern = some path ∧
      call = ⟨path.display, source.place site.span.lo⟩ := by
  unfold reportSite at h
  split at h
  · rename_i path hpath
    exact ⟨path, hpath, (Except.ok.inj h).symm⟩
  · cases h

/-- Each named call has its line in the report. -/
theorem describes_reported {text : String} {p : Program} {patterns : PatternSet} {call : SpelledCall}
    (h : call ∈ namedCalls p patterns) :
    ∃ span callee, p.body.UnawaitedCall call.ordinal span callee ∧
      (call.reported (Source.ofString text)).Describes text patterns span callee := by
  have hsite : patterns.siteOf call ∈ scan p patterns := by
    rw [scan_eq_map_siteOf]
    exact List.mem_map.mpr ⟨call, h, rfl⟩
  obtain ⟨callee, hcall, hfind⟩ := mem_scan_iff.mp hsite
  have hreport : reportSite patterns (Source.ofString text) (patterns.siteOf call) =
      .ok (call.reported (Source.ofString text)) :=
    reportSite_siteOf _ (by simpa using (List.mem_filter.mp h).2)
  obtain ⟨path, hget, hline⟩ := reportSite_eq_ok hreport
  refine ⟨call.span, callee, hcall, ?_⟩
  rw [hline]
  exact describes_of_findMatch hfind hget text call.span

/-- The lines stand in the order of the numbers. -/
theorem forall₂_describes (text : String) (p : Program) (patterns : PatternSet) :
    List.Forall₂
      (fun k (call : AwaitedCall) => ∃ span callee, p.body.UnawaitedCall k span callee ∧
        call.Describes text patterns span callee)
      ((scan p patterns).map CallSite.ordinal)
      ((namedCalls p patterns).map (SpelledCall.reported (Source.ofString text))) := by
  rw [ordinals_scan_eq, List.forall₂_map_left_iff, List.forall₂_map_right_iff, List.forall₂_same]
  exact fun call hcall => describes_reported hcall

/-! ## Main statement -/

/-- A run with patterns that gives a result has read a program and printed it with the calls awaited that
have certain numbers, which are those of the calls that a pattern names and that no `await` waited for.
The printed program has one `await` around each of them and otherwise is the one that was read, but for
parentheses; without such calls it is that one. The report has a line for each of them, in order, which
describes the call. It is the same report whether the program is printed minified, or with its comments,
or not. -/
theorem report_describes_awaited_calls {options : Options} {text : String} {patterns : PatternSet}
    {t : Transformed} (hne : patterns.isEmpty = false) (h : transform options text patterns = .ok t) :
    ∃ (parsed : Parsed) (numbers : List Nat) (printed : Program),
      parseProgram text options.dialect = .ok parsed ∧
      printed = (awaitNumbered parsed.program numbers).1 ∧
      t.code = Print.program printed
        (if options.comments then some parsed.comments else none) options.minify ∧
      (numbers = [] → printed = parsed.program) ∧
      (numbers ≠ [] → AwaitsInserted parsed.program numbers.toFinset printed) ∧
      printed.body.awaitCount = parsed.program.body.awaitCount + t.awaited.length ∧
      numbers.Pairwise (· < ·) ∧
      (∀ k, k ∈ numbers ↔ ∃ span callee, parsed.program.body.UnawaitedCall k span callee ∧
        patterns.Names callee) ∧
      List.Forall₂
        (fun k (call : AwaitedCall) =>
          ∃ span callee, parsed.program.body.UnawaitedCall k span callee ∧
            call.Describes text patterns span callee)
        numbers t.awaited ∧
      ∀ minify comments, ∃ code,
        transform { options with minify, comments } text patterns = .ok ⟨code, t.awaited⟩ := by
  cases hread : parseProgram text options.dialect with
  | error e =>
    rw [transform_of_error hne hread] at h
    cases h
  | ok parsed =>
    rw [transform_of_ok hne hread, transformParsed_eq] at h
    obtain rfl := Except.ok.inj h
    have hhit := hitNumbers_scan parsed.program patterns
    have hlines := forall₂_describes text parsed.program patterns
    rw [← source_of_parseProgram hread] at hlines
    refine ⟨parsed, (scan parsed.program patterns).map CallSite.ordinal, _, rfl, rfl, rfl,
      fun hnone => ?_, fun hsome => ?_, ?_, ?_, fun k => mem_ordinals_scan_iff, hlines,
      fun minify comments => ?_⟩
    · exact awaitNumbered_of_hitNumbers_eq_empty (by rw [hhit, hnone, List.toFinset_nil])
    · rw [← hhit]
      exact awaitsInserted_awaitNumbered (by rwa [hhit, Ne, List.toFinset_eq_empty_iff])
    · rw [← hlines.length_eq, List.length_map]
      exact awaitCount_awaitMatching parsed.program patterns
    · exact List.pairwise_lt_range.sublist (ordinals_scan parsed.program patterns)
    · have hagain : transform { options with minify, comments } text patterns =
          (transformParsed { options with minify, comments } patterns parsed).2 :=
        transform_of_ok hne hread
      rw [hagain, transformParsed_eq]
      exact ⟨_, rfl⟩

/-- One pattern is given twice. The callee of the inner call stands in parentheses at the start of a line,
and a third call is awaited already. -/
theorem report_describes_awaited_calls_nested :
    ∃ (t : Transformed) (parsed : Parsed) (printed : Program) (code : String),
      transform {} "f(\n  (db.find)(1), await g())" (.ofList ["g", "db.find", "f", "g"]) = .ok t ∧
      parseProgram "f(\n  (db.find)(1), await g())" {} = .ok parsed ∧
      t.code = Print.program printed none false ∧
      t.code = "await f(await (db.find)(1), await g());\n" ∧
      printed.body.awaitCount = parsed.program.body.awaitCount + 2 ∧
      t.awaited = [⟨"f", ⟨1, 0⟩⟩, ⟨"db.find", ⟨2, 2⟩⟩] ∧
      transform { minify := true, comments := true } "f(\n  (db.find)(1), await g())"
        (.ofList ["g", "db.find", "f", "g"]) = .ok ⟨code, t.awaited⟩ := by
  have hrun : transform {} "f(\n  (db.find)(1), await g())" (.ofList ["g", "db.find", "f", "g"]) =
      .ok ⟨"await f(await (db.find)(1), await g());\n", [⟨"f", ⟨1, 0⟩⟩, ⟨"db.find", ⟨2, 2⟩⟩]⟩ := by
    decide +kernel
  obtain ⟨parsed, numbers, printed, hread, -, hcode, -, -, hcount, -, -, -, hagain⟩ :=
    report_describes_awaited_calls (PatternSet.isEmpty_ofList (by simp)) hrun
  obtain ⟨code, hminified⟩ := hagain true true
  exact ⟨_, parsed, printed, code, hrun, hread, hcode, rfl, hcount, rfl, hminified⟩

end AwaitCalls
