import AwaitCalls.Proofs.SpelledCalls
import AwaitCalls.Proofs.Stages
import AwaitCalls.Proofs.Print.Rules

/-!
# Running again on the result

A second run reads the text that the first one printed. It gives the text back and awaits nothing
exactly if the tree that it reads has no sites and is printed as that text. This holds when reading
gives the printed tree back up to spans. Where reading loses only parentheses around an `await`, the
second run still awaits nothing, but its text lacks those parentheses. That happens: parentheses around
the expression of a decorator are not kept when it is read.
-/
namespace AwaitCalls

open AwaitCalls.Syntax AwaitCalls.Text

/-! ## What a successful run has done -/

/-- A run that succeeds has read the text, printed the program with its calls awaited, and listed the
sites. -/
structure Ran (options : Options) (text : String) (patterns : PatternSet) (parsed : Parsed)
    (result : Transformed) : Prop where
  read : parseProgram text options.dialect = .ok parsed
  code : result.code = Print.program (awaitMatching parsed.program patterns)
    (if options.comments then some parsed.comments else none) options.minify
  listed : (scan parsed.program patterns).mapM (reportSite patterns parsed.source) = .ok result.awaited

theorem exists_ran {options : Options} {text : String} {patterns : PatternSet} {result : Transformed}
    (hne : patterns.isEmpty = false) (h : transform options text patterns = .ok result) :
    ∃ parsed, Ran options text patterns parsed result := by
  unfold transform run at h
  rw [if_neg (by simp [hne])] at h
  cases hread : parseProgram text options.dialect with
  | error e =>
    rw [hread] at h
    cases h
  | ok parsed =>
    rw [hread] at h
    unfold transformParsed at h
    dsimp only at h
    split at h
    · cases h
    · cases hlisted : (scan parsed.program patterns).mapM (reportSite patterns parsed.source) with
      | error e =>
        rw [hlisted] at h
        cases h
      | ok lines =>
        rw [hlisted] at h
        cases h
        exact ⟨parsed, hread, rfl, hlisted⟩

/-- A run lists nothing exactly if it has found nothing. -/
theorem Ran.awaited_eq_nil_iff {options : Options} {text : String} {patterns : PatternSet}
    {parsed : Parsed} {result : Transformed} (h : Ran options text patterns parsed result) :
    result.awaited = [] ↔ scan parsed.program patterns = [] := by
  have hlisted := (mapM_reportSite_scan parsed.program patterns parsed.source).symm.trans h.listed
  rw [← Except.ok.inj hlisted, scan_eq_map_siteOf, List.map_eq_nil_iff, List.map_eq_nil_iff]

/-! ## What the second run reads -/

mutual

theorem bare_spanless : ∀ n : Node, bare n.spanless = bare n
  | .mk kind _ parts => by rw [Node.spanless, bare, bareAll_spanless, bare]

theorem bareAll_spanless : ∀ parts : Children, bareAll parts.spanless = bareAll parts
  | .nil => rfl
  | .cons _ n rest => by rw [Children.spanless, bareAll, bare_spanless, bareAll_spanless, bareAll]

end

/-- A tree that agrees with the result of a run up to spans and parentheses around an `await` has no
sites. -/
theorem scan_eq_nil_of_bareAll_eq {p r : Program} {patterns : PatternSet}
    (h : bareAll r.body = bareAll (awaitMatching p patterns).body) : scan r patterns = [] := by
  have hfound := found_scan_congr patterns h
  rw [scan_awaitMatching_self] at hfound
  exact List.map_eq_nil_iff.mp hfound

/-- Without comments, a second run gives the text back and awaits nothing exactly if the tree that it
reads has no sites and is printed as that text. If reading has lost no more of the printed tree than
spans and parentheses around an `await`, the second run awaits nothing and prints what it has read; if
it has lost no more than spans, the second run changes nothing. With no patterns it never does. -/
theorem rerun_stable_iff {options : Options} {text : String} {patterns : PatternSet}
    {first second : Transformed} (hcomments : options.comments = false)
    (hfirst : transform options text patterns = .ok first)
    (hsecond : transform options first.code patterns = .ok second) :
    (patterns.isEmpty = true → second.code = first.code ∧ second.awaited = []) ∧
    (patterns.isEmpty = false → ∃ parsed reread : Parsed,
      parseProgram text options.dialect = .ok parsed ∧
      parseProgram first.code options.dialect = .ok reread ∧
      first.code = Print.program (awaitMatching parsed.program patterns) none options.minify ∧
      ((second.code = first.code ∧ second.awaited = []) ↔
        scan reread.program patterns = [] ∧
          Print.program reread.program none options.minify = first.code) ∧
      (bareAll reread.program.body = bareAll (awaitMatching parsed.program patterns).body →
        second.awaited = [] ∧
          second.code = Print.program reread.program none options.minify) ∧
      (Print.SameUpToSpans reread.program (awaitMatching parsed.program patterns) →
        second.code = first.code ∧ second.awaited = [])) := by
  constructor
  · intro hempty
    rw [transform, run, if_pos hempty] at hsecond
    cases hsecond
    exact ⟨rfl, rfl⟩
  · intro hne
    obtain ⟨parsed, hran⟩ := exists_ran hne hfirst
    obtain ⟨reread, hreran⟩ := exists_ran hne hsecond
    have hcode := hran.code
    have hrecode := hreran.code
    rw [hcomments, if_neg (by simp)] at hcode hrecode
    have hprinted : scan reread.program patterns = [] →
        second.code = Print.program reread.program none options.minify := by
      intro hnone
      rw [hrecode, awaitMatching_of_scan_eq_nil hnone]
    refine ⟨parsed, reread, hran.read, hreran.read, hcode, ?_, ?_, ?_⟩
    · constructor
      · rintro ⟨hsame, hnone⟩
        rw [hreran.awaited_eq_nil_iff] at hnone
        exact ⟨hnone, by rw [← hprinted hnone, hsame]⟩
      · rintro ⟨hnone, hsame⟩
        exact ⟨by rw [hprinted hnone, hsame], hreran.awaited_eq_nil_iff.mpr hnone⟩
    · intro hbare
      have hnone := scan_eq_nil_of_bareAll_eq hbare
      exact ⟨hreran.awaited_eq_nil_iff.mpr hnone, hprinted hnone⟩
    · intro hspans
      have hbare : bareAll reread.program.body =
          bareAll (awaitMatching parsed.program patterns).body := by
        rw [← bareAll_spanless, hspans.body, bareAll_spanless]
      have hnone := scan_eq_nil_of_bareAll_eq hbare
      refine ⟨?_, hreran.awaited_eq_nil_iff.mpr hnone⟩
      rw [hprinted hnone, Print.program_congr hspans, hcode]

/-- Two runs on a chain of calls: the parentheses that the first one puts around an `await` are kept
when the text is read, and the second finds nothing. -/
theorem rerun_stable_iff_chained_calls :
    transform {} "f().g(f(1))" (.ofList ["f"]) =
      .ok ⟨"(await f()).g(await f(1));\n", [⟨"f", ⟨1, 0⟩⟩, ⟨"f", ⟨1, 6⟩⟩]⟩ ∧
    transform {} "(await f()).g(await f(1));\n" (.ofList ["f"]) =
      .ok ⟨"(await f()).g(await f(1));\n", []⟩ ∧
    ∃ reread : Parsed, parseProgram "(await f()).g(await f(1));\n" {} = .ok reread ∧
      scan reread.program (.ofList ["f"]) = [] ∧
      Print.program reread.program none false = "(await f()).g(await f(1));\n" := by
  have hfirst : transform {} "f().g(f(1))" (.ofList ["f"]) =
      .ok ⟨"(await f()).g(await f(1));\n", [⟨"f", ⟨1, 0⟩⟩, ⟨"f", ⟨1, 6⟩⟩]⟩ := by decide +kernel
  have hsecond : transform {} "(await f()).g(await f(1));\n" (.ofList ["f"]) =
      .ok ⟨"(await f()).g(await f(1));\n", []⟩ := by decide +kernel
  obtain ⟨_, reread, -, hread, -, hiff, -⟩ :=
    (rerun_stable_iff rfl hfirst hsecond).2 (by decide +kernel)
  obtain ⟨hnone, hprinted⟩ := hiff.mp ⟨rfl, rfl⟩
  exact ⟨hfirst, hsecond, reread, hread, hnone, hprinted⟩

/-- An awaited decorator is not stable: its parentheses are lost when it is read again. -/
theorem rerun_loses_decorator_parens : ∃ first second : Transformed,
    transform { dialect := { decorators := true } } "@f() class A \x7b\x7d" (.ofList ["f"]) =
      .ok first ∧
    transform { dialect := { decorators := true } } first.code (.ofList ["f"]) = .ok second ∧
    second.awaited = [] ∧ second.code ≠ first.code :=
  ⟨⟨"@(await f())\nclass A \x7b\n\x7d\n", [⟨"f", ⟨1, 1⟩⟩]⟩,
    ⟨"@await f()\nclass A \x7b\n\x7d\n", []⟩, by decide +kernel, by decide +kernel, rfl, by decide⟩

end AwaitCalls
