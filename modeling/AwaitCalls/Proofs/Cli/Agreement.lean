import AwaitCalls.Proofs.Cli.Failures
import AwaitCalls.Proofs.Cli.CommandLines

/-!
# Checking a file and awaiting its calls

Checking a file, and awaiting calls in it without a configuration, fail in the same ways, whatever functions
are named: the file cannot be read, or it holds no program of its dialect. Nothing that comes after the
reading of the program can fail. If the program is at fault, both commands give the fault as the innermost
cause. The result is printed, so no file has to be written.
-/
namespace AwaitCalls.Cli

open AwaitCalls.Syntax AwaitCalls.Text

section
variable {files : Files} {verbosity : Nat} {input source : String} {funcs : List String}
  {flags : DialectFlags} {minify comments report : Bool} {e : ParseError}

/-- The options of a command without a configuration. -/
theorem merged_default (input : String) (flags : DialectFlags) (minify comments : Bool) :
    Merged input flags minify comments {} { dialect := dialectOf input flags {}, minify, comments } :=
  merged_iff.mpr (by simp)

/-- The two commands fail in the same ways. -/
theorem fails_check_iff (hfuncs : funcs ≠ []) :
    Command.Fails files (.check input flags) ↔
      Command.Fails files (.transform input funcs none none flags minify comments report) := by
  constructor
  · intro h
    cases h with
    | unreadable hread => exact .unreadable hread
    | uncheckable hread hparse =>
      exact .unparsable hread .absent (merged_default input flags minify comments) (by simpa using hfuncs)
        hparse
  · intro h
    -- The other failures need a configuration, or a file for the result.
    cases h with
    | unreadable hread => exact .unreadable hread
    | unparsable hread hconfig hoptions _ hparse =>
      cases hconfig with
      | absent =>
        obtain rfl := merged_iff.mp hoptions
        exact .uncheckable hread hparse

/-! ## What is told of a fault -/

theorem stderr_checkFile (hread : files.read input = .ok source)
    (hparse : parseProgram source (dialectOf input flags {}) = .error e) :
    (checkFile files verbosity input flags).stderr =
      renderFailure ("failed to parse " ++ input) [e.message] := by
  unfold checkFile
  rw [hread]
  dsimp only
  rw [hparse]
  exact String.empty_append

/-- That a run has failed is told only if asked for. -/
theorem renderLog_failed (hfuncs : funcs ≠ []) (events : List Event) (e : TransformError) :
    renderLog 0 (logLines (.ofList funcs) source events ++ [failedLine e]) = "" := by
  have hhidden : [failedLine e].filter (fun l => l.level.isShown 0) = [] := rfl
  rw [renderLog, List.filter_append, hhidden, List.append_nil]
  exact renderLog_logLines (PatternSet.isEmpty_ofList hfuncs) events

theorem stderr_transformFile (hfuncs : funcs ≠ []) (hread : files.read input = .ok source)
    (hparse : parseProgram source (dialectOf input flags {}) = .error e) :
    ∃ log, (transformFile files verbosity input funcs none none flags minify comments report).stderr =
        log ++ renderFailure ("failed to rewrite " ++ input)
          ["could not parse code: " ++ e.message, e.message] ∧
      (verbosity = 0 → log = "") := by
  have hoptions := merged_default input flags minify comments
  have hfail : transform { dialect := dialectOf input flags {}, minify, comments } source
      (.ofList funcs) = .error (.parse e) := transform_of_error (PatternSet.isEmpty_ofList hfuncs) hparse
  rw [transformFile_eq hread .absent hoptions, List.nil_append, hfail]
  refine ⟨_, rfl, ?_⟩
  rintro rfl
  exact renderLog_failed hfuncs _ _

end

/-! ## Main statement -/

/-- Take any line that checks a file, and any line that awaits the calls to one or more functions in it, with
the same flags for the dialect, no configuration and the result printed. The one succeeds exactly if the
other does. If the file can be read and the commands fail, both give the fault of the program, with its
line, as the innermost cause. Such lines exist for all names of functions, and for every file whose name
is not read as an option. -/
theorem check_accepts_what_transform_accepts {funcs : List String} (hfuncs : funcs ≠ []) (input : String)
    (flags : DialectFlags) (minify comments report : Bool) :
    (∀ (files : Files) (args args' : List String) (verbosity verbosity' : Nat),
      parse args = some ⟨verbosity, .check input flags⟩ →
      parse args' =
        some ⟨verbosity', .transform input funcs none none flags minify comments report⟩ →
      ((runArguments files args).exit = 0 ↔ (runArguments files args').exit = 0) ∧
      ∀ source, files.read input = .ok source → (runArguments files args).exit ≠ 0 →
        ∃ (e : ParseError) (inner log : String),
          parseProgram source (dialectOf input flags {}) = .error e ∧
          inner = "Line " ++ nat e.place.line ++ ": " ++ e.fault.message ∧
          (runArguments files args).stderr = renderFailure ("failed to parse " ++ input) [inner] ∧
          (runArguments files args').stderr = log ++ renderFailure ("failed to rewrite " ++ input)
            ["could not parse code: " ++ inner, inner] ∧
          (verbosity' = 0 → log = "")) ∧
    (input ≠ "" → isOption input = false →
      parse (checkLine input flags) = some ⟨0, .check input flags⟩ ∧
      parse (transformLine input funcs flags minify comments report) =
        some ⟨0, .transform input funcs none none flags minify comments report⟩) := by
  refine ⟨fun files args args' verbosity verbosity' hcheck htransform => ?_, fun hne hfile =>
    ⟨parse_checkLine hne hfile flags, parse_transformLine hne hfile funcs flags minify comments report⟩⟩
  have hrun : runArguments files args = checkFile files verbosity input flags :=
    runArguments_of_parse hcheck files
  have hrun' : runArguments files args' =
      transformFile files verbosity' input funcs none none flags minify comments report :=
    runArguments_of_parse htransform files
  have hsame : (runArguments files args).exit ≠ 0 ↔ (runArguments files args').exit ≠ 0 := by
    rw [hrun, hrun', exit_checkFile_ne_zero_iff, exit_transformFile_ne_zero_iff]
    exact fails_check_iff hfuncs
  refine ⟨not_iff_not.mp hsame, fun source hread hfail => ?_⟩
  rw [hrun, exit_checkFile_ne_zero_iff] at hfail
  rw [hrun, hrun']
  cases hfail with
  | unreadable hbad => cases hread.symm.trans hbad
  | @uncheckable _ source' _ e hread' hparse =>
    obtain rfl : source = source' := Except.ok.inj (hread.symm.trans hread')
    obtain ⟨log, hlog, hquiet⟩ := stderr_transformFile hfuncs hread hparse
    exact ⟨e, e.message, log, hparse, rfl, stderr_checkFile hread hparse, hlog, hquiet⟩

/-- A typed file with a fault in its second line. One of the two names looks like an option. -/
theorem check_accepts_what_transform_accepts_typed : ∃ (d : Directory) (checked awaited : Outcome),
    d = ⟨[("a.ts", "let x: T;\nf(;")]⟩ ∧
    checked = runArguments d.toFiles ["check", "a.ts", "--jsx"] ∧
    awaited = runArguments d.toFiles
      ["rewrite", "a.ts", "-f", "f", "--func=--g", "--jsx", "--minify", "--report"] ∧
    checked.exit = 1 ∧ awaited.exit ≠ 0 ∧
    checked.stderr =
      "Error: failed to parse a.ts\n\nCaused by:\n    Line 2: Expression expected\n" ∧
    awaited.stderr =
      "Error: failed to rewrite a.ts\n\nCaused by:\n" ++
        "    0: could not parse code: Line 2: Expression expected\n" ++
        "    1: Line 2: Expression expected\n" := by
  refine ⟨_, _, _, rfl, rfl, rfl, ?_⟩
  have hcheck : parse ["check", "a.ts", "--jsx"] = some ⟨0, .check "a.ts" { jsx := true }⟩ := by
    decide +kernel
  have htransform : parse ["rewrite", "a.ts", "-f", "f", "--func=--g", "--jsx", "--minify", "--report"] =
      some ⟨0, .transform "a.ts" ["f", "--g"] none none { jsx := true } true false true⟩ := by
    decide +kernel
  have hexit : (runArguments (Directory.toFiles ⟨[("a.ts", "let x: T;\nf(;")]⟩)
      ["check", "a.ts", "--jsx"]).exit = 1 := by decide +kernel
  have hfault : ((parseProgram "let x: T;\nf(;" (dialectOf "a.ts" { jsx := true } {})).mapError
      ParseError.message).map (fun _ => ()) = .error "Line 2: Expression expected" := by decide +kernel
  have hfuncs : ["f", "--g"] ≠ [] := by simp
  obtain ⟨hlines, -⟩ := check_accepts_what_transform_accepts hfuncs "a.ts" { jsx := true } true false true
  obtain ⟨hiff, hmessages⟩ := hlines _ _ _ 0 0 hcheck htransform
  obtain ⟨e, inner, log, hparse, hinner, hstderr, hstderr', hquiet⟩ :=
    hmessages "let x: T;\nf(;" rfl (by rw [hexit]; decide)
  rw [hparse] at hfault
  obtain rfl : inner = "Line 2: Expression expected" := hinner.trans (Except.error.inj hfault)
  obtain rfl : log = "" := hquiet rfl
  refine ⟨hexit, fun hzero => ?_, hstderr.trans ?_, hstderr'.trans ?_⟩
  · rw [hiff.mpr hzero] at hexit
    cases hexit
  · decide +kernel
  · decide +kernel

end AwaitCalls.Cli
