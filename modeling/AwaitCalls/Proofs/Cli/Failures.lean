import AwaitCalls.Proofs.Cli.Refinement
import AwaitCalls.Proofs.Cli.CommandLines

/-!
# A failing command leaves no trace

The ways in which a command fails are listed: the command line, the input, the configuration in four
ways, the program and the output. All of them are met before the one point at which a result is printed
or written, so a command that fails has printed nothing and written nothing, whatever file its output
names. Checking a file prints and writes nothing in any case. A line that asks for help runs no command;
it succeeds and prints the help, and that is all it does. Of a file that cannot be written it is assumed
that trying leaves it as it was.
-/
namespace AwaitCalls.Cli

open AwaitCalls.Syntax AwaitCalls.Text

/-! ## Nothing printed, nothing written -/

/-- Nothing is printed to standard output, help neither, and no file is written. -/
structure Outcome.Traceless (o : Outcome) : Prop where
  stdout : o.stdout = ""
  helpless : o.help = none
  written : o.written = none

theorem traceless_failure (log message : String) (causes : List String) :
    (failure log message causes).Traceless := ⟨rfl, rfl, rfl⟩

/-- Checking a file tells what it finds on standard error only. -/
theorem traceless_checkFile (files : Files) (verbosity : Nat) (input : String) (flags : DialectFlags) :
    (checkFile files verbosity input flags).Traceless := by
  unfold checkFile
  split
  · exact traceless_failure _ _ _
  · split
    · exact traceless_failure _ _ _
    · exact ⟨rfl, rfl, rfl⟩

/-- An outcome that writes no file leaves a directory as it was. -/
theorem after_eq_of_written_eq_none {o : Outcome} (h : o.written = none) (d : Directory) :
    d.after o = d ∧ d.changed o = [] := by
  have hsame := d.after_of_written_eq_none h
  refine ⟨hsame, List.eq_nil_iff_forall_not_mem.mpr ?_⟩
  rintro ⟨name, text⟩ hmem
  obtain ⟨hnew, hold⟩ := (d.mem_changed_iff o name text).mp hmem
  rw [hsame] at hnew
  exact hold hnew

/-! ## The ways to fail -/

/-- The file that a command works on. -/
def Command.input : Command → String
  | .transform input _ _ _ _ _ _ _ => input
  | .check input _ => input

/-- The ways in which a command fails. A program is read only if there are names, or to check it. -/
inductive Command.Fails (files : Files) : Command → Prop
  | unreadable {command : Command} {reason : String} :
    files.read command.input = .error reason → Fails files command
  | misconfigured {input path : String} {funcs : List String} {output : Option String}
    {flags : DialectFlags} {minify comments report : Bool} :
    Misconfigured files path →
    Fails files (.transform input funcs (some path) output flags minify comments report)
  | unparsable {input source : String} {funcs names : List String} {config output : Option String}
    {flags : DialectFlags} {minify comments report : Bool} {base options : Options} {e : ParseError} :
    files.read input = .ok source → Configured files config names base →
    Merged input flags minify comments base options → names ++ funcs ≠ [] →
    parseProgram source options.dialect = .error e →
    Fails files (.transform input funcs config output flags minify comments report)
  | unwritable {input path reason : String} {funcs : List String} {config : Option String}
    {flags : DialectFlags} {minify comments report : Bool} :
    files.writeFault path = some reason →
    Fails files (.transform input funcs config (some path) flags minify comments report)
  | uncheckable {input source : String} {flags : DialectFlags} {e : ParseError} :
    files.read input = .ok source → parseProgram source (dialectOf input flags {}) = .error e →
    Fails files (.check input flags)

/-- A run with names fails only on a program that cannot be read. -/
theorem exists_parse_error {options : Options} {text : String} {names : List String}
    (h : ¬ ∃ t, transform options text (.ofList names) = .ok t) :
    names ≠ [] ∧ ∃ e, parseProgram text options.dialect = .error e := by
  have hne : names ≠ [] := by
    rintro rfl
    exact h ⟨_, transform_of_isEmpty rfl⟩
  refine ⟨hne, ?_⟩
  cases hread : parseProgram text options.dialect with
  | error e => exact ⟨e, rfl⟩
  | ok parsed =>
    obtain ⟨calls, hcalls, -⟩ := exists_transformParsed options (.ofList names) parsed
    rw [← transform_of_ok (PatternSet.isEmpty_ofList hne) hread] at hcalls
    exact absurd ⟨_, hcalls⟩ h

/-- Either the input and the configuration can be read, or the command stops there. -/
theorem read_or_failure (files : Files) (verbosity : Nat) (input : String) (funcs : List String)
    (config output : Option String) (flags : DialectFlags) (minify comments report : Bool) :
    (∃ source names base, files.read input = .ok source ∧ Configured files config names base) ∨
    Command.Fails files (.transform input funcs config output flags minify comments report) ∧
      ∃ message causes, transformFile files verbosity input funcs config output flags minify comments
        report = failure "" message causes := by
  cases hread : files.read input with
  | error reason => exact .inr ⟨.unreadable hread, _, _, by rw [transformFile, hread]⟩
  | ok source =>
    cases config with
    | none => exact .inl ⟨source, [], {}, rfl, .absent⟩
    | some path =>
      rcases configured_or_misconfigured files path with ⟨names, base, hconfig⟩ | hbad
      · exact .inl ⟨source, names, base, rfl, hconfig⟩
      · obtain ⟨f, hf⟩ := loadConfig_of_misconfigured hbad
        refine .inr ⟨.misconfigured hbad, f.message, f.causes, ?_⟩
        rw [transformFile, hread]
        dsimp only
        rw [hf]

section
variable {files : Files} {verbosity : Nat} {input : String} {funcs : List String}
  {config output : Option String} {flags : DialectFlags} {minify comments report : Bool}

/-- A run that cannot be delivered has no effect but its status. -/
theorem effectOf_of_exit_ne_zero {result : Except TransformError Transformed}
    (h : (effectOf files output result).1 ≠ 0) : effectOf files output result = (1, "", none, none) := by
  cases result with
  | error e => rfl
  | ok t =>
    cases output with
    | none => exact absurd rfl h
    | some path => cases hfault : files.writeFault path <;> simp_all [effectOf]

theorem traceless_transformFile
    (h : (transformFile files verbosity input funcs config output flags minify comments
      report).exit ≠ 0) :
    (transformFile files verbosity input funcs config output flags minify comments
      report).Traceless := by
  rcases read_or_failure files verbosity input funcs config output flags minify comments report with
    ⟨source, names, base, hread, hconfig⟩ | ⟨-, message, causes, hfailure⟩
  · obtain ⟨options, hoptions⟩ := exists_merged input flags minify comments base
    have heffect : (transformFile files verbosity input funcs config output flags minify comments
        report).effect = _ := effect_transformFile hread hconfig hoptions
    have hnone := effectOf_of_exit_ne_zero fun hzero => h ((congrArg Prod.fst heffect).trans hzero)
    rw [hnone] at heffect
    exact ⟨congrArg (·.2.1) heffect, congrArg (·.2.2.1) heffect, congrArg (·.2.2.2) heffect⟩
  · rw [hfailure]
    exact traceless_failure _ _ _

theorem exit_transformFile_ne_zero_iff :
    (transformFile files verbosity input funcs config output flags minify comments report).exit ≠ 0 ↔
      Command.Fails files (.transform input funcs config output flags minify comments report) := by
  rcases read_or_failure files verbosity input funcs config output flags minify comments report with
    ⟨source, names, base, hread, hconfig⟩ | ⟨hfails, message, causes, hfailure⟩
  · obtain ⟨options, hoptions⟩ := exists_merged input flags minify comments base
    have hiff : (transformFile files verbosity input funcs config output flags minify comments
        report).exit = 0 ↔ _ := exit_transformFile_iff hread hconfig hoptions
    constructor
    · intro hexit
      rw [Ne, hiff, not_and_or] at hexit
      rcases hexit with hrun | hwrite
      · obtain ⟨hne, e, he⟩ := exists_parse_error hrun
        exact .unparsable hread hconfig hoptions hne he
      · obtain ⟨path, rfl, hfault⟩ : ∃ path, output = some path ∧ files.writeFault path ≠ none := by
          simpa using hwrite
        obtain ⟨reason, hreason⟩ := Option.ne_none_iff_exists'.mp hfault
        exact .unwritable hreason
    · intro hfails hexit
      cases hfails with
      | unreadable hbad => exact nomatch hread.symm.trans hbad
      | misconfigured hbad =>
        obtain ⟨f, hf⟩ := loadConfig_of_misconfigured hbad
        exact nomatch (loadConfig_of_configured hconfig).symm.trans hf
      | unparsable hread' hconfig' hoptions' hne hparse =>
        -- the names here need not be the ones read above; only the sets that they give agree
        obtain ⟨t, ht⟩ := ((exit_transformFile_iff hread' hconfig' hoptions').mp hexit).1
        exact nomatch (transform_of_error (PatternSet.isEmpty_ofList hne) hparse).symm.trans ht
      | unwritable hfault => exact nomatch ((hiff.mp hexit).2 _ rfl).symm.trans hfault
  · rw [hfailure]
    exact iff_of_true (by simp [failure]) hfails

theorem exit_checkFile_ne_zero_iff :
    (checkFile files verbosity input flags).exit ≠ 0 ↔ Command.Fails files (.check input flags) := by
  unfold checkFile
  constructor
  · intro hexit
    cases hread : files.read input with
    | error reason => exact .unreadable hread
    | ok source =>
      cases hparse : parseProgram source (dialectOf input flags {}) with
      | error e => exact .uncheckable hread hparse
      | ok parsed => simp [hread, hparse] at hexit
  · rintro (hread | _ | _ | _ | ⟨hread, hparse⟩)
    · simp [show files.read input = _ from hread, failure]
    · simp [hread, hparse, failure]

end

theorem traceless_execute {files : Files} {i : Invocation} (h : (execute files i).exit ≠ 0) :
    (execute files i).Traceless := by
  obtain ⟨verbosity, command⟩ := i
  cases command with
  | transform => exact traceless_transformFile h
  | check input flags => exact traceless_checkFile files verbosity input flags

theorem exit_execute_ne_zero_iff (files : Files) (i : Invocation) :
    (execute files i).exit ≠ 0 ↔ i.command.Fails files := by
  obtain ⟨verbosity, command⟩ := i
  cases command with
  | transform => exact exit_transformFile_ne_zero_iff
  | check input flags => exact exit_checkFile_ne_zero_iff

/-! ## Whole lines -/

section
variable {args : List String} {files : Files}

theorem runArguments_help {topic : HelpTopic} (h : readLine args = .help topic) (files : Files) :
    runArguments files args = { exit := 0, help := some topic } := by
  rw [runArguments, h]

theorem runArguments_misuse (h : readLine args = .misuse) (files : Files) :
    runArguments files args = { exit := 2 } := by
  rw [runArguments, h]

theorem exit_runArguments_ne_zero_iff : (runArguments files args).exit ≠ 0 ↔
    readLine args = .misuse ∨ ∃ i, parse args = some i ∧ i.command.Fails files := by
  cases hline : readLine args with
  | command i =>
    have hargs : parse args = some i := readLine_eq_command.mpr hline
    rw [runArguments_of_parse hargs, exit_execute_ne_zero_iff]
    simp [hargs]
  | help topic => simp [runArguments_help hline, parse, hline]
  | misuse => simp [runArguments_misuse hline]

theorem traceless_runArguments (h : (runArguments files args).exit ≠ 0) :
    (runArguments files args).Traceless := by
  rcases exit_runArguments_ne_zero_iff.mp h with hmisuse | ⟨i, hargs, -⟩
  · rw [runArguments_misuse hmisuse]
    exact ⟨rfl, rfl, rfl⟩
  · rw [runArguments_of_parse hargs] at h ⊢
    exact traceless_execute h

theorem traceless_check {verbosity : Nat} {input : String} {flags : DialectFlags}
    (h : parse args = some ⟨verbosity, .check input flags⟩) : (runArguments files args).Traceless := by
  rw [runArguments_of_parse h]
  exact traceless_checkFile files verbosity input flags

/-- The line of a check is a check, asks for help on it, or is misused. -/
theorem readLine_check {leading : Given} {rest : List String}
    (h : readLeading args {} = .ok (leading, "check" :: rest)) :
    (∃ verbosity input flags, readLine args = .command ⟨verbosity, .check input flags⟩) ∨
      readLine args = .help .check ∨ readLine args = .misuse := by
  have hline : readLine args = readCheck leading rest := by simp [readLine, h]
  rw [hline, readCheck]
  cases readArguments checkOptions rest none {} with
  | error stop =>
    cases stop with
    | misuse => exact .inr (.inr rfl)
    | help => exact .inr (.inl rfl)
  | ok g =>
    cases hfile : g.file with
    | none => simp [hfile]
    | some input => simp [hfile]

end

/-! ## Main statement -/

/-- A command line fails exactly if it is misused or its command fails in one of the listed ways. Then
nothing has been printed and no file written, whatever the output names, and a directory is as it was,
with no file new or changed. A line whose command is the check leaves no trace in any case, unless it asks
for help instead of a check; asking for help succeeds, prints the help and writes nothing. -/
theorem failing_command_leaves_no_trace (args : List String) :
    (∀ files : Files, (runArguments files args).exit ≠ 0 ↔
      readLine args = .misuse ∨ ∃ i, parse args = some i ∧ i.command.Fails files) ∧
    (∀ files : Files, (runArguments files args).exit ≠ 0 → (runArguments files args).Traceless) ∧
    (∀ (files : Files) (verbosity : Nat) (input : String) (flags : DialectFlags),
      parse args = some ⟨verbosity, .check input flags⟩ → (runArguments files args).Traceless) ∧
    (∀ (files : Files) (leading : Given) (rest : List String),
      readLeading args {} = .ok (leading, "check" :: rest) →
      (runArguments files args).Traceless ∨ readLine args = .help .check) ∧
    (∀ (files : Files) (topic : HelpTopic), readLine args = .help topic →
      runArguments files args = { exit := 0, help := some topic }) ∧
    ∀ d : Directory,
      (runArguments d.toFiles args).exit ≠ 0 ∨
        (∃ verbosity input flags, parse args = some ⟨verbosity, .check input flags⟩) ∨
        (∃ topic, readLine args = .help topic) →
      d.after (runArguments d.toFiles args) = d ∧ d.changed (runArguments d.toFiles args) = [] := by
  refine ⟨fun files => exit_runArguments_ne_zero_iff, fun files => traceless_runArguments,
    fun files verbosity input flags => traceless_check, fun files leading rest hlead => ?_,
    fun files topic hline => runArguments_help hline files, fun d h => ?_⟩
  · rcases readLine_check hlead with ⟨verbosity, input, flags, hline⟩ | hline | hline
    · exact .inl (traceless_check (readLine_eq_command.mpr hline))
    · exact .inr hline
    · refine .inl (traceless_runArguments ?_)
      simp [runArguments_misuse hline]
  · refine after_eq_of_written_eq_none ?_ d
    rcases h with hexit | ⟨verbosity, input, flags, hargs⟩ | ⟨topic, hline⟩
    · exact (traceless_runArguments hexit).written
    · exact (traceless_check hargs).written
    · rw [runArguments_help hline]

/-- The output names the input itself, and the program in it cannot be read: the file stays. A line that
asks for help on the check succeeds, prints the help, and leaves the directory as it is, though it names
a file that is not there. -/
theorem failing_command_leaves_no_trace_in_place : ∃ d : Directory, d = ⟨[("a.js", "f(")]⟩ ∧
    (runArguments d.toFiles ["rewrite", "a.js", "-f", "f", "-o", "a.js"]).exit = 1 ∧
    (runArguments d.toFiles ["rewrite", "a.js", "-f", "f", "-o", "a.js"]).stdout = "" ∧
    d.after (runArguments d.toFiles ["rewrite", "a.js", "-f", "f", "-o", "a.js"]) = d ∧
    runArguments d.toFiles ["check", "--help", "b.js"] = { exit := 0, help := some .check } ∧
    d.after (runArguments d.toFiles ["check", "--help", "b.js"]) = d := by
  refine ⟨_, rfl, ?_⟩
  have hexit : (runArguments (Directory.toFiles ⟨[("a.js", "f(")]⟩)
      ["rewrite", "a.js", "-f", "f", "-o", "a.js"]).exit = 1 := by decide +kernel
  have hne : (runArguments (Directory.toFiles ⟨[("a.js", "f(")]⟩)
      ["rewrite", "a.js", "-f", "f", "-o", "a.js"]).exit ≠ 0 := by rw [hexit]; decide
  have hhelp : readLine ["check", "--help", "b.js"] = .help .check := readLine_check_help ["b.js"]
  obtain ⟨-, htrace, -, -, -, hdirectory⟩ := failing_command_leaves_no_trace
    ["rewrite", "a.js", "-f", "f", "-o", "a.js"]
  obtain ⟨-, -, -, -, hprinted, hstays⟩ := failing_command_leaves_no_trace ["check", "--help", "b.js"]
  exact ⟨hexit, (htrace _ hne).stdout, (hdirectory _ (.inl hne)).1, hprinted _ _ hhelp,
    (hstays _ (.inr (.inr ⟨_, hhelp⟩))).1⟩

end AwaitCalls.Cli
