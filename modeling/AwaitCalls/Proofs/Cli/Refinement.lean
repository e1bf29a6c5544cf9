import AwaitCalls.Cli.Directory
import AwaitCalls.Proofs.NamedCallees
import AwaitCalls.Proofs.Cli.Configuration

/-!
# A command does what one run does

The names and options of a command come from its arguments and its configuration. Once its input and its
configuration have been read, the command is one run with all the names, the configured ones first, and
with the merged options; what is left is to print the result or to write it to one file. So it makes no
difference where a name or an option was given. A directory says what a written file changes.
-/
namespace AwaitCalls.Cli

open AwaitCalls.Syntax AwaitCalls.Text

/-! ## What an outcome does to a directory -/

namespace Directory

/-- The directory with one file written. -/
def put (d : Directory) (name text : String) : Directory :=
  ⟨(name, text) :: d.files.filter fun f => f.1 != name⟩

/-- The directory that an outcome leaves. -/
def after (d : Directory) (o : Outcome) : Directory :=
  match o.written with
  | none => d
  | some (path, text) =>
    match d.resolve path with
    | .ok name => d.put name text
    | .error _ => d

/-- Writing a file changes no other. -/
theorem get?_put (d : Directory) (name text other : String) :
    (d.put name text).get? other = if other = name then some text else d.get? other := by
  by_cases h : other = name
  · subst h
    simp [put, get?]
  · rw [if_neg h, get?, put, List.find?_cons_of_neg (by simpa using Ne.symm h), List.find?_filter]
    congr 2
    funext f
    by_cases hf : f.1 = other
    · simp [hf, h]
    · simp [hf]

theorem after_of_written_eq_none (d : Directory) {o : Outcome} (h : o.written = none) :
    d.after o = d := by
  rw [after, h]

/-- The files that an outcome changes are those with another content afterwards. -/
theorem mem_changed_iff (d : Directory) (o : Outcome) (name text : String) :
    (name, text) ∈ d.changed o ↔ (d.after o).get? name = some text ∧ d.get? name ≠ some text := by
  unfold changed after
  cases o.written with
  | none => simp
  | some file =>
    obtain ⟨path, written⟩ := file
    dsimp only
    cases d.resolve path with
    | error reason => simp
    | ok target =>
      dsimp only
      rw [get?_put]
      by_cases hsame : d.get? target = some written
      · by_cases hname : name = target
        · subst hname
          simp [hsame]
        · simp [hsame, hname]
      · by_cases hname : name = target
        · subst hname
          simp only [beq_iff_eq, hsame, if_false, List.mem_singleton, Prod.mk.injEq, true_and, if_true,
            Option.some.injEq]
          constructor
          · rintro rfl
            exact ⟨rfl, hsame⟩
          · rintro ⟨rfl, -⟩
            rfl
        · simp [hsame, hname]

end Directory

/-! ## One run with all names and merged options -/

/-- The options of a command: what its configuration gives, widened by its flags and by the ending of its
input's name. -/
structure Merged (input : String) (flags : DialectFlags) (minify comments : Bool)
    (base options : Options) : Prop where
  typescript : options.dialect.typescript = true ↔ base.dialect.typescript = true ∨
    flags.typescript = true ∨ extension input ∈ ["ts", "tsx", "mts", "cts"]
  jsx : options.dialect.jsx = true ↔
    base.dialect.jsx = true ∨ flags.jsx = true ∨ extension input ∈ ["jsx", "tsx"]
  decorators : options.dialect.decorators = base.dialect.decorators
  minify : options.minify = true ↔ base.minify = true ∨ minify = true
  comments : options.comments = true ↔ base.comments = true ∨ comments = true

/-- The merged options are determined. -/
theorem merged_iff {input : String} {flags : DialectFlags} {minify comments : Bool}
    {base options : Options} : Merged input flags minify comments base options ↔
      options =
        { dialect := dialectOf input flags base.dialect
          minify := base.minify || minify
          comments := base.comments || comments } := by
  constructor
  · intro h
    obtain ⟨⟨typescript, jsx, decorators⟩, minified, kept⟩ := options
    have hts : typescript = (dialectOf input flags base.dialect).typescript := by
      rw [Bool.eq_iff_iff, h.typescript]
      simp [dialectOf, or_assoc]
    have hjsx : jsx = (dialectOf input flags base.dialect).jsx := by
      rw [Bool.eq_iff_iff, h.jsx]
      simp [dialectOf, or_assoc]
    have hdecorators : decorators = base.dialect.decorators := h.decorators
    have hminify : minified = (base.minify || minify) := by
      rw [Bool.eq_iff_iff, h.minify, Bool.or_eq_true]
    have hcomments : kept = (base.comments || comments) := by
      rw [Bool.eq_iff_iff, h.comments, Bool.or_eq_true]
    rw [hts, hjsx, hdecorators, hminify, hcomments]
    rfl
  · rintro rfl
    constructor <;> simp [dialectOf, or_assoc]

theorem exists_merged (input : String) (flags : DialectFlags) (minify comments : Bool)
    (base : Options) : ∃ options, Merged input flags minify comments base options :=
  ⟨_, merged_iff.mpr rfl⟩

/-- What is logged before the end of a run. -/
def logLines (patterns : PatternSet) (source : String) (events : List Event) : List LogLine :=
  (if patterns.isEmpty then [noPatternsLine] else []) ++
    (events.map (eventLines (runScope patterns source))).flatten

section
variable {files : Files} {verbosity : Nat} {input source : String} {funcs names : List String}
  {config output : Option String} {flags : DialectFlags} {minify comments report : Bool}
  {base options : Options}

/-- With its input and configuration read, a command is one run and the delivery of its result. -/
theorem transformFile_eq (hread : files.read input = .ok source)
    (hconfig : Configured files config names base)
    (hoptions : Merged input flags minify comments base options) :
    transformFile files verbosity input funcs config output flags minify comments report =
      match transform options source (.ofList (names ++ funcs)) with
      | .error e =>
        failure
          (renderLog verbosity (logLines (.ofList (names ++ funcs)) source
            (run options source (.ofList (names ++ funcs))).1 ++ [failedLine e]))
          ("failed to rewrite " ++ input) e.chain
      | .ok t =>
        deliver files verbosity
          (renderLog verbosity (logLines (.ofList (names ++ funcs)) source
            (run options source (.ofList (names ++ funcs))).1)) input output report t := by
  obtain rfl := merged_iff.mp hoptions
  rw [transformFile, hread]
  dsimp only
  rw [loadConfig_of_configured hconfig]
  dsimp only
  rw [PatternSet.insertAll_ofList]
  rfl

/-- Status, standard output and written file of an outcome: all but what is told on the way. -/
def Outcome.effect (o : Outcome) : Nat × String × Option HelpTopic × Option (String × String) :=
  (o.exit, o.stdout, o.help, o.written)

/-- What a command does with the result of its run. -/
def effectOf (files : Files) (output : Option String) :
    Except TransformError Transformed → Nat × String × Option HelpTopic × Option (String × String)
  | .error _ => (1, "", none, none)
  | .ok t =>
    match output with
    | none => (0, t.code, none, none)
    | some path =>
      match files.writeFault path with
      | some _ => (1, "", none, none)
      | none => (0, "", none, some (path, t.code))

theorem effect_deliver (log : String) (t : Transformed) :
    (deliver files verbosity log input output report t).effect = effectOf files output (.ok t) := by
  cases output with
  | none => rfl
  | some path =>
    cases hfault : files.writeFault path with
    | none => simp [deliver, effectOf, hfault, Outcome.effect]
    | some reason => simp [deliver, effectOf, hfault, failure, Outcome.effect]

theorem effect_transformFile (hread : files.read input = .ok source)
    (hconfig : Configured files config names base)
    (hoptions : Merged input flags minify comments base options) :
    (transformFile files verbosity input funcs config output flags minify comments report).effect =
      effectOf files output (transform options source (.ofList (names ++ funcs))) := by
  rw [transformFile_eq hread hconfig hoptions]
  cases transform options source (.ofList (names ++ funcs)) with
  | error e => rfl
  | ok t => exact effect_deliver _ t

theorem exit_effectOf {files : Files} {output : Option String}
    {result : Except TransformError Transformed} :
    (effectOf files output result).1 = 0 ↔
      (∃ t, result = .ok t) ∧ ∀ path ∈ output, files.writeFault path = none := by
  cases result with
  | error e => simp [effectOf]
  | ok t =>
    cases output with
    | none => simp [effectOf]
    | some path => cases hfault : files.writeFault path <;> simp [effectOf, hfault]

/-- With input and configuration read, only the run and the output are left to fail. -/
theorem exit_transformFile_iff (hread : files.read input = .ok source)
    (hconfig : Configured files config names base)
    (hoptions : Merged input flags minify comments base options) :
    (transformFile files verbosity input funcs config output flags minify comments report).exit = 0 ↔
      (∃ t, transform options source (.ofList (names ++ funcs)) = .ok t) ∧
        ∀ path ∈ output, files.writeFault path = none := by
  rw [← exit_effectOf, ← effect_transformFile hread hconfig hoptions]
  rfl

/-! ## Standard error -/

/-- No event of a run is told unless asked for. -/
theorem isShown_eventLines (scope : String) (e : Event) :
    ∀ l ∈ eventLines scope e, l.level.isShown 0 = false := by
  cases e <;> simp [eventLines, parsedLine, Level.isShown]

theorem renderLog_logLines {patterns : PatternSet} (h : patterns.isEmpty = false) (events : List Event) :
    renderLog 0 (logLines patterns source events) = "" := by
  have hnone : (logLines patterns source events).filter (fun l => l.level.isShown 0) = [] := by
    refine List.filter_eq_nil_iff.mpr fun l hl => ?_
    obtain ⟨lines, hlines, hl⟩ : ∃ lines ∈ events.map (eventLines (runScope patterns source)),
        l ∈ lines := by simpa [logLines, h] using hl
    obtain ⟨e, -, rfl⟩ := List.mem_map.mp hlines
    simp [isShown_eventLines _ e l hl]
  rw [renderLog, hnone]
  rfl

end

theorem readLine_eq_command {args : List String} {i : Invocation} :
    parse args = some i ↔ readLine args = .command i := by
  rw [parse]
  cases readLine args <;> simp

/-- A line that holds a command runs it. -/
theorem runArguments_of_parse {args : List String} {i : Invocation} (h : parse args = some i)
    (files : Files) : runArguments files args = execute files i := by
  rw [runArguments, readLine_eq_command.mp h]

/-! ## Main statement -/

end AwaitCalls.Cli
