import AwaitCalls.Cli.Arguments
import Mathlib.Data.List.TakeWhile

/-!
# Command lines that are read as meant

A line is written for a check, and one for awaiting the calls to given functions, and each is read back as
that command. Arguments are read one after the other, so it is said once what reading one of them adds to
what was given before. Any name can be passed for a function: one that starts like an option is attached to
the option that it is the value of. An argument that asks for help ends the reading, whatever follows it.
-/
namespace AwaitCalls.Cli

/-! ## Reading one argument -/

section
variable {specs : List OptionSpec} {g : Given} {arg : String}

theorem readArguments_file (h : isOption arg = false) (hne : arg ≠ "") (hfirst : g.file = none)
    (rest : List String) :
    readArguments specs (arg :: rest) none g =
      readArguments specs rest none { g with file := some arg } := by
  have hadd : g.addFile arg = .ok { g with file := some arg } := by simp [Given.addFile, hfirst, hne]
  unfold isOption at h
  rw [readArguments]
  split <;> simp_all [Except.bind]

theorem readArguments_value {spec : OptionSpec} (h : isOption arg = false) (rest : List String) :
    readArguments specs (arg :: rest) (some spec) g =
      (g.add spec (some arg)).bind (readArguments specs rest none) := by
  rw [readArguments, h]
  rfl

theorem readArguments_long {c : Char} {cs : List Char} (h : arg.toList = '-' :: '-' :: c :: cs)
    (rest : List String) :
    readArguments specs (arg :: rest) none g =
      (readLong specs (c :: cs) g).bind fun (g, pending) => readArguments specs rest pending g := by
  rw [readArguments]
  split <;> simp_all

/-- Where the option for help is known, it ends the reading. -/
theorem readArguments_help (hspec : specs.find? (fun s => s.long == "help") = some helpOption)
    (rest : List String) : readArguments specs ("--help" :: rest) none g = .error .help := by
  have hlist : "--help".toList = '-' :: '-' :: ['h', 'e', 'l', 'p'] := rfl
  have hname : String.ofList (['h', 'e', 'l', 'p'].takeWhile (· ≠ '=')) = "help" := rfl
  have hread : readLong specs ['h', 'e', 'l', 'p'] g = .error .help := by
    rw [readLong]
    simp only [hname, hspec]
    rfl
  rw [readArguments_long hlist, hread]
  rfl

theorem readArguments_letters {c : Char} {cs : List Char} (h : arg.toList = '-' :: c :: cs)
    (hc : '-' ≠ c) (rest : List String) :
    readArguments specs (arg :: rest) none g =
      (readLetters specs (c :: cs) g).bind fun (g, pending) => readArguments specs rest pending g := by
  rw [readArguments]
  split <;> simp_all

end

/-! ## Flags and functions -/

/-- The arguments that give a flag, if it is wanted. -/
def flagArguments (name : String) (wanted : Bool) : List String :=
  if wanted then ["--" ++ name] else []

/-- The arguments that name a function. A name that would be read as an option is attached to its own. -/
def funcArguments (name : String) : List String :=
  if isOption name then ["--func=" ++ name] else ["-f", name]

/-- What a flag gives. -/
def flagged (name : String) (wanted : Bool) : List (String × Option String) :=
  if wanted then [(name, none)] else []

/-- What functions give. -/
def named (funcs : List String) : List (String × Option String) :=
  funcs.map fun name => ("func", some name)

/-- What is given, and more. -/
def Given.more (g : Given) (options : List (String × Option String)) : Given :=
  { g with options := g.options ++ options }

section
variable {specs : List OptionSpec} {g : Given} {name : String}

theorem readLong_flag (hspec : specs.find? (fun s => s.long == name) = some { long := name, arity := .flag })
    (hplain : '=' ∉ name.toList) (hfresh : g.has name = false) :
    readLong specs name.toList g = .ok (g.more [(name, none)], none) := by
  have hall : ∀ c ∈ name.toList, decide (c ≠ '=') = true := fun c hc =>
    decide_eq_true fun heq => hplain (heq ▸ hc)
  have hwhole : name.toList.takeWhile (· ≠ '=') = name.toList := List.takeWhile_eq_self_iff.mpr hall
  have hnothing : name.toList.dropWhile (· ≠ '=') = [] := List.dropWhile_eq_nil_iff.mpr hall
  rw [readLong]
  simp only [hwhole, hnothing, String.ofList_toList, hspec, OptionSpec.takesValue]
  simp [Given.add, hfresh, Given.more, Except.map]

theorem readArguments_flag (name : String)
    (hspec : specs.find? (fun s => s.long == name) = some { long := name, arity := .flag })
    (hplain : '=' ∉ name.toList) (hne : name.toList ≠ []) (hfresh : g.has name = false)
    (wanted : Bool) (rest : List String) :
    readArguments specs (flagArguments name wanted ++ rest) none g =
      readArguments specs rest none (g.more (flagged name wanted)) := by
  cases wanted with
  | false => simp [flagArguments, flagged, Given.more]
  | true =>
    obtain ⟨c, cs, hcs⟩ := List.exists_cons_of_ne_nil hne
    have hlist : ("--" ++ name).toList = '-' :: '-' :: c :: cs := by
      rw [String.toList_append, hcs]
      rfl
    have hread := readLong_flag hspec hplain hfresh
    rw [hcs] at hread
    rw [flagArguments, if_pos rfl, List.singleton_append, readArguments_long hlist, hread]
    rfl

end

theorem readArguments_func (name : String) (rest : List String) (g : Given) :
    readArguments transformOptions (funcArguments name ++ rest) none g =
      readArguments transformOptions rest none (g.more [("func", some name)]) := by
  unfold funcArguments
  split
  · have hlist : ("--func=" ++ name).toList = '-' :: '-' :: 'f' :: 'u' :: 'n' :: 'c' :: '=' :: name.toList := by
      rw [String.toList_append]
      rfl
    have hread : readLong transformOptions ('f' :: 'u' :: 'n' :: 'c' :: '=' :: name.toList) g =
        .ok (g.more [("func", some (String.ofList name.toList))], none) := rfl
    rw [List.singleton_append, readArguments_long hlist, hread, String.ofList_toList]
    rfl
  · rename_i hvalue
    have hlist : "-f".toList = ['-', 'f'] := rfl
    have hread : readLetters transformOptions ['f'] g = .ok (g, some _) := rfl
    rw [List.cons_append, List.singleton_append, readArguments_letters hlist (by decide), hread]
    dsimp only [Except.bind]
    rw [readArguments_value (by simpa using hvalue)]
    rfl

theorem readArguments_funcs (funcs rest : List String) (g : Given) :
    readArguments transformOptions (funcs.flatMap funcArguments ++ rest) none g =
      readArguments transformOptions rest none (g.more (named funcs)) := by
  induction funcs generalizing g with
  | nil => simp [Given.more, named]
  | cons name more ih =>
    rw [List.flatMap_cons, List.append_assoc, readArguments_func, ih]
    simp [Given.more, named]

/-! ## What was given -/

theorem has_eq_any (g : Given) (name : String) : g.has name = g.options.any fun o => o.1 == name := by
  rw [Bool.eq_iff_iff, Given.has, Given.count, decide_eq_true_iff, gt_iff_lt,
    List.length_pos_iff_exists_mem, List.any_eq_true]
  simp only [List.mem_filter]

theorem count_eq_zero {g : Given} {name : String} (h : g.has name = false) : g.count name = 0 := by
  simpa [Given.has] using h

theorem any_flagged (name other : String) (wanted : Bool) :
    ((flagged name wanted).any fun o => o.1 == other) = (wanted && name == other) := by
  cases wanted <;> simp [flagged]

theorem any_named (other : String) (funcs : List String) :
    ((named funcs).any fun o => o.1 == other) = (!funcs.isEmpty && "func" == other) := by
  cases funcs with
  | nil => rfl
  | cons name rest => by_cases h : "func" = other <;> simp [named, h]

theorem filterMap_flagged (name other : String) (wanted : Bool) :
    ((flagged name wanted).filterMap fun o => if o.1 == other then o.2 else none) = [] := by
  cases wanted <;> simp [flagged]

theorem filterMap_named (other : String) (funcs : List String) :
    ((named funcs).filterMap fun o => if o.1 == other then o.2 else none) =
      if "func" == other then funcs else [] := by
  rw [named, List.filterMap_map]
  by_cases h : "func" = other
  · subst h
    exact List.filterMap_some
  · simp [h]

/-! ## Whole lines -/

section
variable {args : List String} {g : Given} {input : String}

theorem verbosity_eq_zero (h : g.has "verbose" = false) : g.verbosity {} = 0 := by
  rw [Given.verbosity, count_eq_zero h]
  rfl

theorem parse_check (hread : readArguments checkOptions args none {} = .ok g)
    (hfile : g.file = some input) (hquiet : g.has "verbose" = false) :
    parse ("check" :: args) = some ⟨0, .check input g.dialect⟩ := by
  have hlead : readLeading ("check" :: args) {} = .ok ({}, "check" :: args) := rfl
  simp [parse, readLine, hlead, readCheck, hread, hfile, verbosity_eq_zero hquiet]

theorem parse_transform (hread : readArguments transformOptions args none {} = .ok g)
    (hfile : g.file = some input) (hquiet : g.has "verbose" = false) :
    parse ("rewrite" :: args) =
      some ⟨0, .transform input (g.values "func") (g.values "config").head? (g.values "output").head?
        g.dialect (g.has "minify") (g.has "comments") (g.has "report")⟩ := by
  have hlead : readLeading ("rewrite" :: args) {} = .ok ({}, "rewrite" :: args) := rfl
  simp [parse, readLine, hlead, readTransform, hread, hfile, verbosity_eq_zero hquiet]

end

/-- Help on the check is given whatever follows. -/
theorem readLine_check_help (rest : List String) :
    readLine ("check" :: "--help" :: rest) = .help .check := by
  have hlead : readLeading ("check" :: "--help" :: rest) {} = .ok ({}, "check" :: "--help" :: rest) := rfl
  have hread : readArguments checkOptions ("--help" :: rest) none {} = .error .help :=
    readArguments_help rfl rest
  simp [readLine, hlead, readCheck, hread, Stop.line]

/-- A line that checks a file. -/
def checkLine (input : String) (flags : DialectFlags) : List String :=
  "check" :: input :: (flagArguments "typescript" flags.typescript ++ flagArguments "jsx" flags.jsx)

/-- A line that awaits the calls to some functions in a file and prints the result. -/
def transformLine (input : String) (funcs : List String) (flags : DialectFlags)
    (minify comments report : Bool) : List String :=
  "rewrite" :: input :: (funcs.flatMap funcArguments ++
    (flagArguments "typescript" flags.typescript ++ (flagArguments "jsx" flags.jsx ++
      (flagArguments "minify" minify ++ (flagArguments "comments" comments ++
        flagArguments "report" report)))))

section
variable {input : String} (hne : input ≠ "") (hfile : isOption input = false)
include hne hfile

theorem parse_checkLine (flags : DialectFlags) :
    parse (checkLine input flags) = some ⟨0, .check input flags⟩ := by
  have hread : readArguments checkOptions
      (input :: (flagArguments "typescript" flags.typescript ++ flagArguments "jsx" flags.jsx)) none {} =
      .ok ⟨flagged "typescript" flags.typescript ++ flagged "jsx" flags.jsx, some input⟩ := by
    -- A flag counts once at most: each side goal says that it was not given before.
    rw [readArguments_file hfile hne rfl, ← List.append_nil (flagArguments "jsx" _),
      readArguments_flag "typescript" rfl (by decide) (by decide) rfl,
      readArguments_flag "jsx" rfl (by decide) (by decide) (by simp [has_eq_any, Given.more, any_flagged])]
    rfl
  rw [checkLine, parse_check hread rfl (by simp [has_eq_any, any_flagged])]
  simp [Given.dialect, has_eq_any, any_flagged]

theorem parse_transformLine (funcs : List String) (flags : DialectFlags) (minify comments report : Bool) :
    parse (transformLine input funcs flags minify comments report) =
      some ⟨0, .transform input funcs none none flags minify comments report⟩ := by
  have hread : readArguments transformOptions (input :: (funcs.flatMap funcArguments ++
      (flagArguments "typescript" flags.typescript ++ (flagArguments "jsx" flags.jsx ++
        (flagArguments "minify" minify ++ (flagArguments "comments" comments ++
          flagArguments "report" report)))))) none {} =
      .ok ⟨named funcs ++ flagged "typescript" flags.typescript ++ flagged "jsx" flags.jsx ++
        flagged "minify" minify ++ flagged "comments" comments ++ flagged "report" report,
        some input⟩ := by
    rw [readArguments_file hfile hne rfl, readArguments_funcs, ← List.append_nil (flagArguments "report" _),
      readArguments_flag "typescript" rfl (by decide) (by decide) (by simp [has_eq_any, Given.more, any_named]),
      readArguments_flag "jsx" rfl (by decide) (by decide)
        (by simp [has_eq_any, Given.more, any_named, any_flagged]),
      readArguments_flag "minify" rfl (by decide) (by decide)
        (by simp [has_eq_any, Given.more, any_named, any_flagged]),
      readArguments_flag "comments" rfl (by decide) (by decide)
        (by simp [has_eq_any, Given.more, any_named, any_flagged]),
      readArguments_flag "report" rfl (by decide) (by decide)
        (by simp [has_eq_any, Given.more, any_named, any_flagged])]
    rfl
  rw [transformLine, parse_transform hread rfl (by simp [has_eq_any, any_named, any_flagged])]
  simp only [Given.dialect, has_eq_any, Given.values, List.any_append, List.filterMap_append, any_flagged,
    filterMap_flagged, filterMap_named, any_named]
  simp

end

end AwaitCalls.Cli
