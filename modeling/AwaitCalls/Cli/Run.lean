import AwaitCalls.Cli.Arguments
import AwaitCalls.Transform

/-!
# Running a command

A command is a function of the files it reads. What it prints and the one file it may write are its
outcome; a failing command prints nothing to standard output and writes nothing. A line that asks for
help runs no command: the help is printed to standard output. How that text is laid out is left to the
program.
-/
namespace AwaitCalls.Cli

open AwaitCalls.Syntax AwaitCalls.Text

/-- The files a command meets: their contents, or why one cannot be read, and why one cannot be
written. -/
structure Files where
  read : String → Except String String
  writeFault : String → Option String

/-- What a command leaves behind. -/
structure Outcome where
  exit : Nat
  stdout : String := ""
  /-- The help that is printed to standard output. -/
  help : Option HelpTopic := none
  stderr : String := ""
  /-- The file that is written, with its new content. -/
  written : Option (String × String) := none
deriving DecidableEq, Repr

/-! ## Log lines -/

inductive Level
  | trace | debug | info | warn
deriving DecidableEq, Repr

/-- The name of a level, five wide. -/
def Level.label : Level → String
  | trace => "TRACE"
  | debug => "DEBUG"
  | info => " INFO"
  | warn => " WARN"

/-- Is a level shown at a verbosity? -/
def Level.isShown (verbosity : Nat) : Level → Bool
  | warn => true
  | info | debug => verbosity ≥ 1
  | trace => verbosity ≥ 2

/-- A line of the log: the level, what it happened in, who tells it, and the text. -/
structure LogLine where
  level : Level
  scope : String := ""
  target : String
  text : String

def LogLine.render (l : LogLine) : String :=
  l.level.label ++ " " ++ l.scope ++ l.target ++ ": " ++ l.text ++ "\n"

/-- The lines that a verbosity shows. -/
def renderLog (verbosity : Nat) (lines : List LogLine) : String :=
  String.join ((lines.filter fun l => l.level.isShown verbosity).map LogLine.render)

def nat (n : Nat) : String := Decimal.decimalText n

/-- The pieces of a text that a character divides it into. -/
def pieces (divider : Char) (text : String) : List String :=
  (text.toList.splitOn divider).map String.ofList

def boolText (b : Bool) : String := if b then "true" else "false"

def parsedLine (scope filename : String) (isModule : Bool) : LogLine :=
  ⟨.trace, scope, "aw_parser::parse",
    "parsed program filename=" ++ quoted filename ++ " module=" ++ boolText isModule⟩

/-- The scope of a run on a text. -/
def runScope (patterns : PatternSet) (text : String) : String :=
  "awaitify\x7bpatterns=" ++ nat patterns.size ++ " bytes=" ++ nat text.utf8ByteSize ++ "\x7d: "

/-- The log of an event. -/
def eventLines (scope : String) (e : Event) : List LogLine :=
  let stage (s : Stage) (fields : String) : LogLine :=
    ⟨.debug, scope, "awaitify::driver", "stage=" ++ s.name ++ fields⟩
  match e with
  | .returnedInput =>
    [⟨.debug, scope, "awaitify::driver",
      "no function paths, returning input stage=" ++ Stage.notStarted.name⟩]
  | .read isModule => [parsedLine scope "<input>" isModule, stage .parsed ""]
  | .matched site =>
    [⟨.trace, scope, "aw_transform::scan",
      "matched call site ordinal=" ++ nat site.ordinal ++ " pattern=" ++ nat site.pattern⟩]
  | .scanned n => [stage .scanned (" matches=" ++ nat n)]
  | .mutated n => [stage .mutated (" rewritten=" ++ nat n)]
  | .serialized n => [stage .serialized (" bytes=" ++ nat n)]

def failedLine (e : TransformError) : LogLine :=
  ⟨.debug, "", "awaitify::driver",
    "transformation failed stage=" ++ Stage.failed.name ++ " error=" ++ e.message⟩

/-! ## Failures -/

/-- The first line as it is, the others behind an indent. -/
def indented (first later : String) (text : String) : String :=
  first ++ ("\n" ++ later).intercalate (pieces '\n' text)

/-- An error with its causes. A single cause stands alone, several are numbered. -/
def renderFailure (message : String) (causes : List String) : String :=
  let body :=
    match causes with
    | [] => ""
    | [c] => "\n\nCaused by:\n" ++ indented "    " "    " c
    | cs =>
      "\n\nCaused by:\n" ++
        "\n".intercalate (cs.zipIdx.map fun (c, i) => indented ("    " ++ nat i ++ ": ") "       " c)
  "Error: " ++ message ++ body ++ "\n"

/-- A failing outcome: nothing but standard error. -/
def failure (log : String) (message : String) (causes : List String) : Outcome :=
  { exit := 1, stderr := log ++ renderFailure message causes }

/-- A failure before anything is logged, as a message and its causes. -/
structure Failure where
  message : String
  causes : List String

/-! ## Commands -/

/-- The ending of a file name: what follows its last dot, unless the name starts with it. The name is the
last step of the path; slashes and lone dots after it do not count. -/
def extension (path : String) : String :=
  let name := ((pieces '/' path).filter fun p => p ≠ "" && p ≠ ".").getLast?.getD ""
  let parts := pieces '.' name
  match parts with
  | [] | [_] => ""
  | [first, ext] => if first.isEmpty then "" else ext
  | _ => parts.getLast?.getD ""

/-- The dialect of a file: what the options, the flags or the ending of its name ask for. -/
def dialectOf (input : String) (flags : DialectFlags) (base : Dialect) : Dialect :=
  let ext := extension input
  { typescript := base.typescript || flags.typescript || ["ts", "tsx", "mts", "cts"].contains ext
    jsx := base.jsx || flags.jsx || ["jsx", "tsx"].contains ext
    decorators := base.decorators }

/-- A value without its member of the given key, and that member. -/
def takeMember (key : String) : Json → Option Json × Json
  | .obj members =>
    ((Json.obj members).get? key, .obj (members.filter fun m => m.1 != key))
  | v => (none, v)

/-- Patterns and options of a configuration text. -/
def readConfig (path text : String) : Except Failure (PatternSet × Options) :=
  match Json.parse text with
  | .error e => .error ⟨"invalid JSON in " ++ path, [e.message]⟩
  | .ok value =>
    let (funcs, rest) := takeMember "funcPaths" value
    let patterns : Except Failure PatternSet :=
      match funcs with
      | none => .ok PatternSet.empty
      | some v =>
        match PatternSet.ofValue v with
        | .ok s => .ok s
        | .error e => .error ⟨"invalid funcPaths in " ++ path, [e.message]⟩
    match patterns with
    | .error f => .error f
    | .ok patterns =>
      match Options.ofValue rest with
      | .ok options => .ok (patterns, options)
      | .error e => .error ⟨"invalid options in " ++ path, [e.message]⟩

/-- Patterns and options of the configuration file, if one is given. -/
def loadConfig (files : Files) : Option String → Except Failure (PatternSet × Options)
  | none => .ok (PatternSet.empty, {})
  | some path =>
    match files.read path with
    | .error e => .error ⟨"failed to read config " ++ path, [e]⟩
    | .ok text => readConfig path text

def reportLine (filename : String) (c : AwaitedCall) : String :=
  filename ++ ":" ++ nat c.place.line ++ ":" ++ nat c.place.column ++ " " ++ c.pattern ++ "\n"

def noPatternsLine : LogLine :=
  ⟨.warn, "", "awaitify", "no function paths given, output equals input"⟩

def doneLine (count : Nat) : LogLine := ⟨.info, "", "awaitify", "done rewritten=" ++ nat count⟩

/-- The end of a successful run: the result is written or printed, then the report. -/
def deliver (files : Files) (verbosity : Nat) (log : String) (input : String) (output : Option String)
    (report : Bool) (t : Transformed) : Outcome :=
  let tail :=
    (if report then String.join (t.awaited.map (reportLine input)) else "") ++
      renderLog verbosity [doneLine t.awaited.length]
  match output with
  | none => { exit := 0, stdout := t.code, stderr := log ++ tail }
  | some path =>
    match files.writeFault path with
    | some e => failure log ("failed to write " ++ path) [e]
    | none => { exit := 0, stderr := log ++ tail, written := some (path, t.code) }

def transformFile (files : Files) (verbosity : Nat) (input : String) (funcs : List String)
    (config output : Option String) (flags : DialectFlags) (minify comments report : Bool) : Outcome :=
  match files.read input with
  | .error e => failure "" ("failed to read " ++ input) [e]
  | .ok source =>
    match loadConfig files config with
    | .error f => failure "" f.message f.causes
    | .ok (patterns, base) =>
      let patterns := patterns.insertAll funcs
      let options : Options :=
        { dialect := dialectOf input flags base.dialect
          minify := base.minify || minify
          comments := base.comments || comments }
      let warning := if patterns.isEmpty then [noPatternsLine] else []
      let (events, result) := run options source patterns
      let scope := runScope patterns source
      let lines := warning ++ (events.map (eventLines scope)).flatten
      match result with
      | .error e =>
        failure (renderLog verbosity (lines ++ [failedLine e])) ("failed to rewrite " ++ input) e.chain
      | .ok t => deliver files verbosity (renderLog verbosity lines) input output report t

def checkFile (files : Files) (verbosity : Nat) (input : String) (flags : DialectFlags) : Outcome :=
  match files.read input with
  | .error e => failure "" ("failed to read " ++ input) [e]
  | .ok source =>
    match parseProgram source (dialectOf input flags {}) with
    | .error e => failure "" ("failed to parse " ++ input) [e.message]
    | .ok parsed =>
      { exit := 0
        stderr :=
          renderLog verbosity [parsedLine "" input parsed.program.isModule] ++ "OK: " ++ input ++ "\n" }

def execute (files : Files) (i : Invocation) : Outcome :=
  match i.command with
  | .transform input funcs config output flags minify comments report =>
    transformFile files i.verbosity input funcs config output flags minify comments report
  | .check input flags => checkFile files i.verbosity input flags

/-- Run a command line. One that is misused fails with status 2. -/
def runArguments (files : Files) (args : List String) : Outcome :=
  match readLine args with
  | .command i => execute files i
  | .help topic => { exit := 0, help := some topic }
  | .misuse => { exit := 2 }

end AwaitCalls.Cli
