/-!
# Command lines

A command line names a command, a file and options. Options may stand before or after the file;
`--verbose` may also stand before the command. Arguments are read from left to right, and the first one
that is out of place, or that asks for help, ends the reading.
-/
namespace AwaitCalls.Cli

/-- Flags that add to the dialect of a file. -/
structure DialectFlags where
  typescript : Bool := false
  jsx : Bool := false
deriving DecidableEq, Repr

inductive Command
  | transform (input : String) (funcs : List String) (config output : Option String)
      (dialect : DialectFlags) (minify comments report : Bool)
  | check (input : String) (dialect : DialectFlags)
deriving DecidableEq, Repr

/-- A command and how much it tells about its work. -/
structure Invocation where
  verbosity : Nat
  command : Command
deriving DecidableEq, Repr

/-- Whether an option takes a value and how often it may be given, or that it asks for help. -/
inductive Arity
  | flag
  | counted
  | single
  | repeated
  | help
deriving DecidableEq, Repr

/-- An option with its spellings. -/
structure OptionSpec where
  long : String
  short : Option Char := none
  arity : Arity
  /-- May the value be empty? -/
  allowsEmpty : Bool := true

def verboseOption : OptionSpec := { long := "verbose", short := some 'v', arity := .counted }

def helpOption : OptionSpec := { long := "help", short := some 'h', arity := .help }

/-- The options that may stand anywhere. -/
def commonOptions : List OptionSpec := [verboseOption, helpOption]

def dialectOptions : List OptionSpec :=
  [{ long := "typescript", arity := .flag }, { long := "jsx", arity := .flag }]

def transformOptions : List OptionSpec :=
  commonOptions ++
  [{ long := "func", short := some 'f', arity := .repeated },
   { long := "config", short := some 'c', arity := .single, allowsEmpty := false },
   { long := "output", short := some 'o', arity := .single, allowsEmpty := false },
   { long := "minify", arity := .flag },
   { long := "comments", arity := .flag },
   { long := "report", arity := .flag }] ++ dialectOptions

def checkOptions : List OptionSpec := commonOptions ++ dialectOptions

/-- Why the reading of a line ends early. -/
inductive Stop
  | misuse
  | help
deriving DecidableEq, Repr

/-- What a command line gives: options by their long names with values, latest last, and a file. -/
structure Given where
  options : List (String × Option String) := []
  file : Option String := none

namespace Given

def count (g : Given) (name : String) : Nat := (g.options.filter fun o => o.1 == name).length

def has (g : Given) (name : String) : Bool := g.count name > 0

def values (g : Given) (name : String) : List String :=
  g.options.filterMap fun o => if o.1 == name then o.2 else none

/-- Add an option. It is misused if it was given before and may be given once only, or if its value is
empty and may not be. -/
def add (g : Given) (spec : OptionSpec) (value : Option String) : Except Stop Given :=
  let isOnce := spec.arity = .flag || spec.arity = .single
  if spec.arity = .help then .error .help
  else if (isOnce && g.has spec.long) || (!spec.allowsEmpty && value == some "") then .error .misuse
  else .ok { g with options := g.options ++ [(spec.long, value)] }

/-- Add the file, of which there is one, with a name. -/
def addFile (g : Given) (name : String) : Except Stop Given :=
  if g.file.isSome || name.isEmpty then .error .misuse else .ok { g with file := some name }

end Given

def OptionSpec.takesValue (s : OptionSpec) : Bool := s.arity = .single || s.arity = .repeated

/-- Does an argument start an option? A lone hyphen is a value. -/
def isOption (arg : String) : Bool :=
  match arg.toList with
  | '-' :: _ :: _ => true
  | _ => false

/-- What reading an argument adds, and the option that still wants its value from the next one. -/
abbrev Reading := Except Stop (Given × Option OptionSpec)

/-- Read the letters of an argument such as `-vf`. -/
def readLetters (specs : List OptionSpec) : List Char → Given → Reading
  | [], g => .ok (g, none)
  | c :: rest, g =>
    match specs.find? fun s => s.short == some c with
    | none => .error .misuse
    | some spec =>
      if spec.takesValue then
        match rest with
        | [] => .ok (g, some spec)
        | '=' :: value => (g.add spec (some (String.ofList value))).map (·, none)
        | value => (g.add spec (some (String.ofList value))).map (·, none)
      else
        match g.add spec none with
        | .error stop => .error stop
        | .ok g => readLetters specs rest g

/-- Read an argument such as `--func` or `--func=f`, without its hyphens. -/
def readLong (specs : List OptionSpec) (text : List Char) (g : Given) : Reading :=
  let name := String.ofList (text.takeWhile (· ≠ '='))
  let value? : Option String :=
    match text.dropWhile (· ≠ '=') with
    | [] => none
    | _ :: value => some (String.ofList value)
  match specs.find? fun s => s.long == name with
  | none => .error .misuse
  | some spec =>
    match spec.takesValue, value? with
    | true, none => .ok (g, some spec)
    | true, some v => (g.add spec (some v)).map (·, none)
    | false, none => (g.add spec none).map (·, none)
    | false, some _ => .error .misuse

/-- Read the arguments after the command. `pending` is the option that wants a value. -/
def readArguments (specs : List OptionSpec) :
    List String → (pending : Option OptionSpec) → Given → Except Stop Given
  | [], none, g => .ok g
  | [], some _, _ => .error .misuse
  | arg :: rest, some spec, g =>
    if isOption arg then .error .misuse
    else (g.add spec (some arg)).bind (readArguments specs rest none)
  | arg :: rest, none, g =>
    match arg.toList with
    | ['-', '-'] => rest.foldlM Given.addFile g
    | '-' :: '-' :: text =>
      (readLong specs text g).bind fun (g, pending) => readArguments specs rest pending g
    | '-' :: c :: letters =>
      (readLetters specs (c :: letters) g).bind fun (g, pending) => readArguments specs rest pending g
    | _ => (g.addFile arg).bind (readArguments specs rest none)

/-- Read the options before the command. Gives them and what follows, the command first. -/
def readLeading : List String → Given → Except Stop (Given × List String)
  | [], _ => .error .misuse
  | arg :: rest, g =>
    match arg.toList with
    | '-' :: '-' :: text => (readLong commonOptions text g).bind fun (g, _) => readLeading rest g
    | '-' :: c :: letters =>
      (readLetters commonOptions (c :: letters) g).bind fun (g, _) => readLeading rest g
    | _ => .ok (g, arg :: rest)

/-! ## Whole lines -/

/-- What help can be asked for. -/
inductive HelpTopic
  | program
  | transform
  | check
  | help
deriving DecidableEq, Repr

/-- What a command line comes to. -/
inductive Line
  | command (i : Invocation)
  | help (topic : HelpTopic)
  | misuse
deriving DecidableEq, Repr

def Stop.line (topic : HelpTopic) : Stop → Line
  | .misuse => .misuse
  | .help => .help topic

def Given.dialect (g : Given) : DialectFlags := ⟨g.has "typescript", g.has "jsx"⟩

/-- How often `--verbose` was given. The count after the command counts before the one in front of it. -/
def Given.verbosity (g leading : Given) : Nat :=
  let n := g.count "verbose"
  if n > 0 then n else leading.count "verbose"

/-- Read the arguments of the command that awaits calls. -/
def readTransform (leading : Given) (args : List String) : Line :=
  match readArguments transformOptions args none {} with
  | .error stop => stop.line .transform
  | .ok g =>
    match g.file with
    | none => .misuse
    | some input =>
      .command ⟨g.verbosity leading,
        .transform input (g.values "func") (g.values "config").head? (g.values "output").head? g.dialect
          (g.has "minify") (g.has "comments") (g.has "report")⟩

/-- Read the arguments of the command that checks a file. -/
def readCheck (leading : Given) (args : List String) : Line :=
  match readArguments checkOptions args none {} with
  | .error stop => stop.line .check
  | .ok g =>
    match g.file with
    | none => .misuse
    | some input => .command ⟨g.verbosity leading, .check input g.dialect⟩

/-- Read the command that help is asked for. -/
def readHelp : List String → Line
  | [] => .help .program
  | ["rewrite"] => .help .transform
  | ["check"] => .help .check
  | ["help"] => .help .help
  | _ => .misuse

/-- Read a command line. -/
def readLine (args : List String) : Line :=
  match readLeading args {} with
  | .error stop => stop.line .program
  | .ok (leading, "rewrite" :: rest) => readTransform leading rest
  | .ok (leading, "check" :: rest) => readCheck leading rest
  | .ok (_, "help" :: rest) => readHelp rest
  | .ok _ => .misuse

/-- The command of a line; nothing if the line is misused or asks for help. -/
def parse (args : List String) : Option Invocation :=
  match readLine args with
  | .command i => some i
  | .help _ | .misuse => none

end AwaitCalls.Cli
