import AwaitCalls.Options
import AwaitCalls.Awaiting
import AwaitCalls.Syntax.Parser
import AwaitCalls.Print.Program

/-!
# Awaiting calls in a text

A run reads the text, finds the calls, awaits them and prints the result. With no patterns it gives
the text back without reading it. A run either gives the whole result or an error.
-/
namespace AwaitCalls

open AwaitCalls.Syntax AwaitCalls.Text

/-- How far a run has come. -/
inductive Stage
  | notStarted | parsed | scanned | mutated | serialized | failed
deriving DecidableEq, Repr

def Stage.name : Stage → String
  | notStarted => "not-started"
  | parsed => "parsed"
  | scanned => "scanned"
  | mutated => "mutated"
  | serialized => "serialized"
  | failed => "failed"

/-- All stages in order. -/
def Stage.all : List Stage := [notStarted, parsed, scanned, mutated, serialized, failed]

/-- A call that was awaited, with its place in the input. -/
structure AwaitedCall where
  pattern : String
  place : Source.Place
deriving DecidableEq, Repr

/-- The new text and the calls that were awaited in it. -/
structure Transformed where
  code : String
  awaited : List AwaitedCall
deriving DecidableEq, Repr

inductive TransformError
  | invalidArgument (e : PatternError)
  | parse (e : ParseError)
  | countMismatch (scanned awaited : Nat)
  | noPattern (index : Nat)
deriving DecidableEq, Repr

/-- The messages of an error, each the cause of the one before. -/
def TransformError.chain : TransformError → List String
  | invalidArgument e => [e.message]
  | parse e => ["could not parse code: " ++ e.message, e.message]
  | countMismatch scanned awaited =>
    ["internal error: scanned " ++ Decimal.decimalText scanned ++ " call sites but rewrote " ++
      Decimal.decimalText awaited]
  | noPattern index => ["internal error: no pattern at index " ++ Decimal.decimalText index]

def TransformError.message (e : TransformError) : String := e.chain.headD ""

/-- What a run tells about its progress. -/
inductive Event
  | returnedInput
  | read (isModule : Bool)
  | matched (site : CallSite)
  | scanned (matches_ : Nat)
  | mutated (awaited : Nat)
  | serialized (bytes : Nat)
deriving DecidableEq, Repr

/-- The report line of a site. -/
def reportSite (patterns : PatternSet) (source : Source) (site : CallSite) :
    Except TransformError AwaitedCall :=
  match patterns.get? site.pattern with
  | some p => .ok ⟨p.display, source.place site.span.lo⟩
  | none => .error (.noPattern site.pattern)

/-- Await the calls of a program that has been read. -/
def transformParsed (options : Options) (patterns : PatternSet) (parsed : Parsed) :
    List Event × Except TransformError Transformed :=
  let sites := scan parsed.program patterns
  let (program, count) := awaitSites parsed.program sites
  let seen := Event.read parsed.program.isModule :: sites.map .matched ++ [.scanned sites.length]
  if count ≠ sites.length then (seen, .error (.countMismatch sites.length count))
  else
    let comments := if options.comments then some parsed.comments else none
    let code := Print.program program comments options.minify
    (seen ++ [.mutated count, .serialized code.utf8ByteSize],
      return ⟨code, ← sites.mapM (reportSite patterns parsed.source)⟩)

/-- Await the calls in a text, with what the run tells on the way. -/
def run (options : Options) (text : String) (patterns : PatternSet) :
    List Event × Except TransformError Transformed :=
  if patterns.isEmpty then ([.returnedInput], .ok ⟨text, []⟩)
  else
    match parseProgram text options.dialect with
    | .error e => ([], .error (.parse e))
    | .ok parsed => transformParsed options patterns parsed

/-- Await the calls in a text. -/
def transform (options : Options) (text : String) (patterns : PatternSet) :
    Except TransformError Transformed :=
  (run options text patterns).2

/-- Await the calls to the named functions, with default options. -/
def awaitCalls (text : String) (patterns : List String) : Except TransformError String :=
  return (← transform {} text (PatternSet.ofList patterns)).code

/-- Like `awaitCalls`, for functions named by a value, which must be an array of strings. -/
def awaitCallsOfValue (text : String) (value : Json) : Except TransformError String :=
  match PatternSet.ofValue value with
  | .error e => .error (.invalidArgument e)
  | .ok patterns => return (← transform {} text patterns).code

end AwaitCalls
