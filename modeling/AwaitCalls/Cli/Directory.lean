import AwaitCalls.Cli.Run

/-!
# Commands in a flat directory

A directory of plain files, named relative to it. Running a command in it gives the outcome and the
files that are new or changed.
-/
namespace AwaitCalls.Cli

/-- Files by name. -/
structure Directory where
  files : List (String × String)

namespace Directory

def noSuchFile : String := "No such file or directory (os error 2)"

def notADirectory : String := "Not a directory (os error 20)"

def isADirectory : String := "Is a directory (os error 21)"

/-- The content of a file. -/
def get? (d : Directory) (name : String) : Option String :=
  (d.files.find? fun f => f.1 == name).map (·.2)

/-- The steps of a relative path. A dot stays in place; what stands after the last slash may be
missing, which asks for a directory. -/
def steps (path : String) : List String × Bool :=
  let parts := pieces '/' path
  let named := parts.filter fun p => p ≠ "" && p ≠ "."
  let asksDirectory :=
    match parts.getLast? with
    | some last => last == "" || last == "."
    | none => true
  (named, asksDirectory)

/-- The name of the file that a path leads to, or why it leads to none. -/
def resolve (d : Directory) (path : String) : Except String String :=
  if path.toList.head? = some '/' then .error noSuchFile
  else
    match steps path with
    | ([], _) => .error isADirectory
    | ([name], asksDirectory) =>
      if !asksDirectory then .ok name
      else if (d.get? name).isSome then .error notADirectory
      else .error noSuchFile
    | (name :: _ :: _, _) => .error (if (d.get? name).isSome then notADirectory else noSuchFile)

def read (d : Directory) (path : String) : Except String String :=
  match d.resolve path with
  | .error e => .error e
  | .ok name =>
    match d.get? name with
    | some text => .ok text
    | none => .error noSuchFile

/-- Why a path cannot be written. -/
def writeFault (d : Directory) (path : String) : Option String :=
  match d.resolve path with
  | .ok _ => none
  | .error e => some e

/-- The directory as a command meets it. -/
def toFiles (d : Directory) : Files := ⟨d.read, d.writeFault⟩

/-- The file that an outcome writes, if that changes anything. -/
def changed (d : Directory) (o : Outcome) : List (String × String) :=
  match o.written with
  | none => []
  | some (path, text) =>
    match d.resolve path with
    | .error _ => []
    | .ok name => if d.get? name == some text then [] else [(name, text)]

end Directory

end AwaitCalls.Cli
