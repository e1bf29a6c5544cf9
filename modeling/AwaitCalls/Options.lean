import AwaitCalls.Dialect
import AwaitCalls.Json.Reader

/-!
# Options of a run

Options are read from a value or directly from a text. Both accept an object, in which unknown keys
are passed over, or an array of the fields in order; what is missing has its default. A text may not
name a field twice.
-/
namespace AwaitCalls

/-- How a program is read and printed. -/
structure Options where
  dialect : Dialect := {}
  /-- Print without optional white space. -/
  minify : Bool := false
  /-- Keep comments. -/
  comments : Bool := false
deriving DecidableEq, Repr, Inhabited

/-- The name of a record with fields in diagnostics, and the names of its fields in order. -/
structure RecordShape where
  name : String
  fields : List String

def Dialect.shape : RecordShape := ⟨"struct AwSyntax", ["typescript", "jsx", "decorators"]⟩

def Options.shape : RecordShape := ⟨"struct AwaitifyOptions", ["syntax", "minify", "comments"]⟩

/-- Set the field of a dialect at a position. -/
def Dialect.set (d : Dialect) (index : Nat) (b : Bool) : Dialect :=
  match index with
  | 0 => { d with typescript := b }
  | 1 => { d with jsx := b }
  | _ => { d with decorators := b }

/-! ## From values -/

def boolOfValue : Json → Except JsonFault Bool
  | .bool b => .ok b
  | v => .error (.wrongType v.shown "a boolean")

/-- Read a record field by field, from an array or an object. -/
def recordOfValue {α : Type} (shape : RecordShape) (start : α)
    (field : α → Nat → Json → Except JsonFault α) : Json → Except JsonFault α
  | .arr items => do
    let count := shape.fields.length
    let pairs := (items.take count).zipIdx
    let r ← pairs.foldlM (fun a (v, i) => field a i v) start
    if items.length > count then throw (.tooLong items.length)
    return r
  | .obj members =>
    members.foldlM
      (fun a (k, v) =>
        match shape.fields.findIdx? (· == k) with
        | some i => field a i v
        | none => .ok a)
      start
  | v => .error (.wrongType v.shown shape.name)

def Dialect.ofValue : Json → Except JsonFault Dialect :=
  recordOfValue Dialect.shape {} fun d i v => return d.set i (← boolOfValue v)

def Options.ofValue : Json → Except JsonFault Options :=
  recordOfValue Options.shape {} fun o i v =>
    match i with
    | 0 => return { o with dialect := ← Dialect.ofValue v }
    | 1 => return { o with minify := ← boolOfValue v }
    | _ => return { o with comments := ← boolOfValue v }

/-! ## From texts -/

namespace JsonRead

/-- Fail on a value of the wrong type. What can be read of it is read first. -/
def wrongType {α : Type} (c : Char) (wanted : String) : JsonRead α := do
  match ← scalar? c with
  | some v => fail (.wrongType v.shown wanted)
  | none =>
    if c = '[' then fail (.wrongType "sequence" wanted)
    else if c = '\x7b' then fail (.wrongType "map" wanted)
    else failPeek .expectedValue

def bool : JsonRead Bool := do
  match ← skipBlanks with
  | none => fail .endInValue
  | some c =>
    if c = 't' then
      step
      letters ['r', 'u', 'e']
      return true
    else if c = 'f' then
      step
      letters ['a', 'l', 's', 'e']
      return false
    else wrongType c "a boolean"

/-- The elements of an array as the fields of a record, as many as there are. -/
def fieldsInOrder {α : Type} (field : α → Nat → JsonRead α) : List Nat → α → JsonRead α
  | [], a => return a
  | i :: rest, a => do
    if ← moreElements (i = 0) then fieldsInOrder field rest (← field a i) else return a

/-- The members of an object as the fields of a record. `seen` are the fields read so far. -/
def fieldsByName {α : Type} (fields : List String) (field : α → Nat → JsonRead α) :
    Nat → Bool → List Nat → α → JsonRead α
  | 0, _, _, a => return a
  | fuel + 1, isFirst, seen, a => do
    if ← moreMembers isFirst then
      let k ← key
      match fields.findIdx? (· == k) with
      | some i =>
        if seen.contains i then
          -- The place of the fault is after the blanks that follow the key.
          if (← skipBlanks) == some '\x7d' then step
          fail (.repeatedField k)
        colon
        fieldsByName fields field fuel false (i :: seen) (← field a i)
      | none =>
        colon
        ignored
        fieldsByName fields field fuel false seen a
    else return a

/-- Read a record field by field, from an array or an object. -/
def record {α : Type} (shape : RecordShape) (start : α) (field : α → Nat → JsonRead α) :
    JsonRead α := do
  match ← skipBlanks with
  | none => fail .endInValue
  | some c =>
    if c = '[' then
      step
      let a ← fieldsInOrder field (List.range shape.fields.length) start
      endList
      return a
    else if c = '\x7b' then
      step
      let a ← fieldsByName shape.fields field ((← read).size + 1) true [] start
      endObject
      return a
    else wrongType c shape.name

def dialect : JsonRead Dialect :=
  record Dialect.shape {} fun d i => return d.set i (← bool)

def options : JsonRead Options :=
  record Options.shape {} fun o i =>
    match i with
    | 0 => return { o with dialect := ← dialect }
    | 1 => return { o with minify := ← bool }
    | _ => return { o with comments := ← bool }

end JsonRead

/-- Read options from a text. -/
def Options.parse (text : String) : Except JsonError Options := JsonRead.options.onText text

end AwaitCalls
