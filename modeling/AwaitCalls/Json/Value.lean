import AwaitCalls.Decimal.Binary64
import AwaitCalls.Text.Quoted

/-!
# Values of the interchange format
-/
namespace AwaitCalls

/-- A number as its text spells it: a whole number that fits a machine word, or a floating point
number. -/
inductive JsonNumber
  | natural (n : Nat)
  /-- The number `-n`. -/
  | negative (n : Nat)
  | real (x : Float)

inductive Json
  | null
  | bool (b : Bool)
  | num (n : JsonNumber)
  | str (s : String)
  | arr (items : List Json)
  /-- Members in the order of their keys, each key once. -/
  | obj (members : List (String × Json))
deriving Inhabited

namespace JsonNumber

/-- A floating point number with the fewest digits, and always with a point. -/
def realText (x : Float) : String :=
  let sign := if x.toBits >>> 63 = 1 then "-" else ""
  match Decimal.Binary64.ofBits? x.toBits with
  | none => sign ++ "inf"
  | some v =>
    let text := v.shortest.positional
    sign ++ (if text.toList.contains '.' then text else text ++ ".0")

/-- How diagnostics name the number. -/
def shown : JsonNumber → String
  | natural n => "integer `" ++ Decimal.decimalText n ++ "`"
  | negative n => "integer `-" ++ Decimal.decimalText n ++ "`"
  | real x => "floating point `" ++ realText x ++ "`"

end JsonNumber

namespace Json

/-- The kind of a value with its article, where it has one. -/
def kindName : Json → String
  | null => "null"
  | bool _ => "a boolean"
  | num _ => "a number"
  | str _ => "a string"
  | arr _ => "an array"
  | obj _ => "an object"

/-- How diagnostics name a value of the wrong type. -/
def shown : Json → String
  | null => "null"
  | bool true => "boolean `true`"
  | bool false => "boolean `false`"
  | num n => n.shown
  | str s => "string " ++ Text.quoted s
  | arr _ => "sequence"
  | obj _ => "map"

/-- The member with a key. -/
def get? (key : String) : Json → Option Json
  | obj members => (members.find? fun m => m.1 == key).map (·.2)
  | _ => none

/-- Does a key come before another in the order of their encoded bytes? For texts of Unicode scalar
values this is the order of the characters. -/
def keyLt (a b : String) : Bool := a < b

/-- Add a member, replacing one with the same key. -/
def insertMember (key : String) (value : Json) : List (String × Json) → List (String × Json)
  | [] => [(key, value)]
  | (k, v) :: rest =>
    if key == k then (k, value) :: rest
    else if keyLt key k then (key, value) :: (k, v) :: rest
    else (k, v) :: insertMember key value rest

end Json

end AwaitCalls
