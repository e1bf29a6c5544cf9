import AwaitCalls.Callee
import AwaitCalls.Json.Value

/-!
# Sets of patterns

The async functions that a caller names, as paths, each once and in the order of first mention. The
patterns that have been seen are kept beside the paths, and decide whether a pattern is new.
-/
namespace AwaitCalls

open AwaitCalls.Syntax

/-- Paths without repetition, in the order of first mention, and the patterns seen so far. -/
structure PatternSet where
  paths : List AccessPath
  /-- The patterns that the paths were read from, for look-up; their order does not count. -/
  seen : List String
  mem_seen : ∀ pattern, pattern ∈ seen ↔ AccessPath.parse pattern ∈ paths
  nodup : paths.Nodup

/-- Why a value is no list of patterns. -/
inductive PatternError
  | notASequence (found : String)
  | notAString (index : Nat) (found : String)
deriving DecidableEq, Repr

def PatternError.message : PatternError → String
  | notASequence found => "second argument must be a sequence of strings, got " ++ found
  | notAString index found =>
    "second argument must be a sequence of strings, element " ++ Decimal.decimalText index ++ " is " ++
      found

namespace PatternSet

def empty : PatternSet := ⟨[], [], by simp, List.nodup_nil⟩

instance : Inhabited PatternSet := ⟨empty⟩

instance : EmptyCollection PatternSet := ⟨empty⟩

/-- Seeing one more pattern keeps the seen patterns in step with the paths. -/
theorem mem_seen_concat (s : PatternSet) (new pattern : String) :
    pattern ∈ new :: s.seen ↔ AccessPath.parse pattern ∈ s.paths ++ [AccessPath.parse new] := by
  rw [List.mem_cons, s.mem_seen, List.mem_append, List.mem_singleton, or_comm]
  exact or_congr_right ⟨congrArg AccessPath.parse, AccessPath.parse_injective⟩

/-- The path of a pattern that has not been seen is new. -/
theorem nodup_concat {s : PatternSet} {new : String} (h : new ∉ s.seen) :
    (s.paths ++ [AccessPath.parse new]).Nodup := by
  rw [List.nodup_append]
  refine ⟨s.nodup, by simp, ?_⟩
  intro path hpath other hother
  rw [List.mem_singleton] at hother
  rintro rfl
  exact h ((s.mem_seen new).mpr (hother ▸ hpath))

/-- Add a dotted pattern at the end and say whether it is new. One that has been seen changes nothing. -/
def insert (s : PatternSet) (pattern : String) : PatternSet × Bool :=
  if h : pattern ∈ s.seen then (s, false)
  else
    ({ paths := s.paths ++ [AccessPath.parse pattern]
       seen := pattern :: s.seen
       mem_seen := s.mem_seen_concat pattern
       nodup := nodup_concat h }, true)

theorem insert_of_seen {s : PatternSet} {pattern : String} (h : pattern ∈ s.seen) :
    s.insert pattern = (s, false) := dif_pos h

theorem paths_insert_of_not_seen {s : PatternSet} {pattern : String} (h : pattern ∉ s.seen) :
    (s.insert pattern).1.paths = s.paths ++ [AccessPath.parse pattern] := by
  rw [insert, dif_neg h]

theorem insert_snd_iff {s : PatternSet} {pattern : String} :
    (s.insert pattern).2 = true ↔ pattern ∉ s.seen := by
  by_cases h : pattern ∈ s.seen <;> simp [insert, h]

/-- Add dotted patterns from left to right. -/
def insertAll (s : PatternSet) (patterns : List String) : PatternSet :=
  patterns.foldl (fun s p => (s.insert p).1) s

/-- The set of dotted patterns. -/
def ofList (patterns : List String) : PatternSet := empty.insertAll patterns

/-- Add the elements of a list of values, which all must be strings; `index` is the position of the
first one. -/
def insertValues (s : PatternSet) (index : Nat) : List Json → Except PatternError PatternSet
  | [] => .ok s
  | .str p :: rest => insertValues (s.insert p).1 (index + 1) rest
  | v :: _ => .error (.notAString index v.kindName)

/-- Read a set from a value, which must be an array of strings. The first fault counts. -/
def ofValue : Json → Except PatternError PatternSet
  | .arr items => empty.insertValues 0 items
  | v => .error (.notASequence v.kindName)

def size (s : PatternSet) : Nat := s.paths.length

def isEmpty (s : PatternSet) : Bool := s.paths.isEmpty

def get? (s : PatternSet) (index : Nat) : Option AccessPath := s.paths[index]?

/-- Index of the first path that the expression spells. -/
def findMatch (s : PatternSet) (callee : Node) : Option Nat :=
  s.paths.findIdx? fun p => pathMatches callee p.segments

end PatternSet

end AwaitCalls
