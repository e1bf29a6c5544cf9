import AwaitCalls.Proofs.Scanning
import Mathlib.Data.List.Basic

/-!
# Spellings of callees

The spelling of an expression is the path that it names, parentheses apart. Matching a path is equality
with the spelling, so a set of patterns sees no more of a callee than its spelling.
-/
namespace AwaitCalls

open AwaitCalls.Syntax AwaitCalls.Text

/-- The path that an expression spells. -/
def spelling : Node → Option (List String)
  | .mk .paren _ (.cons _ inner _) => spelling inner
  | .mk (.ident name) _ _ => some [name]
  | .mk .member _ (.cons _ object (.cons _ (.mk (.name name) _ _) _)) =>
    (spelling object).map fun path => path ++ [name]
  | _ => none

theorem spelling_ne_nil (n : Node) : spelling n ≠ some [] := by
  fun_induction spelling n with
  | case1 _ _ inner _ ih => exact ih
  | case2 => simp
  | case3 => simp
  | case4 => simp

/-- An expression matches its spelling and no other path. -/
theorem pathMatches_iff (n : Node) (path : List String) :
    pathMatches n path = true ↔ spelling n = some path := by
  fun_induction pathMatches n path with
  | case1 _ _ inner _ path ih => rw [spelling, ih]
  | case2 name _ _ path =>
    rw [spelling, beq_iff_eq, Option.some.injEq]
    exact eq_comm
  | case3 _ _ obj _ name _ _ _ path last hlast ih =>
    have hpath : path.dropLast ++ [last] = path := List.dropLast_append_getLast? last hlast
    rw [spelling, Option.map_eq_some_iff]
    simp only [Bool.and_eq_true, Bool.not_eq_true', beq_iff_eq, ih]
    constructor
    · rintro ⟨⟨-, rfl⟩, hobj⟩
      exact ⟨_, hobj, hpath⟩
    · rintro ⟨front, hobj, hfront⟩
      rw [← hpath] at hfront
      obtain ⟨rfl, hname⟩ := List.append_inj' hfront rfl
      have hne : path.dropLast ≠ [] := fun h => spelling_ne_nil obj (h ▸ hobj)
      exact ⟨⟨by simpa using hne, by simpa using hname⟩, hobj⟩
  | case4 _ _ obj _ name _ _ _ path hlast =>
    obtain rfl : path = [] := by simpa using hlast
    simp [spelling]
  | case5 n path hparen hident hmember =>
    rw [spelling]
    · simp
    · exact hparen
    · exact hident
    · exact hmember

/-- The path that the callee of a call spells. -/
def calleeSpelling (parts : Children) : Option (List String) := (parts.find? .callee).bind spelling

/-- A set of patterns finds a callee by its spelling alone. -/
theorem findMatch_eq (patterns : PatternSet) (callee : Node) :
    patterns.findMatch callee =
      (spelling callee).bind fun path => patterns.paths.findIdx? fun p => p.segments == path := by
  rw [PatternSet.findMatch]
  cases h : spelling callee with
  | none =>
    have hno : ∀ path, pathMatches callee path = false := fun path => by
      rw [Bool.eq_false_iff, Ne, pathMatches_iff, h]
      simp
    simp [hno]
  | some path =>
    refine congrArg (patterns.paths.findIdx? ·) (funext fun p => ?_)
    rw [Bool.eq_iff_iff, pathMatches_iff, h, Option.some.injEq, beq_iff_eq, eq_comm]

/-- `super` and `import` spell nothing, so the form of the callee needs no look. -/
theorem calleeMatch_eq (patterns : PatternSet) (parts : Children) :
    calleeMatch patterns parts =
      (calleeSpelling parts).bind fun path => patterns.paths.findIdx? fun p => p.segments == path := by
  rw [calleeMatch, expressionCallee?, calleeSpelling]
  cases parts.find? .callee with
  | none => rfl
  | some callee =>
    obtain ⟨kind, span, inner⟩ := callee
    simp only [Node.kind, Option.bind_some, ← findMatch_eq]
    split
    · simp [findMatch_eq, spelling]
    · simp [findMatch_eq, spelling]
    · rfl

/-! ## Spelling from the first two parts -/

/-- The path that the first part spells. -/
def firstSpelling : Children → Option (List String)
  | .nil => none
  | .cons _ n _ => spelling n

/-- The name that a node is. -/
def nameOf : Kind → Option String
  | .name name => some name
  | _ => none

/-- The name that the second part is. -/
def secondName : Children → Option String
  | .cons _ _ (.cons _ n _) => nameOf n.kind
  | _ => none

/-- The path that a node of a kind spells, from the spelling of its first part and the name that its
second part is. -/
def spellingFrom (kind : Kind) (first : Option (List String)) (second : Option String) :
    Option (List String) :=
  match kind with
  | .paren => first
  | .ident name => some [name]
  | .member => first.bind fun path => second.map fun name => path ++ [name]
  | _ => none

theorem spelling_mk (kind : Kind) (span : Span) (parts : Children) :
    spelling (.mk kind span parts) = spellingFrom kind (firstSpelling parts) (secondName parts) := by
  cases kind with
  | paren => cases parts <;> rfl
  | member =>
    cases parts with
    | nil => rfl
    | cons slot object rest =>
      cases rest with
      | nil => cases h : spelling object <;> simp [spelling, spellingFrom, firstSpelling, secondName, h]
      | cons slot n rest =>
        obtain ⟨kind, span, inner⟩ := n
        cases h : spelling object <;> cases kind <;>
          simp [spelling, spellingFrom, firstSpelling, secondName, nameOf, Node.kind, h]
  | _ => rfl

/-- Nodes of one kind whose first part spells the same and whose second part is the same name spell
the same. -/
theorem spelling_congr {kind : Kind} {span span' : Span} {parts parts' : Children}
    (hfirst : firstSpelling parts = firstSpelling parts')
    (hsecond : secondName parts = secondName parts') :
    spelling (.mk kind span parts) = spelling (.mk kind span' parts') := by
  rw [spelling_mk, spelling_mk, hfirst, hsecond]

/-! ## Main statement -/

theorem eq_of_pathMatches {n : Node} {path other : List String} (h : pathMatches n path = true)
    (hother : pathMatches n other = true) : path = other := by
  rw [pathMatches_iff] at h hother
  exact Option.some.inj (h.symm.trans hother)

/-- The first path that a callee matches is the first one equal to its spelling. -/
theorem firstMatch_iff (patterns : PatternSet) (callee : Node) (i : Nat) :
    patterns.FirstMatch callee i ↔
      (∃ path, patterns.get? i = some path ∧ spelling callee = some path.segments) ∧
      ∀ j < i, ∀ path, patterns.get? j = some path → spelling callee ≠ some path.segments := by
  constructor
  · rintro ⟨⟨path, hget, hmatch⟩, hfirst⟩
    refine ⟨⟨path, hget, (pathMatches_iff callee _).mp hmatch⟩, fun j hj path hget hspelled => ?_⟩
    have hno := hfirst j hj path hget
    rw [(pathMatches_iff callee _).mpr hspelled] at hno
    cases hno
  · rintro ⟨⟨path, hget, hspelled⟩, hfirst⟩
    refine ⟨⟨path, hget, (pathMatches_iff callee _).mpr hspelled⟩, fun j hj path hget => ?_⟩
    rw [Bool.eq_false_iff, Ne, pathMatches_iff]
    exact hfirst j hj path hget

/-- An expression matches exactly its spelling. So it matches one path at most, none that is shorter or
longer at either end than the one it matches, and never the empty path; and a set of patterns finds it at
the first index whose path is the spelling. -/
theorem callee_matches_its_spelling (callee : Node) :
    (∀ path, pathMatches callee path = true ↔ spelling callee = some path) ∧
    (∀ path other, pathMatches callee path = true → pathMatches callee other = true →
      path = other) ∧
    (∀ path other, pathMatches callee path = true → other ≠ path →
      other <+: path ∨ other <:+ path ∨ path <+: other ∨ path <:+ other →
      pathMatches callee other = false) ∧
    pathMatches callee [] = false ∧
    ∀ (patterns : PatternSet) (i : Nat), patterns.findMatch callee = some i ↔
      (∃ path, patterns.get? i = some path ∧ spelling callee = some path.segments) ∧
      ∀ j < i, ∀ path, patterns.get? j = some path → spelling callee ≠ some path.segments := by
  refine ⟨pathMatches_iff callee, fun path other => eq_of_pathMatches, fun path other h hne _ => ?_, ?_,
    fun patterns i => ?_⟩
  · rw [Bool.eq_false_iff]
    exact fun hother => hne (eq_of_pathMatches hother h)
  · rw [Bool.eq_false_iff, Ne, pathMatches_iff]
    exact spelling_ne_nil callee
  · rw [PatternSet.findMatch_eq_some_iff, firstMatch_iff]

end AwaitCalls
