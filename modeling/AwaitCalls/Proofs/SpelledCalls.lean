import AwaitCalls.Transform
import AwaitCalls.Proofs.Scanning
import AwaitCalls.Proofs.Spelling

/-!
# Calls that could be awaited

A program has a list of calls that a run could await, with the path that each callee spells; the list
knows no patterns. The sites for a set of patterns are the calls of the list whose path is in the set,
and what is awaited and reported of a site is its number, its place and its path. Only the index of the
pattern depends on the set otherwise, and it is looked up in the same set.
-/
namespace AwaitCalls

open AwaitCalls.Syntax AwaitCalls.Text

/-- A call that no `await` waits for, with the path that its callee spells. -/
structure SpelledCall where
  ordinal : Nat
  span : Span
  path : List String

/-- The call that a node is by itself. -/
def spelledHere (isAwaited : Bool) (next : Nat) (kind : Kind) (span : Span) (parts : Children) :
    List SpelledCall :=
  if kind = .call ∧ isAwaited = false then
    ((calleeSpelling parts).map fun path => ⟨next, span, path⟩).toList
  else []

mutual

/-- The calls in a node, numbered from `next`, that are not awaited and whose callee spells a path. -/
def spelledIn (isAwaited : Bool) (next : Nat) : Node → List SpelledCall
  | .mk kind span parts =>
    spelledHere isAwaited next kind span parts ++
      spelledInAll (kind.awaitsFirst isAwaited) (next + kind.calls) parts

def spelledInAll (isAwaited : Bool) (next : Nat) : Children → List SpelledCall
  | .nil => []
  | .cons _ n rest => spelledIn isAwaited next n ++ spelledInAll false (next + n.callCount) rest

end

/-! ## Sites are the calls whose path is in the set -/

/-- Is the path in the set? -/
def PatternSet.hasPath (patterns : PatternSet) (path : List String) : Bool :=
  patterns.paths.any fun p => p.segments == path

/-- The site of a call. -/
def PatternSet.siteOf (patterns : PatternSet) (call : SpelledCall) : CallSite :=
  ⟨call.ordinal, call.span, patterns.paths.findIdx fun p => p.segments == call.path⟩

theorem siteHere_eq (patterns : PatternSet) (b : Bool) (k : Nat) (kind : Kind) (span : Span)
    (parts : Children) :
    siteHere patterns b k kind span parts =
      ((spelledHere b k kind span parts).filter fun c => patterns.hasPath c.path).map
        patterns.siteOf := by
  unfold siteHere spelledHere
  by_cases h : kind = .call ∧ b = false
  · rw [if_pos h, if_pos h, calleeMatch_eq]
    cases calleeSpelling parts with
    | none => rfl
    | some path =>
      rw [Option.bind_some, List.findIdx?_eq_guard_findIdx_lt, Option.guard]
      by_cases hlt : patterns.paths.findIdx (fun p => p.segments == path) < patterns.paths.length
      · have hhas : patterns.hasPath path = true := by
          simpa [PatternSet.hasPath] using List.findIdx_lt_length.mp hlt
        simp [hlt, hhas, PatternSet.siteOf]
      · have hhas : patterns.hasPath path = false := by
          simpa [PatternSet.hasPath, List.findIdx_lt_length] using hlt
        simp [hlt, hhas]
  · rw [if_neg h, if_neg h]
    rfl

mutual

theorem sitesIn_eq (patterns : PatternSet) : ∀ (b : Bool) (k : Nat) (n : Node),
    sitesIn patterns b k n =
      ((spelledIn b k n).filter fun c => patterns.hasPath c.path).map patterns.siteOf
  | b, k, .mk kind span parts => by
    rw [sitesIn, siteHere_eq, sitesInAll_eq, spelledIn, List.filter_append, List.map_append]

theorem sitesInAll_eq (patterns : PatternSet) : ∀ (b : Bool) (k : Nat) (parts : Children),
    sitesInAll patterns b k parts =
      ((spelledInAll b k parts).filter fun c => patterns.hasPath c.path).map patterns.siteOf
  | _, _, .nil => rfl
  | b, k, .cons slot n rest => by
    rw [sitesInAll, sitesIn_eq, sitesInAll_eq, spelledInAll, List.filter_append, List.map_append]

end

/-- The calls of a program to which the patterns give a site. -/
def namedCalls (p : Program) (patterns : PatternSet) : List SpelledCall :=
  (spelledInAll false 0 p.body).filter fun c => patterns.hasPath c.path

theorem scan_eq_map_siteOf (p : Program) (patterns : PatternSet) :
    scan p patterns = (namedCalls p patterns).map patterns.siteOf := by
  rw [scan_eq_sitesInAll, sitesInAll_eq, namedCalls]

/-! ## What is awaited and reported -/

theorem mapM_eq_ok_map {α β ε : Type} {f : α → Except ε β} {g : α → β} {l : List α}
    (h : ∀ a ∈ l, f a = .ok (g a)) : l.mapM f = .ok (l.map g) := by
  induction l with
  | nil => rfl
  | cons a rest ih =>
    rw [List.mapM_cons, h a List.mem_cons_self, ih fun x hx => h x (List.mem_cons_of_mem a hx)]
    rfl

/-- The report of a call: its path, dotted, and its place in the text. -/
def SpelledCall.reported (source : Source) (call : SpelledCall) : AwaitedCall :=
  ⟨String.ofList (joinSegments (call.path.map String.toList)), source.place call.span.lo⟩

/-- The index of a site leads to the path that its callee spells. -/
theorem reportSite_siteOf (source : Source) {patterns : PatternSet} {call : SpelledCall}
    (h : patterns.hasPath call.path = true) :
    reportSite patterns source (patterns.siteOf call) = .ok (call.reported source) := by
  have hlt : patterns.paths.findIdx (fun p => p.segments == call.path) < patterns.paths.length :=
    List.findIdx_lt_length.mpr (by simpa [PatternSet.hasPath] using h)
  have hpath : (patterns.paths[patterns.paths.findIdx fun p => p.segments == call.path]).segments =
      call.path := by simpa using List.findIdx_getElem (w := hlt)
  have hget : patterns.get? (patterns.siteOf call).pattern =
      some patterns.paths[patterns.paths.findIdx fun p => p.segments == call.path] :=
    List.getElem?_eq_getElem hlt
  rw [reportSite, hget]
  simp only [AccessPath.display, hpath]
  rfl

/-- The report lists the calls to which the patterns give a site, and nothing of the set. -/
theorem mapM_reportSite_scan (p : Program) (patterns : PatternSet) (source : Source) :
    (scan p patterns).mapM (reportSite patterns source) =
      .ok ((namedCalls p patterns).map (SpelledCall.reported source)) := by
  rw [scan_eq_map_siteOf, List.mapM_map]
  refine mapM_eq_ok_map fun call hcall => ?_
  exact reportSite_siteOf source (by simpa using (List.mem_filter.mp hcall).2)

theorem ordinals_scan_eq (p : Program) (patterns : PatternSet) :
    (scan p patterns).map CallSite.ordinal = (namedCalls p patterns).map SpelledCall.ordinal := by
  rw [scan_eq_map_siteOf, List.map_map]
  rfl

end AwaitCalls
