import AwaitCalls.PatternSet
import Mathlib.Data.List.Nodup

/-!
# A set of patterns lists first mentions

However a set of patterns comes about, it is the set of all patterns that were supplied to it, one after
the other. What one insertion does to the listed patterns is said once; along any sequence of insertions
it follows that a set lists each pattern where it was first mentioned, and that the patterns it has seen
are those it lists. Different patterns have different paths, since splitting loses nothing.
-/
namespace AwaitCalls

namespace PatternSet

/-! ## Insertions -/

theorem mem_insert {s : PatternSet} {pattern : String} {q : AccessPath} :
    q ∈ (s.insert pattern).1.paths ↔ q ∈ s.paths ∨ q = AccessPath.parse pattern := by
  by_cases h : pattern ∈ s.seen
  · rw [insert_of_seen h]
    exact ⟨.inl, fun hq => hq.elim id fun hq => hq ▸ (s.mem_seen pattern).mp h⟩
  · rw [paths_insert_of_not_seen h, List.mem_append, List.mem_singleton]

theorem mem_insertAll {patterns : List String} {s : PatternSet} {q : AccessPath} :
    q ∈ (s.insertAll patterns).paths ↔ q ∈ s.paths ∨ q ∈ patterns.map AccessPath.parse := by
  induction patterns generalizing s with
  | nil => simp [insertAll]
  | cons pattern rest ih =>
    rw [insertAll, List.foldl_cons, ← insertAll, ih, mem_insert, List.map_cons, List.mem_cons, or_assoc]

theorem insertAll_ofList (names more : List String) :
    (ofList names).insertAll more = ofList (names ++ more) := by
  rw [ofList, ofList, insertAll, insertAll, insertAll, List.foldl_append]

theorem insert_ofList (names : List String) (pattern : String) :
    ((ofList names).insert pattern).1 = ofList (names ++ [pattern]) :=
  insertAll_ofList names [pattern]

theorem isEmpty_ofList {patterns : List String} (h : patterns ≠ []) :
    (ofList patterns).isEmpty = false := by
  obtain ⟨pattern, rest, rfl⟩ := List.exists_cons_of_ne_nil h
  have hmem : AccessPath.parse pattern ∈ (ofList (pattern :: rest)).paths :=
    mem_insertAll.mpr (.inr (by simp))
  rw [isEmpty, List.isEmpty_eq_false_iff]
  exact List.ne_nil_of_mem hmem

/-! ## Patterns from a value -/

theorem insertValues_map_str (names : List String) (s : PatternSet) (index : Nat) :
    s.insertValues index (names.map Json.str) = .ok (s.insertAll names) := by
  induction names generalizing s index with
  | nil => rfl
  | cons name rest ih =>
    rw [List.map_cons, insertValues, ih]
    rfl

theorem exists_names_of_insertValues {items : List Json} {s t : PatternSet} {index : Nat}
    (h : s.insertValues index items = .ok t) : ∃ names : List String, items = names.map Json.str := by
  induction items generalizing s index with
  | nil => exact ⟨[], rfl⟩
  | cons v rest ih =>
    cases v with
    | str name =>
      obtain ⟨names, rfl⟩ := ih h
      exact ⟨name :: names, rfl⟩
    | _ => cases h

/-- The values that are read as patterns are the arrays of strings, and the set is that of the
strings. -/
theorem ofValue_eq_ok_iff {v : Json} {s : PatternSet} :
    ofValue v = .ok s ↔ ∃ names : List String, v = .arr (names.map Json.str) ∧ s = ofList names := by
  constructor
  · intro h
    cases v with
    | arr items =>
      obtain ⟨names, rfl⟩ := exists_names_of_insertValues h
      rw [ofValue, insertValues_map_str] at h
      exact ⟨names, rfl, (Except.ok.inj h).symm⟩
    | _ => cases h
  · rintro ⟨names, rfl, rfl⟩
    exact insertValues_map_str names empty 0

end PatternSet

/-- The strings among the elements of an array. -/
def Json.strings : Json → List String
  | .arr items => items.filterMap fun
    | .str text => some text
    | _ => none
  | _ => []

theorem Json.strings_arr_map_str (names : List String) :
    (Json.arr (names.map Json.str)).strings = names := by
  rw [Json.strings, List.filterMap_map]
  exact List.filterMap_some

namespace PatternSet

/-! ## What was supplied to a set -/

/-- A set with all the patterns that were supplied to it, in order: it was empty at first, or was made
from a list or from a value, and then patterns were inserted one by one. -/
inductive Supplied : List String → PatternSet → Prop
  | empty : Supplied [] empty
  | ofList (names : List String) : Supplied names (ofList names)
  | ofValue {value : Json} {s : PatternSet} : ofValue value = .ok s → Supplied value.strings s
  | insert {names : List String} {s : PatternSet} (pattern : String) :
    Supplied names s → Supplied (names ++ [pattern]) (s.insert pattern).1

/-- How a set came about makes no difference. -/
theorem eq_ofList_of_supplied {names : List String} {s : PatternSet} (h : Supplied names s) :
    s = ofList names := by
  induction h with
  | empty => rfl
  | ofList names => rfl
  | ofValue hvalue =>
    obtain ⟨names, rfl, rfl⟩ := ofValue_eq_ok_iff.mp hvalue
    rw [Json.strings_arr_map_str]
  | insert pattern _ ih => rw [ih, insert_ofList]

/-! ## First mentions -/

/-- The patterns that have been seen are those of the paths. -/
theorem mem_seen_iff_mem_map_display (s : PatternSet) (pattern : String) :
    pattern ∈ s.seen ↔ pattern ∈ s.paths.map AccessPath.display := by
  rw [s.mem_seen, List.mem_map]
  constructor
  · intro h
    exact ⟨_, h, AccessPath.display_parse pattern⟩
  · rintro ⟨path, hpath, rfl⟩
    rwa [AccessPath.parse_display]

theorem map_display_insert_of_not_seen {s : PatternSet} {pattern : String} (h : pattern ∉ s.seen) :
    (s.insert pattern).1.paths.map AccessPath.display =
      s.paths.map AccessPath.display ++ [pattern] := by
  rw [paths_insert_of_not_seen h, List.map_append, List.map_singleton, AccessPath.display_parse]

theorem eraseDups_concat_of_mem {l : List String} {a : String} (h : a ∈ l) :
    (l ++ [a]).eraseDups = l.eraseDups := by
  simp [List.eraseDups_append, List.removeAll, h]

theorem eraseDups_concat_of_not_mem {l : List String} {a : String} (h : a ∉ l) :
    (l ++ [a]).eraseDups = l.eraseDups ++ [a] := by
  simp [List.eraseDups_append, List.removeAll, h, List.eraseDups_cons]

/-- The patterns of the paths are those supplied, each at its first mention. -/
def ListsFirst (s : PatternSet) (supplied : List String) : Prop :=
  s.paths.map AccessPath.display = supplied.eraseDups

theorem ListsFirst.mem_seen_iff {s : PatternSet} {supplied : List String} (h : s.ListsFirst supplied)
    (pattern : String) : pattern ∈ s.seen ↔ pattern ∈ supplied := by
  rw [mem_seen_iff_mem_map_display, h, List.mem_eraseDups]

/-- One insertion. -/
theorem ListsFirst.insert {s : PatternSet} {supplied : List String} (h : s.ListsFirst supplied)
    (pattern : String) : (s.insert pattern).1.ListsFirst (supplied ++ [pattern]) := by
  by_cases hseen : pattern ∈ s.seen
  · rw [insert_of_seen hseen, ListsFirst, eraseDups_concat_of_mem ((h.mem_seen_iff pattern).mp hseen)]
    exact h
  · have hnew : pattern ∉ supplied := fun hmem => hseen ((h.mem_seen_iff pattern).mpr hmem)
    rw [ListsFirst, map_display_insert_of_not_seen hseen, eraseDups_concat_of_not_mem hnew, h]

/-- Any sequence of insertions. -/
theorem ListsFirst.insertAll {s : PatternSet} {supplied : List String} (h : s.ListsFirst supplied)
    (more : List String) : (s.insertAll more).ListsFirst (supplied ++ more) := by
  induction more generalizing s supplied with
  | nil => rwa [List.append_nil]
  | cons pattern rest ih =>
    rw [← List.singleton_append, ← List.append_assoc]
    exact ih (h.insert pattern)

theorem listsFirst_ofList (names : List String) : (ofList names).ListsFirst names := by
  have hempty : empty.ListsFirst [] := rfl
  exact hempty.insertAll names

theorem listsFirst_of_supplied {names : List String} {s : PatternSet} (h : Supplied names s) :
    s.ListsFirst names := by
  rw [eq_ofList_of_supplied h]
  exact listsFirst_ofList names

/-! ## Main statement -/

/-- What a set shows is the list of the supplied patterns, each at its first mention. -/
structure Shows (s : PatternSet) (supplied : List String) : Prop where
  seen : ∀ pattern, pattern ∈ s.seen ↔ pattern ∈ s.paths.map AccessPath.display
  paths : s.paths.map AccessPath.display = supplied.eraseDups
  distinct : (s.paths.map AccessPath.segments).Nodup
  size : s.size = supplied.eraseDups.length
  isEmpty : s.isEmpty = supplied.eraseDups.isEmpty
  get? : ∀ i, (s.get? i).map AccessPath.display = supplied.eraseDups[i]?

theorem ListsFirst.shows {s : PatternSet} {supplied : List String} (h : s.ListsFirst supplied) :
    s.Shows supplied where
  seen := s.mem_seen_iff_mem_map_display
  paths := h
  distinct := s.nodup.map fun _ _ => AccessPath.ext
  size := by rw [← h, List.length_map, PatternSet.size]
  isEmpty := by rw [← h, List.isEmpty_map, PatternSet.isEmpty]
  get? i := by rw [← h, List.getElem?_map, PatternSet.get?]

theorem get?_insert_of_lt {s : PatternSet} {i : Nat} (pattern : String) (h : i < s.size) :
    (s.insert pattern).1.get? i = s.get? i := by
  by_cases hseen : pattern ∈ s.seen
  · rw [insert_of_seen hseen]
  · rw [PatternSet.get?, paths_insert_of_not_seen hseen, List.getElem?_append_left h, PatternSet.get?]

end PatternSet

/-- A set to which patterns were supplied, in whatever way, shows each of them once, at its first
mention; the patterns it has seen are those of its paths, and no two paths have the same segments. An
insertion says that its pattern is new exactly if it was not supplied before; then the path is added at
the end, and every other keeps its index. Otherwise the insertion changes nothing. -/
theorem patternSet_lists_first_mentions {supplied : List String} {s : PatternSet}
    (h : PatternSet.Supplied supplied s) :
    s.Shows supplied ∧
    ∀ pattern : String,
      ((s.insert pattern).2 = true ↔ pattern ∉ supplied) ∧
      (pattern ∉ supplied →
        (s.insert pattern).1.paths = s.paths ++ [AccessPath.parse pattern] ∧
        ∀ i < s.size, (s.insert pattern).1.get? i = s.get? i) ∧
      (pattern ∈ supplied → (s.insert pattern).1 = s) := by
  have hlists := PatternSet.listsFirst_of_supplied h
  refine ⟨hlists.shows, fun pattern => ?_⟩
  have hseen := hlists.mem_seen_iff pattern
  refine ⟨by rw [PatternSet.insert_snd_iff, hseen], fun hnew => ⟨?_, fun i hi => ?_⟩, fun hold => ?_⟩
  · exact PatternSet.paths_insert_of_not_seen (mt hseen.mp hnew)
  · exact PatternSet.get?_insert_of_lt pattern hi
  · rw [PatternSet.insert_of_seen (hseen.mpr hold)]

/-- A value that repeats a pattern, then one more pattern that differs only by empty segments: it is
new, and supplying it again changes nothing. -/
theorem patternSet_lists_first_mentions_dotted : ∃ s : PatternSet,
    PatternSet.ofValue (.arr [.str "a.b", .str ".", .str "a.b"]) = .ok s ∧
    (s.insert "a..b").2 = true ∧
    (s.insert "a..b").1.paths.map AccessPath.display = ["a.b", ".", "a..b"] ∧
    ((s.insert "a..b").1.insert "a..b").1 = (s.insert "a..b").1 := by
  have hvalue : PatternSet.ofValue (.arr [.str "a.b", .str ".", .str "a.b"]) =
      .ok (.ofList ["a.b", ".", "a.b"]) := rfl
  refine ⟨_, hvalue, ?_⟩
  have hstart : PatternSet.Supplied ["a.b", ".", "a.b"] (.ofList ["a.b", ".", "a.b"]) :=
    .ofValue hvalue
  obtain ⟨-, hinsert⟩ := patternSet_lists_first_mentions hstart
  obtain ⟨hshows, hagain⟩ := patternSet_lists_first_mentions (hstart.insert "a..b")
  refine ⟨(hinsert "a..b").1.mpr (by decide), ?_, (hagain "a..b").2.2 (by decide)⟩
  rw [hshows.paths]
  decide

end AwaitCalls
