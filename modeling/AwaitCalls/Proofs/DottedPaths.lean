import AwaitCalls.Path
import Mathlib.Logic.Function.Basic

/-!
# Paths and their dotted spellings

Every text is the spelling of one path, and every path has one spelling. Reading cuts a text at each dot
and keeps what stands between two dots even if it is empty, so a text with `n` dots has `n + 1` segments.
Showing puts a dot between two segments and nowhere else. What ties the two together is one equivalence:
a text is read as a path exactly if the segments of the path, with dots between them, are the text.
-/
namespace AwaitCalls

/-! ## Cutting -/

/-- Each separator starts one more segment. -/
theorem length_splitSegments (cs : List Char) :
    (splitSegments cs).length = cs.count separator + 1 := by
  induction cs with
  | nil => rfl
  | cons c cs ih =>
    by_cases hc : c = separator
    · rw [splitSegments, if_pos hc, List.length_cons, ih, hc, List.count_cons_self]
    · rw [List.count_cons_of_ne hc, ← ih, splitSegments, if_neg hc]
      obtain ⟨s, rest, hs⟩ := List.exists_cons_of_ne_nil (splitSegments_ne_nil cs)
      rw [hs, List.length_cons, List.length_cons]

/-! ## Joining -/

theorem joinSegments_eq_intercalate (segments : List (List Char)) :
    joinSegments segments = [separator].intercalate segments := by
  induction segments with
  | nil => rfl
  | cons s rest ih =>
    cases rest with
    | nil => rw [joinSegments, List.intercalate_singleton]
    | cons t rest => rw [joinSegments, ih, List.intercalate_cons_cons, List.append_assoc]; rfl

namespace AccessPath

/-- A path is shown with a dot between two segments. -/
theorem display_eq_intercalate (path : AccessPath) :
    path.display = ".".intercalate path.segments := by
  rw [← String.toList_inj, String.toList_intercalate, display, String.toList_ofList,
    joinSegments_eq_intercalate]
  rfl

/-! ## Reading -/

/-- A text is read as the path that it spells. -/
theorem parse_eq_iff {text : String} {path : AccessPath} :
    parse text = path ↔ text = ".".intercalate path.segments := by
  rw [← display_eq_intercalate]
  constructor
  · rintro rfl
    exact (display_parse text).symm
  · rintro rfl
    exact parse_display path

theorem size_parse (text : String) : (parse text).size = text.toList.count '.' + 1 := by
  have hlength : (parse text).size = (splitSegments text.toList).length := List.length_map ..
  rw [hlength, length_splitSegments]
  rfl

/-- Every non-empty list of segments without dots is what some text is read as. -/
theorem segments_parse_intercalate {segments : List String} (hne : segments ≠ [])
    (hplain : ∀ s ∈ segments, '.' ∉ s.toList) :
    (parse (".".intercalate segments)).segments = segments := by
  have hread : parse (".".intercalate segments) = ⟨segments, hne, hplain⟩ := parse_eq_iff.mpr rfl
  rw [hread]

theorem parse_bijective : Function.Bijective parse :=
  ⟨fun _ _ => parse_injective, fun path => ⟨path.display, parse_display path⟩⟩

end AccessPath

/-! ## Main statement -/

/-- Texts and paths correspond one to one. A text is shown again as it was read; it has one segment more
than it has dots, so never none, and no segment holds a dot. The other way round, segments without dots,
empty or not, are read again from how they are shown if there is at least one. So two texts are read as the
same path only if they are the same text. -/
theorem dotted_texts_correspond_to_paths :
    Function.Bijective AccessPath.parse ∧
    (∀ text : String,
      (AccessPath.parse text).display = text ∧
      (AccessPath.parse text).size = text.toList.count '.' + 1 ∧
      (AccessPath.parse text).isEmpty = false ∧
      ∀ s ∈ (AccessPath.parse text).segments, '.' ∉ s.toList) ∧
    (∀ (segments : List String) (hne : segments ≠ []) (hplain : ∀ s ∈ segments, '.' ∉ s.toList),
      (AccessPath.mk segments hne hplain).display = ".".intercalate segments ∧
      (AccessPath.parse (".".intercalate segments)).segments = segments) ∧
    ∀ text other : String, AccessPath.parse text = AccessPath.parse other ↔ text = other := by
  refine ⟨AccessPath.parse_bijective, fun text => ?_, fun segments hne hplain => ?_,
    fun text other => ?_⟩
  · have hnonempty := (AccessPath.parse text).nonempty
    exact ⟨AccessPath.display_parse text, AccessPath.size_parse text,
      List.isEmpty_eq_false_iff.mpr hnonempty, (AccessPath.parse text).plain⟩
  · exact ⟨AccessPath.display_eq_intercalate _, AccessPath.segments_parse_intercalate hne hplain⟩
  · exact AccessPath.parse_bijective.injective.eq_iff

/-- A path that starts and ends with an empty segment and has one inside. -/
theorem dotted_texts_correspond_to_paths_empty_segments :
    (AccessPath.parse ".a..é b.").segments = ["", "a", "", "é b", ""] ∧
    (AccessPath.parse ".a..é b.").size = ".a..é b.".toList.count '.' + 1 ∧
    AccessPath.parse ".a..é b." ≠ AccessPath.parse "a.é b" := by
  obtain ⟨-, hread, hshown, heq⟩ := dotted_texts_correspond_to_paths
  have htext : ".a..é b." = ".".intercalate ["", "a", "", "é b", ""] := by decide
  refine ⟨?_, (hread _).2.1, fun h => ?_⟩
  · rw [htext]
    exact (hshown ["", "a", "", "é b", ""] (by decide) (by decide)).2
  · exact absurd ((heq _ _).mp h) (by decide)

end AwaitCalls
