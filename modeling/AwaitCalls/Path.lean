/-!
# Dotted paths

A path such as `db.users.find` names an async function by the chain of properties that leads to it.
Splitting keeps every segment, the empty ones too, so a path and its spelling determine each other.
-/
namespace AwaitCalls

/-- The character between two segments of a path. -/
def separator : Char := '.'

/-- Cut a text at every separator. The result is never empty. -/
def splitSegments : List Char → List (List Char)
  | [] => [[]]
  | c :: cs =>
    if c = separator then [] :: splitSegments cs
    else
      match splitSegments cs with
      | [] => [[c]]
      | s :: rest => (c :: s) :: rest

/-- Write segments with a separator between two neighbours. -/
def joinSegments : List (List Char) → List Char
  | [] => []
  | [s] => s
  | s :: t :: rest => s ++ separator :: joinSegments (t :: rest)

theorem splitSegments_ne_nil (cs : List Char) : splitSegments cs ≠ [] := by
  cases cs with
  | nil => simp [splitSegments]
  | cons c cs =>
    by_cases h : c = separator
    · simp [splitSegments, h]
    · simp only [splitSegments, if_neg h]
      split <;> simp

/-- No segment holds the separator. -/
theorem separator_not_mem_of_mem_splitSegments {cs s : List Char} (h : s ∈ splitSegments cs) :
    separator ∉ s := by
  induction cs generalizing s with
  | nil => simp_all [splitSegments]
  | cons c cs ih =>
    by_cases hc : c = separator
    · simp only [splitSegments, if_pos hc, List.mem_cons] at h
      rcases h with rfl | h
      · simp
      · exact ih h
    · simp only [splitSegments, if_neg hc] at h
      cases hs : splitSegments cs with
      | nil => exact absurd hs (splitSegments_ne_nil cs)
      | cons t rest =>
        simp only [hs, List.mem_cons] at h ih
        rcases h with rfl | h
        · simpa [Ne.symm hc] using ih (.inl rfl)
        · exact ih (.inr h)

/-- Splitting loses nothing. -/
theorem joinSegments_splitSegments (cs : List Char) : joinSegments (splitSegments cs) = cs := by
  induction cs with
  | nil => rfl
  | cons c cs ih =>
    by_cases h : c = separator
    · simp only [splitSegments, if_pos h]
      cases hs : splitSegments cs with
      | nil => exact absurd hs (splitSegments_ne_nil cs)
      | cons s rest => rw [hs] at ih; simp [joinSegments, ih, h]
    · simp only [splitSegments, if_neg h]
      cases hs : splitSegments cs with
      | nil => exact absurd hs (splitSegments_ne_nil cs)
      | cons s rest =>
        rw [hs] at ih
        cases rest with
        | nil => simp_all [joinSegments]
        | cons t rest => simp_all [joinSegments]

theorem splitSegments_of_not_mem {s : List Char} (h : separator ∉ s) : splitSegments s = [s] := by
  induction s with
  | nil => rfl
  | cons c s ih =>
    simp only [List.mem_cons, not_or] at h
    simp [splitSegments, Ne.symm h.1, ih h.2]

theorem splitSegments_append {s : List Char} (cs : List Char) (h : separator ∉ s) :
    splitSegments (s ++ separator :: cs) = s :: splitSegments cs := by
  induction s with
  | nil => simp [splitSegments]
  | cons c s ih =>
    simp only [List.mem_cons, not_or] at h
    simp [splitSegments, Ne.symm h.1, ih h.2]

/-- Segments without a separator can be read off from how they are written. -/
theorem splitSegments_joinSegments {ss : List (List Char)} (hne : ss ≠ [])
    (h : ∀ s ∈ ss, separator ∉ s) : splitSegments (joinSegments ss) = ss := by
  induction ss with
  | nil => exact absurd rfl hne
  | cons s rest ih =>
    cases rest with
    | nil => exact splitSegments_of_not_mem (h s (by simp))
    | cons t rest =>
      rw [joinSegments, splitSegments_append _ (h s (by simp)),
        ih (by simp) fun u hu => h u (List.mem_cons_of_mem s hu)]

/-- A static chain of property names, outermost object first. There is at least one, and none holds
the separator. -/
@[ext]
structure AccessPath where
  segments : List String
  nonempty : segments ≠ []
  plain : ∀ s ∈ segments, separator ∉ s.toList
deriving DecidableEq

namespace AccessPath

/-- Read a dotted spelling. Segments are not checked to be identifiers. -/
def parse (text : String) : AccessPath where
  segments := (splitSegments text.toList).map String.ofList
  nonempty := by simpa using splitSegments_ne_nil text.toList
  plain := by
    intro s hs
    obtain ⟨cs, hcs, rfl⟩ := List.mem_map.mp hs
    simpa using separator_not_mem_of_mem_splitSegments hcs

/-- The dotted spelling. -/
def display (p : AccessPath) : String :=
  String.ofList (joinSegments (p.segments.map String.toList))

def size (p : AccessPath) : Nat := p.segments.length

def isEmpty (p : AccessPath) : Bool := p.segments.isEmpty

instance : Inhabited AccessPath := ⟨parse ""⟩

theorem display_parse (text : String) : (parse text).display = text := by
  simp [display, parse, Function.comp_def, joinSegments_splitSegments]

theorem parse_display (p : AccessPath) : parse p.display = p := by
  have hne : p.segments.map String.toList ≠ [] := by simpa using p.nonempty
  have hplain : ∀ s ∈ p.segments.map String.toList, separator ∉ s := by
    intro s hs
    obtain ⟨t, ht, rfl⟩ := List.mem_map.mp hs
    exact p.plain t ht
  ext1
  simp [parse, display, splitSegments_joinSegments hne hplain, Function.comp_def]

/-- Two spellings name the same path only if they are the same text. -/
theorem parse_injective {s t : String} (h : parse s = parse t) : s = t := by
  rw [← display_parse s, ← display_parse t, h]

end AccessPath

end AwaitCalls
