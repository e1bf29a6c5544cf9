import AwaitCalls.Fixture
import AwaitCalls.Proofs.Outcome
import AwaitCalls.Proofs.WhiteSpace

/-!
# The paths that a fixture lists

The first line of a fixture is cut off, trimmed, freed of its mark and split into words. A line with the mark
and then paths, each after white space of any kind and amount, is read as these paths, whatever follows the
line: one mention of a path adds one word, so a list of mentions adds their paths in order, and trimming takes
away exactly what stands before the mark and after the last path.
-/
namespace AwaitCalls

namespace Fixture

open AwaitCalls.Text

/-! ## Lines that list paths -/

/-- White space inside a line. -/
def BlankInLine (text : String) : Prop := ∀ c ∈ text.toList, isBlank c = true ∧ c ≠ '\n'

instance (text : String) : Decidable (BlankInLine text) :=
  List.decidableBAll (fun c => isBlank c = true ∧ c ≠ '\n') text.toList

/-- No white space at all. -/
def Unbroken (text : String) : Prop := ∀ c ∈ text.toList, isBlank c = false

instance (text : String) : Decidable (Unbroken text) :=
  List.decidableBAll (fun c => isBlank c = false) text.toList

/-- A path in a list of paths, with the white space before it. -/
structure Mention where
  gap : String
  path : String
  gap_ne : gap ≠ "" := by decide
  gap_blank : BlankInLine gap := by decide
  path_ne : path ≠ "" := by decide
  path_unbroken : Unbroken path := by decide

/-- A line that lists paths after the mark. -/
structure HeaderLine where
  indent : String
  mentions : List Mention
  trail : String
  indent_blank : BlankInLine indent := by decide
  trail_blank : BlankInLine trail := by decide

namespace Mention

def text (m : Mention) : String := m.gap ++ m.path

theorem lineFeed_not_mem (m : Mention) : '\n' ∉ m.text.toList := by
  rw [text, String.toList_append, List.mem_append]
  rintro (h | h)
  · exact (m.gap_blank _ h).2 rfl
  · exact absurd (m.path_unbroken _ h) (by decide)

/-- A mention adds its path to the words. -/
theorem blankSeparated_append (x : List Char) (m : Mention) :
    blankSeparated (x ++ m.text.toList) = blankSeparated x ++ [m.path.toList] := by
  rw [text, String.toList_append]
  exact blankSeparated_append_word x (by simpa using m.gap_ne) (fun c hc => (m.gap_blank c hc).1)
    (by simpa using m.path_ne) m.path_unbroken

/-- After a mention a text does not end with white space. -/
theorem getLast?_append (x : List Char) (m : Mention) :
    ∀ c ∈ (x ++ m.text.toList).getLast?, isBlank c = false := by
  intro c hc
  rw [text, String.toList_append, ← List.append_assoc,
    List.getLast?_append_of_ne_nil _ (by simpa using m.path_ne)] at hc
  exact m.path_unbroken c (List.mem_of_getLast? hc)

end Mention

/-- The text of some mentions, one after the other. -/
def listing (mentions : List Mention) : String := String.join (mentions.map Mention.text)

theorem toList_listing_cons (m : Mention) (rest : List Mention) :
    (listing (m :: rest)).toList = m.text.toList ++ (listing rest).toList := by
  rw [listing, List.map_cons, String.join_cons, String.toList_append, listing]

theorem lineFeed_not_mem_listing (mentions : List Mention) : '\n' ∉ (listing mentions).toList := by
  induction mentions with
  | nil => simp [listing]
  | cons m rest ih =>
    rw [toList_listing_cons, List.mem_append, not_or]
    exact ⟨m.lineFeed_not_mem, ih⟩

/-- Mentions add their paths to the words. -/
theorem blankSeparated_append_listing (x : List Char) (mentions : List Mention) :
    blankSeparated (x ++ (listing mentions).toList) =
      blankSeparated x ++ mentions.map fun m => m.path.toList := by
  -- The text before the list is any, since it grows by a mention in each step.
  induction mentions generalizing x with
  | nil => simp [listing]
  | cons m rest ih =>
    rw [toList_listing_cons, ← List.append_assoc, ih, m.blankSeparated_append, List.append_assoc]
    rfl

theorem getLast?_append_listing {x : List Char} (hx : ∀ c ∈ x.getLast?, isBlank c = false)
    (mentions : List Mention) :
    ∀ c ∈ (x ++ (listing mentions).toList).getLast?, isBlank c = false := by
  induction mentions generalizing x with
  | nil => simpa [listing] using hx
  | cons m rest ih =>
    rw [toList_listing_cons, ← List.append_assoc]
    exact ih (m.getLast?_append x)

namespace HeaderLine

def paths (line : HeaderLine) : List String := line.mentions.map Mention.path

def text (line : HeaderLine) : String :=
  line.indent ++ "// paths:" ++ listing line.mentions ++ line.trail

/-- A fixture with this first line. -/
def source (line : HeaderLine) (rest : String) : String := line.text ++ "\n" ++ rest

theorem toList_text (line : HeaderLine) :
    line.text.toList =
      line.indent.toList ++ (header ++ (listing line.mentions).toList) ++ line.trail.toList := by
  simp only [text, String.toList_append, List.append_assoc]
  rfl

theorem lineFeed_not_mem (line : HeaderLine) : '\n' ∉ line.text.toList := by
  simp only [toList_text, List.mem_append, not_or]
  refine ⟨⟨fun h => ?_, by decide, lineFeed_not_mem_listing line.mentions⟩, fun h => ?_⟩
  · exact (line.indent_blank _ h).2 rfl
  · exact (line.trail_blank _ h).2 rfl

/-- What is left of the line when it is trimmed starts with the mark and ends with the last path, or with
the mark if there is none. -/
theorem trimmed (line : HeaderLine) : Trimmed (header ++ (listing line.mentions).toList) where
  first := by
    intro c hc
    obtain rfl : '/' = c := Option.some.inj hc
    decide
  last := by
    refine getLast?_append_listing (fun c hc => ?_) line.mentions
    obtain rfl : ':' = c := Option.some.inj hc
    decide

theorem trimBlanks_text (line : HeaderLine) :
    trimBlanks line.text.toList = header ++ (listing line.mentions).toList := by
  rw [toList_text, trimBlanks_append_blanks _ fun c hc => (line.trail_blank c hc).1,
    trimBlanks_blanks_append fun c hc => (line.indent_blank c hc).1, line.trimmed.trimBlanks_eq]

end HeaderLine

/-! ## Reading the first line -/

theorem stripStart_append (start cs : List Char) : stripStart start (start ++ cs) = some cs := by
  induction start with
  | nil => rfl
  | cons c start ih => rw [List.cons_append, stripStart, if_pos rfl, ih]

theorem paths_source (line : HeaderLine) (rest : String) :
    paths (line.source rest) = .ok (.ofList line.paths) := by
  have hfirst : trimBlanks (firstLine (line.source rest).toList) =
      header ++ (listing line.mentions).toList := by
    have hsource : (line.source rest).toList = line.text.toList ++ '\n' :: rest.toList := by
      simp [HeaderLine.source]
    rw [hsource, trimBlanks_firstLine line.lineFeed_not_mem, line.trimBlanks_text]
  have hwords : blankSeparated (listing line.mentions).toList =
      line.mentions.map fun m => m.path.toList :=
    blankSeparated_append_listing [] line.mentions
  rw [paths, hfirst, stripStart_append]
  simp [hwords, HeaderLine.paths, Function.comp_def]

/-- A run is one with the paths that the first line lists, in the dialect of the file name. -/
theorem run_of_paths {source : String} {patterns : PatternSet} (h : paths source = .ok patterns)
    (filename : String) :
    run source filename =
      ((transform { dialect := dialect filename } source patterns).map Transformed.code).mapError
        .transform := by
  cases htransform : transform { dialect := dialect filename } source patterns with
  | ok t =>
    simp only [run, h, bind, Except.bind, htransform]
    rfl
  | error e =>
    simp only [run, h, bind, Except.bind, htransform]
    rfl

end Fixture

/-! ## Main statement -/

/-- A fixture whose first line lists paths, each after white space, is read as the set of these paths,
whatever white space stands before the mark, between the paths and at the end of the line, and whatever
follows the line. A run on it awaits the calls to these paths in the whole text, in the dialect of the file
name and with all other options at their defaults. If no path is listed it gives the text back, readable or
not. -/
theorem fixture_awaits_listed_paths (line : Fixture.HeaderLine) (rest filename : String) :
    Fixture.paths (line.source rest) = .ok (.ofList line.paths) ∧
    Fixture.run (line.source rest) filename =
      ((transform { dialect := Fixture.dialect filename } (line.source rest)
        (.ofList line.paths)).map Transformed.code).mapError .transform ∧
    (line.paths = [] → Fixture.run (line.source rest) filename = .ok (line.source rest)) := by
  have hpaths := Fixture.paths_source line rest
  have hrun := Fixture.run_of_paths hpaths filename
  refine ⟨hpaths, hrun, fun hnone => ?_⟩
  rw [hrun, hnone, transform_of_isEmpty rfl]
  rfl

/-- Three paths, one of them twice, among white space of many kinds, with two carriage returns before the
end of the line; and a line without paths before a text that cannot be read. -/
theorem fixture_awaits_listed_paths_mixed_blanks :
    Fixture.paths "\t\u00a0// paths:\u2003db.get \x0b\rf\u3000.x db.get \r\r\nf(;" =
      .ok (.ofList ["db.get", "f", ".x", "db.get"]) ∧
    transform { dialect := Fixture.dialect "a.input.tsx" } " // paths:\u2028\nf(;" (.ofList ["f"]) =
      .error (.parse ⟨.expectedExpression, ⟨2, 2⟩⟩) ∧
    Fixture.run " // paths:\u2028\nf(;" "a.input.tsx" = .ok " // paths:\u2028\nf(;" := by
  refine ⟨?_, by decide +kernel, ?_⟩
  · exact (fixture_awaits_listed_paths
      { indent := "\t\u00a0"
        mentions :=
          [{ gap := "\u2003", path := "db.get" }, { gap := " \x0b\r", path := "f" },
            { gap := "\u3000", path := ".x" }, { gap := " ", path := "db.get" }]
        trail := " \r\r" } "f(;" "a.input.tsx").1
  · exact (fixture_awaits_listed_paths { indent := " ", mentions := [], trail := "\u2028" } "f(;"
      "a.input.tsx").2.2 rfl

end AwaitCalls
