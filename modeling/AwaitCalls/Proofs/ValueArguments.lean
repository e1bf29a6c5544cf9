import AwaitCalls.Proofs.FirstMentions
import AwaitCalls.Proofs.Outcome

/-!
# Patterns named by a value

A run may be given its patterns as a list of strings or as a value. A value that is an array of strings
stands for those strings, in every text. Any other value is refused, and the reason is a matter of the value
alone: it is no array, or it is one and its first element that is no string is named, however many strings
come before it. The text is not looked at then, so it makes no difference whether it can be read.

Refusals are stated by indices here, not by the walk over the elements that finds them.
-/
namespace AwaitCalls

open AwaitCalls.Syntax

/-! ## Values that are refused -/

/-- Among the elements of an array the first one that is no string has an index. -/
structure Json.FirstNonString (items : List Json) (index : Nat) (v : Json) : Prop where
  found : items[index]? = some v
  not_string : ∀ text, v ≠ .str text
  before : ∀ j < index, ∃ text, items[j]? = some (.str text)

/-- What a value is called by its kind. -/
inductive Json.HasKind : Json → String → Prop
  | null : HasKind .null "null"
  | boolean (b : Bool) : HasKind (.bool b) "a boolean"
  | number (n : JsonNumber) : HasKind (.num n) "a number"
  | string (text : String) : HasKind (.str text) "a string"
  | array (items : List Json) : HasKind (.arr items) "an array"
  | object (members : List (String × Json)) : HasKind (.obj members) "an object"

/-- A value is no array of strings, for a reason that tells the kind of what was found. -/
inductive Json.Refused : Json → PatternError → Prop
  | notASequence {v : Json} {kind : String} :
    (∀ items, v ≠ .arr items) → v.HasKind kind → Refused v (.notASequence kind)
  | notAString {items : List Json} {index : Nat} {v : Json} {kind : String} :
    FirstNonString items index v → v.HasKind kind → Refused (.arr items) (.notAString index kind)

namespace Json

theorem hasKind_kindName (v : Json) : v.HasKind v.kindName := by
  cases v <;> constructor

theorem HasKind.kindName_eq {v : Json} {kind : String} (h : v.HasKind kind) : v.kindName = kind := by
  cases h <;> rfl

theorem FirstNonString.tail {w v : Json} {rest : List Json} {index : Nat}
    (h : FirstNonString (w :: rest) (index + 1) v) : FirstNonString rest index v where
  found := by simpa using h.found
  not_string := h.not_string
  before j hj := by simpa using h.before (j + 1) (by omega)

theorem FirstNonString.cons_str {rest : List Json} {index : Nat} {v : Json} (text : String)
    (h : FirstNonString rest index v) : FirstNonString (.str text :: rest) (index + 1) v where
  found := by simpa using h.found
  not_string := h.not_string
  before j hj := by
    cases j with
    | zero => exact ⟨text, rfl⟩
    | succ j => simpa using h.before j (by omega)

theorem firstNonString_head {v : Json} (rest : List Json) (h : ∀ text, v ≠ .str text) :
    FirstNonString (v :: rest) 0 v where
  found := rfl
  not_string := h
  before j hj := by omega

theorem strings_or_firstNonString (items : List Json) :
    (∃ names : List String, items = names.map Json.str) ∨
      ∃ index v, FirstNonString items index v := by
  induction items with
  | nil => exact .inl ⟨[], rfl⟩
  | cons v rest ih =>
    by_cases hv : ∃ text, v = .str text
    · obtain ⟨text, rfl⟩ := hv
      rcases ih with ⟨names, rfl⟩ | ⟨index, w, hfirst⟩
      · exact .inl ⟨text :: names, rfl⟩
      · exact .inr ⟨index + 1, w, hfirst.cons_str text⟩
    · exact .inr ⟨0, v, firstNonString_head rest fun text h => hv ⟨text, h⟩⟩

/-- A value is an array of strings or there is a reason why it is none. -/
theorem strings_or_refused (v : Json) :
    (∃ names : List String, v = .arr (names.map Json.str)) ∨ ∃ e, v.Refused e := by
  by_cases hv : ∃ items, v = .arr items
  · obtain ⟨items, rfl⟩ := hv
    rcases strings_or_firstNonString items with ⟨names, rfl⟩ | ⟨index, w, hfirst⟩
    · exact .inl ⟨names, rfl⟩
    · exact .inr ⟨_, .notAString hfirst w.hasKind_kindName⟩
  · exact .inr ⟨_, .notASequence (fun items h => hv ⟨items, h⟩) v.hasKind_kindName⟩

end Json

/-! ## Reading patterns from a value -/

namespace PatternSet

/-- Whatever the set and the strings that were added to it, the walk ends at the first element that is no
string. -/
theorem insertValues_of_firstNonString {items : List Json} {i : Nat} {v : Json}
    (h : Json.FirstNonString items i v) (s : PatternSet) (index : Nat) :
    s.insertValues index items = .error (.notAString (index + i) v.kindName) := by
  -- Each string before the fault changes the set and the count, and leaves the fault one step nearer.
  induction items generalizing i s index with
  | nil => cases h.found
  | cons w rest ih =>
    cases i with
    | zero =>
      obtain rfl : w = v := Option.some.inj h.found
      cases w with
      | str text => exact absurd rfl (h.not_string text)
      | _ => rfl
    | succ i =>
      obtain ⟨text, hw⟩ := h.before 0 (Nat.succ_pos i)
      obtain rfl : w = .str text := Option.some.inj hw
      rw [insertValues, ih h.tail, Nat.add_right_comm, Nat.add_assoc]

theorem ofValue_of_refused {v : Json} {e : PatternError} (h : v.Refused e) : ofValue v = .error e := by
  cases h with
  | notASequence hv hkind =>
    obtain rfl := hkind.kindName_eq
    cases v with
    | arr items => exact absurd rfl (hv items)
    | _ => rfl
  | notAString hfirst hkind =>
    rw [ofValue, insertValues_of_firstNonString hfirst, Nat.zero_add, hkind.kindName_eq]

end PatternSet

/-! ## Runs with a value -/

theorem awaitCallsOfValue_of_names (text : String) (names : List String) :
    awaitCallsOfValue text (.arr (names.map Json.str)) = awaitCalls text names := by
  have hset := PatternSet.ofValue_eq_ok_iff.mpr ⟨names, rfl, rfl⟩
  rw [awaitCallsOfValue, hset]
  rfl

theorem awaitCallsOfValue_of_refused {v : Json} {e : PatternError} (h : v.Refused e) (text : String) :
    awaitCallsOfValue text v = .error (.invalidArgument e) := by
  rw [awaitCallsOfValue, PatternSet.ofValue_of_refused h]

/-- A run with a set of patterns finds no fault with them. -/
theorem transform_ne_invalidArgument (options : Options) (text : String) (patterns : PatternSet)
    (e : PatternError) : transform options text patterns ≠ .error (.invalidArgument e) := by
  cases hempty : patterns.isEmpty with
  | true => simp [transform_of_isEmpty hempty]
  | false =>
    cases hread : parseProgram text options.dialect with
    | error fault => simp [transform_of_error hempty hread]
    | ok parsed => simp [transform_of_ok hempty hread, transformParsed_eq]

theorem awaitCalls_ne_invalidArgument (text : String) (names : List String) (e : PatternError) :
    awaitCalls text names ≠ .error (.invalidArgument e) := by
  have hrun := transform_ne_invalidArgument {} text (.ofList names) e
  rw [awaitCalls]
  cases h : transform {} text (.ofList names) with
  | ok t => simp [bind, Except.bind, pure, Except.pure]
  | error e' => simpa [h, bind, Except.bind] using hrun

/-- The reason that is given is the only one there is. -/
theorem awaitCallsOfValue_eq_invalidArgument_iff {v : Json} {text : String} {e : PatternError} :
    awaitCallsOfValue text v = .error (.invalidArgument e) ↔ v.Refused e := by
  refine ⟨fun h => ?_, fun he => awaitCallsOfValue_of_refused he text⟩
  rcases v.strings_or_refused with ⟨names, rfl⟩ | ⟨e', he'⟩
  · rw [awaitCallsOfValue_of_names] at h
    exact absurd h (awaitCalls_ne_invalidArgument text names e)
  · rw [awaitCallsOfValue_of_refused he'] at h
    obtain rfl : e' = e := TransformError.invalidArgument.inj (Except.error.inj h)
    exact he'

/-! ## Main statement -/

/-- A value that is an array of strings gives the same set of patterns as those strings, and in every text
the same result or error. Every other value is refused in every text alike, readable or not, for the reason
that it is no array, or with the least index of an element that is no string; the reason tells the kind of
the value, or of that element. A run fails with such a reason only if the value is refused for it, and
gives a result for arrays of strings only. -/
theorem value_stands_for_its_strings (v : Json) :
    (∀ names : List String, v = .arr (names.map Json.str) →
      PatternSet.ofValue v = .ok (.ofList names) ∧
      ∀ text, awaitCallsOfValue text v = awaitCalls text names) ∧
    ((∀ names : List String, v ≠ .arr (names.map Json.str)) →
      ∃ e, v.Refused e ∧ PatternSet.ofValue v = .error e ∧
        ∀ text, awaitCallsOfValue text v = .error (.invalidArgument e)) ∧
    (∀ text e, awaitCallsOfValue text v = .error (.invalidArgument e) ↔ v.Refused e) ∧
    ∀ text code, awaitCallsOfValue text v = .ok code →
      ∃ names : List String, v = .arr (names.map Json.str) ∧ awaitCalls text names = .ok code := by
  refine ⟨?_, fun hno => ?_, fun text e => awaitCallsOfValue_eq_invalidArgument_iff,
    fun text code hcode => ?_⟩
  · rintro names rfl
    have hset := PatternSet.ofValue_eq_ok_iff.mpr ⟨names, rfl, rfl⟩
    exact ⟨hset, fun text => awaitCallsOfValue_of_names text names⟩
  · rcases v.strings_or_refused with ⟨names, hnames⟩ | ⟨e, he⟩
    · exact absurd hnames (hno names)
    · exact ⟨e, he, PatternSet.ofValue_of_refused he, awaitCallsOfValue_of_refused he⟩
  · rcases v.strings_or_refused with ⟨names, rfl⟩ | ⟨e, he⟩
    · exact ⟨names, rfl, (awaitCallsOfValue_of_names text names).symm.trans hcode⟩
    · rw [awaitCallsOfValue_of_refused he] at hcode
      cases hcode

/-- A text that cannot be read. With the strings before the first fault alone the run says so; with the
whole value it names the element, which comes after a repeated string and before another fault. An object
is refused for what it is. -/
theorem value_stands_for_its_strings_unreadable :
    awaitCallsOfValue "f(;" (.arr [.str "f", .str "f"]) =
      .error (.parse ⟨.expectedExpression, ⟨1, 2⟩⟩) ∧
    awaitCallsOfValue "f(;" (.arr [.str "f", .str "f", .bool true, .null]) =
      .error (.invalidArgument (.notAString 2 "a boolean")) ∧
    awaitCallsOfValue "f(;" (.obj [("f", .str "f")]) =
      .error (.invalidArgument (.notASequence "an object")) := by
  refine ⟨?_, ?_, ?_⟩
  · have hstrings := (value_stands_for_its_strings (.arr [.str "f", .str "f"])).1 ["f", "f"] rfl
    rw [hstrings.2 "f(;"]
    decide +kernel
  · have hfirst : Json.FirstNonString [.str "f", .str "f", .bool true, .null] 2 (.bool true) :=
      ((Json.firstNonString_head [.null] fun text => by simp).cons_str "f").cons_str "f"
    exact ((value_stands_for_its_strings _).2.2.1 "f(;" _).mpr (.notAString hfirst (.boolean true))
  · exact ((value_stands_for_its_strings _).2.2.1 "f(;" _).mpr
      (.notASequence (fun items => by simp) (.object _))

end AwaitCalls
