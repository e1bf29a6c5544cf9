import AwaitCalls.Cli.Run
import AwaitCalls.Proofs.FirstMentions

/-!
# What a configuration gives

A configuration names functions in one member and holds options in the others, or holds options alone,
as an object or as an array. Loading it is compared with a relation that says where the names and the
options stand in the value, and with the four ways in which it can be no configuration. Nothing is said
about which texts are values.
-/
namespace AwaitCalls

/-! ## Options beside other members -/

theorem foldlM_filter_of_skip {α β ε : Type} {f : α → β → Except ε α} {keep : β → Bool}
    (h : ∀ a b, keep b = false → f a b = .ok a) (l : List β) (a : α) :
    (l.filter keep).foldlM f a = l.foldlM f a := by
  induction l generalizing a with
  | nil => rfl
  | cons b rest ih =>
    cases hb : keep b with
    | true =>
      rw [List.filter_cons_of_pos hb, List.foldlM_cons, List.foldlM_cons]
      exact bind_congr fun a' => ih a'
    | false =>
      rw [List.filter_cons_of_neg (by simp [hb]), List.foldlM_cons, h a b hb, ih]
      rfl

/-- Taking out a member that is no field of a record does not change the record. -/
theorem recordOfValue_takeMember {α : Type} {shape : RecordShape} {key : String}
    (hkey : key ∉ shape.fields) (start : α) (field : α → Nat → Json → Except JsonFault α) (v : Json) :
    recordOfValue shape start field (Cli.takeMember key v).2 = recordOfValue shape start field v := by
  cases v with
  | obj members =>
    have hnone : shape.fields.findIdx? (· == key) = none := by
      rw [List.findIdx?_eq_none_iff]
      rintro k hk
      rw [beq_eq_false_iff_ne]
      rintro rfl
      exact hkey hk
    refine foldlM_filter_of_skip (fun a member hmember => ?_) members start
    obtain rfl : member.1 = key := by simpa using hmember
    simp only [hnone]
  | _ => rfl

theorem Options.ofValue_takeMember (v : Json) :
    Options.ofValue (Cli.takeMember "funcPaths" v).2 = Options.ofValue v := by
  have hkey : "funcPaths" ∉ Options.shape.fields := by decide
  unfold Options.ofValue
  exact recordOfValue_takeMember hkey _ _ v

namespace Cli

theorem takeMember_fst (key : String) (v : Json) : (takeMember key v).1 = v.get? key := by
  cases v <;> rfl

/-! ## Configurations -/

/-- The functions that a member of a configuration names: none if it is absent. -/
inductive FuncPaths : Option Json → List String → Prop
  | absent : FuncPaths none []
  | listed (names : List String) : FuncPaths (some (.arr (names.map Json.str))) names

/-- Without a configuration there are no names, and options have their defaults. A configuration is a
file with a value that names functions in one member and gives the options otherwise. -/
inductive Configured (files : Files) : Option String → List String → Options → Prop
  | absent : Configured files none [] {}
  | given {path text : String} {value : Json} {names : List String} {options : Options} :
    files.read path = .ok text → Json.parse text = .ok value →
    FuncPaths (value.get? "funcPaths") names → Options.ofValue value = .ok options →
    Configured files (some path) names options

/-- The ways in which a file is no configuration. -/
inductive Misconfigured (files : Files) (path : String) : Prop
  | unreadable {reason : String} : files.read path = .error reason → Misconfigured files path
  | notJson {text : String} {fault : JsonError} :
    files.read path = .ok text → Json.parse text = .error fault → Misconfigured files path
  | badFuncPaths {text : String} {value v : Json} :
    files.read path = .ok text → Json.parse text = .ok value → value.get? "funcPaths" = some v →
    (∀ names : List String, v ≠ .arr (names.map Json.str)) → Misconfigured files path
  | badOptions {text : String} {value : Json} {fault : JsonFault} :
    files.read path = .ok text → Json.parse text = .ok value → Options.ofValue value = .error fault →
    Misconfigured files path

/-- The patterns that a member of the configuration in a file gives. -/
def memberPatterns (path : String) : Option Json → Except Failure PatternSet
  | none => .ok PatternSet.empty
  | some v =>
    match PatternSet.ofValue v with
    | .ok s => .ok s
    | .error e => .error ⟨"invalid funcPaths in " ++ path, [e.message]⟩

/-- Loading a file that holds a value: first its names are read, then its options. -/
theorem loadConfig_of_value {files : Files} {path text : String} {value : Json}
    (hread : files.read path = .ok text) (hparse : Json.parse text = .ok value) :
    loadConfig files (some path) =
      match memberPatterns path (value.get? "funcPaths") with
      | .error f => .error f
      | .ok patterns =>
        match Options.ofValue value with
        | .ok options => .ok (patterns, options)
        | .error e => .error ⟨"invalid options in " ++ path, [e.message]⟩ := by
  rw [loadConfig, hread]
  dsimp only
  rw [readConfig, hparse]
  simp only [takeMember_fst, Options.ofValue_takeMember]
  rfl

theorem memberPatterns_of_funcPaths (path : String) {member : Option Json} {names : List String}
    (h : FuncPaths member names) : memberPatterns path member = .ok (PatternSet.ofList names) := by
  cases h with
  | absent => rfl
  | listed =>
    have hset := PatternSet.ofValue_eq_ok_iff.mpr ⟨names, rfl, rfl⟩
    rw [memberPatterns, hset]

/-- What is loaded is the set of the names and the options of a configuration. -/
theorem loadConfig_of_configured {files : Files} {config : Option String} {names : List String}
    {options : Options} (h : Configured files config names options) :
    loadConfig files config = .ok (PatternSet.ofList names, options) := by
  cases h with
  | absent => rfl
  | given hread hparse hfuncs hoptions =>
    rw [loadConfig_of_value hread hparse, memberPatterns_of_funcPaths _ hfuncs, hoptions]

/-- A file that is no configuration is not loaded. -/
theorem loadConfig_of_misconfigured {files : Files} {path : String} (h : Misconfigured files path) :
    ∃ failure, loadConfig files (some path) = .error failure := by
  cases h with
  | unreadable hread => exact ⟨_, by rw [loadConfig, hread]⟩
  | notJson hread hparse => exact ⟨_, by rw [loadConfig, hread]; dsimp only; rw [readConfig, hparse]⟩
  | @badFuncPaths text value v hread hparse hmember hnames =>
    rw [loadConfig_of_value hread hparse, hmember, memberPatterns]
    cases hset : PatternSet.ofValue v with
    | error fault => exact ⟨_, rfl⟩
    | ok s =>
      obtain ⟨names, hv, -⟩ := PatternSet.ofValue_eq_ok_iff.mp hset
      exact absurd hv (hnames names)
  | badOptions hread hparse hoptions =>
    rw [loadConfig_of_value hread hparse, hoptions]
    -- bad names are met before bad options
    split
    · exact ⟨_, rfl⟩
    · exact ⟨_, rfl⟩

/-- A file either is a configuration or is none in one of the four ways. -/
theorem configured_or_misconfigured (files : Files) (path : String) :
    (∃ names options, Configured files (some path) names options) ∨ Misconfigured files path := by
  cases hread : files.read path with
  | error reason => exact .inr (.unreadable hread)
  | ok text =>
    cases hparse : Json.parse text with
    | error fault => exact .inr (.notJson hread hparse)
    | ok value =>
      cases hoptions : Options.ofValue value with
      | error fault => exact .inr (.badOptions hread hparse hoptions)
      | ok options =>
        cases hmember : value.get? "funcPaths" with
        | none => exact .inl ⟨[], options, .given hread hparse (hmember ▸ .absent) hoptions⟩
        | some v =>
          by_cases hnames : ∃ names : List String, v = .arr (names.map Json.str)
          · obtain ⟨names, rfl⟩ := hnames
            exact .inl ⟨names, options, .given hread hparse (hmember ▸ .listed names) hoptions⟩
          · exact .inr (.badFuncPaths hread hparse hmember fun names hv => hnames ⟨names, hv⟩)

end Cli

end AwaitCalls
