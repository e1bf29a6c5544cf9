import AwaitCalls.Syntax.Grammar.State

/-!
# Steps of reading

A rule that is a sequence of steps succeeds exactly if the steps do, one after the other, and what it
gives can often be told without knowing where it is tried: `Ensures` says so, and is carried through
steps, branches, loops and changes of context.
-/
namespace AwaitCalls.Syntax

open AwaitCalls.Text

theorem Token.eq_word_of_isWord {token : Token} {text : String} (h : token.isWord text = true) :
    ∃ name, token = .word text name := by
  unfold Token.isWord at h
  split at h
  · rename_i text' name
    obtain rfl : text' = text := by simpa using h
    exact ⟨name, rfl⟩
  · cases h

theorem Context.settle_of_punct {ctx : Context} {l : Lexeme} {text : String}
    (h : l.token = .punct text) : ctx.settle l = l := by
  rw [Context.settle, h]

/-- A word that is spelled as it is written stands for itself. -/
theorem Context.settle_of_word {ctx : Context} {l : Lexeme} {text : String}
    (h : l.token = .word text text) : ctx.settle l = l := by
  rw [Context.settle, h]
  simp

namespace Parse

variable {α β : Type}

/-! ## Steps -/

/-- Two steps in a row succeed exactly if the first does and the second does after it. -/
theorem bind_eq_ok {first : Parse α} {next : α → Parse β} {ctx : Context}
    {s t : State} {b : β} :
    (first >>= next) ctx s = .ok b t ↔ ∃ a u, first ctx s = .ok a u ∧ next a ctx u = .ok b t := by
  show EStateM.bind (first ctx) (fun a => next a ctx) s = .ok b t ↔ _
  unfold EStateM.bind
  cases first ctx s with
  | ok a u =>
    constructor
    · intro h
      exact ⟨a, u, rfl, h⟩
    · rintro ⟨_, _, ⟨⟩, h⟩
      exact h
  | error e u => simp

theorem bind_of_ok {first : Parse α} {next : α → Parse β} {ctx : Context}
    {s t : State} {a : α} (h : first ctx s = .ok a t) : (first >>= next) ctx s = next a ctx t := by
  show EStateM.bind (first ctx) (fun a => next a ctx) s = _
  unfold EStateM.bind
  rw [h]

theorem pure_eq_ok {a b : α} {ctx : Context} {s t : State} :
    (pure a : Parse α) ctx s = .ok b t ↔ a = b ∧ s = t := by
  show EStateM.Result.ok a s = .ok b t ↔ _
  simp

theorem ite_eq_ok {c : Prop} [Decidable c] {p q : Parse α} {ctx : Context}
    {s t : State} {a : α} :
    (if c then p else q) ctx s = .ok a t ↔ (c ∧ p ctx s = .ok a t) ∨ (¬ c ∧ q ctx s = .ok a t) := by
  by_cases h : c <;> simp [h]

theorem token_eq (ctx : Context) (s : State) : token ctx s = .ok s.current.token s := rfl

theorem isPunct_eq (text : String) (ctx : Context) (s : State) :
    isPunct text ctx s = .ok (s.current.token.isPunct text) s := rfl

theorem isWord_eq (text : String) (ctx : Context) (s : State) :
    isWord text ctx s = .ok (s.current.token.isWord text) s := rfl

/-- A step over something that may be there. -/
theorem bumpIf_eq_ok {c : Bool} {ctx : Context} {s t : State} {b : Bool} :
    (if c then (do bump; return true) else return false : Parse Bool) ctx s = .ok b t ↔
      (c = true ∧ b = true ∧ bump ctx s = .ok () t) ∨ (c = false ∧ b = false ∧ s = t) := by
  cases c with
  | true =>
    rw [if_pos rfl, bind_eq_ok]
    constructor
    · rintro ⟨⟨⟩, u, hbump, h⟩
      obtain ⟨rfl, rfl⟩ := pure_eq_ok.mp h
      exact .inl ⟨rfl, rfl, hbump⟩
    · rintro (⟨-, rfl, hbump⟩ | ⟨hc, -⟩)
      · exact ⟨(), t, hbump, pure_eq_ok.mpr ⟨rfl, rfl⟩⟩
      · cases hc
  | false =>
    rw [if_neg (by simp), pure_eq_ok]
    simp [eq_comm]

theorem eat_eq_ok {text : String} {ctx : Context} {s t : State} {b : Bool} :
    eat text ctx s = .ok b t ↔
      (s.current.token.isPunct text = true ∧ b = true ∧ bump ctx s = .ok () t) ∨
        (s.current.token.isPunct text = false ∧ b = false ∧ s = t) := by
  rw [eat, bind_of_ok (isPunct_eq text ctx s), bumpIf_eq_ok]

theorem eatWord_eq_ok {text : String} {ctx : Context} {s t : State} {b : Bool} :
    eatWord text ctx s = .ok b t ↔
      (s.current.token.isWord text = true ∧ b = true ∧ bump ctx s = .ok () t) ∨
        (s.current.token.isWord text = false ∧ b = false ∧ s = t) := by
  rw [eatWord, bind_of_ok (isWord_eq text ctx s), bumpIf_eq_ok]

theorem failAt_ne_ok (fault : Fault) (pos : Nat) (ctx : Context) (s t : State) (a : α) :
    failAt fault pos ctx s ≠ .ok a t := by
  intro h
  obtain ⟨token, u, -, h⟩ := bind_eq_ok.mp h
  split at h
  · obtain ⟨_, v, -, h⟩ := bind_eq_ok.mp h
    cases h
  · cases h

theorem fail_ne_ok (fault : Fault) (ctx : Context) (s t : State) (a : α) :
    fail fault ctx s ≠ .ok a t := by
  intro h
  obtain ⟨pos, u, -, h⟩ := bind_eq_ok.mp h
  exact failAt_ne_ok fault pos ctx u t a h

theorem unexpected_ne_ok (wanted : String) (ctx : Context) (s t : State) (a : α) :
    unexpected wanted ctx s ≠ .ok a t := by
  intro h
  obtain ⟨token, u, -, h⟩ := bind_eq_ok.mp h
  exact fail_ne_ok _ ctx u t a h

theorem bump_of_expect {text : String} {ctx : Context} {s t : State}
    (h : expect text ctx s = .ok () t) : bump ctx s = .ok () t := by
  obtain ⟨b, u, heat, h⟩ := bind_eq_ok.mp h
  obtain ⟨-, rfl, hbump⟩ | ⟨-, rfl, -⟩ := eat_eq_ok.mp heat
  · obtain ⟨-, rfl⟩ := pure_eq_ok.mp h
    exact hbump
  · obtain ⟨token, v, -, h⟩ := bind_eq_ok.mp h
    exact absurd h (fail_ne_ok _ ctx v t ())

/-- Where no flaw is to be noted, a step goes on to the next token and keeps the text. -/
theorem bump_eq_ok {ctx : Context} {s t : State} {next : Lexeme}
    (hnext : ctx.settle (s.source.lexAt s.current.hi false) = next) (hflaws : next.flaws = [])
    (h : bump ctx s = .ok () t) : t.current = next ∧ t.source = s.source := by
  subst hnext
  unfold bump resume at h
  obtain ⟨_, _, hget, h⟩ := bind_eq_ok.mp h
  cases hget
  obtain ⟨_, _, hread, h⟩ := bind_eq_ok.mp h
  cases hread
  obtain ⟨_, _, hmodify, h⟩ := bind_eq_ok.mp h
  cases hmodify
  obtain ⟨_, _, hget, h⟩ := bind_eq_ok.mp h
  cases hget
  dsimp only at h
  rw [hflaws] at h
  cases h
  exact ⟨rfl, rfl⟩

theorem inContext_eq (change : Context → Context) (p : Parse α) (ctx : Context)
    (s : State) : inContext change p ctx s = p (change ctx) s := rfl

theorem of_caught {p : Parse α} {ctx : Context} {s t : State} {a : α}
    (h : caught p ctx s = .ok (.ok a) t) : p ctx s = .ok a t := by
  unfold caught at h
  split at h
  · cases h
    assumption
  · cases h

/-- A loop gives back what it starts with, or takes a first round and goes on. -/
theorem loop_eq_ok {σ : Type} {step : σ → Parse (Option σ)} {start r : σ} {ctx : Context}
    {s t : State} (h : loop start step ctx s = .ok r t) : r = start ∨ ∃ next u rounds,
      step start ctx s = .ok (some next) u ∧ loopFrom step rounds next ctx u = .ok r t := by
  obtain ⟨_, _, hget, h⟩ := bind_eq_ok.mp h
  cases hget
  rw [loopFrom] at h
  obtain ⟨next, u, hnext, h⟩ := bind_eq_ok.mp h
  cases next with
  | none =>
    obtain ⟨rfl, -⟩ := pure_eq_ok.mp h
    exact .inl rfl
  | some next => exact .inr ⟨next, u, _, hnext, h⟩

/-! ## What a rule gives wherever it is tried -/

/-- Whatever the rule gives, wherever it is tried, is as required. -/
def Ensures (p : Parse α) (required : α → Prop) : Prop :=
  ∀ ctx s a t, p ctx s = .ok a t → required a

theorem ensures_pure {a : α} {required : α → Prop} (h : required a) :
    Ensures (pure a) required := by
  intro ctx s b t hb
  obtain ⟨rfl, -⟩ := pure_eq_ok.mp hb
  exact h

theorem ensures_bind {first : Parse α} {next : α → Parse β} {required : β → Prop}
    (h : ∀ a, Ensures (next a) required) : Ensures (first >>= next) required := by
  intro ctx s b t hb
  obtain ⟨a, u, -, hnext⟩ := bind_eq_ok.mp hb
  exact h a ctx u b t hnext

/-- What the first step is known to give may be used after it. -/
theorem ensures_bind_of {first : Parse α} {next : α → Parse β} {required : α → Prop}
    {wanted : β → Prop} (hfirst : Ensures first required)
    (hnext : ∀ a, required a → Ensures (next a) wanted) : Ensures (first >>= next) wanted := by
  intro ctx s b t hb
  obtain ⟨a, u, ha, hb⟩ := bind_eq_ok.mp hb
  exact hnext a (hfirst ctx s a u ha) ctx u b t hb

theorem ensures_ite {c : Prop} [Decidable c] {p q : Parse α} {required : α → Prop}
    (hp : Ensures p required) (hq : Ensures q required) : Ensures (if c then p else q) required := by
  split <;> assumption

/-- Two branches that go on in the same way. -/
theorem ensures_ite_bind {c : Prop} [Decidable c] {p q : Parse α}
    {next : α → Parse β} {required : β → Prop} (h : ∀ a, Ensures (next a) required) :
    Ensures (if c then p >>= next else q >>= next) required :=
  ensures_ite (ensures_bind h) (ensures_bind h)

/-- A step that is taken only on a condition. -/
theorem ensures_when {c : Prop} [Decidable c] {step : Parse Unit} {next : Unit → Parse α}
    {required : α → Prop} (h : ∀ u, Ensures (next u) required) :
    Ensures (if c then step >>= next else next ()) required :=
  ensures_ite (ensures_bind h) (h ())

theorem ensures_inContext {p : Parse α} {required : α → Prop} (h : Ensures p required)
    (change : Context → Context) : Ensures (inContext change p) required :=
  fun ctx s => h (change ctx) s

theorem ensures_fail {required : α → Prop} (fault : Fault) :
    Ensures (fail fault) required :=
  fun ctx s a t h => absurd h (fail_ne_ok fault ctx s t a)

theorem ensures_throw {required : α → Prop} (e : SyntaxError) :
    Ensures (throw e) required := by
  intro ctx s a t h
  cases h

theorem ensures_caught {p : Parse α} {required : α → Prop} (h : Ensures p required) :
    Ensures (caught p) fun result => ∀ a, result = .ok a → required a := by
  intro ctx s result t hresult a ha
  subst ha
  exact h ctx s a t (of_caught hresult)

/-- Whatever the rule finds, if it finds anything, is as required. -/
def EnsuresFound (p : Parse (Option α)) (required : α → Prop) : Prop :=
  Ensures p fun found => ∀ a ∈ found, required a

theorem ensures_none {required : α → Prop} :
    EnsuresFound (pure none) required :=
  ensures_pure nofun

theorem ensures_some {required : α → Prop} {a : α} (h : required a) :
    EnsuresFound (pure (some a)) required :=
  ensures_pure fun _ hb => Option.some.inj hb ▸ h

/-- What a rule gives, as something found. -/
theorem ensures_some_map {p : Parse α} {required : α → Prop} (h : Ensures p required) :
    EnsuresFound (some <$> p) required := by
  rw [map_eq_pure_bind]
  exact ensures_bind_of h fun a ha => ensures_some ha

/-- What holds of the start and is kept by each round holds at the end. -/
theorem ensures_loopFrom {σ : Type} {required : σ → Prop} {step : σ → Parse (Option σ)}
    (hstep : ∀ a, required a → EnsuresFound (step a) required) (rounds : Nat) :
    ∀ a, required a → Ensures (loopFrom step rounds a) required := by
  induction rounds with
  | zero => exact fun a ha => ensures_pure ha
  | succ rounds ih =>
    intro a ha
    refine ensures_bind_of (hstep a ha) fun next hnext => ?_
    cases next with
    | none => exact ensures_pure ha
    | some b => exact ih b (hnext b rfl)

theorem ensures_loop {σ : Type} {required : σ → Prop} {step : σ → Parse (Option σ)} {start : σ}
    (hstart : required start)
    (hstep : ∀ a, required a → EnsuresFound (step a) required) :
    Ensures (loop start step) required :=
  ensures_bind fun _ => ensures_loopFrom hstep _ start hstart

/-- What is collected starts with what was collected before. -/
theorem ensures_collectFrom (step : Parse (Option α)) (rounds : Nat) :
    ∀ before : List α, Ensures (collectFrom step rounds before) fun all => before.reverse <+: all := by
  induction rounds with
  | zero => exact fun before => ensures_pure (List.prefix_refl _)
  | succ rounds ih =>
    refine fun before => ensures_bind fun next => ?_
    cases next with
    | none => exact ensures_pure (List.prefix_refl _)
    | some a =>
      intro ctx s all t h
      have hall := ih (a :: before) ctx s all t h
      rw [List.reverse_cons] at hall
      exact (List.prefix_append _ _).trans hall

end Parse

end AwaitCalls.Syntax
