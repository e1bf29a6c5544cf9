import AwaitCalls.Syntax.Node
import Mathlib.Data.List.Induction

/-!
# Positions of calls

A position says which part to take at each level of a tree. The calls of a tree are listed by position,
a call before the calls inside it; the list is sorted and complete, so the number of a call is its
index there and nothing else. A call is awaited directly if it is the operand of an `await`, through any
number of parentheses. No fact below mentions the walk that looks for calls.
-/
namespace AwaitCalls.Syntax

/-- Which part to take at each level, from the root on. -/
abbrev Position := List Nat

/-- The same position in a list of parts that has one more part in front. -/
def Position.next : Position → Position
  | [] => []
  | i :: π => (i + 1) :: π

/-- Induction along a list of parts, for facts that do not look into them. -/
@[elab_as_elim, induction_eliminator]
theorem Children.induction {motive : Children → Prop} (nil : motive .nil)
    (cons : ∀ slot n rest, motive rest → motive (.cons slot n rest)) : ∀ parts, motive parts
  | .nil => nil
  | .cons slot n rest => cons slot n rest (Children.induction nil cons rest)

/-- The part with an index. -/
def Children.part? : Children → Nat → Option Node
  | .nil, _ => none
  | .cons _ n _, 0 => some n
  | .cons _ _ rest, i + 1 => rest.part? i

/-- The parts before the one with an index. -/
def Children.before : Children → Nat → Children
  | .cons slot n rest, i + 1 => .cons slot n (rest.before i)
  | _, _ => .nil

/-- The node at a position. -/
def Node.at? : Node → Position → Option Node
  | n, [] => some n
  | .mk _ _ parts, i :: π => (parts.part? i).bind fun n => n.at? π

/-- The node at a position below a list of parts. -/
def Children.at? (parts : Children) : Position → Option Node
  | [] => none
  | i :: π => (parts.part? i).bind fun n => n.at? π

@[simp]
theorem Node.at?_nil (n : Node) : n.at? [] = some n := by cases n; rfl

@[simp]
theorem Node.at?_cons (kind : Kind) (span : Text.Span) (parts : Children) (i : Nat) (π : Position) :
    (Node.mk kind span parts).at? (i :: π) = parts.at? (i :: π) := rfl

@[simp]
theorem Children.at?_nil (parts : Children) : parts.at? [] = none := rfl

@[simp]
theorem Children.nil_at? (π : Position) : Children.nil.at? π = none := by cases π <;> rfl

@[simp]
theorem Children.cons_at?_zero (slot : Slot) (n : Node) (rest : Children) (π : Position) :
    (Children.cons slot n rest).at? (0 :: π) = n.at? π := rfl

@[simp]
theorem Children.cons_at?_next (slot : Slot) (n : Node) (rest : Children) (π : Position) :
    (Children.cons slot n rest).at? π.next = rest.at? π := by cases π <;> rfl

/-- Below a list of parts, a position leads into the first part or into the others. -/
theorem Position.eq_zero_or_next (π : Position) :
    π = [] ∨ (∃ ρ, π = 0 :: ρ) ∨ ∃ ρ, ρ ≠ [] ∧ π = Position.next ρ := by
  rcases π with _ | ⟨_ | i, π⟩
  · exact .inl rfl
  · exact .inr (.inl ⟨π, rfl⟩)
  · exact .inr (.inr ⟨i :: π, by simp, rfl⟩)

theorem Position.next_injective : Function.Injective Position.next := by
  intro π ρ h
  cases π <;> cases ρ <;> simp_all [Position.next]

theorem Position.next_lt_next {π ρ : Position} (h : π < ρ) : π.next < ρ.next := by
  cases π with
  | nil => cases ρ with
    | nil => exact h
    | cons j ρ => exact List.nil_lt_cons ..
  | cons i π => cases ρ with
    | nil => simp at h
    | cons j ρ =>
      rw [List.cons_lt_cons_iff] at h
      exact List.cons_lt_cons_iff.mpr (h.imp (by omega) (fun h => ⟨by omega, h.2⟩))

/-! ## Numbering calls -/

/-- How many calls a node of this kind is by itself. -/
def Kind.calls (kind : Kind) : Nat := if kind = .call then 1 else 0

@[simp]
theorem Kind.calls_call : Kind.calls .call = 1 := rfl

mutual

/-- Number of calls in a tree, the root among them. -/
def Node.callCount : Node → Nat
  | .mk kind _ parts => kind.calls + parts.callCount

def Children.callCount : Children → Nat
  | .nil => 0
  | .cons _ n rest => n.callCount + rest.callCount

end

mutual

/-- Positions of the calls in a tree, a call before the calls inside it. -/
def Node.callPositions : Node → List Position
  | .mk kind _ parts => (if kind = .call then [[]] else []) ++ parts.callPositions

def Children.callPositions : Children → List Position
  | .nil => []
  | .cons _ n rest => n.callPositions.map (0 :: ·) ++ rest.callPositions.map Position.next

end

mutual

theorem Node.length_callPositions : ∀ n : Node, n.callPositions.length = n.callCount
  | .mk kind _ parts => by
    rw [Node.callPositions, Node.callCount, List.length_append, parts.length_callPositions]
    by_cases h : kind = .call <;> simp [Kind.calls, h]

theorem Children.length_callPositions : ∀ parts : Children, parts.callPositions.length = parts.callCount
  | .nil => rfl
  | .cons _ n rest => by
    rw [Children.callPositions, Children.callCount, List.length_append, List.length_map,
      List.length_map, n.length_callPositions, rest.length_callPositions]

end

/-- No call of a list of parts is the list itself. -/
theorem Children.ne_nil_of_mem_callPositions {parts : Children} {π : Position}
    (h : π ∈ parts.callPositions) : π ≠ [] := by
  induction parts generalizing π with
  | nil => simp [Children.callPositions] at h
  | cons slot n rest ih =>
    simp only [Children.callPositions, List.mem_append, List.mem_map] at h
    obtain ⟨ρ, -, rfl⟩ | ⟨ρ, hρ, rfl⟩ := h
    · simp
    · cases ρ with
      | nil => exact absurd rfl (ih hρ)
      | cons i ρ => simp [Position.next]

mutual

/-- The listed positions are those that hold a call. -/
theorem Node.mem_callPositions : ∀ (n : Node) (π : Position),
    π ∈ n.callPositions ↔ ∃ span parts, n.at? π = some (.mk .call span parts)
  | .mk kind span parts, [] => by
    have h : [] ∉ parts.callPositions := fun h => Children.ne_nil_of_mem_callPositions h rfl
    by_cases hk : kind = .call <;> simp [Node.callPositions, hk, h]
  | .mk kind span parts, i :: π => by
    by_cases hk : kind = .call <;>
      simpa [Node.callPositions, hk] using parts.mem_callPositions (i :: π)

theorem Children.mem_callPositions : ∀ (parts : Children) (π : Position),
    π ∈ parts.callPositions ↔ ∃ span args, parts.at? π = some (.mk .call span args)
  | .nil, π => by simp [Children.callPositions]
  | .cons slot n rest, π => by
    obtain rfl | ⟨ρ, rfl⟩ | ⟨ρ, hρ, rfl⟩ := π.eq_zero_or_next
    · have h : [] ∉ (Children.cons slot n rest).callPositions := fun h =>
        Children.ne_nil_of_mem_callPositions h rfl
      simpa using h
    · have h : ∀ σ, Position.next σ ≠ 0 :: ρ := by rintro (_ | ⟨i, σ⟩) <;> simp [Position.next]
      simp [Children.callPositions, h, n.mem_callPositions ρ]
    · have h : ∀ σ, 0 :: σ ≠ Position.next ρ := by cases ρ <;> simp_all [Position.next]
      simp [Children.callPositions, h, Position.next_injective.eq_iff, rest.mem_callPositions ρ]

end

mutual

/-- A call is listed before the calls inside it, and those before the calls after it. -/
theorem Node.sorted_callPositions : ∀ n : Node, n.callPositions.Pairwise (· < ·)
  | .mk kind span parts => by
    have h := parts.sorted_callPositions
    by_cases hk : kind = .call
    · simp only [Node.callPositions, hk, if_pos, List.singleton_append, List.pairwise_cons]
      refine ⟨fun π hπ => ?_, h⟩
      cases π with
      | nil => exact absurd rfl (Children.ne_nil_of_mem_callPositions hπ)
      | cons i π => exact List.nil_lt_cons ..
    · simpa [Node.callPositions, hk] using h

theorem Children.sorted_callPositions : ∀ parts : Children, parts.callPositions.Pairwise (· < ·)
  | .nil => List.Pairwise.nil
  | .cons slot n rest => by
    rw [Children.callPositions, List.pairwise_append, List.pairwise_map, List.pairwise_map]
    refine ⟨?_, ?_, ?_⟩
    · exact n.sorted_callPositions.imp fun h => List.cons_lt_cons_iff.mpr (.inr ⟨rfl, h⟩)
    · exact rest.sorted_callPositions.imp Position.next_lt_next
    · intro π hπ ρ hρ
      obtain ⟨π, -, rfl⟩ := List.mem_map.mp hπ
      obtain ⟨σ, hσ, rfl⟩ := List.mem_map.mp hρ
      cases σ with
      | nil => exact absurd rfl (Children.ne_nil_of_mem_callPositions hσ)
      | cons i σ => exact List.cons_lt_cons_iff.mpr (.inl (Nat.succ_pos i))

end

mutual

/-- The calls in a tree, a call before the calls inside it. -/
def Node.calls : Node → List Node
  | .mk kind span parts => (if kind = .call then [.mk kind span parts] else []) ++ parts.calls

def Children.calls : Children → List Node
  | .nil => []
  | .cons _ n rest => n.calls ++ rest.calls

end

mutual

theorem Node.length_calls : ∀ n : Node, n.calls.length = n.callCount
  | .mk kind _ parts => by
    rw [Node.calls, Node.callCount, List.length_append, parts.length_calls]
    by_cases h : kind = .call <;> simp [Kind.calls, h]

theorem Children.length_calls : ∀ parts : Children, parts.calls.length = parts.callCount
  | .nil => rfl
  | .cons _ n rest => by
    rw [Children.calls, Children.callCount, List.length_append, n.length_calls, rest.length_calls]

end

mutual

/-- The calls in a tree are what stands at the listed positions. -/
theorem Node.map_at?_callPositions : ∀ n : Node, n.callPositions.map n.at? = n.calls.map some
  | .mk kind span parts => by
    have h : parts.callPositions.map (Node.mk kind span parts).at? = parts.calls.map some := by
      rw [← parts.map_at?_callPositions]
      refine List.map_congr_left fun π hπ => ?_
      cases π with
      | nil => exact absurd rfl (Children.ne_nil_of_mem_callPositions hπ)
      | cons i π => rfl
    by_cases hk : kind = .call <;> simp [Node.callPositions, Node.calls, hk, ← h]

theorem Children.map_at?_callPositions : ∀ parts : Children,
    parts.callPositions.map parts.at? = parts.calls.map some
  | .nil => rfl
  | .cons slot n rest => by
    rw [Children.callPositions, Children.calls, List.map_append, List.map_append, List.map_map,
      List.map_map, ← n.map_at?_callPositions, ← rest.map_at?_callPositions]
    refine congrArg₂ _ (List.map_congr_left fun π _ => rfl) (List.map_congr_left fun π _ => ?_)
    exact Children.cons_at?_next slot n rest π

end

/-- The call with a number. -/
def Children.call? (parts : Children) (k : Nat) : Option Node :=
  parts.callPositions[k]?.bind parts.at?

theorem Children.call?_eq (parts : Children) (k : Nat) : parts.call? k = parts.calls[k]? := by
  have h := congrArg (·[k]?) parts.map_at?_callPositions
  simp only [List.getElem?_map] at h
  cases hp : parts.callPositions[k]? <;> cases hc : parts.calls[k]? <;>
    simp_all [Children.call?]

/-- A call is numbered after the calls in the parts before its own. -/
theorem Children.mem_zipIdx_of_part? {parts : Children} {i j k : Nat} {π : Position} {n : Node}
    (hn : parts.part? i = some n) (h : (i :: π, j) ∈ parts.callPositions.zipIdx k) :
    (π, j) ∈ n.callPositions.zipIdx (k + (parts.before i).callCount) := by
  induction parts generalizing i k with
  | nil => simp [Children.part?] at hn
  | cons slot first rest ih =>
    simp only [Children.callPositions, List.zipIdx_append, List.zipIdx_map, List.length_map,
      first.length_callPositions, List.mem_append, List.mem_map, Prod.exists, Prod.map_apply,
      Prod.mk.injEq] at h
    cases i with
    | zero =>
      obtain rfl : first = n := Option.some.inj hn
      obtain ⟨ρ, l, hmem, hρ, rfl⟩ | ⟨ρ, l, hmem, hρ, rfl⟩ := h
      · obtain rfl : ρ = π := by simpa using hρ
        exact hmem
      · cases ρ <;> simp [Position.next] at hρ
    | succ i =>
      obtain ⟨ρ, l, hmem, hρ, rfl⟩ | ⟨ρ, l, hmem, hρ, rfl⟩ := h
      · simp at hρ
      · cases ρ with
        | nil => simp [Position.next] at hρ
        | cons c ρ =>
          obtain ⟨rfl, rfl⟩ : c = i ∧ ρ = π := by simpa [Position.next] using hρ
          simpa [Children.before, Children.callCount, Nat.add_assoc] using ih hn hmem

/-! ## Operands of `await` -/

/-- What stands at the position is the operand of an `await`, through any number of parentheses. -/
inductive Children.OperandOfAwait (parts : Children) : Position → Prop
  | operand {π : Position} {span : Text.Span} {inner : Children} :
    parts.at? π = some (.mk .await span inner) → OperandOfAwait parts (π ++ [0])
  | inParens {π : Position} {span : Text.Span} {inner : Children} :
    OperandOfAwait parts π → parts.at? π = some (.mk .paren span inner) →
    OperandOfAwait parts (π ++ [0])

/-- Is the first part of a node the operand of an `await`, given whether the node is one? -/
def Kind.awaitsFirst (kind : Kind) (isAwaited : Bool) : Bool :=
  kind = .await || (kind = .paren && isAwaited)

/-- Is the node at a position the operand of an `await`, given whether the root is one? The answer goes
down from the root, as a walk does. -/
def Node.awaitedAt (isAwaited : Bool) : Node → Position → Bool
  | _, [] => isAwaited
  | .mk kind _ parts, i :: π =>
    (parts.part? i).any fun n => n.awaitedAt (i = 0 && kind.awaitsFirst isAwaited) π

/-- The same below a list of parts, given whether the first part is an operand. -/
def Children.awaitedAt (isAwaited : Bool) (parts : Children) : Position → Bool
  | [] => false
  | i :: π => (parts.part? i).any fun n => n.awaitedAt (i = 0 && isAwaited) π

@[simp]
theorem Node.awaitedAt_nil (b : Bool) (n : Node) : n.awaitedAt b [] = b := by cases n; rfl

@[simp]
theorem Node.awaitedAt_cons (b : Bool) (kind : Kind) (span : Text.Span) (parts : Children) (i : Nat)
    (π : Position) : (Node.mk kind span parts).awaitedAt b (i :: π) =
      parts.awaitedAt (kind.awaitsFirst b) (i :: π) := rfl

@[simp]
theorem Children.cons_awaitedAt_zero (b : Bool) (slot : Slot) (n : Node) (rest : Children)
    (π : Position) : (Children.cons slot n rest).awaitedAt b (0 :: π) = n.awaitedAt b π := by
  simp [Children.awaitedAt, Children.part?]

@[simp]
theorem Children.cons_awaitedAt_next (b : Bool) (slot : Slot) (n : Node) (rest : Children)
    (π : Position) : (Children.cons slot n rest).awaitedAt b π.next = rest.awaitedAt false π := by
  cases π with
  | nil => rfl
  | cons i π =>
    cases i <;> simp [Children.awaitedAt, Children.part?, Position.next]

/-- One level deeper, only the first part of an `await`, or of parentheses that are an operand, is an
operand. -/
theorem Node.awaitedAt_concat (b : Bool) (n : Node) (π : Position) (i : Nat)
    (h : (n.at? (π ++ [i])).isSome) :
    n.awaitedAt b (π ++ [i]) = true ↔
      i = 0 ∧ ∃ kind span parts, n.at? π = some (.mk kind span parts) ∧
        kind.awaitsFirst (n.awaitedAt b π) = true := by
  induction π generalizing n b with
  | nil =>
    obtain ⟨kind, span, parts⟩ := n
    simp only [List.nil_append, Node.at?_cons, Children.at?] at h
    cases hp : parts.part? i with
    | none => simp [hp] at h
    | some m => simp [Children.awaitedAt, hp]
  | cons j π ih =>
    obtain ⟨kind, span, parts⟩ := n
    simp only [List.cons_append, Node.at?_cons, Children.at?] at h
    cases hp : parts.part? j with
    | none => simp [hp] at h
    | some m =>
      simp only [hp, Option.bind_some] at h
      simpa [Children.awaitedAt, Children.at?, hp] using ih (j = 0 && kind.awaitsFirst b) m h

theorem Children.awaitedAt_concat (parts : Children) (π : Position) (i : Nat)
    (h : (parts.at? (π ++ [i])).isSome) :
    parts.awaitedAt false (π ++ [i]) = true ↔
      i = 0 ∧ ∃ kind span inner, parts.at? π = some (.mk kind span inner) ∧
        kind.awaitsFirst (parts.awaitedAt false π) = true := by
  cases π with
  | nil =>
    cases hp : parts.part? i with
    | none => simp [Children.at?, hp] at h
    | some m => simp [Children.awaitedAt, hp]
  | cons j π =>
    simp only [List.cons_append, Children.at?] at h
    cases hp : parts.part? j with
    | none => simp [hp] at h
    | some m =>
      simp only [hp, Option.bind_some] at h
      simpa [Children.awaitedAt, Children.at?, hp] using m.awaitedAt_concat false π i h

/-- Going down from the root finds exactly the operands. -/
theorem Children.awaitedAt_iff (parts : Children) (π : Position) (h : (parts.at? π).isSome) :
    parts.awaitedAt false π = true ↔ parts.OperandOfAwait π := by
  induction π using List.reverseRecOn with
  | nil => simp at h
  | append_singleton π i ih =>
    rw [parts.awaitedAt_concat π i h]
    constructor
    · rintro ⟨rfl, kind, span, inner, hat, hk⟩
      simp only [Kind.awaitsFirst, Bool.or_eq_true, Bool.and_eq_true, decide_eq_true_eq] at hk
      obtain rfl | ⟨rfl, hop⟩ := hk
      · exact .operand hat
      · exact .inParens ((ih (by simp [hat])).mp hop) hat
    · intro hop
      generalize hρ : π ++ [i] = ρ at hop
      cases hop with
      | operand hat =>
        obtain ⟨rfl, hi⟩ := List.append_inj' hρ rfl
        exact ⟨by simpa using hi, _, _, _, hat, by simp [Kind.awaitsFirst]⟩
      | inParens hop hat =>
        obtain ⟨rfl, hi⟩ := List.append_inj' hρ rfl
        have hup := (ih (by simp [hat])).mpr hop
        exact ⟨by simpa using hi, _, _, _, hat, by simp [Kind.awaitsFirst, hup]⟩

end AwaitCalls.Syntax
