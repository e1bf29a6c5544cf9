import AwaitCalls.Proofs.Awaits

/-!
# What awaiting calls inserts

A marked tree tells inserted nodes from the others, so that it holds two trees at once: the one before
the insertions and the one after them. Awaiting the calls of a program is shown to give such a tree,
whose inserted nodes are one await around each target and parentheses around some awaits. The places
where an await may get parentheses are listed by the kind of the parent; that each await there gets
them is not part of the statement.
-/
namespace AwaitCalls

open AwaitCalls.Syntax AwaitCalls.Text

mutual

/-- A tree in which inserted nodes are told from the others. An inserted node has one part. -/
inductive Marked
  | original (kind : Kind) (span : Span) (parts : MarkedParts)
  | inserted (kind : Kind) (span : Span) (slot : Slot) (inner : Marked)

inductive MarkedParts
  | nil
  | cons (slot : Slot) (child : Marked) (rest : MarkedParts)

end

mutual

/-- The tree with the inserted nodes deleted: the part of an inserted node takes its place. -/
def Marked.before : Marked → Node
  | .original kind span parts => .mk kind span parts.before
  | .inserted _ _ _ inner => inner.before

def MarkedParts.before : MarkedParts → Children
  | .nil => .nil
  | .cons slot child rest => .cons slot child.before rest.before

end

mutual

/-- The tree with the inserted nodes in it. -/
def Marked.after : Marked → Node
  | .original kind span parts => .mk kind span parts.after
  | .inserted kind span slot inner => .mk kind span (.cons slot inner.after .nil)

def MarkedParts.after : MarkedParts → Children
  | .nil => .nil
  | .cons slot child rest => .cons slot child.after rest.after

end

/-- The ten places where a left-hand-side expression must stand, so that an `await` needs parentheses
there: the object of a property, what is called, constructed or called if present, the tag of a
template, the base of a power, a superclass, a decorator, what is asserted to be present, and what is
given type arguments. -/
inductive LeftHandPlace : Place → Prop
  | memberObject : LeftHandPlace ⟨some .member, .memberObject⟩
  | callee : LeftHandPlace ⟨some .call, .callee⟩
  | newCallee (hasArgs : Bool) : LeftHandPlace ⟨some (.new hasArgs), .newCallee⟩
  | optCallee : LeftHandPlace ⟨some .optCall, .optCallee⟩
  | tag : LeftHandPlace ⟨some .tagged, .tag⟩
  | powerBase : LeftHandPlace ⟨some (.binary .power), .left⟩
  | superclass (isAbstract : Bool) : LeftHandPlace ⟨some (.classBody isAbstract), .superclass⟩
  | decorator : LeftHandPlace ⟨some .decorator, .decoratorExpr⟩
  | nonNull : LeftHandPlace ⟨some .nonNull, .nonNullOperand⟩
  | instantiation : LeftHandPlace ⟨some .instantiation, .instantiated⟩

theorem leftHandSlot?_eq_some {kind : Kind} {slot : Slot} (h : leftHandSlot? kind = some slot) :
    LeftHandPlace ⟨some kind, slot⟩ := by
  unfold leftHandSlot? at h
  split at h
  case h_6 op =>
    split at h
    · rename_i hop
      obtain rfl := Option.some.inj h
      rw [hop]
      exact .powerBase
    · cases h
  all_goals cases h <;> constructor

/-- Parentheses are looked for in the ten places and nowhere else. -/
theorem asksLeftHandSide_iff {place : Place} : place.asksLeftHandSide = true ↔ LeftHandPlace place := by
  obtain ⟨parent, slot⟩ := place
  constructor
  · intro h
    obtain ⟨kind, rfl, hslot⟩ := Option.bind_eq_some_iff.mp (of_decide_eq_true h)
    exact leftHandSlot?_eq_some hslot
  · intro h
    cases h <;> rfl

/-- An inserted node is an `await` around a call, or parentheses around an `await` in one of the ten
places. It has the span of what it is around. -/
inductive InsertedIn (place : Place) : Kind → Span → Slot → Marked → Prop
  | await {span : Span} {parts : MarkedParts} :
    InsertedIn place .await span .operand (.original .call span parts)
  | paren {inner : Marked} : LeftHandPlace place → inner.after.kind = .await →
    InsertedIn place .paren inner.after.span .expr inner

mutual

/-- All inserted nodes are of the two forms; `place` is where the root stands. -/
def Marked.OnlyAwaits (place : Place) : Marked → Prop
  | .original kind _ parts => parts.OnlyAwaits (some kind)
  | .inserted kind span inside inner =>
    InsertedIn place kind span inside inner ∧ inner.OnlyAwaits ⟨some kind, inside⟩

def MarkedParts.OnlyAwaits (parent : Option Kind) : MarkedParts → Prop
  | .nil => True
  | .cons slot child rest => child.OnlyAwaits ⟨parent, slot⟩ ∧ rest.OnlyAwaits parent

end

/-- A call in a marked tree. Calls are not inserted. -/
structure MarkedCall where
  /-- The inserted nodes around it up to the next other node, innermost first. -/
  around : List (Kind × Span)
  span : Span
  parts : MarkedParts

def MarkedCall.before (c : MarkedCall) : Node := .mk .call c.span c.parts.before

def MarkedCall.after (c : MarkedCall) : Node := .mk .call c.span c.parts.after

mutual

/-- The calls of a marked tree in order; `around` is what is inserted around the root. -/
def Marked.calls (around : List (Kind × Span)) : Marked → List MarkedCall
  | .original kind span parts => (if kind = .call then [⟨around, span, parts⟩] else []) ++ parts.calls
  | .inserted kind span _ inner => inner.calls ((kind, span) :: around)

def MarkedParts.calls : MarkedParts → List MarkedCall
  | .nil => []
  | .cons _ child rest => child.calls [] ++ rest.calls

end

/-! ## The calls before and after -/

mutual

theorem Marked.map_before_calls : ∀ (m : Marked) (around : List (Kind × Span)),
    (m.calls around).map MarkedCall.before = m.before.calls
  | .original kind span parts, around => by
    rw [Marked.calls, Marked.before, Node.calls, List.map_append, parts.map_before_calls]
    by_cases h : kind = .call <;> simp [h, MarkedCall.before]
  | .inserted kind span slot inner, around => by
    rw [Marked.calls, Marked.before, inner.map_before_calls]

theorem MarkedParts.map_before_calls : ∀ m : MarkedParts,
    m.calls.map MarkedCall.before = m.before.calls
  | .nil => rfl
  | .cons slot child rest => by
    rw [MarkedParts.calls, MarkedParts.before, Children.calls, List.map_append,
      child.map_before_calls, rest.map_before_calls]

end

theorem InsertedIn.ne_call {place : Place} {inside : Slot} {kind : Kind} {span : Span} {inner : Marked}
    (h : InsertedIn place kind span inside inner) : kind ≠ .call := by
  cases h <;> simp

mutual

theorem Marked.map_after_calls : ∀ (m : Marked) (around : List (Kind × Span)) {place : Place},
    m.OnlyAwaits place → (m.calls around).map MarkedCall.after = m.after.calls
  | .original kind span parts, around, place, h => by
    rw [Marked.calls, Marked.after, Node.calls, List.map_append, parts.map_after_calls h]
    by_cases hk : kind = .call <;> simp [hk, MarkedCall.after]
  | .inserted kind span inside inner, around, place, h => by
    rw [Marked.calls, Marked.after, inner.map_after_calls _ h.2, Node.calls, Children.calls]
    simp [h.1.ne_call, Children.calls]

theorem MarkedParts.map_after_calls : ∀ (m : MarkedParts) {parent : Option Kind},
    m.OnlyAwaits parent → m.calls.map MarkedCall.after = m.after.calls
  | .nil, _, _ => rfl
  | .cons slot child rest, parent, h => by
    rw [MarkedParts.calls, MarkedParts.after, Children.calls, List.map_append,
      child.map_after_calls _ h.1, rest.map_after_calls h.2]

end

/-- A property of kinds that does not tell calls, awaits and parentheses apart is the same before and
after. -/
theorem Marked.kind_after {α : Type} {f : Kind → α} (hawait : f .await = f .call)
    (hparen : f .paren = f .await) {m : Marked} {place : Place} (h : m.OnlyAwaits place) :
    f m.after.kind = f m.before.kind := by
  cases m with
  | original kind span parts => rfl
  | inserted kind span inside inner =>
    obtain ⟨hin, hinner⟩ := h
    cases hin with
    | await => exact hawait
    | paren _ hk =>
      have hbefore : f inner.before.kind = f .await := by
        rw [← Marked.kind_after hawait hparen hinner, hk]
      exact hparen.trans hbefore.symm

/-! ## Marking what a run inserts -/

/-- A part of a marked tree with the parentheses that it needs in its place. -/
def Marked.inPlace (place : Place) (m : Marked) : Marked :=
  if place.asksLeftHandSide = true ∧ m.after.kind = .await then .inserted .paren m.after.span .expr m
  else m

mutual

/-- The marked tree of a run; the first call of the node has number `next`. -/
def mark (targets : List Nat) (next : Nat) : Node → Marked
  | .mk kind span parts =>
    let node := Marked.original kind span (markAll targets (some kind) (next + kind.calls) parts)
    if kind = .call ∧ next ∈ targets then .inserted .await span .operand node else node

def markAll (targets : List Nat) (parent : Option Kind) (next : Nat) : Children → MarkedParts
  | .nil => .nil
  | .cons slot n rest =>
    .cons slot ((mark targets next n).inPlace ⟨parent, slot⟩)
      (markAll targets parent (next + n.callCount) rest)

end

theorem Marked.before_inPlace (place : Place) (m : Marked) : (m.inPlace place).before = m.before := by
  unfold Marked.inPlace
  split <;> rfl

theorem Marked.after_inPlace (place : Place) (m : Marked) :
    (m.inPlace place).after = parenthesizedIn place m.after := by
  unfold Marked.inPlace parenthesizedIn parenthesized
  by_cases hs : place.asksLeftHandSide = true <;> by_cases hk : m.after.kind = .await <;>
    simp [hs, hk, Marked.after, Node.of, Children.ofList]

mutual

/-- Without the inserted nodes it is the tree that was given. -/
theorem before_mark (targets : List Nat) : ∀ (next : Nat) (n : Node),
    (mark targets next n).before = n
  | next, .mk kind span parts => by
    have h := before_markAll targets (some kind) (next + kind.calls) parts
    rw [mark]
    split <;> simp [Marked.before, h]

theorem before_markAll (targets : List Nat) (parent : Option Kind) : ∀ (next : Nat) (parts : Children),
    (markAll targets parent next parts).before = parts
  | _, .nil => rfl
  | next, .cons slot n rest => by
    rw [markAll, MarkedParts.before, Marked.before_inPlace, before_mark, before_markAll]

end

mutual

/-- With the inserted nodes it is the tree that a run gives. -/
theorem after_mark (targets : List Nat) : ∀ (next : Nat) (n : Node),
    (mark targets next n).after = parenthesizeNode (withAwaits (hits targets) next n)
  | next, .mk kind span parts => by
    have h := after_markAll targets (some kind) (next + kind.calls) parts
    rw [mark, withAwaits, parenthesizeNode_awaitedTimes, parenthesizeNode, ← h]
    by_cases hc : kind = .call ∧ next ∈ targets
    · simp [hc, hits, Marked.after, awaitedTimes, awaited, Node.of, Children.ofList, Node.span]
    · have hzero : (if kind = .call then hits targets next else 0) = 0 := by
        split
        · rename_i hk
          exact if_neg fun ht => hc ⟨hk, ht⟩
        · rfl
      rw [hzero, if_neg hc]
      rfl

theorem after_markAll (targets : List Nat) (parent : Option Kind) : ∀ (next : Nat) (parts : Children),
    (markAll targets parent next parts).after =
      parenthesizeChildren parent (withAwaitsAll (hits targets) next parts)
  | _, .nil => rfl
  | next, .cons slot n rest => by
    rw [markAll, MarkedParts.after, Marked.after_inPlace, after_mark, after_markAll, withAwaitsAll,
      parenthesizeChildren_cons]

end

theorem Marked.onlyAwaits_inPlace {m : Marked} (h : ∀ place, m.OnlyAwaits place) (place : Place) :
    (m.inPlace place).OnlyAwaits place := by
  unfold Marked.inPlace
  split
  · rename_i hparen
    exact ⟨.paren (asksLeftHandSide_iff.mp hparen.1) hparen.2, h _⟩
  · exact h place

mutual

theorem onlyAwaits_mark (targets : List Nat) : ∀ (next : Nat) (n : Node) (place : Place),
    (mark targets next n).OnlyAwaits place
  | next, .mk kind span parts, place => by
    have h := onlyAwaits_markAll targets (some kind) (next + kind.calls) parts
    rw [mark]
    split
    · rename_i hc
      obtain ⟨rfl, -⟩ := hc
      exact ⟨.await, h⟩
    · exact h

theorem onlyAwaits_markAll (targets : List Nat) (parent : Option Kind) :
    ∀ (next : Nat) (parts : Children), (markAll targets parent next parts).OnlyAwaits parent
  | _, .nil => trivial
  | next, .cons slot n rest =>
    ⟨Marked.onlyAwaits_inPlace (onlyAwaits_mark targets next n) ⟨parent, slot⟩,
      onlyAwaits_markAll targets parent (next + n.callCount) rest⟩

end

/-- A target has one inserted await right around it, with its span, and perhaps parentheses around that;
another call has nothing inserted around it. -/
def MarkedCall.AwaitedIff (c : MarkedCall) (isTarget : Prop) : Prop :=
  (isTarget → c.around = [(.await, c.span)] ∨ c.around = [(.await, c.span), (.paren, c.span)]) ∧
    (¬ isTarget → c.around = [])

theorem length_calls_mark (targets : List Nat) (next : Nat) (n : Node) (place : Place) :
    (((mark targets next n).inPlace place).calls []).length = n.callCount := by
  rw [← List.length_map (f := MarkedCall.before), Marked.map_before_calls, Marked.before_inPlace,
    before_mark, Node.length_calls]

/-- The calls of a node in its place: the node itself, if it is a call, and the calls of its parts. -/
theorem calls_mark (targets : List Nat) (next : Nat) (kind : Kind) (span : Span) (parts : Children)
    (place : Place) :
    ∃ around, ((mark targets next (.mk kind span parts)).inPlace place).calls [] =
        (if kind = .call then
          [⟨around, span, markAll targets (some kind) (next + kind.calls) parts⟩] else []) ++
          (markAll targets (some kind) (next + kind.calls) parts).calls ∧
      (kind = .call → MarkedCall.AwaitedIff
        ⟨around, span, markAll targets (some kind) (next + kind.calls) parts⟩ (next ∈ targets)) := by
  rw [mark]
  by_cases hc : kind = .call ∧ next ∈ targets
  · obtain ⟨rfl, ht⟩ := hc
    by_cases hs : place.asksLeftHandSide = true
    · refine ⟨[(.await, span), (.paren, span)], ?_, fun _ => ⟨fun _ => .inr rfl, absurd ht⟩⟩
      simp [ht, Marked.inPlace, hs, Marked.after, Node.kind, Node.span, Marked.calls]
    · refine ⟨[(.await, span)], ?_, fun _ => ⟨fun _ => .inl rfl, absurd ht⟩⟩
      simp [ht, Marked.inPlace, hs, Marked.calls]
  · rw [if_neg hc]
    refine ⟨[], ?_, fun hk => ⟨fun ht => absurd ⟨hk, ht⟩ hc, fun _ => rfl⟩⟩
    unfold Marked.inPlace
    split
    · rename_i hparen
      have hk : kind = .await := hparen.2
      simp [Marked.calls, hk]
    · rw [Marked.calls]

mutual

theorem around_mark (targets : List Nat) : ∀ (next : Nat) (n : Node) (place : Place),
    ∀ x ∈ (((mark targets next n).inPlace place).calls []).zipIdx next, x.1.AwaitedIff (x.2 ∈ targets)
  | next, .mk kind span parts, place => by
    have hparts := around_markAll targets (some kind) (next + kind.calls) parts
    obtain ⟨around, hcalls, hroot⟩ := calls_mark targets next kind span parts place
    rw [hcalls]
    by_cases hk : kind = .call
    · subst hk
      intro x hx
      rw [if_pos rfl, List.singleton_append, List.zipIdx_cons, List.mem_cons] at hx
      obtain rfl | hx := hx
      · exact hroot rfl
      · exact hparts x hx
    · rw [if_neg hk, List.nil_append]
      simpa [Kind.calls, hk] using hparts

theorem around_markAll (targets : List Nat) (parent : Option Kind) :
    ∀ (next : Nat) (parts : Children),
    ∀ x ∈ (markAll targets parent next parts).calls.zipIdx next, x.1.AwaitedIff (x.2 ∈ targets)
  | _, .nil => by simp [markAll, MarkedParts.calls]
  | next, .cons slot n rest => by
    intro x hx
    rw [markAll, MarkedParts.calls, List.zipIdx_append, List.mem_append, length_calls_mark] at hx
    exact hx.elim (around_mark targets next n ⟨parent, slot⟩ x)
      (around_markAll targets parent _ rest x)

end

/-! ## Main statement -/

/-- What a call is made to. -/
inductive CalleeForm
  | super
  | importing (phase : ImportPhase)
  | expression
deriving DecidableEq

/-- What a call is made to if its callee is of this kind. -/
def calleeForm : Kind → CalleeForm
  | .super => .super
  | .importCallee phase => .importing phase
  | _ => .expression

/-- Two calls with the same span, callees of one form, as many arguments, and the same arguments
spread. -/
structure SameCall (c d : Node) : Prop where
  span : c.span = d.span
  callee : (c.child? .callee).map (fun n => calleeForm n.kind) =
    (d.child? .callee).map (fun n => calleeForm n.kind)
  args : (c.childrenIn .arg).map (fun n => decide (n.kind = .spread)) =
    (d.childrenIn .arg).map (fun n => decide (n.kind = .spread))

theorem MarkedParts.map_find? {α : Type} (f : Kind → α) (hawait : f .await = f .call)
    (hparen : f .paren = f .await) (slot : Slot) {parent : Option Kind} :
    ∀ m : MarkedParts, m.OnlyAwaits parent →
    (m.after.find? slot).map (fun n => f n.kind) = (m.before.find? slot).map (fun n => f n.kind)
  | .nil, _ => rfl
  | .cons s child rest, h => by
    rw [MarkedParts.after, MarkedParts.before, Children.find?, Children.find?]
    split
    · simp [Marked.kind_after hawait hparen h.1]
    · exact MarkedParts.map_find? f hawait hparen slot rest h.2

theorem MarkedParts.map_inSlot {α : Type} (f : Kind → α) (hawait : f .await = f .call)
    (hparen : f .paren = f .await) (slot : Slot) {parent : Option Kind} :
    ∀ m : MarkedParts, m.OnlyAwaits parent →
    (m.after.inSlot slot).map (fun n => f n.kind) = (m.before.inSlot slot).map (fun n => f n.kind)
  | .nil, _ => rfl
  | .cons s child rest, h => by
    have ih := MarkedParts.map_inSlot f hawait hparen slot rest h.2
    rw [MarkedParts.after, MarkedParts.before, Children.inSlot, Children.inSlot]
    split
    · simp [Marked.kind_after hawait hparen h.1, ih]
    · exact ih

mutual

/-- Calls of a marked tree are marked like the tree. -/
theorem Marked.onlyAwaits_of_mem_calls : ∀ {m : Marked} {place : Place} {around : List (Kind × Span)}
    {c : MarkedCall}, m.OnlyAwaits place → c ∈ m.calls around → c.parts.OnlyAwaits (some .call)
  | .original kind span parts, place, around, c, h, hc => by
    rw [Marked.calls, List.mem_append] at hc
    obtain hc | hc := hc
    · by_cases hk : kind = .call
      · obtain rfl : c = ⟨around, span, parts⟩ := by simpa [hk] using hc
        rw [← hk]
        exact h
      · simp [hk] at hc
    · exact MarkedParts.onlyAwaits_of_mem_calls h hc
  | .inserted kind span inside inner, place, around, c, h, hc =>
    Marked.onlyAwaits_of_mem_calls h.2 hc

theorem MarkedParts.onlyAwaits_of_mem_calls : ∀ {m : MarkedParts} {parent : Option Kind}
    {c : MarkedCall}, m.OnlyAwaits parent → c ∈ m.calls → c.parts.OnlyAwaits (some .call)
  | .nil, _, _, _, hc => by simp [MarkedParts.calls] at hc
  | .cons slot child rest, parent, c, h, hc => by
    rw [MarkedParts.calls, List.mem_append] at hc
    obtain hc | hc := hc
    · exact Marked.onlyAwaits_of_mem_calls h.1 hc
    · exact MarkedParts.onlyAwaits_of_mem_calls h.2 hc

end

theorem MarkedCall.sameCall {c : MarkedCall} (h : c.parts.OnlyAwaits (some .call)) :
    SameCall c.after c.before where
  span := rfl
  callee := c.parts.map_find? calleeForm rfl rfl .callee h
  args := c.parts.map_inSlot (fun kind => decide (kind = .spread)) (by simp) (by simp) .arg h

/-- The program `q` is `p` with one await put around each target, and parentheses around some awaits. -/
structure AwaitsInserted (p : Program) (targets : Finset Nat) (q : Program) : Prop where
  isModule : q.isModule = p.isModule
  interpreter : q.interpreter = p.interpreter
  span : q.span = p.span
  /-- There are as many calls as before. -/
  count : q.body.callPositions.length = p.body.callPositions.length
  /-- Deleting the inserted nodes gives `p` back. They are awaits around calls, and parentheses around
  awaits in the ten places. Call number `k` is call number `k` of `p` with insertions inside, and one inserted await is
  right around it exactly if `k` is a target. -/
  marked : ∃ m : MarkedParts, m.before = p.body ∧ m.after = q.body ∧ m.OnlyAwaits none ∧
    ∀ k : Fin p.body.callPositions.length, ∃ c, m.calls[k]? = some c ∧
      p.body.call? k = some c.before ∧ q.body.call? k = some c.after ∧ SameCall c.after c.before ∧
      c.AwaitedIff (k.val ∈ targets)

theorem awaitsInserted_parenthesizeChildren (p : Program) (targets : List Nat) :
    AwaitsInserted p (hitNumbers p targets)
      { p with body := parenthesizeChildren none (withAwaitsAll (hits targets) 0 p.body) } where
  isModule := rfl
  interpreter := rfl
  span := rfl
  count := by
    rw [Children.length_callPositions, callCount_parenthesizeChildren, callCount_withAwaitsAll,
      Children.length_callPositions]
  marked := by
    have hb := before_markAll targets none 0 p.body
    have ha := after_markAll targets none 0 p.body
    have ho := onlyAwaits_markAll targets none 0 p.body
    refine ⟨markAll targets none 0 p.body, hb, ha, ho, fun k => ?_⟩
    have hlen : (markAll targets none 0 p.body).calls.length = p.body.callPositions.length := by
      rw [← List.length_map (f := MarkedCall.before), MarkedParts.map_before_calls, hb,
        Children.length_calls, Children.length_callPositions]
    have hk : (markAll targets none 0 p.body).calls[k.val]? =
        some ((markAll targets none 0 p.body).calls.get (k.cast hlen.symm)) :=
      List.getElem?_eq_getElem (by rw [hlen]; exact k.isLt)
    refine ⟨_, hk, ?_, ?_, ?_, ?_⟩
    · rw [Children.call?_eq, ← congrArg Children.calls hb, ← MarkedParts.map_before_calls,
        List.getElem?_map, hk]
      rfl
    · rw [Children.call?_eq, ← congrArg Children.calls ha, ← MarkedParts.map_after_calls _ ho,
        List.getElem?_map, hk]
      rfl
    · exact MarkedCall.sameCall (MarkedParts.onlyAwaits_of_mem_calls ho (List.get_mem _ _))
    · have h := around_markAll targets none 0 p.body (_, k.val) (List.mem_zipIdx_iff_getElem?.mpr hk)
      have hiff : k.val ∈ hitNumbers p targets ↔ k.val ∈ targets := by
        rw [mem_hitNumbers, ← Children.length_callPositions]
        exact and_iff_left k.isLt
      rw [hiff]
      exact h

theorem awaitNumbered_of_hitNumbers_eq_empty {p : Program} {targets : List Nat}
    (h : hitNumbers p targets = ∅) : (awaitNumbered p targets).1 = p := by
  rw [awaitNumbered_eq, if_pos h]

theorem awaitsInserted_awaitNumbered {p : Program} {targets : List Nat}
    (h : hitNumbers p targets ≠ ∅) :
    AwaitsInserted p (hitNumbers p targets) (awaitNumbered p targets).1 := by
  rw [awaitNumbered_eq, if_neg h]
  exact awaitsInserted_parenthesizeChildren p targets

/-- Awaiting the calls at any sites wraps the calls that have one of their numbers, counts them, and
changes nothing else; with no such call the program stays as it is. -/
theorem awaitSites_inserts_awaits (p : Program) (sites : List CallSite) :
    let targets := hitNumbers p (sites.map CallSite.ordinal)
    (awaitSites p sites).2 = targets.card ∧
    (targets = ∅ → (awaitSites p sites).1 = p) ∧
    (targets ≠ ∅ → AwaitsInserted p targets (awaitSites p sites).1) := by
  intro targets
  refine ⟨?_, awaitNumbered_of_hitNumbers_eq_empty, awaitsInserted_awaitNumbered⟩
  rw [awaitSites, awaitNumbered_eq]

end AwaitCalls
