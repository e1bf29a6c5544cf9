import AwaitCalls.Proofs.Insertions

/-!
# Where parentheses are put

After a run that has awaited something, no bare `await` stands where a left-hand-side expression must,
whether the run has put it in or not. The parentheses that are new stand around such an `await` and
nowhere else, and a slot that held parentheses before gets no others. The parts of a tree are listed
with the places they stand in, the kind of the parent among them, so that every statement here is about
a list. Which calls are awaited is not looked at.
-/
namespace AwaitCalls

open AwaitCalls.Syntax AwaitCalls.Text

/-! ## All parts of a tree -/

mutual

/-- The parts of a node at any depth, each with its place, a part before the parts inside it. -/
def Syntax.Node.allParts : Node → List (Place × Node)
  | .mk kind _ parts => parts.allParts (some kind)

/-- Parts of a node of the given kind, or of a program, with the parts inside them. -/
def Syntax.Children.allParts (parent : Option Kind) : Children → List (Place × Node)
  | .nil => []
  | .cons slot n rest => (⟨parent, slot⟩, n) :: (n.allParts ++ rest.allParts parent)

end

/-- How many parts are of some sort does not depend on what they are parts of. -/
theorem Children.countP_allParts (f : Node → Bool) (parent : Option Kind) (parts : Children) :
    (parts.allParts parent).countP (fun part => f part.2) =
      (parts.allParts none).countP fun part => f part.2 := by
  induction parts with
  | nil => rfl
  | cons slot n rest ih => simp only [Children.allParts, List.countP_cons, List.countP_append, ih]

mutual

/-- The parts of a marked node at any depth. The part of an inserted node is one of them. -/
def Marked.allParts : Marked → List (Place × Marked)
  | .original kind _ parts => parts.allParts (some kind)
  | .inserted kind _ slot inner => (⟨some kind, slot⟩, inner) :: inner.allParts

def MarkedParts.allParts (parent : Option Kind) : MarkedParts → List (Place × Marked)
  | .nil => []
  | .cons slot child rest => (⟨parent, slot⟩, child) :: (child.allParts ++ rest.allParts parent)

end

mutual

/-- The parts of the tree with the insertions are the marked parts, in the same order and places. -/
theorem Marked.allParts_after : ∀ m : Marked,
    m.after.allParts = m.allParts.map (Prod.map id Marked.after)
  | .original kind span parts => by
    rw [Marked.after, Node.allParts, parts.allParts_after, Marked.allParts]
  | .inserted kind span slot inner => by
    rw [Marked.after, Node.allParts, Children.allParts, inner.allParts_after, Marked.allParts,
      Children.allParts, List.append_nil, List.map_cons]
    rfl

theorem MarkedParts.allParts_after (parent : Option Kind) : ∀ m : MarkedParts,
    m.after.allParts parent = (m.allParts parent).map (Prod.map id Marked.after)
  | .nil => rfl
  | .cons slot child rest => by
    rw [MarkedParts.after, Children.allParts, child.allParts_after, rest.allParts_after,
      MarkedParts.allParts, List.map_cons, List.map_append]
    rfl

end

/-! ## No bare await is left -/

/-- A list of parts in which every `await` that stands where a left-hand-side expression must is in
parentheses. -/
def AwaitsInParens (parent : Option Kind) (parts : Children) : Prop :=
  ∀ part ∈ parts.allParts parent, LeftHandPlace part.1 → part.2.kind ≠ .await

theorem awaitsInParens_cons {parent : Option Kind} {slot : Slot} {kind : Kind} {span : Span}
    {parts rest : Children} :
    AwaitsInParens parent (.cons slot (.mk kind span parts) rest) ↔
      (LeftHandPlace ⟨parent, slot⟩ → kind ≠ .await) ∧ AwaitsInParens (some kind) parts ∧
        AwaitsInParens parent rest := by
  simp only [AwaitsInParens, Children.allParts, Node.allParts, List.mem_cons, List.mem_append, or_imp,
    forall_and, forall_eq]
  rfl

theorem parenthesizedIn_eq_self {place : Place} {n : Node}
    (h : LeftHandPlace place → n.kind ≠ .await) : parenthesizedIn place n = n := by
  unfold parenthesizedIn parenthesized
  split
  · rename_i hasks
    exact if_neg (h (asksLeftHandSide_iff.mp hasks))
  · rfl

theorem awaitsInParens_parenthesizedIn {parent : Option Kind} {slot : Slot} {n : Node}
    {rest : Children} (hn : AwaitsInParens (some n.kind) n.children)
    (hrest : AwaitsInParens parent rest) :
    AwaitsInParens parent (.cons slot (parenthesizedIn ⟨parent, slot⟩ n) rest) := by
  obtain ⟨kind, span, parts⟩ := n
  by_cases h : LeftHandPlace ⟨parent, slot⟩ → kind ≠ .await
  · rw [parenthesizedIn_eq_self h, awaitsInParens_cons]
    exact ⟨h, hn, hrest⟩
  · -- the await is put in parentheses, whose own slot asks for nothing
    obtain ⟨hplace, rfl⟩ : LeftHandPlace ⟨parent, slot⟩ ∧ kind = .await := by simpa using h
    have hparen : parenthesizedIn ⟨parent, slot⟩ (.mk .await span parts) =
        .mk .paren span (.cons .expr (.mk .await span parts) .nil) := by
      simp [parenthesizedIn, asksLeftHandSide_iff.mpr hplace, parenthesized, Node.kind, Node.of,
        Children.ofList, Node.span]
    rw [hparen, awaitsInParens_cons, awaitsInParens_cons]
    refine ⟨fun _ => by simp, ⟨fun hexpr => ?_, hn, ?_⟩, hrest⟩
    · cases hexpr
    · simp [AwaitsInParens, Children.allParts]

mutual

/-- Parenthesising leaves no bare `await` where a left-hand-side expression must stand. -/
theorem awaitsInParens_parenthesizeNode : ∀ n : Node,
    AwaitsInParens (some n.kind) (parenthesizeNode n).children
  | .mk kind span parts => by
    rw [parenthesizeNode]
    exact awaitsInParens_parenthesizeChildren (some kind) parts

theorem awaitsInParens_parenthesizeChildren (parent : Option Kind) : ∀ parts : Children,
    AwaitsInParens parent (parenthesizeChildren parent parts)
  | .nil => by simp [AwaitsInParens, parenthesizeChildren, Children.allParts]
  | .cons slot n rest => by
    have hn := awaitsInParens_parenthesizeNode n
    rw [← kind_parenthesizeNode] at hn
    rw [parenthesizeChildren_cons]
    exact awaitsInParens_parenthesizedIn hn (awaitsInParens_parenthesizeChildren parent rest)

end

mutual

/-- Where no bare `await` is left there is nothing to parenthesise. -/
theorem parenthesizeNode_of_awaitsInParens : ∀ {n : Node}, AwaitsInParens (some n.kind) n.children →
    parenthesizeNode n = n
  | .mk kind span parts, h => by
    have hparts : parenthesizeChildren (some kind) parts = parts :=
      parenthesizeChildren_of_awaitsInParens h
    rw [parenthesizeNode, hparts]

theorem parenthesizeChildren_of_awaitsInParens {parent : Option Kind} : ∀ {parts : Children},
    AwaitsInParens parent parts → parenthesizeChildren parent parts = parts
  | .nil, _ => rfl
  | .cons slot (.mk kind span parts) rest, h => by
    obtain ⟨hfirst, hparts, hrest⟩ := awaitsInParens_cons.mp h
    have hn : parenthesizeNode (.mk kind span parts) = .mk kind span parts :=
      parenthesizeNode_of_awaitsInParens hparts
    rw [parenthesizeChildren_cons, hn, parenthesizedIn_eq_self hfirst,
      parenthesizeChildren_of_awaitsInParens hrest]

end

/-! ## Which parentheses are new -/

mutual

/-- What is inserted in a part is of the two forms, if it is so in the whole. -/
theorem Marked.onlyAwaits_of_mem_allParts : ∀ {m : Marked} {place : Place} {part : Place × Marked},
    m.OnlyAwaits place → part ∈ m.allParts → part.2.OnlyAwaits part.1
  | .original kind span parts, place, part, h, hpart =>
    MarkedParts.onlyAwaits_of_mem_allParts h hpart
  | .inserted kind span inside inner, place, part, h, hpart => by
    rw [Marked.allParts, List.mem_cons] at hpart
    obtain rfl | hpart := hpart
    · exact h.2
    · exact Marked.onlyAwaits_of_mem_allParts h.2 hpart

theorem MarkedParts.onlyAwaits_of_mem_allParts {parent : Option Kind} :
    ∀ {m : MarkedParts} {part : Place × Marked},
    m.OnlyAwaits parent → part ∈ m.allParts parent → part.2.OnlyAwaits part.1
  | .nil, _, _, hpart => by simp [MarkedParts.allParts] at hpart
  | .cons slot child rest, part, h, hpart => by
    rw [MarkedParts.allParts, List.mem_cons, List.mem_append] at hpart
    obtain rfl | hpart | hpart := hpart
    · exact h.1
    · exact Marked.onlyAwaits_of_mem_allParts h.1 hpart
    · exact MarkedParts.onlyAwaits_of_mem_allParts h.2 hpart

end

/-- What is an `await` now was an `await` or a call before, and so was not in parentheses. -/
theorem Marked.kind_before_ne_paren {m : Marked} {place : Place} (h : m.OnlyAwaits place)
    (hk : m.after.kind = .await) : m.before.kind ≠ .paren := by
  cases m with
  | original kind span parts =>
    have hkind : kind = .await := hk
    simp [Marked.before, Node.kind, hkind]
  | inserted kind span inside inner =>
    obtain ⟨hin, -⟩ := h
    cases hin with
    | await => simp [Marked.before, Node.kind]
    | paren => simp [Marked.after, Node.kind] at hk

/-- The parentheses of a marked part are those of the tree before, or they are new: they are right
around an `await`, in one of the ten places, and no parentheses stood there. -/
inductive ParenOrigin (place : Place) : Marked → Prop
  | kept {span : Span} {parts : MarkedParts} : ParenOrigin place (.original .paren span parts)
  | new {inner : Marked} : LeftHandPlace place → inner.after.kind = .await →
    inner.before.kind ≠ .paren → ParenOrigin place (.inserted .paren inner.after.span .expr inner)

theorem Marked.parenOrigin {m : Marked} {place : Place} (h : m.OnlyAwaits place)
    (hk : m.after.kind = .paren) : ParenOrigin place m := by
  cases m with
  | original kind span parts =>
    obtain rfl : kind = .paren := hk
    exact .kept
  | inserted kind span inside inner =>
    obtain ⟨hin, hinner⟩ := h
    cases hin with
    | await => simp [Marked.after, Node.kind] at hk
    | paren hplace hawait => exact .new hplace hawait (Marked.kind_before_ne_paren hinner hawait)

/-! ## Main statement -/

/-- A run that awaits something leaves no bare `await` in any of the ten places where a left-hand-side
expression must stand, and parenthesising once more changes nothing. All parentheses of the result are
old, or are right around an `await` in such a place that held no parentheses before; nothing else but
awaits is inserted. -/
theorem awaitSites_parenthesizes_awaits {p : Program} {sites : List CallSite}
    (h : 0 < (awaitSites p sites).2) :
    (∀ part ∈ (awaitSites p sites).1.body.allParts none,
      LeftHandPlace part.1 → part.2.kind ≠ .await) ∧
    (∃ m : MarkedParts, m.before = p.body ∧ m.after = (awaitSites p sites).1.body ∧
      m.OnlyAwaits none ∧
      (awaitSites p sites).1.body.allParts none = (m.allParts none).map (Prod.map id Marked.after) ∧
      ∀ part ∈ m.allParts none, part.2.after.kind = .paren → ParenOrigin part.1 part.2) ∧
    parenthesizeChildren none (awaitSites p sites).1.body = (awaitSites p sites).1.body := by
  have hbody : (awaitSites p sites).1.body = parenthesizeChildren none
      (withAwaitsAll (hits (sites.map CallSite.ordinal)) 0 p.body) := by
    rw [awaitSites, awaitNumbered_eq] at h ⊢
    exact if_neg (Finset.card_pos.mp h).ne_empty
  have hbare : AwaitsInParens none (awaitSites p sites).1.body := by
    rw [hbody]
    exact awaitsInParens_parenthesizeChildren none _
  have hafter := after_markAll (sites.map CallSite.ordinal) none 0 p.body
  have honly := onlyAwaits_markAll (sites.map CallSite.ordinal) none 0 p.body
  refine ⟨hbare, ⟨markAll (sites.map CallSite.ordinal) none 0 p.body, before_markAll _ none 0 p.body,
    hafter.trans hbody.symm, honly, ?_, fun part hpart hk => ?_⟩, ?_⟩
  · rw [hbody, ← hafter, MarkedParts.allParts_after]
  · exact Marked.parenOrigin (MarkedParts.onlyAwaits_of_mem_allParts honly hpart) hk
  · exact parenthesizeChildren_of_awaitsInParens hbare

/-- The program `f() * f() ** f().g`. -/
def poweredCalls : Program where
  isModule := false
  interpreter := none
  span := ⟨0, 18⟩
  body := Children.ofList [(.body, Node.of .exprStmt ⟨0, 18⟩ [(.expr, Node.of (.binary .mul) ⟨0, 18⟩
    [(.left, Node.of .call ⟨0, 3⟩ [(.callee, Node.leaf (.ident "f") ⟨0, 1⟩)]),
      (.right, Node.of (.binary .power) ⟨6, 18⟩
        [(.left, Node.of .call ⟨6, 9⟩ [(.callee, Node.leaf (.ident "f") ⟨6, 7⟩)]),
          (.right, Node.of .member ⟨13, 18⟩
            [(.memberObject, Node.of .call ⟨13, 16⟩ [(.callee, Node.leaf (.ident "f") ⟨13, 14⟩)]),
              (.property, Node.leaf (.name "g") ⟨17, 18⟩)])])])])]

/-- The three calls of `f() * f() ** f().g`. -/
def poweredCallSites : List CallSite := [⟨0, ⟨0, 3⟩, 0⟩, ⟨1, ⟨6, 9⟩, 0⟩, ⟨2, ⟨13, 16⟩, 0⟩]

/-- All three calls of `f() * f() ** f().g` are awaited; the base of the power and the object of the
property get parentheses, and the factor on the left does not. -/
theorem awaitSites_parenthesizes_awaits_power :
    (awaitSites poweredCalls poweredCallSites).2 = 3 ∧
    parenthesizeChildren none (awaitSites poweredCalls poweredCallSites).1.body =
      (awaitSites poweredCalls poweredCallSites).1.body ∧
    (∀ part ∈ (awaitSites poweredCalls poweredCallSites).1.body.allParts none,
      LeftHandPlace part.1 → part.2.kind ≠ .await) ∧
    (((awaitSites poweredCalls poweredCallSites).1.body.allParts none).filter
      fun part => part.2.kind = .paren).map Prod.fst =
        [⟨some (.binary .power), .left⟩, ⟨some .member, .memberObject⟩] ∧
    (((awaitSites poweredCalls poweredCallSites).1.body.allParts none).filter
      fun part => part.2.kind = .await).map Prod.fst =
        [⟨some (.binary .mul), .left⟩, ⟨some .paren, .expr⟩, ⟨some .paren, .expr⟩] := by
  have hcount : (awaitSites poweredCalls poweredCallSites).2 = 3 := by decide
  have hpos : 0 < (awaitSites poweredCalls poweredCallSites).2 := by
    rw [hcount]
    decide
  have hrun := awaitSites_parenthesizes_awaits hpos
  exact ⟨hcount, hrun.2.2, hrun.1, by decide, by decide⟩

end AwaitCalls
