import AwaitCalls.Syntax.Lexer

/-!
# The first tokens of a text

Which token stands at a position depends on what follows it, but for some tokens on no more than one
character: a punctuator that starts no longer one, and a word of plain letters in front of a blank. So
the first tokens of a text are known whatever it goes on with.
-/
namespace AwaitCalls.Text.Source

open AwaitCalls.Syntax

variable {s : Source} {pos : Nat} {c : Char}

theorem toList_ofString_append {first : String} {cs : List Char} (h : first.toList = c :: cs)
    (hmark : c.toNat ≠ 0xFEFF) (rest : String) :
    (ofString (first ++ rest)).chars.toList = first.toList ++ rest.toList := by
  simp [ofString, h, hmark]

theorem char?_of_drop {cs : List Char} (h : s.chars.toList.drop pos = c :: cs) :
    s.char? pos = some c := by
  rw [char?, ← Array.getElem?_toList, ← List.head?_drop, h, List.head?_cons]

theorem drop_succ {cs : List Char} (h : s.chars.toList.drop pos = c :: cs) :
    s.chars.toList.drop (pos + 1) = cs := by
  rw [← List.tail_drop, h, List.tail_cons]

theorem startsAt_eq_false (hat : s.char? pos = some c) {text : String}
    (hne : text.toList.head?.any (· ≠ c) = true) : s.startsAt pos text = false := by
  have hc : s.chars[pos]? = some c := hat
  cases hcs : text.toList with
  | nil => simp [hcs] at hne
  | cons d ds =>
    have hd : d ≠ c := by simpa [hcs] using hne
    simp [startsAt, hcs, startsAt.go, hc, hd.symm]

/-! ## Nothing between tokens -/

/-- Characters that no blank, comment or mark of a merge starts with. -/
def isSolid (c : Char) : Bool :=
  !isLineEnd c && !isSpace c && !(['/', '<', '-', '=', '>', '|'].contains c)

theorem skipGap_of_isSolid {g : Gap} (hat : s.char? g.pos = some c) (hc : isSolid c = true)
    (fuel : Nat) : s.skipGap fuel g = g := by
  cases fuel with
  | zero => rfl
  | succ fuel =>
    simp only [isSolid, Bool.and_eq_true, Bool.not_eq_true', List.contains_eq_mem, List.mem_cons,
      List.not_mem_nil, or_false, decide_eq_false_iff_not, not_or] at hc
    obtain ⟨⟨hline, hspace⟩, hslash, hless, hminus, heq, hmore, -⟩ := hc
    have hother : ∀ {d : Char} {text : String}, c ≠ d → text.toList.head? = some d →
        s.startsAt g.pos text = false := by
      intro d text hne hd
      refine startsAt_eq_false hat ?_
      simpa [hd] using hne.symm
    have hmarks : conflictMarks.any (s.startsAt g.pos) = false := by
      simp only [conflictMarks, List.any_cons, List.any_nil, Bool.or_false, Bool.or_eq_false_iff]
      exact ⟨hother heq rfl, hother hless rfl, hother hmore rfl⟩
    have hlineComment : s.startsAt g.pos "//" = false := hother hslash rfl
    have hblockComment : s.startsAt g.pos "/*" = false := hother hslash rfl
    have hopen : s.startsAt g.pos "<!--" = false := hother hless rfl
    have hclose : s.startsAt g.pos "-->" = false := hother hminus rfl
    rw [skipGap, hat]
    simp [hline, hspace, hlineComment, hblockComment, hopen, hclose, hmarks]

/-- Where a solid character stands, the token that starts there is read. -/
theorem lexAt_of_isSolid (hat : s.char? pos = some c) (hc : isSolid c = true) (isFirst : Bool) :
    (s.lexAt pos isFirst).token = (s.tokenAt pos).1 ∧ (s.lexAt pos isFirst).hi = (s.tokenAt pos).2.1 ∧
      (s.lexAt pos isFirst).flaws = (s.tokenAt pos).2.2 := by
  have hgap : s.skipGap (s.size + 1 - pos) ⟨pos, isFirst, [], [], [], []⟩ =
      ⟨pos, isFirst, [], [], [], []⟩ := skipGap_of_isSolid hat hc _
  have hbar : s.startsAt pos "||||||| " = false := by
    refine startsAt_eq_false hat (decide_eq_true ?_)
    rintro rfl
    exact absurd hc (by decide)
  rw [lexAt, hgap]
  simp [hbar]

/-! ## Punctuators -/

/-- Characters that are a token by themselves, whatever follows. -/
def isLone (c : Char) : Bool :=
  isSolid c && shortPuncts.contains c && longPuncts.all (fun p => p.toList.head?.any (· ≠ c)) &&
    !isIdStart c && c != '\\' && !c.isDigit && c != '.' && c != '"' && c != '\'' && c != '\x60'

theorem tokenAt_of_isLone (hat : s.char? pos = some c) (hc : isLone c = true) :
    s.tokenAt pos = (.punct (String.singleton c), pos + 1, []) := by
  simp only [isLone, Bool.and_eq_true, Bool.not_eq_true', bne_iff_ne, ne_eq] at hc
  obtain ⟨⟨⟨⟨⟨⟨⟨⟨⟨-, hshort⟩, hlong⟩, hstart⟩, hescape⟩, hdigit⟩, hdot⟩, hquote⟩, hsingle⟩, hback⟩ := hc
  have hnone : longPuncts.find? (fun p => s.startsAt pos p) = none := by
    rw [List.find?_eq_none]
    intro p hp
    rw [startsAt_eq_false hat (List.all_eq_true.mp hlong p hp)]
    simp
  have hpunct : s.punct? pos = some (String.singleton c) := by
    rw [punct?, hnone, hat]
    simp [Option.filter, List.elem_iff.mp hshort]
  rw [tokenAt, hat]
  simp [hstart, hescape, hdigit, hdot, hquote, hsingle, hback, hpunct]

theorem lexAt_of_isLone {cs : List Char} (hat : s.chars.toList.drop pos = c :: cs)
    (hc : isLone c = true) (isFirst : Bool) :
    (s.lexAt pos isFirst).token = .punct (String.singleton c) ∧ (s.lexAt pos isFirst).hi = pos + 1 ∧
      (s.lexAt pos isFirst).flaws = [] := by
  have hsolid : isSolid c = true := by
    simp only [isLone, Bool.and_eq_true] at hc
    exact hc.1.1.1.1.1.1.1.1.1
  have hlexed := lexAt_of_isSolid (char?_of_drop hat) hsolid isFirst
  rwa [tokenAt_of_isLone (char?_of_drop hat) hc] at hlexed

/-! ## Words -/

/-- Letters are read one after the other, up to a character that no word has. -/
theorem wordBody_of_letters {stop : Char} {rest : List Char} (hstop : isIdPart stop = false)
    (hescape : stop ≠ '\\') (letters : List Char)
    (hletters : letters.all (fun c => isIdPart c && c != '\\') = true) (fuel pos : Nat)
    (hfuel : letters.length ≤ fuel) (hat : s.chars.toList.drop pos = letters ++ stop :: rest)
    (w : Letters) : s.wordBody fuel pos w =
      .ok ({ w with letters := letters.reverse ++ w.letters }, pos + letters.length) := by
  induction letters generalizing fuel pos w with
  | nil =>
    cases fuel with
    | zero => rfl
    | succ fuel =>
      rw [wordBody, char?_of_drop hat]
      simp [hstop, hescape]
  | cons c cs ih =>
    simp only [List.all_cons, Bool.and_eq_true, bne_iff_ne, ne_eq] at hletters
    obtain ⟨⟨hpart, hplain⟩, hcs⟩ := hletters
    cases fuel with
    | zero => simp at hfuel
    | succ fuel =>
      rw [wordBody, char?_of_drop hat]
      simp only [hpart, hplain, if_false, if_true]
      rw [ih hcs fuel (pos + 1) (by simpa using hfuel) (drop_succ hat)]
      simp only [List.reverse_cons, List.append_assoc, List.singleton_append, List.length_cons]
      rw [Nat.add_right_comm, Nat.add_assoc]

/-- The word `await` in front of a blank. -/
theorem lexAt_await {rest : List Char} (hat : s.chars.toList.drop pos = "await ".toList ++ rest)
    (isFirst : Bool) :
    (s.lexAt pos isFirst).token = .word "await" "await" ∧ (s.lexAt pos isFirst).flaws = [] := by
  have hspelled : s.chars.toList.drop pos = "await".toList ++ ' ' :: rest := hat
  have hfuel : "await".toList.length ≤ s.size + 1 - pos := by
    have hlength := congrArg List.length hspelled
    rw [List.length_drop, List.length_append] at hlength
    rw [size, ← Array.length_toList]
    omega
  have hbody := wordBody_of_letters (by decide) (by decide) "await".toList (by decide) _ pos hfuel
    hspelled {}
  have hchar : s.char? pos = some 'a' := char?_of_drop hat
  have htoken : s.tokenAt pos = (.word "await" "await", pos + 5, []) := by
    rw [tokenAt, hchar]
    simp only [show isIdStart 'a' = true by decide, Bool.true_or, if_true, hbody]
    rfl
  obtain ⟨hword, -, hflaws⟩ := lexAt_of_isSolid hchar (by decide) isFirst
  rw [htoken] at hword hflaws
  exact ⟨hword, hflaws⟩

end AwaitCalls.Text.Source
