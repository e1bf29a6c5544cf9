import AwaitCalls.Text.Blank
import Mathlib.Data.List.DropRight

/-!
# White space in a line

Cutting off the first line, trimming and splitting into words each look at white space in their own way: a
line ends at a line feed only and loses one carriage return before it, trimming takes white space of any kind
from both ends, and words are what stands between white space of any kind. Here it is said what white space
at the ends of a text does to each of them, and that no word reaches across white space, from which the words
of a text put together from pieces follow.
-/
namespace AwaitCalls.Text

/-! ## Trimming -/

theorem trimBlanks_blanks_append {b : List Char} (hb : ∀ c ∈ b, isBlank c = true) (cs : List Char) :
    trimBlanks (b ++ cs) = trimBlanks cs := by
  rw [trimBlanks, List.dropWhile_append_of_pos hb, trimBlanks]

theorem trimBlanks_append_blanks (cs : List Char) {b : List Char} (hb : ∀ c ∈ b, isBlank c = true) :
    trimBlanks (cs ++ b) = trimBlanks cs := by
  rw [trimBlanks, List.dropWhile_append]
  split
  -- A text of white space only is dropped whole from the front, with what follows it.
  · rename_i hempty
    have hnone : b.dropWhile isBlank = [] := List.dropWhile_eq_nil_iff.mpr hb
    rw [trimBlanks, List.isEmpty_iff.mp hempty, hnone]
  · have hrev : ∀ c ∈ b.reverse, isBlank c = true := fun c hc => hb c (List.mem_reverse.mp hc)
    rw [List.reverse_append, List.dropWhile_append_of_pos hrev, trimBlanks]

/-- A text neither starts nor ends with white space. -/
structure Trimmed (cs : List Char) : Prop where
  first : ∀ c ∈ cs.head?, isBlank c = false
  last : ∀ c ∈ cs.getLast?, isBlank c = false

theorem dropWhile_isBlank_of_head? {cs : List Char} (h : ∀ c ∈ cs.head?, isBlank c = false) :
    cs.dropWhile isBlank = cs := by
  cases cs with
  | nil => rfl
  | cons c cs =>
    have hc : isBlank c = false := h c rfl
    rw [List.dropWhile_cons_of_neg (by simp [hc])]

theorem Trimmed.trimBlanks_eq {cs : List Char} (h : Trimmed cs) : trimBlanks cs = cs := by
  have hlast : ∀ c ∈ cs.reverse.head?, isBlank c = false := by
    rw [List.head?_reverse]
    exact h.last
  rw [trimBlanks, dropWhile_isBlank_of_head? h.first, dropWhile_isBlank_of_head? hlast,
    List.reverse_reverse]

/-! ## The first line -/

/-- All that a line loses when it is cut off is white space at its end. -/
theorem trimBlanks_firstLine {line : List Char} (h : '\n' ∉ line) (rest : List Char) :
    trimBlanks (firstLine (line ++ '\n' :: rest)) = trimBlanks line := by
  have hline : (line ++ '\n' :: rest).takeWhile (· ≠ '\n') = line := by
    have hkeep : ∀ c ∈ line, decide (c ≠ '\n') = true := by
      intro c hc
      rw [decide_eq_true_eq]
      rintro rfl
      exact h hc
    rw [List.takeWhile_append_of_pos hkeep, List.takeWhile_cons_of_neg (by simp), List.append_nil]
  rw [firstLine, hline, if_pos (by simp)]
  split
  -- The carriage return that is lost is white space itself.
  · rename_i front hrev
    have hreturn : line = front.reverse ++ ['\r'] := by
      rw [← List.reverse_reverse line, hrev, List.reverse_cons]
    have hblank : ∀ c ∈ ['\r'], isBlank c = true := by
      intro c hc
      rw [List.mem_singleton.mp hc]
      rfl
    rw [hreturn, trimBlanks_append_blanks _ hblank]
  · rfl

/-! ## Words -/

theorem blankSeparated_blank_cons {c : Char} (hc : isBlank c = true) (cs : List Char) :
    blankSeparated (c :: cs) = blankSeparated cs := by
  rw [blankSeparated.eq_def]
  exact if_pos hc

/-- A character before white space, or before nothing, is a word if it stands at the start. -/
theorem blankSeparated_cons_of_head? {c : Char} (hc : isBlank c = false) {cs : List Char}
    (h : ∀ d ∈ cs.head?, isBlank d = true) : blankSeparated (c :: cs) = [c] :: blankSeparated cs := by
  have hplain : ¬ isBlank c = true := by simp [hc]
  rw [blankSeparated.eq_def]
  cases cs with
  | nil => exact if_neg hplain
  | cons d cs => exact (if_neg hplain).trans (if_pos (h d rfl))

/-- A character before a word belongs to the word. -/
theorem blankSeparated_cons_cons {c d : Char} (hc : isBlank c = false) (hd : isBlank d = false)
    {cs w : List Char} {words : List (List Char)} (h : blankSeparated (d :: cs) = w :: words) :
    blankSeparated (c :: d :: cs) = (c :: w) :: words := by
  rw [blankSeparated.eq_def]
  simp [hc, hd, h]

theorem blankSeparated_ne_nil {c : Char} (hc : isBlank c = false) (cs : List Char) :
    blankSeparated (c :: cs) ≠ [] := by
  induction cs generalizing c with
  | nil =>
    rw [blankSeparated_cons_of_head? hc (by simp)]
    exact List.cons_ne_nil _ _
  | cons d cs ih =>
    cases hd : isBlank d with
    | true =>
      rw [blankSeparated_cons_of_head? hc (by simpa using hd)]
      exact List.cons_ne_nil _ _
    | false =>
      obtain ⟨w, words, hwords⟩ := List.exists_cons_of_ne_nil (ih hd)
      rw [blankSeparated_cons_cons hc hd hwords]
      exact List.cons_ne_nil _ _

/-- No word reaches across white space. -/
theorem blankSeparated_append_blank (x : List Char) {c : Char} (hc : isBlank c = true) (y : List Char) :
    blankSeparated (x ++ c :: y) = blankSeparated x ++ blankSeparated y := by
  induction x with
  | nil => exact blankSeparated_blank_cons hc y
  | cons d x ih =>
    cases hd : isBlank d with
    | true => rw [List.cons_append, blankSeparated_blank_cons hd, blankSeparated_blank_cons hd, ih]
    | false =>
      -- The next character decides whether this one ends its word; at the end of `x` it is `c`.
      cases x with
      | nil =>
        have hnext : ∀ e ∈ (c :: y).head?, isBlank e = true := by simpa using hc
        rw [List.cons_append, List.nil_append, blankSeparated_cons_of_head? hd hnext,
          blankSeparated_cons_of_head? hd (by simp), blankSeparated_blank_cons hc]
        rfl
      | cons e x =>
        simp only [List.cons_append] at ih ⊢
        cases he : isBlank e with
        | true =>
          rw [blankSeparated_cons_of_head? hd (by simpa using he), ih,
            blankSeparated_cons_of_head? hd (by simpa using he), List.cons_append]
        | false =>
          obtain ⟨w, words, hwords⟩ := List.exists_cons_of_ne_nil (blankSeparated_ne_nil he x)
          rw [hwords, List.cons_append] at ih
          rw [blankSeparated_cons_cons hd he ih, blankSeparated_cons_cons hd he hwords,
            List.cons_append]

theorem blankSeparated_blanks_append {b : List Char} (hb : ∀ c ∈ b, isBlank c = true)
    (cs : List Char) : blankSeparated (b ++ cs) = blankSeparated cs := by
  induction b with
  | nil => rfl
  | cons c b ih =>
    rw [List.cons_append, blankSeparated_blank_cons (hb c List.mem_cons_self),
      ih fun d hd => hb d (List.mem_cons_of_mem c hd)]

theorem blankSeparated_of_plain {w : List Char} (hne : w ≠ []) (hw : ∀ c ∈ w, isBlank c = false) :
    blankSeparated w = [w] := by
  induction w with
  | nil => exact absurd rfl hne
  | cons c w ih =>
    have hc := hw c List.mem_cons_self
    cases w with
    | nil => exact blankSeparated_cons_of_head? hc (by simp)
    | cons d w =>
      have hd := hw d (by simp)
      exact blankSeparated_cons_cons hc hd (ih (by simp) fun e he => hw e (List.mem_cons_of_mem c he))

/-- White space and a word after a text are one more word. -/
theorem blankSeparated_append_word (x : List Char) {b w : List Char} (hb : b ≠ [])
    (hblank : ∀ c ∈ b, isBlank c = true) (hw : w ≠ []) (hplain : ∀ c ∈ w, isBlank c = false) :
    blankSeparated (x ++ (b ++ w)) = blankSeparated x ++ [w] := by
  obtain ⟨c, b, rfl⟩ := List.exists_cons_of_ne_nil hb
  have hc : isBlank c = true := hblank c List.mem_cons_self
  rw [List.cons_append, blankSeparated_append_blank x hc,
    blankSeparated_blanks_append fun d hd => hblank d (List.mem_cons_of_mem c hd),
    blankSeparated_of_plain hw hplain]

end AwaitCalls.Text
