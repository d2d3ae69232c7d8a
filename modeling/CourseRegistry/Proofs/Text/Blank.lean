import CourseRegistry.Text.Blank
import CourseRegistry.Text.Digits
import Mathlib.Data.List.TakeWhile

/-! What is left of characters without the blanks in front of them, or at both of their ends. -/

namespace CourseRegistry.Text

/-- No blank has to be dropped in front of a character that is none. -/
theorem dropBlanks_cons {c : Char} (visible : isBlank c = false) (cs : List Char) :
    dropBlanks (c :: cs) = c :: cs :=
  List.dropWhile_cons_of_neg (Bool.eq_false_iff.mp visible)

/-- No digit is blank. -/
theorem isBlank_of_isDigit {c : Char} (digit : isDigit c = true) : isBlank c = false := by
  -- The digits stand together, and no blank is among them.
  obtain ⟨lower, upper⟩ : '0' ≤ c ∧ c ≤ '9' := of_decide_eq_true digit
  have lower : 48 ≤ c.toNat := lower
  have upper : c.toNat ≤ 57 := upper
  simp only [isBlank, Bool.or_eq_false_iff, Bool.and_eq_false_iff, decide_eq_false_iff_not,
    beq_eq_false_iff_ne]
  omega

/-- Nor has a blank to be dropped in front of a run of digits. -/
theorem dropBlanks_digits {front : List Char} (some_ : front ≠ [])
    (digits : ∀ c ∈ front, isDigit c = true) (rest : List Char) :
    dropBlanks (front ++ rest) = front ++ rest := by
  -- The first digit is in the way of any dropping.
  cases front with
  | nil => exact absurd rfl some_
  | cons c front => exact dropBlanks_cons (isBlank_of_isDigit (digits c (by simp))) _

/-- All of a text is blank when what is left after its first blanks is. -/
theorem all_dropBlanks (cs : List Char) : (dropBlanks cs).all isBlank = cs.all isBlank := by
  induction cs with
  | nil => rfl
  | cons c cs ih =>
    rw [dropBlanks, List.dropWhile_cons, List.all_cons]
    -- A blank in front is dropped, and it is blank itself.
    cases blank : isBlank c with
    | true => rwa [if_pos rfl, Bool.true_and]
    | false => rw [if_neg Bool.false_ne_true, List.all_cons, blank]

/-- Nothing is left of a text without the blanks at its ends exactly where all of it is blank. -/
theorem trim_eq_empty_iff (text : String) : trim text = "" ↔ isBlankText text = true := by
  -- What is dropped from the front is all of the text only where all of it is blank.
  have nothing_left (cs : List Char) : dropBlanks cs = [] ↔ cs.all isBlank = true := by
    rw [dropBlanks, List.dropWhile_eq_nil_iff, List.all_eq_true]
  -- Both ends are dropped, and the first already leaves nothing.
  rw [trim, String.ofList_eq_empty_iff, trimChars, List.reverse_eq_nil_iff, nothing_left,
    List.all_reverse, all_dropBlanks, isBlankText]

section Visible

variable {cs : List Char} (visible : ∀ c ∈ cs, isBlank c = false)

include visible

/-- Nothing is dropped from characters of which none is blank. -/
theorem dropBlanks_of_visible : dropBlanks cs = cs := by
  -- The first character is not blank, if there is one.
  cases cs with
  | nil => rfl
  | cons c cs => exact dropBlanks_cons (visible c List.mem_cons_self) cs

/-- Such characters are left as they are at both ends. -/
theorem trim_of_visible : trim (String.ofList cs) = String.ofList cs := by
  -- From the back the same characters are seen.
  have reversed : dropBlanks cs.reverse = cs.reverse :=
    dropBlanks_of_visible fun c member => visible c (List.mem_reverse.mp member)
  rw [trim, String.toList_ofList, trimChars, dropBlanks_of_visible visible, reversed,
    List.reverse_reverse]

end Visible

end CourseRegistry.Text
