import CourseRegistry.Proofs.Text.Order
import CourseRegistry.Proofs.Uuid

/-! Identifiers stand in the order of the texts in which they are stored. -/

namespace CourseRegistry

/-- Written digits stand in the order of their values. -/
theorem hexChar_lt {a b : Fin 16} (before : a < b) : hexChar a < hexChar b := by
  -- All pairs of digits are tried.
  revert a b
  decide

namespace Uuid

/-- Identifiers stand in the order of the numbers that their digits denote. -/
instance : LT Uuid := ⟨fun a b => a.digits < b.digits⟩

/-- Rows of digits stand in their order also when they are written in groups. -/
theorem hyphenate_lt {size : Nat} {sizes : List Nat} {left right : List (Fin 16)}
    (before : left < right) (length_eq : left.length = right.length)
    (covered : left.length = countDigits (size :: sizes)) :
    hyphenate (size :: sizes) left < hyphenate (size :: sizes) right := by
  have map_lt {left right : List (Fin 16)} (before : left < right) :
      left.map hexChar < right.map hexChar := List.map_lt (fun _ _ => hexChar_lt) before
  -- The digits are written as a single group, or as one group and what is left of them.
  induction sizes generalizing size left right with
  | nil =>
    -- The last group takes all digits that are left.
    have whole : left.length = size := covered
    rw [hyphenate, hyphenate, List.take_of_length_le (by omega),
      List.take_of_length_le (by omega)]
    exact map_lt before
  | cons next sizes ih =>
    rw [countDigits] at covered
    simp only [hyphenate]
    -- The first difference is in the first group or behind the hyphen.
    rcases Text.take_lt_take_or before length_eq size with first | ⟨same, later⟩
    · exact Text.append_lt_append_of_lt (map_lt first) (by simp [length_eq]) _ _
    · rw [same, Text.append_lt_append_left, List.cons_lt_cons_self]
      refine ih later (by simp [length_eq]) ?_
      rw [List.length_drop]
      omega

/-- Of two identifiers one comes first, if they differ. -/
theorem lt_trichotomy (a b : Uuid) : a < b ∨ a = b ∨ b < a := by
  obtain ⟨a, _⟩ := a
  obtain ⟨b, _⟩ := b
  -- Rows of digits are compared from their front, and one of three things is the case.
  by_cases before : a < b
  · exact .inl before
  · rcases List.le_iff_lt_or_eq.mp (List.not_lt.mp before) with after | rfl
    · exact .inr (.inr after)
    · exact .inr (.inl rfl)

/-- The lesser of two identifiers is written as the lesser text. -/
theorem text_lt_of_lt {a b : Uuid} (before : a < b) : a.text < b.text := by
  -- Both texts are written with the same groups, so only the digits count.
  rw [String.lt_iff]
  simp only [text, String.toList_ofList]
  exact hyphenate_lt before (a.length_eq.trans b.length_eq.symm) a.length_eq

/-- Identifiers stand in the order of their texts. -/
theorem text_lt {a b : Uuid} : a.text < b.text ↔ a < b :=
  Text.written_lt_iff (lt_trichotomy a b) text_lt_of_lt text_lt_of_lt

end Uuid

end CourseRegistry
