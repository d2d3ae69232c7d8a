import CourseRegistry.Proofs.Text.Digits

/-! The order of texts that are put together from parts, and of numbers written as digits. -/

namespace CourseRegistry.Text

section Parts

variable {α : Type} [LT α]

/-- What lists have in common at the front does not matter to their order. -/
theorem append_lt_append_left [Std.Irrefl (α := α) (· < ·)] (same left right : List α) :
    same ++ left < same ++ right ↔ left < right := by
  -- What is shared is gone through from the front.
  induction same with
  | nil => rfl
  | cons item same ih => rw [List.cons_append, List.cons_append, List.cons_lt_cons_self, ih]

/-- Of two lists of one length the first difference decides, whatever is behind them. -/
theorem append_lt_append_of_lt {left right : List α} (before : left < right)
    (length_eq : left.length = right.length) (front back : List α) :
    left ++ front < right ++ back := by
  induction left generalizing right with
  | nil =>
    cases right with
    -- Nothing comes before an empty list.
    | nil => exact absurd before (List.not_lt_nil _)
    | cons => cases length_eq
  | cons a left ih =>
    cases right with
    | nil => cases length_eq
    | cons b right =>
      -- The first items decide, or they are the same and the rest decides.
      rw [List.cons_append, List.cons_append, List.cons_lt_cons_iff]
      rw [List.cons_lt_cons_iff] at before
      exact before.imp_right fun ⟨same, later⟩ => ⟨same, ih later (Nat.succ.inj length_eq)⟩

/-- The first difference of two lists of one length lies before a place or behind it. -/
theorem take_lt_take_or {left right : List α} (before : left < right)
    (length_eq : left.length = right.length) (place : Nat) :
    left.take place < right.take place ∨
      left.take place = right.take place ∧ left.drop place < right.drop place := by
  induction place generalizing left right with
  -- Before the first place there is nothing to differ in.
  | zero => exact .inr ⟨rfl, before⟩
  | succ place ih =>
    cases left with
    | nil =>
      cases right with
      | nil => exact absurd before (List.not_lt_nil _)
      | cons => cases length_eq
    | cons a left =>
      cases right with
      | nil => cases length_eq
      | cons b right =>
        rw [List.cons_lt_cons_iff] at before
        simp only [List.take_succ_cons, List.drop_succ_cons, List.cons_lt_cons_iff,
          List.cons.injEq]
        -- The first items differ, and they are before the place.
        rcases before with first | ⟨rfl, later⟩
        · -- The first items differ, and they are before the place.
          exact .inl (.inl first)
        · -- They are the same, so that the difference is further on.
          rcases ih later (Nat.succ.inj length_eq) with front | ⟨same, back⟩
          · exact .inl (.inr ⟨rfl, front⟩)
          · exact .inr ⟨⟨rfl, same⟩, back⟩

end Parts

section Writing

/-- Values are in the order of their texts where the first of any two is written first. -/
theorem written_lt_iff {α : Type} [LT α] {written : α → String} {a b : α}
    (apart : a < b ∨ a = b ∨ b < a) (front : a < b → written a < written b)
    (back : b < a → written b < written a) : written a < written b ↔ a < b := by
  -- That one comes first is all that has to be shown of the other two cases.
  refine ⟨fun first => ?_, front⟩
  rcases apart with before | rfl | after
  · exact before
  · -- Equal values have one text.
    exact absurd first (String.lt_irrefl _)
  · -- A later value has a later text.
    exact absurd (back after) (String.lt_asymm first)

end Writing

section Digits

/-- Digits of one width stand in the order of their numbers, and after that of what is behind. -/
theorem fixedDigits_append_lt {width value other : Nat} (fits : other < Nat.pow 10 width)
    {front back : List Char} (before : value < other ∨ value = other ∧ front < back) :
    fixedDigits width value ++ front < fixedDigits width other ++ back := by
  rcases before with less | ⟨rfl, later⟩
  · induction width generalizing value other front back with
    -- In no places there are no two numbers.
    | zero =>
      change other < 1 at fits
      omega
    | succ width ih =>
      -- The numbers without their last digits fit into one place less.
      have fewer : other / 10 < Nat.pow 10 width := by
        rw [Nat.div_lt_iff_lt_mul (by decide)]
        exact fits
      rw [fixedDigits, fixedDigits, List.append_assoc, List.append_assoc]
      rcases Nat.lt_or_ge (value / 10) (other / 10) with higher | lower
      · -- Already the digits in front differ.
        exact ih fewer higher
      · -- The numbers differ in their last digit alone.
        have same : value / 10 = other / 10 := by omega
        have digits : ∀ a < 10, ∀ b < 10, a < b → digitChar a < digitChar b := by decide
        have last := digits (value % 10) (Nat.mod_lt _ (by decide)) (other % 10)
          (Nat.mod_lt _ (by decide)) (by omega)
        simp only [digitChar, Nat.mod_mod] at last
        rw [same, append_lt_append_left, List.singleton_append, List.singleton_append,
          List.cons_lt_cons_iff]
        exact .inl last
  · -- Equal numbers leave the comparison to what is behind them.
    exact (append_lt_append_left _ _ _).mpr later

/-- Digits can be written in two parts. -/
theorem fixedDigits_add (front back value : Nat) :
    fixedDigits (front + back) value =
      fixedDigits front (value / Nat.pow 10 back) ++ fixedDigits back value := by
  induction back generalizing value with
  | zero =>
    -- No digits are left for the second part.
    have whole : value / Nat.pow 10 0 = value := Nat.div_one value
    rw [whole, fixedDigits, List.append_nil, Nat.add_zero]
  | succ back ih =>
    -- Taking off the last digit and then the others takes off all of them.
    have shift : value / 10 / Nat.pow 10 back = value / Nat.pow 10 (back + 1) := by
      rw [Nat.div_div_eq_div_mul]
      exact congrArg (value / ·) (Nat.mul_comm _ _)
    rw [← Nat.add_assoc, fixedDigits, ih, shift, List.append_assoc]
    rfl

/-- A sign that comes before all digits comes before any written number. -/
theorem cons_lt_fixedDigits {width : Nat} (some_ : 0 < width) (value : Nat)
    {mark : Char} (first : mark < '0') (front back : List Char) :
    mark :: front < fixedDigits width value ++ back := by
  cases written : fixedDigits width value with
  | nil =>
    -- Such a number has a digit to compare with.
    have none_ := congrArg List.length written
    rw [fixedDigits_length, List.length_nil] at none_
    omega
  | cons digit digits =>
    have isDigit : isDigit digit = true :=
      isDigit_of_mem_fixedDigits (written ▸ List.mem_cons_self)
    -- The least digit is not before the sign.
    have least : '0' ≤ digit := (of_decide_eq_true isDigit).1
    rw [List.cons_append, List.cons_lt_cons_iff]
    exact .inl (Nat.lt_of_lt_of_le first least)

end Digits

end CourseRegistry.Text
