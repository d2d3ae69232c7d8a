import CourseRegistry.Text.Digits

/-! Numbers read back from their digits, of a fixed width or as many as there are. -/

namespace CourseRegistry.Text

/-- A digit reads back as the last decimal place of the number it was made from. -/
theorem digitValue?_digitChar (value : Nat) :
    digitValue? (digitChar value) = some (value % 10) := by
  -- Only ten characters are ever written, and each is one of the ten that are read.
  have all : ∀ d < 10, digitValue? (Char.ofNat ('0'.toNat + d)) = some d := by decide
  exact all (value % 10) (Nat.mod_lt _ (by decide))

/-- Every written digit is recognised as one. -/
theorem isDigit_digitChar (value : Nat) : isDigit (digitChar value) = true := by
  -- Again, there are only ten characters to look at.
  have all : ∀ d < 10, isDigit (Char.ofNat ('0'.toNat + d)) = true := by decide
  exact all (value % 10) (Nat.mod_lt _ (by decide))

/-- A number of a fixed width has that width. -/
@[simp] theorem fixedDigits_length (width value : Nat) :
    (fixedDigits width value).length = width := by
  induction width generalizing value with
  -- Nothing is written in no places.
  | zero => rfl
  -- Each further place is one more digit at the end.
  | succ width ih => simp [fixedDigits, ih]

/-- A number of a fixed width consists of digits. -/
theorem isDigit_of_mem_fixedDigits {width value : Nat} {c : Char}
    (member : c ∈ fixedDigits width value) : isDigit c = true := by
  induction width generalizing value with
  -- No digit is written in no places.
  | zero => simp [fixedDigits] at member
  | succ width ih =>
    rw [fixedDigits, List.mem_append, List.mem_singleton] at member
    -- A digit is the last one or one of those in front, which are those of a smaller width.
    rcases member with front | last
    · exact ih front
    · rw [last]
      exact isDigit_digitChar value

/-- One more digit makes ten times the number and the digit. -/
theorem valueOf_append_digitChar (front : List Char) (value : Nat) :
    valueOf (front ++ [digitChar value]) = 10 * valueOf front + value % 10 := by
  -- The digit is read last, when all others have been counted ten times.
  simp only [valueOf, List.foldl_append, List.foldl_cons, List.foldl_nil, digitValue?_digitChar,
    Option.getD_some]

/-- The digits of a fixed width denote the number, less the places that do not fit. -/
theorem valueOf_fixedDigits (width value : Nat) :
    valueOf (fixedDigits width value) = value % Nat.pow 10 width := by
  -- The value stays quantified over, since the digits in front are those of its quotient by ten.
  induction width generalizing value with
  -- In no places nothing but zero can be denoted.
  | zero => exact (Nat.mod_one value).symm
  | succ width ih =>
    -- The last digit is the remainder by ten, and the digits before it denote the quotient.
    have split : value % (10 * Nat.pow 10 width) =
        value % 10 + 10 * (value / 10 % Nat.pow 10 width) := Nat.mod_mul
    have shift : Nat.pow 10 (width + 1) = 10 * Nat.pow 10 width := Nat.mul_comm _ _
    rw [fixedDigits, valueOf_append_digitChar, ih, shift, split]
    omega

/-- A run of digits is split off whole when exactly its length is asked for. -/
theorem splitDigits_append {front : List Char} (digits : ∀ c ∈ front, isDigit c = true)
    (rest : List Char) : splitDigits front.length (front ++ rest) = (front, rest) := by
  induction front with
  -- No digits are split off where none are asked for.
  | nil => rfl
  | cons c front ih =>
    have head := digits c (by simp)
    have tail := ih fun d member => digits d (by simp [member])
    simp [splitDigits, head, tail]

/-- A run of digits cannot go on in a text. -/
def NoDigitNext (cs : List Char) : Prop :=
  ∀ c ∈ cs.head?, isDigit c = false

/-- It cannot at the end of the text. -/
theorem noDigitNext_nil : NoDigitNext [] := by
  intro c next
  cases next

/-- It cannot in front of any other character. -/
theorem noDigitNext_cons {c : Char} (other : isDigit c = false) (cs : List Char) :
    NoDigitNext (c :: cs) := by
  intro d next
  cases next
  exact other

/-- A run of digits is split off whole where it cannot go on. -/
theorem splitDigits_append_of_noDigitNext {front : List Char}
    (digits : ∀ c ∈ front, isDigit c = true) {limit : Nat} (fits : front.length ≤ limit)
    {rest : List Char} (stop : NoDigitNext rest) :
    splitDigits limit (front ++ rest) = (front, rest) := by
  induction front generalizing limit with
  | nil =>
    -- What stops the run stops it at once, whether or not more digits would be allowed.
    cases limit with
    | zero => rfl
    | succ limit =>
      cases rest with
      | nil => rfl
      | cons c rest => simp [splitDigits, stop c rfl]
  | cons d front ih =>
    have head := digits d (by simp)
    -- A digit was taken, so that at least one was allowed.
    obtain ⟨less, rfl⟩ : ∃ less, limit = less + 1 :=
      ⟨limit - 1, by simp only [List.length_cons] at fits; omega⟩
    have tail : splitDigits less (front ++ rest) = (front, rest) :=
      ih (fun e member => digits e (by simp [member])) (by simpa using fits)
    simp [splitDigits, head, tail]

/-- Digits that are split off, at least one, are read as the number that they denote. -/
theorem number?_of_splitDigits {limit : Nat} {cs front rest : List Char}
    (split : splitDigits limit cs = (front, rest)) (some_ : front ≠ []) :
    number? limit cs = some (valueOf front, rest) := by
  cases front with
  | nil => exact absurd rfl some_
  | cons c front => rw [number?, split]

/-- A number of a fixed width, whatever follows it, reads back as itself. -/
theorem fixedNumber?_fixedDigits {width value : Nat} (fits : value < Nat.pow 10 width)
    (rest : List Char) :
    fixedNumber? width (fixedDigits width value ++ rest) = some (value, rest) := by
  -- Everything that is written in a fixed width is a digit.
  have digits : ∀ c ∈ fixedDigits width value, isDigit c = true :=
    fun _ => isDigit_of_mem_fixedDigits
  -- Exactly as many digits as were written are split off, even if more digits follow.
  have split := splitDigits_append digits rest
  rw [fixedDigits_length] at split
  simp only [fixedNumber?, split, fixedDigits_length, if_true, valueOf_fixedDigits,
    Nat.mod_eq_of_lt fits]

/-- So does one that is read as having at most so many digits. -/
theorem number?_fixedDigits {width value : Nat} (some_ : 0 < width)
    (fits : value < Nat.pow 10 width) (rest : List Char) :
    number? width (fixedDigits width value ++ rest) = some (value, rest) := by
  have digits : ∀ c ∈ fixedDigits width value, isDigit c = true :=
    fun _ => isDigit_of_mem_fixedDigits
  have split := splitDigits_append digits rest
  -- A width of at least one leaves a digit to be read.
  have notEmpty : fixedDigits width value ≠ [] :=
    List.ne_nil_of_length_pos (by simpa using some_)
  rw [fixedDigits_length] at split
  rw [number?_of_splitDigits split notEmpty, valueOf_fixedDigits, Nat.mod_eq_of_lt fits]

/-- A number below ten is a single digit. -/
theorem digits_of_lt {value : Nat} (small : value < 10) : digits value = [digitChar value] := by
  -- The library writes the ten digits as they are written here.
  have same : ∀ d < 10, Nat.digitChar d = digitChar d := by decide
  rw [digits, Nat.toDigits_of_lt_base small, same value small]

/-- Any other number has one more digit than its quotient by ten. -/
theorem digits_of_le {value : Nat} (large : 10 ≤ value) :
    digits value = digits (value / 10) ++ [digitChar value] := by
  have same : ∀ d < 10, Nat.digitChar d = Char.ofNat ('0'.toNat + d) := by decide
  rw [digits, Nat.toDigits_of_base_le (by decide) large, same _ (Nat.mod_lt _ (by decide))]
  rfl

/-- Every number has a digit. -/
theorem digits_ne_nil (value : Nat) : digits value ≠ [] :=
  Nat.toDigits_ne_nil

/-- All digits of a number are digits. -/
theorem isDigit_of_mem_digits {value : Nat} {c : Char} (member : c ∈ digits value) :
    isDigit c = true := by
  -- The digits in front are those of a smaller number, of whatever length.
  induction value using Nat.strongRecOn with
  | _ value ih =>
    rcases Nat.lt_or_ge value 10 with small | large
    · rw [digits_of_lt small, List.mem_singleton] at member
      rw [member]
      exact isDigit_digitChar value
    · rw [digits_of_le large, List.mem_append, List.mem_singleton] at member
      -- A digit is the last one or one of those of the quotient.
      rcases member with front | last
      · exact ih (value / 10) (by omega) front
      · rw [last]
        exact isDigit_digitChar value

/-- Every number starts with a digit. -/
theorem digits_eq_cons (value : Nat) :
    ∃ c front, digits value = c :: front ∧ isDigit c = true := by
  obtain ⟨c, front, written⟩ := List.exists_cons_of_ne_nil (digits_ne_nil value)
  exact ⟨c, front, written, isDigit_of_mem_digits (written ▸ List.mem_cons_self)⟩

/-- All digits of a number denote it. -/
theorem valueOf_digits (value : Nat) : valueOf (digits value) = value := by
  -- The induction is on all smaller numbers, since the digits in front are those of the quotient.
  induction value using Nat.strongRecOn with
  | _ value ih =>
    rcases Nat.lt_or_ge value 10 with small | large
    · -- A single digit is the number.
      have last := valueOf_append_digitChar [] value
      rw [digits_of_lt small]
      exact last.trans (by simp only [valueOf, List.foldl_nil]; omega)
    · -- The quotient and the remainder make up the number.
      rw [digits_of_le large, valueOf_append_digitChar, ih (value / 10) (by omega)]
      omega

/-- A number that starts with a zero has no further digit. -/
theorem length_digits_of_head? {value : Nat} (zero : (digits value).head? = some '0') :
    (digits value).length = 1 := by
  -- It is shown of a number that is not zero that it starts with another digit.
  have positive : ∀ value, value ≠ 0 → (digits value).head? ≠ some '0' := by
    intro value
    induction value using Nat.strongRecOn with
    | _ value ih =>
      intro nonzero
      rcases Nat.lt_or_ge value 10 with small | large
      · -- There are only nine such digits.
        have all : ∀ d < 10, d ≠ 0 → [digitChar d].head? ≠ some '0' := by decide
        rw [digits_of_lt small]
        exact all value small nonzero
      · -- The first digit is that of the quotient, which is not zero either.
        have front := ih (value / 10) (by omega) (by omega)
        rw [digits_of_le large]
        cases written : digits (value / 10) with
        | nil => exact absurd written (digits_ne_nil _)
        | cons c cs =>
          rw [written] at front
          exact front
  -- Zero itself is a single digit, and no other number starts like it.
  rcases Nat.eq_zero_or_pos value with rfl | nonzero
  · rfl
  · exact absurd zero (positive value (Nat.ne_of_gt nonzero))

/-- All digits of a number are split off where the number cannot go on. -/
theorem splitDigits_digits (value : Nat) {limit : Nat} (fits : (digits value).length ≤ limit)
    {rest : List Char} (stop : NoDigitNext rest) :
    splitDigits limit (digits value ++ rest) = (digits value, rest) :=
  splitDigits_append_of_noDigitNext (fun _ => isDigit_of_mem_digits) fits stop

end CourseRegistry.Text
