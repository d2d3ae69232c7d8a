import CourseRegistry.Proofs.Text.Blank
import CourseRegistry.Proofs.Time.Instant
import CourseRegistry.Time.Weekday

/-!
Days read back from their form in messages, and so do times of day and instants of all years, as
clocks show them.
-/

namespace CourseRegistry

open Text

/-- A day reads back from its three letters. -/
theorem Weekday.ofText?_text (day : Weekday) : ofText? day.text = some day := by
  -- All seven days are tried.
  cases day <;> decide

namespace TimeOfDay

/-- Two digits read back as the number that they were written for. -/
theorem clockNumber?_fixedDigits {value : Nat} (fits : value < Nat.pow 10 2) (rest : List Char) :
    clockNumber? (fixedDigits 2 value ++ rest) = some (value, rest) := by
  have notEmpty : fixedDigits 2 value ≠ [] := List.ne_nil_of_length_pos (by simp)
  -- The digits are not blank, so that none of them is dropped.
  have kept := dropBlanks_digits notEmpty (fun _ => isDigit_of_mem_fixedDigits) rest
  rw [clockNumber?, kept, number?_fixedDigits (by decide) fits]

/-- A mark is found where it stands in front. -/
theorem afterMark?_cons {mark : Char} (visible : isBlank mark = false) (cs : List Char) :
    afterMark? mark (mark :: cs) = some cs := by
  -- A mark that is not blank is still in front after the blanks are dropped.
  rw [afterMark?, dropBlanks_cons visible]
  exact if_pos rfl

/-- The shown second and its fraction read back. -/
theorem secondPart?_shown (time : TimeOfDay) {rest : List Char} (stop : NoDigitNext rest)
    (noPoint : rest.head? ≠ some '.') :
    secondPart? (':' :: (fixedDigits 2 time.shownSecond ++
      (fractionChars time.shownNano ++ rest))) =
        some (time.shownSecond, time.shownNano, rest) := by
  have fraction := fraction?_fractionChars time.shownNano_lt stop noPoint
  -- Sixty is the greatest number that is shown.
  have second_le : time.shownSecond ≤ 60 := by
    unfold shownSecond
    split <;> omega
  -- The mark, the two digits and the fraction are read, and the second is then in range.
  unfold secondPart?
  refine Option.bind_eq_some_iff.mpr ⟨_, afterMark?_cons (by decide) _, ?_⟩
  refine Option.bind_eq_some_iff.mpr ⟨_, clockNumber?_fixedDigits time.shownSecond_lt _, ?_⟩
  refine Option.bind_eq_some_iff.mpr ⟨_, fraction, ?_⟩
  exact if_pos second_le

/-- A time of day reads back from its written form as clocks show it, also in a leap second. -/
theorem ofText?_text (time : TimeOfDay) : ofText? time.text = some time.shown := by
  have noPoint : ([] : List Char).head? ≠ some '.' := by decide
  have second := secondPart?_shown time noDigitNext_nil noPoint
  rw [List.append_nil] at second
  -- The fields are read from the front, with a mark between one and the next.
  rw [ofText?, text, String.toList_ofList, chars_eq]
  refine Option.bind_eq_some_iff.mpr ⟨_, clockNumber?_fixedDigits time.hour_lt _, ?_⟩
  refine Option.bind_eq_some_iff.mpr ⟨_, afterMark?_cons (by decide) _, ?_⟩
  refine Option.bind_eq_some_iff.mpr ⟨_, clockNumber?_fixedDigits time.minute_lt _, ?_⟩
  -- The second is there, and nothing is left behind it.
  simp only [second, Option.getD_some]
  exact ofClock?_shown time

end TimeOfDay

namespace Instant

/-- Behind a sign all digits of a year are taken, and a hyphen ends them. -/
theorem number?_year {front : List Char} (some_ : front ≠ [])
    (digits : ∀ c ∈ front, isDigit c = true) (rest : List Char) :
    number? (front ++ '-' :: rest).length (front ++ '-' :: rest) =
      some (valueOf front, '-' :: rest) := by
  -- The digits are fewer than the limit, which is all that there is to read.
  have fits : front.length ≤ (front ++ '-' :: rest).length := by simp
  have stop : NoDigitNext ('-' :: rest) := noDigitNext_cons rfl rest
  exact number?_of_splitDigits (splitDigits_append_of_noDigitNext digits fits stop) some_

/-- Without a sign at most four digits are taken. -/
theorem year?_digits {front : List Char} (some_ : front ≠ [])
    (digits : ∀ c ∈ front, isDigit c = true) (rest : List Char) :
    year? (front ++ rest) =
      (number? 4 (front ++ rest)).map fun (year, rest) => ((year : Int), rest) := by
  rw [year?, dropBlanks_digits some_ digits]
  cases front with
  | nil => exact absurd rfl some_
  | cons c front =>
    -- No digit is a sign.
    have digit := digits c (by simp)
    have notMinus : c ≠ '-' := by rintro rfl; cases digit
    have notPlus : c ≠ '+' := by rintro rfl; cases digit
    simp only [List.cons_append]
    split
    · next same => exact absurd (List.cons.inj same).1 notMinus
    · next same => exact absurd (List.cons.inj same).1 notPlus
    · rfl

/-- A year reads back, with a sign where it has one, and however many digits it has. -/
theorem year?_yearChars (year : Int) (rest : List Char) :
    year? (yearChars year ++ '-' :: rest) = some (year, '-' :: rest) := by
  -- Either width has some digits, and nothing but digits.
  have fourNotEmpty : fixedDigits 4 year.natAbs ≠ [] := List.ne_nil_of_length_pos (by simp)
  have four_isDigit : ∀ c ∈ fixedDigits 4 year.natAbs, isDigit c = true :=
    fun _ => isDigit_of_mem_fixedDigits
  have all_isDigit : ∀ c ∈ digits year.natAbs, isDigit c = true := fun _ => isDigit_of_mem_digits
  unfold yearChars
  -- A year is negative or not, and has at most four digits or more.
  split
  · next negative =>
    -- The minus is read first, and the digits are those of the opposite year.
    have number (front : List Char) (read : number? (front ++ '-' :: rest).length
        (front ++ '-' :: rest) = some (year.natAbs, '-' :: rest)) :
        year? ('-' :: (front ++ '-' :: rest)) = some (year, '-' :: rest) := by
      have opposite : -(year.natAbs : Int) = year := by omega
      rw [year?, dropBlanks_cons (by decide)]
      simp only [read, Option.map_some, opposite]
    refine number _ ?_
    split
    · next small =>
      -- Four digits are enough, and all of them are read.
      rw [number?_year fourNotEmpty four_isDigit, valueOf_fixedDigits, Nat.mod_eq_of_lt small]
    · -- All digits there are were written.
      rw [number?_year (digits_ne_nil _) all_isDigit, valueOf_digits]
  · next nonnegative =>
    -- The number of a year that is not negative is the year.
    have same : (year.natAbs : Int) = year := by omega
    split
    · next small =>
      -- Without a sign, four digits are written and at most four are read.
      rw [year?_digits fourNotEmpty four_isDigit, number?_fixedDigits (by decide) small]
      simp only [Option.map_some, same]
    · -- A later year has a plus in front, behind which all digits are read.
      rw [List.cons_append, year?, dropBlanks_cons (by decide)]
      simp only [number?_year (digits_ne_nil _) all_isDigit, valueOf_digits, Option.map_some, same]

/-- The letter for universal time reads back, and nothing is left behind it. -/
theorem lenientZone?_mark : lenientZone? ['Z'] = some (0, []) := by
  -- A letter is all that there is to read.
  decide

/-- An instant of any year reads back from its form in messages, as clocks show it. -/
theorem ofText?_text (instant : Instant) : ofText? instant.text = some instant.shown := by
  obtain ⟨date, time⟩ := instant
  -- The date is one that there is.
  have known : Date.of? date.year date.month date.day = some date := dif_pos date.isDate
  have noPoint : ['Z'].head? ≠ some '.' := by decide
  have second := TimeOfDay.secondPart?_shown time (noDigitNext_cons rfl []) noPoint
  rw [ofText?, text, String.toList_ofList, charsWith_eq]
  -- Each field takes exactly its own digits, and each mark is where it is looked for.
  refine Option.bind_eq_some_iff.mpr ⟨_, year?_yearChars _ _, ?_⟩
  refine Option.bind_eq_some_iff.mpr ⟨_, TimeOfDay.afterMark?_cons (by decide) _, ?_⟩
  refine Option.bind_eq_some_iff.mpr ⟨_, TimeOfDay.clockNumber?_fixedDigits date.month_lt _, ?_⟩
  refine Option.bind_eq_some_iff.mpr ⟨_, TimeOfDay.afterMark?_cons (by decide) _, ?_⟩
  refine Option.bind_eq_some_iff.mpr ⟨_, TimeOfDay.clockNumber?_fixedDigits date.day_lt _, ?_⟩
  refine Option.bind_eq_some_iff.mpr ⟨_, afterDate?_cons _, ?_⟩
  refine Option.bind_eq_some_iff.mpr ⟨_, TimeOfDay.clockNumber?_fixedDigits time.hour_lt _, ?_⟩
  refine Option.bind_eq_some_iff.mpr ⟨_, TimeOfDay.afterMark?_cons (by decide) _, ?_⟩
  refine Option.bind_eq_some_iff.mpr ⟨_, TimeOfDay.clockNumber?_fixedDigits time.minute_lt _, ?_⟩
  refine Option.bind_eq_some_iff.mpr ⟨_, second, ?_⟩
  refine Option.bind_eq_some_iff.mpr ⟨_, lenientZone?_mark, ?_⟩
  refine Option.bind_eq_some_iff.mpr ⟨_, known, ?_⟩
  refine Option.bind_eq_some_iff.mpr ⟨_, TimeOfDay.ofClock?_shown time, ?_⟩
  exact ofLocal?_zero _ time.shown

end Instant

end CourseRegistry
