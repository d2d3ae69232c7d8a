import CourseRegistry.Proofs.Text.Octets
import CourseRegistry.Proofs.Time.Instant

/-!
Instants that clocks read in the years 0 to 9999 stand in the order of the texts in which they are
stored.
-/

namespace CourseRegistry

open Text

namespace TimeOfDay

/-- A fraction is the number that its digits denote out of nine places, which some are left off. -/
theorem exists_fractionChars {nano : Nat} (some_ : nano ≠ 0) (proper : nano < billion) :
    ∃ width value, width ≤ 9 ∧ value < Nat.pow 10 width ∧
      value * Nat.pow 10 (9 - width) = nano ∧
        fractionChars nano = '.' :: fixedDigits width value := by
  unfold billion at proper
  unfold fractionChars
  rw [if_neg some_]
  -- Of the three widths the first one in which nothing is lost is taken.
  split
  · exact ⟨3, nano / 1000000, by decide, show _ < 1000 by omega,
      show nano / 1000000 * 1000000 = nano by omega, rfl⟩
  · split
    · exact ⟨6, nano / 1000, by decide, show _ < 1000000 by omega,
        show nano / 1000 * 1000 = nano by omega, rfl⟩
    · exact ⟨9, nano, by decide, proper, Nat.mul_one nano, rfl⟩

/-- A fraction that is compared in more places is scaled up by the places that are added. -/
theorem scale_add {width rest : Nat} (fits : width + rest ≤ 9) (value : Nat) :
    value * Nat.pow 10 (9 - width) =
      value * Nat.pow 10 rest * Nat.pow 10 (9 - (width + rest)) := by
  -- The places that are added are taken from those that were left.
  have places : 9 - width = rest + (9 - (width + rest)) := by omega
  have powers : Nat.pow 10 (rest + (9 - (width + rest))) =
      Nat.pow 10 rest * Nat.pow 10 (9 - (width + rest)) := Nat.pow_add 10 _ _
  rw [places, powers, Nat.mul_assoc]

/--
Digits behind a point stand in the order of the fractions that they denote, in however many places.
Where one row of digits is the start of the other, it ends in a sign that comes before all digits.
-/
theorem fixedDigits_lt_of_scaled {width value width' value' : Nat} (width_le : width ≤ 9)
    (width'_le : width' ≤ 9) (fits : value' < Nat.pow 10 width')
    (less : value * Nat.pow 10 (9 - width) < value' * Nat.pow 10 (9 - width'))
    (front back : List Char) :
    fixedDigits width value ++ '+' :: front < fixedDigits width' value' ++ '+' :: back := by
  have positive (places : Nat) : 0 < Nat.pow 10 places := Nat.pow_pos (by decide)
  -- The longer row is cut where the shorter one ends.
  rcases Nat.le_total width width' with fewer | more
  -- Scaled up to the longer width, the shorter row is no more than the digits of the other one
  -- there.
  · obtain ⟨rest, rfl⟩ := Nat.exists_eq_add_of_le fewer
    rw [scale_add width'_le] at less
    have shifted : value * Nat.pow 10 rest < value' := Nat.lt_of_mul_lt_mul_right less
    have whole : value ≤ value' / Nat.pow 10 rest :=
      (Nat.le_div_iff_mul_le (positive rest)).mpr (Nat.le_of_lt shifted)
    have first_fits : value' / Nat.pow 10 rest < Nat.pow 10 width := by
      rw [Nat.div_lt_iff_lt_mul (positive rest)]
      exact Nat.lt_of_lt_of_eq fits (Nat.pow_add 10 width rest)
    rw [fixedDigits_add, List.append_assoc]
    refine fixedDigits_append_lt first_fits ?_
    rcases Nat.lt_or_eq_of_le whole with first | same
    · -- The digits differ before the cut.
      exact .inl first
    · refine .inr ⟨same, ?_⟩
      rcases Nat.eq_zero_or_pos rest with rfl | longer
      · -- Equal numbers in equally many places are not one before the other.
        rw [same] at shifted
        exact absurd shifted (by simp)
      · -- The other row goes on, and the sign stands before any digit.
        exact cons_lt_fixedDigits longer value' (by decide) front _
  -- Here it is the smaller fraction that is cut, and what is cut off cannot make up for the rest.
  · obtain ⟨rest, rfl⟩ := Nat.exists_eq_add_of_le more
    rw [scale_add width_le] at less
    have shifted : value < value' * Nat.pow 10 rest := Nat.lt_of_mul_lt_mul_right less
    have first : value / Nat.pow 10 rest < value' := by
      rw [Nat.div_lt_iff_lt_mul (positive rest)]
      exact shifted
    rw [fixedDigits_add, List.append_assoc]
    exact fixedDigits_append_lt fits (.inl first)

/-- A smaller fraction is written before a greater one, also where there is none. -/
theorem fractionChars_append_lt {nano other : Nat} (less : nano < other) (proper : other < billion)
    (front back : List Char) :
    fractionChars nano ++ '+' :: front < fractionChars other ++ '+' :: back := by
  obtain ⟨width', value', width'_le, fits', scaled', written'⟩ :=
    exists_fractionChars (Nat.ne_zero_of_lt less) proper
  rw [written']
  by_cases zero : nano = 0
  · -- Without a fraction, the sign stands where the other has its point.
    rw [zero, fractionChars, if_pos rfl, List.nil_append, List.cons_append, List.cons_lt_cons_iff]
    exact .inl (by decide)
  · obtain ⟨width, value, width_le, fits, scaled, written⟩ :=
      exists_fractionChars zero (Nat.lt_trans less proper)
    -- Both have a point, so that the digits behind it decide.
    rw [written, List.cons_append, List.cons_append, List.cons_lt_cons_self]
    refine fixedDigits_lt_of_scaled width_le width'_le fits' ?_ _ _
    rwa [scaled, scaled']

/-- Of two times that clocks show the earlier one is shown as such, field by field. -/
theorem shown_lt_of_lt {a b : TimeOfDay} (a_onClock : a.IsOnClock) (b_onClock : b.IsOnClock)
    (before : a < b) :
    a.hour < b.hour ∨ a.hour = b.hour ∧ (a.minute < b.minute ∨ a.minute = b.minute ∧
      (a.shownSecond < b.shownSecond ∨ a.shownSecond = b.shownSecond ∧
        a.shownNano < b.shownNano)) := by
  obtain ⟨a, a_nano, a_lt, a_nano_lt⟩ := a
  obtain ⟨b, b_nano, b_lt, b_nano_lt⟩ := b
  have rank : a * (2 * billion) + a_nano < b * (2 * billion) + b_nano := before
  simp only [hour, minute, shownSecond, shownNano]
  simp only [IsOnClock] at a_onClock b_onClock
  unfold billion at *
  -- A leap second is shown with the number after its own, which still comes before the next minute.
  split <;> split <;> omega

/-- Of two times of day one is earlier, if they differ. -/
theorem lt_trichotomy (a b : TimeOfDay) : a < b ∨ a = b ∨ b < a := by
  obtain ⟨a, a_nano, a_lt, a_nano_lt⟩ := a
  obtain ⟨b, b_nano, b_lt, b_nano_lt⟩ := b
  -- Times are compared by a single number, and equal numbers are equal times.
  change _ * (2 * billion) + _ < _ * (2 * billion) + _ ∨ _ ∨
    _ * (2 * billion) + _ < _ * (2 * billion) + _
  simp only [TimeOfDay.mk.injEq]
  unfold billion at *
  omega

end TimeOfDay

namespace Date

/-- Dates stand in the order of their years, then of their months, and then of their days. -/
instance : LT Date := ⟨fun a b => a.year < b.year ∨ a.year = b.year ∧
  (a.month < b.month ∨ a.month = b.month ∧ a.day < b.day)⟩

/-- Of two dates one is earlier, if they differ. -/
theorem lt_trichotomy (a b : Date) : a < b ∨ a = b ∨ b < a := by
  obtain ⟨a_year, a_month, a_day, _⟩ := a
  obtain ⟨b_year, b_month, b_day, _⟩ := b
  change (a_year < b_year ∨ a_year = b_year ∧
      (a_month < b_month ∨ a_month = b_month ∧ a_day < b_day)) ∨ _ ∨
    (b_year < a_year ∨ b_year = a_year ∧
      (b_month < a_month ∨ b_month = a_month ∧ b_day < a_day))
  -- Three numbers are compared one after the other.
  simp only [Date.mk.injEq]
  omega

end Date

namespace Instant

/-- Instants stand in the order of their dates, and those of one day in that of their times. -/
instance : LT Instant := ⟨fun a b => a.date < b.date ∨ a.date = b.date ∧ a.time < b.time⟩

/-- Of two instants one is earlier, if they differ. -/
theorem lt_trichotomy (a b : Instant) : a < b ∨ a = b ∨ b < a := by
  obtain ⟨a_date, a_time⟩ := a
  obtain ⟨b_date, b_time⟩ := b
  -- The dates decide unless they are the same, and then the times do.
  rcases Date.lt_trichotomy a_date b_date with before | rfl | after
  · exact .inl (.inl before)
  · rcases TimeOfDay.lt_trichotomy a_time b_time with before | rfl | after
    · exact .inl (.inr ⟨rfl, before⟩)
    · exact .inr (.inl rfl)
    · exact .inr (.inr (.inr ⟨rfl, after⟩))
  · exact .inr (.inr (.inl after))

/-- A year of four digits is written without a sign. -/
theorem yearChars_eq {instant : Instant} (plain : instant.InFourDigitYear) :
    yearChars instant.date.year = fixedDigits 4 instant.date.year.natAbs := by
  obtain ⟨lower, upper⟩ := plain
  -- Such a year is neither negative nor too large for four digits.
  rw [yearChars, if_neg (by omega), if_pos (by omega)]

/-- Of two instants that clocks read the earlier one is written before the other. -/
theorem chars_lt_of_lt {a b : Instant} (a_reading : a.IsReading) (b_reading : b.IsReading)
    (before : a < b) (rest : List Char) :
    a.charsWith ('+' :: rest) < b.charsWith ('+' :: rest) := by
  rw [charsWith_eq, charsWith_eq, yearChars_eq a_reading.inFourDigitYear,
    yearChars_eq b_reading.inFourDigitYear]
  obtain ⟨⟨a_lower, a_upper⟩, a_onClock⟩ := a_reading
  obtain ⟨⟨b_lower, b_upper⟩, b_onClock⟩ := b_reading
  -- The fields stand in the order of their weight, so that the first difference decides.
  refine fixedDigits_append_lt (show _ < 10000 by omega) ?_
  rw [List.cons_lt_cons_self]
  rcases before with (year_lt | ⟨year_eq, month⟩) | ⟨date_eq, time⟩
  · -- The years differ.
    exact .inl (by omega)
  -- In one year the months are compared, and in one month the days.
  · refine .inr ⟨by rw [year_eq], fixedDigits_append_lt b.date.month_lt ?_⟩
    rcases month with month_lt | ⟨month_eq, day_lt⟩
    · exact .inl month_lt
    · refine .inr ⟨month_eq, ?_⟩
      rw [List.cons_lt_cons_self]
      exact fixedDigits_append_lt b.date.day_lt (.inl day_lt)
  -- On one day the fields of the time are compared, and at last the fractions.
  · rw [date_eq]
    refine .inr ⟨rfl, ?_⟩
    rw [append_lt_append_left, List.cons_lt_cons_self, append_lt_append_left,
      List.cons_lt_cons_self]
    refine fixedDigits_append_lt b.time.hour_lt ?_
    rw [List.cons_lt_cons_self]
    refine (TimeOfDay.shown_lt_of_lt a_onClock b_onClock time).imp_right
      fun ⟨hour_eq, later⟩ => ⟨hour_eq, ?_⟩
    refine fixedDigits_append_lt b.time.minute_lt ?_
    rw [List.cons_lt_cons_self]
    refine later.imp_right fun ⟨minute_eq, later⟩ => ⟨minute_eq, ?_⟩
    refine fixedDigits_append_lt b.time.shownSecond_lt ?_
    refine later.imp_right fun ⟨second_eq, nano_lt⟩ => ⟨second_eq, ?_⟩
    exact TimeOfDay.fractionChars_append_lt nano_lt b.time.shownNano_lt _ _

/-- So it is in storage. -/
theorem stored_lt_of_lt {a b : Instant} (a_reading : a.IsReading) (b_reading : b.IsReading)
    (before : a < b) : a.stored < b.stored := by
  rw [String.lt_iff]
  -- The difference to universal time is written behind both of them.
  simp only [stored, String.toList_ofList]
  exact chars_lt_of_lt a_reading b_reading before _

/-- The texts of instants that clocks read stand in the order of time, octet by octet. -/
theorem octets_stored_lt {a b : Instant} (a_reading : a.IsReading) (b_reading : b.IsReading) :
    Text.octets a.stored < Text.octets b.stored ↔ a < b := by
  -- Only one of three things can be the case of any two instants.
  rw [Text.octets_lt]
  exact written_lt_iff (lt_trichotomy a b) (stored_lt_of_lt a_reading b_reading)
    (stored_lt_of_lt b_reading a_reading)

end Instant

end CourseRegistry
