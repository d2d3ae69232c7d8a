import CourseRegistry.Proofs.Text.Digits
import CourseRegistry.Time.Instant

/-!
Instants of the years 0 to 9999 read back from the form in which they are stored, as clocks show
them: a second that runs on inside of a minute is read as the second behind it.
-/

namespace CourseRegistry

open Text

namespace TimeOfDay

/-- Digits behind a point are the fraction that they denote out of nine places. -/
theorem fraction?_digits {front : List Char} (some_ : front ≠ [])
    (digits : ∀ c ∈ front, isDigit c = true) (fits : front.length ≤ 9) {rest : List Char}
    (stop : NoDigitNext rest) :
    fraction? ('.' :: (front ++ rest)) =
      some (valueOf front * Nat.pow 10 (9 - front.length), rest) := by
  -- What follows is no digit, and so nothing is left out of it.
  have kept : rest.dropWhile isDigit = rest := by
    cases rest with
    | nil => rfl
    | cons c rest => exact List.dropWhile_cons_of_neg (by simp [stop c rfl])
  cases front with
  -- A point with nothing behind it is not a fraction.
  | nil => exact absurd rfl some_
  | cons d front =>
    simp only [fraction?, splitDigits_append_of_noDigitNext digits fits stop, kept]

/-- A fraction of a second reads back, in however few digits it was written. -/
theorem fraction?_fractionChars {nano : Nat} (proper : nano < billion) {rest : List Char}
    (stop : NoDigitNext rest) (noPoint : rest.head? ≠ some '.') :
    fraction? (fractionChars nano ++ rest) = some (nano, rest) := by
  -- In each of the three widths the digits denote the fraction scaled down by the other places.
  have scaled (width value : Nat) (some_ : 0 < width) (width_le : width ≤ 9)
      (fits : value < Nat.pow 10 width) :
      fraction? ('.' :: fixedDigits width value ++ rest) =
        some (value * Nat.pow 10 (9 - width), rest) := by
    have digits : ∀ d ∈ fixedDigits width value, isDigit d = true :=
      fun _ => isDigit_of_mem_fixedDigits
    have read := fraction?_digits (List.ne_nil_of_length_pos (by simpa using some_)) digits
      (by simpa using width_le) stop
    rwa [fixedDigits_length, valueOf_fixedDigits, Nat.mod_eq_of_lt fits] at read
  unfold billion at proper
  unfold fractionChars
  -- The fewest places in which the fraction is exact are taken.
  split
  · -- No fraction was written, and what follows is not taken for one.
    -- The fraction is zero.
    next zero =>
    rw [zero, List.nil_append, fraction?]
    intro cs same
    exact noPoint (congrArg List.head? same)
  · split
    · -- Three digits leave six places off.
      rw [scaled 3 _ (by decide) (by decide) (show _ < 1000 by omega)]
      simp only [Option.some.injEq, Prod.mk.injEq, and_true]
      show nano / 1000000 * 1000000 = nano
      omega
    · split
      · -- Six digits leave three places off.
        rw [scaled 6 _ (by decide) (by decide) (show _ < 1000000 by omega)]
        simp only [Option.some.injEq, Prod.mk.injEq, and_true]
        show nano / 1000 * 1000 = nano
        omega
      · -- Nine digits are the fraction itself.
        rw [scaled 9 _ (by decide) (by decide) (show _ < 1000000000 by omega)]
        simp only [Option.some.injEq, Prod.mk.injEq, and_true]
        exact Nat.mul_one nano

/-- The second that a clock shows; a leap second is shown as the sixtieth. -/
def shownSecond (time : TimeOfDay) : Nat :=
  if time.nano < billion then time.second % 60 else time.second % 60 + 1

/-- The part of the shown second that has passed. -/
def shownNano (time : TimeOfDay) : Nat :=
  if time.nano < billion then time.nano else time.nano - billion

/-- The written form shows the second and what has passed of it. -/
theorem chars_eq (time : TimeOfDay) :
    time.chars = fixedDigits 2 time.hour ++ ':' :: (fixedDigits 2 time.minute ++
      ':' :: (fixedDigits 2 time.shownSecond ++ fractionChars time.shownNano)) := by
  -- A leap second is the only one that is shown with the number after its own.
  unfold chars clockChars shownSecond shownNano
  by_cases plain : time.nano < billion <;> simp [plain]

/-- No more than a whole second of the shown second has passed. -/
theorem shownNano_lt (time : TimeOfDay) : time.shownNano < billion := by
  have := time.nano_lt
  -- A leap second has not passed twice, and what is shown of it is less than it.
  unfold shownNano
  split <;> omega

/-- The hour fits into its two digits. -/
theorem hour_lt (time : TimeOfDay) : time.hour < Nat.pow 10 2 := by
  have := time.second_lt
  -- A day has fewer than a hundred hours.
  change time.second / 3600 < 100
  omega

/-- So does the minute. -/
theorem minute_lt (time : TimeOfDay) : time.minute < Nat.pow 10 2 := by
  -- The remainder by sixty is less than sixty.
  change time.second / 60 % 60 < 100
  omega

/-- So does the second, even where it is shown as the sixtieth. -/
theorem shownSecond_lt (time : TimeOfDay) : time.shownSecond < Nat.pow 10 2 := by
  change time.shownSecond < 100
  unfold shownSecond
  -- The least and the greatest number that can be shown are one apart from sixty.
  split <;> omega

/-- A clock shows leap seconds only at the end of a minute. -/
def IsOnClock (time : TimeOfDay) : Prop :=
  billion ≤ time.nano → time.second % 60 = 59

/-- Whether it is can be seen from the two numbers. -/
instance (time : TimeOfDay) : Decidable time.IsOnClock :=
  inferInstanceAs (Decidable (_ → _))

/-- What a clock shows for a time: where a second runs on inside of a minute, the next second. -/
def shown (time : TimeOfDay) : TimeOfDay :=
  if inside : billion ≤ time.nano ∧ time.second % 60 ≠ 59 then
    { second := time.second + 1
      nano := time.nano - billion
      -- The last second of the day is the last one of a minute as well.
      second_lt := by
        have := time.second_lt
        omega
      nano_lt := Nat.lt_of_le_of_lt (Nat.sub_le _ _) time.nano_lt }
  else time

/-- A time is shown as itself exactly if clocks show such a time. -/
theorem shown_eq_iff {time : TimeOfDay} : time.shown = time ↔ time.IsOnClock := by
  unfold shown IsOnClock
  split
  · next inside =>
    -- The next second is another one.
    refine iff_of_false (fun same => ?_) fun onClock => inside.2 (onClock inside.1)
    have := congrArg second same
    simp at this
  · next outside =>
    exact iff_of_true rfl fun leap => Decidable.not_not.mp fun inside => outside ⟨leap, inside⟩

/-- What is shown is a time that clocks show. -/
theorem isOnClock_shown (time : TimeOfDay) : time.shown.IsOnClock := by
  have := time.nano_lt
  unfold shown IsOnClock
  split
  -- What is left of the second that ran on is less than a second.
  · intro leap
    simp only at leap
    omega
  · next outside => exact fun leap => Decidable.not_not.mp fun inside => outside ⟨leap, inside⟩

/-- What a clock shows determines the time that it shows. -/
theorem ofClock?_shown (time : TimeOfDay) :
    ofClock? time.hour time.minute time.shownSecond time.shownNano = some time.shown := by
  obtain ⟨second, nano, second_lt, nano_lt⟩ := time
  simp only [ofClock?, hour, minute, shownSecond, shownNano, shown]
  by_cases plain : nano < billion
  -- A second that is not over does not run on.
  · have outside : ¬ (billion ≤ nano ∧ second % 60 ≠ 59) := fun inside => by omega
    simp only [if_pos plain]
    rw [dif_pos ⟨by omega, by omega, by omega, plain⟩, dif_neg outside]
    simp only [Option.some.injEq, TimeOfDay.mk.injEq, and_true]
    omega
  -- The second runs on, at the end of a minute or inside of it.
  · simp only [if_neg plain]
    by_cases last : second % 60 = 59
    -- Only at the end of a minute the shown second is a sixtieth.
    · rw [dif_neg (by omega), dif_pos ⟨by omega, by omega, by omega, by omega⟩,
        dif_neg fun inside => inside.2 last]
      simp only [Option.some.injEq, TimeOfDay.mk.injEq]
      omega
    · -- The next second is in the same minute, and is shown as such.
      rw [dif_pos ⟨by omega, by omega, by omega, by omega⟩, dif_pos ⟨Nat.le_of_not_lt plain, last⟩]
      simp only [Option.some.injEq, TimeOfDay.mk.injEq, and_true]
      omega

/-- A time is written as clocks show it. -/
theorem chars_shown (time : TimeOfDay) : time.shown.chars = time.chars := by
  unfold shown
  split
  · next inside =>
    obtain ⟨leap, middle⟩ := inside
    have nano_lt := time.nano_lt
    -- The fields of the next second are those that the written form shows anyway.
    simp only [chars_eq, hour, minute, shownSecond, shownNano,
      if_pos (show time.nano - billion < billion by omega), if_neg (Nat.not_lt.mpr leap),
      show (time.second + 1) / 3600 = time.second / 3600 by omega,
      show (time.second + 1) / 60 = time.second / 60 by omega,
      show (time.second + 1) % 60 = time.second % 60 + 1 by omega]
  -- Any other time is shown as it is.
  · rfl

/-- Whole seconds compare like their numbers. -/
theorem lt_iff_second_lt {a b : TimeOfDay} (a_whole : a.nano = 0) (b_whole : b.nano = 0) :
    a < b ↔ a.second < b.second := by
  change a.rank < b.rank ↔ _
  -- The number by which times are compared is then that of the second, scaled up.
  rw [rank, rank, a_whole, b_whole, Nat.add_zero, Nat.add_zero]
  exact Nat.mul_lt_mul_right (by decide)

end TimeOfDay

namespace Date

/-- The month fits into its two digits. -/
theorem month_lt (date : Date) : date.month < Nat.pow 10 2 := by
  -- There are twelve months.
  obtain ⟨_, _, _, month_le, _, _⟩ := date.isDate
  exact Nat.lt_of_le_of_lt month_le (by decide)

/-- So does the day, whichever month it is in. -/
theorem day_lt (date : Date) : date.day < Nat.pow 10 2 := by
  obtain ⟨_, _, _, _, _, day_le⟩ := date.isDate
  -- A month has at most 31 days.
  change date.day < 100
  unfold daysInMonth at day_le
  repeat' split at day_le
  all_goals omega

end Date

namespace Instant

/-- The year of an instant is written in four digits and without a sign. -/
def InFourDigitYear (instant : Instant) : Prop :=
  0 ≤ instant.date.year ∧ instant.date.year ≤ 9999

/-- Whether it is can be seen from the year. -/
instance (instant : Instant) : Decidable instant.InFourDigitYear :=
  inferInstanceAs (Decidable (_ ∧ _))

/-- A clock may show an instant, leap seconds only at the end of a minute. -/
def IsOnClock (instant : Instant) : Prop := instant.time.IsOnClock

/-- What a clock shows for an instant. -/
def shown (instant : Instant) : Instant := { instant with time := instant.time.shown }

/-- A clock of these ages reads an instant: in a four-digit year, and one that clocks show. -/
structure IsReading (instant : Instant) : Prop where
  inFourDigitYear : instant.InFourDigitYear
  onClock : instant.IsOnClock

/-- Whether it may can be seen from the year and the time of day. -/
instance (instant : Instant) : Decidable instant.IsReading :=
  decidable_of_iff (instant.InFourDigitYear ∧ instant.time.IsOnClock)
    ⟨fun both => ⟨both.1, both.2⟩, fun reading => ⟨reading.1, reading.2⟩⟩

/-- An instant is shown as itself exactly if clocks show such an instant. -/
theorem shown_eq_iff {instant : Instant} : instant.shown = instant ↔ instant.IsOnClock := by
  -- The date is shown as it is.
  rw [IsOnClock, ← TimeOfDay.shown_eq_iff, shown, Instant.mk.injEq]
  exact and_iff_right rfl

/-- What is shown for an instant of a four-digit year is read off a clock. -/
theorem InFourDigitYear.shown {instant : Instant} (plain : instant.InFourDigitYear) :
    instant.shown.IsReading :=
  -- The day, and so the year, is the same.
  ⟨plain, instant.time.isOnClock_shown⟩

/-- An instant is stored as clocks show it. -/
theorem stored_shown (instant : Instant) : instant.shown.stored = instant.stored := by
  rw [stored, stored, charsWith, charsWith, shown, TimeOfDay.chars_shown]

/-- At a place that is not ahead of universal time, the local instant is the instant itself. -/
theorem ofLocal?_zero (date : Date) (time : TimeOfDay) :
    ofLocal? date time 0 = some ⟨date, time⟩ := by
  -- No second is moved into another day.
  have := time.second_lt
  simp only [ofLocal?]
  -- The day does not change either, since no second is moved.
  rw [dif_pos (by omega)]
  simp

/-- A mark is found where it stands in front. -/
theorem after?_cons (mark : Char) (cs : List Char) : after? mark (mark :: cs) = some cs :=
  if_pos rfl

/-- The letter between a date and a time is found where it stands in front. -/
theorem afterDate?_cons (cs : List Char) : afterDate? ('T' :: cs) = some cs := rfl

/-- The written form has the fields one after the other, with a mark between one and the next. -/
theorem charsWith_eq (zone : List Char) (instant : Instant) :
    instant.charsWith zone = yearChars instant.date.year ++ '-' ::
      (fixedDigits 2 instant.date.month ++ '-' :: (fixedDigits 2 instant.date.day ++ 'T' ::
        (fixedDigits 2 instant.time.hour ++ ':' :: (fixedDigits 2 instant.time.minute ++ ':' ::
          (fixedDigits 2 instant.time.shownSecond ++
            (TimeOfDay.fractionChars instant.time.shownNano ++ zone)))))) := by
  simp only [charsWith, dateChars, TimeOfDay.chars_eq, List.append_assoc, List.cons_append]

/-- An instant of a four-digit year reads back from its stored form, as clocks show it. -/
theorem ofStored?_stored {instant : Instant} (plain : instant.InFourDigitYear) :
    ofStored? instant.stored = some instant.shown := by
  obtain ⟨⟨year, month, day, isDate⟩, time⟩ := instant
  obtain ⟨lower, upper⟩ : 0 ≤ year ∧ year ≤ 9999 := plain
  have year_lt : year.natAbs < Nat.pow 10 4 := show year.natAbs < 10000 by omega
  -- A year of four digits is written without a sign.
  have written : yearChars year = fixedDigits 4 year.natAbs := by
    rw [yearChars, if_neg (by omega), if_pos (by omega)]
  have date : Date.of? (year.natAbs : Int) month day = some ⟨year, month, day, isDate⟩ := by
    rw [Int.natAbs_of_nonneg lower, Date.of?, dif_pos isDate]
  have zone : zone? (after? ':') ['+', '0', '0', ':', '0', '0'] = some (0, []) := rfl
  have marks : "+00:00".toList = ['+', '0', '0', ':', '0', '0'] := rfl
  have month_lt : month < Nat.pow 10 2 := Date.month_lt ⟨year, month, day, isDate⟩
  have day_lt : day < Nat.pow 10 2 := Date.day_lt ⟨year, month, day, isDate⟩
  -- The fraction ends where the difference to universal time begins.
  have noPoint : ['+', '0', '0', ':', '0', '0'].head? ≠ some '.' := by decide
  have fraction :=
    TimeOfDay.fraction?_fractionChars time.shownNano_lt (noDigitNext_cons rfl _) noPoint
  rw [ofStored?, stored, String.toList_ofList, charsWith_eq, written, marks]
  -- Each field takes exactly its own digits, and each mark is where it is looked for.
  refine Option.bind_eq_some_iff.mpr ⟨_, fixedNumber?_fixedDigits year_lt _, ?_⟩
  refine Option.bind_eq_some_iff.mpr ⟨_, after?_cons _ _, ?_⟩
  refine Option.bind_eq_some_iff.mpr ⟨_, fixedNumber?_fixedDigits month_lt _, ?_⟩
  refine Option.bind_eq_some_iff.mpr ⟨_, after?_cons _ _, ?_⟩
  refine Option.bind_eq_some_iff.mpr ⟨_, fixedNumber?_fixedDigits day_lt _, ?_⟩
  refine Option.bind_eq_some_iff.mpr ⟨_, afterDate?_cons _, ?_⟩
  refine Option.bind_eq_some_iff.mpr ⟨_, fixedNumber?_fixedDigits time.hour_lt _, ?_⟩
  refine Option.bind_eq_some_iff.mpr ⟨_, after?_cons _ _, ?_⟩
  refine Option.bind_eq_some_iff.mpr ⟨_, fixedNumber?_fixedDigits time.minute_lt _, ?_⟩
  refine Option.bind_eq_some_iff.mpr ⟨_, after?_cons _ _, ?_⟩
  refine Option.bind_eq_some_iff.mpr ⟨_, fixedNumber?_fixedDigits time.shownSecond_lt _, ?_⟩
  refine Option.bind_eq_some_iff.mpr ⟨_, fraction, ?_⟩
  refine Option.bind_eq_some_iff.mpr ⟨_, zone, ?_⟩
  refine Option.bind_eq_some_iff.mpr ⟨_, date, ?_⟩
  refine Option.bind_eq_some_iff.mpr ⟨_, TimeOfDay.ofClock?_shown time, ?_⟩
  exact ofLocal?_zero _ time.shown

/-- What a clock reads, reads back from its stored form. -/
theorem IsReading.ofStored?_stored {instant : Instant} (reading : instant.IsReading) :
    ofStored? instant.stored = some instant := by
  -- The text reads back as what is shown, which is the instant.
  rw [Instant.ofStored?_stored reading.inFourDigitYear, shown_eq_iff.mpr reading.onClock]

/-- What clocks read is the same where it is stored alike. -/
theorem stored_injective {a b : Instant} (a_reading : a.IsReading) (b_reading : b.IsReading)
    (same : a.stored = b.stored) : a = b := by
  -- Both are what the one stored form reads as.
  have read : some a = some b := by
    rw [← a_reading.ofStored?_stored, same, b_reading.ofStored?_stored]
  exact Option.some.inj read

end Instant

end CourseRegistry
