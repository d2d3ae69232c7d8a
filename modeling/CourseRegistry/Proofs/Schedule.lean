import CourseRegistry.Schedule

/-! When meetings clash, and what the search for a first clash finds. -/

namespace CourseRegistry

/-- Two stretches overlap when each starts before the other ends. -/
theorem TimeRange.overlaps_iff {a b : TimeRange} :
    a.overlaps b = true ↔ a.start < b.finish ∧ b.start < a.finish := by
  -- A stretch that starts when the other ends does not overlap it.
  simp [overlaps]

/-- Two meetings clash when they overlap on the same day. -/
theorem MeetingSlot.clashesWith_iff {a b : MeetingSlot} :
    a.clashesWith b = true ↔
      a.day = b.day ∧ a.time.start < b.time.finish ∧ b.time.start < a.time.finish := by
  -- The day is compared first, and then the stretches.
  rw [clashesWith, Bool.and_eq_true, beq_iff_eq, TimeRange.overlaps_iff]

/-- Which of two meetings comes first does not matter. -/
theorem MeetingSlot.clashesWith_comm (a b : MeetingSlot) :
    a.clashesWith b = b.clashesWith a := by
  rw [Bool.eq_iff_iff, clashesWith_iff, clashesWith_iff]
  -- The day is the same, and each still starts before the other ends.
  constructor
  · rintro ⟨day, front, back⟩
    exact ⟨day.symm, back, front⟩
  · rintro ⟨day, front, back⟩
    exact ⟨day.symm, back, front⟩

/-- No clash is found when no meeting that is held clashes with one that is wanted. -/
theorem firstClash?_eq_none {held wanted : List MeetingSlot} :
    firstClash? held wanted = none ↔
      ∀ slot ∈ held, ∀ other ∈ wanted, other.clashesWith slot = false := by
  -- The search is through what is held, for one that any wanted meeting clashes with.
  simp [firstClash?, List.find?_eq_none]

/-- A clash that is found is one: a meeting that is held and one that is wanted. -/
theorem exists_of_firstClash? {held wanted : List MeetingSlot} {slot : MeetingSlot}
    (found : firstClash? held wanted = some slot) :
    slot ∈ held ∧ ∃ other ∈ wanted, other.clashesWith slot = true := by
  -- The search goes through what is held and looks at all that is wanted each time.
  have clashes : wanted.any (·.clashesWith slot) = true := by simpa using List.find?_some found
  exact ⟨List.mem_of_find?_eq_some found, List.any_eq_true.mp clashes⟩

end CourseRegistry
