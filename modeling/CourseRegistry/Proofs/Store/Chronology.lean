import CourseRegistry.Proofs.Store.Directory
import CourseRegistry.Proofs.Time.Order

/-! Seats are listed in the order in which they were taken, although they are sorted as texts. -/

namespace CourseRegistry

/--
A seat was taken before another one.
Of two seats that were taken at one instant the one with the lesser identifier comes first.
-/
def Enrollment.Before (a b : Enrollment) : Prop :=
  a.enrolledAt < b.enrolledAt ∨ a.enrolledAt = b.enrolledAt ∧ a.enrollmentId < b.enrollmentId

/-- Rows whose cells are in order are those of seats that are. -/
theorem Enrollment.before_of_precedes {a b : Enrollment} (a_reading : a.enrolledAt.IsReading)
    (b_reading : b.enrolledAt.IsReading)
    (sorted : (Cell.ofInstant a.enrolledAt).precedes (.ofInstant b.enrolledAt) = true ∨
      Cell.ofInstant a.enrolledAt = .ofInstant b.enrolledAt ∧
        (Cell.ofId a.enrollmentId).precedes (.ofId b.enrollmentId) = true) : a.Before b := by
  rcases sorted with earlier | ⟨same, lesser⟩
  · -- The texts are in order, and with them the instants.
    left
    rw [← Instant.octets_stored_lt a_reading b_reading, Text.octets_lt]
    exact Cell.precedes_text.mp earlier
  · -- Two instants that are stored as one text are one instant.
    exact .inr ⟨Instant.stored_injective a_reading b_reading (Cell.text.inj same),
      Cell.precedes_ofId.mp lesser⟩

namespace Database

variable {db : Database}

/-- All seats are listed in the order in which they were taken. -/
theorem Written.pairwise_before (written : db.Written Instant.IsReading)
    (unique : db.Unique) {seats : List Enrollment} (listed : db.listEnrollments = .ok seats) :
    seats.Pairwise Enrollment.Before := by
  -- The rows of the list are sorted by two cells, of which the second ones are all different.
  have read := mapM_of_readRows listed
  have sorted : (Cell.sortOn (fun row => [row.enrolledAt, row.enrollmentId])
      db.enrollments).Pairwise fun a b => a.enrolledAt.precedes b.enrolledAt = true ∨
        a.enrolledAt = b.enrolledAt ∧ a.enrollmentId.precedes b.enrollmentId = true :=
    Cell.pairwise_sortOn_two unique.enrollmentKeys
  rw [eq_map_of_mapM read fun row member seat decoded =>
    written.seat_of_decode (Cell.mem_sortOn.mp member) decoded, List.pairwise_map] at sorted
  -- Each seat was taken at an instant that a clock read, since its row says so.
  have readings : ∀ seat ∈ seats, seat.enrolledAt.IsReading := by
    intro seat member
    obtain ⟨row, row_mem, decoded⟩ := (mem_of_mapM_eq_ok read).mp member
    obtain ⟨stored, reading, rfl⟩ := written.enrollments row (Cell.mem_sortOn.mp row_mem)
    rw [EnrollmentRow.decode_ofEnrollment reading, Except.ok.injEq] at decoded
    exact decoded ▸ reading
  -- Two seats whose rows are in order are in order.
  exact sorted.imp_of_mem fun a_mem b_mem =>
    Enrollment.before_of_precedes (readings _ a_mem) (readings _ b_mem)

/--
In all that can be reached, the list of all seats and every timetable are in the order of time.
What clocks read is stored as texts that stand in its order, octet by octet, and that read back.
-/
theorem Reachable.seats_chronological (reachable : db.Reachable Instant.InFourDigitYear) :
    (∃ seats, db.listEnrollments = .ok seats ∧ seats.Pairwise Enrollment.Before) ∧
      (∀ studentId, ∃ timetable, db.liveEnrollments studentId = .ok timetable ∧
        (timetable.map (·.enrollment)).Pairwise Enrollment.Before) ∧
      ∀ a b : Instant, a.IsReading → b.IsReading →
        (Text.octets a.stored < Text.octets b.stored ↔ a < b) ∧
          Instant.ofStored? a.stored = some a := by
  have written := reachable.readings
  -- All reads have results, the list of seats among them.
  obtain ⟨directory, isRead⟩ := reachable.exists_directory
  have chronological := written.pairwise_before reachable.wellFormed.unique isRead.seats
  refine ⟨⟨_, isRead.seats, chronological⟩, fun studentId => ?_, fun a b a_reading b_reading => ?_⟩
  · -- A timetable is a part of the list.
    refine ⟨_, isRead.timetable studentId, ?_⟩
    rw [written.timetable_eq reachable.wellFormed isRead.seats (isRead.timetable studentId)]
    exact chronological.filter _
  · -- What clocks read is stored as a text that is in order and reads back.
    exact ⟨Instant.octets_stored_lt a_reading b_reading, a_reading.ofStored?_stored⟩

section Sample

/-- The time of day at half a second past midnight. -/
def halfSecond : TimeOfDay where
  second := 0
  nano := 500000000

/-- A seat that is taken half a second after the new year. -/
def laterSeat : Enrollment :=
  ⟨.ofDigit 4, .ofDigit 1, .ofDigit 2, ⟨(Stamp.ofDigit 4).now.date, halfSecond⟩⟩

/-- A seat that is taken at the new year. -/
def earlierSeat : Enrollment :=
  ⟨.ofDigit 5, .ofDigit 1, .ofDigit 3, (Stamp.ofDigit 5).now⟩

/-- A run whose clock is set back before the second seat is taken. -/
def backwardRun : List Transaction := [
  ⟨.ofDigit 1, .addStudent ⟨"1", "Ada", none, none, none⟩⟩,
  ⟨.ofDigit 2, .addSubject ⟨"Logic", 3, 2, "Spring", none, none⟩⟩,
  ⟨.ofDigit 3, .addSubject ⟨"Algebra", 3, 2, "Spring", none, none⟩⟩,
  ⟨⟨laterSeat.enrollmentId, laterSeat.enrolledAt⟩,
    .grantSeat laterSeat.studentId laterSeat.subjectId .standard⟩,
  ⟨⟨earlierSeat.enrollmentId, earlierSeat.enrolledAt⟩,
    .grantSeat earlierSeat.studentId earlierSeat.subjectId .standard⟩]

/-- The list starts with the seat that is stored last. -/
theorem listEnrollments_backwardRun :
    (empty.after backwardRun).listEnrollments = .ok [earlierSeat, laterSeat] := by
  -- Two seats are stored, in the order in which they were taken.
  have rows : (empty.after backwardRun).enrollments =
      [.ofEnrollment laterSeat, .ofEnrollment earlierSeat] := by decide +kernel
  have sorted : Cell.sortOn (fun row => [row.enrolledAt, row.enrollmentId])
      (empty.after backwardRun).enrollments =
        [.ofEnrollment earlierSeat, .ofEnrollment laterSeat] := by
    rw [rows]
    exact Cell.sortOn_turned (by decide +kernel)
  -- What is sorted reads as the two seats.
  rw [listEnrollments, sorted]
  decide +kernel

/-- Although it is stored last, the seat that was taken first is listed first. -/
theorem seats_chronological_backward :
    (empty.after backwardRun).Reachable Instant.InFourDigitYear ∧
      (empty.after backwardRun).listEnrollments = .ok [earlierSeat, laterSeat] ∧
        earlierSeat.Before laterSeat := by
  have reachable : (empty.after backwardRun).Reachable Instant.InFourDigitYear :=
    ⟨backwardRun, by decide, rfl⟩
  -- The list is the one that was read before, and so its two seats are in order.
  obtain ⟨⟨seats, listed, chronological⟩, -⟩ := reachable.seats_chronological
  have same := listEnrollments_backwardRun
  refine ⟨reachable, same, ?_⟩
  rw [listed, Except.ok.injEq] at same
  rw [same] at chronological
  exact List.rel_of_pairwise_cons chronological List.mem_cons_self

end Sample

end Database

end CourseRegistry
