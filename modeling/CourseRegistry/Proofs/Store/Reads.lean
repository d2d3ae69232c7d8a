import CourseRegistry.Proofs.Store.Decoding
import CourseRegistry.Proofs.Store.Seats
import CourseRegistry.Proofs.Store.Written

/-! What schedules, subjects and timetables of written tables read as. -/

namespace CourseRegistry

namespace Database

section Rows

variable {db : Database}

/-- The meetings of a subject are those whose cell is its key. -/
@[simp] theorem mem_meetingsOf {cell : Cell} {row : MeetingRow} :
    row ∈ db.meetingsOf cell ↔ row ∈ db.meetings ∧ row.subjectId = cell := by
  simp [meetingsOf]

/-- The meetings that a student holds are those of the subjects with a seat of the student. -/
theorem mem_heldMeetings {studentId : Uuid} {meeting : MeetingRow} :
    meeting ∈ db.heldMeetings studentId ↔
      ∃ row ∈ db.enrollments, row.isOf studentId = true ∧ row.subjectId ≠ .null ∧
        meeting ∈ db.meetingsOf row.subjectId := by
  -- What is asked of a seat stands in another order where it is looked up.
  simp only [heldMeetings, List.mem_flatMap, Cell.mem_sortOn, List.mem_filter, Bool.and_eq_true,
    beq_iff_eq, bne_iff_ne, mem_meetingsOf]
  constructor
  · rintro ⟨row, ⟨row_mem, isOf⟩, meeting_mem, same, notNull⟩
    exact ⟨row, row_mem, isOf, notNull, meeting_mem, same⟩
  · rintro ⟨row, row_mem, isOf, notNull, meeting_mem, same⟩
    exact ⟨row, ⟨row_mem, isOf⟩, meeting_mem, same, notNull⟩

/-- A timetable has an entry for each seat of the student and each row of its subject. -/
theorem mem_seatsOf {studentId : Uuid} {seat : HeldSeat} :
    seat ∈ db.seatsOf studentId ↔ ∃ row ∈ db.enrollments, row.isOf studentId = true ∧
      row.subjectId ≠ .null ∧ ∃ subject ∈ db.subjects, subject.subjectId = row.subjectId ∧
        seat = ⟨row, subject, db.meetingsOf row.subjectId⟩ := by
  -- The subject of a seat is looked up by the key that the seat refers to.
  simp only [seatsOf, List.mem_flatMap, Cell.mem_sortOn, List.mem_filter, List.mem_map,
    Bool.and_eq_true, beq_iff_eq, bne_iff_ne]
  constructor
  · rintro ⟨row, ⟨row_mem, isOf⟩, subject, ⟨subject_mem, same, notNull⟩, rfl⟩
    exact ⟨row, row_mem, isOf, notNull, subject, subject_mem, same, rfl⟩
  · rintro ⟨row, row_mem, isOf, notNull, subject, subject_mem, same, rfl⟩
    exact ⟨row, ⟨row_mem, isOf⟩, subject, ⟨subject_mem, same, notNull⟩, rfl⟩

/-- A student holds a seat in a subject when some row says so. -/
theorem holdsSeat_iff {studentId subjectId : Uuid} :
    db.holdsSeat studentId subjectId = true ↔
      ∃ row ∈ db.enrollments, row.isOf studentId = true ∧ row.subjectId = .ofId subjectId := by
  simp [holdsSeat, EnrollmentRow.isIn]

/-- What a decision depends on is read where the subject is found and each of its parts is read. -/
theorem snapshot_of_reads {studentId subjectId : Uuid} {policy : AdmissionPolicy} {row : SubjectRow}
    (notHeld : db.holdsSeat studentId subjectId = false)
    (found : db.subjects.find? (·.subjectId == .ofId subjectId) = some row)
    {capacity enrolled : UInt32} {schedule held : List MeetingSlot}
    (capacity_eq : row.capacity.readCount = .ok capacity)
    (enrolled_eq : Cell.countOf (db.seatsTaken (.ofId subjectId)) = .ok enrolled)
    (schedule_eq : (db.meetingsOf (.ofId subjectId)).mapM MeetingRow.decode = .ok schedule)
    (held_eq : (if policy.checkTimeConflicts then db.heldMeetings studentId else []).mapM
      MeetingRow.decode = .ok held) :
    db.snapshot studentId subjectId policy =
      .ok ⟨false, some ⟨capacity, enrolled, schedule⟩, held⟩ := by
  -- No seat is held, and the subject is found.
  rw [snapshot, notHeld, if_neg Bool.false_ne_true, found]
  dsimp only
  generalize (if policy.checkTimeConflicts then db.heldMeetings studentId else []) = rows at *
  -- Whatever was read has the right shape.
  have shaped : (row.capacity.isInteger &&
      (db.meetingsOf (.ofId subjectId) ++ rows).all MeetingRow.isReadable) = true := by
    rw [Bool.and_eq_true, List.all_append, Bool.and_eq_true, List.all_eq_true, List.all_eq_true]
    refine ⟨Cell.isInteger_of_bind capacity_eq, fun row member => ?_, fun row member => ?_⟩
    · -- A row that was read as a meeting has its shape.
      obtain ⟨slot, -, decoded⟩ := exists_of_mapM schedule_eq member
      exact MeetingRow.isReadable_of_decode decoded
    · obtain ⟨slot, -, decoded⟩ := exists_of_mapM held_eq member
      exact MeetingRow.isReadable_of_decode decoded
  rw [if_pos shaped, capacity_eq, ok_bind, enrolled_eq, ok_bind, schedule_eq, ok_bind, held_eq,
    ok_bind, pure_eq_ok]

end Rows

section Reads

variable {clock : Instant → Prop} {db : Database} (written : db.Written clock)

include written

/-- A stored meeting reads as a meeting of its subject. -/
theorem Written.meeting {row : MeetingRow} (member : row ∈ db.meetings) :
    ∃ slot, row.decode = .ok slot ∧ row.isReadable = true ∧
      row.subjectId = .ofId slot.subjectId := by
  -- The row was made from the meeting that it reads as.
  obtain ⟨slot, storable, rfl⟩ := written.meetings row member
  exact ⟨slot, MeetingRow.decode_ofMeeting storable, by simp, rfl⟩

/-- The schedule of a subject reads as the meetings in its rows. -/
theorem Written.schedule (cell : Cell) :
    ∃ slots, readRows MeetingRow.isReadable MeetingRow.decode (db.meetingsOf cell) = .ok slots ∧
      (db.meetingsOf cell).mapM MeetingRow.decode = .ok slots := by
  -- Each row of the schedule has the right shape, and it reads as a meeting.
  refine readRows_eq_ok ?_ ?_
  · intro row member
    obtain ⟨slot, -, readable, -⟩ := written.meeting (mem_meetingsOf.mp member).1
    exact readable
  · intro row member
    obtain ⟨slot, decoded, -⟩ := written.meeting (mem_meetingsOf.mp member).1
    exact ⟨slot, decoded⟩

/-- The public schedule of a subject reads as the meetings in its rows. -/
theorem Written.getSchedule (subjectId : Uuid) : ∃ slots, db.getSchedule subjectId = .ok slots ∧
    (db.meetingsOf (.ofId subjectId)).mapM MeetingRow.decode = .ok slots :=
  written.schedule (.ofId subjectId)

/-- A schedule that is read has exactly the meetings that the rows of the subject read as. -/
theorem Written.mem_schedule {subjectId : Uuid} {slots : List MeetingSlot}
    (read : db.getSchedule subjectId = .ok slots) {slot : MeetingSlot} :
    slot ∈ slots ↔ ∃ row ∈ db.meetingsOf (.ofId subjectId), row.decode = .ok slot := by
  -- A read has only one answer.
  obtain ⟨same, read_same, mapped⟩ := written.getSchedule subjectId
  rw [read, Except.ok.injEq] at read_same
  subst read_same
  exact mem_of_mapM_eq_ok mapped

/-- The meetings in a schedule are those of its subject. -/
theorem Written.subjectId_of_mem_schedule {subjectId : Uuid} {slots : List MeetingSlot}
    (read : db.getSchedule subjectId = .ok slots) {slot : MeetingSlot} (member : slot ∈ slots) :
    slot.subjectId = subjectId := by
  -- The row that a meeting was read from refers to the subject, and reads as the meeting.
  obtain ⟨row, row_mem, decoded⟩ := (written.mem_schedule read).mp member
  obtain ⟨row_mem, key⟩ := mem_meetingsOf.mp row_mem
  obtain ⟨same, same_decoded, -, subject⟩ := written.meeting row_mem
  rw [decoded, Except.ok.injEq] at same_decoded
  subst same_decoded
  exact Cell.ofId_inj.mp (subject.symm.trans key)

end Reads

/-- A timetable has an entry for each seat of a student, with the schedule of its subject. -/
structure IsTimetable (db : Database) (studentId : Uuid) (timetable : List EnrollmentDetail) :
    Prop where
  held : ∀ detail ∈ timetable, db.holdsSeat studentId detail.enrollment.subjectId = true
  schedules : ∀ detail ∈ timetable,
    db.getSchedule detail.enrollment.subjectId = .ok detail.schedule
  complete : ∀ row ∈ db.enrollments, row.isOf studentId = true →
    ∃ detail ∈ timetable, row.subjectId = .ofId detail.enrollment.subjectId

section PlainReads

variable {db : Database} (written : db.Written Instant.IsReading)

/-- A subject that is not stored reads as nothing. -/
theorem getSubject_of_absent {subjectId : Uuid}
    (absent : db.subjects.find? (·.subjectId == .ofId subjectId) = none) :
    db.getSubject subjectId = .ok none := by
  rw [getSubject, absent]
  rfl

include written

/-- A stored subject reads, with its schedule, as the subject of its row. -/
theorem Written.offering {row : SubjectRow} (member : row ∈ db.subjects) :
    ∃ subject, row = .ofSubject subject ∧ (Offering.of db row).isReadable = true ∧
      (Offering.of db row).decode = .ok subject := by
  -- The row was made from a subject, whose schedule is not stored in it.
  obtain ⟨stored, plain, rfl⟩ := written.subjects row member
  obtain ⟨schedule, -, mapped⟩ := written.schedule (.ofId stored.subjectId)
  refine ⟨{ stored with schedule }, rfl, ?_, ?_⟩
  · -- All cells of the row and of its meetings have the right shape.
    simp only [Offering.isReadable, Offering.of, SubjectRow.isReadable_ofSubject, Bool.true_and,
      List.all_eq_true]
    intro meeting member
    obtain ⟨slot, -, shape, -⟩ := written.meeting (mem_meetingsOf.mp member).1
    exact shape
  · -- The meetings are looked at first, and after them the row itself.
    change (db.meetingsOf (.ofId stored.subjectId)).mapM MeetingRow.decode >>= _ = _
    rw [mapped, ok_bind]
    exact SubjectRow.decode_ofSubject plain schedule

/-- A subject that is found reads as the subject of its row, with its schedule. -/
theorem Written.getSubject_of_found {subjectId : Uuid} {row : SubjectRow}
    (found : db.subjects.find? (·.subjectId == .ofId subjectId) = some row) :
    ∃ subject, row = .ofSubject subject ∧ db.getSubject subjectId = .ok (some subject) := by
  -- A row that is found is a stored one.
  obtain ⟨member, -⟩ := mem_of_find?_key found
  obtain ⟨subject, same, readable, decoded⟩ := written.offering member
  refine ⟨subject, same, ?_⟩
  rw [getSubject, found, Option.map_some, readRow?, if_pos readable, decoded, map_ok]

/-- The entry of a seat in a timetable reads as that seat, with the schedule of its subject. -/
theorem Written.seat {studentId : Uuid} {seat : HeldSeat} (member : seat ∈ db.seatsOf studentId) :
    ∃ detail, seat.decode = .ok detail ∧ seat.isReadable = true ∧
      seat.enrollment.subjectId = .ofId detail.enrollment.subjectId ∧
        db.getSchedule detail.enrollment.subjectId = .ok detail.schedule := by
  -- The row, its subject and its meetings were all written, and so they read back.
  obtain ⟨row, row_mem, -, -, subjectRow, subject_mem, -, rfl⟩ := mem_seatsOf.mp member
  obtain ⟨enrollment, enrolled, rfl⟩ := written.enrollments row row_mem
  obtain ⟨subject, -, rfl⟩ := written.subjects subjectRow subject_mem
  obtain ⟨schedule, read, mapped⟩ := written.getSchedule enrollment.subjectId
  refine ⟨⟨enrollment, subject.name, subject.professorId, schedule⟩, ?_, ?_, rfl, read⟩
  · -- The seat is read first, then what is shown of its subject, and the schedule last.
    have key : (EnrollmentRow.ofEnrollment enrollment).subjectId = .ofId enrollment.subjectId := rfl
    simp [HeldSeat.decode, EnrollmentRow.decode_ofEnrollment enrolled, SubjectRow.ofSubject, key,
      mapped]
  · -- All cells have the right shape, those of the meetings included.
    simp only [HeldSeat.isReadable, EnrollmentRow.isReadable_ofEnrollment, SubjectRow.ofSubject,
      Cell.isText_text, Cell.isTextOrNull_ofOption_ofId, Bool.true_and, List.all_eq_true]
    intro meeting member
    obtain ⟨slot, -, shape, -⟩ := written.meeting (mem_meetingsOf.mp member).1
    exact shape

/-- A timetable reads as one entry for each seat, each with the schedule of its subject. -/
theorem Written.liveEnrollments (ref : db.Referential) (studentId : Uuid) :
    ∃ timetable, db.liveEnrollments studentId = .ok timetable ∧
      db.IsTimetable studentId timetable := by
  -- Each seat can be looked at, and then read.
  have readable : ∀ seat ∈ db.seatsOf studentId, seat.isReadable = true := by
    intro seat member
    obtain ⟨detail, -, shape, -⟩ := written.seat member
    exact shape
  have decoded : ∀ seat ∈ db.seatsOf studentId, ∃ detail, seat.decode = .ok detail := by
    intro seat member
    obtain ⟨detail, decoded, -⟩ := written.seat member
    exact ⟨detail, decoded⟩
  obtain ⟨timetable, read, mapped⟩ := readRows_eq_ok readable decoded
  -- Each entry comes from a seat, and its decoding is the one described before.
  have entry : ∀ detail ∈ timetable, db.holdsSeat studentId detail.enrollment.subjectId = true ∧
      db.getSchedule detail.enrollment.subjectId = .ok detail.schedule := by
    intro detail detail_mem
    obtain ⟨seat, seat_mem, seat_decoded⟩ := (mem_of_mapM_eq_ok mapped).mp detail_mem
    obtain ⟨same, same_decoded, -, subject, schedule⟩ := written.seat seat_mem
    rw [seat_decoded, Except.ok.injEq] at same_decoded
    subst same_decoded
    obtain ⟨row, row_mem, isOf, -, _, -, -, rfl⟩ := mem_seatsOf.mp seat_mem
    exact ⟨holdsSeat_iff.mpr ⟨row, row_mem, isOf, subject⟩, schedule⟩
  refine ⟨timetable, read, fun detail member => (entry detail member).1,
    fun detail member => (entry detail member).2, ?_⟩
  -- The subject of each seat exists, so that the seat has an entry.
  intro row row_mem isOf
  have exists_ := ref.enrollmentSubjects row row_mem
  obtain ⟨subjectRow, subject_mem, same⟩ := List.any_eq_true.mp exists_
  have notNull : row.subjectId ≠ .null := by
    obtain ⟨enrollment, -, rfl⟩ := written.enrollments row row_mem
    exact Cell.ofId_ne_null _
  have seat_mem := mem_seatsOf.mpr
    ⟨row, row_mem, isOf, notNull, subjectRow, subject_mem, beq_iff_eq.mp same, rfl⟩
  obtain ⟨detail, seat_decoded, -, subject, -⟩ := written.seat seat_mem
  exact ⟨detail, (mem_of_mapM_eq_ok mapped).mpr ⟨_, seat_mem, seat_decoded⟩, subject⟩

end PlainReads

section Timetables

variable {clock : Instant → Prop} {db : Database} {studentId : Uuid}
  {timetable : List EnrollmentDetail}

/-- The subjects in a timetable are those that the student holds a seat in. -/
theorem IsTimetable.mem_iff (isTimetable : db.IsTimetable studentId timetable) {subjectId : Uuid} :
    subjectId ∈ timetable.map (·.enrollment.subjectId) ↔
      db.holdsSeat studentId subjectId = true := by
  -- Both sides speak of the seats of the student, as they are shown and as they are stored.
  rw [List.mem_map]
  constructor
  · -- What is shown is held.
    rintro ⟨detail, detail_mem, rfl⟩
    exact isTimetable.held detail detail_mem
  · -- What is held is shown, as the timetable leaves out no seat.
    intro held
    obtain ⟨row, row_mem, isOf, isIn⟩ := holdsSeat_iff.mp held
    obtain ⟨detail, detail_mem, subject⟩ := isTimetable.complete row row_mem isOf
    exact ⟨detail, detail_mem, Cell.ofId_inj.mp (subject.symm.trans isIn)⟩

/-- The meetings that are compared for clashes are those that the timetable shows. -/
theorem IsTimetable.mem_held (isTimetable : db.IsTimetable studentId timetable)
    (written : db.Written clock) {held : List MeetingSlot}
    (mapped : (db.heldMeetings studentId).mapM MeetingRow.decode = .ok held) {slot : MeetingSlot} :
    slot ∈ held ↔ ∃ detail ∈ timetable, slot ∈ detail.schedule := by
  rw [mem_of_mapM_eq_ok mapped]
  constructor
  · -- A meeting that is held belongs to a seat, and that seat has an entry.
    rintro ⟨meeting, meeting_mem, decoded⟩
    obtain ⟨row, row_mem, isOf, -, of_row⟩ := mem_heldMeetings.mp meeting_mem
    obtain ⟨detail, detail_mem, subject⟩ := isTimetable.complete row row_mem isOf
    rw [subject] at of_row
    have schedule := isTimetable.schedules detail detail_mem
    exact ⟨detail, detail_mem, (written.mem_schedule schedule).mpr ⟨meeting, of_row, decoded⟩⟩
  · -- An entry comes from a seat, whose subject has the meeting.
    rintro ⟨detail, detail_mem, slot_mem⟩
    have schedule := isTimetable.schedules detail detail_mem
    obtain ⟨meeting, meeting_mem, decoded⟩ := (written.mem_schedule schedule).mp slot_mem
    obtain ⟨row, row_mem, isOf, isIn⟩ := holdsSeat_iff.mp (isTimetable.held detail detail_mem)
    have notNull : row.subjectId ≠ .null := isIn ▸ Cell.ofId_ne_null _
    rw [← isIn] at meeting_mem
    exact ⟨meeting, mem_heldMeetings.mpr ⟨row, row_mem, isOf, notNull, meeting_mem⟩, decoded⟩

end Timetables

end Database

end CourseRegistry
