import CourseRegistry.Proofs.Store.Cell

/-! Rows read back as the records they were made from, one by one and in lists. -/

namespace CourseRegistry

/-- All cells of a stored department have the right shape. -/
@[simp] theorem DepartmentRow.isReadable_ofDepartment (department : Department) :
    (ofDepartment department).isReadable = true := rfl

/-- A department that was stored at a time that clocks read, reads back. -/
theorem DepartmentRow.decode_ofDepartment {department : Department}
    (reading : department.createdAt.IsReading) :
    (ofDepartment department).decode = .ok department := by
  simp [decode, ofDepartment, Cell.readInstant_ofInstant reading]

/-- Whatever the clock, nothing but the instant of a stored department can read otherwise. -/
theorem DepartmentRow.decode_ofDepartment_eq_ok {stored department : Department} :
    (ofDepartment stored).decode = .ok department ↔
      ∃ createdAt, (Cell.ofInstant stored.createdAt).readInstant = .ok createdAt ∧
        department = { stored with createdAt } := by
  -- Every other cell reads back, so that only the instant is left open.
  simp [decode, ofDepartment, bind_eq_ok, eq_comm (a := department)]

/-- All cells of a stored professor have the right shape. -/
@[simp] theorem ProfessorRow.isReadable_ofProfessor (professor : Professor) :
    (ofProfessor professor).isReadable = true := by
  simp [isReadable, ofProfessor]

/-- A professor reads back. -/
theorem ProfessorRow.decode_ofProfessor {professor : Professor}
    (reading : professor.createdAt.IsReading) :
    (ofProfessor professor).decode = .ok professor := by
  simp [decode, ofProfessor, Cell.readInstant_ofInstant reading]

/-- So it is with a professor. -/
theorem ProfessorRow.decode_ofProfessor_eq_ok {stored professor : Professor} :
    (ofProfessor stored).decode = .ok professor ↔
      ∃ createdAt, (Cell.ofInstant stored.createdAt).readInstant = .ok createdAt ∧
        professor = { stored with createdAt } := by
  simp [decode, ofProfessor, bind_eq_ok, eq_comm (a := professor)]

/-- All cells of a stored room have the right shape. -/
@[simp] theorem RoomRow.isReadable_ofRoom (room : Room) : (ofRoom room).isReadable = true := by
  simp [isReadable, ofRoom]

/-- A room reads back. -/
theorem RoomRow.decode_ofRoom {room : Room} (reading : room.createdAt.IsReading) :
    (ofRoom room).decode = .ok room := by
  simp [decode, ofRoom, Cell.readInstant_ofInstant reading]

/-- So it is with a room. -/
theorem RoomRow.decode_ofRoom_eq_ok {stored room : Room} :
    (ofRoom stored).decode = .ok room ↔
      ∃ createdAt, (Cell.ofInstant stored.createdAt).readInstant = .ok createdAt ∧
        room = { stored with createdAt } := by
  simp [decode, ofRoom, bind_eq_ok, eq_comm (a := room)]

/-- All cells of a stored student have the right shape, with or without a hash. -/
@[simp] theorem StudentRow.isReadable_ofStudent (student : Student) (hash : Option String) :
    (ofStudent student hash).isReadable = true := by
  simp [isReadable, ofStudent]

/-- A student reads back, whatever there is to sign in against. -/
theorem StudentRow.decode_ofStudent {student : Student} (hash : Option String)
    (reading : student.createdAt.IsReading) :
    (ofStudent student hash).decode = .ok student := by
  simp [decode, ofStudent, Cell.readInstant_ofInstant reading]

/-- So it is with a student. -/
theorem StudentRow.decode_ofStudent_eq_ok {stored student : Student} {hash : Option String} :
    (ofStudent stored hash).decode = .ok student ↔
      ∃ createdAt, (Cell.ofInstant stored.createdAt).readInstant = .ok createdAt ∧
        student = { stored with createdAt } := by
  simp [decode, ofStudent, bind_eq_ok, eq_comm (a := student)]

/-- What is needed to sign in has the right shape as well. -/
@[simp] theorem StudentRow.isLoginReadable_ofStudent (student : Student) (hash : Option String) :
    (ofStudent student hash).isLoginReadable = true := by
  simp [isLoginReadable, ofStudent]

/-- A student signs in under their own identifier, against the hash that was stored. -/
@[simp] theorem StudentRow.decodeLogin_ofStudent (student : Student) (hash : Option String) :
    (ofStudent student hash).decodeLogin = .ok ⟨student.studentId, hash⟩ := by
  simp [decodeLogin, ofStudent]

/-- A meeting can be stored when it starts and ends at whole seconds and does not end first. -/
structure MeetingSlot.IsStorable (slot : MeetingSlot) : Prop where
  start_whole : slot.time.start.nano = 0
  finish_whole : slot.time.finish.nano = 0
  ordered : slot.time.start < slot.time.finish

/-- The stretch between two times is theirs, and the second of them is later. -/
theorem TimeRange.between_eq_ok {start finish : TimeOfDay} {time : TimeRange} :
    between start finish = .ok time ↔ time = ⟨start, finish⟩ ∧ start < finish := by
  unfold between
  split
  -- A stretch without any length is refused.
  · next empty => exact iff_of_false nofun fun accepted => Nat.not_le_of_lt accepted.2 empty
  · next ordered =>
    -- Any other ends after it starts.
    have later : start < finish := Nat.lt_of_not_le ordered
    rw [Except.ok.injEq, eq_comm, and_iff_left later]

/-- A meeting is accepted when it starts and ends at whole seconds, and ends after it starts. -/
theorem NewMeeting.timeRange_eq_ok {meeting : NewMeeting} {time : TimeRange} :
    meeting.timeRange = .ok time ↔ time = ⟨meeting.start, meeting.finish⟩ ∧
      meeting.start.nano = 0 ∧ meeting.finish.nano = 0 ∧ meeting.start < meeting.finish := by
  unfold timeRange
  -- Each check that a meeting has to pass is one of the conditions.
  split
  -- A start inside of a second is refused.
  · next fraction => exact iff_of_false nofun fun accepted => fraction accepted.2.1
  · next start_whole =>
    split
    -- So is an end inside of one.
    · next fraction => exact iff_of_false nofun fun accepted => fraction accepted.2.2.1
    -- With both at whole seconds, the order of the two decides.
    · next finish_whole =>
      rw [TimeRange.between_eq_ok, and_iff_right (Decidable.not_not.mp start_whole),
        and_iff_right (Decidable.not_not.mp finish_whole)]

/-- An accepted meeting has a storable time. -/
theorem NewMeeting.isStorable_of_timeRange {meeting : NewMeeting} {time : TimeRange}
    (accepted : meeting.timeRange = .ok time) (slotId subjectId : Uuid) (roomId : Option Uuid) :
    MeetingSlot.IsStorable ⟨slotId, subjectId, meeting.day, time, roomId⟩ := by
  obtain ⟨rfl, start_whole, finish_whole, ordered⟩ := timeRange_eq_ok.mp accepted
  exact ⟨start_whole, finish_whole, ordered⟩

/-- A row holds the day, the start and the end of a meeting. -/
structure MeetingRow.IsTimeOf (row : MeetingRow) (slot : MeetingSlot) : Prop where
  weekday : row.weekday = .ofWeekday slot.day
  startSecond : row.startSecond = .ofTime slot.time.start
  endSecond : row.endSecond = .ofTime slot.time.finish

/-- A row is read as the meeting whose time it holds, if that can be stored, by its identifiers. -/
theorem MeetingRow.decode_eq_ok {row : MeetingRow} {slot : MeetingSlot} :
    row.decode = .ok slot ↔ row.IsTimeOf slot ∧ slot.IsStorable ∧
      row.slotId.readId = .ok slot.slotId ∧ row.subjectId.readId = .ok slot.subjectId ∧
      row.roomId.readOption Cell.readId = .ok slot.roomId := by
  constructor
  · intro decoded
    -- The times are read before anything else, and put together before the identifiers are read.
    obtain ⟨start, started, decoded⟩ := bind_eq_ok.mp decoded
    obtain ⟨finish, ended, decoded⟩ := bind_eq_ok.mp decoded
    obtain ⟨time, between, decoded⟩ := bind_eq_ok.mp decoded
    obtain ⟨slotId, slotId_eq, decoded⟩ := bind_eq_ok.mp decoded
    obtain ⟨subjectId, subjectId_eq, decoded⟩ := bind_eq_ok.mp decoded
    obtain ⟨day, day_eq, decoded⟩ := bind_eq_ok.mp decoded
    obtain ⟨roomId, roomId_eq, made⟩ := bind_eq_ok.mp decoded
    obtain rfl := Except.ok.inj made
    obtain ⟨startSecond, start_whole⟩ := Cell.readTime_eq_ok.mp started
    obtain ⟨endSecond, finish_whole⟩ := Cell.readTime_eq_ok.mp ended
    obtain ⟨rfl, ordered⟩ := TimeRange.between_eq_ok.mp (mapError_eq_ok.mp between)
    exact ⟨⟨Cell.readWeekday_eq_ok.mp day_eq, startSecond, endSecond⟩,
      ⟨start_whole, finish_whole, ordered⟩, slotId_eq, subjectId_eq, roomId_eq⟩
  · rintro ⟨isTime, storable, slotId, subjectId, roomId⟩
    -- The times are not in the wrong order, so that they make a stretch of the day again.
    have between : TimeRange.between slot.time.start slot.time.finish = .ok slot.time :=
      TimeRange.between_eq_ok.mpr ⟨rfl, storable.ordered⟩
    rw [decode, isTime.startSecond, Cell.readTime_ofTime storable.start_whole, ok_bind,
      isTime.endSecond, Cell.readTime_ofTime storable.finish_whole, ok_bind, between, mapError_ok,
      ok_bind, slotId, ok_bind, subjectId, ok_bind, isTime.weekday, Cell.readWeekday_ofWeekday,
      ok_bind, roomId, ok_bind, pure_eq_ok]

/-- All cells of a stored meeting have the right shape. -/
@[simp] theorem MeetingRow.isReadable_ofMeeting (slot : MeetingSlot) :
    (ofMeeting slot).isReadable = true := by
  simp [isReadable, ofMeeting]

/-- A stored meeting is read back with its full time. -/
theorem MeetingRow.decode_ofMeeting {slot : MeetingSlot} (storable : slot.IsStorable) :
    (ofMeeting slot).decode = .ok slot :=
  -- Each cell reads back, and the time can be put together again.
  decode_eq_ok.mpr ⟨⟨rfl, rfl, rfl⟩, storable, Cell.readId_ofId _, Cell.readId_ofId _,
    Cell.readOption_ofOption_ofId _⟩

/-- The cells of a row that reads as a meeting have the right shapes. -/
theorem MeetingRow.isReadable_of_decode {row : MeetingRow} {slot : MeetingSlot}
    (decoded : row.decode = .ok slot) : row.isReadable = true := by
  obtain ⟨isTime, -, slotId, subjectId, roomId⟩ := decode_eq_ok.mp decoded
  -- Each cell was read, and none of another shape could have been.
  have ids := And.intro (Cell.isText_of_readId slotId) (Cell.isText_of_readId subjectId)
  have room := Cell.isTextOrNull_of_readOption roomId
  simp only [isReadable, ids, isTime.weekday, isTime.startSecond, isTime.endSecond, room,
    Cell.isInteger_ofWeekday, Cell.isInteger_ofTime, Bool.and_self]

/-- All cells of a stored subject have the right shape. -/
@[simp] theorem SubjectRow.isReadable_ofSubject (subject : Subject) :
    (ofSubject subject).isReadable = true := by
  simp [isReadable, ofSubject]

/-- A stored subject is read back with whatever meetings are found for it. -/
theorem SubjectRow.decode_ofSubject {subject : Subject}
    (reading : subject.createdAt.IsReading) (schedule : List MeetingSlot) :
    (ofSubject subject).decode schedule = .ok { subject with schedule } := by
  simp [decode, ofSubject, Cell.readInstant_ofInstant reading]

/-- So it is with a subject, which has whatever meetings are found for it. -/
theorem SubjectRow.decode_ofSubject_eq_ok {stored subject : Subject}
    {schedule : List MeetingSlot} :
    (ofSubject stored).decode schedule = .ok subject ↔
      ∃ createdAt, (Cell.ofInstant stored.createdAt).readInstant = .ok createdAt ∧
        subject = { stored with createdAt, schedule } := by
  simp [decode, ofSubject, bind_eq_ok, eq_comm (a := subject)]

/-- All cells of a stored seat have the right shape. -/
@[simp] theorem EnrollmentRow.isReadable_ofEnrollment (enrollment : Enrollment) :
    (ofEnrollment enrollment).isReadable = true := rfl

/-- A seat reads back. -/
theorem EnrollmentRow.decode_ofEnrollment {enrollment : Enrollment}
    (reading : enrollment.enrolledAt.IsReading) :
    (ofEnrollment enrollment).decode = .ok enrollment := by
  simp [decode, ofEnrollment, Cell.readInstant_ofInstant reading]

/-- A seat of a student is no other student's. -/
theorem EnrollmentRow.isOf_eq {row : EnrollmentRow} {studentId : Uuid}
    (isOf : row.isOf studentId = true) (other : Uuid) :
    row.isOf other = decide (other = studentId) := by
  -- The cell is that of one identifier, and different identifiers have different cells.
  have key := beq_iff_eq.mp isOf
  rw [Bool.eq_iff_iff, decide_eq_true_iff, EnrollmentRow.isOf, beq_iff_eq, key, Cell.ofId_inj]
  exact eq_comm

/-- A seat in a subject is in no other one. -/
theorem EnrollmentRow.isIn_eq {row : EnrollmentRow} {subjectId : Uuid}
    (isIn : row.isIn subjectId = true) (other : Uuid) :
    row.isIn other = decide (other = subjectId) := by
  have key := beq_iff_eq.mp isIn
  rw [Bool.eq_iff_iff, decide_eq_true_iff, EnrollmentRow.isIn, beq_iff_eq, key, Cell.ofId_inj]
  exact eq_comm

/-- A stored seat is that of its student. -/
@[simp] theorem EnrollmentRow.isOf_ofEnrollment (enrollment : Enrollment) (studentId : Uuid) :
    (ofEnrollment enrollment).isOf studentId = (enrollment.studentId == studentId) := by
  rw [Bool.eq_iff_iff, beq_iff_eq, isOf, beq_iff_eq]
  exact Cell.ofId_inj

/-- A stored seat is in its subject. -/
@[simp] theorem EnrollmentRow.isIn_ofEnrollment (enrollment : Enrollment) (subjectId : Uuid) :
    (ofEnrollment enrollment).isIn subjectId = (enrollment.subjectId == subjectId) := by
  rw [Bool.eq_iff_iff, beq_iff_eq, isIn, beq_iff_eq]
  exact Cell.ofId_inj

section Lists

variable {α ρ : Type} {isReadable : ρ → Bool} {decode : ρ → Except StoreError α}

/-- Rows that all read as records read as the list of these records. -/
theorem mapM_eq_ok {rows : List ρ} (decoded : ∀ row ∈ rows, ∃ record, decode row = .ok record) :
    ∃ records, rows.mapM decode = .ok records := by
  induction rows with
  -- An empty list reads as one.
  | nil => exact ⟨[], rfl⟩
  -- Reading goes on to the other rows because the first one reads.
  | cons row rows ih =>
    obtain ⟨record, head⟩ := decoded row (by simp)
    obtain ⟨records, tail⟩ := ih fun other member => decoded other (by simp [member])
    exact ⟨record :: records, by simp [List.mapM_cons, head, tail]⟩

/-- The records read from a list of rows are exactly those that its rows read as. -/
theorem mem_of_mapM_eq_ok {rows : List ρ} {records : List α}
    (read : rows.mapM decode = .ok records) {record : α} :
    record ∈ records ↔ ∃ row ∈ rows, decode row = .ok record := by
  induction rows generalizing records with
  | nil =>
    -- Nothing is read from no rows.
    cases read
    simp
  | cons row rows ih =>
    rw [List.mapM_cons] at read
    -- A list that was read at all has a record for its first row and for each of the others.
    cases head : decode row with
    | error error => simp [head] at read
    | ok first =>
      cases tail : rows.mapM decode with
      | error error => simp [head, tail] at read
      | ok others =>
        simp only [head, tail, ok_bind, pure_eq_ok, Except.ok.injEq] at read
        subst records
        simp only [List.mem_cons, exists_eq_or_imp, head, Except.ok.injEq, ih tail,
          eq_comm (a := record)]

/-- Rows of the right shape that all read as records are read by the two passes. -/
theorem readRows_eq_ok {rows : List ρ} (readable : ∀ row ∈ rows, isReadable row = true)
    (decoded : ∀ row ∈ rows, ∃ record, decode row = .ok record) :
    ∃ records, readRows isReadable decode rows = .ok records ∧ rows.mapM decode = .ok records := by
  -- The shapes are looked at before anything is decoded, and none is in the way.
  obtain ⟨records, read⟩ := mapM_eq_ok decoded
  exact ⟨records, by rw [readRows, if_pos (List.all_eq_true.mpr readable), read], read⟩

end Lists

end CourseRegistry
