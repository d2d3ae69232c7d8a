import CourseRegistry.Proofs.Store.Update
import CourseRegistry.Proofs.Store.View

/-! A record that an operation answers with is what every later read of it shows. -/

namespace CourseRegistry

open Database

section Tables

variable {db : Database}

/-- The table of departments. -/
def Table.departments : Table Department DepartmentRow where
  rows := Database.departments
  key := (·.departmentId)
  isReadable := DepartmentRow.isReadable
  decode := DepartmentRow.decode
  idOf := (·.departmentId)

/-- The table of professors. -/
def Table.professors : Table Professor ProfessorRow where
  rows := Database.professors
  key := (·.professorId)
  isReadable := ProfessorRow.isReadable
  decode := ProfessorRow.decode
  idOf := (·.professorId)

/-- The table of rooms. -/
def Table.rooms : Table Room RoomRow where
  rows := Database.rooms
  key := (·.roomId)
  isReadable := RoomRow.isReadable
  decode := RoomRow.decode
  idOf := (·.roomId)

/-- The table of students. -/
def Table.students : Table Student StudentRow where
  rows := Database.students
  key := (·.studentId)
  isReadable := StudentRow.isReadable
  decode := StudentRow.decode
  idOf := (·.studentId)

/-- The table of subjects, each with its meetings. -/
def Table.subjects : Table Subject Offering where
  rows := fun db => db.subjects.map (Offering.of db)
  key := (·.subject.subjectId)
  isReadable := Offering.isReadable
  decode := Offering.decode
  idOf := (·.subjectId)

/-- The table of meetings. -/
def Table.meetings : Table MeetingSlot MeetingRow where
  rows := Database.meetings
  key := (·.slotId)
  isReadable := MeetingRow.isReadable
  decode := MeetingRow.decode
  idOf := (·.slotId)

/-- The table of seats. -/
def Table.enrollments : Table Enrollment EnrollmentRow where
  rows := Database.enrollments
  key := (·.enrollmentId)
  isReadable := EnrollmentRow.isReadable
  decode := EnrollmentRow.decode
  idOf := (·.enrollmentId)

variable (reachable : db.Reachable Instant.InFourDigitYear)

include reachable

/-- In all that can be reached, what is stored reads back. -/
theorem Database.Reachable.readable : db.Readable :=
  reachable.readings.readable reachable.seatsTaken_lt

-- Each row is that of a record, which it reads as, and no two rows share a key.

/-- Each row of the departments is that of a department, which it reads as. -/
theorem Table.departments_reads : Table.departments.Reads db where
  back row member := by
    -- What is stored is the row of a department with an instant of the clock.
    obtain ⟨department, plain, rfl⟩ := reachable.readings.departments row member
    exact ⟨DepartmentRow.isReadable_ofDepartment department, department,
      DepartmentRow.decode_ofDepartment plain, rfl⟩
  unique := reachable.wellFormed.unique.departmentKeys

/-- Each row of the professors is that of a professor, which it reads as. -/
theorem Table.professors_reads : Table.professors.Reads db where
  back row member := by
    obtain ⟨professor, plain, rfl⟩ := reachable.readings.professors row member
    exact ⟨ProfessorRow.isReadable_ofProfessor professor, professor,
      ProfessorRow.decode_ofProfessor plain, rfl⟩
  unique := reachable.wellFormed.unique.professorKeys

/-- Each row of the rooms is that of a room, which it reads as. -/
theorem Table.rooms_reads : Table.rooms.Reads db where
  back row member := by
    obtain ⟨room, plain, rfl⟩ := reachable.readings.rooms row member
    exact ⟨RoomRow.isReadable_ofRoom room, room, RoomRow.decode_ofRoom plain, rfl⟩
  unique := reachable.wellFormed.unique.roomKeys

/-- Each row of the students is that of a student, which it reads as whatever the hash is. -/
theorem Table.students_reads : Table.students.Reads db where
  back row member := by
    obtain ⟨student, hash, plain, rfl⟩ := reachable.readings.students row member
    exact ⟨StudentRow.isReadable_ofStudent student hash, student,
      StudentRow.decode_ofStudent hash plain, rfl⟩
  unique := reachable.wellFormed.unique.studentKeys

/-- Each subject reads back together with its meetings. -/
theorem Table.subjects_reads : Table.subjects.Reads db where
  back offering member := by
    -- An offering is read as one, so its meetings read back before the subject does.
    obtain ⟨row, row_mem, rfl⟩ := List.mem_map.mp member
    obtain ⟨subject, rfl, readable, decoded⟩ := reachable.readings.offering row_mem
    exact ⟨readable, subject, decoded, rfl⟩
  -- The key of an offering is that of its subject.
  unique := by
    rw [subjects, List.map_map]
    exact reachable.wellFormed.unique.subjectKeys

/-- Each row of the meetings is that of a meeting, which it reads as. -/
theorem Table.meetings_reads : Table.meetings.Reads db where
  back row member := by
    obtain ⟨slot, storable, rfl⟩ := reachable.readings.meetings row member
    exact ⟨MeetingRow.isReadable_ofMeeting slot, slot, MeetingRow.decode_ofMeeting storable, rfl⟩
  unique := reachable.wellFormed.unique.meetingKeys

/-- Each row of the seats is that of a seat, which it reads as. -/
theorem Table.enrollments_reads : Table.enrollments.Reads db where
  back row member := by
    obtain ⟨seat, plain, rfl⟩ := reachable.readings.enrollments row member
    exact ⟨EnrollmentRow.isReadable_ofEnrollment seat, seat,
      EnrollmentRow.decode_ofEnrollment plain, rfl⟩
  unique := reachable.wellFormed.unique.enrollmentKeys

end Tables

section Views

variable {db : Database}

/-- The list of all departments. -/
def View.departments : View Department := ⟨listDepartments, fun _ => true⟩

/-- The list of all professors. -/
def View.professors : View Professor := ⟨listProfessors, fun _ => true⟩

/-- The list of all rooms. -/
def View.rooms : View Room := ⟨listRooms, fun _ => true⟩

/-- The list of all students. -/
def View.students : View Student := ⟨listStudents, fun _ => true⟩

/-- A single student. -/
def View.student (id : Uuid) : View Student :=
  ⟨fun db => Option.toList <$> db.getStudent id, (·.studentId == id)⟩

/-- A single subject. -/
def View.subject (id : Uuid) : View Subject :=
  ⟨fun db => Option.toList <$> db.getSubject id, (·.subjectId == id)⟩

/-- The subjects that a search finds. -/
def View.search (query : SubjectQuery) : View Subject :=
  ⟨fun db => List.map (·.subject) <$> db.listSubjects query,
    fun subject => isSelected query (.ofSubject subject)⟩

/-- The meetings of a subject. -/
def View.schedule (subjectId : Uuid) : View MeetingSlot :=
  ⟨fun db => db.getSchedule subjectId, (·.subjectId == subjectId)⟩

/-- The list of all seats. -/
def View.seats : View Enrollment := ⟨listEnrollments, fun _ => true⟩

/-- The seats in the timetable of a student. -/
def View.timetable (studentId : Uuid) : View Enrollment :=
  ⟨fun db => List.map (·.enrollment) <$> db.liveEnrollments studentId, (·.studentId == studentId)⟩

/-- A search is for all that it finds, and not for a stretch of it. -/
def SubjectQuery.IsWhole (query : SubjectQuery) : Prop :=
  query.limit = none ∧ query.offset = none

variable (reachable : db.Reachable Instant.InFourDigitYear)

include reachable

-- Each list has all rows of its table, in some order.

/-- The list of departments has all rows of its table, in some order. -/
theorem View.departments_isViewed : Table.departments.IsViewed View.departments db :=
  Table.isViewed_list (Table.departments_reads reachable) _ (fun _ => rfl) rfl

/-- The list of professors has all rows of its table, in some order. -/
theorem View.professors_isViewed : Table.professors.IsViewed View.professors db :=
  Table.isViewed_list (Table.professors_reads reachable) _ (fun _ => rfl) rfl

/-- The list of rooms has all rows of its table, in some order. -/
theorem View.rooms_isViewed : Table.rooms.IsViewed View.rooms db :=
  Table.isViewed_list (Table.rooms_reads reachable) _ (fun _ => rfl) rfl

/-- The list of students has all rows of its table, in some order. -/
theorem View.students_isViewed : Table.students.IsViewed View.students db :=
  Table.isViewed_list (Table.students_reads reachable) _ (fun _ => rfl) rfl

/-- The list of seats has all rows of its table, in some order. -/
theorem View.seats_isViewed : Table.enrollments.IsViewed View.seats db :=
  Table.isViewed_list (Table.enrollments_reads reachable) _ (fun _ => rfl) rfl

/-- A single student is the one with the identifier. -/
theorem View.student_isViewed (id : Uuid) : Table.students.IsViewed (View.student id) db :=
  Table.isViewed_find (Table.students_reads reachable) (fun _ => rfl) rfl

/-- A single subject is read like those in a list. -/
theorem View.subject_isViewed (id : Uuid) : Table.subjects.IsViewed (View.subject id) db := by
  -- Looking among the offerings is looking among the subjects.
  refine Table.isViewed_find (Table.subjects_reads reachable) (fun _ => rfl) ?_
  have found : (Table.subjects.rows db).find? (Table.subjects.key · == .ofId id) =
      (db.subjects.find? (·.subjectId == .ofId id)).map (Offering.of db) := List.find?_map
  rw [found]
  rfl

/-- The meetings of a subject are those with its identifier. -/
theorem View.schedule_isViewed (subjectId : Uuid) :
    Table.meetings.IsViewed (View.schedule subjectId) db := by
  have reads := Table.meetings_reads reachable
  refine Table.isViewed_sortOn reads (fun row => [row.weekday, row.startSecond]) ?_ rfl
  -- A row is in the schedule where its record is to be shown in it.
  intro row member slot decoded
  obtain ⟨stored, storedDecoded, -, key⟩ := reachable.readings.meeting member
  obtain rfl := Except.ok.inj (storedDecoded.symm.trans decoded)
  rw [key, Bool.eq_iff_iff, beq_iff_eq, Cell.ofId_inj]
  exact beq_iff_eq.symm

/-- A search that is not cut shows the subjects that it selects. -/
theorem View.search_isViewed {query : SubjectQuery} (whole : query.IsWhole)
    (within : query.isWithinLimits = true) : Table.subjects.IsViewed (View.search query) db := by
  intro all read
  -- The search has a result, since its limits are those that are allowed.
  obtain ⟨listings, listed⟩ := reachable.readable.listSubjects within
  obtain ⟨limit, offset⟩ := whole
  -- Without a limit and an offset the page is all that was selected.
  have uncut : db.selection query = Cell.sortOn (fun row => [row.name, row.subjectId])
      (db.subjects.filter (isSelected query)) := by
    rw [selection, page, limit, offset]
    rfl
  -- The listings show the subjects of the selected rows, which are some of all rows.
  have shown : ((db.selection query).map (Offering.of db)).mapM Offering.decode =
      .ok (listings.map (·.subject)) := by
    rw [← List.map_id ((db.selection query).map (Offering.of db))]
    refine mapM_map (mapM_of_listSubjects listed) fun offering _ listing decoded => ?_
    obtain ⟨subject, first, decoded⟩ := bind_eq_ok.mp decoded
    obtain ⟨enrolled, -, made⟩ := bind_eq_ok.mp decoded
    rw [id, first, ← Except.ok.inj made]
    rfl
  -- A row is selected by the search exactly where the record that it reads as is.
  have selected : ((db.subjects.map (Offering.of db)).filter
      fun offering => isSelected query offering.subject).mapM Offering.decode =
        .ok (all.filter (View.search query).shows) := by
    refine mapM_filter read fun offering member subject decoded => ?_
    obtain ⟨row, row_mem, rfl⟩ := List.mem_map.mp member
    obtain ⟨stored, rfl, -, same⟩ := reachable.readings.offering row_mem
    rw [← Except.ok.inj (same.symm.trans decoded)]
    rfl
  -- Both sides are lists of the same offerings, in the order of the names and in the stored one.
  rw [List.filter_map] at selected
  have sorted : ((db.selection query).map (Offering.of db)).Perm
      ((db.subjects.filter (isSelected query)).map (Offering.of db)) :=
    (uncut ▸ Cell.sortOn_perm _ _).map _
  obtain ⟨found, foundRead, perm⟩ := mapM_perm sorted selected
  rw [shown, Except.ok.injEq] at foundRead
  have viewRead : (View.search query).read db =
      List.map (·.subject) <$> db.listSubjects query := rfl
  exact ⟨_, by rw [viewRead, listed, map_ok], foundRead ▸ perm⟩

/-- A timetable shows the seats of its student. -/
theorem View.timetable_isViewed (studentId : Uuid) :
    Table.enrollments.IsViewed (View.timetable studentId) db := by
  intro all read
  obtain ⟨seats, listed⟩ :
      ∃ seats, db.listEnrollments = .ok seats :=
    exists_readRows fun row member =>
      reachable.readable.enrollments row (Cell.mem_sortOn.mp member)
  -- Every seat has its subject, so the timetable has a result as well.
  obtain ⟨timetable, timetable_read, -⟩ :=
    reachable.readings.liveEnrollments reachable.wellFormed.referential studentId
  -- The list of all seats has the records of the rows, in another order.
  have sorted : (Cell.sortOn (fun row => [row.enrolledAt, row.enrollmentId])
      db.enrollments).mapM EnrollmentRow.decode = .ok seats := mapM_of_readRows listed
  obtain ⟨found, foundRead, perm⟩ := mapM_perm (Cell.sortOn_perm _ db.enrollments) read
  obtain rfl := Except.ok.inj (sorted.symm.trans foundRead)
  have viewRead : (View.timetable studentId).read db =
      List.map (·.enrollment) <$> db.liveEnrollments studentId := rfl
  refine ⟨_, by rw [viewRead, timetable_read, map_ok], ?_⟩
  -- The timetable has those seats of the list that are the student's.
  rw [reachable.readings.timetable_eq reachable.wellFormed listed timetable_read]
  exact perm.filter _

end Views

/-- A record of any kind. -/
inductive Record where
  | department (department : Department)
  | professor (professor : Professor)
  | room (room : Room)
  | student (student : Student)
  | subject (subject : Subject)
  | meeting (slot : MeetingSlot)
  | seat (seat : Enrollment)
deriving DecidableEq

/-- The record that an operation made or changed, if it answers with one. -/
def Operation.record? : (operation : Operation) → Except StoreError operation.Answer → Option Record
  | addDepartment _, .ok (department : Department) => some (.department department)
  | updateDepartment .., .ok (department : Option Department) => department.map .department
  | addProfessor _, .ok (professor : Professor) => some (.professor professor)
  | updateProfessor .., .ok (professor : Option Professor) => professor.map .professor
  | addRoom _, .ok (room : Room) => some (.room room)
  | updateRoom .., .ok (room : Option Room) => room.map .room
  | addStudent _, .ok (student : Student) => some (.student student)
  | updateStudent .., .ok (student : Option Student) => student.map .student
  | addSubject _, .ok (subject : Subject) => some (.subject subject)
  | updateSubject .., .ok (subject : Option Subject) => subject.map .subject
  | addMeeting .., .ok (slot : MeetingSlot) => some (.meeting slot)
  | grantSeat .., .ok (.enrolled seat) => some (.seat seat)
  | _, _ => none

/-- Wherever a schedule is shown, it is the one that can be asked for by itself. -/
structure Database.ShowsSchedules (db : Database) : Prop where
  subject : ∀ subjectId subject, db.getSubject subjectId = .ok (some subject) →
    db.getSchedule subjectId = .ok subject.schedule
  listing : ∀ query listings, db.listSubjects query = .ok listings → ∀ listing ∈ listings,
    db.getSchedule listing.subject.subjectId = .ok listing.subject.schedule
  detail : ∀ studentId timetable, db.liveEnrollments studentId = .ok timetable →
    ∀ detail ∈ timetable, db.getSchedule detail.enrollment.subjectId = .ok detail.schedule

namespace Record

/-- The record was put into its table. -/
def IsPut (db changed : Database) : Record → Prop
  | department record => Table.departments.IsPut record db changed
  | professor record => Table.professors.IsPut record db changed
  | room record => Table.rooms.IsPut record db changed
  | student record => Table.students.IsPut record db changed
  | subject record => Table.subjects.IsPut record db changed
  | meeting record => Table.meetings.IsPut record db changed
  | seat record => Table.enrollments.IsPut record db changed

/-- Every read of records of its kind shows the record, and all others as before. -/
def IsReadBack (db changed : Database) : Record → Prop
  | department record => View.departments.Renews (·.departmentId) record db changed
  | professor record => View.professors.Renews (·.professorId) record db changed
  | room record => View.rooms.Renews (·.roomId) record db changed
  | student record => View.students.Renews (·.studentId) record db changed ∧
      ∀ id, (View.student id).Renews (·.studentId) record db changed
  | subject record =>
      (∀ query : SubjectQuery, query.IsWhole → query.isWithinLimits = true →
        (View.search query).Renews (·.subjectId) record db changed) ∧
      ∀ id, (View.subject id).Renews (·.subjectId) record db changed
  | meeting record => changed.ShowsSchedules ∧
      ∀ subjectId, (View.schedule subjectId).Renews (·.slotId) record db changed
  | seat record => View.seats.Renews (·.enrollmentId) record db changed ∧
      ∀ studentId, (View.timetable studentId).Renews (·.enrollmentId) record db changed

end Record

/-- In all that can be reached, no two reads show different schedules of a subject. -/
theorem Database.Reachable.showsSchedules {db : Database}
    (reachable : db.Reachable Instant.InFourDigitYear) : db.ShowsSchedules where
  -- The schedule is among what is known of a subject that was read.
  subject subjectId subject read := by
    obtain ⟨-, -, schedule⟩ :=
      reachable.readings.mem_of_getSubject reachable.wellFormed.unique read
    exact schedule
  -- A listing has the subject that is read by itself.
  listing query listings listed listing member := by
    have unique := reachable.wellFormed.unique
    obtain ⟨subject, enrolled, rfl, read, -⟩ :=
      reachable.readings.exists_of_mem_listing unique listed member
    obtain ⟨-, -, schedule⟩ := reachable.readings.mem_of_getSubject unique read
    exact schedule
  -- A timetable was made of the schedules of its subjects.
  detail studentId timetable read detail member := by
    obtain ⟨same, sameRead, isTimetable⟩ :=
      reachable.readings.liveEnrollments reachable.wellFormed.referential studentId
    obtain rfl := Except.ok.inj (sameRead.symm.trans read)
    exact isTimetable.schedules detail member

/-- What was put into its table is read back by every view of the table. -/
theorem Record.IsPut.isReadBack {record : Record} {db changed : Database}
    (put : record.IsPut db changed) (before : db.Reachable Instant.InFourDigitYear)
    (after : changed.Reachable Instant.InFourDigitYear) : record.IsReadBack db changed := by
  -- All views of a table follow it, and each kind of record has the views of its own table.
  cases record with
  | department department =>
    exact put.renews (Table.departments_reads before) (Table.departments_reads after)
      (View.departments_isViewed before) (View.departments_isViewed after)
  | professor professor =>
    exact put.renews (Table.professors_reads before) (Table.professors_reads after)
      (View.professors_isViewed before) (View.professors_isViewed after)
  | room room =>
    exact put.renews (Table.rooms_reads before) (Table.rooms_reads after)
      (View.rooms_isViewed before) (View.rooms_isViewed after)
  -- Some kinds of records are also read one by one, or as parts of the list.
  | student student =>
    exact ⟨put.renews (Table.students_reads before) (Table.students_reads after)
        (View.students_isViewed before) (View.students_isViewed after), fun id =>
      put.renews (Table.students_reads before) (Table.students_reads after)
        (View.student_isViewed before id) (View.student_isViewed after id)⟩
  | subject subject =>
    exact ⟨fun query whole within =>
      put.renews (Table.subjects_reads before) (Table.subjects_reads after)
        (View.search_isViewed before whole within) (View.search_isViewed after whole within),
      fun id => put.renews (Table.subjects_reads before) (Table.subjects_reads after)
        (View.subject_isViewed before id) (View.subject_isViewed after id)⟩
  | meeting slot =>
    exact ⟨after.showsSchedules, fun subjectId =>
      put.renews (Table.meetings_reads before) (Table.meetings_reads after)
        (View.schedule_isViewed before subjectId) (View.schedule_isViewed after subjectId)⟩
  | seat seat =>
    exact ⟨put.renews (Table.enrollments_reads before) (Table.enrollments_reads after)
        (View.seats_isViewed before) (View.seats_isViewed after), fun studentId =>
      put.renews (Table.enrollments_reads before) (Table.enrollments_reads after)
        (View.timetable_isViewed before studentId) (View.timetable_isViewed after studentId)⟩

section Operations

variable {db : Database} {stamp : Stamp}

/-- A subject that does not exist has no meetings. -/
theorem Database.Referential.meetingsOf_eq_nil (ref : db.Referential) {subjectId : Uuid}
    (absent : db.has .subject subjectId = false) : db.meetingsOf (.ofId subjectId) = [] := by
  -- A meeting would refer to a subject, and the subject of each meeting exists.
  refine List.eq_nil_iff_forall_not_mem.mpr fun row member => ?_
  obtain ⟨stored, key⟩ := mem_meetingsOf.mp member
  have exists_ := ref.meetingSubjects row stored
  rw [key, ← has, absent] at exists_
  cases exists_

section Additions

/-- The row of a new meeting reads back, since its times are whole seconds in their order. -/
theorem addMeeting_put {subjectId : Uuid} {input : NewMeeting} {slot : MeetingSlot}
    (answered : (addMeeting stamp subjectId input db).1 = .ok slot) :
    Table.meetings.IsPut slot db (addMeeting stamp subjectId input db).2 := by
  -- Of the clock a meeting has only its identifier.
  obtain ⟨newId, storable, added⟩ := addMeeting_of_ok answered
  rw [added]
  exact Table.isPut_of_append (MeetingRow.decode_ofMeeting storable) newId rfl

variable (reading : stamp.now.IsReading)

include reading

/-- The row of a new department has the instant of the clock, and so it reads back. -/
theorem addDepartment_put {input : NewDepartment} {department : Department}
    (answered : (addDepartment stamp input db).1 = .ok department) :
    Table.departments.IsPut department db (addDepartment stamp input db).2 := by
  obtain ⟨newId, now, added⟩ := addDepartment_of_ok answered
  rw [← now] at reading
  rw [added]
  exact Table.isPut_of_append (DepartmentRow.decode_ofDepartment reading) newId rfl

/-- So does the row of a new professor. -/
theorem addProfessor_put {input : NewProfessor} {professor : Professor}
    (answered : (addProfessor stamp input db).1 = .ok professor) :
    Table.professors.IsPut professor db (addProfessor stamp input db).2 := by
  obtain ⟨newId, now, added⟩ := addProfessor_of_ok answered
  rw [← now] at reading
  rw [added]
  exact Table.isPut_of_append (ProfessorRow.decode_ofProfessor reading) newId rfl

/-- So does the row of a new room. -/
theorem addRoom_put {input : NewRoom} {room : Room}
    (answered : (addRoom stamp input db).1 = .ok room) :
    Table.rooms.IsPut room db (addRoom stamp input db).2 := by
  obtain ⟨newId, now, added⟩ := addRoom_of_ok answered
  rw [← now] at reading
  rw [added]
  exact Table.isPut_of_append (RoomRow.decode_ofRoom reading) newId rfl

/-- So does the row of a new student, with any hash. -/
theorem addStudent_put {input : NewStudent} {student : Student}
    (answered : (addStudent stamp input db).1 = .ok student) :
    Table.students.IsPut student db (addStudent stamp input db).2 := by
  obtain ⟨newId, now, added⟩ := addStudent_of_ok answered
  rw [← now] at reading
  rw [added]
  exact Table.isPut_of_append (StudentRow.decode_ofStudent input.passwordHash reading) newId rfl

/-- A new subject has no meetings, and it reads back with an empty schedule. -/
theorem addSubject_put (ref : db.Referential) {input : NewSubject} {subject : Subject}
    (answered : (addSubject stamp input db).1 = .ok subject) :
    Table.subjects.IsPut subject db (addSubject stamp input db).2 := by
  obtain ⟨newId, now, noSchedule, added⟩ := addSubject_of_ok answered
  rw [← now] at reading
  -- A meeting of the new subject would have referred to it before it existed.
  have noMeetings := ref.meetingsOf_eq_nil newId
  have decoded : (Offering.of db (.ofSubject subject)).decode = .ok subject := by
    change (db.meetingsOf (.ofId subject.subjectId)).mapM MeetingRow.decode >>= _ = _
    rw [noMeetings, List.mapM_nil, pure_eq_ok, ok_bind, ← noSchedule]
    exact SubjectRow.decode_ofSubject reading subject.schedule
  rw [added]
  exact Table.isPut_of_append decoded (List.any_map.trans newId) List.map_append

/-- A seat that is granted is put at the end of the seats. -/
theorem grantSeat_put {studentId subjectId : Uuid} {policy : AdmissionPolicy} {seat : Enrollment}
    (answered : (grantSeat stamp studentId subjectId policy db).1 = .ok (.enrolled seat)) :
    Table.enrollments.IsPut seat db (grantSeat stamp studentId subjectId policy db).2 := by
  rcases grantSeat_cases stamp db studentId subjectId policy with
    ⟨-, newId, -, granted⟩ | ⟨refused, -⟩
  -- The seat of the answer is the one that was stored.
  · rw [granted, Except.ok.injEq, EnrollOutcome.enrolled.injEq] at answered
    rw [granted, ← answered]
    refine Table.isPut_of_append (EnrollmentRow.decode_ofEnrollment reading) ?_ rfl
    exact List.any_eq_false.mpr fun other member same => newId other member (beq_iff_eq.mp same)
  · -- Otherwise no seat was granted, and the answer shows none.
    exact absurd answered (refused seat)

end Additions

section Updates

/-- What an update answers with was put into its table, in the place of the row that was found. -/
theorem Table.isPut_of_isUpdate {α ρ : Type} {table : Table α ρ} (reads : table.Reads db)
    {id : Uuid} {change : ρ → ρ} {passes : Prop} {looksFirst : Bool} {changed : Database}
    {outcome : Except StoreError (Option α) × Database}
    (update : IsUpdate table.isReadable table.decode
      ((table.rows db).find? (table.key · == .ofId id)) change passes looksFirst changed db outcome)
    (rows : table.rows changed = changeRow (table.key · == .ofId id) change (table.rows db))
    (sameKey : ∀ row, table.key (change row) = table.key row) {record : α}
    (answered : outcome.1 = .ok (some record)) : table.IsPut record db outcome.2 := by
  -- Only an update that found a row, changed it and read it back answers with a record.
  obtain ⟨row, found, decoded, made⟩ := update.of_some answered
  rw [made]
  exact isPut_of_replaceRow reads found decoded (sameKey row)
    (rows.trans (changeRow_of_find? found change))

variable (reachable : db.Reachable Instant.InFourDigitYear)

include reachable

/-- A department keeps its key under another name. -/
theorem updateDepartment_put {id : Uuid} {input : NewDepartment} {department : Department}
    (answered : (updateDepartment id input db).1 = .ok (some department)) :
    Table.departments.IsPut department db (updateDepartment id input db).2 :=
  Table.isPut_of_isUpdate (Table.departments_reads reachable)
    (updateDepartment_isUpdate db id input) rfl (fun _ => rfl) answered

/-- A professor keeps the key with another record. -/
theorem updateProfessor_put {id : Uuid} {input : NewProfessor} {professor : Professor}
    (answered : (updateProfessor id input db).1 = .ok (some professor)) :
    Table.professors.IsPut professor db (updateProfessor id input db).2 :=
  Table.isPut_of_isUpdate (Table.professors_reads reachable)
    (updateProfessor_isUpdate db id input) rfl (fun _ => rfl) answered

/-- So does a room. -/
theorem updateRoom_put {id : Uuid} {input : NewRoom} {room : Room}
    (answered : (updateRoom id input db).1 = .ok (some room)) :
    Table.rooms.IsPut room db (updateRoom id input db).2 :=
  Table.isPut_of_isUpdate (Table.rooms_reads reachable) (updateRoom_isUpdate db id input) rfl
    (fun _ => rfl) answered

/-- So does a student. -/
theorem updateStudent_put {id : Uuid} {input : NewStudent} {student : Student}
    (answered : (updateStudent id input db).1 = .ok (some student)) :
    Table.students.IsPut student db (updateStudent id input db).2 :=
  Table.isPut_of_isUpdate (Table.students_reads reachable) (updateStudent_isUpdate db id input) rfl
    (fun _ => rfl) answered

/-- A subject is put into its table together with the meetings that it has. -/
theorem updateSubject_put {id : Uuid} {patch : SubjectPatch} {subject : Subject}
    (answered : (updateSubject id patch db).1 = .ok (some subject)) :
    Table.subjects.IsPut subject db (updateSubject id patch db).2 := by
  obtain ⟨row, takes⟩ := takes_of_some answered
  rw [takes.updateSubject] at answered ⊢
  -- The row was found among the subjects, and so its offering among the offerings.
  have foundOffering : (Table.subjects.rows db).find? (Table.subjects.key · == .ofId id) =
      some (Offering.of db row) := List.find?_map.trans (congrArg _ takes.found)
  -- The meetings of all subjects are those that they had before.
  have rows := replaceRow_map (Offering.of db) (·.subject.subjectId == .ofId id)
    (patched patch row) db.subjects
  exact Table.isPut_of_replaceRow (Table.subjects_reads reachable) foundOffering
    (readRow?_eq_ok.mp (takes.getSubject.symm.trans answered)).2 rfl rows.symm

end Updates

/-- The record that an operation answers with was put into its table. -/
theorem Operation.isPut_of_answer (reachable : db.Reachable Instant.InFourDigitYear)
    (reading : stamp.now.IsReading) {operation : Operation} {record : Record}
    (answered : operation.record? (operation.step stamp db).1 = some record) :
    record.IsPut db (operation.step stamp db).2 := by
  -- The cases are those of the operations that answer with a record.
  generalize made : (operation.step stamp db).1 = answer at answered
  unfold record? at answered
  split at answered
  · obtain rfl := Option.some.inj answered
    exact addDepartment_put reading made
  · obtain ⟨department, rfl, rfl⟩ := Option.map_eq_some_iff.mp answered
    exact updateDepartment_put reachable made
  · obtain rfl := Option.some.inj answered
    exact addProfessor_put reading made
  · obtain ⟨professor, rfl, rfl⟩ := Option.map_eq_some_iff.mp answered
    exact updateProfessor_put reachable made
  · obtain rfl := Option.some.inj answered
    exact addRoom_put reading made
  · obtain ⟨room, rfl, rfl⟩ := Option.map_eq_some_iff.mp answered
    exact updateRoom_put reachable made
  · obtain rfl := Option.some.inj answered
    exact addStudent_put reading made
  · obtain ⟨student, rfl, rfl⟩ := Option.map_eq_some_iff.mp answered
    exact updateStudent_put reachable made
  · obtain rfl := Option.some.inj answered
    exact addSubject_put reading reachable.wellFormed.referential made
  · obtain ⟨subject, rfl, rfl⟩ := Option.map_eq_some_iff.mp answered
    exact updateSubject_put reachable made
  · obtain rfl := Option.some.inj answered
    exact addMeeting_put made
  · obtain rfl := Option.some.inj answered
    exact grantSeat_put reading made
  -- No other answer has a record that was written.
  · cases answered

end Operations

namespace Database

/--
In all that can be reached, whatever record an operation answers with is read back, at whatever
instant the clock reads.
-/
theorem Reachable.read_your_writes {db : Database}
    (reachable : db.Reachable Instant.InFourDigitYear) {stamp : Stamp}
    (reading : stamp.now.IsReading) {operation : Operation} {record : Record}
    (answered : operation.record? (operation.step stamp db).1 = some record) :
    record.IsReadBack db (operation.step stamp db).2 := by
  have after : (Transaction.apply ⟨stamp, operation⟩ db).Reachable Instant.InFourDigitYear :=
    reachable.apply reading.inFourDigitYear
  exact (Operation.isPut_of_answer reachable reading answered).isReadBack reachable after

/-- After the sample, a subject that loses a seat is read back with its meeting. -/
theorem read_your_writes_sample :
    let slot : MeetingSlot := ⟨.ofDigit 5, .ofDigit 4, .monday, ⟨.ofHour 10, .ofHour 11⟩, none⟩
    let subject : Subject := ⟨.ofDigit 4, "Algebra", 3, 1, "Spring", none, none,
      (Stamp.ofDigit 4).now, [slot]⟩
    let lowered : Operation :=
      .updateSubject (.ofDigit 4) ⟨none, none, some 1, none, none, none⟩
    (empty.after sampleRun).Reachable Instant.InFourDigitYear ∧
      (Stamp.ofDigit 9).now.IsReading ∧
      lowered.record? (lowered.step (.ofDigit 9) (empty.after sampleRun)).1 =
        some (.subject subject) ∧
      Record.IsReadBack (empty.after sampleRun)
        (lowered.step (.ofDigit 9) (empty.after sampleRun)).2 (.subject subject) := by
  intro slot subject lowered
  have reachable : (empty.after sampleRun).Reachable Instant.InFourDigitYear :=
    ⟨sampleRun, by decide, rfl⟩
  have reading : (Stamp.ofDigit 9).now.IsReading := by decide
  have answered : lowered.record? (lowered.step (.ofDigit 9) (empty.after sampleRun)).1 =
      some (.subject subject) := by decide +kernel
  exact ⟨reachable, reading, answered, reachable.read_your_writes reading answered⟩

end Database

end CourseRegistry
