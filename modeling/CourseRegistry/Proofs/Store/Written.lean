import CourseRegistry.Proofs.Store.Effect
import CourseRegistry.Proofs.Store.Row
import CourseRegistry.Proofs.Store.Run

/-!
Written tables: each row is that of some record.
Every operation keeps tables written, so that all that can be reached reads back.
-/

namespace CourseRegistry

open Database

/-- A department with all that is said of it replaced, but for who and since when it is. -/
def NewDepartment.applied (input : NewDepartment) (department : Department) : Department :=
  { department with name := input.name }

/-- A professor with all that is said of them replaced. -/
def NewProfessor.applied (input : NewProfessor) (professor : Professor) : Professor :=
  { professor with
    name := input.name
    email := input.email
    departmentId := input.departmentId }

/-- A room with all that is said of it replaced. -/
def NewRoom.applied (input : NewRoom) (room : Room) : Room :=
  { room with name := input.name, building := input.building }

/-- A student with all that is said of them replaced. -/
def NewStudent.applied (input : NewStudent) (student : Student) : Student :=
  { student with
    studentNumber := input.studentNumber
    name := input.name
    departmentId := input.departmentId
    grade := input.grade }

/-- Replacing a student's row replaces the record, and the hash as well where one is given. -/
theorem StudentRow.replaced_ofStudent {row : StudentRow} {student : Student} {hash : Option String}
    (is : row = ofStudent student hash) (input : NewStudent) :
    { row with
      studentNumber := .text input.studentNumber
      name := .text input.name
      departmentId := .ofOption .ofId input.departmentId
      grade := .ofOption .text input.grade
      passwordHash := (input.passwordHash.map Cell.text).getD row.passwordHash } =
    ofStudent (input.applied student) (input.passwordHash.or hash) := by
  subst is
  -- Where no new hash is given, the old one stays.
  cases input.passwordHash <;> rfl

/-- The subject after a change to it. -/
def SubjectPatch.applied (patch : SubjectPatch) (subject : Subject) : Subject :=
  { subject with
    name := patch.name.getD subject.name
    credits := patch.credits.getD subject.credits
    capacity := patch.capacity.getD subject.capacity
    semester := patch.semester.getD subject.semester
    professorId := patch.professorId.getD subject.professorId
    departmentId := patch.departmentId.getD subject.departmentId }

/-- A change to a subject's row is the change to the subject. -/
theorem patched_ofSubject (patch : SubjectPatch) (subject : Subject) :
    patched patch (.ofSubject subject) = .ofSubject (patch.applied subject) := by
  -- Column by column: what the patch sets is stored like what a new subject has.
  simp only [patched, SubjectRow.ofSubject, SubjectPatch.applied, Option.getD_map]

section Rows

variable (clock : Instant → Prop)

/-- A row is that of a department that was added at an instant of the clock. -/
def DepartmentRow.IsWritten (row : DepartmentRow) : Prop :=
  ∃ department, clock department.createdAt ∧ row = ofDepartment department

/-- A row is that of a professor. -/
def ProfessorRow.IsWritten (row : ProfessorRow) : Prop :=
  ∃ professor, clock professor.createdAt ∧ row = ofProfessor professor

/-- A row is that of a room. -/
def RoomRow.IsWritten (row : RoomRow) : Prop :=
  ∃ room, clock room.createdAt ∧ row = ofRoom room

/-- A row is that of a student, with or without a hash to sign in against. -/
def StudentRow.IsWritten (row : StudentRow) : Prop :=
  ∃ student hash, clock student.createdAt ∧ row = ofStudent student hash

/-- A row is that of a subject. -/
def SubjectRow.IsWritten (row : SubjectRow) : Prop :=
  ∃ subject, clock subject.createdAt ∧ row = ofSubject subject

/-- A row is that of a meeting that can be stored. -/
def MeetingRow.IsWritten (row : MeetingRow) : Prop :=
  ∃ slot, slot.IsStorable ∧ row = ofMeeting slot

/-- A row is that of a seat that was granted at an instant of the clock. -/
def EnrollmentRow.IsWritten (row : EnrollmentRow) : Prop :=
  ∃ enrollment, clock enrollment.enrolledAt ∧ row = ofEnrollment enrollment

/-- Each row of the tables is written. -/
structure Database.Written (db : Database) : Prop where
  departments : ∀ row ∈ db.departments, row.IsWritten clock
  professors : ∀ row ∈ db.professors, row.IsWritten clock
  rooms : ∀ row ∈ db.rooms, row.IsWritten clock
  students : ∀ row ∈ db.students, row.IsWritten clock
  subjects : ∀ row ∈ db.subjects, row.IsWritten clock
  meetings : ∀ row ∈ db.meetings, row.IsWritten
  enrollments : ∀ row ∈ db.enrollments, row.IsWritten clock

end Rows

section Effects

variable {clock : Instant → Prop} {stamp : Stamp} {db changed : Database} {operation : Operation}

/-- A professor loses the department that is deleted, and stays written. -/
theorem ProfessorRow.IsWritten.withoutDepartment {row : ProfessorRow}
    (written : row.IsWritten clock) (id : Uuid) :
    IsWritten clock { row with departmentId := row.departmentId.withoutId id } := by
  obtain ⟨professor, reading, rfl⟩ := written
  -- Whether the department was the one that goes or not, there is a record with what is left.
  obtain ⟨departmentId, cleared⟩ := Cell.withoutId_ofOption id professor.departmentId
  exact ⟨{ professor with departmentId }, reading, by simp only [ofProfessor, cleared]⟩

/-- A student loses the department that is deleted, and stays written. -/
theorem StudentRow.IsWritten.withoutDepartment {row : StudentRow} (written : row.IsWritten clock)
    (id : Uuid) : IsWritten clock { row with departmentId := row.departmentId.withoutId id } := by
  obtain ⟨student, hash, reading, rfl⟩ := written
  obtain ⟨departmentId, cleared⟩ := Cell.withoutId_ofOption id student.departmentId
  exact ⟨{ student with departmentId }, hash, reading, by simp only [ofStudent, cleared]⟩

/-- A subject loses the department that is deleted, and stays written. -/
theorem SubjectRow.IsWritten.withoutDepartment {row : SubjectRow} (written : row.IsWritten clock)
    (id : Uuid) : IsWritten clock { row with departmentId := row.departmentId.withoutId id } := by
  obtain ⟨subject, reading, rfl⟩ := written
  -- Only the one reference is cleared, and the rest of the record is as before.
  obtain ⟨departmentId, cleared⟩ := Cell.withoutId_ofOption id subject.departmentId
  exact ⟨{ subject with departmentId }, reading, by simp only [ofSubject, cleared]⟩

/-- A subject loses the professor that is deleted, and stays written. -/
theorem SubjectRow.IsWritten.withoutProfessor {row : SubjectRow} (written : row.IsWritten clock)
    (id : Uuid) : IsWritten clock { row with professorId := row.professorId.withoutId id } := by
  obtain ⟨subject, reading, rfl⟩ := written
  obtain ⟨professorId, cleared⟩ := Cell.withoutId_ofOption id subject.professorId
  exact ⟨{ subject with professorId }, reading, by simp only [ofSubject, cleared]⟩

/-- A department that is renamed keeps its identifier and its instant, and stays written. -/
theorem DepartmentRow.IsWritten.renamed {row : DepartmentRow} (written : row.IsWritten clock)
    (input : NewDepartment) : IsWritten clock { row with name := .text input.name } := by
  obtain ⟨department, reading, rfl⟩ := written
  -- The row of the renamed department is that of the record with the new name.
  exact ⟨input.applied department, reading, rfl⟩

/-- A professor whose record is replaced stays written. -/
theorem ProfessorRow.IsWritten.replaced {row : ProfessorRow} (written : row.IsWritten clock)
    (input : NewProfessor) :
    IsWritten clock { row with
      name := .text input.name
      email := .ofOption .text input.email
      departmentId := .ofOption .ofId input.departmentId } := by
  obtain ⟨professor, reading, rfl⟩ := written
  exact ⟨input.applied professor, reading, rfl⟩

/-- A room whose record is replaced stays written. -/
theorem RoomRow.IsWritten.replaced {row : RoomRow} (written : row.IsWritten clock)
    (input : NewRoom) :
    IsWritten clock { row with
      name := .text input.name, building := .ofOption .text input.building } := by
  obtain ⟨room, reading, rfl⟩ := written
  exact ⟨input.applied room, reading, rfl⟩

/-- A student whose record is replaced stays written. -/
theorem StudentRow.IsWritten.replaced {row : StudentRow} (written : row.IsWritten clock)
    (input : NewStudent) :
    IsWritten clock { row with
      studentNumber := .text input.studentNumber
      name := .text input.name
      departmentId := .ofOption .ofId input.departmentId
      grade := .ofOption .text input.grade
      passwordHash := (input.passwordHash.map Cell.text).getD row.passwordHash } := by
  obtain ⟨student, hash, reading, rfl⟩ := written
  exact ⟨input.applied student, input.passwordHash.or hash, reading, replaced_ofStudent rfl input⟩

/-- A changed subject stays written. -/
theorem SubjectRow.IsWritten.patched {row : SubjectRow} (written : row.IsWritten clock)
    (patch : SubjectPatch) : (patched patch row).IsWritten clock := by
  obtain ⟨subject, reading, rfl⟩ := written
  exact ⟨patch.applied subject, reading, patched_ofSubject patch subject⟩

/-- A meeting loses the room that is deleted, and stays written. -/
theorem MeetingRow.IsWritten.withoutRoom {row : MeetingRow} (written : row.IsWritten) (id : Uuid) :
    IsWritten { row with roomId := row.roomId.withoutId id } := by
  obtain ⟨slot, storable, rfl⟩ := written
  obtain ⟨roomId, cleared⟩ := Cell.withoutId_ofOption id slot.roomId
  -- Whether a meeting can be stored does not depend on its room.
  exact ⟨{ slot with roomId }, ⟨storable.start_whole, storable.finish_whole, storable.ordered⟩,
    by simp only [ofMeeting, cleared]⟩

section Tables

variable (effect : Effect stamp db operation changed) (reading : clock stamp.now)
  (written : db.Written clock)

include effect reading written

/-- Departments stay written. -/
theorem Effect.writtenDepartments : ∀ row ∈ changed.departments, row.IsWritten clock := by
  cases effect with
  -- A new row is that of a record with the instant at hand.
  | departmentAdded =>
    exact forall_mem_add written.departments (fun _ => id) ⟨_, reading, rfl⟩
  -- The row that is found was written, and so is the row with another name.
  | departmentUpdated found =>
    exact forall_mem_replace written.departments (fun _ => id)
      ((written.departments _ found).renamed _)
  | departmentDeleted => exact forall_mem_remove written.departments fun _ _ => id
  -- No other operation touches departments.
  | _ => exact written.departments

/-- Professors stay written. -/
theorem Effect.writtenProfessors : ∀ row ∈ changed.professors, row.IsWritten clock := by
  cases effect with
  -- What belonged to a deleted department is that of a record without one.
  | departmentDeleted =>
    exact forall_mem_change written.professors fun _ row => row.withoutDepartment _
  | professorAdded =>
    exact forall_mem_add written.professors (fun _ => id) ⟨_, reading, rfl⟩
  | professorUpdated found =>
    exact forall_mem_replace written.professors (fun _ => id)
      ((written.professors _ found).replaced _)
  | professorDeleted => exact forall_mem_remove written.professors fun _ _ => id
  -- No other operation touches professors.
  | _ => exact written.professors

/-- Rooms stay written. -/
theorem Effect.writtenRooms : ∀ row ∈ changed.rooms, row.IsWritten clock := by
  cases effect with
  | roomAdded => exact forall_mem_add written.rooms (fun _ => id) ⟨_, reading, rfl⟩
  | roomUpdated found =>
    exact forall_mem_replace written.rooms (fun _ => id) ((written.rooms _ found).replaced _)
  | roomDeleted => exact forall_mem_remove written.rooms fun _ _ => id
  -- No other operation touches rooms.
  | _ => exact written.rooms

/-- Students stay written. -/
theorem Effect.writtenStudents : ∀ row ∈ changed.students, row.IsWritten clock := by
  cases effect with
  | departmentDeleted =>
    exact forall_mem_change written.students fun _ row => row.withoutDepartment _
  -- With the record, a hash is stored, or that there is none.
  | studentAdded => exact forall_mem_add written.students (fun _ => id) ⟨_, _, reading, rfl⟩
  | studentUpdated found =>
    exact forall_mem_replace written.students (fun _ => id) ((written.students _ found).replaced _)
  | studentDeleted => exact forall_mem_remove written.students fun _ _ => id
  -- No other operation touches students.
  | _ => exact written.students

/-- Subjects stay written. -/
theorem Effect.writtenSubjects : ∀ row ∈ changed.subjects, row.IsWritten clock := by
  cases effect with
  | departmentDeleted =>
    exact forall_mem_change written.subjects fun _ row => row.withoutDepartment _
  | professorDeleted =>
    exact forall_mem_change written.subjects fun _ row => row.withoutProfessor _
  | subjectAdded => exact forall_mem_add written.subjects (fun _ => id) ⟨_, reading, rfl⟩
  | subjectUpdated found =>
    exact forall_mem_replace written.subjects (fun _ => id) ((written.subjects _ found).patched _)
  | subjectDeleted => exact forall_mem_remove written.subjects fun _ _ => id
  -- No other operation touches subjects.
  | _ => exact written.subjects

omit reading in
/-- Meetings stay written. -/
theorem Effect.writtenMeetings : ∀ row ∈ changed.meetings, row.IsWritten := by
  -- Meetings have no instant, so that the clock has no say in them.
  cases effect with
  | roomDeleted => exact forall_mem_change written.meetings fun _ row => row.withoutRoom _
  | subjectDeleted | meetingRemoved => exact forall_mem_remove written.meetings fun _ _ => id
  -- What was accepted can be stored.
  | meetingAdded accepted =>
    exact forall_mem_add written.meetings (fun _ => id)
      ⟨_, NewMeeting.isStorable_of_timeRange accepted _ _ _, rfl⟩
  -- No other operation touches meetings.
  | _ => exact written.meetings

/-- Seats stay written. -/
theorem Effect.writtenEnrollments : ∀ row ∈ changed.enrollments, row.IsWritten clock := by
  cases effect with
  | studentDeleted | subjectDeleted | seatReleased =>
    exact forall_mem_remove written.enrollments fun _ _ => id
  -- A seat has the instant of its request.
  | seatGranted => exact forall_mem_add written.enrollments (fun _ => id) ⟨_, reading, rfl⟩
  -- No other operation touches seats.
  | _ => exact written.enrollments

/-- An operation writes nothing but rows of records. -/
theorem Effect.stillWritten : changed.Written clock where
  departments := effect.writtenDepartments reading written
  professors := effect.writtenProfessors reading written
  rooms := effect.writtenRooms reading written
  students := effect.writtenStudents reading written
  subjects := effect.writtenSubjects reading written
  meetings := effect.writtenMeetings written
  enrollments := effect.writtenEnrollments reading written

end Tables

end Effects

namespace Database

/-- Empty tables have nothing that is not written. -/
theorem written_empty {clock : Instant → Prop} : empty.Written clock := by
  constructor <;> exact List.forall_mem_nil _

/-- All that can be reached is written. -/
theorem Reachable.written {clock : Instant → Prop} {db : Database}
    (reachable : db.Reachable clock) : db.Written clock :=
  -- The invariant is carried along the run by what each operation does to the tables.
  reachable.invariant (Written clock) written_empty fun db transaction reading written =>
    (transaction.operation.step_effect transaction.stamp db).stillWritten reading written

/--
What was written at instants of four-digit years was written at instants that clocks read.
An instant is stored as clocks show it, so that the tables do not tell the two apart.
-/
theorem Written.readings {db : Database} (written : db.Written Instant.InFourDigitYear) :
    db.Written Instant.IsReading where
  -- The record as clocks show it has the same row.
  departments row member := by
    obtain ⟨department, plain, rfl⟩ := written.departments row member
    refine ⟨{ department with createdAt := department.createdAt.shown }, plain.shown, ?_⟩
    rw [DepartmentRow.ofDepartment, DepartmentRow.ofDepartment, Cell.ofInstant_shown]
  professors row member := by
    obtain ⟨professor, plain, rfl⟩ := written.professors row member
    refine ⟨{ professor with createdAt := professor.createdAt.shown }, plain.shown, ?_⟩
    rw [ProfessorRow.ofProfessor, ProfessorRow.ofProfessor, Cell.ofInstant_shown]
  rooms row member := by
    obtain ⟨room, plain, rfl⟩ := written.rooms row member
    refine ⟨{ room with createdAt := room.createdAt.shown }, plain.shown, ?_⟩
    rw [RoomRow.ofRoom, RoomRow.ofRoom, Cell.ofInstant_shown]
  students row member := by
    obtain ⟨student, hash, plain, rfl⟩ := written.students row member
    refine ⟨{ student with createdAt := student.createdAt.shown }, hash, plain.shown, ?_⟩
    rw [StudentRow.ofStudent, StudentRow.ofStudent, Cell.ofInstant_shown]
  subjects row member := by
    obtain ⟨subject, plain, rfl⟩ := written.subjects row member
    refine ⟨{ subject with createdAt := subject.createdAt.shown }, plain.shown, ?_⟩
    rw [SubjectRow.ofSubject, SubjectRow.ofSubject, Cell.ofInstant_shown]
  -- A meeting is written without any instant.
  meetings := written.meetings
  enrollments row member := by
    obtain ⟨enrollment, plain, rfl⟩ := written.enrollments row member
    refine ⟨{ enrollment with enrolledAt := enrollment.enrolledAt.shown }, plain.shown, ?_⟩
    rw [EnrollmentRow.ofEnrollment, EnrollmentRow.ofEnrollment, Cell.ofInstant_shown]

/-- All that a clock of four-digit years can reach was written at instants that clocks read. -/
theorem Reachable.readings {db : Database} (reachable : db.Reachable Instant.InFourDigitYear) :
    db.Written Instant.IsReading :=
  reachable.written.readings

/-- What is found for signing in is what the row of the student says. -/
theorem Written.exists_row_of_studentLogin {clock : Instant → Prop} {db : Database}
    (written : db.Written clock) {number : String} {login : StudentLogin}
    (found : db.studentLogin number = .ok (some login)) :
    ∃ row ∈ db.students, row.studentNumber = .text number ∧
      row.studentId = .ofId login.studentId ∧
        row.passwordHash = .ofOption .text login.passwordHash := by
  unfold studentLogin at found
  cases search : db.students.find? (·.studentNumber == .text number) with
  -- Without such a student nothing is found.
  | none => simp [search, readRow?] at found
  -- The row was written, so that it reads as the identifier and the hash that it was made from.
  | some row =>
    obtain ⟨member, isIt⟩ := mem_of_find?_key search
    obtain ⟨student, hash, -, rfl⟩ := written.students row member
    rw [search, readRow?, if_pos (StudentRow.isLoginReadable_ofStudent student hash),
      StudentRow.decodeLogin_ofStudent, map_ok, Except.ok.injEq, Option.some.injEq] at found
    subst found
    exact ⟨_, member, isIt, rfl, rfl⟩

end Database

end CourseRegistry
