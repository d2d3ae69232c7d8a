import CourseRegistry.Enrollment
import CourseRegistry.Store.Cell

/-! Stored rows of each kind of record, how records become rows, and how rows are read again. -/

namespace CourseRegistry

/--
Rows are read in two passes: first each cell has to hold a value of the right shape, in all rows,
and only then the rows are made records, one after the other.
-/
def readRows {α ρ : Type} (isReadable : ρ → Bool) (decode : ρ → Except StoreError α)
    (rows : List ρ) : Except StoreError (List α) :=
  -- One cell of the wrong shape fails the whole list, before any row is made a record.
  if rows.all isReadable then rows.mapM decode else .error .database

/-- One row, if there is one, is read in the same two passes. -/
def readRow? {α ρ : Type} (isReadable : ρ → Bool) (decode : ρ → Except StoreError α) :
    Option ρ → Except StoreError (Option α)
  | none => .ok none
  | some row => if isReadable row then some <$> decode row else .error .database

/-- A stored department. -/
structure DepartmentRow where
  departmentId : Cell
  name : Cell
  createdAt : Cell
deriving DecidableEq

namespace DepartmentRow

/-- The row of a department. -/
def ofDepartment (department : Department) : DepartmentRow where
  departmentId := .ofId department.departmentId
  name := .text department.name
  createdAt := .ofInstant department.createdAt

/-- Each cell has the right shape. -/
def isReadable (row : DepartmentRow) : Bool :=
  row.departmentId.isText && row.name.isText && row.createdAt.isText

/-- The department of a row. -/
def decode (row : DepartmentRow) : Except StoreError Department := do
  let departmentId ← row.departmentId.readId
  let name ← row.name.readText
  let createdAt ← row.createdAt.readInstant
  return ⟨departmentId, name, createdAt⟩

end DepartmentRow

/-- A stored professor. -/
structure ProfessorRow where
  professorId : Cell
  name : Cell
  email : Cell
  departmentId : Cell
  createdAt : Cell
deriving DecidableEq

namespace ProfessorRow

/-- The row of a professor. -/
def ofProfessor (professor : Professor) : ProfessorRow where
  professorId := .ofId professor.professorId
  name := .text professor.name
  email := .ofOption .text professor.email
  departmentId := .ofOption .ofId professor.departmentId
  createdAt := .ofInstant professor.createdAt

/-- Each cell has the right shape. -/
def isReadable (row : ProfessorRow) : Bool :=
  row.professorId.isText && row.name.isText && row.email.isTextOrNull &&
    row.departmentId.isTextOrNull && row.createdAt.isText

/-- The professor of a row. -/
def decode (row : ProfessorRow) : Except StoreError Professor := do
  let professorId ← row.professorId.readId
  let name ← row.name.readText
  let email ← row.email.readOption Cell.readText
  let departmentId ← row.departmentId.readOption Cell.readId
  let createdAt ← row.createdAt.readInstant
  return ⟨professorId, name, email, departmentId, createdAt⟩

end ProfessorRow

/-- A stored room. -/
structure RoomRow where
  roomId : Cell
  name : Cell
  building : Cell
  createdAt : Cell
deriving DecidableEq

namespace RoomRow

/-- The row of a room. -/
def ofRoom (room : Room) : RoomRow where
  roomId := .ofId room.roomId
  name := .text room.name
  building := .ofOption .text room.building
  createdAt := .ofInstant room.createdAt

/-- Each cell has the right shape. -/
def isReadable (row : RoomRow) : Bool :=
  row.roomId.isText && row.name.isText && row.building.isTextOrNull && row.createdAt.isText

/-- The room of a row. -/
def decode (row : RoomRow) : Except StoreError Room := do
  let roomId ← row.roomId.readId
  let name ← row.name.readText
  let building ← row.building.readOption Cell.readText
  let createdAt ← row.createdAt.readInstant
  return ⟨roomId, name, building, createdAt⟩

end RoomRow

/-- A stored student. -/
structure StudentRow where
  studentId : Cell
  studentNumber : Cell
  name : Cell
  departmentId : Cell
  grade : Cell
  /-- The hash that the student signs in against; it is read for nothing else. -/
  passwordHash : Cell
  createdAt : Cell
deriving DecidableEq

namespace StudentRow

/-- The row of a student. -/
def ofStudent (student : Student) (passwordHash : Option String) : StudentRow where
  studentId := .ofId student.studentId
  studentNumber := .text student.studentNumber
  name := .text student.name
  departmentId := .ofOption .ofId student.departmentId
  grade := .ofOption .text student.grade
  passwordHash := .ofOption .text passwordHash
  createdAt := .ofInstant student.createdAt

/-- Each cell of the record has the right shape. -/
def isReadable (row : StudentRow) : Bool :=
  row.studentId.isText && row.studentNumber.isText && row.name.isText &&
    row.departmentId.isTextOrNull && row.grade.isTextOrNull && row.createdAt.isText

/-- The student of a row. -/
def decode (row : StudentRow) : Except StoreError Student := do
  let studentId ← row.studentId.readId
  let studentNumber ← row.studentNumber.readText
  let name ← row.name.readText
  let departmentId ← row.departmentId.readOption Cell.readId
  let grade ← row.grade.readOption Cell.readText
  let createdAt ← row.createdAt.readInstant
  return ⟨studentId, studentNumber, name, departmentId, grade, createdAt⟩

/-- Each cell that signing in needs has the right shape. -/
def isLoginReadable (row : StudentRow) : Bool :=
  -- The rest of the record may hold anything here.
  row.studentId.isText && row.passwordHash.isTextOrNull

/-- What signing in needs of a row. -/
def decodeLogin (row : StudentRow) : Except StoreError StudentLogin := do
  let studentId ← row.studentId.readId
  let passwordHash ← row.passwordHash.readOption Cell.readText
  return ⟨studentId, passwordHash⟩

end StudentRow

/-- A stored meeting. -/
structure MeetingRow where
  slotId : Cell
  subjectId : Cell
  weekday : Cell
  startSecond : Cell
  endSecond : Cell
  roomId : Cell
deriving DecidableEq

namespace MeetingRow

/-- The row of a meeting. -/
def ofMeeting (slot : MeetingSlot) : MeetingRow where
  slotId := .ofId slot.slotId
  subjectId := .ofId slot.subjectId
  weekday := .ofWeekday slot.day
  startSecond := .ofTime slot.time.start
  endSecond := .ofTime slot.time.finish
  roomId := .ofOption .ofId slot.roomId

/-- Each cell has the right shape. -/
def isReadable (row : MeetingRow) : Bool :=
  row.slotId.isText && row.subjectId.isText && row.weekday.isInteger && row.startSecond.isInteger &&
    row.endSecond.isInteger && row.roomId.isTextOrNull

/-- The meeting of a row; its times are looked at first. -/
def decode (row : MeetingRow) : Except StoreError MeetingSlot := do
  let start ← row.startSecond.readTime
  let finish ← row.endSecond.readTime
  -- Stored times in the wrong order are refused like those of a new meeting.
  let time ← (TimeRange.between start finish).mapError StoreError.refused
  let slotId ← row.slotId.readId
  let subjectId ← row.subjectId.readId
  let day ← row.weekday.readWeekday
  let roomId ← row.roomId.readOption Cell.readId
  return ⟨slotId, subjectId, day, time, roomId⟩

end MeetingRow

/-- A stored subject. -/
structure SubjectRow where
  subjectId : Cell
  name : Cell
  credits : Cell
  capacity : Cell
  semester : Cell
  professorId : Cell
  departmentId : Cell
  createdAt : Cell
deriving DecidableEq

namespace SubjectRow

/-- The row of a subject; its meetings are stored apart. -/
def ofSubject (subject : Subject) : SubjectRow where
  subjectId := .ofId subject.subjectId
  name := .text subject.name
  credits := .ofCount subject.credits
  capacity := .ofCount subject.capacity
  semester := .text subject.semester
  professorId := .ofOption .ofId subject.professorId
  departmentId := .ofOption .ofId subject.departmentId
  createdAt := .ofInstant subject.createdAt

/-- Each cell has the right shape. -/
def isReadable (row : SubjectRow) : Bool :=
  row.subjectId.isText && row.name.isText && row.credits.isInteger && row.capacity.isInteger &&
    row.semester.isText && row.professorId.isTextOrNull && row.departmentId.isTextOrNull &&
    row.createdAt.isText

/-- The subject of a row with the meetings found for it. -/
def decode (row : SubjectRow) (schedule : List MeetingSlot) : Except StoreError Subject := do
  let subjectId ← row.subjectId.readId
  let name ← row.name.readText
  let credits ← row.credits.readCount
  let capacity ← row.capacity.readCount
  let semester ← row.semester.readText
  let professorId ← row.professorId.readOption Cell.readId
  let departmentId ← row.departmentId.readOption Cell.readId
  let createdAt ← row.createdAt.readInstant
  return ⟨subjectId, name, credits, capacity, semester, professorId, departmentId, createdAt,
    schedule⟩

end SubjectRow

/-- A stored seat. -/
structure EnrollmentRow where
  enrollmentId : Cell
  studentId : Cell
  subjectId : Cell
  enrolledAt : Cell
deriving DecidableEq

namespace EnrollmentRow

/-- The row of a seat. -/
def ofEnrollment (enrollment : Enrollment) : EnrollmentRow where
  enrollmentId := .ofId enrollment.enrollmentId
  studentId := .ofId enrollment.studentId
  subjectId := .ofId enrollment.subjectId
  enrolledAt := .ofInstant enrollment.enrolledAt

/-- Each cell has the right shape. -/
def isReadable (row : EnrollmentRow) : Bool :=
  row.enrollmentId.isText && row.studentId.isText && row.subjectId.isText && row.enrolledAt.isText

/-- The seat of a row. -/
def decode (row : EnrollmentRow) : Except StoreError Enrollment := do
  let enrollmentId ← row.enrollmentId.readId
  let studentId ← row.studentId.readId
  let subjectId ← row.subjectId.readId
  let enrolledAt ← row.enrolledAt.readInstant
  return ⟨enrollmentId, studentId, subjectId, enrolledAt⟩

/-- The student of this seat is the given one. -/
def isOf (row : EnrollmentRow) (studentId : Uuid) : Bool :=
  row.studentId == .ofId studentId

/-- The subject of this seat is the given one. -/
def isIn (row : EnrollmentRow) (subjectId : Uuid) : Bool :=
  row.subjectId == .ofId subjectId

end EnrollmentRow

end CourseRegistry
