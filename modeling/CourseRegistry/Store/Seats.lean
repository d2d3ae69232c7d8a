import CourseRegistry.Admission
import CourseRegistry.Store.Subjects

/-! Operations on the seats that students hold. -/

namespace CourseRegistry

namespace Database

/-- How many seats of a subject are taken. -/
def countLiveEnrollments (db : Database) (subjectId : Uuid) : Except StoreError UInt32 :=
  Cell.countOf (db.seatsTaken (.ofId subjectId))

/-- A seat's row with the rows of its subject and of that subject's meetings. -/
structure HeldSeat where
  enrollment : EnrollmentRow
  subject : SubjectRow
  meetings : List MeetingRow

namespace HeldSeat

/-- Each cell that a timetable shows has the right shape. -/
def isReadable (seat : HeldSeat) : Bool :=
  seat.enrollment.isReadable && seat.subject.name.isText && seat.subject.professorId.isTextOrNull &&
    seat.meetings.all MeetingRow.isReadable

/-- The timetable's entry. -/
def decode (seat : HeldSeat) : Except StoreError EnrollmentDetail := do
  let enrollment ← seat.enrollment.decode
  let subjectName ← seat.subject.name.readText
  let professorId ← seat.subject.professorId.readOption Cell.readId
  let schedule ← seat.meetings.mapM MeetingRow.decode
  return ⟨enrollment, subjectName, professorId, schedule⟩

end HeldSeat

/-- The seats of a student in existing subjects, oldest first. -/
def seatsOf (db : Database) (studentId : Uuid) : List HeldSeat :=
  (Cell.sortOn (fun row => [row.enrolledAt, row.enrollmentId])
    (db.enrollments.filter (·.isOf studentId))).flatMap fun row =>
      (db.subjects.filter fun subject =>
        subject.subjectId == row.subjectId && row.subjectId != .null).map fun subject =>
          ⟨row, subject, db.meetingsOf row.subjectId⟩

/-- A student's timetable. -/
def liveEnrollments (db : Database) (studentId : Uuid) :
    Except StoreError (List EnrollmentDetail) :=
  readRows HeldSeat.isReadable HeldSeat.decode (db.seatsOf studentId)

/-- All seats, oldest first. -/
def listEnrollments (db : Database) : Except StoreError (List Enrollment) :=
  readRows EnrollmentRow.isReadable EnrollmentRow.decode
    (Cell.sortOn (fun row => [row.enrolledAt, row.enrollmentId]) db.enrollments)

/-- The meetings of all subjects that a student holds, subject by subject. -/
def heldMeetings (db : Database) (studentId : Uuid) : List MeetingRow :=
  (Cell.sortOn (fun row => [row.subjectId]) (db.enrollments.filter (·.isOf studentId))).flatMap
    fun row => db.meetings.filter fun meeting =>
      meeting.subjectId == row.subjectId && row.subjectId != .null

/-- A student holds a seat in a subject. -/
def holdsSeat (db : Database) (studentId subjectId : Uuid) : Bool :=
  db.enrollments.any fun row => row.isOf studentId && row.isIn subjectId

/-- What the decision on a seat depends on; nothing is read that cannot matter. -/
def snapshot (db : Database) (studentId subjectId : Uuid) (policy : AdmissionPolicy) :
    Except StoreError AdmissionSnapshot := do
  if db.holdsSeat studentId subjectId then return ⟨true, none, []⟩
  match db.subjects.find? (·.subjectId == .ofId subjectId) with
  | none => return ⟨false, none, []⟩
  | some row =>
    -- What the student holds only matters where the timetable counts.
    let meetings := db.meetingsOf (.ofId subjectId)
    let held := if policy.checkTimeConflicts then db.heldMeetings studentId else []
    -- The shape of every cell comes before the meaning of any of them.
    if row.capacity.isInteger && (meetings ++ held).all MeetingRow.isReadable then
      let capacity ← row.capacity.readCount
      let enrolled ← Cell.countOf (db.seatsTaken (.ofId subjectId))
      let schedule ← meetings.mapM MeetingRow.decode
      let held ← held.mapM MeetingRow.decode
      return ⟨false, some ⟨capacity, enrolled, schedule⟩, held⟩
    else .error .database

/-- A student gets a seat in a subject, if the decision is for it. -/
def grantSeat (stamp : Stamp) (studentId subjectId : Uuid) (policy : AdmissionPolicy) :
    Change EnrollOutcome := fun db =>
  match db.snapshot studentId subjectId policy with
  | .error error => (.error error, db)
  | .ok snapshot =>
    match decideAdmission policy snapshot with
    | .reject outcome => (.ok outcome, db)
    | .grant =>
      let enrollment : Enrollment := ⟨stamp.id, studentId, subjectId, stamp.now⟩
      -- An identifier that is taken reads like a seat that is held.
      if db.enrollments.any (·.enrollmentId == .ofId stamp.id) then (.ok .alreadyEnrolled, db)
      else if db.has .student studentId then
        (.ok (.enrolled enrollment),
          { db with enrollments := db.enrollments ++ [.ofEnrollment enrollment] })
      else (.error .database, db)

/-- A student gives back the seat in a subject. -/
def releaseSeat (studentId subjectId : Uuid) : Change CancelOutcome := fun db =>
  if db.holdsSeat studentId subjectId then
    (.ok .cancelled, { db with enrollments := db.enrollments.filter fun row =>
      !(row.isOf studentId && row.isIn subjectId) })
  else (.ok .notEnrolled, db)

end Database

end CourseRegistry
