import CourseRegistry.Catalog

/-! Seats that students hold, and the answers to asking for a seat or giving one back. -/

namespace CourseRegistry

/-- A student's seat in a subject. -/
structure Enrollment where
  enrollmentId : Uuid
  studentId : Uuid
  subjectId : Uuid
  enrolledAt : Instant
deriving DecidableEq

/-- A seat with what a timetable shows of its subject. -/
structure EnrollmentDetail where
  enrollment : Enrollment
  subjectName : String
  professorId : Option Uuid
  schedule : List MeetingSlot
deriving DecidableEq

/-- The answer to asking for a seat. -/
inductive EnrollOutcome where
  /-- The seat was given. -/
  | enrolled (enrollment : Enrollment)
  /-- The student holds a seat there already. -/
  | alreadyEnrolled
  /-- There is no such subject. -/
  | subjectNotFound
  /-- All seats are taken. -/
  | capacityExceeded
  /-- A meeting clashes with one of a subject that the student holds. -/
  | timeConflict (conflictingSubjectId : Uuid)
deriving DecidableEq

namespace EnrollOutcome

/-- A seat was given. -/
def isEnrolled : EnrollOutcome → Bool
  | enrolled _ => true
  | _ => false

/-- The word for the answer. -/
def kind : EnrollOutcome → String
  | enrolled _ => "enrolled"
  | alreadyEnrolled => "already_enrolled"
  | subjectNotFound => "subject_not_found"
  | capacityExceeded => "capacity_exceeded"
  | timeConflict _ => "time_conflict"

/-- The sentence for the answer. -/
def message : EnrollOutcome → String
  | enrolled _ => "enrollment completed"
  | alreadyEnrolled => "already enrolled in this subject"
  | subjectNotFound => "subject does not exist"
  | capacityExceeded => "enrollment capacity exceeded"
  | timeConflict _ => "schedule conflict with an existing enrollment"

end EnrollOutcome

/-- The answer to giving a seat back. -/
inductive CancelOutcome where
  /-- The seat is free again. -/
  | cancelled
  /-- There was no such seat. -/
  | notEnrolled
deriving DecidableEq

namespace CancelOutcome

/-- The word for the answer. -/
def kind : CancelOutcome → String
  | cancelled => "cancelled"
  | notEnrolled => "not_enrolled"

/-- The sentence for the answer. -/
def message : CancelOutcome → String
  | cancelled => "enrollment cancelled"
  | notEnrolled => "not enrolled in this subject"

end CancelOutcome

end CourseRegistry
