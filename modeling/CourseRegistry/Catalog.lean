import CourseRegistry.Schedule
import CourseRegistry.Text.Blank
import CourseRegistry.Time.Instant

/-! The records of a university's catalogue and what may be asked to change in them. -/

namespace CourseRegistry

/-- A department. -/
structure Department where
  departmentId : Uuid
  name : String
  createdAt : Instant
deriving DecidableEq

/-- What a department is made from. -/
structure NewDepartment where
  name : String
deriving DecidableEq

/-- A professor, who may belong to a department. -/
structure Professor where
  professorId : Uuid
  name : String
  email : Option String
  departmentId : Option Uuid
  createdAt : Instant
deriving DecidableEq

/-- What a professor's record is made from. -/
structure NewProfessor where
  name : String
  email : Option String
  departmentId : Option Uuid
deriving DecidableEq

/-- A room, perhaps in a building. -/
structure Room where
  roomId : Uuid
  name : String
  building : Option String
  createdAt : Instant
deriving DecidableEq

/-- What a room is made from. -/
structure NewRoom where
  name : String
  building : Option String
deriving DecidableEq

/-- A student, known to the outside by a number. -/
structure Student where
  studentId : Uuid
  studentNumber : String
  name : String
  departmentId : Option Uuid
  grade : Option String
  createdAt : Instant
deriving DecidableEq

/-- What a student's record is made from. -/
structure NewStudent where
  studentNumber : String
  name : String
  departmentId : Option Uuid
  grade : Option String
  /-- The hash that the student signs in against; without one nobody signs in. -/
  passwordHash : Option String
deriving DecidableEq

/-- What signing in as a student needs. -/
structure StudentLogin where
  studentId : Uuid
  passwordHash : Option String
deriving DecidableEq

/-- A subject with its weekly meetings. -/
structure Subject where
  subjectId : Uuid
  name : String
  credits : UInt32
  /-- How many seats there are. -/
  capacity : UInt32
  semester : String
  professorId : Option Uuid
  departmentId : Option Uuid
  createdAt : Instant
  schedule : List MeetingSlot
deriving DecidableEq

/-- What a subject is made from. -/
structure NewSubject where
  name : String
  credits : UInt32
  capacity : UInt32
  semester : String
  professorId : Option Uuid
  departmentId : Option Uuid
deriving DecidableEq

/-- A subject has at least one seat. -/
def checkCapacity (capacity : UInt32) : Except Refusal Unit :=
  if capacity = 0 then .error (.zeroCapacity capacity) else .ok ()

/-- A subject's name is not blank. -/
def checkSubjectName (name : String) : Except Refusal Unit :=
  if Text.isBlankText name then .error (.invalidRequest "subject name is empty") else .ok ()

/-- A subject can be made when it has a seat and a name. -/
def NewSubject.validate (input : NewSubject) : Except Refusal Unit := do
  checkCapacity input.capacity
  checkSubjectName input.name

/--
Changes to a subject.
What is absent stays as it is; a professor or a department can also be set to nothing.
-/
structure SubjectPatch where
  name : Option String
  credits : Option UInt32
  capacity : Option UInt32
  semester : Option String
  professorId : Option (Option Uuid)
  departmentId : Option (Option Uuid)
deriving DecidableEq

namespace SubjectPatch

/-- The changed subject still has a seat and a name. -/
def validate (patch : SubjectPatch) : Except Refusal Unit := do
  if let some capacity := patch.capacity then checkCapacity capacity
  if let some name := patch.name then checkSubjectName name

/-- Nothing is to change. -/
def isEmpty (patch : SubjectPatch) : Bool :=
  patch.name.isNone && patch.credits.isNone && patch.capacity.isNone && patch.semester.isNone &&
    patch.professorId.isNone && patch.departmentId.isNone

end SubjectPatch

/-- A subject as students choose from, with its seats counted. -/
structure SubjectListing where
  subject : Subject
  /-- How many seats are taken. -/
  enrolled : UInt32
  /-- How many seats are free. -/
  remaining : UInt32
deriving DecidableEq

namespace SubjectListing

/-- The free seats are those not taken, and none when more are taken than there are. -/
def ofSubject (subject : Subject) (enrolled : UInt32) : SubjectListing where
  subject
  enrolled
  remaining := if enrolled ≤ subject.capacity then subject.capacity - enrolled else 0

/-- No seat is free. -/
def isFull (listing : SubjectListing) : Bool :=
  listing.remaining == 0

end SubjectListing

/-- Which subjects are asked for, and which stretch of their list. -/
structure SubjectQuery where
  /-- What the name contains. -/
  text : Option String
  departmentId : Option Uuid
  professorId : Option Uuid
  semester : Option String
  /-- How many at most. -/
  limit : Option Nat
  /-- How many to pass over first. -/
  offset : Option Nat
deriving DecidableEq

end CourseRegistry
