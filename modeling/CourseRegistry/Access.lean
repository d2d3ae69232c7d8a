import CourseRegistry.Refusal
import CourseRegistry.Uuid

/-! Who is calling and what they may do. -/

namespace CourseRegistry

/-- A caller who has signed in. -/
inductive Principal where
  | admin
  | student (studentId : Uuid)
deriving DecidableEq

/-- Something that needs permission. -/
inductive Capability where
  /-- Changing the catalogue, or seeing all of it. -/
  | manageCatalog
  /-- Enrolling a student, or giving up that student's seat. -/
  | enrollFor (studentId : Uuid)
  /-- Seeing a student's record. -/
  | viewStudent (studentId : Uuid)
deriving DecidableEq

namespace Principal

/-- The administrator may do everything; a student acts for nobody else. -/
def can : Principal → Capability → Bool
  | admin, _ => true
  | student _, .manageCatalog => false
  | student me, .enrollFor id => me == id
  | student me, .viewStudent id => me == id

/-- What may not be done is refused. -/
def authorize (principal : Principal) (capability : Capability) : Except Refusal Unit :=
  if principal.can capability then .ok () else .error .forbidden

/-- The student who is calling. -/
def studentId? : Principal → Option Uuid
  | admin => none
  | student id => some id

end Principal

end CourseRegistry
