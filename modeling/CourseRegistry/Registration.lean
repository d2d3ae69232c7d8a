import CourseRegistry.Store.Operation

/-! Enrolling and cancelling for a student who has to be known. -/

namespace CourseRegistry

/-- An error of the records as a refusal. -/
def StoreError.asRefusal (error : StoreError) : Refusal := .infrastructure error.message

/-- A student is known to the records. -/
def checkKnown (studentId : Uuid) : ExceptT Refusal Procedure Unit := do
  match ← Procedure.request (.studentExists studentId) with
  | .ok true => return ()
  | .ok false => throw (.invalidRequest ("unknown student " ++ studentId.text))
  | .error error => throw error.asRefusal

/-- A known student asks for a seat. -/
def enroll (policy : AdmissionPolicy) (studentId subjectId : Uuid) :
    ExceptT Refusal Procedure EnrollOutcome := do
  checkKnown studentId
  match ← Procedure.request (.grantSeat studentId subjectId policy) with
  | .ok outcome => return outcome
  | .error error => throw error.asRefusal

/-- A known student gives a seat back. -/
def cancel (studentId subjectId : Uuid) : ExceptT Refusal Procedure CancelOutcome := do
  checkKnown studentId
  match ← Procedure.request (.releaseSeat studentId subjectId) with
  | .ok outcome => return outcome
  | .error error => throw error.asRefusal

end CourseRegistry
