import CourseRegistry.Api.Handler
import CourseRegistry.Registration
import CourseRegistry.Text.Blank
import CourseRegistry.Wire.Enrollment

/-! Enrolling and cancelling over HTTP, and the lists of seats. -/

namespace CourseRegistry.Api

open Http

/-- Who is to be enrolled where, as texts. -/
structure EnrollParams where
  studentId : Option String
  subjectId : Option String
deriving DecidableEq

/-- A text that says something. -/
def spoken (text : Option String) : Option String :=
  text.filter fun text => !Text.isBlankText text

namespace EnrollParams

/-- The parameters of a form, in which no field comes twice; a subject has two names. -/
def ofForm? (form : List UInt8) : Option EnrollParams := do
  let pairs := formPairs form
  return ⟨← single? ["studentId"] pairs, ← single? ["subjectId", "sectionId"] pairs⟩

/-- The parameters of a body that is declared to be a form. -/
def ofBody? (request : Request) : Option EnrollParams :=
  if declaresForm request.contentType && request.body.length ≤ maxBodySize then
    ofForm? request.body
  else none

/-- What a body says counts before what the query says. -/
def merge (query : EnrollParams) : (body : Option EnrollParams) → EnrollParams
  | none => query
  | some body =>
    ⟨(spoken body.studentId).or query.studentId, (spoken body.subjectId).or query.subjectId⟩

/-- The identifier that a text spells between blanks. -/
def parseId (field text : String) : Except ApiError Uuid :=
  match Uuid.ofText? (Text.trim text) with
  | some id => .ok id
  | none => .error (.badRequest (field ++ " is not a valid id: " ++ Text.quoted text))

/-- The student, who is the caller unless named, and the subject. -/
def resolve (params : EnrollParams) (principal : Principal) : Except ApiError (Uuid × Uuid) := do
  let studentId ← match spoken params.studentId with
    | some text => parseId "studentId" text
    | none =>
      match principal.studentId? with
      | some id => .ok id
      | none => .error (.badRequest "studentId is required")
  match spoken params.subjectId with
  | some text => return (studentId, ← parseId "subjectId" text)
  | none => .error (.badRequest "subjectId is required")

end EnrollParams

/-- The status that goes with an answer to asking for a seat. -/
def enrollStatus : EnrollOutcome → Nat
  | .enrolled _ => 201
  | .subjectNotFound => 404
  | .alreadyEnrolled => 409
  | .capacityExceeded => 409
  | .timeConflict _ => 409

/-- An answer with its sentence as a response. -/
def outcomeResponse (status : Nat) (members : List (String × Json)) (message : String) : Response :=
  .withJson status (.object (members ++ [("message", .string message)]))

/-- The student and the subject that a request is about, for whom the caller may act. -/
def enrollPair (caller : Option Principal) (request : Request) : Handler (Uuid × Uuid) := do
  let principal ← signedIn caller
  -- A query that cannot be read is refused, but such a body only counts as missing.
  let some query := EnrollParams.ofForm? request.query | throw (.bare 400)
  match (query.merge (EnrollParams.ofBody? request)).resolve principal with
  | .error error => fail error
  | .ok (studentId, subjectId) =>
    permit principal (.enrollFor studentId)
    return (studentId, subjectId)

/-- A result of the registry, which may be a refusal. -/
def orRefusal {α : Type} (procedure : ExceptT Refusal Procedure α) : Handler α := do
  match ← (procedure.run : Procedure (Except Refusal α)) with
  | .ok value => return value
  | .error refusal => fail (.ofRefusal refusal)

/-- A seat is asked for. -/
def enrollHandler (policy : AdmissionPolicy) (caller : Option Principal) (request : Request) :
    Handler Response := do
  let (studentId, subjectId) ← enrollPair caller request
  let outcome ← orRefusal (enroll policy studentId subjectId)
  return outcomeResponse (enrollStatus outcome) outcome.members outcome.message

/-- A seat is given back. -/
def cancelHandler (caller : Option Principal) (request : Request) : Handler Response := do
  let (studentId, subjectId) ← enrollPair caller request
  let outcome ← orRefusal (cancel studentId subjectId)
  return outcomeResponse 200 outcome.members outcome.message

/-- A student's timetable, for that student and the administrator. -/
def timetable (caller : Option Principal) (segment : List Char) : Handler Response := do
  let principal ← signedIn caller
  let id ← pathId segment
  permit principal (.viewStudent id)
  let known : Bool ← ask (.studentExists id)
  if known then
    let details : List EnrollmentDetail ← ask (.liveEnrollments id)
    return .withJson 200 (.array (details.map EnrollmentDetail.toJson))
  else fail (missing .student id)

/-- All seats. -/
def enrollments : (caller : Option Principal) → Handler Response :=
  listed .listEnrollments id Enrollment.toJson

end CourseRegistry.Api
