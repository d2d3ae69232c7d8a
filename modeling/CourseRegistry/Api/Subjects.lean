import CourseRegistry.Api.Handler
import CourseRegistry.Wire.Catalog

/-! Subjects and their meetings over HTTP. -/

namespace CourseRegistry.Api

open Http

/-- A whole number below 2 to the 64, with a plus if one likes. -/
def pageNumber? (text : String) : Option Nat := do
  let value ← Text.natural? <|
    match text.toList with
    | '+' :: cs => cs
    | cs => cs
  if value < UInt64.size then some value else none

/-- A field that is absent or spells a value. -/
def spelled? {α : Type} (spell? : String → Option α) : Option String → Option (Option α)
  | none => some none
  | some text => (spell? text).map some

/-- The subjects that a query asks for, in which no field comes twice. -/
def subjectQuery? (form : List UInt8) : Option SubjectQuery := do
  let pairs := formPairs form
  let wanted ← single? ["q"] pairs
  let departmentId ← spelled? Uuid.ofText? (← single? ["department_id"] pairs)
  let professorId ← spelled? Uuid.ofText? (← single? ["professor_id"] pairs)
  let semester ← single? ["semester"] pairs
  let limit ← spelled? pageNumber? (← single? ["limit"] pairs)
  let offset ← spelled? pageNumber? (← single? ["offset"] pairs)
  return ⟨wanted.filter (!·.isEmpty), departmentId, professorId, semester, limit, offset⟩

/-- The subjects asked for, for every caller. -/
def subjects (caller : Option Principal) (request : Request) : Handler Response := do
  let _ ← signedIn caller
  let some query := subjectQuery? request.query | throw (.bare 400)
  let listings : List SubjectListing ← ask (.listSubjects query)
  return .withJson 200 (.array (listings.map SubjectListing.toJson))

/-- One subject, for every caller. -/
def subject (caller : Option Principal) (segment : List Char) : Handler Response := do
  let _ ← signedIn caller
  let id ← pathId segment
  let found : Option Subject ← ask (.getSubject id)
  match found with
  | some subject => return .withJson 200 subject.toJson
  | none => fail (missing .subject id)

/-- A new subject. -/
def createSubject : (caller : Option Principal) → (request : Request) → Handler Response :=
  created NewSubject.ofJson unchecked .addSubject (fun _ answer => answer) Subject.toJson

/-- A patch sets something. -/
def checkPatch (patch : SubjectPatch) : Option ApiError :=
  if patch.isEmpty then some (.badRequest "patch sets no fields") else none

/-- A change to a subject. -/
def updateSubject :
    (caller : Option Principal) → (segment : List Char) → (request : Request) → Handler Response :=
  changed .subject SubjectPatch.ofJson checkPatch .updateSubject (fun _ _ answer => answer)
    Subject.toJson

/-- The end of a subject. -/
def deleteSubject : (caller : Option Principal) → (segment : List Char) → Handler Response :=
  deleted .subject .deleteSubject fun _ answer => answer

/-- A new meeting of a subject. -/
def addMeeting (caller : Option Principal) (segment : List Char) (request : Request) :
    Handler Response := do
  let principal ← signedIn caller
  let id ← pathId segment
  let input ← jsonBody NewMeeting.ofJson request
  permit principal .manageCatalog
  let slot : MeetingSlot ← ask (.addMeeting id input)
  return .withJson 201 slot.toJson

/-- The end of a meeting. -/
def removeMeeting : (caller : Option Principal) → (segment : List Char) → Handler Response :=
  deleted .meeting .removeMeeting fun _ answer => answer

end CourseRegistry.Api
