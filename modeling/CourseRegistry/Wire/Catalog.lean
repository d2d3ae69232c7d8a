import CourseRegistry.Catalog
import CourseRegistry.Wire.Schedule

/-! The JSON forms of the catalogue's records. -/

namespace CourseRegistry

open Json

/-- A number of 32 bits. -/
def Json.count (value : UInt32) : Json := .nat value.toNat

namespace Department

/-- A department as an object. -/
def toJson (department : Department) : Json :=
  .object [("department_id", department.departmentId.toJson), ("name", .string department.name),
    ("created_at", department.createdAt.toJson)]

/-- The fields of a department. -/
def fields : List Field :=
  [.needed "department_id" Uuid.ofJson, .needed "name" asText, .needed "created_at" Instant.ofJson]

/-- A department is read from a record of its own. -/
def ofJson : Decode Department := fun origin json => do
  let found ← find fields origin json
  let departmentId ← found.required "department_id" Uuid.ofJson
  let name ← found.required "name" asText
  let createdAt ← found.required "created_at" Instant.ofJson
  return ⟨departmentId, name, createdAt⟩

end Department

namespace NewDepartment

/-- What a department is made from, as an object. -/
def toJson (input : NewDepartment) : Json :=
  .object [("name", .string input.name)]

/-- The fields of what a department is made from. -/
def fields : List Field := [.needed "name" asText]

/-- What a department is made from is read from a record of its own. -/
def ofJson : Decode NewDepartment := fun origin json => do
  let found ← find fields origin json
  let name ← found.required "name" asText
  return ⟨name⟩

end NewDepartment

namespace Professor

/-- A professor as an object. -/
def toJson (professor : Professor) : Json :=
  .object [("professor_id", professor.professorId.toJson), ("name", .string professor.name),
    ("email", .ofOption .string professor.email),
    ("department_id", .ofOption Uuid.toJson professor.departmentId),
    ("created_at", professor.createdAt.toJson)]

/-- The fields of a professor. -/
def fields : List Field :=
  [.needed "professor_id" Uuid.ofJson, .needed "name" asText, .needed "email" (asOption asText),
    .needed "department_id" (asOption Uuid.ofJson), .needed "created_at" Instant.ofJson]

/-- A professor is read from a record of its own. -/
def ofJson : Decode Professor := fun origin json => do
  let found ← find fields origin json
  let professorId ← found.required "professor_id" Uuid.ofJson
  let name ← found.required "name" asText
  let email ← found.optional "email" asText
  let departmentId ← found.optional "department_id" Uuid.ofJson
  let createdAt ← found.required "created_at" Instant.ofJson
  return ⟨professorId, name, email, departmentId, createdAt⟩

end Professor

namespace NewProfessor

/-- What a professor's record is made from, as an object. -/
def toJson (input : NewProfessor) : Json :=
  .object [("name", .string input.name), ("email", .ofOption .string input.email),
    ("department_id", .ofOption Uuid.toJson input.departmentId)]

/-- The fields of what a professor's record is made from. -/
def fields : List Field :=
  [.needed "name" asText, .sparing "email" (asOption asText),
    .sparing "department_id" (asOption Uuid.ofJson)]

/-- What a professor's record is made from is read from a record of its own. -/
def ofJson : Decode NewProfessor := fun origin json => do
  let found ← find fields origin json
  let name ← found.required "name" asText
  let email ← found.optional "email" asText
  let departmentId ← found.optional "department_id" Uuid.ofJson
  return ⟨name, email, departmentId⟩

end NewProfessor

namespace Room

/-- A room as an object. -/
def toJson (room : Room) : Json :=
  .object [("room_id", room.roomId.toJson), ("name", .string room.name),
    ("building", .ofOption .string room.building), ("created_at", room.createdAt.toJson)]

/-- The fields of a room. -/
def fields : List Field :=
  [.needed "room_id" Uuid.ofJson, .needed "name" asText, .needed "building" (asOption asText),
    .needed "created_at" Instant.ofJson]

/-- A room is read from a record of its own. -/
def ofJson : Decode Room := fun origin json => do
  let found ← find fields origin json
  let roomId ← found.required "room_id" Uuid.ofJson
  let name ← found.required "name" asText
  let building ← found.optional "building" asText
  let createdAt ← found.required "created_at" Instant.ofJson
  return ⟨roomId, name, building, createdAt⟩

end Room

namespace NewRoom

/-- What a room is made from, as an object. -/
def toJson (input : NewRoom) : Json :=
  .object [("name", .string input.name), ("building", .ofOption .string input.building)]

/-- The fields of what a room is made from. -/
def fields : List Field :=
  [.needed "name" asText, .sparing "building" (asOption asText)]

/-- What a room is made from is read from a record of its own. -/
def ofJson : Decode NewRoom := fun origin json => do
  let found ← find fields origin json
  let name ← found.required "name" asText
  let building ← found.optional "building" asText
  return ⟨name, building⟩

end NewRoom

namespace Student

/-- A student as an object. -/
def toJson (student : Student) : Json :=
  .object [("student_id", student.studentId.toJson),
    ("student_number", .string student.studentNumber), ("name", .string student.name),
    ("department_id", .ofOption Uuid.toJson student.departmentId),
    ("grade", .ofOption .string student.grade), ("created_at", student.createdAt.toJson)]

/-- The fields of a student. -/
def fields : List Field :=
  [.needed "student_id" Uuid.ofJson, .needed "student_number" asText, .needed "name" asText,
    .needed "department_id" (asOption Uuid.ofJson), .needed "grade" (asOption asText),
    .needed "created_at" Instant.ofJson]

/-- A student is read from a record of its own. -/
def ofJson : Decode Student := fun origin json => do
  let found ← find fields origin json
  let studentId ← found.required "student_id" Uuid.ofJson
  let studentNumber ← found.required "student_number" asText
  let name ← found.required "name" asText
  let departmentId ← found.optional "department_id" Uuid.ofJson
  let grade ← found.optional "grade" asText
  let createdAt ← found.required "created_at" Instant.ofJson
  return ⟨studentId, studentNumber, name, departmentId, grade, createdAt⟩

end Student

namespace NewStudent

/-- The fields of what a student's record is made from. -/
def fields : List Field :=
  [.needed "student_number" asText, .needed "name" asText,
    .needed "department_id" (asOption Uuid.ofJson), .needed "grade" (asOption asText),
    .needed "password_hash" (asOption asText)]

/-- What a student's record is made from is read from a record of its own. -/
def ofJson : Decode NewStudent := fun origin json => do
  let found ← find fields origin json
  let studentNumber ← found.required "student_number" asText
  let name ← found.required "name" asText
  let departmentId ← found.optional "department_id" Uuid.ofJson
  let grade ← found.optional "grade" asText
  let passwordHash ← found.optional "password_hash" asText
  return ⟨studentNumber, name, departmentId, grade, passwordHash⟩

end NewStudent

namespace Subject

/-- The members that hold a subject. -/
def members (subject : Subject) : List (String × Json) :=
  [("subject_id", subject.subjectId.toJson), ("name", .string subject.name),
    ("credits", .count subject.credits), ("capacity", .count subject.capacity),
    ("semester", .string subject.semester),
    ("professor_id", .ofOption Uuid.toJson subject.professorId),
    ("department_id", .ofOption Uuid.toJson subject.departmentId),
    ("created_at", subject.createdAt.toJson),
    ("schedule", .array (subject.schedule.map MeetingSlot.toJson))]

/-- A subject as an object. -/
def toJson (subject : Subject) : Json := .object subject.members

/-- The fields of a subject. -/
def fields : List Field :=
  [.needed "subject_id" Uuid.ofJson, .needed "name" asText, .needed "credits" asCount,
    .needed "capacity" asCount, .needed "semester" asText,
    .needed "professor_id" (asOption Uuid.ofJson), .needed "department_id" (asOption Uuid.ofJson),
    .needed "created_at" Instant.ofJson, .needed "schedule" (asList MeetingSlot.ofJson)]

/-- A subject from its fields. -/
def ofFound (found : Found) : Except Fault Subject := do
  let subjectId ← found.required "subject_id" Uuid.ofJson
  let name ← found.required "name" asText
  let credits ← found.required "credits" asCount
  let capacity ← found.required "capacity" asCount
  let semester ← found.required "semester" asText
  let professorId ← found.optional "professor_id" Uuid.ofJson
  let departmentId ← found.optional "department_id" Uuid.ofJson
  let createdAt ← found.required "created_at" Instant.ofJson
  let schedule ← found.required "schedule" (asList MeetingSlot.ofJson)
  return ⟨subjectId, name, credits, capacity, semester, professorId, departmentId, createdAt,
    schedule⟩

/-- A subject is read from a record of its own. -/
def ofJson : Decode Subject := fun origin json => do
  ofFound (← find fields origin json)

end Subject

namespace NewSubject

/-- What a subject is made from, as an object. -/
def toJson (input : NewSubject) : Json :=
  .object [("name", .string input.name), ("credits", .count input.credits),
    ("capacity", .count input.capacity), ("semester", .string input.semester),
    ("professor_id", .ofOption Uuid.toJson input.professorId),
    ("department_id", .ofOption Uuid.toJson input.departmentId)]

/-- The fields of what a subject is made from. -/
def fields : List Field :=
  [.needed "name" asText, .needed "credits" asCount, .needed "capacity" asCount,
    .needed "semester" asText, .sparing "professor_id" (asOption Uuid.ofJson),
    .sparing "department_id" (asOption Uuid.ofJson)]

/-- What a subject is made from is read from a record of its own. -/
def ofJson : Decode NewSubject := fun origin json => do
  let found ← find fields origin json
  let name ← found.required "name" asText
  let credits ← found.required "credits" asCount
  let capacity ← found.required "capacity" asCount
  let semester ← found.required "semester" asText
  let professorId ← found.optional "professor_id" Uuid.ofJson
  let departmentId ← found.optional "department_id" Uuid.ofJson
  return ⟨name, credits, capacity, semester, professorId, departmentId⟩

end NewSubject

namespace SubjectPatch

/-- A reference that is to change, under its name; one that stays is not written. -/
def changeMember (name : String) : Option (Option Uuid) → List (String × Json)
  | none => []
  | some reference => [(name, .ofOption Uuid.toJson reference)]

/-- Changes to a subject as an object. -/
def toJson (patch : SubjectPatch) : Json :=
  .object ([("name", .ofOption .string patch.name), ("credits", .ofOption .count patch.credits),
    ("capacity", .ofOption .count patch.capacity),
    ("semester", .ofOption .string patch.semester)] ++
    changeMember "professor_id" patch.professorId ++
    changeMember "department_id" patch.departmentId)

/-- The fields of changes to a subject. -/
def fields : List Field :=
  [.needed "name" (asOption asText), .needed "credits" (asOption asCount),
    .needed "capacity" (asOption asCount), .needed "semester" (asOption asText),
    .sparing "professor_id" (asOption Uuid.ofJson), .sparing "department_id" (asOption Uuid.ofJson)]

/-- A reference that is to change when its member is there, to nothing when that holds nothing. -/
def change (found : Found) (name : String) : Except Fault (Option (Option Uuid)) :=
  match found.value? name with
  | some json => some <$> asOption Uuid.ofJson found.origin json
  | none => .ok none

/-- Changes to a subject are read from a record of their own. -/
def ofJson : Decode SubjectPatch := fun origin json => do
  let found ← find fields origin json
  let name ← found.optional "name" asText
  let credits ← found.optional "credits" asCount
  let capacity ← found.optional "capacity" asCount
  let semester ← found.optional "semester" asText
  let professorId ← change found "professor_id"
  let departmentId ← change found "department_id"
  return ⟨name, credits, capacity, semester, professorId, departmentId⟩

end SubjectPatch

namespace SubjectListing

/-- A subject with its seats counted, as one object. -/
def toJson (listing : SubjectListing) : Json :=
  .object (listing.subject.members ++
    [("enrolled", .count listing.enrolled), ("remaining", .count listing.remaining)])

/-- The two counts of a listing. -/
def fields : List Field :=
  [.needed "enrolled" asCount, .needed "remaining" asCount]

/-- A listing is read from an object, the subject after the counts. -/
def ofJson : Decode SubjectListing := fun origin json => do
  let (found, rest) ← split fields origin json
  let subject ← Subject.ofFound (← rest.narrow Subject.fields)
  let enrolled ← found.required "enrolled" asCount
  let remaining ← found.required "remaining" asCount
  return ⟨subject, enrolled, remaining⟩

end SubjectListing

end CourseRegistry
