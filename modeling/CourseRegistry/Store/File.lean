import CourseRegistry.Json.Record
import CourseRegistry.Json.Writer
import CourseRegistry.Store.Database

/-! All tables as one JSON value, so that a file can hold them, and the tables of such a value. -/

namespace CourseRegistry

open Json

namespace Cell

/-- A cell as a value. -/
def toJson : Cell → Json
  | null => .null
  | integer value => .number ⟨decide (value < 0), value.natAbs, 0, true⟩
  | text value => .string value

/-- The cell of a value. -/
def ofJson : Decode Cell
  | _, .null => .ok null
  | _, .number ⟨negative, mantissa, _, true⟩ =>
    .ok (integer (if negative then -(mantissa : Int) else mantissa))
  | _, .string value => .ok (text value)
  | _, json => .error json.mismatch

end Cell

/-- The rows of a table as lists of their cells. -/
def tableJson {ρ : Type} (cells : ρ → List Cell) (rows : List ρ) : Json :=
  .array (rows.map fun row => .array ((cells row).map Cell.toJson))

/-- The rows of a table, each of a list of cells. -/
def tableOfJson {ρ : Type} (ofCells? : List Cell → Option ρ) : Decode (List ρ) :=
  asList fun origin json => do
    match ofCells? (← asList Cell.ofJson origin json) with
    | some row => .ok row
    | none => .error .mismatched

/-- The cells of a department's row. -/
def DepartmentRow.cells (row : DepartmentRow) : List Cell :=
  [row.departmentId, row.name, row.createdAt]

/-- The row of a department with some cells. -/
def DepartmentRow.ofCells? : List Cell → Option DepartmentRow
  | [departmentId, name, createdAt] => some ⟨departmentId, name, createdAt⟩
  | _ => none

/-- The cells of a professor's row. -/
def ProfessorRow.cells (row : ProfessorRow) : List Cell :=
  [row.professorId, row.name, row.email, row.departmentId, row.createdAt]

/-- The row of a professor with some cells. -/
def ProfessorRow.ofCells? : List Cell → Option ProfessorRow
  | [professorId, name, email, departmentId, createdAt] =>
    some ⟨professorId, name, email, departmentId, createdAt⟩
  | _ => none

/-- The cells of a room's row. -/
def RoomRow.cells (row : RoomRow) : List Cell :=
  [row.roomId, row.name, row.building, row.createdAt]

/-- The row of a room with some cells. -/
def RoomRow.ofCells? : List Cell → Option RoomRow
  | [roomId, name, building, createdAt] => some ⟨roomId, name, building, createdAt⟩
  | _ => none

/-- The cells of a student's row. -/
def StudentRow.cells (row : StudentRow) : List Cell :=
  [row.studentId, row.studentNumber, row.name, row.departmentId, row.grade, row.passwordHash,
    row.createdAt]

/-- The row of a student with some cells. -/
def StudentRow.ofCells? : List Cell → Option StudentRow
  | [studentId, studentNumber, name, departmentId, grade, passwordHash, createdAt] =>
    some ⟨studentId, studentNumber, name, departmentId, grade, passwordHash, createdAt⟩
  | _ => none

/-- The cells of a subject's row. -/
def SubjectRow.cells (row : SubjectRow) : List Cell :=
  [row.subjectId, row.name, row.credits, row.capacity, row.semester, row.professorId,
    row.departmentId, row.createdAt]

/-- The row of a subject with some cells. -/
def SubjectRow.ofCells? : List Cell → Option SubjectRow
  | [subjectId, name, credits, capacity, semester, professorId, departmentId, createdAt] =>
    some ⟨subjectId, name, credits, capacity, semester, professorId, departmentId, createdAt⟩
  | _ => none

/-- The cells of a meeting's row. -/
def MeetingRow.cells (row : MeetingRow) : List Cell :=
  [row.slotId, row.subjectId, row.weekday, row.startSecond, row.endSecond, row.roomId]

/-- The row of a meeting with some cells. -/
def MeetingRow.ofCells? : List Cell → Option MeetingRow
  | [slotId, subjectId, weekday, startSecond, endSecond, roomId] =>
    some ⟨slotId, subjectId, weekday, startSecond, endSecond, roomId⟩
  | _ => none

/-- The cells of a seat's row. -/
def EnrollmentRow.cells (row : EnrollmentRow) : List Cell :=
  [row.enrollmentId, row.studentId, row.subjectId, row.enrolledAt]

/-- The row of a seat with some cells. -/
def EnrollmentRow.ofCells? : List Cell → Option EnrollmentRow
  | [enrollmentId, studentId, subjectId, enrolledAt] =>
    some ⟨enrollmentId, studentId, subjectId, enrolledAt⟩
  | _ => none

namespace Database

/-- All tables, each under its name. -/
def toJson (db : Database) : Json :=
  .object [("departments", tableJson DepartmentRow.cells db.departments),
    ("professors", tableJson ProfessorRow.cells db.professors),
    ("rooms", tableJson RoomRow.cells db.rooms),
    ("students", tableJson StudentRow.cells db.students),
    ("subjects", tableJson SubjectRow.cells db.subjects),
    ("meeting_slots", tableJson MeetingRow.cells db.meetings),
    ("enrollments", tableJson EnrollmentRow.cells db.enrollments)]

/-- The table under a name. -/
def tableIn {ρ : Type} (json : Json) (name : String) (ofCells? : List Cell → Option ρ) :
    Except Fault (List ρ) :=
  match json.member? name with
  | some table => tableOfJson ofCells? .held table
  | none => .error .mismatched

/-- All tables, from under their names. -/
def ofJson (json : Json) : Except Fault Database := do
  let departments ← tableIn json "departments" DepartmentRow.ofCells?
  let professors ← tableIn json "professors" ProfessorRow.ofCells?
  let rooms ← tableIn json "rooms" RoomRow.ofCells?
  let students ← tableIn json "students" StudentRow.ofCells?
  let subjects ← tableIn json "subjects" SubjectRow.ofCells?
  let meetings ← tableIn json "meeting_slots" MeetingRow.ofCells?
  let enrollments ← tableIn json "enrollments" EnrollmentRow.ofCells?
  return ⟨departments, professors, rooms, students, subjects, meetings, enrollments⟩

/-- All tables as the text of a file. -/
def fileText (db : Database) : String := db.toJson.text

/-- The tables that the text of a file holds; an empty file holds none of them. -/
def ofFileText? (text : String) : Option Database :=
  if text.isEmpty then some empty
  else
    match (Json.ofText? text).map ofJson with
    | some (.ok db) => some db
    | _ => none

end Database

end CourseRegistry
