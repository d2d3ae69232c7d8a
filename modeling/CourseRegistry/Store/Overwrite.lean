import CourseRegistry.Binary64
import CourseRegistry.Store.Database

/-! Single stored values set from outside, past all rules but those of their columns. -/

namespace CourseRegistry

namespace Cell

/-- A column of texts keeps a number as its digits. -/
def inTextColumn : Cell → Cell
  | .integer value => .text (toString value)
  | cell => cell

/-- A blank that may stand around a number. -/
def isNumberBlank (c : Char) : Bool :=
  c == ' ' || (9 ≤ c.toNat && c.toNat ≤ 13)

/-- A number that a cell can hold. -/
def fitsInteger (value : Int) : Bool :=
  Int64.minValue.toInt ≤ value && value ≤ Int64.maxValue.toInt

/-- The number that a text spells between blanks, with digits alone or as a float that is whole. -/
def integerOf? (text : String) : Option Int :=
  let cs := ((text.toList.dropWhile isNumberBlank).reverse.dropWhile isNumberBlank).reverse
  let (negative, cs) := Binary64.sign cs
  match (Text.natural? cs).map fun value => if negative then -(value : Int) else value with
  | some value => if fitsInteger value then some value else none
  | none => do
    let value ← (← Binary64.ofDigits? negative cs).whole?
    if fitsInteger (value - 1) && fitsInteger (value + 1) then some value else none

/-- A column of numbers keeps a text that spells a number as that number. -/
def inIntegerColumn : Cell → Cell
  | .text value => ((integerOf? value).map .integer).getD (.text value)
  | cell => cell

/-- A column that always holds something takes no cell without a value. -/
def present? (cell : Cell) : Option Cell :=
  if cell = .null then none else some cell

end Cell

/-- Two rows may not share a key, unless a part of it is missing. -/
def sharesKey (a b : List Cell) : Bool :=
  a == b && !a.contains .null

/-- One row of a table is changed by its key, if no unique columns are shared afterwards. -/
def overwriteRow {ρ : Type} (uniques : List (ρ → List Cell)) (key : ρ → Cell) (set? : ρ → Option ρ)
    (id : String) (rows : List ρ) : Option (Nat × List ρ) :=
  match rows.find? (key · == .text id) with
  | none => some (0, rows)
  | some row => do
    let row ← set? row
    let others := rows.filter (key · != .text id)
    if others.any fun other => uniques.any fun unique => sharesKey (unique row) (unique other)
    then none
    else some (1, replaceRow (key · == .text id) row rows)

/-- One column of a department's row is set. -/
def DepartmentRow.set? (column : String) (cell : Cell) (row : DepartmentRow) :
    Option DepartmentRow :=
  match column with
  | "department_id" => some { row with departmentId := cell.inTextColumn }
  | "name" => cell.inTextColumn.present?.map fun cell => { row with name := cell }
  | "created_at" => cell.inTextColumn.present?.map fun cell => { row with createdAt := cell }
  | _ => none

/-- One column of a professor's row is set. -/
def ProfessorRow.set? (column : String) (cell : Cell) (row : ProfessorRow) : Option ProfessorRow :=
  match column with
  | "professor_id" => some { row with professorId := cell.inTextColumn }
  | "name" => cell.inTextColumn.present?.map fun cell => { row with name := cell }
  | "email" => some { row with email := cell.inTextColumn }
  | "department_id" => some { row with departmentId := cell.inTextColumn }
  | "created_at" => cell.inTextColumn.present?.map fun cell => { row with createdAt := cell }
  | _ => none

/-- One column of a room's row is set. -/
def RoomRow.set? (column : String) (cell : Cell) (row : RoomRow) : Option RoomRow :=
  match column with
  | "room_id" => some { row with roomId := cell.inTextColumn }
  | "name" => cell.inTextColumn.present?.map fun cell => { row with name := cell }
  | "building" => some { row with building := cell.inTextColumn }
  | "created_at" => cell.inTextColumn.present?.map fun cell => { row with createdAt := cell }
  | _ => none

/-- One column of a student's row is set. -/
def StudentRow.set? (column : String) (cell : Cell) (row : StudentRow) : Option StudentRow :=
  match column with
  | "student_id" => some { row with studentId := cell.inTextColumn }
  | "student_number" =>
    cell.inTextColumn.present?.map fun cell => { row with studentNumber := cell }
  | "name" => cell.inTextColumn.present?.map fun cell => { row with name := cell }
  | "department_id" => some { row with departmentId := cell.inTextColumn }
  | "grade" => some { row with grade := cell.inTextColumn }
  | "password_hash" => some { row with passwordHash := cell.inTextColumn }
  | "created_at" => cell.inTextColumn.present?.map fun cell => { row with createdAt := cell }
  | _ => none

/-- One column of a subject's row is set. -/
def SubjectRow.set? (column : String) (cell : Cell) (row : SubjectRow) : Option SubjectRow :=
  match column with
  | "subject_id" => some { row with subjectId := cell.inTextColumn }
  | "name" => cell.inTextColumn.present?.map fun cell => { row with name := cell }
  | "credits" => cell.inIntegerColumn.present?.map fun cell => { row with credits := cell }
  | "capacity" => cell.inIntegerColumn.present?.map fun cell => { row with capacity := cell }
  | "semester" => cell.inTextColumn.present?.map fun cell => { row with semester := cell }
  | "professor_id" => some { row with professorId := cell.inTextColumn }
  | "department_id" => some { row with departmentId := cell.inTextColumn }
  | "created_at" => cell.inTextColumn.present?.map fun cell => { row with createdAt := cell }
  | _ => none

/-- One column of a meeting's row is set. -/
def MeetingRow.set? (column : String) (cell : Cell) (row : MeetingRow) : Option MeetingRow :=
  match column with
  | "slot_id" => some { row with slotId := cell.inTextColumn }
  | "subject_id" => cell.inTextColumn.present?.map fun cell => { row with subjectId := cell }
  | "weekday" => cell.inIntegerColumn.present?.map fun cell => { row with weekday := cell }
  | "start_second" => cell.inIntegerColumn.present?.map fun cell => { row with startSecond := cell }
  | "end_second" => cell.inIntegerColumn.present?.map fun cell => { row with endSecond := cell }
  | "room_id" => some { row with roomId := cell.inTextColumn }
  | _ => none

/-- One column of a seat's row is set. -/
def EnrollmentRow.set? (column : String) (cell : Cell) (row : EnrollmentRow) :
    Option EnrollmentRow :=
  match column with
  | "enrollment_id" => some { row with enrollmentId := cell.inTextColumn }
  | "student_id" => cell.inTextColumn.present?.map fun cell => { row with studentId := cell }
  | "subject_id" => cell.inTextColumn.present?.map fun cell => { row with subjectId := cell }
  | "enrolled_at" => cell.inTextColumn.present?.map fun cell => { row with enrolledAt := cell }
  | _ => none

/--
One column of the row with a key is set, and the number of rows that changed is told.
Nothing is told when there is no such column or the table cannot hold the row.
-/
def Database.overwrite? (db : Database) (table id column : String) (cell : Cell) :
    Option (Nat × Database) :=
  match table with
  | "departments" =>
    (overwriteRow [fun row => [row.departmentId], fun row => [row.name]] (·.departmentId)
      (DepartmentRow.set? column cell) id db.departments).map
        fun (count, rows) => (count, { db with departments := rows })
  | "professors" =>
    (overwriteRow [fun row => [row.professorId]] (·.professorId)
      (ProfessorRow.set? column cell) id db.professors).map
        fun (count, rows) => (count, { db with professors := rows })
  | "rooms" =>
    (overwriteRow [fun row => [row.roomId], fun row => [row.name]] (·.roomId)
      (RoomRow.set? column cell) id db.rooms).map
        fun (count, rows) => (count, { db with rooms := rows })
  | "students" =>
    (overwriteRow [fun row => [row.studentId], fun row => [row.studentNumber]] (·.studentId)
      (StudentRow.set? column cell) id db.students).map
        fun (count, rows) => (count, { db with students := rows })
  | "subjects" =>
    (overwriteRow [fun row => [row.subjectId]] (·.subjectId)
      (SubjectRow.set? column cell) id db.subjects).map
        fun (count, rows) => (count, { db with subjects := rows })
  | "meeting_slots" =>
    (overwriteRow [fun row => [row.slotId]] (·.slotId)
      (MeetingRow.set? column cell) id db.meetings).map
        fun (count, rows) => (count, { db with meetings := rows })
  | "enrollments" =>
    (overwriteRow [fun row => [row.enrollmentId], fun row => [row.studentId, row.subjectId]]
      (·.enrollmentId) (EnrollmentRow.set? column cell) id db.enrollments).map
        fun (count, rows) => (count, { db with enrollments := rows })
  | _ => none

end CourseRegistry
