import CourseRegistry.Store.Row

/-! The seven tables, and what refers to what in them. -/

namespace CourseRegistry

/-- All stored rows; the rows of a table stand in the order in which they were added. -/
structure Database where
  departments : List DepartmentRow
  professors : List ProfessorRow
  rooms : List RoomRow
  students : List StudentRow
  subjects : List SubjectRow
  meetings : List MeetingRow
  enrollments : List EnrollmentRow
deriving DecidableEq

/-- The identifier and the instant that a new record gets. -/
structure Stamp where
  id : Uuid
  now : Instant
deriving DecidableEq

namespace Database

/-- Nothing is stored. -/
def empty : Database := ⟨[], [], [], [], [], [], []⟩

/-- A cell is the key of some row of a kind. -/
def hasKey (db : Database) (entity : Entity) (cell : Cell) : Bool :=
  match entity with
  | .department => db.departments.any (·.departmentId == cell)
  | .professor => db.professors.any (·.professorId == cell)
  | .room => db.rooms.any (·.roomId == cell)
  | .student => db.students.any (·.studentId == cell)
  | .subject => db.subjects.any (·.subjectId == cell)
  | .meeting => db.meetings.any (·.slotId == cell)

/-- A record exists. -/
def has (db : Database) (entity : Entity) (id : Uuid) : Bool :=
  db.hasKey entity (.ofId id)

/-- A cell refers to nothing, or to a row of a kind. -/
def isReference (db : Database) (entity : Entity) (cell : Cell) : Bool :=
  cell == .null || db.hasKey entity cell

/-- The first of some references that points at no record is an error. -/
def checkReferences (db : Database) : List (Entity × Option Uuid) → Except StoreError Unit
  | [] => .ok ()
  -- What is left empty points at nothing and needs no record.
  | (_, none) :: references => db.checkReferences references
  | (entity, some id) :: references =>
    if db.has entity id then db.checkReferences references else .error (.notFound entity id)

/-- The meetings of a subject by weekday and start; those that start together stay as they stood. -/
def meetingsOf (db : Database) (subjectId : Cell) : List MeetingRow :=
  Cell.sortOn (fun row => [row.weekday, row.startSecond])
    (db.meetings.filter (·.subjectId == subjectId))

/-- How many seats of a subject are taken. -/
def seatsTaken (db : Database) (subjectId : Cell) : Nat :=
  (db.enrollments.filter (·.subjectId == subjectId)).length

end Database

/-- A row put in the place of the one that is looked for. -/
def replaceRow {ρ : Type} (isIt : ρ → Bool) (row : ρ) (rows : List ρ) : List ρ :=
  -- All rows that are looked for are replaced; there is one at most where keys are unique.
  rows.map fun other => if isIt other then row else other

/-- A cell that refers to nothing when it held the given identifier. -/
def Cell.withoutId (id : Uuid) (cell : Cell) : Cell :=
  if cell == .ofId id then .null else cell

end CourseRegistry
