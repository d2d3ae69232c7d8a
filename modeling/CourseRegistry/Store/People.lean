import CourseRegistry.Store.Database

/-! Operations on departments, professors, rooms and students. -/

namespace CourseRegistry

/-- An operation that may change the tables answers, or fails, and leaves tables behind. -/
abbrev Change (α : Type) := Database → Except StoreError α × Database

namespace Database

/-- A new department has a name of its own. -/
def addDepartment (stamp : Stamp) (input : NewDepartment) : Change Department := fun db =>
  let department : Department := ⟨stamp.id, input.name, stamp.now⟩
  let row := DepartmentRow.ofDepartment department
  -- An identifier that is taken is reported like a name that is taken.
  if db.departments.any fun other =>
      other.departmentId == row.departmentId || other.name == row.name
  then (.error (.duplicate .departmentName input.name), db)
  else (.ok department, { db with departments := db.departments ++ [row] })

/-- All departments by name. -/
def listDepartments (db : Database) : Except StoreError (List Department) :=
  readRows DepartmentRow.isReadable DepartmentRow.decode
    (Cell.sortOn (fun row => [row.name]) db.departments)

/-- A department is renamed; the change stays even if the row cannot be read back. -/
def updateDepartment (id : Uuid) (input : NewDepartment) : Change (Option Department) := fun db =>
  match db.departments.find? (·.departmentId == .ofId id) with
  | none => (.ok none, db)
  | some row =>
    -- A department may keep its own name.
    if db.departments.any fun other =>
      other.departmentId != .ofId id && other.name == .text input.name
    then (.error (.duplicate .departmentName input.name), db)
    else
      let row := { row with name := .text input.name }
      (readRow? DepartmentRow.isReadable DepartmentRow.decode (some row),
        { db with departments := replaceRow (·.departmentId == .ofId id) row db.departments })

/-- A department is deleted, and nothing belongs to it any more. -/
def deleteDepartment (id : Uuid) : Change Bool := fun db =>
  if db.has .department id then
    -- Whoever and whatever belonged to it stays, and belongs to none.
    (.ok true, { db with
      departments := db.departments.filter (·.departmentId != .ofId id)
      professors := db.professors.map fun row =>
        { row with departmentId := row.departmentId.withoutId id }
      students := db.students.map fun row =>
        { row with departmentId := row.departmentId.withoutId id }
      subjects := db.subjects.map fun row =>
        { row with departmentId := row.departmentId.withoutId id } })
  else (.ok false, db)

/-- A new professor belongs to an existing department, or to none. -/
def addProfessor (stamp : Stamp) (input : NewProfessor) : Change Professor := fun db =>
  let professor : Professor := ⟨stamp.id, input.name, input.email, input.departmentId, stamp.now⟩
  match db.checkReferences [(.department, input.departmentId)] with
  | .error error => (.error error, db)
  | .ok () =>
    -- Nothing but the identifier of a professor has to be unique.
    if db.has .professor stamp.id then (.error .database, db)
    else
      (.ok professor, { db with professors := db.professors ++ [.ofProfessor professor] })

/-- All professors by name; those of one name stay as they stood. -/
def listProfessors (db : Database) : Except StoreError (List Professor) :=
  readRows ProfessorRow.isReadable ProfessorRow.decode
    (Cell.sortOn (fun row => [row.name]) db.professors)

/-- A professor's record is replaced, unless its row could not be read back. -/
def updateProfessor (id : Uuid) (input : NewProfessor) : Change (Option Professor) := fun db =>
  match db.professors.find? (·.professorId == .ofId id) with
  | none => (.ok none, db)
  | some row =>
    match db.checkReferences [(.department, input.departmentId)] with
    | .error error => (.error error, db)
    | .ok () =>
      -- What is left out of the input is cleared; the identifier and the instant stay.
      let row := { row with
        name := .text input.name
        email := .ofOption .text input.email
        departmentId := .ofOption .ofId input.departmentId }
      if row.isReadable then
        (some <$> row.decode, { db with
          professors := replaceRow (·.professorId == .ofId id) row db.professors })
      else (.error .database, db)

/-- A professor is deleted, and no subject is held by that professor any more. -/
def deleteProfessor (id : Uuid) : Change Bool := fun db =>
  if db.has .professor id then
    (.ok true, { db with
      professors := db.professors.filter (·.professorId != .ofId id)
      -- The subjects go on without a professor.
      subjects := db.subjects.map fun row =>
        { row with professorId := row.professorId.withoutId id } })
  else (.ok false, db)

/-- A new room has a name of its own. -/
def addRoom (stamp : Stamp) (input : NewRoom) : Change Room := fun db =>
  let room : Room := ⟨stamp.id, input.name, input.building, stamp.now⟩
  let row := RoomRow.ofRoom room
  -- As with departments, a taken identifier reads like a taken name.
  if db.rooms.any fun other => other.roomId == row.roomId || other.name == row.name then
    (.error (.duplicate .roomName input.name), db)
  else (.ok room, { db with rooms := db.rooms ++ [row] })

/-- All rooms by name. -/
def listRooms (db : Database) : Except StoreError (List Room) :=
  readRows RoomRow.isReadable RoomRow.decode (Cell.sortOn (fun row => [row.name]) db.rooms)

/-- A room's record is replaced; the change stays even if the row cannot be read back. -/
def updateRoom (id : Uuid) (input : NewRoom) : Change (Option Room) := fun db =>
  match db.rooms.find? (·.roomId == .ofId id) with
  | none => (.ok none, db)
  | some row =>
    if db.rooms.any fun other => other.roomId != .ofId id && other.name == .text input.name then
      (.error (.duplicate .roomName input.name), db)
    else
      let row := { row with name := .text input.name, building := .ofOption .text input.building }
      (readRow? RoomRow.isReadable RoomRow.decode (some row),
        { db with rooms := replaceRow (·.roomId == .ofId id) row db.rooms })

/-- A room is deleted, and no meeting is held there any more. -/
def deleteRoom (id : Uuid) : Change Bool := fun db =>
  if db.has .room id then
    (.ok true, { db with
      rooms := db.rooms.filter (·.roomId != .ofId id)
      -- The meetings stay at their times, without a room.
      meetings := db.meetings.map fun row => { row with roomId := row.roomId.withoutId id } })
  else (.ok false, db)

/-- A new student has a number of their own and belongs to an existing department, or to none. -/
def addStudent (stamp : Stamp) (input : NewStudent) : Change Student := fun db =>
  let student : Student :=
    ⟨stamp.id, input.studentNumber, input.name, input.departmentId, input.grade, stamp.now⟩
  let row := StudentRow.ofStudent student input.passwordHash
  -- The department is looked at before the number.
  match db.checkReferences [(.department, input.departmentId)] with
  | .error error => (.error error, db)
  | .ok () =>
    if db.students.any fun other =>
      other.studentId == row.studentId || other.studentNumber == row.studentNumber
    then (.error (.duplicate .studentNumber input.studentNumber), db)
    else (.ok student, { db with students := db.students ++ [row] })

/-- A student by identifier. -/
def getStudent (db : Database) (id : Uuid) : Except StoreError (Option Student) :=
  readRow? StudentRow.isReadable StudentRow.decode (db.students.find? (·.studentId == .ofId id))

/-- All students by number. -/
def listStudents (db : Database) : Except StoreError (List Student) :=
  readRows StudentRow.isReadable StudentRow.decode
    (Cell.sortOn (fun row => [row.studentNumber]) db.students)

/--
A student's record is replaced, unless its row could not be read back.
A hash to sign in against is kept when no new one is given.
-/
def updateStudent (id : Uuid) (input : NewStudent) : Change (Option Student) := fun db =>
  match db.students.find? (·.studentId == .ofId id) with
  | none => (.ok none, db)
  | some row =>
    match db.checkReferences [(.department, input.departmentId)] with
    | .error error => (.error error, db)
    | .ok () =>
      -- A student may keep their own number.
      if db.students.any fun other =>
        other.studentId != .ofId id && other.studentNumber == .text input.studentNumber
      then (.error (.duplicate .studentNumber input.studentNumber), db)
      else
        let row := { row with
          studentNumber := .text input.studentNumber
          name := .text input.name
          departmentId := .ofOption .ofId input.departmentId
          grade := .ofOption .text input.grade
          passwordHash := (input.passwordHash.map Cell.text).getD row.passwordHash }
        if row.isReadable then
          (some <$> row.decode, { db with
            students := replaceRow (·.studentId == .ofId id) row db.students })
        else (.error .database, db)

/-- A student is deleted with all seats held. -/
def deleteStudent (id : Uuid) : Change Bool := fun db =>
  if db.has .student id then
    (.ok true, { db with
      students := db.students.filter (·.studentId != .ofId id)
      -- Each seat that is given back this way is free for somebody else.
      enrollments := db.enrollments.filter (!·.isOf id) })
  else (.ok false, db)

/-- What the student of a number needs to sign in. -/
def studentLogin (db : Database) (studentNumber : String) :
    Except StoreError (Option StudentLogin) :=
  readRow? StudentRow.isLoginReadable StudentRow.decodeLogin
    (db.students.find? (·.studentNumber == .text studentNumber))

end Database

end CourseRegistry
