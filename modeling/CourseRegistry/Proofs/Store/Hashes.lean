import CourseRegistry.Proofs.Store.Cell
import CourseRegistry.Store.Operation
import Mathlib.Data.List.Sort

/-!
The hashes that students sign in against.
No operation but signing in itself answers by them, and no other column is written by them.
-/

namespace CourseRegistry

section Rows

variable {α ρ : Type} {isReadable : ρ → Bool} {decode : ρ → Except StoreError α} (change : ρ → ρ)

/-- Rows are sorted alike after a change that leaves their keys alone. -/
theorem Cell.sortOn_map {key : ρ → List Cell} (same : ∀ row, key (change row) = key row)
    (rows : List ρ) : sortOn key (rows.map change) = (sortOn key rows).map change := by
  unfold sortOn
  rw [List.map_mergeSort]
  -- Two changed rows are compared by the same keys as before.
  intro a _ b _
  rw [same, same]

/-- A change that reading does not notice makes no difference to a list of rows. -/
theorem readRows_map (shape : ∀ row, isReadable (change row) = isReadable row)
    (record : ∀ row, decode (change row) = decode row) (rows : List ρ) :
    readRows isReadable decode (rows.map change) = readRows isReadable decode rows := by
  -- Neither the shape nor the record of a changed row is another one.
  have shapes : isReadable ∘ change = isReadable := funext shape
  have records : decode ∘ change = decode := funext record
  rw [readRows, List.all_map, shapes, List.mapM_map, records, readRows]

/-- Nor does it to a single row. -/
theorem readRow?_map (shape : ∀ row, isReadable (change row) = isReadable row)
    (record : ∀ row, decode (change row) = decode row) (row : Option ρ) :
    readRow? isReadable decode (row.map change) = readRow? isReadable decode row := by
  -- Where no row is found, there is none to be changed.
  cases row with
  | none => rfl
  | some row => rw [Option.map_some, readRow?, readRow?, shape, record]

/-- Rows that differ before the change only where it is made are put in place alike. -/
theorem map_replaceRow_map {isIt : ρ → Bool} (same : ∀ row, isIt (change row) = isIt row)
    (twice : ∀ row, change (change row) = change row) {row other : ρ}
    (alike : change row = change other) (rows : List ρ) :
    (replaceRow isIt row (rows.map change)).map change =
      (replaceRow isIt other rows).map change := by
  simp only [replaceRow, List.map_map]
  -- Row by row, the row in question is replaced on both sides, and any other one is changed twice.
  refine List.map_congr_left fun old _ => ?_
  simp only [Function.comp_apply, same]
  split
  · exact alike
  · exact twice old

end Rows

/-- The row without its hash. -/
def StudentRow.withoutHash (row : StudentRow) : StudentRow := { row with passwordHash := .null }

namespace Database

/-- The tables without the hashes of the students. -/
def withoutHashes (db : Database) : Database :=
  { db with students := db.students.map StudentRow.withoutHash }

/-- An outcome with the hashes left out of the tables. -/
def hidden {α : Type} (outcome : Except StoreError α × Database) : Except StoreError α × Database :=
  (outcome.1, outcome.2.withoutHashes)

section Columns

variable (db : Database)

/-- Without hashes, there are none to leave out. -/
@[simp] theorem withoutHashes_withoutHashes :
    db.withoutHashes.withoutHashes = db.withoutHashes := by
  simp [withoutHashes, StudentRow.withoutHash]

/-- Keys are told from other columns than the hash. -/
@[simp] theorem hasKey_withoutHashes (entity : Entity) (cell : Cell) :
    db.withoutHashes.hasKey entity cell = db.hasKey entity cell := by
  cases entity with
  -- The key of a student is another column than the hash.
  | student => exact List.any_map
  | _ => rfl

/-- So are identifiers. -/
@[simp] theorem has_withoutHashes (entity : Entity) (id : Uuid) :
    db.withoutHashes.has entity id = db.has entity id :=
  db.hasKey_withoutHashes entity (.ofId id)

/-- References are checked against keys alone. -/
@[simp] theorem checkReferences_withoutHashes (references : List (Entity × Option Uuid)) :
    db.withoutHashes.checkReferences references = db.checkReferences references := by
  induction references with
  | nil => rfl
  | cons reference references ih =>
    obtain ⟨entity, id⟩ := reference
    cases id with
    -- A reference that is not given is not looked for.
    | none => exact ih
    | some id => simp only [checkReferences, has_withoutHashes, ih]

/-- Whether a table takes the row of a subject depends on keys alone. -/
@[simp] theorem isSound_withoutHashes (row : SubjectRow) :
    db.withoutHashes.isSound row = db.isSound row := by
  simp only [isSound, isReference, hasKey_withoutHashes]

/-- The hashes have no say in which of two ways is taken. -/
theorem hidden_ite {α : Type} (condition : Prop) [Decidable condition]
    (yes no : Except StoreError α × Database) :
    hidden (if condition then yes else no) = if condition then hidden yes else hidden no :=
  apply_ite hidden condition yes no

/-- Hashes that are left out cannot be left out again. -/
@[simp] theorem hidden_hidden {α : Type} (outcome : Except StoreError α × Database) :
    hidden (hidden outcome) = hidden outcome := by
  simp only [hidden, withoutHashes_withoutHashes]

end Columns

section Operations

variable (stamp : Stamp) (db : Database)

-- On tables without hashes, an operation takes the same way and does the same to the other columns.

/-- A department is added without a look at students. -/
theorem addDepartment_hidden (input : NewDepartment) :
    addDepartment stamp input db.withoutHashes = hidden (addDepartment stamp input db) := by
  simp only [addDepartment, hidden_ite]
  rfl

/-- So one is renamed, in a table that has no hashes. -/
theorem updateDepartment_hidden (id : Uuid) (input : NewDepartment) :
    updateDepartment id input db.withoutHashes = hidden (updateDepartment id input db) := by
  have departments : db.withoutHashes.departments = db.departments := rfl
  simp only [updateDepartment, departments]
  split
  · rfl
  · rw [hidden_ite]
    rfl

/-- A deleted department is cleared from students, of whom nothing else is touched. -/
theorem deleteDepartment_hidden (id : Uuid) :
    deleteDepartment id db.withoutHashes = hidden (deleteDepartment id db) := by
  -- A student who loses the department keeps the hash.
  have students : db.withoutHashes.students.map
      (fun row => { row with departmentId := row.departmentId.withoutId id }) =
        (db.students.map fun row =>
          { row with departmentId := row.departmentId.withoutId id }).map
            StudentRow.withoutHash := by
    simp only [withoutHashes, List.map_map]
    rfl
  simp only [deleteDepartment, students, has_withoutHashes, hidden_ite]
  rfl

/-- A professor is added after a check against departments. -/
theorem addProfessor_hidden (input : NewProfessor) :
    addProfessor stamp input db.withoutHashes = hidden (addProfessor stamp input db) := by
  simp only [addProfessor, checkReferences_withoutHashes, has_withoutHashes]
  split
  · rfl
  · rw [hidden_ite]
    rfl

/-- A professor is replaced in a table that has no hashes. -/
theorem updateProfessor_hidden (id : Uuid) (input : NewProfessor) :
    updateProfessor id input db.withoutHashes = hidden (updateProfessor id input db) := by
  have professors : db.withoutHashes.professors = db.professors := rfl
  simp only [updateProfessor, professors, checkReferences_withoutHashes]
  split
  · rfl
  · split
    · rfl
    · rw [hidden_ite]
      rfl

/-- Subjects lose a deleted professor, and students have none. -/
theorem deleteProfessor_hidden (id : Uuid) :
    deleteProfessor id db.withoutHashes = hidden (deleteProfessor id db) := by
  simp only [deleteProfessor, has_withoutHashes, hidden_ite]
  rfl

/-- A room is added without a look at students. -/
theorem addRoom_hidden (input : NewRoom) :
    addRoom stamp input db.withoutHashes = hidden (addRoom stamp input db) := by
  simp only [addRoom, hidden_ite]
  rfl

/-- So one is replaced. -/
theorem updateRoom_hidden (id : Uuid) (input : NewRoom) :
    updateRoom id input db.withoutHashes = hidden (updateRoom id input db) := by
  have rooms : db.withoutHashes.rooms = db.rooms := rfl
  simp only [updateRoom, rooms]
  split
  · rfl
  · rw [hidden_ite]
    rfl

/-- So one is deleted, with the meetings cleared of it. -/
theorem deleteRoom_hidden (id : Uuid) :
    deleteRoom id db.withoutHashes = hidden (deleteRoom id db) := by
  simp only [deleteRoom, has_withoutHashes, hidden_ite]
  rfl

/-- A subject is added after a check against professors and departments. -/
theorem addSubject_hidden (input : NewSubject) :
    addSubject stamp input db.withoutHashes = hidden (addSubject stamp input db) := by
  simp only [addSubject, checkReferences_withoutHashes, has_withoutHashes]
  split
  · rfl
  · split
    · rfl
    · rw [hidden_ite]
      rfl

/-- A subject is changed and read back, and no student has a part in either. -/
theorem updateSubject_hidden (id : Uuid) (patch : SubjectPatch) :
    updateSubject id patch db.withoutHashes = hidden (updateSubject id patch db) := by
  have subjects : db.withoutHashes.subjects = db.subjects := rfl
  simp only [updateSubject, subjects, checkReferences_withoutHashes, isSound_withoutHashes]
  split
  · rfl
  · split
    · rfl
    · split
      · rfl
      -- Reading the subject back looks at subjects, meetings and seats.
      · rw [hidden_ite]
        rfl

/-- A subject goes with its meetings and its seats. -/
theorem deleteSubject_hidden (id : Uuid) :
    deleteSubject id db.withoutHashes = hidden (deleteSubject id db) := by
  simp only [deleteSubject, has_withoutHashes, hidden_ite]
  rfl

/-- A meeting is added after a check against subjects and rooms. -/
theorem addMeeting_hidden (subjectId : Uuid) (input : NewMeeting) :
    addMeeting stamp subjectId input db.withoutHashes =
      hidden (addMeeting stamp subjectId input db) := by
  simp only [addMeeting, checkReferences_withoutHashes, has_withoutHashes]
  split
  · rfl
  · split
    · rfl
    · rw [hidden_ite]
      rfl

/-- A meeting is removed by its key. -/
theorem removeMeeting_hidden (id : Uuid) :
    removeMeeting id db.withoutHashes = hidden (removeMeeting id db) := by
  simp only [removeMeeting, has_withoutHashes, hidden_ite]
  rfl

/-- A seat is granted by what is stored of the subject and of the seats, to a student who exists. -/
theorem grantSeat_hidden (studentId subjectId : Uuid) (policy : AdmissionPolicy) :
    grantSeat stamp studentId subjectId policy db.withoutHashes =
      hidden (grantSeat stamp studentId subjectId policy db) := by
  -- The decision depends on subjects, meetings and seats.
  have same : db.withoutHashes.snapshot studentId subjectId policy =
      db.snapshot studentId subjectId policy := rfl
  simp only [grantSeat, same, has_withoutHashes]
  split
  · rfl
  · split
    · rfl
    · rw [hidden_ite, hidden_ite]
      rfl

/-- A seat is released by its columns. -/
theorem releaseSeat_hidden (studentId subjectId : Uuid) :
    releaseSeat studentId subjectId db.withoutHashes =
      hidden (releaseSeat studentId subjectId db) := by
  simp only [releaseSeat, hidden_ite]
  rfl

/-- The students that stay do so with the hashes that they have. -/
theorem deleteStudent_hidden (id : Uuid) :
    deleteStudent id db.withoutHashes = hidden (deleteStudent id db) := by
  -- Which students stay is told by their keys.
  have students : db.withoutHashes.students.filter (·.studentId != .ofId id) =
      (db.students.filter (·.studentId != .ofId id)).map StudentRow.withoutHash :=
    List.filter_map
  simp only [deleteStudent, students, has_withoutHashes, hidden_ite]
  rfl

/-- A student is read without the hash. -/
theorem getStudent_withoutHashes (id : Uuid) :
    db.withoutHashes.getStudent id = db.getStudent id := by
  have found : db.withoutHashes.students.find? (·.studentId == .ofId id) =
      (db.students.find? (·.studentId == .ofId id)).map StudentRow.withoutHash :=
    List.find?_map
  rw [getStudent, found]
  exact readRow?_map StudentRow.withoutHash (fun _ => rfl) (fun _ => rfl) _

/-- So are all students. -/
theorem listStudents_withoutHashes : db.withoutHashes.listStudents = db.listStudents := by
  -- Students are listed by their numbers.
  have sorted : Cell.sortOn (fun row => [row.studentNumber]) db.withoutHashes.students =
      (Cell.sortOn (fun row => [row.studentNumber]) db.students).map StudentRow.withoutHash :=
    Cell.sortOn_map StudentRow.withoutHash (fun _ => rfl) _
  rw [listStudents, sorted]
  exact readRows_map StudentRow.withoutHash (fun _ => rfl) (fun _ => rfl) _

/-- Where the tables are left as they are, only the hashes are missing. -/
theorem hidden_kept {α : Type} (answer : Except StoreError α) :
    hidden (answer, db.withoutHashes) = hidden (answer, db) := by
  simp only [hidden, withoutHashes_withoutHashes]

/-- Where only the students are changed, it is enough that they are alike but for the hashes. -/
theorem hidden_students {α : Type} (answer : Except StoreError α) {rows others : List StudentRow}
    (same : rows.map StudentRow.withoutHash = others.map StudentRow.withoutHash) :
    hidden (answer, { db.withoutHashes with students := rows }) =
      hidden (answer, { db with students := others }) := by
  simp only [hidden, withoutHashes, same]

/-- Two changes on the same condition are alike when both of their ways are. -/
theorem hidden_ite_congr {α : Type} {condition other : Bool} (same : condition = other)
    {yes no yes' no' : Except StoreError α × Database} (pos : hidden yes = hidden yes')
    (neg : hidden no = hidden no') :
    hidden (if condition then yes else no) = hidden (if other then yes' else no') := by
  rw [same, hidden_ite, hidden_ite, pos, neg]

/-- A new student's hash is stored, and makes no other difference. -/
theorem addStudent_hidden (input : NewStudent) :
    hidden (addStudent stamp input db.withoutHashes) = hidden (addStudent stamp input db) := by
  -- Whether the number is free does not depend on the hashes that are stored already.
  have taken : (db.withoutHashes.students.any fun other =>
      other.studentId == .ofId stamp.id || other.studentNumber == .text input.studentNumber) =
        db.students.any fun other =>
          other.studentId == .ofId stamp.id || other.studentNumber == .text input.studentNumber :=
    List.any_map
  simp only [addStudent, checkReferences_withoutHashes]
  -- What is refused is refused on both sides, and a new row has the same hash on both.
  split
  · exact db.hidden_kept _
  · refine hidden_ite_congr taken (db.hidden_kept _) (db.hidden_students _ ?_)
    -- The students who were there before have no hashes left on either side.
    have students := congrArg Database.students db.withoutHashes_withoutHashes
    rw [List.map_append, List.map_append]
    exact congrArg (· ++ _) students

/-- So is the hash that a student gets later. -/
theorem updateStudent_hidden (id : Uuid) (input : NewStudent) :
    hidden (updateStudent id input db.withoutHashes) = hidden (updateStudent id input db) := by
  have found : db.withoutHashes.students.find? (·.studentId == .ofId id) =
      (db.students.find? (·.studentId == .ofId id)).map StudentRow.withoutHash :=
    -- It is the same student who is found, but for the hash.
    List.find?_map
  have taken : (db.withoutHashes.students.any fun other =>
      other.studentId != .ofId id && other.studentNumber == .text input.studentNumber) =
        db.students.any fun other =>
          other.studentId != .ofId id && other.studentNumber == .text input.studentNumber :=
    List.any_map
  -- The way that is taken is the same, and the row that is put in place differs in its hash at
  -- most.
  simp only [updateStudent, found, checkReferences_withoutHashes]
  cases db.students.find? (·.studentId == .ofId id) with
  | none => exact db.hidden_kept _
  | some row =>
    simp only [Option.map_some]
    split
    · exact db.hidden_kept _
    · refine hidden_ite_congr taken (db.hidden_kept _) ?_
      -- Neither the shape nor the record of the new row depends on a hash.
      refine hidden_ite_congr rfl (db.hidden_students _ ?_) (db.hidden_kept _)
      refine map_replaceRow_map StudentRow.withoutHash ?_ ?_ ?_ db.students
      · exact fun _ => rfl
      · exact fun _ => rfl
      · rfl

/-- What is read alike is a read that the hashes have no say in. -/
theorem hidden_read {α : Type} {answer other : Except StoreError α} (same : answer = other) :
    hidden (answer, db.withoutHashes) = hidden (other, db) := by
  rw [same, hidden_kept]

/-- A change that is the same without the hashes makes no other difference. -/
theorem hidden_of_eq {α : Type} {outcome other : Except StoreError α × Database}
    (same : outcome = hidden other) : hidden outcome = hidden other := by
  rw [same, hidden_hidden]

/-- Apart from signing in, no operation goes by the hashes. -/
theorem step_hidden {operation : Operation}
    (notLogin : ∀ number, operation ≠ .studentLogin number) :
    hidden (operation.step stamp db.withoutHashes) = hidden (operation.step stamp db) := by
  cases operation with
  | addDepartment input => exact hidden_of_eq (addDepartment_hidden stamp db input)
  | updateDepartment id input => exact hidden_of_eq (updateDepartment_hidden db id input)
  | deleteDepartment id => exact hidden_of_eq (deleteDepartment_hidden db id)
  | addProfessor input => exact hidden_of_eq (addProfessor_hidden stamp db input)
  | updateProfessor id input => exact hidden_of_eq (updateProfessor_hidden db id input)
  | deleteProfessor id => exact hidden_of_eq (deleteProfessor_hidden db id)
  | addRoom input => exact hidden_of_eq (addRoom_hidden stamp db input)
  | updateRoom id input => exact hidden_of_eq (updateRoom_hidden db id input)
  | deleteRoom id => exact hidden_of_eq (deleteRoom_hidden db id)
  | addStudent input => exact addStudent_hidden stamp db input
  | updateStudent id input => exact updateStudent_hidden db id input
  | deleteStudent id => exact hidden_of_eq (deleteStudent_hidden db id)
  | addSubject input => exact hidden_of_eq (addSubject_hidden stamp db input)
  | updateSubject id patch => exact hidden_of_eq (updateSubject_hidden db id patch)
  | deleteSubject id => exact hidden_of_eq (deleteSubject_hidden db id)
  | addMeeting subjectId input => exact hidden_of_eq (addMeeting_hidden stamp db subjectId input)
  | removeMeeting id => exact hidden_of_eq (removeMeeting_hidden db id)
  | grantSeat studentId subjectId policy =>
    exact hidden_of_eq (grantSeat_hidden stamp db studentId subjectId policy)
  | releaseSeat studentId subjectId =>
    exact hidden_of_eq (releaseSeat_hidden db studentId subjectId)
  -- Students are read without their hashes.
  | getStudent id => exact db.hidden_read (db.getStudent_withoutHashes id)
  | listStudents => exact db.hidden_read db.listStudents_withoutHashes
  | studentExists id => exact db.hidden_read (congrArg Except.ok (db.has_withoutHashes .student id))
  | studentLogin number => exact absurd rfl (notLogin number)
  -- All other reads look at other tables.
  | _ => exact db.hidden_read rfl

/--
On tables that differ in hashes only, an operation other than signing in has the same answer.
It leaves tables behind that differ in hashes only.
-/
theorem step_of_alike {db other : Database} (alike : db.withoutHashes = other.withoutHashes)
    {operation : Operation} (notLogin : ∀ number, operation ≠ .studentLogin number) :
    (operation.step stamp db).1 = (operation.step stamp other).1 ∧
      (operation.step stamp db).2.withoutHashes =
        (operation.step stamp other).2.withoutHashes := by
  -- Both are what the operation does to the tables without hashes.
  have same : hidden (operation.step stamp db) = hidden (operation.step stamp other) := by
    rw [← step_hidden stamp db notLogin, ← step_hidden stamp other notLogin, alike]
  exact Prod.ext_iff.mp same

end Operations

end Database

end CourseRegistry
