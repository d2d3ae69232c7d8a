import CourseRegistry.Proofs.Store.ReadBack

/-!
A record is replaced as a whole.
What the input says takes the place of what was said before, and nothing else is touched; what a
student signs in against is kept until there is something else to sign in against.
-/

namespace CourseRegistry

open Database

/-- One database is the same as another one, but for the rows of a kind. -/
def Database.SameBut (changed db : Database) : Entity → Prop
  | .department => changed = { db with departments := changed.departments }
  | .professor => changed = { db with professors := changed.professors }
  | .room => changed = { db with rooms := changed.rooms }
  | .student => changed = { db with students := changed.students }
  | .subject => changed = { db with subjects := changed.subjects }
  | .meeting => changed = { db with meetings := changed.meetings }

/--
A change that is answered with a record replaces the row of the record with the identifier.
All other rows of the table and all other tables stay, and the new record is made from the old one.
-/
def Table.Replaces {α ρ : Type} (table : Table α ρ) (entity : Entity) (id : Uuid) (applied : α → α)
    (db : Database) (outcome : Except StoreError (Option α) × Database) : Prop :=
  ∀ record, outcome.1 = .ok (some record) → ∃ row renewed old, table.decode row = .ok old ∧
    table.idOf old = id ∧ table.decode renewed = .ok record ∧ record = applied old ∧
      IsReplaced row renewed (table.rows db) (table.rows outcome.2) ∧ outcome.2.SameBut db entity

/--
How a table stores its records, each under its own identifier and with an instant.
A row reads as its record, but for the instant, which may be read as another one or not at all.
-/
structure Table.Storage {α ρ : Type} (table : Table α ρ) where
  IsRowOf : α → ρ → Prop
  instantOf : α → Instant
  dated : α → Instant → α
  idOf_dated : ∀ record createdAt, table.idOf (dated record createdAt) = table.idOf record
  key_eq : ∀ {record row}, IsRowOf record row → table.key row = .ofId (table.idOf record)
  decode_eq_ok : ∀ {stored row}, IsRowOf stored row → ∀ {record}, table.decode row = .ok record ↔
    ∃ createdAt, (Cell.ofInstant (instantOf stored)).readInstant = .ok createdAt ∧
      record = dated stored createdAt

namespace Table

/-- Departments are stored as they are. -/
def departmentStorage : departments.Storage where
  IsRowOf stored row := row = .ofDepartment stored
  instantOf := (·.createdAt)
  dated stored createdAt := { stored with createdAt }
  idOf_dated _ _ := rfl
  key_eq := by rintro _ _ rfl; rfl
  decode_eq_ok := by rintro _ _ rfl _; exact DepartmentRow.decode_ofDepartment_eq_ok

/-- So are professors. -/
def professorStorage : professors.Storage where
  IsRowOf stored row := row = .ofProfessor stored
  instantOf := (·.createdAt)
  dated stored createdAt := { stored with createdAt }
  idOf_dated _ _ := rfl
  key_eq := by rintro _ _ rfl; rfl
  decode_eq_ok := by rintro _ _ rfl _; exact ProfessorRow.decode_ofProfessor_eq_ok

/-- So are rooms. -/
def roomStorage : rooms.Storage where
  IsRowOf stored row := row = .ofRoom stored
  instantOf := (·.createdAt)
  dated stored createdAt := { stored with createdAt }
  idOf_dated _ _ := rfl
  key_eq := by rintro _ _ rfl; rfl
  decode_eq_ok := by rintro _ _ rfl _; exact RoomRow.decode_ofRoom_eq_ok

/-- Students are stored with what they sign in against, which is no part of the record. -/
def studentStorage : students.Storage where
  IsRowOf stored row := ∃ hash, row = .ofStudent stored hash
  instantOf := (·.createdAt)
  dated stored createdAt := { stored with createdAt }
  idOf_dated _ _ := rfl
  key_eq := by rintro _ _ ⟨hash, rfl⟩; rfl
  decode_eq_ok := by rintro _ _ ⟨hash, rfl⟩ _; exact StudentRow.decode_ofStudent_eq_ok

/--
A change that keeps the instant of a record replaces what the record says and nothing else.
The instant is read of the new row as it was of the old one, whatever it reads as.
-/
theorem Storage.replaces {α ρ : Type} {table : Table α ρ} (storage : table.Storage) {db : Database}
    {id : Uuid} {entity : Entity} {applied : α → α} {change : ρ → ρ} {passes : Prop}
    {looksFirst : Bool} {changed : Database} {outcome : Except StoreError (Option α) × Database}
    (stored : ∀ row ∈ table.rows db, ∃ record, storage.IsRowOf record row)
    (unique : ((table.rows db).map table.key).Nodup)
    (update : IsUpdate table.isReadable table.decode
      ((table.rows db).find? (table.key · == .ofId id)) change passes looksFirst changed db outcome)
    (rows : table.rows changed = changeRow (table.key · == .ofId id) change (table.rows db))
    (others : changed.SameBut db entity)
    (written : ∀ record row, storage.IsRowOf record row →
      storage.IsRowOf (applied record) (change row))
    (sameInstant : ∀ record, storage.instantOf (applied record) = storage.instantOf record)
    (dated_applied : ∀ record createdAt,
      storage.dated (applied record) createdAt = applied (storage.dated record createdAt)) :
    table.Replaces entity id applied db outcome := by
  intro record answered
  -- The answer is what the changed row reads as, and that row was found by its key.
  obtain ⟨row, found, decoded, made⟩ := update.of_some answered
  obtain ⟨member, isIt⟩ := mem_of_find?_key found
  obtain ⟨old, isRow⟩ := stored row member
  -- The instant that was read of the new row is that of the old one, which reads as well.
  obtain ⟨createdAt, read, rfl⟩ := (storage.decode_eq_ok (written old row isRow)).mp decoded
  rw [sameInstant] at read
  have oldDecoded := (storage.decode_eq_ok isRow).mpr ⟨createdAt, read, rfl⟩
  have oldId : table.idOf (storage.dated old createdAt) = id := by
    rw [storage.idOf_dated, ← Cell.ofId_inj, ← storage.key_eq isRow, isIt]
  have replaced := isReplaced_replaceRow unique found (change row)
  -- The table after the change is the one in which that row was replaced.
  rw [← changeRow_of_find? found, ← rows] at replaced
  rw [made]
  exact ⟨row, change row, storage.dated old createdAt, oldDecoded, oldId, decoded,
    dated_applied old createdAt, replaced, others⟩

end Table

section Updates

variable {clock : Instant → Prop} {db : Database} (written : db.Written clock) (unique : db.Unique)
  (id : Uuid)

include written unique

/-- The name of a department is replaced. -/
theorem updateDepartment_replaces (input : NewDepartment) :
    Table.departments.Replaces .department id input.applied db (updateDepartment id input db) := by
  refine Table.departmentStorage.replaces (fun row member => ?_) unique.departmentKeys
    (updateDepartment_isUpdate db id input) rfl rfl ?_ (fun _ => rfl) (fun _ _ => rfl)
  · -- What is stored of a department is its row.
    exact (written.departments row member).imp fun _ => And.right
  · -- The row under another name is that of the department with this name.
    rintro stored _ rfl
    rfl

/-- The record of a professor is replaced. -/
theorem updateProfessor_replaces (input : NewProfessor) :
    Table.professors.Replaces .professor id input.applied db (updateProfessor id input db) := by
  refine Table.professorStorage.replaces (fun row member => ?_) unique.professorKeys
    (updateProfessor_isUpdate db id input) rfl rfl ?_ (fun _ => rfl) (fun _ _ => rfl)
  · -- What is stored of a professor is their row.
    exact (written.professors row member).imp fun _ => And.right
  · rintro stored _ rfl
    rfl

/-- So is that of a room. -/
theorem updateRoom_replaces (input : NewRoom) :
    Table.rooms.Replaces .room id input.applied db (updateRoom id input db) := by
  refine Table.roomStorage.replaces (fun row member => ?_) unique.roomKeys
    (updateRoom_isUpdate db id input) rfl rfl ?_ (fun _ => rfl) (fun _ _ => rfl)
  · -- What is stored of a room is its row.
    exact (written.rooms row member).imp fun _ => And.right
  · rintro stored _ rfl
    rfl

/-- So is that of a student, whatever becomes of what to sign in against. -/
theorem updateStudent_replaces (input : NewStudent) :
    Table.students.Replaces .student id input.applied db (updateStudent id input db) := by
  refine Table.studentStorage.replaces (fun row member => ?_) unique.studentKeys
    (updateStudent_isUpdate db id input) rfl rfl ?_ (fun _ => rfl) (fun _ _ => rfl)
  · -- What is stored of a student is their row, with the hash.
    obtain ⟨stored, hash, -, rfl⟩ := written.students row member
    exact ⟨stored, hash, rfl⟩
  · -- A hash that is not given is kept, and the row is that of the new record with either.
    rintro stored _ ⟨hash, rfl⟩
    exact ⟨input.passwordHash.or hash, StudentRow.replaced_ofStudent rfl input⟩

/-- The row of a student is replaced, with the hash that is given or else the one that it had. -/
theorem updateStudent_of_written {input : NewStudent} {student : Student}
    (answered : (updateStudent id input db).1 = .ok (some student)) :
    ∃ stored hash, stored.studentId = id ∧
      (StudentRow.ofStudent (input.applied stored) (input.passwordHash.or hash)).decode =
        .ok student ∧
      IsReplaced (.ofStudent stored hash)
        (.ofStudent (input.applied stored) (input.passwordHash.or hash)) db.students
        (updateStudent id input db).2.students ∧
      (updateStudent id input db).2.SameBut db .student := by
  obtain ⟨row, found, decoded, made⟩ := (updateStudent_isUpdate db id input).of_some answered
  obtain ⟨member, isIt⟩ := mem_of_find?_key found
  obtain ⟨stored, hash, -, rfl⟩ := written.students row member
  -- The cells of the changed row are those of the new record, with either hash.
  rw [StudentRow.replaced, StudentRow.replaced_ofStudent rfl input] at decoded
  have replaced := isReplaced_replaceRow unique.studentKeys found
    (.ofStudent (input.applied stored) (input.passwordHash.or hash))
  rw [made, Operation.changed, changeRow_of_find? found, StudentRow.replaced,
    StudentRow.replaced_ofStudent rfl input]
  exact ⟨stored, hash, Cell.ofId_inj.mp isIt, decoded, replaced, rfl⟩

end Updates

section SignIn

variable {db : Database}

/-- A student signs in under their number, against the hash of their row. -/
theorem studentLogin_of_mem (unique : db.Unique) {student : Student} {hash : Option String}
    (member : .ofStudent student hash ∈ db.students) :
    db.studentLogin student.studentNumber = .ok (some ⟨student.studentId, hash⟩) := by
  have found : db.students.find? (·.studentNumber == .text student.studentNumber) =
      some (.ofStudent student hash) := find?_of_mem unique.studentNumbers member
  -- The number is found in the row of the student, which can be read for a sign-in.
  rw [studentLogin, found, readRow?_eq_ok]
  exact ⟨StudentRow.isLoginReadable_ofStudent .., StudentRow.decodeLogin_ofStudent ..⟩

/-- Under a number that no student has, nobody signs in. -/
theorem studentLogin_of_absent {number : String}
    (absent : ∀ row ∈ db.students, row.studentNumber ≠ .text number) :
    db.studentLogin number = .ok none := by
  -- Each row has another number.
  have none_found : db.students.find? (·.studentNumber == .text number) = none :=
    List.find?_eq_none.mpr fun row member => mt beq_iff_eq.mp (absent row member)
  rw [studentLogin, none_found, readRow?]

/-- A student whose record is replaced signs in under the new number, and under no other. -/
theorem updateStudent_logins {clock : Instant → Prop} (written : db.Written clock)
    (unique : db.Unique) {id : Uuid} {input : NewStudent} {student : Student}
    (answered : (updateStudent id input db).1 = .ok (some student)) :
    ∃ number hash, db.studentLogin number = .ok (some ⟨id, hash⟩) ∧
      (updateStudent id input db).2.studentLogin input.studentNumber =
        .ok (some ⟨id, input.passwordHash.or hash⟩) ∧
      (number ≠ input.studentNumber →
        (updateStudent id input db).2.studentLogin number = .ok none) := by
  obtain ⟨stored, hash, rfl, -, replaced, -⟩ :=
    updateStudent_of_written written unique id answered
  -- Numbers still come once, whatever the stamp that is not used for an update.
  have uniqueAfter : (updateStudent stored.studentId input db).2.Unique :=
    (updateStudent_effect (.ofDigit 0) db stored.studentId input).unique unique
  -- Of the other students none has a number that is given up or taken.
  have others := replaced.eq_or_ne unique.studentNumbers
  obtain ⟨before, after, rows, changedRows⟩ := replaced
  have member : .ofStudent stored hash ∈ db.students := by
    rw [rows]
    exact List.mem_append_cons_self
  have newMember : .ofStudent (input.applied stored) (input.passwordHash.or hash) ∈
      (updateStudent stored.studentId input db).2.students := by
    rw [changedRows]
    exact List.mem_append_cons_self
  refine ⟨stored.studentNumber, hash, studentLogin_of_mem unique member,
    studentLogin_of_mem uniqueAfter newMember, fun renamed => ?_⟩
  refine studentLogin_of_absent fun row member => ?_
  -- The old number was that of the row that was replaced, or it is that of nobody.
  rcases others row member with rfl | other
  · exact fun same => renamed (Cell.text.inj same).symm
  · exact other

end SignIn

namespace Database

/-- Whatever is replaced under an identifier is replaced as a whole, and is all that is. -/
structure Replaces (db : Database) (id : Uuid) : Prop where
  department : ∀ input : NewDepartment,
    Table.departments.Replaces .department id input.applied db (updateDepartment id input db)
  professor : ∀ input : NewProfessor,
    Table.professors.Replaces .professor id input.applied db (updateProfessor id input db)
  room : ∀ input : NewRoom,
    Table.rooms.Replaces .room id input.applied db (updateRoom id input db)
  student : ∀ input : NewStudent,
    Table.students.Replaces .student id input.applied db (updateStudent id input db)
  /-- A hash that is not given is the one that was there before, and the old number is given up. -/
  login : ∀ (input : NewStudent) (student : Student),
    (updateStudent id input db).1 = .ok (some student) →
      ∃ number hash, db.studentLogin number = .ok (some ⟨id, hash⟩) ∧
        (updateStudent id input db).2.studentLogin input.studentNumber =
          .ok (some ⟨id, input.passwordHash.or hash⟩) ∧
        (number ≠ input.studentNumber →
          (updateStudent id input db).2.studentLogin number = .ok none)

/-- In all that can be reached, by whatever clock, records are replaced as a whole. -/
theorem Reachable.replaces {clock : Instant → Prop} {db : Database}
    (reachable : db.Reachable clock) (id : Uuid) : db.Replaces id where
  department := updateDepartment_replaces reachable.written reachable.wellFormed.unique id
  professor := updateProfessor_replaces reachable.written reachable.wellFormed.unique id
  room := updateRoom_replaces reachable.written reachable.wellFormed.unique id
  student := updateStudent_replaces reachable.written reachable.wellFormed.unique id
  login _ _ := updateStudent_logins reachable.written reachable.wellFormed.unique

end Database

end CourseRegistry
