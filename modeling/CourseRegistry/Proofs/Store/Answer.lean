import CourseRegistry.Proofs.Store.WellFormed

/-!
What was done to the tables, told from the answer.
One row was added, one was changed, or one is gone.
-/

namespace CourseRegistry

open Database

section Lists

variable {ρ : Type}

/-- One list has a single row more than another one. -/
def IsOneMore (more fewer : List ρ) : Prop :=
  ∃ before row after, fewer = before ++ after ∧ more = before ++ row :: after

/-- A row that is put at the end is one more. -/
theorem isOneMore_append (rows : List ρ) (row : ρ) : IsOneMore (rows ++ [row]) rows :=
  ⟨rows, row, [], (List.append_nil rows).symm, rfl⟩

/-- No list has a row more than itself. -/
theorem IsOneMore.ne {more fewer : List ρ} (isOneMore : IsOneMore more fewer) : more ≠ fewer := by
  -- The lists differ in their lengths.
  obtain ⟨before, row, after, rfl, rfl⟩ := isOneMore
  intro same
  have lengths := congrArg List.length same
  simp only [List.length_append, List.length_cons] at lengths
  omega

/-- Once the rows with a key are taken away, no row has it. -/
theorem any_filter_key {κ : Type} [DecidableEq κ] (key : ρ → κ) (gone : κ) (rows : List ρ) :
    (rows.filter (key · != gone)).any (key · == gone) = false := by
  -- A row that is left has another key.
  refine List.any_eq_false.mpr fun row member is => ?_
  obtain ⟨-, stays⟩ := List.mem_filter.mp member
  exact bne_iff_ne.mp stays (beq_iff_eq.mp is)

end Lists

namespace Database

/-- One database has a single row of a kind more than another one, and is the same otherwise. -/
def HasOneMore (more fewer : Database) : Entity → Prop
  | .department => ∃ rows, IsOneMore rows fewer.departments ∧
      more = { fewer with departments := rows }
  | .professor => ∃ rows, IsOneMore rows fewer.professors ∧ more = { fewer with professors := rows }
  | .room => ∃ rows, IsOneMore rows fewer.rooms ∧ more = { fewer with rooms := rows }
  | .student => ∃ rows, IsOneMore rows fewer.students ∧ more = { fewer with students := rows }
  | .subject => ∃ rows, IsOneMore rows fewer.subjects ∧ more = { fewer with subjects := rows }
  | .meeting => ∃ rows, IsOneMore rows fewer.meetings ∧ more = { fewer with meetings := rows }

/-- One database has a single seat more than another one, and is the same otherwise. -/
def HasOneSeatMore (more fewer : Database) : Prop :=
  ∃ rows, IsOneMore rows fewer.enrollments ∧ more = { fewer with enrollments := rows }

/-- With a row more the tables are not the same. -/
theorem HasOneMore.ne {more fewer : Database} {entity : Entity}
    (hasOneMore : more.HasOneMore fewer entity) : more ≠ fewer := by
  -- It is the table of the kind that differs.
  intro same
  cases entity with
  | department =>
    obtain ⟨rows, isOneMore, changed⟩ := hasOneMore
    exact isOneMore.ne (congrArg departments (changed.symm.trans same))
  | professor =>
    obtain ⟨rows, isOneMore, changed⟩ := hasOneMore
    exact isOneMore.ne (congrArg professors (changed.symm.trans same))
  | room =>
    obtain ⟨rows, isOneMore, changed⟩ := hasOneMore
    exact isOneMore.ne (congrArg rooms (changed.symm.trans same))
  | student =>
    obtain ⟨rows, isOneMore, changed⟩ := hasOneMore
    exact isOneMore.ne (congrArg students (changed.symm.trans same))
  | subject =>
    obtain ⟨rows, isOneMore, changed⟩ := hasOneMore
    exact isOneMore.ne (congrArg subjects (changed.symm.trans same))
  | meeting =>
    obtain ⟨rows, isOneMore, changed⟩ := hasOneMore
    exact isOneMore.ne (congrArg meetings (changed.symm.trans same))

/-- With a seat more they are not the same, either. -/
theorem HasOneSeatMore.ne {more fewer : Database} (hasOneMore : more.HasOneSeatMore fewer) :
    more ≠ fewer := by
  intro same
  obtain ⟨rows, isOneMore, changed⟩ := hasOneMore
  exact isOneMore.ne (congrArg enrollments (changed.symm.trans same))

end Database

section Additions

variable {stamp : Stamp} {db : Database}

/-- A department that is answered with is new, and its row stands behind all others. -/
theorem addDepartment_of_ok {input : NewDepartment} {department : Department}
    (answered : (addDepartment stamp input db).1 = .ok department) :
    db.has .department department.departmentId = false ∧ department.createdAt = stamp.now ∧
      (addDepartment stamp input db).2 =
        { db with departments := db.departments ++ [.ofDepartment department] } := by
  unfold addDepartment at answered ⊢
  dsimp only at answered ⊢
  split at answered
  · -- A name that is taken is answered with an error.
    cases answered
  · next free =>
    rw [if_neg free]
    obtain rfl := Except.ok.inj answered
    -- A new identifier is checked together with the name.
    obtain ⟨newId, -⟩ := new_of_not_any free
    exact ⟨newId, rfl, rfl⟩

/-- So is a professor who is answered with. -/
theorem addProfessor_of_ok {input : NewProfessor} {professor : Professor}
    (answered : (addProfessor stamp input db).1 = .ok professor) :
    db.has .professor professor.professorId = false ∧ professor.createdAt = stamp.now ∧
      (addProfessor stamp input db).2 =
        { db with professors := db.professors ++ [.ofProfessor professor] } := by
  unfold addProfessor at answered ⊢
  dsimp only at answered ⊢
  split at answered
  · -- The department that is referred to does not exist.
    cases answered
  · split at answered
    · -- The identifier is taken.
      cases answered
    · next newId =>
      rw [if_neg newId]
      obtain rfl := Except.ok.inj answered
      exact ⟨Bool.eq_false_iff.mpr newId, rfl, rfl⟩

/-- So is a room. -/
theorem addRoom_of_ok {input : NewRoom} {room : Room}
    (answered : (addRoom stamp input db).1 = .ok room) :
    db.has .room room.roomId = false ∧ room.createdAt = stamp.now ∧
      (addRoom stamp input db).2 = { db with rooms := db.rooms ++ [.ofRoom room] } := by
  unfold addRoom at answered ⊢
  dsimp only at answered ⊢
  split at answered
  · -- Neither the identifier nor the name is taken where a room is answered with.
    cases answered
  · next free =>
    rw [if_neg free]
    obtain rfl := Except.ok.inj answered
    obtain ⟨newId, -⟩ := new_of_not_any free
    exact ⟨newId, rfl, rfl⟩

/-- So is a student, whose row has what there is to sign in against. -/
theorem addStudent_of_ok {input : NewStudent} {student : Student}
    (answered : (addStudent stamp input db).1 = .ok student) :
    db.has .student student.studentId = false ∧ student.createdAt = stamp.now ∧
      (addStudent stamp input db).2 =
        { db with students := db.students ++ [.ofStudent student input.passwordHash] } := by
  unfold addStudent at answered ⊢
  dsimp only at answered ⊢
  split at answered
  · -- The department that is referred to does not exist.
    cases answered
  · split at answered
    · -- The identifier or the number is taken.
      cases answered
    · next free =>
      rw [if_neg free]
      obtain rfl := Except.ok.inj answered
      obtain ⟨newId, -⟩ := new_of_not_any free
      exact ⟨newId, rfl, rfl⟩

/-- So is a subject, which has no meetings yet. -/
theorem addSubject_of_ok {input : NewSubject} {subject : Subject}
    (answered : (addSubject stamp input db).1 = .ok subject) :
    db.has .subject subject.subjectId = false ∧ subject.createdAt = stamp.now ∧
      subject.schedule = [] ∧ (addSubject stamp input db).2 =
        { db with subjects := db.subjects ++ [.ofSubject subject] } := by
  unfold addSubject at answered ⊢
  -- What is not valid is refused before anything is looked at.
  split at answered
  · cases answered
  · dsimp only at answered ⊢
    split at answered
    · -- A professor or a department that is referred to does not exist.
      cases answered
    · split at answered
      · -- The identifier is taken.
        cases answered
      · next newId =>
        rw [if_neg newId]
        obtain rfl := Except.ok.inj answered
        exact ⟨Bool.eq_false_iff.mpr newId, rfl, rfl, rfl⟩

/-- So is a meeting, the times of which can be stored. -/
theorem addMeeting_of_ok {subjectId : Uuid} {input : NewMeeting} {slot : MeetingSlot}
    (answered : (addMeeting stamp subjectId input db).1 = .ok slot) :
    db.has .meeting slot.slotId = false ∧ slot.IsStorable ∧
      (addMeeting stamp subjectId input db).2 =
        { db with meetings := db.meetings ++ [.ofMeeting slot] } := by
  unfold addMeeting at answered ⊢
  split at answered
  · -- The times are not whole or not in order.
    cases answered
  · next time accepted =>
    dsimp only at answered ⊢
    split at answered
    · -- The subject or the room does not exist.
      cases answered
    · split at answered
      · -- The identifier is taken.
        cases answered
      · next newId =>
        rw [if_neg newId]
        obtain rfl := Except.ok.inj answered
        -- The times that were accepted are whole and in order.
        have storable := NewMeeting.isStorable_of_timeRange accepted stamp.id subjectId input.roomId
        exact ⟨Bool.eq_false_iff.mpr newId, storable, rfl⟩

end Additions

section Updates

variable {db : Database} {id : Uuid}

/-- An answer with a record is that of a row that was read. -/
theorem decode_of_map {α : Type} {decoded : Except StoreError α} {record : α}
    (read : some <$> decoded = .ok (some record)) : decoded = .ok record := by
  cases decoded with
  | error error => cases read
  | ok found =>
    rw [map_ok, Except.ok.injEq, Option.some.injEq] at read
    rw [read]

/-- So it is where the shape of the row was looked at first. -/
theorem readRow?_eq_ok {α ρ : Type} {isReadable : ρ → Bool} {decode : ρ → Except StoreError α}
    {row : ρ} {record : α} : readRow? isReadable decode (some row) = .ok (some record) ↔
      isReadable row = true ∧ decode row = .ok record := by
  rw [readRow?]
  constructor
  · -- What is looked at and found readable is decoded.
    intro read
    split at read
    · next readable => exact ⟨readable, decode_of_map read⟩
    · cases read
  · rintro ⟨readable, decoded⟩
    rw [if_pos readable, decoded, map_ok]

namespace Database

/-- The tables with another row for the subject of an identifier. -/
def withSubject (db : Database) (id : Uuid) (row : SubjectRow) : Database :=
  { db with subjects := replaceRow (·.subjectId == .ofId id) row db.subjects }

/-- The row of a subject is found, and the tables take a change to it. -/
structure Takes (db : Database) (id : Uuid) (patch : SubjectPatch) (row : SubjectRow) : Prop where
  valid : patch.validate = .ok ()
  found : db.subjects.find? (·.subjectId == .ofId id) = some row
  checked : db.checkReferences
    [(.professor, patch.professorId.join), (.department, patch.departmentId.join)] = .ok ()
  sound : db.isSound (patched patch row) = true

variable {patch : SubjectPatch}

/-- The changed row is what is stored, and the subject is read from the changed tables. -/
theorem Takes.updateSubject {row : SubjectRow} (takes : db.Takes id patch row) :
    updateSubject id patch db =
      ((db.withSubject id (patched patch row)).getSubject id,
        db.withSubject id (patched patch row)) := by
  -- All checks pass, so that only the replacement is left.
  simp only [Database.updateSubject, takes.valid, takes.found, takes.checked, takes.sound, if_true]
  rfl

/-- There, the changed row is found, with the meetings that it had before. -/
theorem Takes.getSubject {row : SubjectRow} (takes : db.Takes id patch row) :
    (db.withSubject id (patched patch row)).getSubject id =
      readRow? Offering.isReadable Offering.decode (some (.of db (patched patch row))) := by
  -- The changed row has the key of the one that it replaces.
  obtain ⟨-, isIt⟩ := mem_of_find?_key takes.found
  have replaced : (db.withSubject id (patched patch row)).subjects.find?
      (·.subjectId == .ofId id) = some (patched patch row) := find?_replaceRow takes.found isIt
  rw [Database.getSubject, replaced]
  rfl

/-- An update that answers with a subject has changed its row. -/
theorem takes_of_some {subject : Subject}
    (answered : (updateSubject id patch db).1 = .ok (some subject)) :
    ∃ row, db.Takes id patch row := by
  unfold Database.updateSubject at answered
  split at answered
  · -- The patch is not valid.
    cases answered
  · next valid =>
    split at answered
    · -- There is no subject to change.
      cases answered
    · next row found =>
      split at answered
      · -- What the patch refers to does not exist.
        cases answered
      · next checked =>
        split at answered
        · next sound => exact ⟨row, valid, found, checked, sound⟩
        · -- What the tables would hold is not sound.
          cases answered

end Database

end Updates

section Removals

/-- A record was there and is gone, with a yes; or it was not there, and the answer is a no. -/
def IsDeletion (entity : Entity) (id : Uuid) (db : Database)
    (outcome : Except StoreError Bool × Database) : Prop :=
  (outcome.1 = .ok true ∧ db.has entity id = true ∧ outcome.2.has entity id = false) ∨
    (outcome.1 = .ok false ∧ outcome.2 = db)

/-- A deletion first looks whether the record is there. -/
theorem isDeletion_of_ite {entity : Entity} {id : Uuid} {db gone : Database}
    {outcome : Except StoreError Bool × Database}
    (is : outcome = if db.has entity id then (.ok true, gone) else (.ok false, db))
    (removed : gone.has entity id = false) : IsDeletion entity id db outcome := by
  subst is
  cases there : db.has entity id with
  -- The record is there, and its row is taken away.
  | true => exact .inl ⟨rfl, there, removed⟩
  | false => exact .inr ⟨rfl, rfl⟩

/-- An answer that is taken as it is makes no difference. -/
theorem IsDeletion.map_answer {entity : Entity} {id : Uuid} {db : Database}
    {outcome : Except StoreError Bool × Database} (isDeletion : IsDeletion entity id db outcome) :
    IsDeletion entity id db ((fun gone => gone) <$> outcome.1, outcome.2) := by
  rwa [id_map']

variable (id : Uuid) (db : Database)

/-- A department is gone with its row. -/
theorem deleteDepartment_isDeletion : IsDeletion .department id db (deleteDepartment id db) :=
  isDeletion_of_ite rfl (any_filter_key DepartmentRow.departmentId _ db.departments)

/-- So is a professor. -/
theorem deleteProfessor_isDeletion : IsDeletion .professor id db (deleteProfessor id db) :=
  isDeletion_of_ite rfl (any_filter_key ProfessorRow.professorId _ db.professors)

/-- So is a room. -/
theorem deleteRoom_isDeletion : IsDeletion .room id db (deleteRoom id db) :=
  isDeletion_of_ite rfl (any_filter_key RoomRow.roomId _ db.rooms)

/-- So is a student. -/
theorem deleteStudent_isDeletion : IsDeletion .student id db (deleteStudent id db) :=
  isDeletion_of_ite rfl (any_filter_key StudentRow.studentId _ db.students)

/-- So is a subject. -/
theorem deleteSubject_isDeletion : IsDeletion .subject id db (deleteSubject id db) :=
  isDeletion_of_ite rfl (any_filter_key SubjectRow.subjectId _ db.subjects)

/-- So is a meeting. -/
theorem removeMeeting_isDeletion : IsDeletion .meeting id db (removeMeeting id db) :=
  isDeletion_of_ite rfl (any_filter_key MeetingRow.slotId _ db.meetings)

/-- A seat is given back where it was held, and then a single row is gone. -/
theorem releaseSeat_cases (unique : db.Unique) (studentId subjectId : Uuid) :
    ((releaseSeat studentId subjectId db).1 = .ok .cancelled ∧
        db.HasOneSeatMore (releaseSeat studentId subjectId db).2) ∨
      ((releaseSeat studentId subjectId db).1 = .ok .notEnrolled ∧
        (releaseSeat studentId subjectId db).2 = db) := by
  unfold releaseSeat
  split
  · next held =>
    -- The rows that go are those of the student and the subject, and there is only one.
    have isIt_iff (row : EnrollmentRow) : (row.isOf studentId && row.isIn subjectId) = true ↔
        (row.studentId, row.subjectId) = (.ofId studentId, .ofId subjectId) := by
      simp [EnrollmentRow.isOf, EnrollmentRow.isIn]
    obtain ⟨before, row, after, -, split_eq, left_eq⟩ :=
      exists_filter_not unique.seats isIt_iff held
    exact .inl ⟨rfl, db.enrollments, ⟨before, row, after, left_eq, split_eq⟩, rfl⟩
  · -- No row says that the seat is held.
    exact .inr ⟨rfl, rfl⟩

end Removals

end CourseRegistry
