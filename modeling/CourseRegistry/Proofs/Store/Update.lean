import CourseRegistry.Proofs.Store.Answer
import CourseRegistry.Proofs.Store.Readable

/-!
How an update ends.
It leaves the tables as they were, or it changes the row of one record and answers with that row.
-/

namespace CourseRegistry

open Database

/-- A change to the record of an identifier, if there is one. -/
def Operation.isUpdate : Operation → Bool
  | updateDepartment .. | updateProfessor .. | updateRoom .. | updateStudent .. => true
  | updateSubject .. => true
  | _ => false

/-- The row of a department under another name. -/
def DepartmentRow.renamed (input : NewDepartment) (row : DepartmentRow) : DepartmentRow :=
  { row with name := .text input.name }

/-- The row of a professor with another record. -/
def ProfessorRow.replaced (input : NewProfessor) (row : ProfessorRow) : ProfessorRow :=
  { row with
    name := .text input.name
    email := .ofOption .text input.email
    departmentId := .ofOption .ofId input.departmentId }

/-- The row of a room with another record. -/
def RoomRow.replaced (input : NewRoom) (row : RoomRow) : RoomRow :=
  { row with name := .text input.name, building := .ofOption .text input.building }

/-- The row of a student with another record; a hash that is not given is kept. -/
def StudentRow.replaced (input : NewStudent) (row : StudentRow) : StudentRow :=
  { row with
    studentNumber := .text input.studentNumber
    name := .text input.name
    departmentId := .ofOption .ofId input.departmentId
    grade := .ofOption .text input.grade
    passwordHash := (input.passwordHash.map Cell.text).getD row.passwordHash }

/-- What the tables hold of a subject, after a change to its row. -/
def Database.Offering.patched (patch : SubjectPatch) (offering : Offering) : Offering :=
  { offering with subject := Database.patched patch offering.subject }

/-- The rows of a table after a change to the one that is looked for. -/
def changeRow {ρ : Type} (isIt : ρ → Bool) (change : ρ → ρ) (rows : List ρ) : List ρ :=
  match rows.find? isIt with
  | some row => replaceRow isIt (change row) rows
  | none => rows

namespace Operation

/-- All checks of an update pass: there is such a record, and the tables take what is written. -/
def Passes (db : Database) : Operation → Prop
  | updateDepartment id input => db.has .department id = true ∧
    ∀ row ∈ db.departments, row.departmentId ≠ .ofId id → row.name ≠ .text input.name
  | updateProfessor id input => db.has .professor id = true ∧
    db.checkReferences [(.department, input.departmentId)] = .ok ()
  | updateRoom id input => db.has .room id = true ∧
    ∀ row ∈ db.rooms, row.roomId ≠ .ofId id → row.name ≠ .text input.name
  | updateStudent id input => db.has .student id = true ∧
    db.checkReferences [(.department, input.departmentId)] = .ok () ∧
    ∀ row ∈ db.students, row.studentId ≠ .ofId id → row.studentNumber ≠ .text input.studentNumber
  | updateSubject id patch => ∃ row, db.Takes id patch row
  | _ => False

/-- The tables after an update that changes the row of its record. -/
def changed (db : Database) : Operation → Database
  | updateDepartment id input => { db with
    departments := changeRow (·.departmentId == .ofId id) (.renamed input) db.departments }
  | updateProfessor id input => { db with
    professors := changeRow (·.professorId == .ofId id) (.replaced input) db.professors }
  | updateRoom id input => { db with
    rooms := changeRow (·.roomId == .ofId id) (.replaced input) db.rooms }
  | updateStudent id input => { db with
    students := changeRow (·.studentId == .ofId id) (.replaced input) db.students }
  | updateSubject id patch => { db with
    subjects := changeRow (·.subjectId == .ofId id) (patched patch) db.subjects }
  | _ => db

end Operation

section Changes

variable {α ρ : Type}

/--
An update whose checks do not pass changes nothing, and answers with no record.
Any other changes the row that it finds, and answers with what the changed row reads as; some look
at that row first, and change nothing where one of its cells has the wrong shape.
-/
structure IsUpdate (isReadable : ρ → Bool) (decode : ρ → Except StoreError α) (found? : Option ρ)
    (change : ρ → ρ) (passes : Prop) (looksFirst : Bool) (changed db : Database)
    (outcome : Except StoreError (Option α) × Database) : Prop where
  refused : ¬ passes → outcome = (.ok none, db) ∨ ∃ error, outcome = (.error error, db)
  found : passes → ∃ row, found? = some row
  made : passes → ∀ row, found? = some row →
    outcome = if looksFirst && !isReadable (change row) then (.error .database, db)
      else (readRow? isReadable decode (some (change row)), changed)

namespace IsUpdate

variable {isReadable : ρ → Bool} {decode : ρ → Except StoreError α} {found? : Option ρ}
  {change : ρ → ρ} {passes : Prop} {looksFirst : Bool} {changed db : Database}
  {outcome : Except StoreError (Option α) × Database}

/-- Where a check fails, it is enough that nothing is changed and no record is answered with. -/
theorem of_not_passes (fails : ¬ passes)
    (refusal : outcome = (.ok none, db) ∨ ∃ error, outcome = (.error error, db)) :
    IsUpdate isReadable decode found? change passes looksFirst changed db outcome where
  refused _ := refusal
  found passed := absurd passed fails
  made passed := absurd passed fails

/-- Where all pass, it is enough to know the row that is found. -/
theorem of_passes (passed : passes) {row : ρ} (located : found? = some row)
    (ends : outcome = if looksFirst && !isReadable (change row) then (.error .database, db)
      else (readRow? isReadable decode (some (change row)), changed)) :
    IsUpdate isReadable decode found? change passes looksFirst changed db outcome where
  refused fails := absurd passed fails
  found _ := ⟨row, located⟩
  made _ other same := by
    obtain rfl : row = other := Option.some.inj (located.symm.trans same)
    exact ends

/-- Where a check fails, the tables are as before. -/
theorem unchanged
    (update : IsUpdate isReadable decode found? change passes looksFirst changed db outcome)
    (fails : ¬ passes) : outcome.2 = db := by
  -- Whichever the refusal is, it comes with the tables from before.
  obtain is | ⟨error, is⟩ := update.refused fails <;> rw [is]

/-- An update answers with a record where the changed row reads back. -/
theorem answer
    (update : IsUpdate isReadable decode found? change passes looksFirst changed db outcome)
    (back : ∀ row, found? = some row → ReadsBack isReadable decode (change row)) :
    outcome.2 = db ∨ ∃ record, outcome.1 = .ok (some record) := by
  -- A check fails or all of them pass, and then there is a row to change.
  by_cases passed : passes
  · obtain ⟨row, located⟩ := update.found passed
    obtain ⟨record, read⟩ := (back row located).exists_readRow?
    have readable : (looksFirst && !isReadable (change row)) = false := by
      rw [(back row located).1, Bool.not_true, Bool.and_false]
    -- With all cells in shape, looking first makes no difference.
    rw [update.made passed row located, readable]
    exact .inr ⟨record, read⟩
  · exact .inl (update.unchanged passed)

/-- A record that is answered with is what the changed row reads as, and the change is made. -/
theorem of_some
    (update : IsUpdate isReadable decode found? change passes looksFirst changed db outcome)
    {record : α} (answered : outcome.1 = .ok (some record)) :
    ∃ row, found? = some row ∧ decode (change row) = .ok record ∧ outcome.2 = changed := by
  by_cases passed : passes
  · obtain ⟨row, located⟩ := update.found passed
    rw [update.made passed row located] at answered ⊢
    split at answered
    · -- What was looked at first was not in shape, and the answer is an error.
      cases answered
    · -- Otherwise the changed row was read, and what was read is the answer.
      next kept =>
      rw [if_neg kept]
      exact ⟨row, located, (readRow?_eq_ok.mp answered).2, rfl⟩
  · -- A refusal answers with no record.
    obtain is | ⟨error, is⟩ := update.refused passed <;> rw [is] at answered <;> cases answered

end IsUpdate

end Changes

section Rows

/-- A department that reads back does so under another name. -/
theorem DepartmentRow.readsBack_renamed {row : DepartmentRow}
    (back : ReadsBack isReadable decode row) (input : NewDepartment) :
    ReadsBack isReadable decode (row.renamed input) := by
  obtain ⟨shape, department, decoded⟩ := back
  simp only [isReadable, Bool.and_eq_true] at shape
  -- The name is left out of what is known, since it is the one cell that changes.
  obtain ⟨departmentId, id_eq, decoded⟩ := bind_eq_ok.mp decoded
  obtain ⟨_, -, decoded⟩ := bind_eq_ok.mp decoded
  obtain ⟨createdAt, created_eq, -⟩ := bind_eq_ok.mp decoded
  refine ⟨?_, ⟨departmentId, input.name, createdAt⟩, ?_⟩
  · -- The new name is text, and the other cells keep their shapes.
    simp [renamed, isReadable, shape]
  · -- It is read as that name, between the identifier and the instant.
    simp [renamed, decode, id_eq, created_eq]

/-- A professor that reads back does so with another record. -/
theorem ProfessorRow.readsBack_replaced {row : ProfessorRow}
    (back : ReadsBack isReadable decode row) (input : NewProfessor) :
    ReadsBack isReadable decode (row.replaced input) := by
  obtain ⟨shape, professor, decoded⟩ := back
  simp only [isReadable, Bool.and_eq_true] at shape
  -- Only the identifier and the instant stay, and they are read first and last.
  obtain ⟨professorId, id_eq, decoded⟩ := bind_eq_ok.mp decoded
  obtain ⟨_, -, decoded⟩ := bind_eq_ok.mp decoded
  obtain ⟨_, -, decoded⟩ := bind_eq_ok.mp decoded
  obtain ⟨_, -, decoded⟩ := bind_eq_ok.mp decoded
  obtain ⟨createdAt, created_eq, -⟩ := bind_eq_ok.mp decoded
  refine ⟨?_, ⟨professorId, input.name, input.email, input.departmentId, createdAt⟩, ?_⟩
  · simp [replaced, isReadable, shape]
  · simp [replaced, decode, id_eq, created_eq]

/-- So does a room. -/
theorem RoomRow.readsBack_replaced {row : RoomRow} (back : ReadsBack isReadable decode row)
    (input : NewRoom) : ReadsBack isReadable decode (row.replaced input) := by
  obtain ⟨shape, room, decoded⟩ := back
  simp only [isReadable, Bool.and_eq_true] at shape
  -- What is written are the name and the building.
  obtain ⟨roomId, id_eq, decoded⟩ := bind_eq_ok.mp decoded
  obtain ⟨_, -, decoded⟩ := bind_eq_ok.mp decoded
  obtain ⟨_, -, decoded⟩ := bind_eq_ok.mp decoded
  obtain ⟨createdAt, created_eq, -⟩ := bind_eq_ok.mp decoded
  refine ⟨?_, ⟨roomId, input.name, input.building, createdAt⟩, ?_⟩
  · simp [replaced, isReadable, shape]
  · simp [replaced, decode, id_eq, created_eq]

/-- So does a student, whatever there is to sign in against. -/
theorem StudentRow.readsBack_replaced {row : StudentRow} (back : ReadsBack isReadable decode row)
    (input : NewStudent) : ReadsBack isReadable decode (row.replaced input) := by
  obtain ⟨shape, student, decoded⟩ := back
  simp only [isReadable, Bool.and_eq_true] at shape
  -- Four cells are written and the hash is not read, so the same two of them matter.
  obtain ⟨studentId, id_eq, decoded⟩ := bind_eq_ok.mp decoded
  obtain ⟨_, -, decoded⟩ := bind_eq_ok.mp decoded
  obtain ⟨_, -, decoded⟩ := bind_eq_ok.mp decoded
  obtain ⟨_, -, decoded⟩ := bind_eq_ok.mp decoded
  obtain ⟨_, -, decoded⟩ := bind_eq_ok.mp decoded
  obtain ⟨createdAt, created_eq, -⟩ := bind_eq_ok.mp decoded
  refine ⟨?_, ⟨studentId, input.studentNumber, input.name, input.departmentId, input.grade,
    createdAt⟩, ?_⟩
  · simp [replaced, isReadable, shape]
  · simp [replaced, decode, id_eq, created_eq]

/-- What holds of a cell and of what is written, if anything is, holds of the changed cell. -/
theorem getD_map_cell_of_set {β : Type} (holds : Cell → Prop) {write : β → Cell} {value : Option β}
    {cell : Cell} (stored : holds cell) (written : ∀ set, value = some set → holds (write set)) :
    holds ((value.map write).getD cell) := by
  cases value with
  -- A cell that is left alone is the one that was stored.
  | none => exact stored
  | some set => exact written set rfl

/-- What holds of a cell and of all that are written holds of the cell after a change to it. -/
theorem getD_map_cell {β : Type} (holds : Cell → Prop) {write : β → Cell} (value : Option β)
    {cell : Cell} (stored : holds cell) (written : ∀ value, holds (write value)) :
    holds ((value.map write).getD cell) :=
  getD_map_cell_of_set holds stored fun set _ => written set

/-- The cells of a subject keep their shapes, whatever part of it is changed. -/
theorem SubjectRow.isReadable_patched {row : SubjectRow} (shape : row.isReadable = true)
    (patch : SubjectPatch) : (patched patch row).isReadable = true := by
  simp only [isReadable, Bool.and_eq_true] at shape
  obtain ⟨⟨⟨⟨⟨⟨⟨id, name⟩, credits⟩, capacity⟩, semester⟩, professor⟩, department⟩, created⟩ :=
    shape
  simp only [isReadable, Bool.and_eq_true]
  -- The identifier and the instant stay, and each other cell stays or is written anew.
  refine ⟨⟨⟨⟨⟨⟨⟨id, ?_⟩, ?_⟩, ?_⟩, ?_⟩, ?_⟩, ?_⟩, created⟩
  · exact getD_map_cell (·.isText = true) patch.name name Cell.isText_text
  · exact getD_map_cell (·.isInteger = true) patch.credits credits Cell.isInteger_ofCount
  · exact getD_map_cell (·.isInteger = true) patch.capacity capacity Cell.isInteger_ofCount
  · exact getD_map_cell (·.isText = true) patch.semester semester Cell.isText_text
  · exact getD_map_cell (·.isTextOrNull = true) patch.professorId professor
      Cell.isTextOrNull_ofOption_ofId
  · exact getD_map_cell (·.isTextOrNull = true) patch.departmentId department
      Cell.isTextOrNull_ofOption_ofId

/-- A subject that reads as a record reads as one after a change to any part of it. -/
theorem SubjectRow.exists_decode_patched {row : SubjectRow} {schedule : List MeetingSlot}
    {subject : Subject} (decoded : row.decode schedule = .ok subject) (patch : SubjectPatch) :
    ∃ changed, (patched patch row).decode schedule = .ok changed := by
  obtain ⟨subjectId, id_eq, decoded⟩ := bind_eq_ok.mp decoded
  obtain ⟨name, name_eq, decoded⟩ := bind_eq_ok.mp decoded
  obtain ⟨credits, credits_eq, decoded⟩ := bind_eq_ok.mp decoded
  obtain ⟨capacity, capacity_eq, decoded⟩ := bind_eq_ok.mp decoded
  obtain ⟨semester, semester_eq, decoded⟩ := bind_eq_ok.mp decoded
  obtain ⟨professorId, professor_eq, decoded⟩ := bind_eq_ok.mp decoded
  obtain ⟨departmentId, department_eq, decoded⟩ := bind_eq_ok.mp decoded
  obtain ⟨createdAt, created_eq, -⟩ := bind_eq_ok.mp decoded
  -- Whether a cell stays or is written anew, it reads as something.
  have reads {α β : Type} (read : Cell → Except StoreError α) {write : β → Cell} (value : Option β)
      {cell : Cell} {stored : α} (stored_eq : read cell = .ok stored)
      (written : ∀ value, ∃ record, read (write value) = .ok record) :
      ∃ record, read ((value.map write).getD cell) = .ok record :=
    getD_map_cell (fun cell => ∃ record, read cell = .ok record) value ⟨stored, stored_eq⟩ written
  obtain ⟨newName, newName_eq⟩ := reads Cell.readText patch.name name_eq fun value =>
    ⟨value, Cell.readText_text value⟩
  obtain ⟨newCredits, newCredits_eq⟩ := reads Cell.readCount patch.credits credits_eq fun value =>
    ⟨value, Cell.readCount_ofCount value⟩
  obtain ⟨newCapacity, newCapacity_eq⟩ := reads Cell.readCount patch.capacity capacity_eq
    fun value => ⟨value, Cell.readCount_ofCount value⟩
  obtain ⟨newSemester, newSemester_eq⟩ := reads Cell.readText patch.semester semester_eq
    fun value => ⟨value, Cell.readText_text value⟩
  obtain ⟨newProfessor, newProfessor_eq⟩ := reads (Cell.readOption Cell.readId) patch.professorId
    professor_eq fun value => ⟨value, Cell.readOption_ofOption_ofId value⟩
  obtain ⟨newDepartment, newDepartment_eq⟩ := reads (Cell.readOption Cell.readId)
    patch.departmentId department_eq fun value => ⟨value, Cell.readOption_ofOption_ofId value⟩
  refine ⟨⟨subjectId, newName, newCredits, newCapacity, newSemester, newProfessor, newDepartment,
    createdAt, schedule⟩, ?_⟩
  simp only [decode, patched, id_eq, newName_eq, newCredits_eq, newCapacity_eq, newSemester_eq,
    newProfessor_eq, newDepartment_eq, created_eq, ok_bind, pure_eq_ok]

/-- A subject that reads back does so after a change to any part of it. -/
theorem Database.Offering.readsBack_patched {offering : Offering}
    (back : ReadsBack isReadable decode offering) (patch : SubjectPatch) :
    ReadsBack isReadable decode (offering.patched patch) := by
  -- All cells have their shapes, and the meetings read before the subject does.
  obtain ⟨shape, subject, decoded⟩ := back
  obtain ⟨row, meetings⟩ := Bool.and_eq_true_iff.mp shape
  obtain ⟨schedule, schedule_eq, decoded⟩ := bind_eq_ok.mp decoded
  obtain ⟨changed, changed_eq⟩ := SubjectRow.exists_decode_patched decoded patch
  refine ⟨?_, changed, ?_⟩
  · exact Bool.and_eq_true_iff.mpr ⟨SubjectRow.isReadable_patched row patch, meetings⟩
  · -- The meetings are looked at first, and read as before.
    exact bind_eq_ok.mpr ⟨schedule, schedule_eq, changed_eq⟩

end Rows

section Updates

variable (db : Database) (id : Uuid)

/-- A changed table is one in which the row that is found was replaced. -/
theorem changeRow_of_find? {ρ : Type} {isIt : ρ → Bool} {rows : List ρ} {row : ρ}
    (found : rows.find? isIt = some row) (change : ρ → ρ) :
    changeRow isIt change rows = replaceRow isIt (change row) rows := by
  rw [changeRow, found]

/-- To look first is to read the row only where all of its cells are in shape. -/
theorem looksFirst_eq {α ρ : Type} {isReadable : ρ → Bool} {decode : ρ → Except StoreError α}
    {row : ρ} {changed : Database} :
    (if isReadable row then (some <$> decode row, changed) else (.error .database, db)) =
      if true && !isReadable row then (.error .database, db)
      else (readRow? isReadable decode (some row), changed) := by
  cases readable : isReadable row <;> simp [readRow?, readable]

/-- A department is found, and answered with under its new name. -/
theorem updateDepartment_isUpdate (input : NewDepartment) :
    IsUpdate DepartmentRow.isReadable DepartmentRow.decode
      (db.departments.find? (·.departmentId == .ofId id)) (.renamed input)
      ((Operation.updateDepartment id input).Passes db) false
      ((Operation.updateDepartment id input).changed db) db (updateDepartment id input db) := by
  unfold updateDepartment
  split
  · -- No department has the key.
    next absent =>
    refine .of_not_passes (fun passes => ?_) (.inl rfl)
    exact Bool.false_ne_true ((any_eq_false_of_find? absent).symm.trans passes.1)
  · next row found =>
    split
    · -- Another one has the name, which is why the check fails.
      next taken =>
      obtain ⟨other, member, another, same⟩ := any_other_name_iff.mp taken
      exact .of_not_passes (fun passes => passes.2 other member another same) (.inr ⟨_, rfl⟩)
    · -- The name is free, and the row is changed and read.
      next free =>
      refine .of_passes ⟨any_of_find? found, fun other member another same => ?_⟩ found ?_
      · exact free (any_other_name_iff.mpr ⟨other, member, another, same⟩)
      · rw [Operation.changed, changeRow_of_find? found]
        rfl

/-- A professor is found, and answered with as replaced. -/
theorem updateProfessor_isUpdate (input : NewProfessor) :
    IsUpdate ProfessorRow.isReadable ProfessorRow.decode
      (db.professors.find? (·.professorId == .ofId id)) (.replaced input)
      ((Operation.updateProfessor id input).Passes db) true
      ((Operation.updateProfessor id input).changed db) db (updateProfessor id input db) := by
  unfold updateProfessor
  split
  · -- No professor has the key.
    next absent =>
    refine .of_not_passes (fun passes => ?_) (.inl rfl)
    exact Bool.false_ne_true ((any_eq_false_of_find? absent).symm.trans passes.1)
  · next row found =>
    split
    · -- The department that is referred to does not exist.
      next cause failed =>
      refine .of_not_passes (fun passes => ?_) (.inr ⟨_, rfl⟩)
      cases failed.symm.trans passes.2
    · -- The row is looked at before it is kept.
      next checked =>
      refine .of_passes ⟨any_of_find? found, checked⟩ found ?_
      rw [Operation.changed, changeRow_of_find? found]
      exact looksFirst_eq db

/-- So is a room. -/
theorem updateRoom_isUpdate (input : NewRoom) :
    IsUpdate RoomRow.isReadable RoomRow.decode (db.rooms.find? (·.roomId == .ofId id))
      (.replaced input) ((Operation.updateRoom id input).Passes db) false
      ((Operation.updateRoom id input).changed db) db (updateRoom id input db) := by
  unfold updateRoom
  split
  · -- No room has the key.
    next absent =>
    refine .of_not_passes (fun passes => ?_) (.inl rfl)
    exact Bool.false_ne_true ((any_eq_false_of_find? absent).symm.trans passes.1)
  · next row found =>
    split
    · -- Another one has the name.
      next taken =>
      obtain ⟨other, member, another, same⟩ := any_other_name_iff.mp taken
      exact .of_not_passes (fun passes => passes.2 other member another same) (.inr ⟨_, rfl⟩)
    · -- The name is free, and the row is changed and read.
      next free =>
      refine .of_passes ⟨any_of_find? found, fun other member another same => ?_⟩ found ?_
      · exact free (any_other_name_iff.mpr ⟨other, member, another, same⟩)
      · rw [Operation.changed, changeRow_of_find? found]
        rfl

/-- So is a student, whatever becomes of what to sign in against. -/
theorem updateStudent_isUpdate (input : NewStudent) :
    IsUpdate StudentRow.isReadable StudentRow.decode
      (db.students.find? (·.studentId == .ofId id)) (.replaced input)
      ((Operation.updateStudent id input).Passes db) true
      ((Operation.updateStudent id input).changed db) db (updateStudent id input db) := by
  unfold updateStudent
  split
  · -- No student has the key.
    next absent =>
    refine .of_not_passes (fun passes => ?_) (.inl rfl)
    exact Bool.false_ne_true ((any_eq_false_of_find? absent).symm.trans passes.1)
  · next row found =>
    split
    · -- The department that is referred to does not exist.
      next cause failed =>
      refine .of_not_passes (fun passes => ?_) (.inr ⟨_, rfl⟩)
      cases failed.symm.trans passes.2.1
    · next checked =>
      split
      · -- Another student has the number.
        next taken =>
        obtain ⟨other, member, another, same⟩ := any_other_name_iff.mp taken
        exact .of_not_passes (fun passes => passes.2.2 other member another same) (.inr ⟨_, rfl⟩)
      · -- All checks pass, and the row is looked at before it is kept.
        next free =>
        refine .of_passes ⟨any_of_find? found, checked, fun other member another same => ?_⟩
          found ?_
        · exact free (any_other_name_iff.mpr ⟨other, member, another, same⟩)
        · rw [Operation.changed, changeRow_of_find? found]
          exact looksFirst_eq db

/-- A subject is answered with as a whole, with the meetings that it had before. -/
theorem updateSubject_isUpdate (patch : SubjectPatch) :
    IsUpdate Offering.isReadable Offering.decode
      ((db.subjects.find? (·.subjectId == .ofId id)).map (Offering.of db)) (.patched patch)
      ((Operation.updateSubject id patch).Passes db) false
      ((Operation.updateSubject id patch).changed db) db (updateSubject id patch db) := by
  -- All four checks pass, or the first that fails is what the update answers.
  by_cases passed : (Operation.updateSubject id patch).Passes db
  · obtain ⟨row, takes⟩ := passed
    refine .of_passes ⟨row, takes⟩ (congrArg (Option.map _) takes.found) ?_
    -- The subject is read from the changed tables, where its meetings and its seats are the same.
    rw [takes.updateSubject, takes.getSubject, Operation.changed, changeRow_of_find? takes.found]
    rfl
  · refine .of_not_passes passed ?_
    unfold updateSubject
    split
    · -- The patch is not valid.
      exact .inr ⟨_, rfl⟩
    · next valid =>
      split
      · -- No subject has the key.
        exact .inl rfl
      · next row found =>
        split
        · -- A reference of the patch does not exist.
          exact .inr ⟨_, rfl⟩
        · next checked =>
          split
          · next sound => exact absurd ⟨row, valid, found, checked, sound⟩ passed
          · exact .inr ⟨_, rfl⟩

end Updates

end CourseRegistry
