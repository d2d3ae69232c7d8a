import CourseRegistry.Proofs.Store.Answer
import CourseRegistry.Proofs.Store.Seats

/-!
What a deletion takes along.
A record goes with all that cannot be without it, and what can be is left without it.
-/

namespace CourseRegistry

open Database

attribute [ext] Database

/-- A cell with the identifier of a record of some kind holds that of the given record. -/
def Cell.isOf (record : Entity × Uuid) (entity : Entity) (cell : Cell) : Bool :=
  record.1 == entity && cell == .ofId record.2

/-- A cell with the identifier of a record of some kind is left empty when it is the given one. -/
def Cell.clearedOf (record : Entity × Uuid) (entity : Entity) (cell : Cell) : Cell :=
  if cell.isOf record entity then .null else cell

/-- The tables without a record, and without all that refers to it. -/
def Database.without (db : Database) (record : Entity × Uuid) : Database where
  departments := db.departments.filter (!·.departmentId.isOf record .department)
  -- Professors, students and subjects stay without the department, and subjects without professor.
  professors := (db.professors.filter (!·.professorId.isOf record .professor)).map fun row =>
    { row with departmentId := row.departmentId.clearedOf record .department }
  rooms := db.rooms.filter (!·.roomId.isOf record .room)
  students := (db.students.filter (!·.studentId.isOf record .student)).map fun row =>
    { row with departmentId := row.departmentId.clearedOf record .department }
  subjects := (db.subjects.filter (!·.subjectId.isOf record .subject)).map fun row =>
    { row with
      professorId := row.professorId.clearedOf record .professor
      departmentId := row.departmentId.clearedOf record .department }
  -- A meeting goes with its subject, and stays without its room.
  meetings := (db.meetings.filter fun row =>
    !(row.slotId.isOf record .meeting || row.subjectId.isOf record .subject)).map fun row =>
      { row with roomId := row.roomId.clearedOf record .room }
  -- A seat goes with its student as well as with its subject.
  enrollments := db.enrollments.filter fun row =>
    !(row.studentId.isOf record .student || row.subjectId.isOf record .subject)

/-- The deletion of a record, whichever kind it is of. -/
def Database.delete (record : Entity × Uuid) : Change Bool :=
  match record.1 with
  | .department => deleteDepartment record.2
  | .professor => deleteProfessor record.2
  | .room => deleteRoom record.2
  | .student => deleteStudent record.2
  | .subject => deleteSubject record.2
  | .meeting => removeMeeting record.2

section Cells

variable {entity other : Entity} {id : Uuid} {cell : Cell}

/-- A key of the kind in question is that of the record where it has the identifier. -/
@[simp] theorem Cell.isOf_self : cell.isOf (entity, id) entity = (cell == .ofId id) := by
  rw [isOf, beq_self_eq_true, Bool.true_and]

/-- A key of another kind is never that of the record. -/
@[simp] theorem Cell.isOf_of_ne (apart : entity ≠ other) :
    cell.isOf (entity, id) other = false := by
  rw [isOf, beq_eq_false_iff_ne.mpr apart, Bool.false_and]

/-- A reference of the kind in question is cleared of the identifier. -/
@[simp] theorem Cell.clearedOf_self : cell.clearedOf (entity, id) entity = cell.withoutId id := by
  rw [clearedOf, isOf_self, withoutId]

/-- A reference of another kind is left as it is. -/
@[simp] theorem Cell.clearedOf_of_ne (apart : entity ≠ other) :
    cell.clearedOf (entity, id) other = cell := by
  rw [clearedOf, isOf_of_ne apart, if_neg Bool.false_ne_true]

end Cells

namespace Database

variable {db : Database} {record : Entity × Uuid}

/-- A record that is there is deleted, with a yes. -/
theorem delete_of_has (there : db.has record.1 record.2 = true) :
    delete record db = (.ok true, db.without record) := by
  obtain ⟨entity, id⟩ := record
  dsimp only at there
  -- What each deletion does is compared table by table with what is left without the record.
  cases entity with
  | department => simp [delete, deleteDepartment, there, without, bne]
  | professor => simp [delete, deleteProfessor, there, without, bne]
  | room => simp [delete, deleteRoom, there, without, bne]
  | student => simp [delete, deleteStudent, there, without, bne, EnrollmentRow.isOf]
  | subject => simp [delete, deleteSubject, there, without, bne, EnrollmentRow.isIn]
  | meeting => simp [delete, removeMeeting, there, without, bne]

/-- One that is not there is not deleted, and nothing changes. -/
theorem delete_of_absent (absent : db.has record.1 record.2 = false) :
    delete record db = (.ok false, db) := by
  obtain ⟨entity, id⟩ := record
  -- Each deletion first looks whether the record is there.
  have notThere : ¬ db.has entity id = true := Bool.eq_false_iff.mp absent
  cases entity with
  | department | professor | room | student | subject | meeting => exact if_neg notThere

section Absent

variable (absent : db.has record.1 record.2 = false) {entity : Entity} {cell : Cell}

include absent

/-- A key of the tables is not that of a record which is not there. -/
theorem isOf_eq_false_of_absent (key : db.hasKey entity cell = true) :
    cell.isOf record entity = false := by
  refine Bool.eq_false_iff.mpr fun is => ?_
  obtain ⟨same, holds⟩ := Bool.and_eq_true_iff.mp is
  -- The identifier would be a key of its kind, and so the record would be there.
  rw [← beq_iff_eq.mp same, beq_iff_eq.mp holds, ← has, absent] at key
  cases key

/-- What refers to something in the tables is not cleared of a record which is not there. -/
theorem clearedOf_eq_self_of_absent (reference : db.isReference entity cell = true) :
    cell.clearedOf record entity = cell := by
  -- A reference to nothing is cleared of nothing, and any other one is a key of the tables.
  rcases Bool.or_eq_true_iff.mp reference with null | key
  · rw [beq_iff_eq.mp null, Cell.clearedOf, ite_self]
  · rw [Cell.clearedOf, isOf_eq_false_of_absent absent key, if_neg Bool.false_ne_true]

/-- Without a record that is not there, the tables are as they were. -/
theorem Referential.without_eq_self (ref : db.Referential) : db.without record = db := by
  have notKey (entity : Entity) {cell : Cell} (key : cell ∈ db.keys entity) :
      cell.isOf record entity = false :=
    isOf_eq_false_of_absent absent (hasKey_iff.mpr key)
  -- Where no row is taken away and none is changed, a table stays.
  have stays {ρ : Type} {rows : List ρ} {isIt : ρ → Bool} (other : ∀ row ∈ rows, isIt row = false) :
      rows.filter (!isIt ·) = rows :=
    List.filter_eq_self.mpr fun row member => by rw [other row member, Bool.not_false]
  have kept {ρ : Type} {rows : List ρ} {isIt : ρ → Bool} (other : ∀ row ∈ rows, isIt row = false)
      {change : ρ → ρ} (same : ∀ row ∈ rows, change row = row) :
      (rows.filter (!isIt ·)).map change = rows := by
    rw [stays other, map_eq_self same]
  refine Database.ext ?_ ?_ ?_ ?_ ?_ ?_ ?_
  -- Table by table, no key is that of the record, and no reference points at it.
  · exact stays fun row member => notKey .department (List.mem_map_of_mem member)
  · refine kept (fun row member => notKey .professor (List.mem_map_of_mem member))
      fun row member => ?_
    rw [clearedOf_eq_self_of_absent absent (ref.professorDepartments row member)]
  · exact stays fun row member => notKey .room (List.mem_map_of_mem member)
  · refine kept (fun row member => notKey .student (List.mem_map_of_mem member))
      fun row member => ?_
    rw [clearedOf_eq_self_of_absent absent (ref.studentDepartments row member)]
  · refine kept (fun row member => notKey .subject (List.mem_map_of_mem member))
      fun row member => ?_
    rw [clearedOf_eq_self_of_absent absent (ref.subjectProfessors row member),
      clearedOf_eq_self_of_absent absent (ref.subjectDepartments row member)]
  · -- A meeting is neither the record nor does it belong to it.
    refine kept (fun row member => ?_) fun row member => ?_
    · rw [notKey .meeting (List.mem_map_of_mem member),
        isOf_eq_false_of_absent absent (ref.meetingSubjects row member), Bool.false_or]
    · rw [clearedOf_eq_self_of_absent absent (ref.meetingRooms row member)]
  · -- A seat belongs to a student and a subject that are there.
    refine stays fun row member => ?_
    rw [isOf_eq_false_of_absent absent (ref.enrollmentStudents row member),
      isOf_eq_false_of_absent absent (ref.enrollmentSubjects row member), Bool.false_or]

end Absent

/-- Of the keys of its kind, that of a record which is deleted is the only one that goes. -/
theorem keys_without : (db.without record).keys record.1 =
    (db.keys record.1).filter (· != .ofId record.2) := by
  obtain ⟨entity, id⟩ := record
  -- Clearing references and taking rows of other kinds away leaves these keys alone.
  cases entity <;> simp [keys, without, List.filter_map, bne, Function.comp_def]

/-- Keys come once, whichever kind of record they are of. -/
theorem Unique.keys (unique : db.Unique) (entity : Entity) : (db.keys entity).Nodup := by
  -- Each kind has its own table.
  cases entity with
  | department => exact unique.departmentKeys
  | professor => exact unique.professorKeys
  | room => exact unique.roomKeys
  | student => exact unique.studentKeys
  | subject => exact unique.subjectKeys
  | meeting => exact unique.meetingKeys

/--
In all that can be reached, a deletion says whether the record was there, and leaves the tables
without it and without all that refers to it. A second one says no and changes nothing.
-/
theorem Reachable.delete_exact {clock : Instant → Prop} (reachable : db.Reachable clock)
    (record : Entity × Uuid) :
    delete record db = (.ok (db.has record.1 record.2), db.without record) ∧
      delete record (db.without record) = (.ok false, db.without record) ∧
      (db.without record).keys record.1 = (db.keys record.1).erase (.ofId record.2) := by
  -- It is enough that keys come once and that references point at rows.
  obtain ⟨unique, referential, -, -⟩ := reachable.wellFormed
  have erased : (db.without record).keys record.1 = (db.keys record.1).erase (.ofId record.2) :=
    keys_without.trans ((unique.keys record.1).erase_eq_filter _).symm
  refine ⟨?_, delete_of_absent ?_, erased⟩
  · -- Whether the record is there decides which of the two it is.
    cases there : db.has record.1 record.2 with
    | true => exact delete_of_has there
    | false => rw [delete_of_absent there, referential.without_eq_self there]
  · -- A key that comes once is not there any more once it is gone.
    rw [has, Bool.eq_false_iff, Ne, hasKey_iff, erased]
    exact (unique.keys record.1).not_mem_erase

/-- A subject goes with its meeting and its seat, and those of the other subject stay. -/
theorem delete_exact_sample :
    let db := empty.after sampleRun
    let record := (Entity.subject, Uuid.ofDigit 2)
    db.Reachable Instant.InFourDigitYear ∧
      delete record db = (.ok true, db.without record) ∧
      delete record (db.without record) = (.ok false, db.without record) ∧
      (db.without record).subjects.map (·.subjectId) = [.ofId (.ofDigit 4)] ∧
      (db.without record).meetings.map (·.slotId) = [.ofId (.ofDigit 5)] ∧
      (db.without record).enrollments.map (·.enrollmentId) = [.ofId (.ofDigit 7)] ∧
      (db.without record).students = db.students := by
  intro db record
  have reachable : db.Reachable Instant.InFourDigitYear := ⟨sampleRun, by decide, rfl⟩
  -- That the subject is there is evaluated, and what its deletion does is taken from the theorem.
  have there : db.has record.1 record.2 = true := by decide +kernel
  obtain ⟨deleted, again, -⟩ := reachable.delete_exact record
  rw [there] at deleted
  exact ⟨reachable, deleted, again, by decide +kernel⟩

/-- A department goes alone: who belonged to it stays, as does the professor of its subject. -/
example :
    let db := empty.after [⟨.ofDigit 1, .addDepartment ⟨"Mathematics"⟩⟩,
      ⟨.ofDigit 2, .addProfessor ⟨"Emmy", none, some (.ofDigit 1)⟩⟩,
      ⟨.ofDigit 3, .addSubject ⟨"Rings", 3, 2, "Spring", some (.ofDigit 2), some (.ofDigit 1)⟩⟩]
    (deleteDepartment (.ofDigit 1) db).2 = { db with
      departments := []
      professors := db.professors.map fun row => { row with departmentId := .null }
      subjects := db.subjects.map fun row => { row with departmentId := .null } } := by
  decide +kernel

end Database

end CourseRegistry
