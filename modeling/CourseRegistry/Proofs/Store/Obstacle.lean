import CourseRegistry.Proofs.Store.Patch
import CourseRegistry.Proofs.Store.Rollback
import CourseRegistry.Proofs.Store.Success
import CourseRegistry.Proofs.Text.Blank

/-!
What stands in the way of a request to write a record.
The obstacles are looked at in turn, the first one that is met decides, and nothing else can fail.
-/

namespace CourseRegistry

open Database

/-- How a request to write a record ends. -/
inductive WriteEnding where
  /-- The record was written. -/
  | written
  /-- There is no record to be changed. -/
  | missing
  | failed (error : StoreError)
deriving DecidableEq

/-- How a request has ended, told from its answer. -/
def WriteEnding.ofAnswer {α : Type} (isWritten : α → Bool) : Except StoreError α → WriteEnding
  | .error error => .failed error
  | .ok answer => if isWritten answer then .written else .missing

/-- Something that may stand in the way of a request, and how the request ends where it does. -/
structure Obstacle where
  isMet : Prop
  ending : WriteEnding
  /-- Whether it does can be decided. -/
  [decidable : Decidable isMet]

attribute [instance] Obstacle.decidable

/-- The first obstacle that is met decides; where none is met, the record is written. -/
def WriteEnding.of : List Obstacle → WriteEnding
  | [] => .written
  | obstacle :: later => if obstacle.isMet then obstacle.ending else of later

namespace Obstacle

variable (db : Database)

/-- There is no record to be changed. -/
def unknown (entity : Entity) (id : Uuid) : Obstacle :=
  ⟨db.has entity id = false, .missing⟩

/-- References that are given point at no record; the first one that does so is reported. -/
def dangling (references : List (Entity × Option Uuid)) : List Obstacle :=
  references.flatMap fun (entity, reference) => reference.toList.map fun id =>
    ⟨db.has entity id = false, .failed (.notFound entity id)⟩

end Obstacle

/-- What may stand in the way of a request to write a record, in the order in which it counts. -/
def Operation.obstacles (db : Database) : Operation → List Obstacle
  | addDepartment input => [
      ⟨∃ row ∈ db.departments, row.name = .text input.name,
        .failed (.duplicate .departmentName input.name)⟩]
  -- A record that is changed may keep its own name or number.
  | updateDepartment id input => [
      .unknown db .department id,
      ⟨∃ row ∈ db.departments, row.departmentId ≠ .ofId id ∧ row.name = .text input.name,
        .failed (.duplicate .departmentName input.name)⟩]
  | addProfessor input => Obstacle.dangling db [(.department, input.departmentId)]
  | updateProfessor id input =>
      .unknown db .professor id :: Obstacle.dangling db [(.department, input.departmentId)]
  | addRoom input => [
      ⟨∃ row ∈ db.rooms, row.name = .text input.name, .failed (.duplicate .roomName input.name)⟩]
  | updateRoom id input => [
      .unknown db .room id,
      ⟨∃ row ∈ db.rooms, row.roomId ≠ .ofId id ∧ row.name = .text input.name,
        .failed (.duplicate .roomName input.name)⟩]
  | addStudent input =>
      Obstacle.dangling db [(.department, input.departmentId)] ++ [
      ⟨∃ row ∈ db.students, row.studentNumber = .text input.studentNumber,
        .failed (.duplicate .studentNumber input.studentNumber)⟩]
  | updateStudent id input =>
      .unknown db .student id :: Obstacle.dangling db [(.department, input.departmentId)] ++ [
      ⟨∃ row ∈ db.students,
          row.studentId ≠ .ofId id ∧ row.studentNumber = .text input.studentNumber,
        .failed (.duplicate .studentNumber input.studentNumber)⟩]
  | addSubject input => [
      ⟨input.capacity = 0, .failed (.refused (.zeroCapacity 0))⟩,
      ⟨Text.trim input.name = "", .failed (.refused (.invalidRequest "subject name is empty"))⟩] ++
      Obstacle.dangling db [(.professor, input.professorId), (.department, input.departmentId)]
  -- What a patch does not set cannot be wrong.
  | updateSubject id patch => [
      ⟨patch.capacity = some 0, .failed (.refused (.zeroCapacity 0))⟩,
      ⟨patch.name.map Text.trim = some "",
        .failed (.refused (.invalidRequest "subject name is empty"))⟩] ++
      .unknown db .subject id :: Obstacle.dangling db
        [(.professor, patch.professorId.join), (.department, patch.departmentId.join)]
  | addMeeting subjectId input => [
      ⟨input.start.nano ≠ 0, .failed (.refused (.fractionalSeconds input.start))⟩,
      ⟨input.finish.nano ≠ 0, .failed (.refused (.fractionalSeconds input.finish))⟩,
      ⟨input.finish ≤ input.start, .failed (.refused (.emptyMeeting input.start input.finish))⟩] ++
      Obstacle.dangling db [(.subject, some subjectId), (.room, input.roomId)]
  | _ => []

/-- How a request has ended, where it is a success to have written the record. -/
def Operation.ending (operation : Operation) (answer : Except StoreError operation.Answer) :
    WriteEnding :=
  .ofAnswer (fun value => operation.isSuccess (.ok value)) answer

/-- The kind of record that is written by a request for a new one. -/
def Operation.new? : Operation → Option Entity
  | addDepartment _ => some .department
  | addProfessor _ => some .professor
  | addRoom _ => some .room
  | addStudent _ => some .student
  | addSubject _ => some .subject
  | addMeeting .. => some .meeting
  | _ => none

/-- A request to add a record to the catalogue, or to change one. -/
def Operation.isWrite (operation : Operation) : Bool :=
  operation.isUpdate || operation.new?.isSome

section Checks

variable {α β ε : Type} {report : ε → StoreError} {db : Database} {later : List Obstacle}

/-- A request fails when a check does, and otherwise ends as it does without the check. -/
def WriteEnding.afterCheck (report : ε → StoreError) (passed : WriteEnding) :
    Except ε α → WriteEnding
  | .error cause => .failed (report cause)
  | .ok _ => passed

/-- A check fails like the first of some obstacles that is met, and passes where none is. -/
def Obstacle.AreFoundBy (report : ε → StoreError) (obstacles : List Obstacle)
    (check : Except ε α) : Prop :=
  ∀ later, WriteEnding.of (obstacles ++ later) = .afterCheck report (.of later) check

namespace Obstacle.AreFoundBy

/-- What always passes finds nothing. -/
theorem ok (value : α) : AreFoundBy report [] (.ok value) :=
  fun _ => rfl

/-- A single condition is checked. -/
theorem ite {condition isMet : Prop} [Decidable condition] [Decidable isMet]
    (is : isMet ↔ condition) {error : StoreError} {cause : ε}
    (reported : condition → error = report cause)
    {check : Except ε α} {obstacles : List Obstacle} (found : AreFoundBy report obstacles check) :
    AreFoundBy report (⟨isMet, .failed error⟩ :: obstacles)
      (if condition then .error cause else check) := by
  intro later
  rw [List.cons_append, WriteEnding.of]
  by_cases holds : condition
  · -- The condition holds, and it is reported as the obstacle says.
    rw [if_pos (is.mpr holds), if_pos holds, reported holds]
    rfl
  · -- Where it does not hold, what is checked next decides.
    rw [if_neg (mt is.mp holds), if_neg holds]
    exact found later

/-- One check comes after another. -/
theorem bind {obstacles others : List Obstacle} {first : Except ε α}
    {next : α → Except ε β} (found : AreFoundBy report obstacles first)
    (foundNext : ∀ value, AreFoundBy report others (next value)) :
    AreFoundBy report (obstacles ++ others) (first >>= next) := by
  intro later
  -- An error of the first check is that of the first obstacle that is met.
  rw [List.append_assoc, found]
  cases first with
  | error cause => rfl
  | ok value => exact foundNext value later

/-- Where a check comes last, nothing is left in the way when it passes. -/
theorem ending {obstacles : List Obstacle} {check : Except ε α}
    (found : AreFoundBy report obstacles check) :
    WriteEnding.of obstacles = .afterCheck report .written check := by
  rw [← List.append_nil obstacles, found]
  rfl

end Obstacle.AreFoundBy

/-- References are checked one after the other; what is left empty points at nothing. -/
theorem Obstacle.dangling_areFoundBy (references : List (Entity × Option Uuid)) :
    AreFoundBy id (dangling db references) (db.checkReferences references) := by
  -- By induction on the references, the first of which is checked before the others.
  induction references with
  | nil => exact .ok ()
  | cons reference references ih =>
    obtain ⟨entity, reference⟩ := reference
    cases reference with
    | none => exact ih
    | some target =>
      -- A reference that is given points at a record or is the first that does not.
      have checked : db.checkReferences ((entity, some target) :: references) =
          if db.has entity target = false then .error (.notFound entity target)
          else db.checkReferences references := by
        rw [checkReferences]
        cases db.has entity target <;> rfl
      rw [checked]
      exact .ite Iff.rfl (fun _ => rfl) ih

/-- What is no obstacle need not be checked. -/
theorem Obstacle.AreFoundBy.skip {isMet : Prop} [Decidable isMet] (free : ¬ isMet)
    {ending : WriteEnding} {obstacles : List Obstacle} {check : Except ε α}
    (found : AreFoundBy report obstacles check) :
    AreFoundBy report (⟨isMet, ending⟩ :: obstacles) check := by
  intro later
  -- The obstacle is not met, and those after it decide.
  rw [List.cons_append, WriteEnding.of, if_neg free]
  exact found later

/-- A number of seats is refused where it is zero. -/
theorem checkCapacity_areFoundBy {isMet : Prop} [Decidable isMet] {capacity : UInt32}
    (is : isMet ↔ capacity = 0) :
    Obstacle.AreFoundBy StoreError.refused
      [⟨isMet, .failed (.refused (.zeroCapacity 0))⟩] (checkCapacity capacity) :=
  .ite is (fun zero => by rw [zero]) (.ok ())

/-- A name of a subject is refused where nothing is left of it without its blanks. -/
theorem checkSubjectName_areFoundBy {isMet : Prop} [Decidable isMet] {name : String}
    (is : isMet ↔ Text.trim name = "") :
    Obstacle.AreFoundBy StoreError.refused
      [⟨isMet, .failed (.refused (.invalidRequest "subject name is empty"))⟩]
      (checkSubjectName name) :=
  .ite (is.trans (Text.trim_eq_empty_iff name)) (fun _ => rfl) (.ok ())

/-- A new subject needs a seat and a name, in this order. -/
theorem NewSubject.validate_areFoundBy (input : NewSubject) :
    Obstacle.AreFoundBy StoreError.refused [
      ⟨input.capacity = 0, .failed (.refused (.zeroCapacity 0))⟩,
      ⟨Text.trim input.name = "", .failed (.refused (.invalidRequest "subject name is empty"))⟩]
      input.validate :=
  (checkCapacity_areFoundBy Iff.rfl).bind fun _ => checkSubjectName_areFoundBy Iff.rfl

/-- So does a changed one, where a number of seats or a name is given. -/
theorem SubjectPatch.validate_areFoundBy (patch : SubjectPatch) :
    Obstacle.AreFoundBy StoreError.refused [
      ⟨patch.capacity = some 0, .failed (.refused (.zeroCapacity 0))⟩,
      ⟨patch.name.map Text.trim = some "",
        .failed (.refused (.invalidRequest "subject name is empty"))⟩]
      patch.validate := by
  obtain ⟨name, credits, capacity, semester, professorId, departmentId⟩ := patch
  -- What is not set is no obstacle, and the two checks are in this order.
  cases capacity with
  | none =>
    cases name with
    | none => exact .skip nofun (.skip nofun (.ok ()))
    | some name => exact .skip nofun (checkSubjectName_areFoundBy (by simp))
  | some capacity =>
    cases name with
    | none => exact (checkCapacity_areFoundBy (by simp)).bind fun _ => .skip nofun (.ok ())
    | some name =>
      exact (checkCapacity_areFoundBy (by simp)).bind fun _ => checkSubjectName_areFoundBy (by simp)

/-- A meeting starts and ends at whole seconds, and does not end before it starts. -/
theorem NewMeeting.timeRange_areFoundBy (input : NewMeeting) :
    Obstacle.AreFoundBy StoreError.refused [
      ⟨input.start.nano ≠ 0, .failed (.refused (.fractionalSeconds input.start))⟩,
      ⟨input.finish.nano ≠ 0, .failed (.refused (.fractionalSeconds input.finish))⟩,
      ⟨input.finish ≤ input.start, .failed (.refused (.emptyMeeting input.start input.finish))⟩]
      input.timeRange :=
  .ite Iff.rfl (fun _ => rfl) <| .ite Iff.rfl (fun _ => rfl) <| .ite Iff.rfl (fun _ => rfl) (.ok _)

end Checks

section Steps

variable {α : Type} {isWritten : α → Bool} {db : Database} {later : List Obstacle}

/-- Where there is no record to be changed, nothing else is looked at. -/
theorem WriteEnding.of_unknown (entity : Entity) {id : Uuid} (absent : db.has entity id = false) :
    WriteEnding.of (.unknown db entity id :: later) = .missing :=
  if_pos absent

/-- Where there is one, the other obstacles decide. -/
theorem WriteEnding.of_known (entity : Entity) {id : Uuid} (there : db.has entity id = true) :
    WriteEnding.of (.unknown db entity id :: later) = .of later :=
  if_neg (Bool.not_eq_false _ ▸ there)

/-- A request that fails on a condition does so where the obstacle is met. -/
theorem ending_of_ite {condition isMet : Prop} [Decidable condition] [Decidable isMet]
    (is : condition ↔ isMet) {error : StoreError} {next : Except StoreError α × Database}
    (free : ¬ condition → WriteEnding.ofAnswer isWritten next.1 = .of later) :
    WriteEnding.ofAnswer isWritten (if condition then (.error error, db) else next).1 =
      .of (⟨isMet, .failed error⟩ :: later) := by
  rw [WriteEnding.of]
  by_cases holds : condition
  · -- The request fails with the error of the obstacle.
    rw [if_pos holds, if_pos (is.mp holds)]
    rfl
  · rw [if_neg holds, if_neg (mt is.mpr holds)]
    exact free holds

end Steps

-- A new record is written where its identifier is new and none of the obstacles is met.
section Additions

variable {stamp : Stamp} {db : Database}

/-- A new department is written where its identifier is new and no other one has its name. -/
theorem addDepartment_ending (newId : db.has .department stamp.id = false)
    (input : NewDepartment) :
    WriteEnding.ofAnswer (fun _ => true) (addDepartment stamp input db).1 =
      .of (Operation.obstacles db (.addDepartment input)) :=
  -- The identifier is new, so that only the name can be taken.
  ending_of_ite (any_key_or_name_iff newId) fun _ => rfl

/-- So is a new professor, where the department exists. -/
theorem addProfessor_ending (newId : db.has .professor stamp.id = false) (input : NewProfessor) :
    WriteEnding.ofAnswer (fun _ => true) (addProfessor stamp input db).1 =
      .of (Operation.obstacles db (.addProfessor input)) := by
  -- The reference is checked first, and nothing comes after it.
  rw [Operation.obstacles, (Obstacle.dangling_areFoundBy _).ending, addProfessor, newId]
  cases db.checkReferences [(.department, input.departmentId)] with
  | error error => rfl
  | ok => rfl

/-- So is a new room, where no other one has its name. -/
theorem addRoom_ending (newId : db.has .room stamp.id = false) (input : NewRoom) :
    WriteEnding.ofAnswer (fun _ => true) (addRoom stamp input db).1 =
      .of (Operation.obstacles db (.addRoom input)) :=
  ending_of_ite (any_key_or_name_iff newId) fun _ => rfl

/-- So is a new student, where the department exists and no other student has the number. -/
theorem addStudent_ending (newId : db.has .student stamp.id = false) (input : NewStudent) :
    WriteEnding.ofAnswer (fun _ => true) (addStudent stamp input db).1 =
      .of (Operation.obstacles db (.addStudent input)) := by
  rw [Operation.obstacles, Obstacle.dangling_areFoundBy, addStudent]
  -- A reference that points at nothing is reported although the number may be taken as well.
  cases db.checkReferences [(.department, input.departmentId)] with
  | error error => rfl
  | ok => exact ending_of_ite (any_key_or_name_iff newId) fun _ => rfl

/-- So is a new subject, where it is valid and what it refers to exists. -/
theorem addSubject_ending (newId : db.has .subject stamp.id = false) (input : NewSubject) :
    WriteEnding.ofAnswer (fun _ => true) (addSubject stamp input db).1 =
      .of (Operation.obstacles db (.addSubject input)) := by
  rw [Operation.obstacles, NewSubject.validate_areFoundBy,
    (Obstacle.dangling_areFoundBy _).ending, addSubject, newId]
  -- What is not valid is refused before any reference is looked at.
  cases input.validate with
  | error refusal => rfl
  | ok =>
    dsimp only
    cases db.checkReferences
        [(.professor, input.professorId), (.department, input.departmentId)] with
    | error error => rfl
    | ok => rfl

/-- So is a new meeting, where its times are in order and its subject and its room exist. -/
theorem addMeeting_ending (newId : db.has .meeting stamp.id = false) (subjectId : Uuid)
    (input : NewMeeting) :
    WriteEnding.ofAnswer (fun _ => true) (addMeeting stamp subjectId input db).1 =
      .of (Operation.obstacles db (.addMeeting subjectId input)) := by
  rw [Operation.obstacles, NewMeeting.timeRange_areFoundBy,
    (Obstacle.dangling_areFoundBy _).ending, addMeeting, newId]
  -- The times are looked at before the references.
  cases input.timeRange with
  | error refusal => rfl
  | ok time =>
    dsimp only
    cases db.checkReferences [(.subject, some subjectId), (.room, input.roomId)] with
    | error error => rfl
    | ok => rfl

end Additions

/-- A valid patch whose references hold is taken by the tables. -/
theorem Database.WellFormed.takes {db : Database} (wellFormed : db.WellFormed) {id : Uuid}
    {patch : SubjectPatch} {row : SubjectRow} (valid : patch.validate = .ok ())
    (found : db.subjects.find? (·.subjectId == .ofId id) = some row)
    (checked : db.checkReferences
      [(.professor, patch.professorId.join), (.department, patch.departmentId.join)] = .ok ()) :
    db.Takes id patch row := by
  -- A row that is stored has numbers in their ranges and references that exist.
  obtain ⟨member, -⟩ := mem_of_find?_key found
  obtain ⟨capacity, credits, capacity_eq, credits_eq, seats, -, positive, -⟩ :=
    wellFormed.subjectNumbers row member
  refine ⟨valid, found, checked, ?_⟩
  simp only [isSound, Bool.and_eq_true]
  -- Each cell was in order before, and what the patch sets was checked.
  refine ⟨⟨⟨?_, ?_⟩, ?_⟩, ?_⟩
  · exact getD_map_cell (isAtLeast 0 · = true) patch.credits
      (by rw [credits_eq]; exact decide_eq_true positive)
      fun set => decide_eq_true (Int.natCast_nonneg set.toNat)
  · refine getD_map_cell_of_set (isAtLeast 1 · = true)
      (by rw [capacity_eq]; exact decide_eq_true seats) fun set is => decide_eq_true ?_
    -- A number of seats that is set was checked not to be zero.
    have seat : set ≠ 0 := by
      intro zero
      have checked := (SubjectPatch.validate_eq_ok.mp valid).1 set is
      rw [checkCapacity, if_pos zero] at checked
      cases checked
    have positive := Nat.pos_of_ne_zero fun zero => seat (UInt32.toNat_inj.mp zero)
    omega
  · refine getD_map_cell_of_set (db.isReference .professor · = true)
      (wellFormed.referential.subjectProfessors row member) fun reference is => ?_
    exact isReference_of_checked db checked (by simp [is])
  · refine getD_map_cell_of_set (db.isReference .department · = true)
      (wellFormed.referential.subjectDepartments row member) fun reference is => ?_
    exact isReference_of_checked db checked (by simp [is])

-- A record is changed where it is there and none of the other obstacles is met.
section Updates

variable {db : Database} (written : db.Written Instant.IsReading) (id : Uuid)

include written

/-- A department is changed where it is there and no other one has the new name. -/
theorem updateDepartment_ending (input : NewDepartment) :
    WriteEnding.ofAnswer Option.isSome (updateDepartment id input db).1 =
      .of (Operation.obstacles db (.updateDepartment id input)) := by
  unfold updateDepartment
  split
  · -- There is no department to change.
    next absent => exact (WriteEnding.of_unknown .department (any_eq_false_of_find? absent)).symm
  · next row found =>
    rw [Operation.obstacles, WriteEnding.of_known .department (any_of_find? found)]
    refine ending_of_ite any_other_name_iff fun _ => ?_
    -- The row that is found was written, so the changed row reads back.
    have stored := written.departments row (List.mem_of_find?_eq_some found)
    obtain ⟨department, read⟩ :=
      (DepartmentRow.readsBack_renamed stored.readsBack input).exists_readRow?
    exact congrArg (WriteEnding.ofAnswer Option.isSome) read

/-- So is a professor, where the new department exists. -/
theorem updateProfessor_ending (input : NewProfessor) :
    WriteEnding.ofAnswer Option.isSome (updateProfessor id input db).1 =
      .of (Operation.obstacles db (.updateProfessor id input)) := by
  unfold updateProfessor
  split
  · -- There is no professor to change.
    next absent => exact (WriteEnding.of_unknown .professor (any_eq_false_of_find? absent)).symm
  · next row found =>
    rw [Operation.obstacles, WriteEnding.of_known .professor (any_of_find? found),
      (Obstacle.dangling_areFoundBy _).ending]
    cases db.checkReferences [(.department, input.departmentId)] with
    | error error => rfl
    | ok =>
      -- The changed row is looked at before it is kept, and nothing is wrong with it.
      have stored := written.professors row (List.mem_of_find?_eq_some found)
      obtain ⟨readable, professor, decoded⟩ :=
        ProfessorRow.readsBack_replaced stored.readsBack input
      rw [ProfessorRow.replaced] at readable decoded
      dsimp only
      rw [if_pos readable, decoded]
      rfl

/-- So is a room, where no other one has the new name. -/
theorem updateRoom_ending (input : NewRoom) :
    WriteEnding.ofAnswer Option.isSome (updateRoom id input db).1 =
      .of (Operation.obstacles db (.updateRoom id input)) := by
  unfold updateRoom
  split
  · -- There is no room to change.
    next absent => exact (WriteEnding.of_unknown .room (any_eq_false_of_find? absent)).symm
  · next row found =>
    rw [Operation.obstacles, WriteEnding.of_known .room (any_of_find? found)]
    refine ending_of_ite any_other_name_iff fun _ => ?_
    -- The row that is found was written, so the changed row reads back.
    have stored := written.rooms row (List.mem_of_find?_eq_some found)
    obtain ⟨room, read⟩ := (RoomRow.readsBack_replaced stored.readsBack input).exists_readRow?
    exact congrArg (WriteEnding.ofAnswer Option.isSome) read

/-- So is a student, where the new department exists and no other student has the new number. -/
theorem updateStudent_ending (input : NewStudent) :
    WriteEnding.ofAnswer Option.isSome (updateStudent id input db).1 =
      .of (Operation.obstacles db (.updateStudent id input)) := by
  unfold updateStudent
  split
  · -- There is no student to change.
    next absent => exact (WriteEnding.of_unknown .student (any_eq_false_of_find? absent)).symm
  · next row found =>
    rw [Operation.obstacles, List.cons_append, WriteEnding.of_known .student (any_of_find? found),
      Obstacle.dangling_areFoundBy]
    cases db.checkReferences [(.department, input.departmentId)] with
    | error error => rfl
    | ok =>
      refine ending_of_ite any_other_name_iff fun _ => ?_
      -- The changed row is looked at first here as well.
      have stored := written.students row (List.mem_of_find?_eq_some found)
      obtain ⟨readable, student, decoded⟩ := StudentRow.readsBack_replaced stored.readsBack input
      rw [StudentRow.replaced] at readable decoded
      dsimp only
      rw [if_pos readable, decoded]
      rfl

/-- So is a subject, where the patch is valid and what it refers to exists. -/
theorem updateSubject_ending (wellFormed : db.WellFormed) (patch : SubjectPatch) :
    WriteEnding.ofAnswer Option.isSome (updateSubject id patch db).1 =
      .of (Operation.obstacles db (.updateSubject id patch)) := by
  rw [Operation.obstacles, SubjectPatch.validate_areFoundBy, updateSubject]
  -- A patch that is not valid is refused even where there is no subject to change.
  cases valid : patch.validate with
  | error refusal => rfl
  | ok =>
    dsimp only [WriteEnding.afterCheck]
    split
    · -- There is no subject to change.
      next absent => exact (WriteEnding.of_unknown .subject (any_eq_false_of_find? absent)).symm
    · next row found =>
      rw [WriteEnding.of_known .subject (any_of_find? found),
        (Obstacle.dangling_areFoundBy _).ending]
      cases checked : db.checkReferences
          [(.professor, patch.professorId.join), (.department, patch.departmentId.join)] with
      | error error => rfl
      | ok =>
        -- Nothing is wrong with the changed row, neither for the tables nor when it is read.
        have takes := wellFormed.takes valid found checked
        obtain ⟨subject, -, readable, decoded⟩ :=
          written.offering (List.mem_of_find?_eq_some found)
        obtain ⟨changed, read⟩ :=
          (Offering.readsBack_patched ⟨readable, subject, decoded⟩ patch).exists_readRow?
        dsimp only
        rw [if_pos takes.sound]
        exact congrArg (WriteEnding.ofAnswer Option.isSome) (takes.getSubject.trans read)

end Updates

section Blame

variable {db : Database}

/-- Where a request fails this way, it is to blame itself. -/
def WriteEnding.BlamesRequest : WriteEnding → Prop
  | .failed error => error.kind ≠ .unavailable
  | _ => True

/-- A request is to blame when it is whatever stands in its way. -/
theorem WriteEnding.blamesRequest_of {obstacles : List Obstacle}
    (each : ∀ obstacle ∈ obstacles, obstacle.ending.BlamesRequest) :
    (WriteEnding.of obstacles).BlamesRequest := by
  -- The first obstacle that is met decides, and it blames the request.
  induction obstacles with
  | nil => exact trivial
  | cons obstacle later ih =>
    obtain ⟨here, others⟩ := List.forall_mem_cons.mp each
    rw [WriteEnding.of]
    split
    · exact here
    · exact ih others

/-- A request is to blame for references that point at nothing. -/
theorem Obstacle.dangling_blameRequest (references : List (Entity × Option Uuid)) :
    ∀ obstacle ∈ dangling db references, obstacle.ending.BlamesRequest := by
  intro obstacle member
  -- Each obstacle here is a reference to a record that is not there.
  obtain ⟨⟨entity, reference⟩, -, member⟩ := List.mem_flatMap.mp member
  obtain ⟨id, -, rfl⟩ := List.mem_map.mp member
  exact nofun

/-- Nothing that stands in the way of a request is for the tables to answer for. -/
theorem Operation.obstacles_blameRequest (operation : Operation) :
    ∀ obstacle ∈ operation.obstacles db, obstacle.ending.BlamesRequest := by
  have references (references : List (Entity × Option Uuid)) :
      ∀ obstacle ∈ Obstacle.dangling db references, obstacle.ending.BlamesRequest :=
    Obstacle.dangling_blameRequest references
  cases operation with
  | addDepartment | addRoom => exact List.forall_mem_singleton.mpr nofun
  | updateDepartment | updateRoom =>
    exact List.forall_mem_cons.mpr ⟨trivial, List.forall_mem_singleton.mpr nofun⟩
  | addProfessor => exact references _
  | updateProfessor => exact List.forall_mem_cons.mpr ⟨trivial, references _⟩
  | addStudent =>
    exact List.forall_mem_append.mpr ⟨references _, List.forall_mem_singleton.mpr nofun⟩
  | updateStudent =>
    refine List.forall_mem_cons.mpr ⟨trivial, ?_⟩
    exact List.forall_mem_append.mpr ⟨references _, List.forall_mem_singleton.mpr nofun⟩
  -- What is not valid is refused, and a refusal of the tables themselves is not among these.
  | addSubject =>
    refine List.forall_mem_cons.mpr ⟨nofun, ?_⟩
    exact List.forall_mem_cons.mpr ⟨nofun, references _⟩
  | updateSubject =>
    refine List.forall_mem_cons.mpr ⟨nofun, ?_⟩
    refine List.forall_mem_cons.mpr ⟨nofun, ?_⟩
    exact List.forall_mem_cons.mpr ⟨trivial, references _⟩
  | addMeeting =>
    refine List.forall_mem_cons.mpr ⟨nofun, ?_⟩
    refine List.forall_mem_cons.mpr ⟨nofun, ?_⟩
    exact List.forall_mem_cons.mpr ⟨nofun, references _⟩
  -- There is nothing in the way of any other request.
  | _ => exact List.forall_mem_nil _

end Blame

namespace Database

variable {db : Database}

/--
In all that can be reached, a request to write a record ends as the first obstacle says that is met.
Where none is met, the record is written, and no request fails for any other reason.
-/
theorem Reachable.write_ending (reachable : db.Reachable Instant.InFourDigitYear)
    {operation : Operation} (write : operation.isWrite = true) {stamp : Stamp}
    (newId : ∀ entity, operation.new? = some entity → db.has entity stamp.id = false) :
    operation.ending (operation.step stamp db).1 = .of (operation.obstacles db) ∧
      ∀ error, (operation.step stamp db).1 = .error error → error.kind ≠ .unavailable := by
  have written := reachable.readings
  have decided : operation.ending (operation.step stamp db).1 = .of (operation.obstacles db) := by
    cases operation with
    | addDepartment input => exact addDepartment_ending (newId .department rfl) input
    | updateDepartment id input => exact updateDepartment_ending written id input
    | addProfessor input => exact addProfessor_ending (newId .professor rfl) input
    | updateProfessor id input => exact updateProfessor_ending written id input
    | addRoom input => exact addRoom_ending (newId .room rfl) input
    | updateRoom id input => exact updateRoom_ending written id input
    | addStudent input => exact addStudent_ending (newId .student rfl) input
    | updateStudent id input => exact updateStudent_ending written id input
    | addSubject input => exact addSubject_ending (newId .subject rfl) input
    | updateSubject id patch =>
      exact updateSubject_ending written id reachable.wellFormed patch
    | addMeeting subjectId input => exact addMeeting_ending (newId .meeting rfl) subjectId input
    | _ => cases write
  refine ⟨decided, fun error failed => ?_⟩
  -- Whatever has decided, the request is to blame for it.
  have blamed : (WriteEnding.of (operation.obstacles db)).BlamesRequest :=
    WriteEnding.blamesRequest_of operation.obstacles_blameRequest
  rwa [← decided, failed] at blamed

/-- A student whose department is missing is told so, though the number is taken as well. -/
theorem write_ending_sample :
    let operation : Operation := .addStudent ⟨"9", "Emmy", some (.ofDigit 12), none, none⟩
    (empty.after crowdedRun).Reachable Instant.InFourDigitYear ∧ operation.isWrite = true ∧
      (∀ entity, operation.new? = some entity →
        (empty.after crowdedRun).has entity (Stamp.ofDigit 11).id = false) ∧
      operation.ending (operation.step (.ofDigit 11) (empty.after crowdedRun)).1 =
        .of (operation.obstacles (empty.after crowdedRun)) ∧
      WriteEnding.of (operation.obstacles (empty.after crowdedRun)) =
        .failed (.notFound .department (.ofDigit 12)) := by
  intro operation
  have reachable : (empty.after crowdedRun).Reachable Instant.InFourDigitYear :=
    ⟨crowdedRun, by decide, rfl⟩
  have newId (entity : Entity) (is : operation.new? = some entity) :
      (empty.after crowdedRun).has entity (Stamp.ofDigit 11).id = false := by
    -- The request is one for a new student.
    obtain rfl := Option.some.inj is
    decide +kernel
  obtain ⟨decided, -⟩ := reachable.write_ending (show operation.isWrite = true from rfl) newId
  exact ⟨reachable, rfl, newId, decided, by decide +kernel⟩

end Database

end CourseRegistry
