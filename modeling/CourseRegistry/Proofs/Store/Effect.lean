import CourseRegistry.Proofs.Store.Cell
import CourseRegistry.Proofs.Store.Table
import CourseRegistry.Store.Operation

/-!
What carrying out an operation can do to the tables.
Invariants are proved along these few changes and never look into the operations again.
-/

namespace CourseRegistry

open Database

/-- The number of seats in a row; what is not a number is no seat. -/
def SubjectRow.seats (row : SubjectRow) : Nat :=
  match row.capacity with
  | .integer number => number.toNat
  | _ => 0

/-- The number of seats is the one stored. -/
theorem SubjectRow.seats_of_capacity {row : SubjectRow} {number : Nat}
    (stored : row.capacity = .integer number) : row.seats = number := by
  -- What is stored is taken for a number that is not negative.
  simp [seats, stored]

/-- What is found of the student and the subject before a seat is granted. -/
structure Database.Grants (db : Database) (studentId subjectId : Uuid) (policy : AdmissionPolicy) :
    Prop where
  notHeld : db.holdsSeat studentId subjectId = false
  /-- The subject is stored with more seats than are taken. -/
  room : ∃ row, db.subjects.find? (·.subjectId == .ofId subjectId) = some row ∧
    db.seatsTaken (.ofId subjectId) < row.seats
  /-- Where the timetable counts, no meeting that is held clashes with one of the subject. -/
  noClash : policy.checkTimeConflicts = true → ∃ schedule held,
    (db.meetingsOf (.ofId subjectId)).mapM MeetingRow.decode = .ok schedule ∧
      (db.heldMeetings studentId).mapM MeetingRow.decode = .ok held ∧
        firstClash? held schedule = none

/-- Of a subject that is found, all that was looked at is read, one thing after the other. -/
theorem reads_of_snapshot {db : Database} {studentId subjectId : Uuid} {policy : AdmissionPolicy}
    {snapshot : AdmissionSnapshot} {row : SubjectRow}
    (read : db.snapshot studentId subjectId policy = .ok snapshot)
    (notHeld : db.holdsSeat studentId subjectId = false)
    (found : db.subjects.find? (·.subjectId == .ofId subjectId) = some row) :
    ∃ capacity enrolled schedule held, row.capacity.readCount = .ok capacity ∧
      Cell.countOf (db.seatsTaken (.ofId subjectId)) = .ok enrolled ∧
      (db.meetingsOf (.ofId subjectId)).mapM MeetingRow.decode = .ok schedule ∧
      (if policy.checkTimeConflicts then db.heldMeetings studentId else []).mapM MeetingRow.decode =
        .ok held ∧
      snapshot = ⟨false, some ⟨capacity, enrolled, schedule⟩, held⟩ := by
  unfold Database.snapshot at read
  -- The subject was found, so that what follows the first two lookups is what was read.
  rw [notHeld, if_neg Bool.false_ne_true, found] at read
  dsimp only at read
  generalize (if policy.checkTimeConflicts then db.heldMeetings studentId else []) = rows at read ⊢
  split at read
  · -- The first thing that could not be read would have been the answer.
    obtain ⟨capacity, capacity_eq, read⟩ := bind_eq_ok.mp read
    obtain ⟨enrolled, enrolled_eq, read⟩ := bind_eq_ok.mp read
    obtain ⟨schedule, schedule_eq, read⟩ := bind_eq_ok.mp read
    obtain ⟨held, held_eq, read⟩ := bind_eq_ok.mp read
    exact ⟨capacity, enrolled, schedule, held, capacity_eq, enrolled_eq, schedule_eq, held_eq,
      (Except.ok.inj read).symm⟩
  · -- What failed on the way is no snapshot.
    cases read

/-- A seat is only granted after all of this was found. -/
theorem grants_of_decision {db : Database} {studentId subjectId : Uuid} {policy : AdmissionPolicy}
    {snapshot : AdmissionSnapshot} (read : db.snapshot studentId subjectId policy = .ok snapshot)
    (granted : decideAdmission policy snapshot = .grant) :
    db.Grants studentId subjectId policy := by
  cases notHeld : db.holdsSeat studentId subjectId with
  | true =>
    -- A student who holds a seat already is not given another.
    rw [Database.snapshot, notHeld, if_pos rfl] at read
    cases read
    simp [decideAdmission] at granted
  | false =>
    cases found : db.subjects.find? (·.subjectId == .ofId subjectId) with
    | none =>
      -- Nor is anybody given a seat in a subject that does not exist.
      rw [Database.snapshot, notHeld, if_neg Bool.false_ne_true, found] at read
      cases read
      simp [decideAdmission] at granted
    | some row =>
      obtain ⟨capacity, enrolled, schedule, held, capacity_eq, enrolled_eq, schedule_eq, held_eq,
        rfl⟩ := reads_of_snapshot read notHeld found
      rw [decideAdmission, if_neg Bool.false_ne_true] at granted
      dsimp only at granted
      split at granted
      · -- Where no seat is left, none is granted.
        cases granted
      · next more =>
        refine ⟨notHeld, ⟨row, found, ?_⟩, fun check => ?_⟩
        · -- Both counts are the stored numbers.
          have taken := Cell.countOf_eq_ok enrolled_eq
          rw [SubjectRow.seats_of_capacity (Cell.readCount_eq_ok capacity_eq)]
          rw [UInt32.le_iff_toNat_le] at more
          omega
        · -- Where the timetable counts, the meetings that are held were looked at.
          rw [if_pos check] at granted held_eq
          refine ⟨schedule, held, schedule_eq, held_eq, ?_⟩
          split at granted
          · -- A clash would have been a rejection.
            cases granted
          · assumption

/-- No rejection gives a seat. -/
theorem decideAdmission_ne_enrolled {policy : AdmissionPolicy} {snapshot : AdmissionSnapshot}
    (seat : Enrollment) : decideAdmission policy snapshot ≠ .reject (.enrolled seat) := by
  unfold decideAdmission
  -- Each way through the decision ends in a grant or in an answer of its own.
  split
  · nofun
  · split
    · nofun
    · split
      · nofun
      · split
        · split <;> nofun
        · nofun

/--
The changes that an operation can make, each with all that was checked before it was made.
A read, a refusal and a failure change nothing.
-/
inductive Effect (stamp : Stamp) (db : Database) : Operation → Database → Prop where
  | nothing (operation : Operation) : Effect stamp db operation db
  | departmentAdded {input : NewDepartment} (newId : db.has .department stamp.id = false)
    (newName : ∀ other ∈ db.departments, other.name ≠ .text input.name) :
    Effect stamp db (.addDepartment input) { db with
      departments := db.departments ++ [.ofDepartment ⟨stamp.id, input.name, stamp.now⟩] }
  | departmentUpdated {id : Uuid} {input : NewDepartment} {row : DepartmentRow}
    (found : row ∈ db.departments) (isIt : row.departmentId = .ofId id)
    (newName : ∀ other ∈ db.departments, other.departmentId ≠ .ofId id →
      other.name ≠ .text input.name) :
    Effect stamp db (.updateDepartment id input) { db with
      departments := replaceRow (·.departmentId == .ofId id)
        { row with name := .text input.name } db.departments }
  | departmentDeleted {id : Uuid} (exists_ : db.has .department id = true) :
    Effect stamp db (.deleteDepartment id) { db with
      departments := db.departments.filter (·.departmentId != .ofId id)
      professors := db.professors.map fun row =>
        { row with departmentId := row.departmentId.withoutId id }
      students := db.students.map fun row =>
        { row with departmentId := row.departmentId.withoutId id }
      subjects := db.subjects.map fun row =>
        { row with departmentId := row.departmentId.withoutId id } }
  | professorAdded {input : NewProfessor}
    (department : db.isReference .department (.ofOption .ofId input.departmentId) = true)
    (newId : db.has .professor stamp.id = false) :
    Effect stamp db (.addProfessor input) { db with
      professors := db.professors ++ [.ofProfessor
        ⟨stamp.id, input.name, input.email, input.departmentId, stamp.now⟩] }
  | professorUpdated {id : Uuid} {input : NewProfessor} {row : ProfessorRow}
    (found : row ∈ db.professors) (isIt : row.professorId = .ofId id)
    (department : db.isReference .department (.ofOption .ofId input.departmentId) = true) :
    Effect stamp db (.updateProfessor id input) { db with
      professors := replaceRow (·.professorId == .ofId id)
        { row with
          name := .text input.name
          email := .ofOption .text input.email
          departmentId := .ofOption .ofId input.departmentId } db.professors }
  | professorDeleted {id : Uuid} (exists_ : db.has .professor id = true) :
    Effect stamp db (.deleteProfessor id) { db with
      professors := db.professors.filter (·.professorId != .ofId id)
      subjects := db.subjects.map fun row =>
        { row with professorId := row.professorId.withoutId id } }
  | roomAdded {input : NewRoom} (newId : db.has .room stamp.id = false)
    (newName : ∀ other ∈ db.rooms, other.name ≠ .text input.name) :
    Effect stamp db (.addRoom input) { db with
      rooms := db.rooms ++ [.ofRoom ⟨stamp.id, input.name, input.building, stamp.now⟩] }
  | roomUpdated {id : Uuid} {input : NewRoom} {row : RoomRow}
    (found : row ∈ db.rooms) (isIt : row.roomId = .ofId id)
    (newName : ∀ other ∈ db.rooms, other.roomId ≠ .ofId id → other.name ≠ .text input.name) :
    Effect stamp db (.updateRoom id input) { db with
      rooms := replaceRow (·.roomId == .ofId id)
        { row with name := .text input.name, building := .ofOption .text input.building } db.rooms }
  | roomDeleted {id : Uuid} (exists_ : db.has .room id = true) :
    Effect stamp db (.deleteRoom id) { db with
      rooms := db.rooms.filter (·.roomId != .ofId id)
      meetings := db.meetings.map fun row => { row with roomId := row.roomId.withoutId id } }
  | studentAdded {input : NewStudent}
    (department : db.isReference .department (.ofOption .ofId input.departmentId) = true)
    (newId : db.has .student stamp.id = false)
    (newNumber : ∀ other ∈ db.students, other.studentNumber ≠ .text input.studentNumber) :
    Effect stamp db (.addStudent input) { db with
      students := db.students ++ [.ofStudent ⟨stamp.id, input.studentNumber, input.name,
        input.departmentId, input.grade, stamp.now⟩ input.passwordHash] }
  | studentUpdated {id : Uuid} {input : NewStudent} {row : StudentRow}
    (found : row ∈ db.students) (isIt : row.studentId = .ofId id)
    (department : db.isReference .department (.ofOption .ofId input.departmentId) = true)
    (newNumber : ∀ other ∈ db.students, other.studentId ≠ .ofId id →
      other.studentNumber ≠ .text input.studentNumber) :
    Effect stamp db (.updateStudent id input) { db with
      students := replaceRow (·.studentId == .ofId id)
        { row with
          studentNumber := .text input.studentNumber
          name := .text input.name
          departmentId := .ofOption .ofId input.departmentId
          grade := .ofOption .text input.grade
          passwordHash := (input.passwordHash.map Cell.text).getD row.passwordHash }
        db.students }
  | studentDeleted {id : Uuid} (exists_ : db.has .student id = true) :
    Effect stamp db (.deleteStudent id) { db with
      students := db.students.filter (·.studentId != .ofId id)
      enrollments := db.enrollments.filter (!·.isOf id) }
  | subjectAdded {input : NewSubject} (seats : input.capacity ≠ 0)
    (professor : db.isReference .professor (.ofOption .ofId input.professorId) = true)
    (department : db.isReference .department (.ofOption .ofId input.departmentId) = true)
    (newId : db.has .subject stamp.id = false) :
    Effect stamp db (.addSubject input) { db with
      subjects := db.subjects ++ [.ofSubject ⟨stamp.id, input.name, input.credits, input.capacity,
        input.semester, input.professorId, input.departmentId, stamp.now, []⟩] }
  | subjectUpdated {id : Uuid} {patch : SubjectPatch} {row : SubjectRow}
    (found : row ∈ db.subjects) (isIt : row.subjectId = .ofId id)
    (sound : db.isSound (patched patch row) = true) :
    Effect stamp db (.updateSubject id patch) { db with
      subjects := replaceRow (·.subjectId == .ofId id) (patched patch row) db.subjects }
  | subjectDeleted {id : Uuid} (exists_ : db.has .subject id = true) :
    Effect stamp db (.deleteSubject id) { db with
      subjects := db.subjects.filter (·.subjectId != .ofId id)
      meetings := db.meetings.filter (·.subjectId != .ofId id)
      enrollments := db.enrollments.filter (!·.isIn id) }
  | meetingAdded {subjectId : Uuid} {input : NewMeeting} {time : TimeRange}
    (accepted : input.timeRange = .ok time) (subject : db.has .subject subjectId = true)
    (room : db.isReference .room (.ofOption .ofId input.roomId) = true)
    (newId : db.has .meeting stamp.id = false) :
    Effect stamp db (.addMeeting subjectId input) { db with
      meetings := db.meetings ++ [.ofMeeting ⟨stamp.id, subjectId, input.day, time, input.roomId⟩] }
  | meetingRemoved {id : Uuid} (exists_ : db.has .meeting id = true) :
    Effect stamp db (.removeMeeting id) { db with
      meetings := db.meetings.filter (·.slotId != .ofId id) }
  | seatGranted {studentId subjectId : Uuid} {policy : AdmissionPolicy}
    (grants : db.Grants studentId subjectId policy)
    (newId : ∀ other ∈ db.enrollments, other.enrollmentId ≠ .ofId stamp.id)
    (student : db.has .student studentId = true) :
    Effect stamp db (.grantSeat studentId subjectId policy) { db with
      enrollments := db.enrollments ++ [.ofEnrollment ⟨stamp.id, studentId, subjectId, stamp.now⟩] }
  | seatReleased {studentId subjectId : Uuid} (held : db.holdsSeat studentId subjectId = true) :
    Effect stamp db (.releaseSeat studentId subjectId) { db with
      enrollments := db.enrollments.filter fun row => !(row.isOf studentId && row.isIn subjectId) }

section Operations

variable (stamp : Stamp) (db : Database)

/-- References pass the check when each one that is given points at a record. -/
theorem checkReferences_eq_ok {references : List (Entity × Option Uuid)} :
    db.checkReferences references = .ok () ↔
      ∀ entity id, (entity, some id) ∈ references → db.has entity id = true := by
  induction references with
  -- No references, no failure.
  | nil => simp [checkReferences]
  | cons reference references ih =>
    obtain ⟨kind, reference⟩ := reference
    cases reference with
    | none => simp [checkReferences, ih]
    | some target =>
      -- The check stops here if nothing is found, and goes on to the others if something is.
      rw [checkReferences]
      constructor
      · intro checked entity id member
        split at checked
        · next exists_ =>
          -- The reference that is checked first is one of them, or it is checked behind it.
          rcases List.mem_cons.mp member with same | later
          · cases same
            exact exists_
          · exact ih.mp checked entity id later
        · -- A check that fails does not pass.
          cases checked
      · -- Each target is found, so that the check goes on to the end.
        intro each
        rw [if_pos (each kind target List.mem_cons_self)]
        exact ih.mpr fun entity id later => each entity id (List.mem_cons_of_mem _ later)

/-- References that do not pass the check are reported as missing records. -/
theorem exists_of_checkReferences_error {references : List (Entity × Option Uuid)}
    {error : StoreError} (failed : db.checkReferences references = .error error) :
    ∃ entity id, error = .notFound entity id := by
  induction references with
  -- Nothing fails where nothing is checked.
  | nil => cases failed
  | cons reference references ih =>
    obtain ⟨entity, reference⟩ := reference
    cases reference with
    -- A reference that is not given cannot be missing.
    | none => exact ih failed
    | some id =>
      rw [checkReferences] at failed
      split at failed
      · -- This one is found, and it is another one that failed.
        exact ih failed
      · -- This one is what is missing.
        exact ⟨entity, id, (Except.error.inj failed).symm⟩

/-- References that pass the check point at nothing or at a row. -/
theorem isReference_of_checked {references : List (Entity × Option Uuid)}
    (checked : db.checkReferences references = .ok ()) {entity : Entity} {id : Option Uuid}
    (member : (entity, id) ∈ references) :
    db.isReference entity (.ofOption .ofId id) = true := by
  cases id with
  -- Pointing at nothing is allowed.
  | none => rfl
  | some target =>
    exact Bool.or_eq_true_iff.mpr (Or.inr ((checkReferences_eq_ok db).mp checked _ _ member))

/-- A department is added under a new identifier and a new name, and nothing else is done. -/
theorem addDepartment_effect (input : NewDepartment) :
    Effect stamp db (.addDepartment input) (addDepartment stamp input db).2 := by
  unfold addDepartment
  dsimp only
  split
  · exact .nothing _
  · next free =>
    obtain ⟨newId, newName⟩ := new_of_not_any free
    exact .departmentAdded newId newName

/-- A department gets its new name, if it is found and no other department has that name. -/
theorem updateDepartment_effect (id : Uuid) (input : NewDepartment) :
    Effect stamp db (.updateDepartment id input) (updateDepartment id input db).2 := by
  unfold updateDepartment
  split
  · exact .nothing _
  · next row found =>
    split
    · exact .nothing _
    · next free =>
      -- It is the row that was found that is changed, and the name is new to it.
      obtain ⟨member, isIt⟩ := mem_of_find?_key found
      exact .departmentUpdated member isIt (renamed_of_not_any free)

/-- A department is deleted where there is one. -/
theorem deleteDepartment_effect (id : Uuid) :
    Effect stamp db (.deleteDepartment id) (deleteDepartment id db).2 := by
  unfold deleteDepartment
  split
  · next exists_ => exact .departmentDeleted exists_
  · exact .nothing _

/-- A professor is added with a reference that was checked, under a new identifier. -/
theorem addProfessor_effect (input : NewProfessor) :
    Effect stamp db (.addProfessor input) (addProfessor stamp input db).2 := by
  unfold addProfessor
  dsimp only
  split
  · exact .nothing _
  · next checked =>
    split
    · exact .nothing _
    · next newId =>
      exact .professorAdded (isReference_of_checked db checked (by simp)) (by simpa using newId)

/-- A professor is replaced, if one is found and the reference passes the check. -/
theorem updateProfessor_effect (id : Uuid) (input : NewProfessor) :
    Effect stamp db (.updateProfessor id input) (updateProfessor id input db).2 := by
  unfold updateProfessor
  split
  · exact .nothing _
  · next row found =>
    split
    · exact .nothing _
    · next checked =>
      dsimp only
      split
      · obtain ⟨member, isIt⟩ := mem_of_find?_key found
        exact .professorUpdated member isIt (isReference_of_checked db checked (by simp))
      · -- What was changed is taken back when it cannot be read.
        exact .nothing _

/-- A professor is deleted where there is one. -/
theorem deleteProfessor_effect (id : Uuid) :
    Effect stamp db (.deleteProfessor id) (deleteProfessor id db).2 := by
  unfold deleteProfessor
  split
  · next exists_ => exact .professorDeleted exists_
  · exact .nothing _

/-- A room is added, if neither its identifier nor its name is taken. -/
theorem addRoom_effect (input : NewRoom) :
    Effect stamp db (.addRoom input) (addRoom stamp input db).2 := by
  unfold addRoom
  dsimp only
  split
  · exact .nothing _
  · next free =>
    obtain ⟨newId, newName⟩ := new_of_not_any free
    exact .roomAdded newId newName

/-- A room is replaced, if it is found and no other room has the name. -/
theorem updateRoom_effect (id : Uuid) (input : NewRoom) :
    Effect stamp db (.updateRoom id input) (updateRoom id input db).2 := by
  unfold updateRoom
  split
  · exact .nothing _
  · next row found =>
    split
    · exact .nothing _
    · next free =>
      obtain ⟨member, isIt⟩ := mem_of_find?_key found
      exact .roomUpdated member isIt (renamed_of_not_any free)

/-- A room is deleted where there is one. -/
theorem deleteRoom_effect (id : Uuid) :
    Effect stamp db (.deleteRoom id) (deleteRoom id db).2 := by
  unfold deleteRoom
  split
  · next exists_ => exact .roomDeleted exists_
  · exact .nothing _

/-- A student is added with a reference that was checked, under a new identifier and number. -/
theorem addStudent_effect (input : NewStudent) :
    Effect stamp db (.addStudent input) (addStudent stamp input db).2 := by
  unfold addStudent
  dsimp only
  split
  · exact .nothing _
  · next checked =>
    split
    · exact .nothing _
    · next free =>
      obtain ⟨newId, newNumber⟩ := new_of_not_any free
      exact .studentAdded (isReference_of_checked db checked (by simp)) newId newNumber

/-- A student is replaced, if one is found, the reference is sound and the number is free. -/
theorem updateStudent_effect (id : Uuid) (input : NewStudent) :
    Effect stamp db (.updateStudent id input) (updateStudent id input db).2 := by
  unfold updateStudent
  split
  · exact .nothing _
  · next row found =>
    split
    · exact .nothing _
    · next checked =>
      split
      · exact .nothing _
      · next free =>
        dsimp only
        split
        · obtain ⟨member, isIt⟩ := mem_of_find?_key found
          exact .studentUpdated member isIt (isReference_of_checked db checked (by simp))
            (renamed_of_not_any free)
        · -- Again, what cannot be read is taken back.
          exact .nothing _

/-- A student is deleted where there is one, with all seats. -/
theorem deleteStudent_effect (id : Uuid) :
    Effect stamp db (.deleteStudent id) (deleteStudent id db).2 := by
  unfold deleteStudent
  split
  · next exists_ => exact .studentDeleted exists_
  · exact .nothing _

/-- A subject is added with at least one seat and with references that were checked. -/
theorem addSubject_effect (input : NewSubject) :
    Effect stamp db (.addSubject input) (addSubject stamp input db).2 := by
  unfold addSubject
  split
  · exact .nothing _
  · next valid =>
    -- A subject without seats would not have been valid.
    have seats : input.capacity ≠ 0 := by
      intro zero
      simp [NewSubject.validate, checkCapacity, zero, Bind.bind, Except.bind] at valid
    dsimp only
    split
    · exact .nothing _
    · next checked =>
      split
      · exact .nothing _
      · next newId =>
        exact .subjectAdded seats (isReference_of_checked db checked (by simp))
          (isReference_of_checked db checked (by simp)) (by simpa using newId)

/-- A subject is changed, if one is found and the changed row is still sound. -/
theorem updateSubject_effect (id : Uuid) (patch : SubjectPatch) :
    Effect stamp db (.updateSubject id patch) (updateSubject id patch db).2 := by
  unfold updateSubject
  split
  · exact .nothing _
  · split
    · exact .nothing _
    · next row found =>
      split
      · exact .nothing _
      · split
        · next sound =>
          obtain ⟨member, isIt⟩ := mem_of_find?_key found
          exact .subjectUpdated member isIt sound
        · exact .nothing _

/-- A subject is deleted where there is one, with its meetings and its seats. -/
theorem deleteSubject_effect (id : Uuid) :
    Effect stamp db (.deleteSubject id) (deleteSubject id db).2 := by
  unfold deleteSubject
  split
  · next exists_ => exact .subjectDeleted exists_
  · exact .nothing _

/-- A meeting is added to a subject that exists, at times that were accepted. -/
theorem addMeeting_effect (subjectId : Uuid) (input : NewMeeting) :
    Effect stamp db (.addMeeting subjectId input) (addMeeting stamp subjectId input db).2 := by
  unfold addMeeting
  split
  · exact .nothing _
  · next time accepted =>
    dsimp only
    split
    · exact .nothing _
    · next checked =>
      split
      · exact .nothing _
      · next newId =>
        have subject := isReference_of_checked db checked (List.mem_cons_self ..)
        -- The subject is always given, so that it is not nothing that is pointed at.
        rw [isReference, Bool.or_eq_true_iff] at subject
        exact .meetingAdded accepted (subject.resolve_left (by simp [Cell.ofOption, Cell.ofId]))
          (isReference_of_checked db checked (by simp)) (by simpa using newId)

/-- A meeting is removed where there is one. -/
theorem removeMeeting_effect (id : Uuid) :
    Effect stamp db (.removeMeeting id) (removeMeeting id db).2 := by
  unfold removeMeeting
  split
  · next exists_ => exact .meetingRemoved exists_
  · exact .nothing _

/-- A request for a seat is answered with the seat that it stores, or it changes nothing. -/
theorem grantSeat_cases (studentId subjectId : Uuid) (policy : AdmissionPolicy) :
    (db.Grants studentId subjectId policy ∧
      (∀ other ∈ db.enrollments, other.enrollmentId ≠ .ofId stamp.id) ∧
      db.has .student studentId = true ∧
      grantSeat stamp studentId subjectId policy db =
        (.ok (.enrolled ⟨stamp.id, studentId, subjectId, stamp.now⟩), { db with
          enrollments :=
            db.enrollments ++ [.ofEnrollment ⟨stamp.id, studentId, subjectId, stamp.now⟩] })) ∨
    ((∀ seat, (grantSeat stamp studentId subjectId policy db).1 ≠ .ok (.enrolled seat)) ∧
      (grantSeat stamp studentId subjectId policy db).2 = db) := by
  unfold grantSeat
  split
  · -- What cannot be read is an error and gives no seat.
    exact .inr ⟨by simp, rfl⟩
  · next snapshot read =>
    split
    · -- A rejection is an answer as well, but without a seat.
      next outcome rejected =>
      refine .inr ⟨fun seat same => ?_, rfl⟩
      rw [Except.ok.inj same] at rejected
      exact decideAdmission_ne_enrolled seat rejected
    · next granted =>
      dsimp only
      split
      · -- An identifier that is taken gives none either.
        exact .inr ⟨by simp, rfl⟩
      · next newId =>
        split
        · next student =>
          exact .inl ⟨grants_of_decision read granted, by simpa using newId, student, rfl⟩
        -- A seat for a student who does not exist is decided on, and then not stored.
        · exact .inr ⟨by simp, rfl⟩

/-- A request for a seat stores one, or nothing. -/
theorem grantSeat_effect (studentId subjectId : Uuid) (policy : AdmissionPolicy) :
    Effect stamp db (.grantSeat studentId subjectId policy)
      (grantSeat stamp studentId subjectId policy db).2 := by
  rcases grantSeat_cases stamp db studentId subjectId policy with
    ⟨grants, newId, student, granted⟩ | ⟨-, same⟩
  · rw [granted]
    exact .seatGranted grants newId student
  · rw [same]
    exact .nothing _

/-- A seat is released where it is held. -/
theorem releaseSeat_effect (studentId subjectId : Uuid) :
    Effect stamp db (.releaseSeat studentId subjectId)
      (releaseSeat studentId subjectId db).2 := by
  unfold releaseSeat
  split
  · next held => exact .seatReleased held
  · exact .nothing _

/-- Every operation makes one of the listed changes, or none. -/
theorem Operation.step_effect (operation : Operation) :
    Effect stamp db operation (operation.step stamp db).2 := by
  cases operation with
  | addDepartment input => exact addDepartment_effect stamp db input
  | updateDepartment id input => exact updateDepartment_effect stamp db id input
  | deleteDepartment id => exact deleteDepartment_effect stamp db id
  | addProfessor input => exact addProfessor_effect stamp db input
  | updateProfessor id input => exact updateProfessor_effect stamp db id input
  | deleteProfessor id => exact deleteProfessor_effect stamp db id
  | addRoom input => exact addRoom_effect stamp db input
  | updateRoom id input => exact updateRoom_effect stamp db id input
  | deleteRoom id => exact deleteRoom_effect stamp db id
  | addStudent input => exact addStudent_effect stamp db input
  | updateStudent id input => exact updateStudent_effect stamp db id input
  | deleteStudent id => exact deleteStudent_effect stamp db id
  | addSubject input => exact addSubject_effect stamp db input
  | updateSubject id patch => exact updateSubject_effect stamp db id patch
  | deleteSubject id => exact deleteSubject_effect stamp db id
  | addMeeting subjectId input => exact addMeeting_effect stamp db subjectId input
  | removeMeeting id => exact removeMeeting_effect stamp db id
  | grantSeat studentId subjectId policy =>
    exact grantSeat_effect stamp db studentId subjectId policy
  | releaseSeat studentId subjectId => exact releaseSeat_effect stamp db studentId subjectId
  -- All others only read.
  | _ => exact .nothing _

end Operations

/-- The row that an operation is to delete: what kind of record it is and its identifier. -/
def Operation.deleted? : Operation → Option (Entity × Uuid)
  | deleteDepartment id => some (.department, id)
  | deleteProfessor id => some (.professor, id)
  | deleteRoom id => some (.room, id)
  | deleteStudent id => some (.student, id)
  | deleteSubject id => some (.subject, id)
  | removeMeeting id => some (.meeting, id)
  | _ => none

/-- A key stays, unless its row is deleted or, for a meeting, the subject that it belongs to. -/
theorem Effect.mem_keys {stamp : Stamp} {db changed : Database} {operation : Operation}
    (effect : Effect stamp db operation changed) {entity : Entity} (lasting : entity ≠ .meeting)
    {key : Cell} (member : key ∈ db.keys entity)
    (other : ∀ id, operation.deleted? = some (entity, id) → key ≠ .ofId id) :
    key ∈ changed.keys entity := by
  -- Each change touches the keys of one kind of row at most; all other keys are just the same.
  cases effect with
  | nothing | meetingRemoved | seatGranted | seatReleased =>
    cases entity with
    | meeting => exact absurd rfl lasting
    | _ => exact member
  | departmentAdded =>
    cases entity with
    | department => exact mem_map_append _ member
    | _ => exact member
  | departmentUpdated found isIt =>
    cases entity with
    | department => exact mem_key_replaceRow isIt member
    | _ => exact member
  | departmentDeleted =>
    cases entity with
    | department => exact mem_map_filter member (other _ rfl)
    -- Rows that belonged to the department are cleared of it and keep their keys.
    | professor | student | subject => exact mem_map_map member fun _ => rfl
    | _ => exact member
  | professorAdded =>
    cases entity with
    | professor => exact mem_map_append _ member
    | _ => exact member
  | professorUpdated found isIt =>
    cases entity with
    | professor => exact mem_key_replaceRow isIt member
    | _ => exact member
  | professorDeleted =>
    cases entity with
    | professor => exact mem_map_filter member (other _ rfl)
    | subject => exact mem_map_map member fun _ => rfl
    | _ => exact member
  | roomAdded =>
    cases entity with
    | room => exact mem_map_append _ member
    | _ => exact member
  | roomUpdated found isIt =>
    cases entity with
    | room => exact mem_key_replaceRow isIt member
    | _ => exact member
  | roomDeleted =>
    cases entity with
    | room => exact mem_map_filter member (other _ rfl)
    | meeting => exact absurd rfl lasting
    | _ => exact member
  | studentAdded =>
    cases entity with
    | student => exact mem_map_append _ member
    | _ => exact member
  | studentUpdated found isIt =>
    cases entity with
    | student => exact mem_key_replaceRow isIt member
    | _ => exact member
  | studentDeleted =>
    cases entity with
    | student => exact mem_map_filter member (other _ rfl)
    -- The seats that go with the student have no key that anything refers to.
    | _ => exact member
  | subjectAdded =>
    cases entity with
    | subject => exact mem_map_append _ member
    | _ => exact member
  | subjectUpdated found isIt =>
    cases entity with
    | subject => exact mem_key_replaceRow isIt member
    | _ => exact member
  | subjectDeleted =>
    cases entity with
    | subject => exact mem_map_filter member (other _ rfl)
    -- Meetings go with their subject, which is why their keys do not last.
    | meeting => exact absurd rfl lasting
    | _ => exact member
  | meetingAdded =>
    cases entity with
    | meeting => exact mem_map_append _ member
    | _ => exact member

end CourseRegistry
