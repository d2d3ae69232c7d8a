import CourseRegistry.Proofs.Store.Update

/-! An operation that does not report a success has changed nothing. -/

namespace CourseRegistry

open Database

/-- An answer reports that something was made, found, changed or taken away. -/
def Operation.isSuccess : (operation : Operation) → Except StoreError operation.Answer → Bool
  | _, .error _ => false
  -- A record that is asked for or to be changed may be missing.
  | updateDepartment .., .ok record => Option.isSome record
  | updateProfessor .., .ok record => Option.isSome record
  | updateRoom .., .ok record => Option.isSome record
  | updateStudent .., .ok record => Option.isSome record
  | updateSubject .., .ok record => Option.isSome record
  | getStudent _, .ok record => Option.isSome record
  | getSubject _, .ok record => Option.isSome record
  | studentLogin _, .ok login => Option.isSome login
  -- So may one that is to be deleted.
  | deleteDepartment _, .ok done => done
  | deleteProfessor _, .ok done => done
  | deleteRoom _, .ok done => done
  | deleteStudent _, .ok done => done
  | deleteSubject _, .ok done => done
  | removeMeeting _, .ok done => done
  | studentExists _, .ok exists_ => exists_
  | grantSeat .., .ok outcome => EnrollOutcome.isEnrolled outcome
  | releaseSeat .., .ok (outcome : CancelOutcome) => outcome == CancelOutcome.cancelled
  -- All other requests are answered with a new record, a list or a number.
  | _, .ok _ => true

section Operations

variable (stamp : Stamp) (db : Database)

/-- Where nothing is there to be deleted, nothing is deleted, whichever kind of record it is. -/
theorem delete_answer {condition : Bool} {db changed : Database} :
    (if condition then ((.ok true, changed) : Except StoreError Bool × Database)
        else (.ok false, db)).2 = db ∨
      (if condition then ((.ok true, changed) : Except StoreError Bool × Database)
        else (.ok false, db)).1 = .ok true := by
  -- What is looked at first decides both the tables and the answer.
  cases condition with
  | false => exact .inl rfl
  | true => exact .inr rfl

-- A record is added where it is given as the answer, and nowhere else.

/-- A department that is not refused is the answer. -/
theorem addDepartment_answer (input : NewDepartment) :
    (addDepartment stamp input db).2 = db ∨
      ∃ department, (addDepartment stamp input db).1 = .ok department := by
  unfold addDepartment
  dsimp only
  split
  · exact .inl rfl
  · exact .inr ⟨_, rfl⟩

/-- So is a professor, once the reference and the identifier have passed. -/
theorem addProfessor_answer (input : NewProfessor) :
    (addProfessor stamp input db).2 = db ∨
      ∃ professor, (addProfessor stamp input db).1 = .ok professor := by
  unfold addProfessor
  dsimp only
  split
  · exact .inl rfl
  · split
    · exact .inl rfl
    · exact .inr ⟨_, rfl⟩

/-- So is a room. -/
theorem addRoom_answer (input : NewRoom) :
    (addRoom stamp input db).2 = db ∨ ∃ room, (addRoom stamp input db).1 = .ok room := by
  unfold addRoom
  dsimp only
  split
  · exact .inl rfl
  · exact .inr ⟨_, rfl⟩

/-- So is a student. -/
theorem addStudent_answer (input : NewStudent) :
    (addStudent stamp input db).2 = db ∨
      ∃ student, (addStudent stamp input db).1 = .ok student := by
  unfold addStudent
  dsimp only
  split
  · exact .inl rfl
  · split
    · exact .inl rfl
    · exact .inr ⟨_, rfl⟩

/-- So is a subject. -/
theorem addSubject_answer (input : NewSubject) :
    (addSubject stamp input db).2 = db ∨
      ∃ subject, (addSubject stamp input db).1 = .ok subject := by
  unfold addSubject
  -- What is not valid is refused before the tables are looked at.
  split
  · exact .inl rfl
  · dsimp only
    split
    · exact .inl rfl
    · split
      · exact .inl rfl
      · exact .inr ⟨_, rfl⟩

/-- So is a meeting, once its time was accepted and what it refers to was found. -/
theorem addMeeting_answer (subjectId : Uuid) (input : NewMeeting) :
    (addMeeting stamp subjectId input db).2 = db ∨
      ∃ slot, (addMeeting stamp subjectId input db).1 = .ok slot := by
  unfold addMeeting
  split
  · exact .inl rfl
  · dsimp only
    split
    · exact .inl rfl
    · split
      · exact .inl rfl
      · exact .inr ⟨_, rfl⟩

/-- A seat that is stored is the answer. -/
theorem grantSeat_answer (studentId subjectId : Uuid) (policy : AdmissionPolicy) :
    (grantSeat stamp studentId subjectId policy db).2 = db ∨
      ∃ seat, (grantSeat stamp studentId subjectId policy db).1 = .ok (.enrolled seat) := by
  rcases grantSeat_cases stamp db studentId subjectId policy with
    ⟨-, -, -, granted⟩ | ⟨-, same⟩
  · exact .inr ⟨_, congrArg Prod.fst granted⟩
  · exact .inl same

/-- A seat that is given back is answered with a cancellation. -/
theorem releaseSeat_answer (studentId subjectId : Uuid) :
    (releaseSeat studentId subjectId db).2 = db ∨
      (releaseSeat studentId subjectId db).1 = .ok .cancelled := by
  unfold releaseSeat
  split
  · exact .inr rfl
  · exact .inl rfl

section ReadBack

variable {db} (written : db.Written Instant.IsReading)

include written

-- A change is answered with the row as it was changed, which reads back since the old one did.

/-- A department reads back under its new name. -/
theorem updateDepartment_answer (id : Uuid) (input : NewDepartment) :
    (updateDepartment id input db).2 = db ∨
      ∃ department, (updateDepartment id input db).1 = .ok (some department) := by
  refine (updateDepartment_isUpdate db id input).answer fun row found => ?_
  have stored := written.departments row (List.mem_of_find?_eq_some found)
  exact DepartmentRow.readsBack_renamed stored.readsBack input

/-- A professor reads back with the new record. -/
theorem updateProfessor_answer (id : Uuid) (input : NewProfessor) :
    (updateProfessor id input db).2 = db ∨
      ∃ professor, (updateProfessor id input db).1 = .ok (some professor) := by
  refine (updateProfessor_isUpdate db id input).answer fun row found => ?_
  have stored := written.professors row (List.mem_of_find?_eq_some found)
  exact ProfessorRow.readsBack_replaced stored.readsBack input

/-- So does a room. -/
theorem updateRoom_answer (id : Uuid) (input : NewRoom) :
    (updateRoom id input db).2 = db ∨
      ∃ room, (updateRoom id input db).1 = .ok (some room) := by
  refine (updateRoom_isUpdate db id input).answer fun row found => ?_
  have stored := written.rooms row (List.mem_of_find?_eq_some found)
  exact RoomRow.readsBack_replaced stored.readsBack input

/-- So does a student. -/
theorem updateStudent_answer (id : Uuid) (input : NewStudent) :
    (updateStudent id input db).2 = db ∨
      ∃ student, (updateStudent id input db).1 = .ok (some student) := by
  refine (updateStudent_isUpdate db id input).answer fun row found => ?_
  have stored := written.students row (List.mem_of_find?_eq_some found)
  exact StudentRow.readsBack_replaced stored.readsBack input

/-- So does a subject, of which only a part may have been set. -/
theorem updateSubject_answer (id : Uuid) (patch : SubjectPatch) :
    (updateSubject id patch db).2 = db ∨
      ∃ subject, (updateSubject id patch db).1 = .ok (some subject) := by
  refine (updateSubject_isUpdate db id patch).answer fun offering found => ?_
  -- The subject that is found is read with its meetings, which are written as well.
  obtain ⟨row, located, rfl⟩ := Option.map_eq_some_iff.mp found
  obtain ⟨subject, -, readable, decoded⟩ := written.offering (List.mem_of_find?_eq_some located)
  exact Offering.readsBack_patched ⟨readable, subject, decoded⟩ patch

/-- Every operation leaves the tables as they were, or reports a success. -/
theorem Operation.unchanged_or_success (stamp : Stamp) (operation : Operation) :
    (operation.step stamp db).2 = db ∨
      operation.isSuccess (operation.step stamp db).1 = true := by
  cases operation with
  -- An addition is answered with its record where the tables were changed, and a change likewise.
  | addDepartment input =>
    exact (addDepartment_answer stamp db input).imp_right fun ⟨_, made⟩ =>
      congrArg (isSuccess (.addDepartment input)) made
  | updateDepartment id input =>
    exact (updateDepartment_answer written id input).imp_right fun ⟨_, changed⟩ =>
      congrArg (isSuccess (.updateDepartment id input)) changed
  | addProfessor input =>
    exact (addProfessor_answer stamp db input).imp_right fun ⟨_, made⟩ =>
      congrArg (isSuccess (.addProfessor input)) made
  | updateProfessor id input =>
    exact (updateProfessor_answer written id input).imp_right fun ⟨_, changed⟩ =>
      congrArg (isSuccess (.updateProfessor id input)) changed
  | addRoom input =>
    exact (addRoom_answer stamp db input).imp_right fun ⟨_, made⟩ =>
      congrArg (isSuccess (.addRoom input)) made
  | updateRoom id input =>
    exact (updateRoom_answer written id input).imp_right fun ⟨_, changed⟩ =>
      congrArg (isSuccess (.updateRoom id input)) changed
  | addStudent input =>
    exact (addStudent_answer stamp db input).imp_right fun ⟨_, made⟩ =>
      congrArg (isSuccess (.addStudent input)) made
  | updateStudent id input =>
    exact (updateStudent_answer written id input).imp_right fun ⟨_, changed⟩ =>
      congrArg (isSuccess (.updateStudent id input)) changed
  | addSubject input =>
    exact (addSubject_answer stamp db input).imp_right fun ⟨_, made⟩ =>
      congrArg (isSuccess (.addSubject input)) made
  | updateSubject id patch =>
    exact (updateSubject_answer written id patch).imp_right fun ⟨_, changed⟩ =>
      congrArg (isSuccess (.updateSubject id patch)) changed
  | addMeeting subjectId input =>
    exact (addMeeting_answer stamp db subjectId input).imp_right fun ⟨_, made⟩ =>
      congrArg (isSuccess (.addMeeting subjectId input)) made
  | grantSeat studentId subjectId policy =>
    exact (grantSeat_answer stamp db studentId subjectId policy).imp_right fun ⟨_, granted⟩ =>
      congrArg (isSuccess (.grantSeat studentId subjectId policy)) granted
  | releaseSeat studentId subjectId =>
    exact (releaseSeat_answer db studentId subjectId).imp_right fun released =>
      congrArg (isSuccess (.releaseSeat studentId subjectId)) released
  -- A deletion is answered with a yes where the record was there.
  | deleteDepartment id =>
    exact delete_answer.imp_right (congrArg (isSuccess (.deleteDepartment id)))
  | deleteProfessor id =>
    exact delete_answer.imp_right (congrArg (isSuccess (.deleteProfessor id)))
  | deleteRoom id => exact delete_answer.imp_right (congrArg (isSuccess (.deleteRoom id)))
  | deleteStudent id => exact delete_answer.imp_right (congrArg (isSuccess (.deleteStudent id)))
  | deleteSubject id => exact delete_answer.imp_right (congrArg (isSuccess (.deleteSubject id)))
  | removeMeeting id => exact delete_answer.imp_right (congrArg (isSuccess (.removeMeeting id)))
  -- All other operations are reads.
  | _ => exact .inl rfl

end ReadBack

end Operations

namespace Database

/-- In all that can be reached, an operation that does not report a success changes nothing. -/
theorem Reachable.unchanged_of_not_success {db : Database}
    (reachable : db.Reachable Instant.InFourDigitYear) (stamp : Stamp) (operation : Operation)
    (failed : operation.isSuccess (operation.step stamp db).1 = false) :
    (operation.step stamp db).2 = db :=
  -- The other of the two cases would have been a success.
  (Operation.unchanged_or_success reachable.readings stamp operation).resolve_right
    (Bool.eq_false_iff.mp failed)

/-- After the sample, a subject is not given to a professor who does not exist. -/
theorem unchanged_sample :
    Operation.isSuccess
        (.updateSubject (.ofDigit 4) ⟨none, some 5, none, none, some (some (.ofDigit 9)), none⟩)
        (updateSubject (.ofDigit 4) ⟨none, some 5, none, none, some (some (.ofDigit 9)), none⟩
          (empty.after sampleRun)).1 = false ∧
      (updateSubject (.ofDigit 4) ⟨none, some 5, none, none, some (some (.ofDigit 9)), none⟩
        (empty.after sampleRun)).2 = empty.after sampleRun := by
  have reachable : (empty.after sampleRun).Reachable Instant.InFourDigitYear :=
    ⟨sampleRun, by decide, rfl⟩
  have failed : Operation.isSuccess
      (.updateSubject (.ofDigit 4) ⟨none, some 5, none, none, some (some (.ofDigit 9)), none⟩)
      (updateSubject (.ofDigit 4) ⟨none, some 5, none, none, some (some (.ofDigit 9)), none⟩
        (empty.after sampleRun)).1 = false := by
    -- The failure is evaluated, and that nothing has changed follows from it.
    decide +kernel
  exact ⟨failed, reachable.unchanged_of_not_success (.ofDigit 9) _ failed⟩

end Database

end CourseRegistry
