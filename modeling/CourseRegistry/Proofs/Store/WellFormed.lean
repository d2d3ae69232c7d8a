import CourseRegistry.Proofs.Store.Effect
import CourseRegistry.Proofs.Store.Row
import CourseRegistry.Proofs.Store.Run
import CourseRegistry.Proofs.Store.Table

/-!
Well-formed tables: keys, names and seats come once, references point at rows, and numbers are in
range. Every operation keeps tables well-formed.
-/

namespace CourseRegistry

open Database

/-- A subject has at least one seat, and its numbers are counts. -/
def SubjectRow.InRange (row : SubjectRow) : Prop :=
  ∃ capacity credits : Int, row.capacity = .integer capacity ∧ row.credits = .integer credits ∧
    1 ≤ capacity ∧ capacity ≤ 4294967295 ∧ 0 ≤ credits ∧ credits ≤ 4294967295

/-- A meeting is held on a day of the week, and ends after its start on the same day. -/
def MeetingRow.InRange (row : MeetingRow) : Prop :=
  ∃ weekday start finish : Int, row.weekday = .integer weekday ∧
    row.startSecond = .integer start ∧ row.endSecond = .integer finish ∧
    0 ≤ weekday ∧ weekday ≤ 6 ∧ 0 ≤ start ∧ start < finish ∧ finish ≤ 86399

/-- A new subject is stored in range when it has a seat. -/
theorem SubjectRow.inRange_ofSubject {subject : Subject} (seats : subject.capacity ≠ 0) :
    (ofSubject subject).InRange := by
  -- Counts are never too large, so that the one thing to see is that there is a seat.
  have some_seat : 0 < subject.capacity.toNat := Nat.pos_of_ne_zero fun zero =>
    seats (UInt32.toNat_inj.mp zero)
  have capacity_lt := subject.capacity.toNat_lt
  have credits_lt := subject.credits.toNat_lt
  exact ⟨subject.capacity.toNat, subject.credits.toNat, rfl, rfl, by omega, by omega, by omega,
    by omega⟩

/-- A changed subject stays in range when its row is one that the table takes. -/
theorem SubjectRow.inRange_patched {db : Database} {patch : SubjectPatch} {row : SubjectRow}
    (range : row.InRange) (sound : db.isSound (patched patch row) = true) :
    (patched patch row).InRange := by
  simp only [isSound, Bool.and_eq_true] at sound
  -- Of what the table checks, only the number of seats is needed.
  obtain ⟨⟨⟨-, seats⟩, -⟩, -⟩ := sound
  obtain ⟨capacity, credits, capacity_eq, credits_eq, -, fits, positive, counted⟩ := range
  -- A number that the patch sets is a count, and one that it leaves alone was in range.
  obtain ⟨newCapacity, newCapacity_eq, capacity_fits⟩ : ∃ number : Int,
      (patched patch row).capacity = .integer number ∧ number ≤ 4294967295 := by
    cases set : patch.capacity with
    | none => exact ⟨capacity, by simp [patched, set, capacity_eq], fits⟩
    | some number =>
      have number_lt := number.toNat_lt
      exact ⟨number.toNat, by simp [patched, set, Cell.ofCount], by omega⟩
  obtain ⟨newCredits, newCredits_eq, credits_fit⟩ : ∃ number : Int,
      (patched patch row).credits = .integer number ∧ 0 ≤ number ∧ number ≤ 4294967295 := by
    cases set : patch.credits with
    | none => exact ⟨credits, by simp [patched, set, credits_eq], positive, counted⟩
    | some number =>
      have number_lt := number.toNat_lt
      exact ⟨number.toNat, by simp [patched, set, Cell.ofCount], by omega⟩
  -- That there still is a seat was checked when the row was changed.
  rw [newCapacity_eq, isAtLeast, decide_eq_true_eq] at seats
  exact ⟨newCapacity, newCredits, newCapacity_eq, newCredits_eq, seats, capacity_fits, credits_fit⟩

/-- A meeting that can be stored is stored in range. -/
theorem MeetingRow.inRange_ofMeeting {slot : MeetingSlot} (storable : slot.IsStorable) :
    (ofMeeting slot).InRange := by
  -- There are seven days.
  have day_le : slot.day.index ≤ 6 := by cases slot.day <;> decide
  -- Without fractions, an end after the start is at a later second.
  have ordered := (TimeOfDay.lt_iff_second_lt storable.start_whole storable.finish_whole).mp
    storable.ordered
  have finish_lt := slot.time.finish.second_lt
  exact ⟨slot.day.index, slot.time.start.second, slot.time.finish.second, rfl, rfl, rfl, by omega,
    by omega, by omega, by omega, by omega⟩

namespace Database

/-- What has to be unique comes once. -/
structure Unique (db : Database) : Prop where
  departmentKeys : (db.keys .department).Nodup
  professorKeys : (db.keys .professor).Nodup
  roomKeys : (db.keys .room).Nodup
  studentKeys : (db.keys .student).Nodup
  subjectKeys : (db.keys .subject).Nodup
  meetingKeys : (db.keys .meeting).Nodup
  enrollmentKeys : (db.enrollments.map (·.enrollmentId)).Nodup
  departmentNames : (db.departments.map (·.name)).Nodup
  roomNames : (db.rooms.map (·.name)).Nodup
  studentNumbers : (db.students.map (·.studentNumber)).Nodup
  /-- A student holds at most one seat in a subject. -/
  seats : (db.enrollments.map fun row => (row.studentId, row.subjectId)).Nodup

/-- Every reference that is not empty points at an existing row. -/
structure Referential (db : Database) : Prop where
  professorDepartments : ∀ row ∈ db.professors,
    db.isReference .department row.departmentId = true
  studentDepartments : ∀ row ∈ db.students, db.isReference .department row.departmentId = true
  subjectProfessors : ∀ row ∈ db.subjects, db.isReference .professor row.professorId = true
  subjectDepartments : ∀ row ∈ db.subjects, db.isReference .department row.departmentId = true
  meetingRooms : ∀ row ∈ db.meetings, db.isReference .room row.roomId = true
  /-- What a meeting or a seat belongs to is never left empty. -/
  meetingSubjects : ∀ row ∈ db.meetings, db.hasKey .subject row.subjectId = true
  enrollmentStudents : ∀ row ∈ db.enrollments, db.hasKey .student row.studentId = true
  enrollmentSubjects : ∀ row ∈ db.enrollments, db.hasKey .subject row.subjectId = true

/-- Tables are well-formed when keys, references and numbers are. -/
structure WellFormed (db : Database) : Prop where
  unique : db.Unique
  referential : db.Referential
  subjectNumbers : ∀ row ∈ db.subjects, row.InRange
  meetingTimes : ∀ row ∈ db.meetings, row.InRange

end Database

section Effects

variable {stamp : Stamp} {db changed : Database} {operation : Operation}

/-- A seat is granted only where the student holds none. -/
theorem Database.Grants.not_mem_seats {studentId subjectId : Uuid} {policy : AdmissionPolicy}
    (grants : db.Grants studentId subjectId policy) :
    (Cell.ofId studentId, Cell.ofId subjectId) ∉
      db.enrollments.map fun row => (row.studentId, row.subjectId) := by
  intro member
  -- It would be the seat of a row with this student and this subject.
  obtain ⟨row, row_mem, same⟩ := List.mem_map.mp member
  obtain ⟨student, subject⟩ := Prod.mk.inj same
  have held : db.holdsSeat studentId subjectId = true := by
    refine List.any_eq_true.mpr ⟨row, row_mem, ?_⟩
    simp [EnrollmentRow.isOf, EnrollmentRow.isIn, student, subject]
  -- But that the student holds none was found before.
  rw [grants.notHeld] at held
  cases held

/-- A seat is granted only in a subject that exists. -/
theorem Database.Grants.hasKey {studentId subjectId : Uuid} {policy : AdmissionPolicy}
    (grants : db.Grants studentId subjectId policy) :
    db.hasKey .subject (.ofId subjectId) = true := by
  -- The subject was found by its key.
  obtain ⟨row, found, -⟩ := grants.room
  obtain ⟨member, isIt⟩ := mem_of_find?_key found
  exact List.any_eq_true.mpr ⟨row, member, beq_iff_eq.mpr isIt⟩

/-- No operation makes anything come twice that has to be unique. -/
theorem Effect.unique (effect : Effect stamp db operation changed) (unique : db.Unique) :
    changed.Unique := by
  -- Only a row that is added or renamed can make something come twice, and that was checked.
  cases effect with
  | nothing => exact unique
  | departmentAdded newId newName =>
    exact { unique with
      departmentKeys := nodup_map_append unique.departmentKeys (not_mem_keys newId)
      departmentNames := nodup_map_append unique.departmentNames (not_mem_map_of_ne newName) }
  | departmentUpdated found isIt newName =>
    exact { unique with
      departmentKeys := nodup_key_replaceRow unique.departmentKeys isIt
      departmentNames := nodup_map_replaceRow unique.departmentKeys unique.departmentNames newName }
  -- Clearing references and taking rows away leaves what is left as it was.
  | departmentDeleted =>
    exact { unique with
      departmentKeys := nodup_map_filter unique.departmentKeys _
      departmentNames := nodup_map_filter unique.departmentNames _
      professorKeys := nodup_map_map unique.professorKeys fun _ => rfl
      studentKeys := nodup_map_map unique.studentKeys fun _ => rfl
      studentNumbers := nodup_map_map unique.studentNumbers fun _ => rfl
      subjectKeys := nodup_map_map unique.subjectKeys fun _ => rfl }
  -- The reference to a department has no bearing on the key.
  | professorAdded _ newId =>
    exact { unique with
      professorKeys := nodup_map_append unique.professorKeys (not_mem_keys newId) }
  | professorUpdated found isIt =>
    exact { unique with
      professorKeys := nodup_key_replaceRow unique.professorKeys isIt }
  | professorDeleted =>
    exact { unique with
      professorKeys := nodup_map_filter unique.professorKeys _
      subjectKeys := nodup_map_map unique.subjectKeys fun _ => rfl }
  | roomAdded newId newName =>
    exact { unique with
      roomKeys := nodup_map_append unique.roomKeys (not_mem_keys newId)
      roomNames := nodup_map_append unique.roomNames (not_mem_map_of_ne newName) }
  | roomUpdated found isIt newName =>
    exact { unique with
      roomKeys := nodup_key_replaceRow unique.roomKeys isIt
      roomNames := nodup_map_replaceRow unique.roomKeys unique.roomNames newName }
  | roomDeleted =>
    exact { unique with
      roomKeys := nodup_map_filter unique.roomKeys _
      roomNames := nodup_map_filter unique.roomNames _
      meetingKeys := nodup_map_map unique.meetingKeys fun _ => rfl }
  | studentAdded _ newId newNumber =>
    exact { unique with
      studentKeys := nodup_map_append unique.studentKeys (not_mem_keys newId)
      studentNumbers := nodup_map_append unique.studentNumbers (not_mem_map_of_ne newNumber) }
  | studentUpdated found isIt _ newNumber =>
    exact { unique with
      studentKeys := nodup_key_replaceRow unique.studentKeys isIt
      studentNumbers := nodup_map_replaceRow unique.studentKeys unique.studentNumbers newNumber }
  | studentDeleted =>
    exact { unique with
      studentKeys := nodup_map_filter unique.studentKeys _
      -- The seats of the student are taken away with the student, and no others are.
      studentNumbers := nodup_map_filter unique.studentNumbers _
      enrollmentKeys := nodup_map_filter unique.enrollmentKeys _
      seats := nodup_map_filter unique.seats _ }
  | subjectAdded _ _ _ newId =>
    exact { unique with
      subjectKeys := nodup_map_append unique.subjectKeys (not_mem_keys newId) }
  | subjectUpdated found isIt =>
    exact { unique with
      subjectKeys := nodup_key_replaceRow unique.subjectKeys isIt }
  | subjectDeleted =>
    exact { unique with
      subjectKeys := nodup_map_filter unique.subjectKeys _
      meetingKeys := nodup_map_filter unique.meetingKeys _
      enrollmentKeys := nodup_map_filter unique.enrollmentKeys _
      seats := nodup_map_filter unique.seats _ }
  | meetingAdded _ _ _ newId =>
    exact { unique with
      meetingKeys := nodup_map_append unique.meetingKeys (not_mem_keys newId) }
  | meetingRemoved =>
    exact { unique with meetingKeys := nodup_map_filter unique.meetingKeys _ }
  -- The seat is neither there under its identifier nor held by the student.
  | seatGranted grants newId =>
    exact { unique with
      enrollmentKeys := nodup_map_append unique.enrollmentKeys (not_mem_map_of_ne newId)
      seats := nodup_map_append unique.seats grants.not_mem_seats }
  | seatReleased =>
    exact { unique with
      enrollmentKeys := nodup_map_filter unique.enrollmentKeys _
      seats := nodup_map_filter unique.seats _ }

/-- A reference stays valid when the operation deletes no row of the kind that it points at. -/
theorem Effect.isReference (effect : Effect stamp db operation changed) (entity : Entity)
    (lasting : entity ≠ .meeting) (undeleted : ∀ id, operation.deleted? ≠ some (entity, id))
    {cell : Cell} (reference : db.isReference entity cell = true) :
    changed.isReference entity cell = true :=
  isReference_mono (fun _ member => effect.mem_keys lasting member
    fun id deleted => absurd deleted (undeleted id)) reference

/-- A reference that is cleared of a deleted row stays valid. -/
theorem Effect.isReference_withoutId (effect : Effect stamp db operation changed)
    (entity : Entity) (lasting : entity ≠ .meeting) ⦃id : Uuid⦄
    (deleted : operation.deleted? = some (entity, id)) {cell : Cell}
    (reference : db.isReference entity cell = true) :
    changed.isReference entity (cell.withoutId id) = true :=
  Database.isReference_withoutId (fun _ member other => effect.mem_keys lasting member
    -- The kind and the identifier are those of the deletion.
    fun id same => by
      rw [deleted] at same
      cases same
      exact other) reference

/-- What rows belong to stays when the operation does not delete it. -/
theorem Effect.hasKey (effect : Effect stamp db operation changed) (entity : Entity)
    (lasting : entity ≠ .meeting) ⦃cell : Cell⦄
    (undeleted : ∀ id, operation.deleted? = some (entity, id) → cell ≠ .ofId id)
    (exists_ : db.hasKey entity cell = true) : changed.hasKey entity cell = true :=
  hasKey_iff.mpr (effect.mem_keys lasting (hasKey_iff.mp exists_) undeleted)

section Kept

variable (effect : Effect stamp db operation changed) (ref : db.Referential)

include effect ref

/-- Professors belong to existing departments after every operation. -/
theorem Effect.professorDepartments :
    ∀ row ∈ changed.professors, changed.isReference .department row.departmentId = true := by
  have kept := effect.isReference .department nofun
  have cleared := effect.isReference_withoutId .department nofun
  cases effect with
  | nothing => exact ref.professorDepartments
  -- A professor of the deleted department loses it, and keeps what else is referred to.
  | departmentDeleted =>
    exact forall_mem_change ref.professorDepartments fun _ => cleared rfl
  | professorAdded department =>
    exact forall_mem_add ref.professorDepartments (fun _ => kept nofun) (kept nofun department)
  | professorUpdated found isIt department =>
    exact forall_mem_replace ref.professorDepartments (fun _ => kept nofun) (kept nofun department)
  | professorDeleted =>
    exact forall_mem_remove ref.professorDepartments fun _ _ => kept nofun
  -- No other operation touches professors or takes a department away.
  | _ => exact fun row member => kept nofun (ref.professorDepartments row member)

/-- Students belong to existing departments after every operation. -/
theorem Effect.studentDepartments :
    ∀ row ∈ changed.students, changed.isReference .department row.departmentId = true := by
  have kept := effect.isReference .department nofun
  have cleared := effect.isReference_withoutId .department nofun
  cases effect with
  | nothing => exact ref.studentDepartments
  | departmentDeleted =>
    exact forall_mem_change ref.studentDepartments fun _ => cleared rfl
  | studentAdded department =>
    exact forall_mem_add ref.studentDepartments (fun _ => kept nofun) (kept nofun department)
  | studentUpdated found isIt department =>
    exact forall_mem_replace ref.studentDepartments (fun _ => kept nofun) (kept nofun department)
  | studentDeleted =>
    exact forall_mem_remove ref.studentDepartments fun _ _ => kept nofun
  -- No other operation touches students or takes a department away.
  | _ => exact fun row member => kept nofun (ref.studentDepartments row member)

/-- Subjects are given by existing professors after every operation. -/
theorem Effect.subjectProfessors :
    ∀ row ∈ changed.subjects, changed.isReference .professor row.professorId = true := by
  have kept := effect.isReference .professor nofun
  have cleared := effect.isReference_withoutId .professor nofun
  cases effect with
  | nothing => exact ref.subjectProfessors
  -- A subject keeps its professor when its department goes.
  | departmentDeleted =>
    exact forall_mem_change ref.subjectProfessors fun _ => kept nofun
  | professorDeleted =>
    exact forall_mem_change ref.subjectProfessors fun _ => cleared rfl
  | subjectAdded seats professor =>
    exact forall_mem_add ref.subjectProfessors (fun _ => kept nofun) (kept nofun professor)
  | subjectUpdated found isIt sound =>
    -- The changed row was checked as a whole.
    simp only [isSound, Bool.and_eq_true] at sound
    exact forall_mem_replace ref.subjectProfessors (fun _ => kept nofun) (kept nofun sound.1.2)
  | subjectDeleted =>
    exact forall_mem_remove ref.subjectProfessors fun _ _ => kept nofun
  -- No other operation touches subjects or takes a professor away.
  | _ => exact fun row member => kept nofun (ref.subjectProfessors row member)

/-- Subjects belong to existing departments after every operation. -/
theorem Effect.subjectDepartments :
    ∀ row ∈ changed.subjects, changed.isReference .department row.departmentId = true := by
  have kept := effect.isReference .department nofun
  have cleared := effect.isReference_withoutId .department nofun
  cases effect with
  | nothing => exact ref.subjectDepartments
  | departmentDeleted =>
    exact forall_mem_change ref.subjectDepartments fun _ => cleared rfl
  -- A subject keeps its department when its professor goes.
  | professorDeleted =>
    exact forall_mem_change ref.subjectDepartments fun _ => kept nofun
  | subjectAdded seats professor department =>
    exact forall_mem_add ref.subjectDepartments (fun _ => kept nofun) (kept nofun department)
  | subjectUpdated found isIt sound =>
    simp only [isSound, Bool.and_eq_true] at sound
    exact forall_mem_replace ref.subjectDepartments (fun _ => kept nofun) (kept nofun sound.2)
  | subjectDeleted =>
    exact forall_mem_remove ref.subjectDepartments fun _ _ => kept nofun
  -- No other operation touches subjects or takes a department away.
  | _ => exact fun row member => kept nofun (ref.subjectDepartments row member)

/-- Meetings are held in existing rooms after every operation. -/
theorem Effect.meetingRooms :
    ∀ row ∈ changed.meetings, changed.isReference .room row.roomId = true := by
  have kept := effect.isReference .room nofun
  have cleared := effect.isReference_withoutId .room nofun
  cases effect with
  | nothing => exact ref.meetingRooms
  | roomDeleted =>
    exact forall_mem_change ref.meetingRooms fun _ => cleared rfl
  -- What is left of the meetings keeps its rooms.
  | subjectDeleted | meetingRemoved =>
    exact forall_mem_remove ref.meetingRooms fun _ _ => kept nofun
  | meetingAdded accepted subject room =>
    exact forall_mem_add ref.meetingRooms (fun _ => kept nofun) (kept nofun room)
  -- No other operation touches meetings or takes a room away.
  | _ => exact fun row member => kept nofun (ref.meetingRooms row member)

/-- Meetings belong to existing subjects after every operation. -/
theorem Effect.meetingSubjects :
    ∀ row ∈ changed.meetings, changed.hasKey .subject row.subjectId = true := by
  have kept := effect.hasKey .subject nofun
  cases effect with
  | nothing => exact ref.meetingSubjects
  -- A meeting that loses its room stays in its subject.
  | roomDeleted =>
    exact forall_mem_change ref.meetingSubjects fun _ => kept nofun
  | subjectDeleted =>
    -- The meetings of the subject go with it.
    refine forall_mem_remove ref.meetingSubjects fun _ stays => kept ?_
    rintro _ ⟨⟩
    exact bne_iff_ne.mp stays
  | meetingAdded accepted subject =>
    exact forall_mem_add ref.meetingSubjects (fun _ => kept nofun) (kept nofun subject)
  | meetingRemoved =>
    exact forall_mem_remove ref.meetingSubjects fun _ _ => kept nofun
  -- No other operation touches meetings or takes a subject away.
  | _ => exact fun row member => kept nofun (ref.meetingSubjects row member)

/-- Seats are held by existing students after every operation. -/
theorem Effect.enrollmentStudents :
    ∀ row ∈ changed.enrollments, changed.hasKey .student row.studentId = true := by
  have kept := effect.hasKey .student nofun
  cases effect with
  | nothing => exact ref.enrollmentStudents
  | studentDeleted =>
    -- The seats of the student go too.
    refine forall_mem_remove ref.enrollmentStudents fun _ stays => kept ?_
    rintro _ ⟨⟩
    exact bne_iff_ne.mp stays
  | subjectDeleted | seatReleased =>
    exact forall_mem_remove ref.enrollmentStudents fun _ _ => kept nofun
  | seatGranted grants newId student =>
    exact forall_mem_add ref.enrollmentStudents (fun _ => kept nofun) (kept nofun student)
  -- No other operation touches seats or takes a student away.
  | _ => exact fun row member => kept nofun (ref.enrollmentStudents row member)

/-- Seats are held in existing subjects after every operation. -/
theorem Effect.enrollmentSubjects :
    ∀ row ∈ changed.enrollments, changed.hasKey .subject row.subjectId = true := by
  have kept := effect.hasKey .subject nofun
  cases effect with
  | nothing => exact ref.enrollmentSubjects
  | subjectDeleted =>
    -- The seats in the subject go with it.
    refine forall_mem_remove ref.enrollmentSubjects fun _ stays => kept ?_
    rintro _ ⟨⟩
    exact bne_iff_ne.mp stays
  | studentDeleted | seatReleased =>
    exact forall_mem_remove ref.enrollmentSubjects fun _ _ => kept nofun
  | seatGranted grants =>
    exact forall_mem_add ref.enrollmentSubjects (fun _ => kept nofun) (kept nofun grants.hasKey)
  -- No other operation touches seats or takes a subject away.
  | _ => exact fun row member => kept nofun (ref.enrollmentSubjects row member)

/-- No operation leaves a reference that points at nothing. -/
theorem Effect.referential : changed.Referential where
  professorDepartments := effect.professorDepartments ref
  studentDepartments := effect.studentDepartments ref
  subjectProfessors := effect.subjectProfessors ref
  subjectDepartments := effect.subjectDepartments ref
  meetingRooms := effect.meetingRooms ref
  meetingSubjects := effect.meetingSubjects ref
  enrollmentStudents := effect.enrollmentStudents ref
  enrollmentSubjects := effect.enrollmentSubjects ref

end Kept

/-- No operation stores a number of a subject that is out of range. -/
theorem Effect.subjectNumbers (effect : Effect stamp db operation changed)
    (range : ∀ row ∈ db.subjects, row.InRange) : ∀ row ∈ changed.subjects, row.InRange := by
  cases effect with
  -- Numbers are not touched when references are cleared.
  | departmentDeleted | professorDeleted => exact forall_mem_change range fun _ => id
  | subjectAdded seats =>
    exact forall_mem_add range (fun _ => id) (SubjectRow.inRange_ofSubject seats)
  -- The row that is replaced was in range, and the table has checked the new one.
  | subjectUpdated found isIt sound =>
    exact forall_mem_replace range (fun _ => id)
      (SubjectRow.inRange_patched (range _ found) sound)
  | subjectDeleted => exact forall_mem_remove range fun _ _ => id
  | _ => exact range

/-- No operation stores a time of a meeting that is out of range. -/
theorem Effect.meetingTimes (effect : Effect stamp db operation changed)
    (range : ∀ row ∈ db.meetings, row.InRange) : ∀ row ∈ changed.meetings, row.InRange := by
  cases effect with
  -- Nor are times when a room is taken off a meeting.
  | roomDeleted => exact forall_mem_change range fun _ => id
  | subjectDeleted | meetingRemoved => exact forall_mem_remove range fun _ _ => id
  -- Only a time that was accepted is stored.
  | meetingAdded accepted =>
    exact forall_mem_add range (fun _ => id)
      (MeetingRow.inRange_ofMeeting (NewMeeting.isStorable_of_timeRange accepted _ _ _))
  | _ => exact range

end Effects

namespace Database

/-- Nothing is wrong with empty tables. -/
theorem wellFormed_empty : empty.WellFormed where
  -- No row is there to come twice, to point at anything or to hold a number.
  unique := by constructor <;> exact List.nodup_nil
  referential := by constructor <;> exact List.forall_mem_nil _
  subjectNumbers := List.forall_mem_nil _
  meetingTimes := List.forall_mem_nil _

/-- What an operation does to well-formed tables leaves them well-formed. -/
theorem WellFormed.effect {stamp : Stamp} {db changed : Database} {operation : Operation}
    (wellFormed : db.WellFormed) (effect : Effect stamp db operation changed) :
    changed.WellFormed where
  unique := effect.unique wellFormed.unique
  referential := effect.referential wellFormed.referential
  subjectNumbers := effect.subjectNumbers wellFormed.subjectNumbers
  meetingTimes := effect.meetingTimes wellFormed.meetingTimes

/--
Every operation keeps tables well-formed, whatever it is given.
With that, every run leads from empty tables through well-formed ones only.
-/
theorem wellFormed_throughout :
    (∀ (stamp : Stamp) (operation : Operation) (db : Database),
      db.WellFormed → (operation.step stamp db).2.WellFormed) ∧
    ∀ run : List Transaction, ∀ db ∈ empty.states run, db.WellFormed := by
  have kept (stamp : Stamp) (operation : Operation) (db : Database)
      (wellFormed : db.WellFormed) : (operation.step stamp db).2.WellFormed :=
    wellFormed.effect (operation.step_effect stamp db)
  refine ⟨kept, fun run => ?_⟩
  -- Nothing is asked of the transactions.
  have admitted : empty.Throughout (fun _ _ => True) run :=
    throughout_of_forall (fun _ _ _ => trivial) empty
  exact invariant_of_kept (fun db transaction _ => kept transaction.stamp transaction.operation db)
    wellFormed_empty admitted

/-- The sample ends in well-formed tables in which a student holds two seats. -/
theorem wellFormed_sample :
    (empty.after sampleRun).WellFormed ∧ (empty.after sampleRun).enrollments.length = 2 :=
  ⟨wellFormed_throughout.2 sampleRun _ (after_mem_states empty sampleRun), by decide +kernel⟩

end Database

end CourseRegistry
