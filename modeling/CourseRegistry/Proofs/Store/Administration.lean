import CourseRegistry.Proofs.Store.Decoding
import CourseRegistry.Proofs.Store.Hashes
import CourseRegistry.Proofs.Store.Seats
import Mathlib.Data.List.Find

/-!
Looking after the catalog does not change who gets in.
Requests for seats are answered alike before and after departments, professors and rooms come and
go, students and subjects are added, and records are changed in all but the number of seats.
-/

namespace CourseRegistry

open Database

/-- The operation looks after the catalog, and sets the number of seats of no subject. -/
def Operation.administersCatalog : Operation → Bool
  | addDepartment _ | updateDepartment .. | deleteDepartment _ => true
  | addProfessor _ | updateProfessor .. | deleteProfessor _ => true
  | addRoom _ | updateRoom .. | deleteRoom _ => true
  | addStudent _ | updateStudent .. | addSubject _ => true
  -- A subject may be changed in everything else.
  | updateSubject _ patch => patch.capacity.isNone
  | _ => false

section Rooms

/-- A meeting without the room that it is held in. -/
def MeetingSlot.withoutRoom (slot : MeetingSlot) : MeetingSlot := { slot with roomId := none }

/-- What a decision depends on, without the rooms of the meetings. -/
def AdmissionSnapshot.withoutRooms (snapshot : AdmissionSnapshot) : AdmissionSnapshot where
  alreadyEnrolled := snapshot.alreadyEnrolled
  subject := snapshot.subject.map fun seats =>
    { seats with schedule := seats.schedule.map MeetingSlot.withoutRoom }
  held := snapshot.held.map MeetingSlot.withoutRoom

/-- The search for a clash looks at days and times only, wherever the meetings are. -/
theorem firstClash?_withoutRoom (held wanted : List MeetingSlot) :
    firstClash? (held.map MeetingSlot.withoutRoom) (wanted.map MeetingSlot.withoutRoom) =
      (firstClash? held wanted).map MeetingSlot.withoutRoom := by
  -- Two meetings clash by their days and times, which are still there without the rooms.
  have alike : (fun slot => (wanted.map MeetingSlot.withoutRoom).any (·.clashesWith slot)) ∘
      MeetingSlot.withoutRoom = fun slot => wanted.any (·.clashesWith slot) := by
    funext slot
    show (wanted.map MeetingSlot.withoutRoom).any (·.clashesWith slot.withoutRoom) = _
    rw [List.any_map]
    rfl
  rw [firstClash?, List.find?_map, alike, firstClash?]

/-- A decision is the same without the rooms. -/
theorem decideAdmission_withoutRooms (policy : AdmissionPolicy) (snapshot : AdmissionSnapshot) :
    decideAdmission policy snapshot.withoutRooms = decideAdmission policy snapshot := by
  -- The two parts with meetings are the subject that is asked for and what is held.
  obtain ⟨alreadyEnrolled, subject, held⟩ := snapshot
  cases subject with
  | none => rfl
  | some seats =>
    simp only [AdmissionSnapshot.withoutRooms, Option.map_some, decideAdmission,
      firstClash?_withoutRoom]
    -- A clash that is found names the same subject.
    cases firstClash? held seats.schedule with
    | none => rfl
    | some slot => rfl

/-- The rows of meetings are changed in their rooms, and in nothing else that is read. -/
structure MeetingRow.Moves (move : MeetingRow → MeetingRow) : Prop where
  subjectId : ∀ row, (move row).subjectId = row.subjectId
  weekday : ∀ row, (move row).weekday = row.weekday
  startSecond : ∀ row, (move row).startSecond = row.startSecond
  /-- What can be read of a row can be read of the changed one. -/
  shape : ∀ row, (move row).isReadable = row.isReadable
  slot : ∀ row, MeetingSlot.withoutRoom <$> (move row).decode =
    MeetingSlot.withoutRoom <$> row.decode

/-- Nothing is moved where all rows stay as they are. -/
theorem MeetingRow.moves_id : Moves id :=
  ⟨fun _ => rfl, fun _ => rfl, fun _ => rfl, fun _ => rfl, fun _ => rfl⟩

/-- Meetings that lose a room go on without it. -/
theorem MeetingRow.moves_withoutId (id : Uuid) :
    Moves fun row => { row with roomId := row.roomId.withoutId id } where
  subjectId _ := rfl
  weekday _ := rfl
  startSecond _ := rfl
  shape row := by
    by_cases held : row.roomId = .ofId id
    · -- Both the identifier of a room and nothing may stand in that column.
      simp [isReadable, Cell.withoutId, held, Cell.isTextOrNull, Cell.ofId]
    · -- A row that names another room is not touched at all.
      simp [Cell.withoutId, held]
  slot row := by
    by_cases held : row.roomId = .ofId id
    · -- The room is read last, so that whatever fails before it fails either way.
      have without : Cell.readOption Cell.readId (Cell.null.withoutId id) = .ok none := rfl
      have within : (Cell.ofId id).readOption Cell.readId = .ok (some id) :=
        Cell.readOption_ofOption_ofId (some id)
      have gone : (Cell.ofId id).withoutId id = .null := if_pos (beq_self_eq_true _)
      simp only [decode, held, gone, within, map_bind, ok_bind]
      rfl
    · -- Nor is it here, so that it reads as before.
      simp [Cell.withoutId, held]

end Rooms

section Rows

variable {ρ β : Type} {rows : List ρ}

/-- What is shown of a row that is found is the same after a change that the search overlooks. -/
theorem find?_map_shown {isIt : ρ → Bool} {change : ρ → ρ} {shown : ρ → β}
    (kept : ∀ row ∈ rows, isIt (change row) = isIt row)
    (alike : ∀ row ∈ rows, isIt row = true → shown (change row) = shown row) :
    ((rows.map change).find? isIt).map shown = (rows.find? isIt).map shown := by
  -- The change is overlooked, so that the same row is found.
  have same : rows.find? (isIt ∘ change) = rows.find? isIt := List.find?_congr kept
  rw [List.find?_map, same]
  cases found : rows.find? isIt with
  | none => rfl
  | some row =>
    have member := List.mem_of_find?_eq_some found
    have isFound := List.find?_some found
    exact congrArg some (alike row member isFound)

end Rows

namespace Database

variable {studentId subjectId : Uuid} {db other : Database}

/-- Two databases hold the same of what a decision on a seat in a subject looks at. -/
structure SameForAdmission (studentId subjectId : Uuid) (db other : Database) : Prop where
  /-- The student exists in both or in neither. -/
  known : other.has .student studentId = db.has .student studentId
  /-- The subject has the same number of seats, or exists in neither. -/
  seats : (other.subjects.find? (·.subjectId == .ofId subjectId)).map (·.capacity) =
    (db.subjects.find? (·.subjectId == .ofId subjectId)).map (·.capacity)
  /-- The same meetings are on at the same times, in whichever rooms. -/
  meetings : ∃ move, MeetingRow.Moves move ∧ other.meetings = db.meetings.map move
  enrollments : other.enrollments = db.enrollments

/-- The schedule of a subject is moved with the meetings. -/
theorem meetingsOf_moved {move : MeetingRow → MeetingRow} (moves : MeetingRow.Moves move)
    (moved : other.meetings = db.meetings.map move) (cell : Cell) :
    other.meetingsOf cell = (db.meetingsOf cell).map move := by
  have kept : (fun row : MeetingRow => row.subjectId == cell) ∘ move =
      fun row => row.subjectId == cell := by
    funext row
    show ((move row).subjectId == cell) = _
    rw [moves.subjectId]
  -- The meetings come in the same order, since their days and starts are the same.
  rw [meetingsOf, moved, List.filter_map, kept, meetingsOf]
  exact Cell.sortOn_map move (fun row => by rw [moves.weekday, moves.startSecond]) _

/-- So are the meetings that a student holds. -/
theorem heldMeetings_moved {move : MeetingRow → MeetingRow} (moves : MeetingRow.Moves move)
    (moved : other.meetings = db.meetings.map move) (seats : other.enrollments = db.enrollments)
    (studentId : Uuid) :
    other.heldMeetings studentId = (db.heldMeetings studentId).map move := by
  -- The meetings are gone through seat by seat.
  rw [heldMeetings, heldMeetings, seats, moved, List.map_flatMap]
  congr 1
  funext seat
  rw [List.filter_map]
  congr 2
  funext row
  show ((move row).subjectId == _ && _) = _
  rw [moves.subjectId]

/-- Meetings that are moved read alike but for their rooms. -/
theorem mapM_moved {move : MeetingRow → MeetingRow} (moves : MeetingRow.Moves move)
    (rows : List MeetingRow) :
    List.map MeetingSlot.withoutRoom <$> (rows.map move).mapM MeetingRow.decode =
      List.map MeetingSlot.withoutRoom <$> rows.mapM MeetingRow.decode := by
  -- Row by row, what is read differs in the room only.
  rw [List.mapM_map]
  exact map_mapM_congr fun row _ => moves.slot row

/-- Leaving out the rooms of what is read is leaving them out of both lists of meetings. -/
theorem withoutRooms_read (capacity enrolled : Except StoreError UInt32)
    (schedule held : Except StoreError (List MeetingSlot)) :
    (AdmissionSnapshot.withoutRooms <$> do
      let capacity ← capacity
      let enrolled ← enrolled
      let schedule ← schedule
      let held ← held
      return ⟨false, some ⟨capacity, enrolled, schedule⟩, held⟩) =
    (do
      let capacity ← capacity
      let enrolled ← enrolled
      let schedule ← List.map MeetingSlot.withoutRoom <$> schedule
      let held ← List.map MeetingSlot.withoutRoom <$> held
      return ⟨false, some ⟨capacity, enrolled, schedule⟩, held⟩) := by
  -- The four reads come one after the other, and the first error of them is the result.
  cases capacity with
  | error => rfl
  | ok =>
    cases enrolled with
    | error => rfl
    | ok =>
      cases schedule with
      | error => rfl
      | ok => cases held <;> rfl

namespace SameForAdmission

variable (same : SameForAdmission studentId subjectId db other)

include same

/-- What a decision depends on is read alike but for the rooms. -/
theorem snapshot (policy : AdmissionPolicy) :
    AdmissionSnapshot.withoutRooms <$> other.snapshot studentId subjectId policy =
      AdmissionSnapshot.withoutRooms <$> db.snapshot studentId subjectId policy := by
  obtain ⟨move, moves, moved⟩ := same.meetings
  -- Of seats the two databases have the same rows.
  have holds : other.holdsSeat studentId subjectId = db.holdsSeat studentId subjectId := by
    rw [holdsSeat, holdsSeat, same.enrollments]
  have taken : other.seatsTaken (.ofId subjectId) = db.seatsTaken (.ofId subjectId) := by
    rw [seatsTaken, seatsTaken, same.enrollments]
  have seats := same.seats
  have shape : MeetingRow.isReadable ∘ move = MeetingRow.isReadable := funext moves.shape
  unfold Database.snapshot
  rw [holds]
  split
  · -- A seat that is held is all that was looked at.
    rfl
  · cases found : db.subjects.find? (·.subjectId == .ofId subjectId) with
    | none =>
      -- Where the subject does not exist, it does not exist in the other tables either.
      rw [found, Option.map_none, Option.map_eq_none_iff] at seats
      rw [seats]
    | some row =>
      rw [found, Option.map_some, Option.map_eq_some_iff] at seats
      obtain ⟨otherRow, otherFound, capacity⟩ := seats
      -- The meetings that are held are only looked at where the timetable counts.
      have held : (if policy.checkTimeConflicts then other.heldMeetings studentId else []) =
          (if policy.checkTimeConflicts then db.heldMeetings studentId else []).map move := by
        split
        · -- Whatever is held was moved with the other meetings.
          exact heldMeetings_moved moves moved same.enrollments studentId
        · rfl
      rw [otherFound]
      dsimp only
      rw [meetingsOf_moved moves moved, held, ← List.map_append, List.all_map, shape, capacity,
        taken]
      generalize (if policy.checkTimeConflicts then db.heldMeetings studentId else []) = rows
      split
      · -- The shapes are right, and all four reads are alike.
        rw [withoutRooms_read, mapM_moved moves, mapM_moved moves, withoutRooms_read]
      · -- A wrong shape on one side is one on the other.
        rfl

/-- A request for a seat is answered alike. -/
theorem grantSeat (stamp : Stamp) (policy : AdmissionPolicy) :
    (Database.grantSeat stamp studentId subjectId policy other).1 =
      (Database.grantSeat stamp studentId subjectId policy db).1 := by
  have alike := same.snapshot policy
  unfold Database.grantSeat
  rw [same.enrollments, same.known]
  cases read : db.snapshot studentId subjectId policy with
  | error error =>
    -- Of the two reads none succeeds where the other one fails, and their errors are the same.
    cases otherRead : other.snapshot studentId subjectId policy with
    | error otherError =>
      rw [read, otherRead] at alike
      exact congrArg Except.error (Except.error.inj alike)
    | ok => rw [read, otherRead] at alike; cases alike
  | ok snapshot =>
    cases otherRead : other.snapshot studentId subjectId policy with
    | error => rw [read, otherRead] at alike; cases alike
    | ok otherSnapshot =>
      rw [read, otherRead, map_ok, map_ok, Except.ok.injEq] at alike
      -- The decision is the one that is made without the rooms.
      have decided : decideAdmission policy otherSnapshot = decideAdmission policy snapshot := by
        rw [← decideAdmission_withoutRooms, alike, decideAdmission_withoutRooms]
      dsimp only
      rw [decided]
      cases decideAdmission policy snapshot with
      -- A refusal stores nothing, and a grant looks at the same rows once more.
      | reject outcome => rfl
      | grant =>
        dsimp only
        split
        · rfl
        · split <;> rfl

end SameForAdmission

end Database

/-- No student is deleted by looking after the catalog. -/
theorem Operation.deleted?_ne_student {operation : Operation}
    (administers : operation.administersCatalog = true) (id : Uuid) :
    operation.deleted? ≠ some (.student, id) := by
  intro deleted
  cases operation with
  | deleteStudent => cases administers
  -- All others delete nothing, or a row of another kind.
  | _ => cases deleted

section Effects

variable {stamp : Stamp} {db changed : Database} {operation : Operation}
  {studentId subjectId : Uuid}

/-- What is done to the catalog leaves alone what a decision on a seat looks at. -/
theorem Effect.sameForAdmission (effect : Effect stamp db operation changed)
    (administers : operation.administersCatalog = true) (keys : (db.keys .subject).Nodup)
    (student : db.has .student studentId = true) (subject : db.has .subject subjectId = true) :
    SameForAdmission studentId subjectId db changed := by
  have known : changed.has .student studentId = db.has .student studentId := by
    -- No student is deleted, so the student is still there.
    rw [student]
    exact effect.hasKey .student nofun
      (fun id deleted => absurd deleted (Operation.deleted?_ne_student administers id)) student
  have unmoved : ∃ move, MeetingRow.Moves move ∧ db.meetings = db.meetings.map move :=
    ⟨id, MeetingRow.moves_id, (List.map_id _).symm⟩
  cases effect with
  | nothing | departmentAdded | departmentUpdated | professorAdded | professorUpdated | roomAdded
  | roomUpdated | studentAdded | studentUpdated => exact ⟨known, rfl, unmoved, rfl⟩
  | departmentDeleted | professorDeleted =>
    -- A subject that loses its department or its professor keeps its seats.
    exact ⟨known, find?_map_shown (fun _ _ => rfl) fun _ _ _ => rfl, unmoved, rfl⟩
  | @roomDeleted room =>
    -- Meetings that were held in the room go on without it.
    exact ⟨known, rfl, ⟨_, MeetingRow.moves_withoutId room, rfl⟩, rfl⟩
  | subjectAdded =>
    -- The subject that is asked for is there already, in front of the new one.
    obtain ⟨row, found⟩ := has_subject_iff.mp subject
    refine ⟨known, ?_, unmoved, rfl⟩
    rw [List.find?_append, found, Option.some_or]
  | @subjectUpdated updated patch row found isIt =>
    -- The number of seats is no part of the patch.
    have unset : patch.capacity = none := Option.isNone_iff_eq_none.mp administers
    have kept : (patched patch row).capacity = row.capacity := by
      show (patch.capacity.map Cell.ofCount).getD row.capacity = row.capacity
      rw [unset]
      rfl
    refine ⟨known, find?_map_shown ?_ ?_, unmoved, rfl⟩
    · -- The key of a row is what it was, whichever row it is.
      intro other _
      dsimp only
      split
      · next same => rw [beq_iff_eq.mp same]; exact congrArg (· == _) isIt
      · rfl
    · intro other member _
      dsimp only
      split
      · next same =>
        -- Only one row has the key of the subject that is changed.
        have isRow : row = other :=
          List.inj_on_of_nodup_map keys found member (isIt.trans (beq_iff_eq.mp same).symm)
        rw [kept, isRow]
      · rfl
  -- These deal with seats, with meetings or with what is deleted, which is not meant here.
  | studentDeleted | subjectDeleted | meetingAdded | meetingRemoved | seatGranted
  | seatReleased => cases administers

end Effects

namespace Database

variable {clock : Instant → Prop} {db : Database} {studentId subjectId : Uuid}

/--
In all that can be reached, looking after the catalog does not change who gets in.
Whatever became of the operation, a student who exists is given the same answer on a seat in a
subject that exists as before it.
-/
theorem Reachable.grantSeat_administered (reachable : db.Reachable clock)
    {transaction : Transaction} (administers : transaction.operation.administersCatalog = true)
    (student : db.has .student studentId = true) (subject : db.has .subject subjectId = true)
    (stamp : Stamp) (policy : AdmissionPolicy) :
    (grantSeat stamp studentId subjectId policy (transaction.apply db)).1 =
      (grantSeat stamp studentId subjectId policy db).1 := by
  have effect := transaction.operation.step_effect transaction.stamp db
  have keys := reachable.wellFormed.unique.subjectKeys
  exact (effect.sameForAdmission administers keys student subject).grantSeat stamp policy

/-- The sample with a subject that meets in a room, and with a newcomer who is elsewhere then. -/
def housedRun : List Transaction := sampleRun ++ [
  ⟨.ofDigit 9, .addRoom ⟨"Aula", none⟩⟩,
  ⟨.ofDigit 10, .addSubject ⟨"Geometry", 3, 2, "Spring", none, none⟩⟩,
  ⟨.ofDigit 11, .addMeeting (.ofDigit 10) ⟨.monday, .ofHour 9, .ofHour 12, some (.ofDigit 9)⟩⟩,
  ⟨.ofDigit 12, .addStudent ⟨"12", "Grace", none, none, none⟩⟩,
  ⟨.ofDigit 13, .grantSeat (.ofDigit 12) (.ofDigit 4) .standard⟩]

/-- There, the newcomer is told of the clash whether the room is kept or not. -/
theorem grantSeat_administered_sample :
    let db := empty.after housedRun
    let closure : Transaction := ⟨.ofDigit 14, .deleteRoom (.ofDigit 9)⟩
    db.Reachable Instant.InFourDigitYear ∧ closure.operation.administersCatalog = true ∧
      db.has .student (.ofDigit 12) = true ∧ db.has .subject (.ofDigit 10) = true ∧
      closure.apply db ≠ db ∧
      (grantSeat (.ofDigit 15) (.ofDigit 12) (.ofDigit 10) .standard (closure.apply db)).1 =
        (grantSeat (.ofDigit 15) (.ofDigit 12) (.ofDigit 10) .standard db).1 ∧
      (grantSeat (.ofDigit 15) (.ofDigit 12) (.ofDigit 10) .standard db).1 =
        .ok (.timeConflict (.ofDigit 4)) := by
  intro db closure
  have reachable : db.Reachable Instant.InFourDigitYear := ⟨housedRun, by decide, rfl⟩
  have administers : closure.operation.administersCatalog = true := rfl
  have ⟨student, subject, changed, clash⟩ :
      db.has .student (.ofDigit 12) = true ∧ db.has .subject (.ofDigit 10) = true ∧
      closure.apply db ≠ db ∧
      (grantSeat (.ofDigit 15) (.ofDigit 12) (.ofDigit 10) .standard db).1 =
        .ok (.timeConflict (.ofDigit 4)) := by decide +kernel
  -- The answers before and after are the same, and the one before is known.
  have alike := reachable.grantSeat_administered administers student subject (.ofDigit 15) .standard
  exact ⟨reachable, administers, student, subject, changed, alike, clash⟩

end Database

end CourseRegistry
