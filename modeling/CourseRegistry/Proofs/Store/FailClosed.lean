import CourseRegistry.Proofs.Schedule
import CourseRegistry.Proofs.Store.Decoding
import CourseRegistry.Proofs.Store.Reads
import CourseRegistry.Proofs.Store.Run

/-!
Seats are given on sound data only.
Whatever the tables hold, a seat is stored exactly where all that speaks for it could be read, and
where something could not be read, the request fails and changes nothing.
-/

namespace CourseRegistry

namespace Database

/-- A meeting is one of a subject that the student has a seat in. -/
def Attends (db : Database) (studentId : Uuid) (meeting : MeetingRow) : Prop :=
  ∃ seat ∈ db.enrollments, seat.isOf studentId = true ∧ seat.subjectId ≠ .null ∧
    meeting.subjectId = seat.subjectId

/-- Whether a student attends a meeting can be found out by looking at all seats. -/
instance (db : Database) (studentId : Uuid) (meeting : MeetingRow) :
    Decidable (db.Attends studentId meeting) :=
  inferInstanceAs (Decidable (∃ seat ∈ db.enrollments, _ ∧ _))

/-- What is stored of a student and a subject means something, as far as a decision looks at it. -/
structure DecodesFor (db : Database) (studentId subjectId : Uuid) (policy : AdmissionPolicy) :
    Prop where
  /-- The number of seats is a count. -/
  capacity : ∀ row, db.subjects.find? (·.subjectId == .ofId subjectId) = some row →
    ∃ capacity, row.capacity.readCount = .ok capacity
  /-- The meetings of the subject are meetings. -/
  wanted : ∀ meeting ∈ db.meetings, meeting.subjectId = .ofId subjectId →
    ∃ slot, meeting.decode = .ok slot
  /-- Where the timetable counts, so are those that the student attends. -/
  attended : policy.checkTimeConflicts = true → ∀ meeting ∈ db.meetings,
    db.Attends studentId meeting → ∃ slot, meeting.decode = .ok slot

/-- Everything that speaks for giving a student a seat in a subject. -/
structure Admits (db : Database) (studentId subjectId : Uuid) (policy : AdmissionPolicy) :
    Prop where
  decodes : db.DecodesFor studentId subjectId policy
  notHeld : ∀ seat ∈ db.enrollments, seat.isOf studentId = true → seat.subjectId ≠ .ofId subjectId
  /-- The subject is stored, with more seats than there are rows that take one. -/
  room : ∃ row, db.subjects.find? (·.subjectId == .ofId subjectId) = some row ∧
    ∃ capacity, row.capacity.readCount = .ok capacity ∧
      db.seatsTaken (.ofId subjectId) < capacity.toNat
  /-- Where the timetable counts, no meeting of the subject is during one that is attended. -/
  noClash : policy.checkTimeConflicts = true →
    ∀ wanted ∈ db.meetings, wanted.subjectId = .ofId subjectId → ∀ slot, wanted.decode = .ok slot →
      ∀ attended ∈ db.meetings, db.Attends studentId attended →
        ∀ other, attended.decode = .ok other → slot.clashesWith other = false

section Decision

variable {db : Database} {studentId subjectId : Uuid} {policy : AdmissionPolicy}
  {snapshot : AdmissionSnapshot}

/-- The meetings that are read for a student are those that the student attends. -/
theorem mem_heldMeetings_iff_attends {meeting : MeetingRow} :
    meeting ∈ db.heldMeetings studentId ↔ meeting ∈ db.meetings ∧ db.Attends studentId meeting := by
  -- A meeting is held where some seat is in its subject.
  rw [mem_heldMeetings]
  constructor
  · rintro ⟨seat, seat_mem, isOf, notNull, of_seat⟩
    obtain ⟨member, same⟩ := mem_meetingsOf.mp of_seat
    exact ⟨member, seat, seat_mem, isOf, notNull, same⟩
  · rintro ⟨member, seat, seat_mem, isOf, notNull, same⟩
    exact ⟨seat, seat_mem, isOf, notNull, mem_meetingsOf.mpr ⟨member, same⟩⟩

/-- Where a seat is asked for that is not held, all that is looked at of a subject was read. -/
theorem decodesFor_of_snapshot (read : db.snapshot studentId subjectId policy = .ok snapshot)
    (notHeld : db.holdsSeat studentId subjectId = false) {row : SubjectRow}
    (found : db.subjects.find? (·.subjectId == .ofId subjectId) = some row) :
    db.DecodesFor studentId subjectId policy := by
  obtain ⟨capacity, -, schedule, held, capacity_eq, -, schedule_eq, held_eq, -⟩ :=
    reads_of_snapshot read notHeld found
  refine ⟨?_, ?_, ?_⟩
  · -- The number of seats was read of the one row that is found.
    intro other same
    rw [found, Option.some.injEq] at same
    subst same
    exact ⟨capacity, capacity_eq⟩
  · -- A schedule was read, and with it each of its meetings.
    intro meeting member wanted
    obtain ⟨slot, -, decoded⟩ := exists_of_mapM schedule_eq (mem_meetingsOf.mpr ⟨member, wanted⟩)
    exact ⟨slot, decoded⟩
  · intro check meeting member attends
    -- What a student attends was looked at because the timetable counts.
    rw [if_pos check] at held_eq
    obtain ⟨slot, -, decoded⟩ :=
      exists_of_mapM held_eq (mem_heldMeetings_iff_attends.mpr ⟨member, attends⟩)
    exact ⟨slot, decoded⟩

/-- A seat that is granted is one that everything speaks for. -/
theorem Grants.admits (grants : db.Grants studentId subjectId policy)
    (decodes : db.DecodesFor studentId subjectId policy) :
    db.Admits studentId subjectId policy := by
  refine ⟨decodes, ?_, ?_, ?_⟩
  · -- A row of the pair would be a seat that is held.
    intro seat seat_mem isOf isIn
    have held : db.holdsSeat studentId subjectId = true :=
      holdsSeat_iff.mpr ⟨seat, seat_mem, isOf, isIn⟩
    rw [grants.notHeld] at held
    cases held
  · obtain ⟨row, found, free⟩ := grants.room
    -- The seats of the row are the count that its capacity reads as.
    obtain ⟨capacity, capacity_eq⟩ := decodes.capacity row found
    rw [SubjectRow.seats_of_capacity (Cell.readCount_eq_ok capacity_eq)] at free
    exact ⟨row, found, capacity, capacity_eq, free⟩
  · intro check wanted wanted_mem key slot slot_decoded attended attended_mem attends other
      other_decoded
    obtain ⟨schedule, held, schedule_eq, held_eq, none_found⟩ := grants.noClash check
    -- Both meetings are in the lists that were compared.
    have slot_mem : slot ∈ schedule := (mem_of_mapM_eq_ok schedule_eq).mpr
      ⟨wanted, mem_meetingsOf.mpr ⟨wanted_mem, key⟩, slot_decoded⟩
    have other_mem : other ∈ held := (mem_of_mapM_eq_ok held_eq).mpr
      ⟨attended, mem_heldMeetings_iff_attends.mpr ⟨attended_mem, attends⟩, other_decoded⟩
    exact firstClash?_eq_none.mp none_found other other_mem slot slot_mem

/-- Meetings of which none clashes with another are found not to clash. -/
theorem Admits.firstClash?_eq_none (admits : db.Admits studentId subjectId policy)
    (check : policy.checkTimeConflicts = true) {schedule held : List MeetingSlot}
    (schedule_eq : (db.meetingsOf (.ofId subjectId)).mapM MeetingRow.decode = .ok schedule)
    (held_eq : (db.heldMeetings studentId).mapM MeetingRow.decode = .ok held) :
    firstClash? held schedule = none := by
  rw [CourseRegistry.firstClash?_eq_none]
  intro other other_mem slot slot_mem
  -- Both were read from rows, and the rows are meetings of the subject and of the student.
  obtain ⟨attended, attended_mem, other_decoded⟩ := (mem_of_mapM_eq_ok held_eq).mp other_mem
  obtain ⟨wanted, wanted_mem, slot_decoded⟩ := (mem_of_mapM_eq_ok schedule_eq).mp slot_mem
  obtain ⟨attended_mem, attends⟩ := mem_heldMeetings_iff_attends.mp attended_mem
  obtain ⟨wanted_mem, key⟩ := mem_meetingsOf.mp wanted_mem
  exact admits.noClash check wanted wanted_mem key slot slot_decoded attended attended_mem attends
    other other_decoded

/-- Where everything speaks for a seat, all of it is read, and the decision is for it. -/
theorem Admits.exists_snapshot (admits : db.Admits studentId subjectId policy) :
    ∃ snapshot, db.snapshot studentId subjectId policy = .ok snapshot ∧
      decideAdmission policy snapshot = .grant := by
  obtain ⟨row, found, capacity, capacity_eq, free⟩ := admits.room
  -- A seat that is held would have a row, and none speaks for one.
  have notHeld : db.holdsSeat studentId subjectId = false := by
    rw [Bool.eq_false_iff]
    intro held
    obtain ⟨seat, seat_mem, isOf, isIn⟩ := holdsSeat_iff.mp held
    exact admits.notHeld seat seat_mem isOf isIn
  -- Fewer seats are taken than a count can say, so that they can be counted.
  have fits := Nat.lt_trans free capacity.toNat_lt_size
  have more : ¬ capacity ≤ UInt32.ofNat (db.seatsTaken (.ofId subjectId)) := by
    rw [UInt32.le_iff_toNat_le, UInt32.toNat_ofNat_of_lt' fits]
    omega
  -- Each meeting of the subject reads as one, and so does each that is attended.
  obtain ⟨schedule, schedule_eq⟩ := mapM_eq_ok fun row member => by
    obtain ⟨stored, key⟩ := mem_meetingsOf.mp member
    exact admits.decodes.wanted row stored key
  have attended : ∀ row ∈ (if policy.checkTimeConflicts then db.heldMeetings studentId else []),
      ∃ slot, row.decode = .ok slot := by
    intro row member
    split at member
    · next check =>
      obtain ⟨stored, attends⟩ := mem_heldMeetings_iff_attends.mp member
      exact admits.decodes.attended check row stored attends
    · cases member
  obtain ⟨held, held_eq⟩ := mapM_eq_ok attended
  have read := snapshot_of_reads notHeld found capacity_eq (Cell.countOf_natCast fits) schedule_eq
    held_eq
  refine ⟨_, read, ?_⟩
  -- None of the three reasons to refuse applies.
  rw [decideAdmission, if_neg Bool.false_ne_true]
  dsimp only
  rw [if_neg more]
  split
  · next check =>
    rw [if_pos check] at held_eq
    rw [admits.firstClash?_eq_none check schedule_eq held_eq]
  · -- The timetable is not looked at.
    rfl

end Decision

section Requests

variable (stamp : Stamp) (db : Database) (studentId subjectId : Uuid) (policy : AdmissionPolicy)

/-- A request is only answered where all that it depends on was read. -/
theorem exists_snapshot_of_grantSeat {outcome : EnrollOutcome}
    (answered : (grantSeat stamp studentId subjectId policy db).1 = .ok outcome) :
    ∃ snapshot, db.snapshot studentId subjectId policy = .ok snapshot := by
  -- An error of the reads would have been the answer.
  cases read : db.snapshot studentId subjectId policy with
  | error error =>
    rw [grantSeat, read] at answered
    cases answered
  | ok snapshot => exact ⟨snapshot, rfl⟩

/-- A request for a seat that is answered found all data sound that it had to look at. -/
theorem decodesFor_of_grantSeat {outcome : EnrollOutcome}
    (answered : (grantSeat stamp studentId subjectId policy db).1 = .ok outcome)
    (notHeld : db.holdsSeat studentId subjectId = false)
    (exists_ : db.has .subject subjectId = true) : db.DecodesFor studentId subjectId policy := by
  obtain ⟨snapshot, read⟩ :=
    exists_snapshot_of_grantSeat stamp db studentId subjectId policy answered
  obtain ⟨row, found⟩ := has_subject_iff.mp exists_
  exact decodesFor_of_snapshot read notHeld found

/-- A request for a seat that fails changes nothing. -/
theorem grantSeat_unchanged_of_error {error : StoreError}
    (failed : (grantSeat stamp studentId subjectId policy db).1 = .error error) :
    (grantSeat stamp studentId subjectId policy db).2 = db := by
  rcases grantSeat_cases stamp db studentId subjectId policy with
    ⟨-, -, -, granted⟩ | ⟨-, same⟩
  · -- Where a seat was stored, the seat was the answer.
    rw [granted] at failed
    cases failed
  · -- Where no seat was stored, nothing was.
    exact same

/-- A seat that everything speaks for is stored for a student who exists, with a new identifier. -/
theorem Admits.grantSeat_eq {stamp : Stamp} {db : Database} {studentId subjectId : Uuid}
    {policy : AdmissionPolicy} (admits : db.Admits studentId subjectId policy)
    (newId : ∀ other ∈ db.enrollments, other.enrollmentId ≠ .ofId stamp.id)
    (student : db.has .student studentId = true) :
    grantSeat stamp studentId subjectId policy db =
      (.ok (.enrolled ⟨stamp.id, studentId, subjectId, stamp.now⟩), { db with
        enrollments :=
          db.enrollments ++ [.ofEnrollment ⟨stamp.id, studentId, subjectId, stamp.now⟩] }) := by
  -- The decision is for the seat, its identifier is new and its student exists.
  obtain ⟨snapshot, read, granted⟩ := admits.exists_snapshot
  have free : ¬ db.enrollments.any (·.enrollmentId == .ofId stamp.id) = true := by
    simpa using newId
  unfold grantSeat
  rw [read]
  dsimp only
  rw [granted]
  exact (if_neg free).trans (if_pos student)

/--
On any tables, damaged ones included, a request for a seat changes nothing or stores that one seat.
It is stored exactly where everything speaks for it, the student exists and the identifier is new.
Where the subject exists and the seat is not held, data that cannot be read is an error, and nothing
changes.
-/
theorem grantSeat_failsClosed :
    let answer := grantSeat stamp studentId subjectId policy db
    let seat : Enrollment := ⟨stamp.id, studentId, subjectId, stamp.now⟩
    let stored := { db with enrollments := db.enrollments ++ [.ofEnrollment seat] }
    (answer.2 = db ∨
      db.Admits studentId subjectId policy ∧ answer = (.ok (.enrolled seat), stored)) ∧
    (db.Admits studentId subjectId policy → db.has .student studentId = true →
      (∀ other ∈ db.enrollments, other.enrollmentId ≠ .ofId stamp.id) →
        answer = (.ok (.enrolled seat), stored)) ∧
    (db.holdsSeat studentId subjectId = false → db.has .subject subjectId = true →
      ¬ db.DecodesFor studentId subjectId policy →
        (∃ error, answer.1 = .error error) ∧ answer.2 = db) := by
  intro answer seat stored
  -- Whatever is answered, all that was looked at was read before.
  have decodes : ∀ outcome, answer.1 = .ok outcome → db.holdsSeat studentId subjectId = false →
      db.has .subject subjectId = true → db.DecodesFor studentId subjectId policy :=
    fun _ answered => decodesFor_of_grantSeat stamp db studentId subjectId policy answered
  refine ⟨?_, fun admits student newId => admits.grantSeat_eq newId student, ?_⟩
  · rcases grantSeat_cases stamp db studentId subjectId policy with
      ⟨grants, -, -, granted⟩ | ⟨-, same⟩
    · -- A seat that was given is one that everything speaks for.
      have answered : answer.1 = .ok (.enrolled seat) := congrArg Prod.fst granted
      have exists_ : db.has .subject subjectId = true := by
        obtain ⟨row, found, -⟩ := grants.room
        exact has_subject_iff.mpr ⟨row, found⟩
      exact Or.inr ⟨grants.admits (decodes _ answered grants.notHeld exists_), granted⟩
    · -- Otherwise nothing was stored.
      exact Or.inl same
  · intro notHeld exists_ damaged
    -- An answer, whichever it is, comes after everything was read.
    cases answered : answer.1 with
    | ok outcome => exact absurd (decodes outcome answered notHeld exists_) damaged
    | error error =>
      have same := grantSeat_unchanged_of_error stamp db studentId subjectId policy answered
      exact ⟨⟨error, rfl⟩, same⟩

end Requests

section Sample

/--
A student with a seat in one subject, and another subject, which has no meetings.
The meeting of the first one was moved to an eighth day since.
-/
def damagedSample : Database :=
  let db := empty.after [
    ⟨.ofDigit 1, .addStudent ⟨"1", "Ada", none, none, none⟩⟩,
    ⟨.ofDigit 2, .addSubject ⟨"Logic", 3, 2, "Spring", none, none⟩⟩,
    ⟨.ofDigit 3, .addMeeting (.ofDigit 2) ⟨.monday, .ofHour 9, .ofHour 10, none⟩⟩,
    ⟨.ofDigit 4, .grantSeat (.ofDigit 1) (.ofDigit 2) .standard⟩,
    ⟨.ofDigit 5, .addSubject ⟨"Geometry", 3, 2, "Spring", none, none⟩⟩]
  { db with meetings := db.meetings.map fun row => { row with weekday := .integer 7 } }

/--
There, the student gets no other seat while the timetable counts, since it cannot be read.
Where it does not count, nothing that is looked at is damaged, and the seat is stored.
-/
theorem grantSeat_failsClosed_sample :
    let answer := grantSeat (.ofDigit 6) (.ofDigit 1) (.ofDigit 5) .standard damagedSample
    ¬ damagedSample.DecodesFor (.ofDigit 1) (.ofDigit 5) .standard ∧
      (∃ error, answer.1 = .error error) ∧ answer.2 = damagedSample ∧
      damagedSample.Admits (.ofDigit 1) (.ofDigit 5) .capacityOnly := by
  intro answer
  -- The tables are only computed once.
  have ⟨attended, notHeld, exists_, stored⟩ :
      (∃ meeting ∈ damagedSample.meetings, damagedSample.Attends (.ofDigit 1) meeting ∧
        meeting.decode = .error (.undecodable (.weekday 7))) ∧
      damagedSample.holdsSeat (.ofDigit 1) (.ofDigit 5) = false ∧
      damagedSample.has .subject (.ofDigit 5) = true ∧
      (grantSeat (.ofDigit 6) (.ofDigit 1) (.ofDigit 5) .capacityOnly damagedSample).2 ≠
        damagedSample := by decide +kernel
  have damaged : ¬ damagedSample.DecodesFor (.ofDigit 1) (.ofDigit 5) .standard := by
    intro decodes
    -- The student attends a meeting on a day that there is not.
    obtain ⟨meeting, member, attends, failed⟩ := attended
    obtain ⟨slot, decoded⟩ := decodes.attended rfl meeting member attends
    rw [failed] at decoded
    cases decoded
  -- The one request closes on the damaged meeting, and the other one never looks at it.
  have closed := (grantSeat_failsClosed (.ofDigit 6) damagedSample (.ofDigit 1) (.ofDigit 5)
    .standard).2.2 notHeld exists_ damaged
  have sound := (grantSeat_failsClosed (.ofDigit 6) damagedSample (.ofDigit 1) (.ofDigit 5)
    .capacityOnly).1.resolve_left stored
  exact ⟨damaged, closed.1, closed.2, sound.1⟩

end Sample

end Database

end CourseRegistry
