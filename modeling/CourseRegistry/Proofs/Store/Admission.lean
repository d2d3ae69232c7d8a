import CourseRegistry.Proofs.Schedule
import CourseRegistry.Proofs.Store.Reads

/-! A request for a seat is answered by what can be read about the student and the subject. -/

namespace CourseRegistry

/--
An entry of a timetable clashes with a schedule.
Two of their meetings are on the same day, and each starts before the other ends.
-/
def EnrollmentDetail.Clashes (detail : EnrollmentDetail) (schedule : List MeetingSlot) : Prop :=
  ∃ slot ∈ detail.schedule, ∃ wanted ∈ schedule, slot.day = wanted.day ∧
    slot.time.start < wanted.time.finish ∧ wanted.time.start < slot.time.finish

/-- Whether two of the meetings clash can be found out by comparing all of them. -/
instance (detail : EnrollmentDetail) (schedule : List MeetingSlot) :
    Decidable (detail.Clashes schedule) :=
  inferInstanceAs (Decidable (∃ slot ∈ detail.schedule, ∃ wanted ∈ schedule, _))

/-- An entry clashes with a schedule when the comparison of two of their meetings says so. -/
theorem EnrollmentDetail.clashes_iff (detail : EnrollmentDetail) {schedule : List MeetingSlot} :
    detail.Clashes schedule ↔
      ∃ slot ∈ detail.schedule, ∃ wanted ∈ schedule, wanted.clashesWith slot = true := by
  -- The comparison starts from the meeting that is wanted, which makes no difference.
  constructor
  · rintro ⟨slot, slot_mem, wanted, wanted_mem, clash⟩
    rw [← MeetingSlot.clashesWith_iff, MeetingSlot.clashesWith_comm] at clash
    exact ⟨slot, slot_mem, wanted, wanted_mem, clash⟩
  · rintro ⟨slot, slot_mem, wanted, wanted_mem, clash⟩
    rw [MeetingSlot.clashesWith_comm, MeetingSlot.clashesWith_iff] at clash
    exact ⟨slot, slot_mem, wanted, wanted_mem, clash⟩

/-- What can be read about a student and a subject. -/
structure AdmissionView where
  /-- The subjects that the student holds, with their meetings. -/
  timetable : List EnrollmentDetail
  /-- The subject, if it exists. -/
  offering : Option Subject
  /-- How many seats of the subject are taken. -/
  taken : UInt32
  /-- The meetings of the subject. -/
  schedule : List MeetingSlot
  /-- Whether the student exists. -/
  studentExists : Bool

namespace AdmissionView

/-- These are the answers to the five reads. -/
structure IsRead (view : AdmissionView) (db : Database) (studentId subjectId : Uuid) : Prop where
  timetable : db.liveEnrollments studentId = .ok view.timetable
  offering : db.getSubject subjectId = .ok view.offering
  taken : db.countLiveEnrollments subjectId = .ok view.taken
  schedule : db.getSchedule subjectId = .ok view.schedule
  studentExists : db.has .student studentId = view.studentExists

/-- The answer to a request for a seat, in the order in which its reasons are looked at. -/
def Decides (view : AdmissionView) (policy : AdmissionPolicy) (seat : Enrollment)
    (answer : Except StoreError EnrollOutcome) : Prop :=
  if seat.subjectId ∈ view.timetable.map (·.enrollment.subjectId) then
    answer = .ok .alreadyEnrolled
  else
    match view.offering with
    | none => answer = .ok .subjectNotFound
    | some subject =>
      if subject.capacity ≤ view.taken then answer = .ok .capacityExceeded
      else if policy.checkTimeConflicts = true ∧
          ∃ detail ∈ view.timetable, detail.Clashes view.schedule then
        ∃ detail ∈ view.timetable, detail.Clashes view.schedule ∧
          answer = .ok (.timeConflict detail.enrollment.subjectId)
      else if view.studentExists then answer = .ok (.enrolled seat)
      else answer = .error .database

end AdmissionView

namespace Database

variable {db : Database} {stamp : Stamp} {studentId subjectId : Uuid} {policy : AdmissionPolicy}

/-- What was looked at decides, and a seat is stored for a student who exists. -/
theorem grantSeat_of_snapshot {snapshot : AdmissionSnapshot}
    (read : db.snapshot studentId subjectId policy = .ok snapshot)
    (newId : ∀ row ∈ db.enrollments, row.enrollmentId ≠ .ofId stamp.id) :
    (grantSeat stamp studentId subjectId policy db).1 =
      match decideAdmission policy snapshot with
      | .reject outcome => .ok outcome
      | .grant =>
        if db.has .student studentId then
          .ok (.enrolled ⟨stamp.id, studentId, subjectId, stamp.now⟩)
        else .error .database := by
  -- With a new identifier, a grant is not taken for a seat that is held already.
  have free : ¬ db.enrollments.any (·.enrollmentId == .ofId stamp.id) = true := by
    simpa using newId
  rw [grantSeat, read]
  -- A refusal is the answer as it is.
  cases decided : decideAdmission policy snapshot with
  | reject outcome => simp only [decided]
  | grant =>
    -- The seat is stored where its student exists.
    simp only [decided, if_neg free]
    split <;> rfl

/-- Everything about a subject that exists can be looked at. -/
theorem Written.snapshot_of_found {clock : Instant → Prop} (written : db.Written clock)
    (policy : AdmissionPolicy) (notHeld : db.holdsSeat studentId subjectId = false)
    {subject : Subject}
    (found : db.subjects.find? (·.subjectId == .ofId subjectId) = some (.ofSubject subject))
    {taken : UInt32} (counted : db.countLiveEnrollments subjectId = .ok taken)
    {schedule : List MeetingSlot} (scheduled : db.getSchedule subjectId = .ok schedule) :
    ∃ held, db.snapshot studentId subjectId policy =
        .ok ⟨false, some ⟨subject.capacity, taken, schedule⟩, held⟩ ∧
      (policy.checkTimeConflicts = true →
        (db.heldMeetings studentId).mapM MeetingRow.decode = .ok held) := by
  -- A schedule that was read is the one that is looked at.
  obtain ⟨same, read, mapped⟩ := written.getSchedule subjectId
  rw [scheduled, Except.ok.injEq] at read
  subst read
  -- All meetings that are looked at are stored, and read back.
  have decoded : ∀ row ∈ (if policy.checkTimeConflicts then db.heldMeetings studentId else []),
      ∃ slot, row.decode = .ok slot := by
    intro row member
    split at member
    · obtain ⟨_, -, -, -, of_row⟩ := mem_heldMeetings.mp member
      obtain ⟨slot, decoded, -⟩ := written.meeting (mem_meetingsOf.mp of_row).1
      exact ⟨slot, decoded⟩
    · cases member
  obtain ⟨held, held_eq⟩ := mapM_eq_ok decoded
  have capacity : (SubjectRow.ofSubject subject).capacity.readCount = .ok subject.capacity :=
    Cell.readCount_ofCount subject.capacity
  have read := snapshot_of_reads notHeld found capacity counted mapped held_eq
  -- Where the timetable counts, what was read is what the student holds.
  refine ⟨held, read, fun check => ?_⟩
  rw [if_pos check] at held_eq
  exact held_eq

/-- The search for a first clash decides as the timetable does. -/
theorem IsTimetable.clash_iff {timetable : List EnrollmentDetail}
    (isTimetable : db.IsTimetable studentId timetable) {clock : Instant → Prop}
    (written : db.Written clock) {held : List MeetingSlot}
    (mapped : (db.heldMeetings studentId).mapM MeetingRow.decode = .ok held)
    (schedule : List MeetingSlot) :
    (firstClash? held schedule = none ↔ ¬ ∃ detail ∈ timetable, detail.Clashes schedule) ∧
      ∀ slot, firstClash? held schedule = some slot →
        ∃ detail ∈ timetable, detail.Clashes schedule ∧
          slot.subjectId = detail.enrollment.subjectId := by
  -- What is held is what the entries of the timetable show.
  have held_iff (slot : MeetingSlot) :
      slot ∈ held ↔ ∃ detail ∈ timetable, slot ∈ detail.schedule :=
    isTimetable.mem_held written mapped
  constructor
  · rw [firstClash?_eq_none]
    constructor
    · -- An entry that clashes has a meeting that is held and clashes.
      rintro apart ⟨detail, detail_mem, clashes⟩
      obtain ⟨slot, slot_mem, other, other_mem, clash⟩ := detail.clashes_iff.mp clashes
      have held_mem := (held_iff slot).mpr ⟨detail, detail_mem, slot_mem⟩
      rw [apart slot held_mem other other_mem] at clash
      cases clash
    · -- A meeting that is held and clashes is one of an entry.
      intro apart slot held_mem other other_mem
      obtain ⟨detail, detail_mem, slot_mem⟩ := (held_iff slot).mp held_mem
      rw [Bool.eq_false_iff]
      exact fun clash => apart
        ⟨detail, detail_mem, detail.clashes_iff.mpr ⟨slot, slot_mem, other, other_mem, clash⟩⟩
  · -- The meeting that is found is shown by an entry, and names the subject of that entry.
    intro slot found
    obtain ⟨held_mem, other, other_mem, clash⟩ := exists_of_firstClash? found
    obtain ⟨detail, detail_mem, slot_mem⟩ := (held_iff slot).mp held_mem
    have clashes := detail.clashes_iff.mpr ⟨slot, slot_mem, other, other_mem, clash⟩
    have schedule := isTimetable.schedules detail detail_mem
    exact ⟨detail, detail_mem, clashes, written.subjectId_of_mem_schedule schedule slot_mem⟩

section Decisions

variable {view : AdmissionView} (isRead : view.IsRead db studentId subjectId)
  (isTimetable : db.IsTimetable studentId view.timetable)
  (newId : ∀ row ∈ db.enrollments, row.enrollmentId ≠ .ofId stamp.id)

include isTimetable newId

/-- A seat in the subject is what is asked about first. -/
theorem decides_of_held (held : db.holdsSeat studentId subjectId = true) :
    view.Decides policy ⟨stamp.id, studentId, subjectId, stamp.now⟩
      (grantSeat stamp studentId subjectId policy db).1 := by
  -- Nothing else is looked at, and the answer is that the seat is held.
  have read : db.snapshot studentId subjectId policy = .ok ⟨true, none, []⟩ := if_pos held
  unfold AdmissionView.Decides
  rw [if_pos (isTimetable.mem_iff.mpr held), grantSeat_of_snapshot read newId]
  rfl

include isRead

/-- A subject that does not exist is noticed next. -/
theorem decides_of_absent (notHeld : db.holdsSeat studentId subjectId = false)
    (absent : db.subjects.find? (·.subjectId == .ofId subjectId) = none) :
    view.Decides policy ⟨stamp.id, studentId, subjectId, stamp.now⟩
      (grantSeat stamp studentId subjectId policy db).1 := by
  -- That the subject cannot be read tells that no row has its key.
  have nothing : view.offering = none :=
    Except.ok.inj (isRead.offering.symm.trans (getSubject_of_absent absent))
  have read : db.snapshot studentId subjectId policy = .ok ⟨false, none, []⟩ := by
    rw [snapshot, if_neg (Bool.eq_false_iff.mp notHeld), absent, pure_eq_ok]
  -- A seat that is not held is not in the timetable either.
  have free : subjectId ∉ view.timetable.map (·.enrollment.subjectId) := by
    rw [isTimetable.mem_iff]
    exact Bool.eq_false_iff.mp notHeld
  unfold AdmissionView.Decides
  rw [if_neg free, nothing, grantSeat_of_snapshot read newId]
  rfl

/-- Of a subject that exists the seats count first, then the timetable, then the student. -/
theorem decides_of_found (written : db.Written Instant.IsReading)
    (notHeld : db.holdsSeat studentId subjectId = false) {row : SubjectRow}
    (found : db.subjects.find? (·.subjectId == .ofId subjectId) = some row) :
    view.Decides policy ⟨stamp.id, studentId, subjectId, stamp.now⟩
      (grantSeat stamp studentId subjectId policy db).1 := by
  obtain ⟨subject, rfl, offered⟩ := written.getSubject_of_found found
  have something : view.offering = some subject :=
    Except.ok.inj (isRead.offering.symm.trans offered)
  obtain ⟨held, read, held_mapped⟩ :=
    written.snapshot_of_found policy notHeld found isRead.taken isRead.schedule
  -- The student holds no seat in the subject, so the timetable does not show it.
  have free : subjectId ∉ view.timetable.map (·.enrollment.subjectId) := by
    rw [isTimetable.mem_iff]
    exact Bool.eq_false_iff.mp notHeld
  unfold AdmissionView.Decides
  rw [if_neg free, something, grantSeat_of_snapshot read newId, decideAdmission,
    if_neg Bool.false_ne_true, isRead.studentExists]
  dsimp only
  -- From here on both sides ask the same questions, one after the other.
  by_cases full : subject.capacity ≤ view.taken
  · -- All seats are taken.
    rw [if_pos full, if_pos full]
  · rw [if_neg full, if_neg full]
    by_cases check : policy.checkTimeConflicts = true
    · -- The timetable counts, so that a first clash has a say.
      obtain ⟨clear, conflict⟩ :=
        isTimetable.clash_iff written (held_mapped check) view.schedule
      rw [if_pos check]
      cases first : firstClash? held view.schedule with
      -- Without a clash all that is left to ask is whether the student exists.
      | none =>
        rw [if_neg fun clash => clear.mp first clash.2]
        split <;> rfl
      -- A clash that is found is told by its subject.
      | some slot =>
        obtain ⟨detail, detail_mem, clash, subject_eq⟩ := conflict slot first
        rw [if_pos ⟨check, detail, detail_mem, clash⟩]
        exact ⟨detail, detail_mem, clash, subject_eq ▸ rfl⟩
    · -- The timetable does not count, and again the student is all that is left to ask for.
      rw [if_neg check, if_neg fun clash => check clash.1]
      split <;> rfl

end Decisions

/-- In all that can be reached, everything about a student and a subject can be read. -/
theorem Reachable.exists_view (reachable : db.Reachable Instant.InFourDigitYear)
    (studentId subjectId : Uuid) :
    ∃ view : AdmissionView, view.IsRead db studentId subjectId ∧
      db.IsTimetable studentId view.timetable := by
  have written := reachable.readings
  have ref := reachable.wellFormed.referential
  obtain ⟨timetable, timetable_read, isTimetable⟩ := written.liveEnrollments ref studentId
  obtain ⟨schedule, schedule_read, -⟩ := written.getSchedule subjectId
  -- There are never more seats taken than a count can hold.
  have counted := Cell.countOf_natCast (reachable.seatsTaken_lt subjectId)
  -- The subject is there or it is not, and it can be read in either case.
  obtain ⟨offering, offering_read⟩ : ∃ offering, db.getSubject subjectId = .ok offering := by
    cases found : db.subjects.find? (·.subjectId == .ofId subjectId) with
    | none => exact ⟨none, getSubject_of_absent found⟩
    | some row =>
      obtain ⟨subject, -, read⟩ := written.getSubject_of_found found
      exact ⟨some subject, read⟩
  exact ⟨⟨timetable, offering, _, schedule, _⟩,
    ⟨timetable_read, offering_read, counted, schedule_read, rfl⟩, isTimetable⟩

/--
In all that can be reached, the reads succeed and decide a request for a seat.
The identifier of the new seat has to be a new one.
-/
theorem grantSeat_decided (reachable : db.Reachable Instant.InFourDigitYear)
    (newId : ∀ row ∈ db.enrollments, row.enrollmentId ≠ .ofId stamp.id)
    (studentId subjectId : Uuid) (policy : AdmissionPolicy) :
    ∃ view : AdmissionView, view.IsRead db studentId subjectId ∧
      view.Decides policy ⟨stamp.id, studentId, subjectId, stamp.now⟩
        (grantSeat stamp studentId subjectId policy db).1 := by
  obtain ⟨view, isRead, isTimetable⟩ := reachable.exists_view studentId subjectId
  refine ⟨view, isRead, ?_⟩
  -- The first two questions are whether the seat is held and whether the subject exists.
  cases held : db.holdsSeat studentId subjectId with
  | true => exact decides_of_held isTimetable newId held
  | false =>
    cases found : db.subjects.find? (·.subjectId == .ofId subjectId) with
    | none => exact decides_of_absent isRead isTimetable newId held found
    | some row => exact decides_of_found isRead isTimetable newId reachable.readings held found

/-- After the sample, a student is told that the last seat is taken. -/
theorem grantSeat_sample :
    (∀ row ∈ (empty.after sampleRun).enrollments,
        row.enrollmentId ≠ .ofId (Stamp.ofDigit 9).id) ∧
      (∃ view : AdmissionView,
        view.IsRead (empty.after sampleRun) (.ofDigit 9) (.ofDigit 2) ∧
          view.Decides .standard ⟨.ofDigit 9, .ofDigit 9, .ofDigit 2, (Stamp.ofDigit 9).now⟩
            (grantSeat (.ofDigit 9) (.ofDigit 9) (.ofDigit 2) .standard
              (empty.after sampleRun)).1) ∧
      (grantSeat (.ofDigit 9) (.ofDigit 9) (.ofDigit 2) .standard (empty.after sampleRun)).1 =
        .ok .capacityExceeded := by
  have reachable : (empty.after sampleRun).Reachable Instant.InFourDigitYear :=
    ⟨sampleRun, by decide, rfl⟩
  have newId : ∀ row ∈ (empty.after sampleRun).enrollments,
      row.enrollmentId ≠ .ofId (Stamp.ofDigit 9).id := by
    decide +kernel
  -- The answer itself is computed.
  exact ⟨newId, grantSeat_decided reachable newId _ _ _, by decide +kernel⟩

end Database

end CourseRegistry
