import CourseRegistry.Proofs.Store.Admission
import CourseRegistry.Proofs.Store.Decoding
import CourseRegistry.Proofs.Store.Order
import CourseRegistry.Proofs.Store.Readable

/-!
All reads of seats and subjects agree.
Lists, timetables, counts, schedules and decisions show the same seats of the same subjects.
-/

namespace CourseRegistry

/-- The search that finds every subject. -/
def SubjectQuery.everything : SubjectQuery := ⟨none, none, none, none, none, none⟩

/-- The free seats are counted down to none and no further. -/
theorem SubjectListing.remaining_ofSubject (subject : Subject) (enrolled : UInt32) :
    (ofSubject subject enrolled).remaining.toNat = subject.capacity.toNat - enrolled.toNat := by
  unfold ofSubject
  dsimp only
  -- The subtraction is only made where it does not go below zero.
  split
  · next fits => exact UInt32.toNat_sub_of_le _ _ fits
  · next more =>
    rw [UInt32.le_iff_toNat_le] at more
    rw [UInt32.toNat_zero]
    omega

/-- A listing is full when at least as many seats are taken as there are. -/
theorem SubjectListing.isFull_ofSubject (subject : Subject) (enrolled : UInt32) :
    (ofSubject subject enrolled).isFull = true ↔ subject.capacity ≤ enrolled := by
  -- The number that is left is zero where nothing is left of the capacity.
  rw [isFull, beq_iff_eq, ← UInt32.toNat_inj, remaining_ofSubject, UInt32.toNat_zero,
    UInt32.le_iff_toNat_le]
  omega

namespace Database

variable {db : Database}

section Seats

/-- Selecting seats before or after they are sorted by age makes no difference. -/
theorem Unique.filter_sortOn (unique : db.Unique) (kept : EnrollmentRow → Bool) :
    (Cell.sortOn (fun row => [row.enrolledAt, row.enrollmentId]) db.enrollments).filter kept =
      Cell.sortOn (fun row => [row.enrolledAt, row.enrollmentId]) (db.enrollments.filter kept) := by
  refine Cell.filter_sortOn (fun a a_mem b b_mem same => ?_) kept
  -- Seats of the same age still differ in their identifiers.
  have sameId : a.enrollmentId = b.enrollmentId := by simpa using (List.cons.inj same).2
  exact List.inj_on_of_nodup_map unique.enrollmentKeys a_mem b_mem sameId

variable (written : db.Written Instant.IsReading)

include written

/-- A timetable has each seat of the student once, since each subject exists once. -/
theorem Written.map_seatsOf (wellFormed : db.WellFormed) (studentId : Uuid) :
    (db.seatsOf studentId).map (·.enrollment) =
      (Cell.sortOn (fun row => [row.enrolledAt, row.enrollmentId]) db.enrollments).filter
        (·.isOf studentId) := by
  rw [seatsOf, wellFormed.unique.filter_sortOn, List.map_flatMap]
  generalize sorted_eq : Cell.sortOn (fun row => [row.enrolledAt, row.enrollmentId])
    (db.enrollments.filter (·.isOf studentId)) = sorted
  -- The entry of a seat is made from the one row of its subject.
  have single : ∀ row ∈ sorted,
      ((db.subjects.filter fun subject =>
        subject.subjectId == row.subjectId && row.subjectId != .null).map fun subject =>
          (⟨row, subject, db.meetingsOf row.subjectId⟩ : HeldSeat)).map (·.enrollment) = [row] := by
    intro row member
    -- The seat is one of the student's, and so of a subject that exists.
    rw [← sorted_eq, Cell.mem_sortOn, List.mem_filter] at member
    obtain ⟨enrollment, -, rfl⟩ := written.enrollments row member.1
    have exists_ := wellFormed.referential.enrollmentSubjects _ member.1
    obtain ⟨subject, subject_mem, same⟩ := List.any_eq_true.mp exists_
    -- The key of the subject is an identifier, and no other subject has it.
    have key : subject.subjectId = .ofId enrollment.subjectId := beq_iff_eq.mp same
    have present : (subject.subjectId != .null) = true := bne_iff_ne.mpr (key ▸ Cell.ofId_ne_null _)
    rw [← beq_iff_eq.mp same]
    simp only [present, Bool.and_true]
    rw [filter_eq_singleton wellFormed.unique.subjectKeys subject_mem]
    rfl
  clear sorted_eq
  -- Entry by entry, the list of seats is built up again.
  induction sorted with
  | nil => rfl
  | cons row sorted ih =>
    rw [List.flatMap_cons, single row List.mem_cons_self,
      ih fun other member => single other (List.mem_cons_of_mem row member)]
    rfl

/-- A row of a seat is that of the seat that it reads as. -/
theorem Written.seat_of_decode {row : EnrollmentRow} (member : row ∈ db.enrollments)
    {seat : Enrollment} (decoded : row.decode = .ok seat) : row = .ofEnrollment seat := by
  -- The seat was stored as read by clocks, so that it reads as itself.
  obtain ⟨enrollment, plain, rfl⟩ := written.enrollments row member
  rw [EnrollmentRow.decode_ofEnrollment plain, Except.ok.injEq] at decoded
  rw [decoded]

/-- The seats in a timetable are those of the student among all seats, in the same order. -/
theorem Written.timetable_eq (wellFormed : db.WellFormed) {studentId : Uuid}
    {seats : List Enrollment} (listed : db.listEnrollments = .ok seats)
    {timetable : List EnrollmentDetail} (read : db.liveEnrollments studentId = .ok timetable) :
    timetable.map (·.enrollment) = seats.filter (·.studentId == studentId) := by
  -- Each entry starts with its seat, which is read in the same way as in the list.
  have shown : ((db.seatsOf studentId).map (·.enrollment)).mapM EnrollmentRow.decode =
      .ok (timetable.map (·.enrollment)) := by
    refine mapM_map (mapM_of_readRows read) fun seat _ detail decoded => ?_
    obtain ⟨enrollment, first, decoded⟩ := bind_eq_ok.mp decoded
    obtain ⟨_, -, decoded⟩ := bind_eq_ok.mp decoded
    obtain ⟨_, -, decoded⟩ := bind_eq_ok.mp decoded
    obtain ⟨_, -, made⟩ := bind_eq_ok.mp decoded
    rw [first, ← Except.ok.inj made]
  -- Among all seats, the rows of the student read as the seats of the student.
  have selected : ((Cell.sortOn (fun row => [row.enrolledAt, row.enrollmentId])
      db.enrollments).filter (·.isOf studentId)).mapM EnrollmentRow.decode =
        .ok (seats.filter (·.studentId == studentId)) := by
    -- The seats that are selected among the rows are those selected among the records.
    refine mapM_filter (mapM_of_readRows listed) fun row member seat decoded => ?_
    rw [written.seat_of_decode (Cell.mem_sortOn.mp member) decoded,
      EnrollmentRow.isOf_ofEnrollment]
  rw [written.map_seatsOf wellFormed, selected] at shown
  exact (Except.ok.inj shown).symm

/-- The seats that are counted for a subject are those in it among all seats. -/
theorem Written.seatsTaken_eq {seats : List Enrollment} (listed : db.listEnrollments = .ok seats)
    (subjectId : Uuid) :
    db.seatsTaken (.ofId subjectId) = (seats.filter (·.subjectId == subjectId)).length := by
  have selected : ((Cell.sortOn (fun row => [row.enrolledAt, row.enrollmentId])
      db.enrollments).filter (·.isIn subjectId)).mapM EnrollmentRow.decode =
        .ok (seats.filter (·.subjectId == subjectId)) := by
    refine mapM_filter (mapM_of_readRows listed) fun row member seat decoded => ?_
    rw [written.seat_of_decode (Cell.mem_sortOn.mp member) decoded,
      EnrollmentRow.isIn_ofEnrollment]
  -- How the seats are sorted makes no difference to their number.
  rw [length_of_mapM selected]
  exact (((Cell.sortOn_perm _ _).filter _).length_eq).symm

/-- A student who has no seat of a subject in the list of all seats does not hold one. -/
theorem Written.holdsSeat_eq_false {seats : List Enrollment}
    (listed : db.listEnrollments = .ok seats) {studentId subjectId : Uuid}
    (free : ∀ seat ∈ seats, seat.studentId = studentId → seat.subjectId ≠ subjectId) :
    db.holdsSeat studentId subjectId = false := by
  -- A seat that is held would have a row, and the row a record in the list.
  rw [Bool.eq_false_iff]
  intro held
  -- There would be a row for the seat, with a record among those that were listed.
  obtain ⟨row, row_mem, isOf, isIn⟩ := holdsSeat_iff.mp held
  obtain ⟨seat, plain, rfl⟩ := written.enrollments row row_mem
  have seat_mem : seat ∈ seats := (mem_of_mapM_eq_ok (mapM_of_readRows listed)).mpr
    ⟨_, Cell.mem_sortOn.mpr row_mem, EnrollmentRow.decode_ofEnrollment plain⟩
  rw [EnrollmentRow.isOf_ofEnrollment, beq_iff_eq] at isOf
  exact free seat seat_mem isOf (Cell.ofId_inj.mp isIn)

end Seats

section Subjects

/-- The rows of the subjects that a search finds, in their order. -/
def selection (db : Database) (query : SubjectQuery) : List SubjectRow :=
  page query (Cell.sortOn (fun row => [row.name, row.subjectId])
    (db.subjects.filter (isSelected query)))

/-- A search finds rows of subjects only. -/
theorem mem_of_mem_selection {query : SubjectQuery} {row : SubjectRow}
    (member : row ∈ db.selection query) : row ∈ db.subjects :=
  (List.mem_filter.mp (Cell.mem_sortOn.mp (mem_of_mem_page member))).1

/-- The search for everything finds all of them. -/
theorem mem_selection_everything {row : SubjectRow} (member : row ∈ db.subjects) :
    row ∈ db.selection .everything :=
  Cell.mem_sortOn.mpr (List.mem_filter.mpr ⟨member, rfl⟩)

/-- No search finds a subject twice. -/
theorem Unique.nodup_selection (unique : db.Unique) (query : SubjectQuery) :
    ((db.selection query).map (·.subjectId)).Nodup := by
  -- Sorting keeps the keys, and cutting only leaves some of them out.
  have page_sublist (rows : List SubjectRow) : (page query rows).Sublist rows := by
    unfold page
    split
    · exact List.drop_sublist _ _
    · exact (List.take_sublist _ _).trans (List.drop_sublist _ _)
  have sorted := (Cell.sortOn_perm (fun row : SubjectRow => [row.name, row.subjectId])
    (db.subjects.filter (isSelected query))).map (·.subjectId)
  exact (sorted.nodup_iff.mpr (nodup_map_filter unique.subjectKeys _)).sublist
    ((page_sublist _).map _)

/-- A search that is answered lists the subjects of the rows that it finds. -/
theorem mapM_of_listSubjects {query : SubjectQuery} {listings : List SubjectListing}
    (listed : db.listSubjects query = .ok listings) :
    ((db.selection query).map (Offering.of db)).mapM Offering.decodeListing = .ok listings := by
  obtain ⟨_, -, listed⟩ := bind_eq_ok.mp listed
  obtain ⟨_, -, listed⟩ := bind_eq_ok.mp listed
  -- A text that is too long ends the search before the first row.
  split at listed
  · cases listed
  · exact mapM_of_readRows listed

variable (written : db.Written Instant.IsReading)

include written

/-- A stored subject is read with the schedule that can also be asked for by itself. -/
theorem Written.exists_subject (unique : db.Unique) {row : SubjectRow}
    (member : row ∈ db.subjects) :
    ∃ subject, row = .ofSubject subject ∧ (Offering.of db row).decode = .ok subject ∧
      db.getSubject subject.subjectId = .ok (some subject) ∧
        db.getSchedule subject.subjectId = .ok subject.schedule := by
  obtain ⟨subject, rfl, readable, decoded⟩ := written.offering member
  refine ⟨subject, rfl, decoded, ?_, ?_⟩
  · -- The row is found by its key, since it is the only one with it.
    have found : db.subjects.find? (·.subjectId == .ofId subject.subjectId) =
        some (.ofSubject subject) := find?_subject unique.subjectKeys member rfl
    rw [getSubject, found, Option.map_some, readRow?, if_pos readable, decoded, map_ok]
  · obtain ⟨schedule, read, mapped⟩ := written.getSchedule subject.subjectId
    obtain ⟨stored, plain, same⟩ := written.subjects _ member
    obtain ⟨slots, meetings, made⟩ := bind_eq_ok.mp decoded
    change (db.meetingsOf (.ofId subject.subjectId)).mapM MeetingRow.decode = .ok slots at meetings
    rw [mapped, Except.ok.injEq] at meetings
    change (SubjectRow.ofSubject subject).decode slots = .ok subject at made
    rw [same, SubjectRow.decode_ofSubject plain, Except.ok.injEq] at made
    rw [read, meetings, ← made]

/-- A subject that is read is stored, and its schedule is the one asked for by itself. -/
theorem Written.mem_of_getSubject (unique : db.Unique) {subjectId : Uuid} {subject : Subject}
    (read : db.getSubject subjectId = .ok (some subject)) :
    subject.subjectId = subjectId ∧ .ofSubject subject ∈ db.subjects ∧
      db.getSchedule subjectId = .ok subject.schedule := by
  cases found : db.subjects.find? (·.subjectId == .ofId subjectId) with
  | none =>
    -- Nothing is read of a subject that is not there.
    rw [getSubject_of_absent found] at read
    cases read
  | some row =>
    obtain ⟨member, key⟩ := mem_of_find?_key found
    -- The row that is found is that of the subject that was read.
    obtain ⟨stored, rfl, -, same, schedule⟩ := written.exists_subject unique member
    obtain rfl : stored.subjectId = subjectId := Cell.ofId_inj.mp key
    rw [read, Except.ok.injEq, Option.some.injEq] at same
    subst same
    exact ⟨rfl, member, schedule⟩

/-- A listing that is read of a row is that of the row's subject, with its seats counted. -/
theorem Written.of_decodeListing (unique : db.Unique) {row : SubjectRow}
    (member : row ∈ db.subjects) {listing : SubjectListing}
    (decoded : (Offering.of db row).decodeListing = .ok listing) :
    row = .ofSubject listing.subject ∧
      db.getSubject listing.subject.subjectId = .ok (some listing.subject) ∧
        ∃ enrolled, db.countLiveEnrollments listing.subject.subjectId = .ok enrolled ∧
          listing = .ofSubject listing.subject enrolled := by
  -- The subject comes first in a listing, and its seats are counted behind it.
  obtain ⟨subject, rfl, read, found, -⟩ := written.exists_subject unique member
  obtain ⟨_, same, decoded⟩ := bind_eq_ok.mp decoded
  rw [read, Except.ok.injEq] at same
  subst same
  obtain ⟨enrolled, counted, made⟩ := bind_eq_ok.mp decoded
  obtain rfl := Except.ok.inj made
  exact ⟨rfl, found, enrolled, counted, rfl⟩

/-- A listing is that of a stored subject with the seats that are counted for it. -/
theorem Written.exists_of_mem_listing (unique : db.Unique) {query : SubjectQuery}
    {listings : List SubjectListing} (listed : db.listSubjects query = .ok listings)
    {listing : SubjectListing} (member : listing ∈ listings) :
    ∃ subject enrolled, listing = .ofSubject subject enrolled ∧
      db.getSubject subject.subjectId = .ok (some subject) ∧
        db.countLiveEnrollments subject.subjectId = .ok enrolled := by
  -- Each listing is read of a row that the search has found.
  obtain ⟨offering, offering_mem, decoded⟩ :=
    (mem_of_mapM_eq_ok (mapM_of_listSubjects listed)).mp member
  obtain ⟨row, row_mem, rfl⟩ := List.mem_map.mp offering_mem
  obtain ⟨-, found, enrolled, counted, made⟩ :=
    written.of_decodeListing unique (mem_of_mem_selection row_mem) decoded
  exact ⟨listing.subject, enrolled, made, found, counted⟩

/-- The rows that are found are those of the subjects in the listings, in the same order. -/
theorem Written.selection_eq_map (unique : db.Unique) {query : SubjectQuery}
    {listings : List SubjectListing} (listed : db.listSubjects query = .ok listings) :
    db.selection query = listings.map fun listing => .ofSubject listing.subject := by
  have whole : (db.selection query).map (Offering.of db) =
      listings.map fun listing => Offering.of db (.ofSubject listing.subject) :=
    eq_map_of_mapM (mapM_of_listSubjects listed) fun offering member listing decoded => by
      obtain ⟨row, row_mem, rfl⟩ := List.mem_map.mp member
      rw [← (written.of_decodeListing unique (mem_of_mem_selection row_mem) decoded).1]
  -- What the tables hold of a subject starts with its row.
  simpa [Offering.of, Function.comp_def] using congrArg (List.map (·.subject)) whole

/-- The identifiers in the listings are those of the rows that are found. -/
theorem Written.map_listings (unique : db.Unique) {query : SubjectQuery}
    {listings : List SubjectListing} (listed : db.listSubjects query = .ok listings) :
    listings.map (fun listing => Cell.ofId listing.subject.subjectId) =
      (db.selection query).map (·.subjectId) := by
  -- The rows are those of the subjects that are listed.
  rw [written.selection_eq_map unique listed, List.map_map]
  rfl

/-- No subject has two listings. -/
theorem Written.nodup_listings (unique : db.Unique) {query : SubjectQuery}
    {listings : List SubjectListing} (listed : db.listSubjects query = .ok listings) :
    (listings.map (·.subject.subjectId)).Nodup := by
  have once := unique.nodup_selection query
  rw [← written.map_listings unique listed] at once
  -- No two rows share a key, and so no two listings an identifier.
  refine List.Nodup.of_map Cell.ofId ?_
  rwa [List.map_map]

end Subjects

section Decisions

/-- A student without a seat is told that all are taken exactly where no seat is free. -/
theorem Written.grantSeat_full_iff (written : db.Written Instant.IsReading)
    (unique : db.Unique) {studentId : Uuid} {subject : Subject}
    (read : db.getSubject subject.subjectId = .ok (some subject)) {taken : UInt32}
    (counted : db.countLiveEnrollments subject.subjectId = .ok taken)
    (notHeld : db.holdsSeat studentId subject.subjectId = false) (stamp : Stamp)
    (policy : AdmissionPolicy) :
    (grantSeat stamp studentId subject.subjectId policy db).1 = .ok .capacityExceeded ↔
      subject.capacity ≤ taken := by
  obtain ⟨-, member, scheduled⟩ := written.mem_of_getSubject unique read
  have found := find?_subject unique.subjectKeys member rfl
  obtain ⟨held, seen, -⟩ := written.snapshot_of_found policy notHeld found counted scheduled
  -- The decision looks at the seats before it looks at the times.
  rw [grantSeat, seen]
  unfold decideAdmission
  dsimp only
  rw [if_neg Bool.false_ne_true]
  by_cases full : subject.capacity ≤ taken
  · -- Without a free seat the decision is made at once.
    rw [if_pos full]
    exact iff_of_true rfl full
  · rw [if_neg full]
    refine iff_of_false (fun same => ?_) full
    -- With a free seat the answer is a clash, a seat, or that it could not be stored.
    split at same
    · next outcome decided =>
      split at decided
      · split at decided
        · cases decided
          cases same
        · cases decided
      · cases decided
    · split at same
      · cases same
      · split at same <;> cases same

end Decisions

/-- What can be asked of the tables about seats and subjects. -/
structure Directory where
  /-- All seats. -/
  seats : List Enrollment
  /-- The timetable of a student. -/
  timetable : (studentId : Uuid) → List EnrollmentDetail
  /-- How many seats of a subject are taken. -/
  taken : (subjectId : Uuid) → UInt32
  /-- The meetings of a subject. -/
  schedule : (subjectId : Uuid) → List MeetingSlot
  /-- A subject, if it exists. -/
  subject : (subjectId : Uuid) → Option Subject
  /-- The subjects that a search finds. -/
  listings : (query : SubjectQuery) → List SubjectListing

namespace Directory

/-- These are the answers to the six reads. -/
structure IsRead (directory : Directory) (db : Database) : Prop where
  seats : db.listEnrollments = .ok directory.seats
  timetable : ∀ studentId, db.liveEnrollments studentId = .ok (directory.timetable studentId)
  taken : ∀ subjectId, db.countLiveEnrollments subjectId = .ok (directory.taken subjectId)
  schedule : ∀ subjectId, db.getSchedule subjectId = .ok (directory.schedule subjectId)
  subject : ∀ subjectId, db.getSubject subjectId = .ok (directory.subject subjectId)
  listings : ∀ query, query.isWithinLimits = true →
    db.listSubjects query = .ok (directory.listings query)

/-- What different reads show of the same seats and subjects is the same. -/
structure Agrees (directory : Directory) : Prop where
  /-- A timetable has the seats of its student, in the order of the list of all seats. -/
  timetable : ∀ studentId, (directory.timetable studentId).map (·.enrollment) =
    directory.seats.filter (·.studentId == studentId)
  /-- The seats that are counted are those in the list. -/
  taken : ∀ subjectId, (directory.taken subjectId).toNat =
    (directory.seats.filter (·.subjectId == subjectId)).length
  /-- A subject has the meetings of its schedule. -/
  subject : ∀ subjectId, ∀ subject ∈ directory.subject subjectId,
    subject.subjectId = subjectId ∧ subject.schedule = directory.schedule subjectId
  /-- So has each entry of a timetable. -/
  detail : ∀ studentId, ∀ detail ∈ directory.timetable studentId,
    detail.schedule = directory.schedule detail.enrollment.subjectId
  /-- A listing has the subject as it is read by itself, the counted seats, and the rest of them. -/
  listing : ∀ query, query.isWithinLimits = true → ∀ listing ∈ directory.listings query,
    directory.subject listing.subject.subjectId = some listing.subject ∧
      listing.enrolled = directory.taken listing.subject.subjectId ∧
        listing.remaining.toNat = listing.subject.capacity.toNat - listing.enrolled.toNat
  /-- No search lists a subject twice. -/
  listedOnce : ∀ query, query.isWithinLimits = true →
    ((directory.listings query).map (·.subject.subjectId)).Nodup
  /-- Every subject is listed by the search for everything. -/
  listed : ∀ subjectId, ∀ subject ∈ directory.subject subjectId,
    ∃ listing ∈ directory.listings .everything, listing.subject = subject

/-- A student may take a seat of a subject without having one in it already. -/
def IsFree (directory : Directory) (studentId subjectId : Uuid) : Prop :=
  ∀ seat ∈ directory.seats, seat.studentId = studentId → seat.subjectId ≠ subjectId

end Directory

/-- In all that can be reached, every read of seats and subjects is answered. -/
theorem Reachable.exists_directory (reachable : db.Reachable Instant.InFourDigitYear) :
    ∃ directory : Directory, directory.IsRead db := by
  have written := reachable.readings
  have readable := written.readable reachable.seatsTaken_lt
  obtain ⟨seats, seats_read⟩ : ∃ seats, db.listEnrollments = .ok seats :=
    exists_readRows fun row member => readable.enrollments row (Cell.mem_sortOn.mp member)
  -- Each read succeeds for all that it can be asked for, and the answers are put together.
  choose timetable timetable_read _ using
    written.liveEnrollments reachable.wellFormed.referential
  choose taken taken_read _ using readable.counts
  choose schedule schedule_read _ using written.getSchedule
  have subjects (subjectId : Uuid) : ∃ subject, db.getSubject subjectId = .ok subject := by
    cases found : db.subjects.find? (·.subjectId == .ofId subjectId) with
    -- A subject that is not there is read as none.
    | none => exact ⟨none, getSubject_of_absent found⟩
    | some row =>
      obtain ⟨subject, -, read⟩ := written.getSubject_of_found found
      exact ⟨some subject, read⟩
  choose subject subject_read using subjects
  have searches (query : SubjectQuery) : ∃ listings, query.isWithinLimits = true →
      db.listSubjects query = .ok listings := by
    by_cases within : query.isWithinLimits = true
    · exact (readable.listSubjects within).imp fun _ read _ => read
    · -- Nothing is asked of a search outside of the limits.
      exact ⟨[], fun is => absurd is within⟩
  choose listings listings_read using searches
  exact ⟨⟨seats, timetable, taken, schedule, subject, listings⟩,
    ⟨seats_read, timetable_read, taken_read, schedule_read, subject_read, listings_read⟩⟩

/-- What is read of well-formed tables agrees. -/
theorem Directory.IsRead.agrees {directory : Directory} (isRead : directory.IsRead db)
    (written : db.Written Instant.IsReading) (wellFormed : db.WellFormed)
    (counted : ∀ subjectId, db.seatsTaken (.ofId subjectId) < UInt32.size) :
    directory.Agrees where
  timetable studentId :=
    written.timetable_eq wellFormed isRead.seats (isRead.timetable studentId)
  taken subjectId := by
    -- The count is that of the rows, which the list of all seats shows one by one.
    obtain ⟨count, read, same⟩ := (written.readable counted).counts subjectId
    rw [isRead.taken subjectId, Except.ok.injEq] at read
    rw [read, same, written.seatsTaken_eq isRead.seats]
  subject subjectId subject member := by
    have read := isRead.subject subjectId
    rw [Option.mem_def.mp member] at read
    obtain ⟨same, -, schedule⟩ := written.mem_of_getSubject wellFormed.unique read
    rw [isRead.schedule subjectId, Except.ok.injEq] at schedule
    exact ⟨same, schedule.symm⟩
  detail studentId detail member := by
    obtain ⟨timetable, read, isTimetable⟩ :=
      written.liveEnrollments wellFormed.referential studentId
    rw [isRead.timetable studentId, Except.ok.injEq] at read
    -- An entry of a timetable was read with the schedule of its subject.
    have schedule := isTimetable.schedules detail (read ▸ member)
    rw [isRead.schedule, Except.ok.injEq] at schedule
    exact schedule.symm
  listing query within listing member := by
    obtain ⟨subject, enrolled, rfl, subject_read, taken_read⟩ :=
      written.exists_of_mem_listing wellFormed.unique (isRead.listings query within) member
    rw [isRead.subject, Except.ok.injEq] at subject_read
    rw [isRead.taken, Except.ok.injEq] at taken_read
    exact ⟨subject_read, taken_read.symm, SubjectListing.remaining_ofSubject subject enrolled⟩
  listedOnce query within :=
    written.nodup_listings wellFormed.unique (isRead.listings query within)
  listed subjectId subject member := by
    have read := isRead.subject subjectId
    rw [Option.mem_def.mp member] at read
    obtain ⟨rfl, row_mem, -⟩ := written.mem_of_getSubject wellFormed.unique read
    -- The row of the subject is among those that are found, and so is a listing with its key.
    have key : Cell.ofId subject.subjectId ∈
        (db.selection .everything).map (·.subjectId) :=
      List.mem_map.mpr ⟨_, mem_selection_everything row_mem, rfl⟩
    have found := isRead.listings .everything rfl
    rw [← written.map_listings wellFormed.unique found, List.mem_map] at key
    obtain ⟨listing, listing_mem, same⟩ := key
    obtain ⟨shown, _, rfl, shown_read, -⟩ :=
      written.exists_of_mem_listing wellFormed.unique found listing_mem
    obtain shownId : shown.subjectId = subject.subjectId := Cell.ofId_inj.mp same
    rw [shownId, read, Except.ok.injEq, Option.some.injEq] at shown_read
    exact ⟨_, listing_mem, shown_read.symm⟩

/--
In all that can be reached, the reads of seats and subjects are answered and agree.
A student without a seat in a subject is told that it is full exactly when its listing says so.
-/
theorem Reachable.directory_agrees (reachable : db.Reachable Instant.InFourDigitYear) :
    ∃ directory : Directory, directory.IsRead db ∧ directory.Agrees ∧
      ∀ query : SubjectQuery, query.isWithinLimits = true →
        ∀ listing ∈ directory.listings query, ∀ studentId,
          directory.IsFree studentId listing.subject.subjectId →
            ∀ (stamp : Stamp) (policy : AdmissionPolicy),
              (grantSeat stamp studentId listing.subject.subjectId policy db).1 =
                .ok .capacityExceeded ↔ listing.isFull = true := by
  have written := reachable.readings
  have wellFormed := reachable.wellFormed
  obtain ⟨directory, isRead⟩ := reachable.exists_directory
  refine ⟨directory, isRead, isRead.agrees written wellFormed reachable.seatsTaken_lt, ?_⟩
  intro query within listing member studentId free stamp policy
  obtain ⟨subject, enrolled, rfl, subject_read, taken_read⟩ :=
    written.exists_of_mem_listing wellFormed.unique (isRead.listings query within) member
  -- The list of seats shows none of the student in the subject, so that none is held.
  have notHeld := written.holdsSeat_eq_false isRead.seats free
  rw [SubjectListing.isFull_ofSubject]
  exact written.grantSeat_full_iff wellFormed.unique subject_read taken_read notHeld stamp policy

/-- After the sample, a listing shows that the only seat of the second subject is taken. -/
theorem directory_agrees_sample :
    (empty.after sampleRun).Reachable Instant.InFourDigitYear ∧
      ∃ directory : Directory, directory.IsRead (empty.after sampleRun) ∧ directory.Agrees ∧
        ∃ listing ∈ directory.listings .everything, listing.subject.subjectId = .ofDigit 2 ∧
          listing.enrolled = 1 ∧ listing.remaining.toNat = 0 := by
  have reachable : (empty.after sampleRun).Reachable Instant.InFourDigitYear :=
    ⟨sampleRun, by decide, rfl⟩
  obtain ⟨directory, isRead, agrees, -⟩ := reachable.directory_agrees
  have capacity : Option.map (·.capacity) <$> (empty.after sampleRun).getSubject (.ofDigit 2) =
      .ok (some 1) := by decide +kernel
  have counted : (empty.after sampleRun).countLiveEnrollments (.ofDigit 2) = .ok 1 := by
    decide +kernel
  rw [isRead.subject, map_ok, Except.ok.injEq, Option.map_eq_some_iff] at capacity
  rw [isRead.taken, Except.ok.injEq] at counted
  obtain ⟨subject, read, seats⟩ := capacity
  -- The listing of the subject shows what is read and counted of it by itself.
  obtain ⟨same, -⟩ := agrees.subject _ subject read
  obtain ⟨listing, member, rfl⟩ := agrees.listed _ subject read
  obtain ⟨-, enrolled, remaining⟩ := agrees.listing .everything rfl listing member
  rw [same, counted] at enrolled
  rw [seats, enrolled] at remaining
  exact ⟨reachable, directory, isRead, agrees, listing, member, same, enrolled, remaining⟩

end Database

end CourseRegistry
