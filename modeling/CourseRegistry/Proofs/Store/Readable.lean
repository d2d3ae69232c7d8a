import CourseRegistry.Proofs.Store.Alike
import CourseRegistry.Proofs.Store.Procedure
import CourseRegistry.Proofs.Store.Reads

/-!
Everything that is stored reads back.
In all that can be reached, no cell is misread and no read fails.
-/

namespace CourseRegistry

open Database

section Rows

variable {α ρ : Type} {isReadable : ρ → Bool} {decode : ρ → Except StoreError α}

/-- A row reads back when each cell has the right shape and all of them make a record. -/
def ReadsBack (isReadable : ρ → Bool) (decode : ρ → Except StoreError α) (row : ρ) : Prop :=
  isReadable row = true ∧ ∃ record, decode row = .ok record

/-- A list of rows that all read back is read. -/
theorem exists_readRows {rows : List ρ} (back : ∀ row ∈ rows, ReadsBack isReadable decode row) :
    ∃ records, readRows isReadable decode rows = .ok records := by
  -- All rows have the right shape, and each of them is decoded.
  obtain ⟨records, read, -⟩ :=
    readRows_eq_ok (fun row member => (back row member).1) fun row member => (back row member).2
  exact ⟨records, read⟩

/-- A row that is found and reads back is read, and so is none. -/
theorem exists_readRow? {row : Option ρ}
    (back : ∀ found, row = some found → ReadsBack isReadable decode found) :
    ∃ record, readRow? isReadable decode row = .ok record := by
  -- Where no row is found, there is nothing to be read.
  cases row with
  | none => exact ⟨none, rfl⟩
  | some found =>
    obtain ⟨readable, record, decoded⟩ := back found rfl
    exact ⟨some record, by rw [readRow?, if_pos readable, decoded, map_ok]⟩

/-- A row that is there and reads back is read. -/
theorem ReadsBack.exists_readRow? {row : ρ} (back : ReadsBack isReadable decode row) :
    ∃ record, readRow? isReadable decode (some row) = .ok (some record) := by
  -- The row passes both the look at its cells and the decoding.
  obtain ⟨readable, record, decoded⟩ := back
  exact ⟨record, by rw [readRow?, if_pos readable, decoded, map_ok]⟩

end Rows

section WrittenRows

/-- The row of a department reads back. -/
theorem DepartmentRow.IsWritten.readsBack {row : DepartmentRow}
    (written : row.IsWritten Instant.IsReading) : ReadsBack isReadable decode row := by
  -- What was written is a department, and its row was made by the encoding.
  obtain ⟨department, plain, rfl⟩ := written
  exact ⟨isReadable_ofDepartment department, department, decode_ofDepartment plain⟩

/-- So does the row of a professor. -/
theorem ProfessorRow.IsWritten.readsBack {row : ProfessorRow}
    (written : row.IsWritten Instant.IsReading) : ReadsBack isReadable decode row := by
  obtain ⟨professor, plain, rfl⟩ := written
  exact ⟨isReadable_ofProfessor professor, professor, decode_ofProfessor plain⟩

/-- So does the row of a room. -/
theorem RoomRow.IsWritten.readsBack {row : RoomRow}
    (written : row.IsWritten Instant.IsReading) : ReadsBack isReadable decode row := by
  obtain ⟨room, plain, rfl⟩ := written
  exact ⟨isReadable_ofRoom room, room, decode_ofRoom plain⟩

/-- So does the row of a student. -/
theorem StudentRow.IsWritten.readsBack {row : StudentRow}
    (written : row.IsWritten Instant.IsReading) : ReadsBack isReadable decode row := by
  obtain ⟨student, hash, plain, rfl⟩ := written
  exact ⟨isReadable_ofStudent student hash, student, decode_ofStudent hash plain⟩

/-- What a student signs in against reads back, whatever the instant. -/
theorem StudentRow.IsWritten.loginReadsBack {clock : Instant → Prop} {row : StudentRow}
    (written : row.IsWritten clock) : ReadsBack isLoginReadable decodeLogin row := by
  obtain ⟨student, hash, -, rfl⟩ := written
  exact ⟨isLoginReadable_ofStudent student hash, _, decodeLogin_ofStudent student hash⟩

end WrittenRows

/-- No number of a search for subjects is larger, and no text longer, than it can be. -/
def SubjectQuery.isWithinLimits (query : SubjectQuery) : Bool :=
  query.limit.all (· ≤ maxPageBound) && query.offset.all (· ≤ maxPageBound) && !isTooLong query

/-- A request is not refused for its size. -/
def Operation.isWithinLimits : Operation → Bool
  -- Only a search has numbers and a text that the tables are asked with.
  | listSubjects query => query.isWithinLimits
  | _ => true

/-- Every row that is stored reads back, and the seats that are taken can be counted. -/
structure Database.Readable (db : Database) : Prop where
  departments : ∀ row ∈ db.departments,
    ReadsBack DepartmentRow.isReadable DepartmentRow.decode row
  professors : ∀ row ∈ db.professors, ReadsBack ProfessorRow.isReadable ProfessorRow.decode row
  rooms : ∀ row ∈ db.rooms, ReadsBack RoomRow.isReadable RoomRow.decode row
  students : ∀ row ∈ db.students, ReadsBack StudentRow.isReadable StudentRow.decode row
  /-- Signing in reads other cells of a student's row. -/
  logins : ∀ row ∈ db.students, ReadsBack StudentRow.isLoginReadable StudentRow.decodeLogin row
  /-- A subject is read with its meetings and with the number of seats taken. -/
  subjects : ∀ row ∈ db.subjects,
    ReadsBack Offering.isReadable Offering.decodeListing (Offering.of db row)
  meetings : ∀ row ∈ db.meetings, ReadsBack MeetingRow.isReadable MeetingRow.decode row
  enrollments : ∀ row ∈ db.enrollments,
    ReadsBack EnrollmentRow.isReadable EnrollmentRow.decode row
  /-- The seats that are taken are as many as their count says. -/
  counts : ∀ subjectId, ∃ count, db.countLiveEnrollments subjectId = .ok count ∧
    count.toNat = db.seatsTaken (.ofId subjectId)

namespace Database

variable {db : Database}

/-- A number up to the largest one is accepted for a stretch of a list. -/
theorem checkPageBound_eq_ok {bound : Option Nat} (name : String)
    (within : bound.all (· ≤ maxPageBound) = true) : checkPageBound name bound = .ok () := by
  -- What is not given is not checked.
  cases bound with
  | none => rfl
  | some value => exact if_pos (by simpa using within)

/-- A subject that is read with its seats counted is read without them as well. -/
theorem readsBack_of_decodeListing {offering : Offering}
    (back : ReadsBack Offering.isReadable Offering.decodeListing offering) :
    ReadsBack Offering.isReadable Offering.decode offering := by
  obtain ⟨readable, listing, listed⟩ := back
  -- The seats are counted after the subject was read.
  obtain ⟨subject, decoded, -⟩ := bind_eq_ok.mp listed
  exact ⟨readable, subject, decoded⟩

/-- A search within its limits is answered. -/
theorem Readable.listSubjects (readable : db.Readable) {query : SubjectQuery}
    (within : query.isWithinLimits = true) : ∃ listings, db.listSubjects query = .ok listings := by
  simp only [SubjectQuery.isWithinLimits, Bool.and_eq_true, Bool.not_eq_true'] at within
  obtain ⟨⟨limit, offset⟩, short⟩ := within
  -- Neither of the two numbers is too large, and the text is not too long.
  unfold Database.listSubjects
  rw [checkPageBound_eq_ok "limit" limit, ok_bind, checkPageBound_eq_ok "offset" offset, ok_bind,
    short, Bool.false_and, Bool.false_and, if_neg Bool.false_ne_true]
  refine exists_readRows fun offering member => ?_
  -- However the list is filtered, sorted and cut, only stored subjects are in it.
  obtain ⟨row, row_mem, rfl⟩ := List.mem_map.mp member
  have selected := Cell.mem_sortOn.mp (mem_of_mem_page row_mem)
  exact readable.subjects row (List.mem_filter.mp selected).1

/-- What is written reads back, if the seats that are taken can be counted. -/
theorem Written.readable (written : db.Written Instant.IsReading)
    (counted : ∀ subjectId, db.seatsTaken (.ofId subjectId) < UInt32.size) : db.Readable where
  departments row member := (written.departments row member).readsBack
  professors row member := (written.professors row member).readsBack
  rooms row member := (written.rooms row member).readsBack
  students row member := (written.students row member).readsBack
  logins row member := (written.students row member).loginReadsBack
  subjects row member := by
    obtain ⟨subject, rfl, readable, decoded⟩ := written.offering member
    -- The key of the row is an identifier, for which the seats were counted.
    obtain ⟨count, taken⟩ :
        ∃ count, Cell.countOf (db.seatsTaken (.ofId subject.subjectId)) = .ok count :=
      ⟨_, Cell.countOf_natCast (counted subject.subjectId)⟩
    refine ⟨readable, .ofSubject subject count, ?_⟩
    rw [Offering.decodeListing, decoded, ok_bind]
    change Cell.countOf (db.seatsTaken (.ofId subject.subjectId)) >>= _ = _
    rw [taken, ok_bind, pure_eq_ok]
  meetings row member := by
    -- A meeting that was written has a shape and reads as itself.
    obtain ⟨slot, decoded, readable, -⟩ := written.meeting member
    exact ⟨readable, slot, decoded⟩
  enrollments row member := by
    -- A seat that was written is one that was taken at an instant of the clock.
    obtain ⟨enrollment, plain, rfl⟩ := written.enrollments row member
    exact ⟨rfl, enrollment, EnrollmentRow.decode_ofEnrollment plain⟩
  counts subjectId :=
    ⟨_, Cell.countOf_natCast (counted subjectId),
      UInt32.toNat_ofNat_of_lt' (counted subjectId)⟩

/-- A read of written tables is answered, unless it is too large for them. -/
theorem Written.exists_answer (written : db.Written Instant.IsReading)
    (readable : db.Readable) (stamp : Stamp) {operation : Operation}
    (read : operation.isRead = true) (within : operation.isWithinLimits = true) :
    ∃ answer, (operation.step stamp db).1 = .ok answer := by
  cases operation with
  -- A list has all rows of its table, in some order.
  | listDepartments =>
    exact exists_readRows fun row member => readable.departments row (Cell.mem_sortOn.mp member)
  | listProfessors =>
    exact exists_readRows fun row member => readable.professors row (Cell.mem_sortOn.mp member)
  | listRooms =>
    exact exists_readRows fun row member => readable.rooms row (Cell.mem_sortOn.mp member)
  | listStudents =>
    exact exists_readRows fun row member => readable.students row (Cell.mem_sortOn.mp member)
  | listEnrollments =>
    exact exists_readRows fun row member => readable.enrollments row (Cell.mem_sortOn.mp member)
  | listSubjects query => exact readable.listSubjects within
  -- A single record is that of a row, if one is found.
  | getStudent id =>
    exact exists_readRow? fun row found => readable.students row (List.mem_of_find?_eq_some found)
  | studentLogin number =>
    exact exists_readRow? fun row found => readable.logins row (List.mem_of_find?_eq_some found)
  | studentExists id => exact ⟨_, rfl⟩
  | getSubject id =>
    refine exists_readRow? fun offering found => ?_
    obtain ⟨row, located, rfl⟩ := Option.map_eq_some_iff.mp found
    exact readsBack_of_decodeListing (readable.subjects row (List.mem_of_find?_eq_some located))
  | getSchedule subjectId =>
    -- A schedule has the meetings of one subject, all of which are read.
    obtain ⟨schedule, scheduled, -⟩ := written.getSchedule subjectId
    exact ⟨schedule, scheduled⟩
  | countLiveEnrollments subjectId =>
    obtain ⟨count, counted, -⟩ := readable.counts subjectId
    have step : (Operation.step stamp (.countLiveEnrollments subjectId) db).1 =
        db.countLiveEnrollments subjectId := by rw [Operation.step]
    exact ⟨count, step.trans counted⟩
  | liveEnrollments studentId =>
    refine exists_readRows fun seat member => ?_
    obtain ⟨detail, decoded, shape, -⟩ := written.seat member
    exact ⟨shape, detail, decoded⟩
  | _ => cases read

/-- In all that can be reached, every row reads back and every read is answered. -/
theorem Reachable.reads_succeed (reachable : db.Reachable Instant.InFourDigitYear) :
    db.Readable ∧ ∀ (stamp : Stamp) (operation : Operation), operation.isRead = true →
      operation.isWithinLimits = true → ∃ answer, (operation.step stamp db).1 = .ok answer := by
  have readable := reachable.readings.readable reachable.seatsTaken_lt
  exact ⟨readable, fun stamp _ read within =>
    reachable.readings.exists_answer readable stamp read within⟩

/-- After the sample, the largest stretch that can be asked for is read. -/
theorem reads_succeed_sample :
    let query : SubjectQuery :=
      ⟨some "%", none, none, some "Spring", some 9223372036854775807, some 9223372036854775807⟩
    (empty.after sampleRun).Reachable Instant.InFourDigitYear ∧ (empty.after sampleRun).Readable ∧
      query.isWithinLimits = true ∧
        ∃ listings, (empty.after sampleRun).listSubjects query = .ok listings := by
  intro query
  have reachable : (empty.after sampleRun).Reachable Instant.InFourDigitYear :=
    ⟨sampleRun, by decide, rfl⟩
  have within : query.isWithinLimits = true := by decide +kernel
  obtain ⟨readable, answered⟩ := reachable.reads_succeed
  exact ⟨reachable, readable, within, answered (.ofDigit 9) (.listSubjects query) rfl within⟩

end Database

end CourseRegistry
