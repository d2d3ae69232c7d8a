import CourseRegistry.Api.Router
import CourseRegistry.Proofs.Store.Readable

/-!
Who is blamed where stored data cannot be read.
A read that fails blames the records, with one exception: a stored meeting that does not end after
it starts is refused like one that a caller asks for.
-/

namespace CourseRegistry

open Database

/-- Whatever fails, fails in an admitted way. -/
def FailsOnly {α : Type} (admitted : StoreError → Prop) (outcome : Except StoreError α) : Prop :=
  ∀ error, outcome = .error error → admitted error

/-- The records are to blame, not the request. -/
def StoreError.IsUnavailable (error : StoreError) : Prop := error.kind = .unavailable

namespace FailsOnly

variable {α β ρ : Type} {admitted : StoreError → Prop}

/-- What succeeds does not fail. -/
theorem ok (value : α) : FailsOnly admitted (.ok value) := nofun

/-- What fails in an admitted way fails in no other. -/
theorem error {error : StoreError} (admits : admitted error) :
    FailsOnly admitted (.error error : Except StoreError α) := by
  intro other same
  cases same
  exact admits

/-- One step after another fails in the ways of either; the second is taken with a value. -/
theorem bind {first : Except StoreError α} {next : α → Except StoreError β}
    (head : FailsOnly admitted first)
    (rest : ∀ value, first = .ok value → FailsOnly admitted (next value)) :
    FailsOnly admitted (first >>= next) := by
  cases first with
  -- A first step that fails is the whole of it.
  | error cause => exact error (head cause rfl)
  | ok value => exact rest value rfl

/-- What is made of a value cannot fail. -/
theorem map {outcome : Except StoreError α} (fails : FailsOnly admitted outcome) (f : α → β) :
    FailsOnly admitted (f <$> outcome) := by
  cases outcome with
  | error cause => exact error (fails cause rfl)
  | ok value => exact ok (f value)

/-- More may be admitted. -/
theorem mono {more : StoreError → Prop} {outcome : Except StoreError α}
    (fails : FailsOnly admitted outcome) (weaker : ∀ error, admitted error → more error) :
    FailsOnly more outcome :=
  fun cause failed => weaker cause (fails cause failed)

section Rows

variable {isReadable : ρ → Bool} {decode : ρ → Except StoreError α}

/-- A list fails in the ways of its rows. -/
theorem mapM {rows : List ρ} (each : ∀ row ∈ rows, FailsOnly admitted (decode row)) :
    FailsOnly admitted (rows.mapM decode) := by
  -- By induction on the rows: one after the other is decoded, until one of them fails.
  induction rows with
  | nil => exact ok []
  | cons row rows ih =>
    rw [List.mapM_cons]
    have head := each row List.mem_cons_self
    have tail := ih fun other member => each other (List.mem_cons_of_mem row member)
    exact head.bind fun record _ => tail.bind fun records _ => ok (record :: records)

/-- Where cells may have the wrong shape, so does a list that is read in two passes. -/
theorem readRows (database : admitted .database) {rows : List ρ}
    (each : ∀ row ∈ rows, FailsOnly admitted (decode row)) :
    FailsOnly admitted (readRows isReadable decode rows) := by
  unfold CourseRegistry.readRows
  split
  · -- All cells have the right shape, and the rows are decoded.
    exact mapM each
  · -- A cell of the wrong shape is an error of the database.
    exact error database

/-- And so does a row that is looked for. -/
theorem readRow? (database : admitted .database) {row : Option ρ}
    (each : ∀ found, row = some found → FailsOnly admitted (decode found)) :
    FailsOnly admitted (readRow? isReadable decode row) := by
  cases row with
  | none => exact ok none
  | some found =>
    rw [CourseRegistry.readRow?]
    -- The row is looked at and then decoded, as those of a list are.
    split
    · exact (each found rfl).map some
    · exact error database

end Rows

end FailsOnly

namespace Cell

open StoreError (IsUnavailable)

variable (cell : Cell)

/-- The records are to blame for a cell that holds no text. -/
theorem readText_failsOnly : FailsOnly IsUnavailable cell.readText := by
  cases cell with
  | text value => exact .ok value
  -- Every other kind of value is an error of the database.
  | _ => exact .error rfl

/-- They are to blame for one that holds no number, too. -/
theorem readInteger_failsOnly : FailsOnly IsUnavailable cell.readInteger := by
  cases cell with
  | integer value => exact .ok value
  | _ => exact .error rfl

/-- Nothing at all may be in place of a value. -/
theorem readOption_failsOnly {α : Type} {read : Cell → Except StoreError α}
    (each : FailsOnly IsUnavailable (read cell)) :
    FailsOnly IsUnavailable (cell.readOption read) := by
  cases cell with
  | null => exact .ok none
  | _ => exact each.map some

/-- A text that spells no identifier is the fault of the records. -/
theorem readId_failsOnly : FailsOnly IsUnavailable cell.readId := by
  refine cell.readText_failsOnly.bind fun text _ => ?_
  -- A text is an identifier or it is not one.
  split
  · exact .ok _
  · exact .error rfl

/-- So is a text that spells no instant. -/
theorem readInstant_failsOnly : FailsOnly IsUnavailable cell.readInstant := by
  refine cell.readText_failsOnly.bind fun text _ => ?_
  split
  · exact .ok _
  · exact .error rfl

/-- So is a number that is too small or too large for a count. -/
theorem countOf_failsOnly (number : Int) : FailsOnly IsUnavailable (countOf number) := by
  unfold countOf
  -- A number is a count where it fits.
  split
  · exact .ok _
  · exact .error rfl

/-- So is a cell that holds such a number. -/
theorem readCount_failsOnly : FailsOnly IsUnavailable cell.readCount :=
  cell.readInteger_failsOnly.bind fun number _ => countOf_failsOnly number

/-- So is a number that is no day of the week. -/
theorem readWeekday_failsOnly : FailsOnly IsUnavailable cell.readWeekday := by
  refine cell.readInteger_failsOnly.bind fun number _ => ?_
  unfold weekdayOf
  -- Only the numbers from zero to six are days.
  split
  · exact .ok _
  · exact .error rfl

/-- So is a number of seconds that no day has. -/
theorem readTime_failsOnly : FailsOnly IsUnavailable cell.readTime := by
  refine cell.readInteger_failsOnly.bind fun number _ => ?_
  unfold timeOf
  -- Only the seconds of a day are times.
  split
  · exact .ok _
  · exact .error rfl

end Cell

section Rows

open StoreError (IsUnavailable)

/-- No row of a department is blamed on the caller. -/
theorem DepartmentRow.decode_failsOnly (row : DepartmentRow) :
    FailsOnly IsUnavailable row.decode := by
  -- One cell is read after the other, and the record is made once all of them are read.
  refine row.departmentId.readId_failsOnly.bind fun departmentId _ => ?_
  refine row.name.readText_failsOnly.bind fun name _ => ?_
  refine row.createdAt.readInstant_failsOnly.bind fun createdAt _ => ?_
  exact .ok _

/-- No row of a professor is, either. -/
theorem ProfessorRow.decode_failsOnly (row : ProfessorRow) :
    FailsOnly IsUnavailable row.decode := by
  -- What may be absent fails like what is there.
  have email := row.email.readOption_failsOnly row.email.readText_failsOnly
  have department := row.departmentId.readOption_failsOnly row.departmentId.readId_failsOnly
  refine row.professorId.readId_failsOnly.bind fun professorId _ => ?_
  refine row.name.readText_failsOnly.bind fun name _ => ?_
  refine email.bind fun email _ => department.bind fun departmentId _ => ?_
  refine row.createdAt.readInstant_failsOnly.bind fun createdAt _ => ?_
  exact .ok _

/-- No row of a room is, either. -/
theorem RoomRow.decode_failsOnly (row : RoomRow) : FailsOnly IsUnavailable row.decode := by
  have building := row.building.readOption_failsOnly row.building.readText_failsOnly
  refine row.roomId.readId_failsOnly.bind fun roomId _ => ?_
  refine row.name.readText_failsOnly.bind fun name _ => building.bind fun building _ => ?_
  refine row.createdAt.readInstant_failsOnly.bind fun createdAt _ => ?_
  exact .ok _

/-- No row of a student is, either. -/
theorem StudentRow.decode_failsOnly (row : StudentRow) : FailsOnly IsUnavailable row.decode := by
  have department := row.departmentId.readOption_failsOnly row.departmentId.readId_failsOnly
  -- The department and the grade may be absent.
  have grade := row.grade.readOption_failsOnly row.grade.readText_failsOnly
  refine row.studentId.readId_failsOnly.bind fun studentId _ => ?_
  refine row.studentNumber.readText_failsOnly.bind fun studentNumber _ => ?_
  refine row.name.readText_failsOnly.bind fun name _ => ?_
  refine department.bind fun departmentId _ => grade.bind fun grade _ => ?_
  refine row.createdAt.readInstant_failsOnly.bind fun createdAt _ => ?_
  exact .ok _

/-- Nor is what a student signs in against. -/
theorem StudentRow.decodeLogin_failsOnly (row : StudentRow) :
    FailsOnly IsUnavailable row.decodeLogin := by
  -- The hash may be absent, and nothing else of the row is read.
  have hash := row.passwordHash.readOption_failsOnly row.passwordHash.readText_failsOnly
  refine row.studentId.readId_failsOnly.bind fun studentId _ => hash.bind fun hash _ => ?_
  exact .ok _

/-- No row of a seat is, either. -/
theorem EnrollmentRow.decode_failsOnly (row : EnrollmentRow) :
    FailsOnly IsUnavailable row.decode := by
  -- All of the four cells are there.
  refine row.enrollmentId.readId_failsOnly.bind fun enrollmentId _ => ?_
  refine row.studentId.readId_failsOnly.bind fun studentId _ => ?_
  refine row.subjectId.readId_failsOnly.bind fun subjectId _ => ?_
  refine row.enrolledAt.readInstant_failsOnly.bind fun enrolledAt _ => ?_
  exact .ok _

/-- No row of a subject is, either, whatever its meetings are. -/
theorem SubjectRow.decode_failsOnly (row : SubjectRow) (schedule : List MeetingSlot) :
    FailsOnly IsUnavailable (row.decode schedule) := by
  -- The schedule was read before, and the row fails for its own cells only.
  have professor := row.professorId.readOption_failsOnly row.professorId.readId_failsOnly
  have department := row.departmentId.readOption_failsOnly row.departmentId.readId_failsOnly
  refine row.subjectId.readId_failsOnly.bind fun subjectId _ => ?_
  refine row.name.readText_failsOnly.bind fun name _ => ?_
  refine row.credits.readCount_failsOnly.bind fun credits _ => ?_
  refine row.capacity.readCount_failsOnly.bind fun capacity _ => ?_
  refine row.semester.readText_failsOnly.bind fun semester _ => ?_
  refine professor.bind fun professorId _ => department.bind fun departmentId _ => ?_
  refine row.createdAt.readInstant_failsOnly.bind fun createdAt _ => ?_
  exact .ok _

/-- The row of a meeting holds two times of day, of which the second is not after the first. -/
def MeetingRow.IsInverted (row : MeetingRow) (start finish : TimeOfDay) : Prop :=
  row.startSecond.readTime = .ok start ∧ row.endSecond.readTime = .ok finish ∧ finish ≤ start

/-- Reading failed on a meeting that does not end after it starts, and said so. -/
def MeetingRow.IsRefusedWith (row : MeetingRow) (error : StoreError) : Prop :=
  ∃ start finish, row.IsInverted start finish ∧ error = .refused (.emptyMeeting start finish)

/-- The row of a meeting is blamed on the caller where its times are in the wrong order. -/
theorem MeetingRow.decode_failsOnly (row : MeetingRow) :
    FailsOnly (fun error => error.IsUnavailable ∨ row.IsRefusedWith error) row.decode := by
  -- What a cell alone can fail with is admitted in any case.
  have cell {α : Type} {outcome : Except StoreError α} (fails : FailsOnly IsUnavailable outcome) :
      FailsOnly (fun error => error.IsUnavailable ∨ row.IsRefusedWith error) outcome :=
    fails.mono fun _ => Or.inl
  refine (cell row.startSecond.readTime_failsOnly).bind fun start started => ?_
  refine (cell row.endSecond.readTime_failsOnly).bind fun finish ended => ?_
  refine FailsOnly.bind ?_ fun time _ => ?_
  · -- The two times are compared by the check that is made of new meetings.
    unfold TimeRange.between
    split
    · next inverted => exact .error (Or.inr ⟨start, finish, ⟨started, ended, inverted⟩, rfl⟩)
    · exact .ok _
  · -- What is left are cells, one after the other.
    have room := row.roomId.readOption_failsOnly row.roomId.readId_failsOnly
    refine (cell row.slotId.readId_failsOnly).bind fun slotId _ => ?_
    refine (cell row.subjectId.readId_failsOnly).bind fun subjectId _ => ?_
    refine (cell row.weekday.readWeekday_failsOnly).bind fun day _ => ?_
    exact (cell room).bind fun roomId _ => .ok _

end Rows

/-- No number that a stretch of a list is given by is larger than it can be. -/
def Operation.isWithinBounds : Operation → Bool
  | listSubjects query => query.limit.all (· ≤ maxPageBound) && query.offset.all (· ≤ maxPageBound)
  | _ => true

namespace Database

open StoreError (IsUnavailable)

variable {db : Database}

/-- The records are to blame, or one of the stored meetings was refused. -/
def MayFailWith (db : Database) (error : StoreError) : Prop :=
  error.IsUnavailable ∨ ∃ row ∈ db.meetings, row.IsRefusedWith error

/-- What does not read meetings only fails for the records. -/
theorem mayFail {α : Type} {outcome : Except StoreError α}
    (fails : FailsOnly IsUnavailable outcome) : FailsOnly db.MayFailWith outcome :=
  fails.mono fun _ => Or.inl

/-- A meeting of a subject fails in its own ways, and it is stored. -/
theorem meeting_failsOnly {cell : Cell} {row : MeetingRow} (member : row ∈ db.meetingsOf cell) :
    FailsOnly db.MayFailWith row.decode := by
  -- The meeting is one of the table, which is all that matters of it.
  have stored := (mem_meetingsOf.mp member).1
  exact row.decode_failsOnly.mono fun error => Or.imp_right fun refused => ⟨row, stored, refused⟩

/-- The schedule of a subject fails in the ways of its meetings. -/
theorem schedule_failsOnly (cell : Cell) :
    FailsOnly db.MayFailWith ((db.meetingsOf cell).mapM MeetingRow.decode) :=
  FailsOnly.mapM fun _ member => meeting_failsOnly member

/-- A subject fails in the ways of its meetings and of its row. -/
theorem Offering.decode_failsOnly (row : SubjectRow) :
    FailsOnly db.MayFailWith (Offering.of db row).decode :=
  (schedule_failsOnly row.subjectId).bind fun schedule _ => mayFail (row.decode_failsOnly schedule)

/-- So does a subject with its seats counted. -/
theorem Offering.decodeListing_failsOnly (row : SubjectRow) :
    FailsOnly db.MayFailWith (Offering.of db row).decodeListing := by
  -- Counting seats fails only where there are more of them than a count can tell.
  have counted := Cell.countOf_failsOnly (db.seatsTaken row.subjectId)
  refine (Offering.decode_failsOnly row).bind fun subject _ => ?_
  exact (mayFail counted).bind fun taken _ => .ok _

/-- An entry of a timetable fails in the ways of the seat, of the subject and of its meetings. -/
theorem HeldSeat.decode_failsOnly {studentId : Uuid} {seat : HeldSeat}
    (member : seat ∈ db.seatsOf studentId) : FailsOnly db.MayFailWith seat.decode := by
  obtain ⟨row, -, -, -, subject, -, -, rfl⟩ := mem_seatsOf.mp member
  have professor := subject.professorId.readOption_failsOnly subject.professorId.readId_failsOnly
  refine (mayFail row.decode_failsOnly).bind fun enrollment _ => ?_
  refine (mayFail subject.name.readText_failsOnly).bind fun name _ => ?_
  refine (mayFail professor).bind fun professorId _ => ?_
  -- The meetings are those of the subject that the seat refers to.
  exact (schedule_failsOnly row.subjectId).bind fun schedule _ => .ok _

/-- A number of seats that is no count is not blamed on the caller. -/
theorem countLiveEnrollments_failsOnly (subjectId : Uuid) :
    FailsOnly IsUnavailable (db.countLiveEnrollments subjectId) :=
  Cell.countOf_failsOnly (db.seatsTaken (.ofId subjectId))

/-- A search fails for the records, unless its numbers are too large. -/
theorem listSubjects_failsOnly {query : SubjectQuery}
    (within : (Operation.listSubjects query).isWithinBounds = true) :
    FailsOnly db.MayFailWith (db.listSubjects query) := by
  obtain ⟨limit, offset⟩ := Bool.and_eq_true_iff.mp within
  unfold Database.listSubjects
  -- The numbers are within their bounds, so that neither of them is refused.
  rw [checkPageBound_eq_ok "limit" limit, ok_bind, checkPageBound_eq_ok "offset" offset, ok_bind]
  split
  · -- A text that is too long is found out by the storage, and not by a check of the request.
    exact .error (Or.inl rfl)
  · refine FailsOnly.readRows (Or.inl rfl) fun offering member => ?_
    obtain ⟨row, -, rfl⟩ := List.mem_map.mp member
    exact Offering.decodeListing_failsOnly row

/-- A read fails for the records, or on a stored meeting that is refused. -/
theorem Operation.read_failsOnly {operation : Operation} (read : operation.isRead = true)
    (within : operation.isWithinBounds = true) (stamp : Stamp) :
    FailsOnly db.MayFailWith (operation.step stamp db).1 := by
  have database : db.MayFailWith .database := Or.inl rfl
  cases operation with
  | listDepartments => exact .readRows database fun row _ => mayFail row.decode_failsOnly
  | listProfessors => exact .readRows database fun row _ => mayFail row.decode_failsOnly
  | listRooms => exact .readRows database fun row _ => mayFail row.decode_failsOnly
  | getStudent => exact .readRow? database fun row _ => mayFail row.decode_failsOnly
  | listStudents => exact .readRows database fun row _ => mayFail row.decode_failsOnly
  | studentLogin => exact .readRow? database fun row _ => mayFail row.decodeLogin_failsOnly
  | studentExists => exact .ok _
  -- A subject is found with its meetings, and may fail on one of them.
  | getSubject =>
    refine .readRow? database fun offering found => ?_
    obtain ⟨row, -, rfl⟩ := Option.map_eq_some_iff.mp found
    exact Offering.decode_failsOnly row
  | listSubjects => exact listSubjects_failsOnly within
  | getSchedule => exact .readRows database fun row member => meeting_failsOnly member
  | countLiveEnrollments subjectId =>
    -- The step is rewritten, since comparing it with a count would compute with the largest one.
    have step : (Operation.step stamp (.countLiveEnrollments subjectId) db).1 =
        db.countLiveEnrollments subjectId := by rw [Operation.step]
    intro error failed
    exact mayFail (countLiveEnrollments_failsOnly subjectId) error (step.symm.trans failed)
  | liveEnrollments => exact .readRows database fun seat member => HeldSeat.decode_failsOnly member
  | listEnrollments => exact .readRows database fun row _ => mayFail row.decode_failsOnly
  -- Nothing else is a read.
  | _ => cases read

end Database

/-- An error that the records are to blame for is told as their failure. -/
theorem StoreError.IsUnavailable.status_ofStore {error : StoreError}
    (unavailable : error.IsUnavailable) : (ApiError.ofStore error).status = 500 := by
  -- Only what the caller got wrong is told as an invalid request.
  have kind : error.kind = .unavailable := unavailable
  rw [ApiError.ofStore, kind]
  rfl

section Reads

variable {operation : Operation}

/--
Whatever the tables hold, a read that fails blames the records, and is told as a failure of theirs.
This is so exactly where it does not fail on a stored meeting whose times are in the wrong order.
-/
theorem Operation.read_blames_records_iff (read : operation.isRead = true)
    (within : operation.isWithinBounds = true) (stamp : Stamp) (db : Database) :
    (∀ error, (operation.step stamp db).1 = .error error →
      error.kind = .unavailable ∧ (ApiError.ofStore error).status = 500) ↔
    ∀ row ∈ db.meetings, ∀ start finish, row.IsInverted start finish →
      (operation.step stamp db).1 ≠ .error (.refused (.emptyMeeting start finish)) := by
  constructor
  · intro blames row _ start finish _ failed
    -- A meeting that is refused is an invalid request.
    obtain ⟨kind, -⟩ := blames _ failed
    cases kind
  · intro unrefused error failed
    rcases Operation.read_failsOnly read within stamp error failed with
      unavailable | ⟨row, stored, start, finish, inverted, rfl⟩
    · -- What the records are to blame for is told as such.
      exact ⟨unavailable, unavailable.status_ofStore⟩
    · -- A meeting that was refused is ruled out.
      exact absurd failed (unrefused row stored start finish inverted)

end Reads

section Sample

/-- A subject with one meeting, from nine to ten, whose row was changed since. -/
def changedMeetingSample (change : MeetingRow → MeetingRow) : Database :=
  let db := empty.after [⟨.ofDigit 2, .addSubject ⟨"Logic", 3, 2, "Spring", none, none⟩⟩,
    ⟨.ofDigit 3, .addMeeting (.ofDigit 2) ⟨.monday, .ofHour 9, .ofHour 10, none⟩⟩]
  { db with meetings := db.meetings.map change }

/-- On an eighth day, the schedule cannot be read, and the records are to blame. -/
theorem read_blames_records_sample :
    let db := changedMeetingSample fun row => { row with weekday := .integer 7 }
    let operation : Operation := .getSchedule (.ofDigit 2)
    operation.isRead = true ∧ operation.isWithinBounds = true ∧
      ∃ error, (operation.step (.ofDigit 9) db).1 = .error error ∧
        error.kind = .unavailable ∧ (ApiError.ofStore error).status = 500 := by
  intro db operation
  -- The eighth day is no day of the week.
  have failed : db.getSchedule (.ofDigit 2) = .error (.undecodable (.weekday 7)) := by
    decide +kernel
  have read : operation.isRead = true := rfl
  have blames := (Operation.read_blames_records_iff read rfl (.ofDigit 9) db).mpr
    fun row _ start finish _ refused => by cases failed.symm.trans refused
  exact ⟨rfl, rfl, _, failed, blames _ failed⟩

/--
With a start at eleven, the caller is blamed who asks for the subject, or for its schedule.
The table itself takes no such row: it is one that was put into the file past the checks.
-/
theorem read_blames_caller_sample :
    let db := changedMeetingSample fun row => { row with startSecond := .integer 39600 }
    let error : StoreError := .refused (.emptyMeeting (.ofHour 11) (.ofHour 10))
    let request : Http.Request :=
      ⟨"GET", "/subjects/22222222-2222-2222-2222-222222222222", none, none, []⟩
    db.getSchedule (.ofDigit 2) = .error error ∧ db.getSubject (.ofDigit 2) = .error error ∧
      error.kind = .invalid ∧
      ((Api.answer .standard (some .admin) request).run (.ofDigit 9) db).1.status = 400 := by
  intro db error request
  exact ⟨by decide +kernel, by decide +kernel, rfl, by decide +kernel⟩

end Sample

end CourseRegistry
