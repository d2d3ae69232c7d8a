import CourseRegistry.Store.People
import CourseRegistry.Text.Pattern

/-! Operations on subjects and their meetings. -/

namespace CourseRegistry

namespace Database

/-- A new subject has a name and seats, and refers to existing records only. -/
def addSubject (stamp : Stamp) (input : NewSubject) : Change Subject := fun db =>
  match input.validate with
  | .error refusal => (.error (.refused refusal), db)
  | .ok () =>
    let subject : Subject :=
      ⟨stamp.id, input.name, input.credits, input.capacity, input.semester, input.professorId,
        input.departmentId, stamp.now, []⟩
    -- The professor is looked at before the department.
    match db.checkReferences
      [(.professor, input.professorId), (.department, input.departmentId)] with
    | .error error => (.error error, db)
    | .ok () =>
      if db.has .subject stamp.id then (.error .database, db)
      else (.ok subject, { db with subjects := db.subjects ++ [.ofSubject subject] })

/-- A subject's row with the rows of its meetings. -/
structure Offering where
  subject : SubjectRow
  meetings : List MeetingRow
  /-- How many seats are taken. -/
  taken : Nat

namespace Offering

/-- What the tables hold of a subject. -/
def of (db : Database) (row : SubjectRow) : Offering :=
  ⟨row, db.meetingsOf row.subjectId, db.seatsTaken row.subjectId⟩

/-- Each cell has the right shape. -/
def isReadable (offering : Offering) : Bool :=
  offering.subject.isReadable && offering.meetings.all MeetingRow.isReadable

/-- The subject with its meetings, which are looked at first. -/
def decode (offering : Offering) : Except StoreError Subject := do
  offering.subject.decode (← offering.meetings.mapM MeetingRow.decode)

/-- The subject with its seats counted. -/
def decodeListing (offering : Offering) : Except StoreError SubjectListing := do
  let subject ← offering.decode
  -- The count is looked at last.
  return .ofSubject subject (← Cell.countOf offering.taken)

end Offering

/-- A subject by identifier. -/
def getSubject (db : Database) (id : Uuid) : Except StoreError (Option Subject) :=
  readRow? Offering.isReadable Offering.decode
    ((db.subjects.find? (·.subjectId == .ofId id)).map (Offering.of db))

/-- The largest number that a stretch of a list may be given by. -/
def maxPageBound : Nat := Int64.maxValue.toInt.toNat

/-- A number that a stretch of a list is given by. -/
def checkPageBound (name : String) : Option Nat → Except StoreError Unit
  | none => .ok ()
  | some value =>
    if value ≤ maxPageBound then .ok ()
    else
      let text := name ++ " out of range: " ++ String.ofList (Text.digits value)
      .error (.refused (.invalidRequest text))

/-- A cell holds what is asked for, if anything is. -/
def isWanted {α : Type} (write : α → Cell) (wanted : Option α) (cell : Cell) : Bool :=
  match wanted with
  | none => true
  | some value => cell == write value

/-- A cell holds a name that is searched for, if one is. -/
def isNamed (wanted : Option String) (cell : Cell) : Bool :=
  match wanted, cell with
  -- Without a search every name will do.
  | none, _ => true
  | some text, .text name => Text.nameMatches text name
  | some _, _ => false

/-- A subject's row is asked for. -/
def isSelected (query : SubjectQuery) (row : SubjectRow) : Bool :=
  isNamed query.text row.name && isWanted .ofId query.departmentId row.departmentId &&
    isWanted .ofId query.professorId row.professorId && isWanted .text query.semester row.semester

/-- The text searched for is longer than any search can be. -/
def isTooLong (query : SubjectQuery) : Bool :=
  match query.text with
  | none => false
  | some text => decide (Text.maxPatternSize < Text.patternSize text)

/-- The stretch of a list that is asked for. -/
def page {α : Type} (query : SubjectQuery) (items : List α) : List α :=
  let rest := items.drop (query.offset.getD 0)
  match query.limit with
  | none => rest
  | some limit => rest.take limit

/-- The subjects asked for, by name and then by identifier. -/
def listSubjects (db : Database) (query : SubjectQuery) :
    Except StoreError (List SubjectListing) := do
  checkPageBound "limit" query.limit
  checkPageBound "offset" query.offset
  -- The length of a search is noticed when the first row is compared, and only then.
  if isTooLong query && !db.subjects.isEmpty && query.limit != some 0 then .error .database
  else
    readRows Offering.isReadable Offering.decodeListing
      ((page query (Cell.sortOn (fun row => [row.name, row.subjectId])
        (db.subjects.filter (isSelected query)))).map (Offering.of db))

/-- The row of a subject after a change to it. -/
def patched (patch : SubjectPatch) (row : SubjectRow) : SubjectRow :=
  { row with
    name := (patch.name.map Cell.text).getD row.name
    credits := (patch.credits.map Cell.ofCount).getD row.credits
    capacity := (patch.capacity.map Cell.ofCount).getD row.capacity
    semester := (patch.semester.map Cell.text).getD row.semester
    professorId := (patch.professorId.map (Cell.ofOption Cell.ofId)).getD row.professorId
    departmentId := (patch.departmentId.map (Cell.ofOption Cell.ofId)).getD row.departmentId }

/-- A number that is at least the given one; a text is never too small. -/
def isAtLeast (least : Int) : Cell → Bool
  | .integer value => decide (least ≤ value)
  | .text _ => true
  | .null => false

/-- A row that the table of subjects takes: no number is too small, and each reference holds. -/
def isSound (db : Database) (row : SubjectRow) : Bool :=
  isAtLeast 0 row.credits && isAtLeast 1 row.capacity &&
    db.isReference .professor row.professorId && db.isReference .department row.departmentId

/-- A subject is changed; the change stays even if the row cannot be read back. -/
def updateSubject (id : Uuid) (patch : SubjectPatch) : Change (Option Subject) := fun db =>
  match patch.validate with
  | .error refusal => (.error (.refused refusal), db)
  | .ok () =>
    -- A patch that is not valid is refused even where there is no subject to change.
    match db.subjects.find? (·.subjectId == .ofId id) with
    | none => (.ok none, db)
    | some row =>
      match db.checkReferences
        [(.professor, patch.professorId.join), (.department, patch.departmentId.join)] with
      | .error error => (.error error, db)
      | .ok () =>
        -- What the patch leaves alone is checked again too.
        if db.isSound (patched patch row) then
          let rows := replaceRow (·.subjectId == .ofId id) (patched patch row) db.subjects
          let changed := { db with subjects := rows }
          (changed.getSubject id, changed)
        else (.error .database, db)

/-- A subject is deleted with its meetings and all seats in it. -/
def deleteSubject (id : Uuid) : Change Bool := fun db =>
  if db.has .subject id then
    (.ok true, { db with
      -- Nothing that belonged to the subject is left.
      subjects := db.subjects.filter (·.subjectId != .ofId id)
      meetings := db.meetings.filter (·.subjectId != .ofId id)
      enrollments := db.enrollments.filter (!·.isIn id) })
  else (.ok false, db)

/-- A new meeting belongs to an existing subject and is held in an existing room, or in none. -/
def addMeeting (stamp : Stamp) (subjectId : Uuid) (input : NewMeeting) :
    Change MeetingSlot := fun db =>
  match input.timeRange with
  | .error refusal => (.error (.refused refusal), db)
  | .ok time =>
    let slot : MeetingSlot := ⟨stamp.id, subjectId, input.day, time, input.roomId⟩
    match db.checkReferences [(.subject, some subjectId), (.room, input.roomId)] with
    | .error error => (.error error, db)
    | .ok () =>
      if db.has .meeting stamp.id then (.error .database, db)
      else (.ok slot, { db with meetings := db.meetings ++ [.ofMeeting slot] })

/-- A meeting is taken off the schedule. -/
def removeMeeting (id : Uuid) : Change Bool := fun db =>
  if db.has .meeting id then
    (.ok true, { db with meetings := db.meetings.filter (·.slotId != .ofId id) })
  else (.ok false, db)

/-- The meetings of a subject, which need not exist. -/
def getSchedule (db : Database) (subjectId : Uuid) : Except StoreError (List MeetingSlot) :=
  readRows MeetingRow.isReadable MeetingRow.decode (db.meetingsOf (.ofId subjectId))

end Database

end CourseRegistry
