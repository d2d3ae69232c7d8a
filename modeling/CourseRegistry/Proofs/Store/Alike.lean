import CourseRegistry.Proofs.Store.Cell
import CourseRegistry.Store.Operation

/-!
Tables that are alike for a student, or for one seat of a student.
What the student may ask about is the same in both, and who else there is makes no difference.
-/

namespace CourseRegistry

namespace Database

/-- A stretch of a list has nothing that the list does not have. -/
theorem mem_of_mem_page {α : Type} {query : SubjectQuery} {items : List α} {item : α}
    (member : item ∈ page query items) : item ∈ items := by
  unfold page at member
  -- A list is cut at its start, and perhaps at its end as well.
  split at member
  · exact List.mem_of_mem_drop member
  · exact List.mem_of_mem_drop (List.mem_of_mem_take member)

/-- A student holds a seat when it is among the student's seats. -/
theorem holdsSeat_eq (db : Database) (studentId subjectId : Uuid) :
    db.holdsSeat studentId subjectId =
      (db.enrollments.filter (·.isOf studentId)).any (·.isIn subjectId) :=
  List.any_filter.symm

/-- A student exists when the student's record is found. -/
theorem has_student_eq (db : Database) (id : Uuid) :
    db.has .student id = (db.students.find? (·.studentId == .ofId id)).isSome :=
  List.isSome_find?.symm

/-- Two databases hold the same of what concerns the seat of a student in a subject. -/
structure AlikeForSeat (studentId subjectId : Uuid) (db other : Database) : Prop where
  subjects : db.subjects = other.subjects
  meetings : db.meetings = other.meetings
  /-- The student exists in both or in neither. -/
  known : db.has .student studentId = other.has .student studentId
  /-- The student's own seats, in whichever subjects. -/
  seats : db.enrollments.filter (·.isOf studentId) = other.enrollments.filter (·.isOf studentId)
  /-- How many seats of the subject are taken, if there is such a subject. -/
  taken : ∀ row ∈ db.subjects, row.subjectId = .ofId subjectId →
    db.seatsTaken (.ofId subjectId) = other.seatsTaken (.ofId subjectId)

namespace AlikeForSeat

variable {studentId subjectId : Uuid} {db other : Database}
  (alike : AlikeForSeat studentId subjectId db other)

include alike

/-- The student holds the seat in both or in neither. -/
theorem holdsSeat : db.holdsSeat studentId subjectId = other.holdsSeat studentId subjectId := by
  -- Only seats of the student can be the one that is held.
  rw [holdsSeat_eq, holdsSeat_eq, alike.seats]

/-- What the decision on the seat depends on is the same. -/
theorem snapshot (policy : AdmissionPolicy) :
    db.snapshot studentId subjectId policy = other.snapshot studentId subjectId policy := by
  -- The meetings that are held belong to the student's own seats.
  have held : db.heldMeetings studentId = other.heldMeetings studentId := by
    simp only [heldMeetings, alike.seats, alike.meetings]
  have schedule : db.meetingsOf (.ofId subjectId) = other.meetingsOf (.ofId subjectId) := by
    simp only [meetingsOf, alike.meetings]
  unfold Database.snapshot
  rw [alike.holdsSeat, held, ← alike.subjects, schedule]
  -- The number of seats taken is asked for only where the subject exists.
  cases found : db.subjects.find? (·.subjectId == .ofId subjectId) with
  | none => rfl
  | some row =>
    have key : row.subjectId = .ofId subjectId := by simpa using List.find?_some found
    simp only [alike.taken row (List.mem_of_find?_eq_some found) key]

/-- The student is given the same answer on the seat, when its identifier is new to both. -/
theorem grantSeat {stamp : Stamp}
    (newId : ∀ row ∈ db.enrollments ++ other.enrollments, row.enrollmentId ≠ .ofId stamp.id)
    (policy : AdmissionPolicy) :
    (Database.grantSeat stamp studentId subjectId policy db).1 =
      (Database.grantSeat stamp studentId subjectId policy other).1 := by
  -- The identifier is new to either of the two tables of seats.
  have free : db.enrollments.any (·.enrollmentId == .ofId stamp.id) = false := by
    simpa using fun row member => newId row (List.mem_append_left _ member)
  have otherFree : other.enrollments.any (·.enrollmentId == .ofId stamp.id) = false := by
    simpa using fun row member => newId row (List.mem_append_right _ member)
  simp only [Database.grantSeat, alike.snapshot, free, otherFree, alike.known]
  -- What is decided is the same, and the answer follows from it.
  split
  · rfl
  · split
    · rfl
    · -- A seat that is decided on is stored where the student exists.
      rw [if_neg Bool.false_ne_true, if_neg Bool.false_ne_true]
      split <;> rfl

/-- The student is given the same answer when giving the seat back. -/
theorem releaseSeat :
    (Database.releaseSeat studentId subjectId db).1 =
      (Database.releaseSeat studentId subjectId other).1 := by
  simp only [Database.releaseSeat, alike.holdsSeat]
  -- The answer says whether the seat was held.
  split <;> rfl

end AlikeForSeat

/-- Two databases hold the same of what concerns a student. -/
structure AlikeFor (me : Uuid) (db other : Database) : Prop where
  subjects : db.subjects = other.subjects
  meetings : db.meetings = other.meetings
  /-- The student's own record, if there is one. -/
  record : db.students.find? (·.studentId == .ofId me) =
    other.students.find? (·.studentId == .ofId me)
  /-- The student's own seats. -/
  seats : db.enrollments.filter (·.isOf me) = other.enrollments.filter (·.isOf me)
  /-- How many seats are taken in each subject, whoever holds them. -/
  taken : ∀ row ∈ db.subjects, db.seatsTaken row.subjectId = other.seatsTaken row.subjectId

namespace AlikeFor

variable {me : Uuid} {db other : Database} (alike : AlikeFor me db other)

include alike

/-- A subject has the same meetings in both. -/
theorem meetingsOf (cell : Cell) : db.meetingsOf cell = other.meetingsOf cell := by
  simp only [Database.meetingsOf, alike.meetings]

/-- A subject comes with the same meetings and the same number of seats taken. -/
theorem offering {row : SubjectRow} (member : row ∈ db.subjects) :
    Offering.of db row = Offering.of other row := by
  -- The meetings and the seats of the subject are looked up by its key.
  simp only [Offering.of, alike.meetingsOf, alike.taken row member]

/-- A subject reads alike. -/
theorem getSubject (id : Uuid) : db.getSubject id = other.getSubject id := by
  unfold Database.getSubject
  rw [← alike.subjects]
  -- A subject that is found is one of the rows, for which the number of seats is the same.
  cases found : db.subjects.find? (·.subjectId == .ofId id) with
  | none => rfl
  | some row =>
    have member := List.mem_of_find?_eq_some found
    rw [Option.map_some, Option.map_some, alike.offering member]

/-- So does each list of subjects. -/
theorem listSubjects (query : SubjectQuery) : db.listSubjects query = other.listSubjects query := by
  -- Only stored subjects come into the list, however it is sorted and cut.
  have offerings : (page query (Cell.sortOn (fun row => [row.name, row.subjectId])
        (db.subjects.filter (isSelected query)))).map (Offering.of db) =
      (page query (Cell.sortOn (fun row => [row.name, row.subjectId])
        (db.subjects.filter (isSelected query)))).map (Offering.of other) := by
    refine List.map_congr_left fun row member => alike.offering ?_
    exact (List.mem_filter.mp (Cell.mem_sortOn.mp (mem_of_mem_page member))).1
  simp only [Database.listSubjects, ← alike.subjects, offerings]

/-- The student's record reads alike. -/
theorem getStudent : db.getStudent me = other.getStudent me := by
  unfold Database.getStudent
  rw [alike.record]

/-- The student exists in both or in neither. -/
theorem has_student : db.has .student me = other.has .student me := by
  rw [has_student_eq, has_student_eq, alike.record]

/-- The student's timetable reads alike. -/
theorem liveEnrollments : db.liveEnrollments me = other.liveEnrollments me := by
  -- A timetable is made of the student's seats, of subjects and of meetings.
  simp only [Database.liveEnrollments, seatsOf, alike.seats, alike.subjects, alike.meetingsOf]

/-- What concerns the seat of the student in some subject is the same. -/
theorem forSeat (subjectId : Uuid) : AlikeForSeat me subjectId db other where
  subjects := alike.subjects
  meetings := alike.meetings
  known := alike.has_student
  seats := alike.seats
  taken row member key := key ▸ alike.taken row member

/-- The student is given the same answer on a seat, when its identifier is new to both. -/
theorem grantSeat {stamp : Stamp}
    (newId : ∀ row ∈ db.enrollments ++ other.enrollments, row.enrollmentId ≠ .ofId stamp.id)
    (subjectId : Uuid) (policy : AdmissionPolicy) :
    (Database.grantSeat stamp me subjectId policy db).1 =
      (Database.grantSeat stamp me subjectId policy other).1 :=
  (alike.forSeat subjectId).grantSeat newId policy

/-- The student is given the same answer when giving up a seat. -/
theorem releaseSeat (subjectId : Uuid) :
    (Database.releaseSeat me subjectId db).1 = (Database.releaseSeat me subjectId other).1 :=
  (alike.forSeat subjectId).releaseSeat

end AlikeFor

end Database

end CourseRegistry
