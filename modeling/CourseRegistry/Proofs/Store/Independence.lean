import CourseRegistry.Proofs.Store.Alike
import CourseRegistry.Proofs.Store.LifeCycle

/-!
Requests of different students about seats in different subjects are independent.
They are answered alike in either order, and leave the same rows behind.
-/

namespace CourseRegistry

open Database

/-- The operation asks for the seat of a student in a subject, or gives it back. -/
inductive Operation.IsAbout (studentId subjectId : Uuid) : Operation → Prop where
  | grant (policy : AdmissionPolicy) :
    IsAbout studentId subjectId (.grantSeat studentId subjectId policy)
  | release : IsAbout studentId subjectId (.releaseSeat studentId subjectId)

/-- The rows after what was told of a seat: its row is gone, unless it is that of a new seat. -/
def reseat (studentId subjectId : Uuid) (event : Option SeatEvent) (rows : List EnrollmentRow) :
    List EnrollmentRow :=
  match event with
  | none => rows
  | some event =>
    rows.filter (fun row => !(row.isOf studentId && row.isIn subjectId)) ++
      event.seat?.toList.map .ofEnrollment

/-- An event gives no other seat than that of the student in the subject. -/
def SeatEvent.IsOf (studentId subjectId : Uuid) (event : SeatEvent) : Prop :=
  ∀ seat ∈ event.seat?, seat.studentId = studentId ∧ seat.subjectId = subjectId

section Reseat

variable {studentId subjectId : Uuid} {event : Option SeatEvent} {rows : List EnrollmentRow}

/-- Rows that have nothing to do with a seat stay the same, whatever is told of it. -/
theorem filter_reseat (own : ∀ told ∈ event, told.IsOf studentId subjectId)
    {keeps : EnrollmentRow → Bool}
    (apart : ∀ row, (row.isOf studentId && row.isIn subjectId) = true → keeps row = false) :
    (reseat studentId subjectId event rows).filter keeps = rows.filter keeps := by
  cases event with
  | none => rfl
  | some told =>
    -- The row that may be taken away is not looked at, and neither is the one that may be new.
    have kept : ∀ row, keeps row = true → (!(row.isOf studentId && row.isIn subjectId)) = true := by
      intro row keep
      rw [Bool.not_eq_true', Bool.eq_false_iff]
      intro isIt
      rw [apart row isIt] at keep
      cases keep
    have none_new : (told.seat?.toList.map EnrollmentRow.ofEnrollment).filter keeps = [] := by
      refine List.filter_eq_nil_iff.mpr fun row member => ?_
      obtain ⟨seat, seat_mem, rfl⟩ := List.mem_map.mp member
      obtain ⟨student, subject⟩ := own told rfl seat (Option.mem_toList.mp seat_mem)
      rw [apart _ (by simp [student, subject])]
      exact Bool.false_ne_true
    rw [reseat, List.filter_append, filter_filter_of_kept kept, none_new, List.append_nil]

/-- The row of a seat that is new is not taken away with that of another student. -/
theorem filter_new {told : SeatEvent} (own : told.IsOf studentId subjectId) {other : Uuid}
    (students : studentId ≠ other) (elsewhere : Uuid) :
    (told.seat?.toList.map EnrollmentRow.ofEnrollment).filter
        (fun row => !(row.isOf other && row.isIn elsewhere)) =
      told.seat?.toList.map .ofEnrollment := by
  -- A new row is one of its own student, who is not the other one.
  refine List.filter_eq_self.mpr fun row member => ?_
  obtain ⟨seat, seat_mem, rfl⟩ := List.mem_map.mp member
  obtain ⟨student, -⟩ := own seat (Option.mem_toList.mp seat_mem)
  simp [student, students]

/-- What was told of the seats of two students leads to the same rows in either order. -/
theorem reseat_comm {other elsewhere : Uuid} {otherEvent : Option SeatEvent}
    (own : ∀ told ∈ event, told.IsOf studentId subjectId)
    (otherOwn : ∀ told ∈ otherEvent, told.IsOf other elsewhere) (students : studentId ≠ other) :
    (reseat studentId subjectId event (reseat other elsewhere otherEvent rows)).Perm
      (reseat other elsewhere otherEvent (reseat studentId subjectId event rows)) := by
  cases event with
  | none => exact .refl _
  | some told =>
    -- Where one of the two tells nothing, there is nothing to be exchanged.
    cases otherEvent with
    | none => exact .refl _
    | some otherTold =>
      -- Taking away commutes, and the new rows are left; only their order is another one.
      simp only [reseat, List.filter_append, List.append_assoc]
      rw [filter_new (own told rfl) students, filter_new (otherOwn otherTold rfl) students.symm,
        List.filter_comm]
      exact List.perm_append_comm.append_left _

end Reseat

namespace Database

/-- The same rows are in all tables, in whichever order. -/
structure SameRows (db other : Database) : Prop where
  departments : db.departments.Perm other.departments
  professors : db.professors.Perm other.professors
  rooms : db.rooms.Perm other.rooms
  students : db.students.Perm other.students
  subjects : db.subjects.Perm other.subjects
  meetings : db.meetings.Perm other.meetings
  enrollments : db.enrollments.Perm other.enrollments

end Database

section Requests

variable (transaction : Transaction) {studentId subjectId : Uuid} {db : Database}

/-- Where a seat is not held, there is no row of it to be taken away. -/
theorem filter_of_notHeld (notHeld : db.holdsSeat studentId subjectId = false) :
    db.enrollments.filter (fun row => !(row.isOf studentId && row.isIn subjectId)) =
      db.enrollments := by
  refine List.filter_eq_self.mpr fun row member => ?_
  -- Each row is one of the seats that are not held here.
  rw [Bool.not_eq_true', Bool.eq_false_iff]
  exact List.any_eq_false.mp notHeld row member

/-- A request about a seat changes the rows of seats as its answer tells, and nothing else. -/
theorem Transaction.apply_of_isAbout (isAbout : transaction.operation.IsAbout studentId subjectId)
    (db : Database) :
    transaction.apply db = { db with
      enrollments := reseat studentId subjectId (transaction.seatEvent? studentId subjectId db)
        db.enrollments } := by
  obtain ⟨stamp, operation⟩ := transaction
  cases isAbout with
  | grant policy =>
    have told : Transaction.seatEvent? studentId subjectId db
        ⟨stamp, .grantSeat studentId subjectId policy⟩ =
        (grantedSeat? (grantSeat stamp studentId subjectId policy db).1).map .granted :=
      if_pos ⟨rfl, rfl⟩
    change (grantSeat stamp studentId subjectId policy db).2 = _
    -- What was told decides between the two ways in which the request can end.
    rw [told]
    rcases grantSeat_cases stamp db studentId subjectId policy with
      ⟨grants, -, -, granted⟩ | ⟨none_given, same⟩
    · -- A seat is granted where none is held, so that there is no row to be taken away.
      rw [granted]
      simp only [grantedSeat?, Option.map_some, reseat, filter_of_notHeld grants.notHeld]
      rfl
    · -- Where no seat is given, nothing is told.
      rw [grantedSeat?_eq_none none_given, same]
      rfl
  | release =>
    have told : Transaction.seatEvent? studentId subjectId db
        ⟨stamp, .releaseSeat studentId subjectId⟩ =
        if Operation.isSuccess (.releaseSeat studentId subjectId)
          (releaseSeat studentId subjectId db).1 then some .released else none :=
      if_congr (and_iff_right ⟨rfl, rfl⟩) rfl rfl
    change (releaseSeat studentId subjectId db).2 = _
    rw [told, releaseSeat]
    cases held : db.holdsSeat studentId subjectId with
    -- Nothing is given back that is not held.
    | false => rfl
    | true => exact congrArg (fun rows => { db with enrollments := rows }) (List.append_nil _).symm

/-- What is told of the seat is that very seat, if one was given. -/
theorem Transaction.isOf_seatEvent? (db : Database) (studentId subjectId : Uuid) :
    ∀ told ∈ transaction.seatEvent? studentId subjectId db, told.IsOf studentId subjectId := by
  rintro (seat | _ | _) told
  · -- A seat that was given is the one that could be made.
    have step := transaction.seatStep db studentId subjectId
    rw [told] at step
    rintro _ ⟨rfl⟩
    exact step.seat_eq ▸ ⟨rfl, rfl⟩
  -- No other event gives a seat.
  · rintro _ ⟨⟩
  · rintro _ ⟨⟩

/-- To a request about a seat, the tables are alike after a request about another one. -/
theorem Transaction.alikeForSeat_apply
    (isAbout : transaction.operation.IsAbout studentId subjectId) {other elsewhere : Uuid}
    (students : studentId ≠ other) (subjects : subjectId ≠ elsewhere) (db : Database) :
    AlikeForSeat other elsewhere (transaction.apply db) db := by
  have own := transaction.isOf_seatEvent? db studentId subjectId
  -- The rows that the request touches are neither of the other student nor in the other subject.
  have notOf : ∀ row : EnrollmentRow, (row.isOf studentId && row.isIn subjectId) = true →
      row.isOf other = false := by
    intro row isIt
    rw [row.isOf_eq (Bool.and_eq_true_iff.mp isIt).1, decide_eq_false students.symm]
  have notIn : ∀ row : EnrollmentRow, (row.isOf studentId && row.isIn subjectId) = true →
      row.isIn elsewhere = false := by
    intro row isIt
    rw [row.isIn_eq (Bool.and_eq_true_iff.mp isIt).2, decide_eq_false subjects.symm]
  -- Subjects, meetings and students are the same, and so are the rows that the other looks at.
  rw [transaction.apply_of_isAbout isAbout]
  exact
    { subjects := rfl
      meetings := rfl
      known := rfl
      seats := filter_reseat own notOf
      taken := fun _ _ _ => congrArg List.length (filter_reseat own notIn) }

/-- A request about a seat is answered alike on tables that are alike for it. -/
theorem Transaction.answer_of_alikeForSeat
    (isAbout : transaction.operation.IsAbout studentId subjectId) {other : Database}
    (alike : AlikeForSeat studentId subjectId db other) (newId : transaction.HasNewId db)
    (otherNewId : transaction.HasNewId other) :
    transaction.answer db = transaction.answer other := by
  obtain ⟨stamp, operation⟩ := transaction
  cases isAbout with
  | grant policy =>
    -- Only here an identifier is needed, and it is new to both.
    exact alike.grantSeat
      (List.forall_mem_append.mpr ⟨newId stamp.id rfl, otherNewId stamp.id rfl⟩) policy
  -- To give a seat back, only the rows of that seat are looked at.
  | release => exact alike.releaseSeat

end Requests

namespace Database

/-- Two students ask for seats in two subjects, or give them back. -/
structure IndependentRequests (db : Database) (studentId subjectId other elsewhere : Uuid)
    (first second : Transaction) : Prop where
  firstAbout : first.operation.IsAbout studentId subjectId
  secondAbout : second.operation.IsAbout other elsewhere
  students : studentId ≠ other
  subjects : subjectId ≠ elsewhere
  -- A seat that is asked for gets an identifier that no other seat has.
  firstNewId : first.HasNewId db
  secondNewId : second.HasNewId db
  distinctIds : ∀ id ∈ first.seatId?, id ∉ second.seatId?

namespace IndependentRequests

variable {db : Database} {studentId subjectId other elsewhere : Uuid} {first second : Transaction}
  (independent : db.IndependentRequests studentId subjectId other elsewhere first second)

include independent

/-- All conditions are on both requests alike, so that either may be called the first. -/
theorem symm : db.IndependentRequests other elsewhere studentId subjectId second first where
  firstAbout := independent.secondAbout
  secondAbout := independent.firstAbout
  students := independent.students.symm
  subjects := independent.subjects.symm
  firstNewId := independent.secondNewId
  secondNewId := independent.firstNewId
  distinctIds id second_id first_id := independent.distinctIds id first_id second_id

/-- A request is answered as if the other had not been made. -/
theorem answer_eq : first.answer (second.apply db) = first.answer db :=
  first.answer_of_alikeForSeat independent.firstAbout
    (second.alikeForSeat_apply independent.secondAbout independent.students.symm
      independent.subjects.symm db)
    (independent.firstNewId.apply independent.distinctIds) independent.firstNewId

/-- So it tells the same, and what both tell is what changes the rows. -/
theorem apply_eq :
    first.apply (second.apply db) = { db with
      enrollments := reseat studentId subjectId (first.seatEvent? studentId subjectId db)
        (reseat other elsewhere (second.seatEvent? other elsewhere db) db.enrollments) } := by
  -- What a request tells depends on its answer only, and the answer is the same.
  have told : first.seatEvent? studentId subjectId (second.apply db) =
      first.seatEvent? studentId subjectId db :=
    congrArg (first.operation.seatEvent? studentId subjectId) independent.answer_eq
  rw [first.apply_of_isAbout independent.firstAbout, told,
    second.apply_of_isAbout independent.secondAbout]

/--
Two students who ask for seats in two subjects, or give them back, do not get in each other's way.
Each is answered as if the other had not asked, and the same rows are there in the end.
-/
theorem requests_commute :
    first.answer (second.apply db) = first.answer db ∧
      second.answer (first.apply db) = second.answer db ∧
      (second.apply (first.apply db)).SameRows (first.apply (second.apply db)) := by
  -- Each is answered alike, by what was said and by what holds in turn.
  refine ⟨independent.answer_eq, independent.symm.answer_eq, ?_⟩
  rw [independent.apply_eq, independent.symm.apply_eq]
  -- Only the rows of seats can come in another order.
  exact ⟨.refl _, .refl _, .refl _, .refl _, .refl _, .refl _,
    reseat_comm (second.isOf_seatEvent? db other elsewhere)
      (first.isOf_seatEvent? db studentId subjectId) independent.students.symm⟩

end IndependentRequests

/-- In the sample, one student gets a seat and another gives one back, in either order. -/
theorem requests_commute_sample :
    let db := empty.after crowdedRun
    let first : Transaction := ⟨.ofDigit 11, .grantSeat (.ofDigit 9) (.ofDigit 4) .standard⟩
    let second : Transaction := ⟨.ofDigit 12, .releaseSeat (.ofDigit 1) (.ofDigit 2)⟩
    db.IndependentRequests (.ofDigit 9) (.ofDigit 4) (.ofDigit 1) (.ofDigit 2) first second ∧
      first.seatEvent? (.ofDigit 9) (.ofDigit 4) db =
        some (.granted ⟨.ofDigit 11, .ofDigit 9, .ofDigit 4, (Stamp.ofDigit 11).now⟩) ∧
      second.seatEvent? (.ofDigit 1) (.ofDigit 2) db = some .released ∧
      first.answer (second.apply db) = first.answer db ∧
      second.answer (first.apply db) = second.answer db ∧
      (second.apply (first.apply db)).SameRows (first.apply (second.apply db)) := by
  intro db first second
  -- The two students and the two subjects are different, and the identifiers are new.
  have independent :
      db.IndependentRequests (.ofDigit 9) (.ofDigit 4) (.ofDigit 1) (.ofDigit 2) first second :=
    { firstAbout := .grant .standard
      secondAbout := .release
      students := by decide
      subjects := by decide
      firstNewId := by decide +kernel
      secondNewId := by decide +kernel
      distinctIds := by decide }
  exact ⟨independent, by decide +kernel, by decide +kernel, independent.requests_commute⟩

end Database

end CourseRegistry
