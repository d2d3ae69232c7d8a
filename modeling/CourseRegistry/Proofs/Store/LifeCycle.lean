import CourseRegistry.Proofs.Store.Success
import Mathlib.Data.List.Chain
import Mathlib.Data.List.Induction

/-!
The life of a seat.
What was answered along a run tells whether a student holds a seat in a subject, and which one.
-/

namespace CourseRegistry

open Database

/-- What an answer tells about the seat of a student in a subject. -/
inductive SeatEvent where
  /-- The seat was given. -/
  | granted (seat : Enrollment)
  /-- The seat was given back. -/
  | released
  /-- The student or the subject was deleted, and the seat with it. -/
  | removed
deriving DecidableEq

/-- The seat that there is after the event. -/
def SeatEvent.seat? : SeatEvent → Option Enrollment
  | granted seat => some seat
  | _ => none

/-- The seat that a request for one was answered with. -/
def grantedSeat? : Except StoreError EnrollOutcome → Option Enrollment
  | .ok (.enrolled seat) => some seat
  | _ => none

/-- What the answer to a request tells about the seat of a student in a subject, if anything. -/
def Operation.seatEvent? (studentId subjectId : Uuid) :
    (operation : Operation) → Except StoreError operation.Answer → Option SeatEvent
  | grantSeat student subject _, answer =>
    if student = studentId ∧ subject = subjectId then (grantedSeat? answer).map .granted else none
  -- Nothing is given back or deleted where the answer is not a success.
  | releaseSeat student subject, answer =>
    if (student = studentId ∧ subject = subjectId) ∧ isSuccess (releaseSeat student subject) answer
    then some .released else none
  | deleteStudent id, answer =>
    if id = studentId ∧ isSuccess (deleteStudent id) answer then some .removed else none
  | deleteSubject id, answer =>
    if id = subjectId ∧ isSuccess (deleteSubject id) answer then some .removed else none
  -- No other answer says anything about seats.
  | _, _ => none

/-- What a transaction tells about the seat of a student in a subject. -/
def Transaction.seatEvent? (studentId subjectId : Uuid) (db : Database)
    (transaction : Transaction) : Option SeatEvent :=
  transaction.operation.seatEvent? studentId subjectId (transaction.answer db)

namespace Database

/-- What a run tells about the seat of a student in a subject, in the order in which it does. -/
def seatHistory (db : Database) (studentId subjectId : Uuid) (run : List Transaction) :
    List SeatEvent :=
  db.observed (Transaction.seatEvent? studentId subjectId) run

/-- The rows that say that a student holds a seat in a subject. -/
def seatRows (db : Database) (studentId subjectId : Uuid) : List EnrollmentRow :=
  db.enrollments.filter fun row => row.isOf studentId && row.isIn subjectId

variable {db : Database} {studentId subjectId : Uuid}

/-- A student holds a seat when there is a row of it. -/
theorem holdsSeat_iff_seatRows :
    db.holdsSeat studentId subjectId = true ↔ db.seatRows studentId subjectId ≠ [] := by
  -- A list that keeps nothing has no row that it could keep.
  rw [holdsSeat, seatRows, Ne, List.filter_eq_nil_iff, List.any_eq_true]
  simp

/-- Without a seat there is no row of it. -/
theorem seatRows_eq_nil (notHeld : db.holdsSeat studentId subjectId = false) :
    db.seatRows studentId subjectId = [] := by
  cases rows : db.seatRows studentId subjectId with
  | nil => rfl
  | cons row others =>
    -- A row would say that the seat is held.
    have held := holdsSeat_iff_seatRows.mpr (rows ▸ List.cons_ne_nil row others)
    rw [notHeld] at held
    cases held

/-- A new seat adds a row to its own rows, and none to those of any other. -/
theorem seatRows_append (db : Database) (seat : Enrollment) (studentId subjectId : Uuid) :
    seatRows { db with enrollments := db.enrollments ++ [.ofEnrollment seat] } studentId subjectId =
      db.seatRows studentId subjectId ++
        if seat.studentId = studentId ∧ seat.subjectId = subjectId then [.ofEnrollment seat]
        else [] := by
  simp [seatRows, List.filter_append, List.filter_singleton]

end Database

/-- An answer that gives no seat gives none. -/
theorem grantedSeat?_eq_none {answer : Except StoreError EnrollOutcome}
    (none_given : ∀ seat, answer ≠ .ok (.enrolled seat)) : grantedSeat? answer = none := by
  unfold grantedSeat?
  split
  · -- The only answer with a seat is the one that is ruled out.
    next seat => exact absurd rfl (none_given seat)
  · rfl

/--
What can happen to the rows of a seat, and what the answer tells about it.
A seat that is given is the one that can be made at the instant.
-/
inductive SeatStep (made : Enrollment) (rows : List EnrollmentRow) :
    Option SeatEvent → List EnrollmentRow → Prop where
  | nothing : SeatStep made rows none rows
  | granted (free : rows = []) : SeatStep made rows (some (.granted made)) [.ofEnrollment made]
  | released (held : rows ≠ []) : SeatStep made rows (some .released) []
  | removed : SeatStep made rows (some .removed) []

namespace SeatStep

variable {made seat : Enrollment} {rows changed : List EnrollmentRow}

/-- No other seat is given than the one that is made. -/
theorem seat_eq (step : SeatStep made rows (some (.granted seat)) changed) : seat = made := by
  cases step
  rfl

/-- Nothing is given back where there is nothing. -/
theorem held_of_released (step : SeatStep made rows (some .released) changed) : rows ≠ [] := by
  cases step
  assumption

end SeatStep

/-- Where rows are taken away, either all rows of a seat go or none of them does. -/
theorem seatStep_of_filter {db changed : Database} {studentId subjectId : Uuid}
    {made : Enrollment} {stays : EnrollmentRow → Bool} {goes : Prop} [Decidable goes]
    {event : SeatEvent}
    (left : changed.enrollments = db.enrollments.filter stays)
    (stays_eq : ∀ row, row.isOf studentId = true → row.isIn subjectId = true →
      stays row = !decide goes)
    (gone : goes → SeatStep made (db.seatRows studentId subjectId) (some event) []) :
    SeatStep made (db.seatRows studentId subjectId) (if goes then some event else none)
      (changed.seatRows studentId subjectId) := by
  unfold seatRows at gone ⊢
  rw [left]
  -- Every row of the seat goes where it is taken away, and otherwise every one stays.
  by_cases all : goes
  · rw [if_pos all, filter_filter_of_gone fun row is => ?_]
    · exact gone all
    · rw [Bool.and_eq_true] at is
      rw [stays_eq row is.1 is.2, decide_eq_true all, Bool.not_true]
  · rw [if_neg all, filter_filter_of_kept fun row is => ?_]
    · exact .nothing
    · rw [Bool.and_eq_true] at is
      rw [stays_eq row is.1 is.2, decide_eq_false all, Bool.not_false]

section Steps

variable (stamp : Stamp) (db : Database) (studentId subjectId : Uuid)

/-- A student who has no seat in the subject can be given one, and seats elsewhere do not count. -/
theorem grantSeat_seatStep (student subject : Uuid) (policy : AdmissionPolicy) :
    SeatStep ⟨stamp.id, studentId, subjectId, stamp.now⟩ (db.seatRows studentId subjectId)
      (if student = studentId ∧ subject = subjectId then
        (grantedSeat? (grantSeat stamp student subject policy db).1).map .granted else none)
      ((grantSeat stamp student subject policy db).2.seatRows studentId subjectId) := by
  rcases grantSeat_cases stamp db student subject policy with
    ⟨grants, -, -, granted⟩ | ⟨none_given, same⟩
  · -- The seat that is granted adds its row to the rows of its own student and subject.
    rw [granted, seatRows_append]
    by_cases it : student = studentId ∧ subject = subjectId
    · -- The seat was granted since the student did not hold it, so that its row is the only one.
      obtain ⟨rfl, rfl⟩ := it
      rw [if_pos ⟨rfl, rfl⟩, if_pos ⟨rfl, rfl⟩, seatRows_eq_nil grants.notHeld]
      exact .granted rfl
    · -- A seat elsewhere adds no row to these.
      rw [if_neg it, if_neg it, List.append_nil]
      exact .nothing
  · -- Without a grant nothing is told and nothing is changed.
    rw [grantedSeat?_eq_none none_given, same, Option.map_none, ite_self]
    exact .nothing

/-- Giving back the seat takes its row away, and giving back another one does not. -/
theorem releaseSeat_seatStep (student subject : Uuid) :
    SeatStep ⟨stamp.id, studentId, subjectId, stamp.now⟩ (db.seatRows studentId subjectId)
      (if (student = studentId ∧ subject = subjectId) ∧
          Operation.isSuccess (.releaseSeat student subject) (releaseSeat student subject db).1
        then some .released else none)
      ((releaseSeat student subject db).2.seatRows studentId subjectId) := by
  unfold releaseSeat
  cases held : db.holdsSeat student subject with
  | false =>
    -- Nothing is given back that is not held.
    rw [if_neg Bool.false_ne_true, if_neg fun both => Bool.false_ne_true both.2]
    exact .nothing
  | true =>
    rw [if_pos rfl]
    refine seatStep_of_filter rfl (fun row isOf isIn => ?_) ?_
    -- A row of this seat goes just when it is this seat that is given back.
    · rw [row.isOf_eq isOf, row.isIn_eq isIn, ← Bool.decide_and]
      exact congrArg (!·) (decide_eq_decide.mpr (and_iff_left rfl).symm)
    · -- The seat was held, and no row of it is left.
      rintro ⟨⟨rfl, rfl⟩, -⟩
      exact .released (holdsSeat_iff_seatRows.mp held)

/-- Deleting the student takes the row away, and deleting another one does not. -/
theorem deleteStudent_seatStep (id : Uuid) :
    SeatStep ⟨stamp.id, studentId, subjectId, stamp.now⟩ (db.seatRows studentId subjectId)
      (if id = studentId ∧ Operation.isSuccess (.deleteStudent id) (deleteStudent id db).1
        then some .removed else none)
      ((deleteStudent id db).2.seatRows studentId subjectId) := by
  unfold deleteStudent
  cases db.has .student id with
  | false =>
    -- An identifier of no student deletes nothing.
    rw [if_neg Bool.false_ne_true, if_neg fun both => Bool.false_ne_true both.2]
    exact .nothing
  | true =>
    rw [if_pos rfl]
    refine seatStep_of_filter rfl (fun row isOf _ => ?_) fun _ => .removed
    -- All rows at hand are of the one student, so they go where that is who is deleted.
    rw [row.isOf_eq isOf]
    exact congrArg (!·) (decide_eq_decide.mpr (and_iff_left rfl).symm)

/-- So does deleting the subject. -/
theorem deleteSubject_seatStep (id : Uuid) :
    SeatStep ⟨stamp.id, studentId, subjectId, stamp.now⟩ (db.seatRows studentId subjectId)
      (if id = subjectId ∧ Operation.isSuccess (.deleteSubject id) (deleteSubject id db).1
        then some .removed else none)
      ((deleteSubject id db).2.seatRows studentId subjectId) := by
  unfold deleteSubject
  cases db.has .subject id with
  | false =>
    -- An identifier of no subject deletes nothing.
    rw [if_neg Bool.false_ne_true, if_neg fun both => Bool.false_ne_true both.2]
    exact .nothing
  | true =>
    rw [if_pos rfl]
    refine seatStep_of_filter rfl (fun row _ isIn => ?_) fun _ => .removed
    -- All rows at hand are in the one subject.
    rw [row.isIn_eq isIn]
    exact congrArg (!·) (decide_eq_decide.mpr (and_iff_left rfl).symm)

/-- What an operation does to the rows of a seat is what its answer tells. -/
theorem Operation.seatStep (operation : Operation) :
    SeatStep ⟨stamp.id, studentId, subjectId, stamp.now⟩ (db.seatRows studentId subjectId)
      (operation.seatEvent? studentId subjectId (operation.step stamp db).1)
      ((operation.step stamp db).2.seatRows studentId subjectId) := by
  have effect := operation.step_effect stamp db
  cases operation with
  | grantSeat student subject policy =>
    exact grantSeat_seatStep stamp db studentId subjectId student subject policy
  | releaseSeat student subject =>
    exact releaseSeat_seatStep stamp db studentId subjectId student subject
  | deleteStudent id => exact deleteStudent_seatStep stamp db studentId subjectId id
  | deleteSubject id => exact deleteSubject_seatStep stamp db studentId subjectId id
  -- No other operation touches any seat.
  | _ =>
    generalize (Operation.step _ _ _).2 = changed at effect ⊢
    cases effect <;> exact .nothing

end Steps

/-- So it is for a transaction, which is an operation at an instant. -/
theorem Transaction.seatStep (transaction : Transaction) (db : Database)
    (studentId subjectId : Uuid) :
    SeatStep ⟨transaction.stamp.id, studentId, subjectId, transaction.stamp.now⟩
      (db.seatRows studentId subjectId) (transaction.seatEvent? studentId subjectId db)
      ((transaction.apply db).seatRows studentId subjectId) :=
  transaction.operation.seatStep transaction.stamp db studentId subjectId

section Identifiers

variable {db : Database}

/-- Only a request for a seat brings a new row, with the identifier that it was given. -/
theorem Transaction.mem_enrollments_apply (transaction : Transaction) {row : EnrollmentRow}
    (member : row ∈ (transaction.apply db).enrollments) :
    row ∈ db.enrollments ∨ ∃ id ∈ transaction.seatId?, row.enrollmentId = .ofId id := by
  obtain ⟨stamp, operation⟩ := transaction
  have effect := operation.step_effect stamp db
  change row ∈ (operation.step stamp db).2.enrollments at member
  -- What was changed is known by its effect, whichever operation it was.
  generalize (operation.step stamp db).2 = changed at effect member
  cases effect with
  | seatGranted =>
    refine (List.mem_append.mp member).imp_right fun new => ⟨stamp.id, rfl, ?_⟩
    exact List.mem_singleton.mp new ▸ rfl
  -- Where rows are taken away, those that are left were there before.
  | studentDeleted | subjectDeleted | seatReleased => exact .inl (List.mem_of_mem_filter member)
  | _ => exact .inl member

/-- An identifier that is new stays so until another seat is given it. -/
theorem Transaction.HasNewId.apply {transaction other : Transaction}
    (newId : transaction.HasNewId db)
    (distinct : ∀ id ∈ transaction.seatId?, id ∉ other.seatId?) :
    transaction.HasNewId (other.apply db) := by
  intro id id_mem row member
  rcases other.mem_enrollments_apply member with old | ⟨taken, taken_mem, key⟩
  · exact newId id id_mem row old
  · -- A row that has come in between has the identifier that the other request was given.
    rw [key, Ne, Cell.ofId_inj]
    rintro rfl
    exact distinct taken id_mem taken_mem

end Identifiers

/-- A seat is free, or taken away, before it is given again. -/
def SeatEvent.Before (event next : SeatEvent) : Prop :=
  event.seat? = none ∨ next.seat? = none

/-- The seat that there is after all that was told. -/
def latestSeat? (history : List SeatEvent) : Option Enrollment :=
  history.getLast?.bind SeatEvent.seat?

/-- There is a seat when the latest that was told of it is that it was given. -/
theorem latestSeat?_eq_some {history : List SeatEvent} {seat : Enrollment} :
    latestSeat? history = some seat ↔ history.getLast? = some (.granted seat) := by
  rw [latestSeat?, Option.bind_eq_some_iff]
  constructor
  · rintro ⟨event, last, gives⟩
    cases event with
    -- Only the first kind of event leaves a seat.
    | granted _ => cases gives; exact last
    | released => cases gives
    | removed => cases gives
  · exact fun last => ⟨_, last, rfl⟩

/-- What was told of a seat explains the rows of it. -/
structure Explains (history : List SeatEvent) (rows : List EnrollmentRow) : Prop where
  /-- There is a row when the latest event gave a seat, and it is the row of that seat. -/
  rows_eq : rows = (latestSeat? history).toList.map .ofEnrollment
  /-- No seat is given while there is one. -/
  alternates : history.IsChain SeatEvent.Before

namespace Explains

variable {history : List SeatEvent} {rows changed : List EnrollmentRow}

/-- At first there is nothing to explain. -/
theorem start : Explains [] [] := ⟨rfl, .nil⟩

/-- One more event can be told, if it is not the grant of a seat that is already held. -/
theorem append_event (explains : Explains history rows) {event : SeatEvent}
    (possible : rows = [] ∨ event.seat? = none)
    (changed_eq : changed = event.seat?.toList.map .ofEnrollment) :
    Explains (history ++ [event]) changed where
  rows_eq := by
    -- The rows after the event are those of the seat that it leaves.
    rw [changed_eq, latestSeat?, List.getLast?_concat, Option.bind_some]
  alternates := by
    refine explains.alternates.append (.singleton event) fun last last_mem next next_mem => ?_
    obtain rfl : event = next := Option.some.inj next_mem
    -- Where there are no rows, the event before left no seat.
    refine possible.imp (fun no_rows => ?_) id
    have latest : latestSeat? history = last.seat? := by
      rw [latestSeat?, Option.mem_def.mp last_mem, Option.bind_some]
    have nothing := explains.rows_eq.symm.trans no_rows
    rw [List.map_eq_nil_iff, Option.toList_eq_nil_iff] at nothing
    exact latest.symm.trans nothing

/-- What a step does to the rows is explained by what it tells. -/
theorem step (explains : Explains history rows) {made : Enrollment} {event : Option SeatEvent}
    (step : SeatStep made rows event changed) : Explains (history ++ event.toList) changed := by
  cases step with
  -- Where nothing is told, nothing was changed.
  | nothing => rwa [Option.toList_none, List.append_nil]
  -- A seat is given where there were no rows; the other events leave no seat.
  | granted free => exact explains.append_event (.inl free) rfl
  | released _ => exact explains.append_event (.inr rfl) rfl
  | removed => exact explains.append_event (.inr rfl) rfl

/-- The event right after a grant takes the seat away. -/
theorem taken_away {before between later : List SeatEvent} {first second : Enrollment}
    (explains : Explains (before ++ .granted first :: between ++ .granted second :: later) rows) :
    ∃ event ∈ between, event = .released ∨ event = .removed := by
  have alternates := explains.alternates
  rw [List.append_assoc] at alternates
  -- The chain that starts with the first grant tells what may come after it.
  have tail := alternates.right_of_append
  cases between with
  | nil =>
    -- Two grants never come one right after the other.
    rcases (List.isChain_cons_cons.mp tail).1 with impossible | impossible <;> cases impossible
  | cons event between =>
    refine ⟨event, List.mem_cons_self, ?_⟩
    rcases (List.isChain_cons_cons.mp tail).1 with impossible | freed
    -- The event after the first grant leaves no seat, and so it is none of a grant.
    · cases impossible
    · cases event with
      | granted _ => cases freed
      | released => exact .inl rfl
      | removed => exact .inr rfl

end Explains

namespace Database

variable {run : List Transaction} {studentId subjectId : Uuid}

/-- The last transaction of a run tells the last event, if it tells any. -/
theorem seatHistory_concat (db : Database) (studentId subjectId : Uuid) (run : List Transaction)
    (last : Transaction) :
    db.seatHistory studentId subjectId (run ++ [last]) =
      db.seatHistory studentId subjectId run ++
        (last.seatEvent? studentId subjectId (db.after run)).toList := by
  rw [seatHistory, observed_concat, seatHistory]

/-- Along any run the rows of a seat are explained by what was told of it. -/
theorem explains_after (run : List Transaction) (studentId subjectId : Uuid) :
    Explains (empty.seatHistory studentId subjectId run)
      ((empty.after run).seatRows studentId subjectId) := by
  -- By induction from the end, since it is the last transaction that finds what was told before.
  induction run using List.reverseRecOn with
  | nil => exact .start
  | append_singleton run last ih =>
    rw [seatHistory_concat, after_concat]
    exact ih.step (last.seatStep (empty.after run) studentId subjectId)

/-- A seat that was told of was made at an instant that the run has seen. -/
theorem exists_of_granted_mem {db : Database} {seat : Enrollment}
    (told : .granted seat ∈ db.seatHistory studentId subjectId run) :
    ∃ transaction ∈ run, seat.enrolledAt = transaction.stamp.now := by
  -- What is told along a run was told by one of its transactions.
  obtain ⟨transaction, member, state, shown⟩ := exists_of_mem_observed told
  have step := transaction.seatStep state studentId subjectId
  rw [shown] at step
  exact ⟨transaction, member, congrArg Enrollment.enrolledAt step.seat_eq⟩

/--
The life of a seat, along any run from empty tables.
A student holds a seat when the latest that was told of it is that it was given.
Before a seat is given again, it was given back or removed.
Only a seat that is held is given back.
The row of a seat that is held is that of the seat that was given last, and it reads back as such.
-/
theorem seat_lifeCycle (run : List Transaction)
    (readings : ∀ transaction ∈ run, transaction.stamp.now.IsReading)
    (studentId subjectId : Uuid) :
    ((empty.after run).holdsSeat studentId subjectId = true ↔
        ∃ seat, (empty.seatHistory studentId subjectId run).getLast? = some (.granted seat)) ∧
      (∀ before first between second later,
        empty.seatHistory studentId subjectId run =
            before ++ .granted first :: between ++ .granted second :: later →
          ∃ event ∈ between, event = .released ∨ event = .removed) ∧
      (∀ before transaction later, run = before ++ transaction :: later →
        transaction.seatEvent? studentId subjectId (empty.after before) = some .released →
          (empty.after before).holdsSeat studentId subjectId = true) ∧
      ∀ seat, (empty.seatHistory studentId subjectId run).getLast? = some (.granted seat) →
        (empty.after run).seatRows studentId subjectId = [.ofEnrollment seat] ∧
          (EnrollmentRow.ofEnrollment seat).decode = .ok seat := by
  have explains := explains_after run studentId subjectId
  refine ⟨?_, ?_, ?_, ?_⟩
  · rw [holdsSeat_iff_seatRows, explains.rows_eq, Ne, List.map_eq_nil_iff,
      Option.toList_eq_nil_iff, ← Ne, Option.ne_none_iff_exists']
    exact exists_congr fun _ => latestSeat?_eq_some
  -- A history that is cut at two grants is explained all the same.
  · rintro before first between second later split
    exact (split ▸ explains).taken_away
  -- A release is told of by the step that made it, which found the seat held.
  · rintro before transaction - - released
    have step := transaction.seatStep (empty.after before) studentId subjectId
    rw [released] at step
    exact holdsSeat_iff_seatRows.mpr step.held_of_released
  · intro seat last
    constructor
    · rw [explains.rows_eq, latestSeat?_eq_some.mpr last]
      rfl
    -- The seat was made at a reading of the clock, which reads back.
    · obtain ⟨transaction, member, at_now⟩ :=
        exists_of_granted_mem (List.mem_of_getLast? last)
      exact EnrollmentRow.decode_ofEnrollment (at_now ▸ readings transaction member)

/-- The sample goes on: a seat is given back, and is given again. -/
def reseatedRun : List Transaction := sampleRun ++ [
  ⟨.ofDigit 9, .releaseSeat (.ofDigit 1) (.ofDigit 4)⟩,
  ⟨.ofDigit 10, .grantSeat (.ofDigit 1) (.ofDigit 4) .standard⟩]

/-- The seat that is there in the end is the one that was given last. -/
theorem seat_lifeCycle_sample :
    let told := empty.seatHistory (.ofDigit 1) (.ofDigit 4) reseatedRun
    let seat (digit : Nat) : Enrollment :=
      ⟨.ofDigit digit, .ofDigit 1, .ofDigit 4, (Stamp.ofDigit digit).now⟩
    (∀ transaction ∈ reseatedRun, transaction.stamp.now.IsReading) ∧
      told = [.granted (seat 7), .released, .granted (seat 10)] ∧
      (empty.after reseatedRun).holdsSeat (.ofDigit 1) (.ofDigit 4) = true ∧
      (∃ event ∈ [SeatEvent.released], event = .released ∨ event = .removed) ∧
      (empty.after reseatedRun).seatRows (.ofDigit 1) (.ofDigit 4) = [.ofEnrollment (seat 10)] ∧
      (EnrollmentRow.ofEnrollment (seat 10)).decode = .ok (seat 10) := by
  intro told seat
  have readings : ∀ transaction ∈ reseatedRun, transaction.stamp.now.IsReading := by decide
  have told_eq : told = [.granted (seat 7), .released, .granted (seat 10)] := by decide +kernel
  obtain ⟨held, freed, -, row⟩ :=
    seat_lifeCycle reseatedRun readings (.ofDigit 1) (.ofDigit 4)
  -- The last that was told is the second grant, so its row is the one that is left.
  have last : told.getLast? = some (.granted (seat 10)) := told_eq ▸ rfl
  exact ⟨readings, told_eq, held.mpr ⟨_, last⟩, freed [] _ [.released] _ [] told_eq, row _ last⟩

end Database

end CourseRegistry
