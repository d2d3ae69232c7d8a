import CourseRegistry.Store.Operation

/-! What a procedure asks of the records, and what its result and its changes depend on. -/

namespace CourseRegistry

/-- A request that only looks at the tables. -/
def Operation.isRead : Operation → Bool
  | listDepartments | listProfessors | listRooms | getStudent _ | listStudents => true
  | studentLogin _ | studentExists _ | getSubject _ | listSubjects _ => true
  | getSchedule _ | countLiveEnrollments _ | liveEnrollments _ | listEnrollments => true
  | _ => false

/-- A read leaves the tables as they are. -/
theorem Operation.step_of_isRead {operation : Operation} (read : operation.isRead = true)
    (stamp : Stamp) (db : Database) : (operation.step stamp db).2 = db := by
  -- A read answers from the tables and hands the same tables on.
  cases operation with
  | listDepartments | listProfessors | listRooms | getStudent | listStudents => rfl
  | studentLogin | studentExists | getSubject | listSubjects => rfl
  | getSchedule | countLiveEnrollments | liveEnrollments | listEnrollments => rfl
  | _ => cases read

namespace Procedure

variable {α β : Type}

/-- A result that is turned into itself makes no difference. -/
theorem id_map (procedure : Procedure α) : id <$> procedure = procedure := by
  -- A procedure is a value, or a request with a procedure for each answer to it.
  induction procedure with
  | done value => rfl
  | ask operation next ih => exact congrArg (ask operation) (funext ih)

/-- Of three procedures, it makes no difference which two are put together first. -/
theorem bind_assoc {γ : Type} (first : Procedure α) (next : α → Procedure β)
    (last : β → Procedure γ) :
    first >>= next >>= last = first >>= fun value => next value >>= last := by
  induction first with
  | done value => rfl
  | ask operation rest ih => exact congrArg (ask operation) (funext ih)

instance : LawfulMonad Procedure :=
  LawfulMonad.mk' Procedure id_map (fun _ _ => rfl) bind_assoc

/-- One procedure after another is carried out on the tables that the first one leaves behind. -/
theorem run_bind (stamp : Stamp) (first : Procedure α) (next : α → Procedure β) (db : Database) :
    (first >>= next).run stamp db =
      (next (first.run stamp db).1).run stamp (first.run stamp db).2 := by
  induction first generalizing db with
  | done value => rfl
  | ask operation rest ih => exact ih _ _

/-- A result that is turned into another one leaves the same tables behind. -/
theorem run_map (stamp : Stamp) (turn : α → β) (procedure : Procedure α) (db : Database) :
    (turn <$> procedure).run stamp db =
      (turn (procedure.run stamp db).1, (procedure.run stamp db).2) := by
  induction procedure generalizing db with
  | done value => rfl
  | ask operation rest ih => exact ih _ _

/-- What comes after a request is carried out on what the request left, with its answer. -/
theorem run_request {ε : Type} (stamp : Stamp) (operation : Operation)
    (next : Except StoreError operation.Answer → ExceptT ε Procedure α) (db : Database) :
    (liftM (request operation) >>= next : ExceptT ε Procedure α).run.run stamp db =
      (next (operation.step stamp db).1).run.run stamp (operation.step stamp db).2 := by
  rfl

/-- A procedure has come to its end when it makes no further request. -/
def IsDone : Procedure α → Prop
  | done _ => True
  | ask .. => False

/--
Each request of a procedure is admitted, whatever the requests before it were answered with.
The last one may change the tables, and all others only look at them.
-/
def Asks (admitted : Operation → Prop) : Procedure α → Prop
  | done _ => True
  | ask operation next => admitted operation ∧
      ((operation.isRead = true ∧ ∀ answer, (next answer).Asks admitted) ∨
        ∀ answer, (next answer).IsDone)

/-- One procedure after another has come to its end when both have. -/
theorem IsDone.bind {first : Procedure α} (ended : first.IsDone) {next : α → Procedure β}
    (last : ∀ value, (next value).IsDone) : (first >>= next).IsDone := by
  cases first with
  -- Only a value is left of a procedure that has come to its end.
  | done value => exact last value
  | ask operation rest => exact ended.elim

/-- Turning the result into another one takes no request. -/
theorem Asks.map {admitted : Operation → Prop} {procedure : Procedure α}
    (asks : procedure.Asks admitted) (turn : α → β) : (turn <$> procedure).Asks admitted := by
  -- The induction is on the requests, the first of which is answered alike on both sides.
  induction procedure with
  | done value => trivial
  | ask operation next ih =>
    obtain ⟨admits, more | last⟩ := asks
    -- What follows a request is turned in the same way as before.
    · exact ⟨admits, Or.inl ⟨more.1, fun answer => ih answer (more.2 answer)⟩⟩
    · exact ⟨admits, Or.inr fun answer => (last answer).bind fun _ => trivial⟩

/-- A procedure that has come to its end gives its result on any tables, and leaves them alone. -/
theorem IsDone.run_eq {procedure : Procedure α} (ended : procedure.IsDone) (stamp : Stamp)
    (db other : Database) : procedure.run stamp db = ((procedure.run stamp other).1, db) := by
  cases procedure with
  | done value => rfl
  | ask operation next => exact ended.elim

/--
Where two databases answer each admitted request alike, a procedure has the same result on both.
Either it leaves both alone, or one admitted request makes the change to each.
-/
theorem Asks.run_eq {admitted : Operation → Prop} {procedure : Procedure α}
    (asks : procedure.Asks admitted) {stamp : Stamp} {db other : Database}
    (same : ∀ operation, admitted operation →
      (operation.step stamp db).1 = (operation.step stamp other).1) :
    (procedure.run stamp db).1 = (procedure.run stamp other).1 ∧
      (((procedure.run stamp db).2 = db ∧ (procedure.run stamp other).2 = other) ∨
        ∃ operation, admitted operation ∧
          (procedure.run stamp db).2 = (operation.step stamp db).2 ∧
          (procedure.run stamp other).2 = (operation.step stamp other).2) := by
  induction procedure with
  | done value => exact ⟨rfl, Or.inl ⟨rfl, rfl⟩⟩
  | ask operation next ih =>
    obtain ⟨admits, more | last⟩ := asks
    · -- After a read both databases are as before, and the procedure goes on with one answer.
      obtain ⟨read, more⟩ := more
      have here := Operation.step_of_isRead read stamp db
      have there := Operation.step_of_isRead read stamp other
      simp only [run, here, there, ← same operation admits]
      exact ih _ (more _)
    · -- After the last request only the result is left to be given.
      have ended := last (operation.step stamp db).1
      simp only [run, ← same operation admits]
      rw [ended.run_eq stamp (operation.step stamp db).2 (operation.step stamp other).2]
      exact ⟨rfl, Or.inr ⟨operation, admits, rfl, congrArg Prod.snd (ended.run_eq stamp _ db)⟩⟩

/-- A procedure leaves the tables alone, or one admitted request makes the change to them. -/
theorem Asks.run_cases {admitted : Operation → Prop} {procedure : Procedure α}
    (asks : procedure.Asks admitted) (stamp : Stamp) (db : Database) :
    (procedure.run stamp db).2 = db ∨ ∃ operation, admitted operation ∧
      (procedure.run stamp db).2 = (operation.step stamp db).2 :=
  -- The same tables on both sides answer every request alike.
  (asks.run_eq fun _ _ => rfl).2.imp And.left fun ⟨operation, admits, changed, _⟩ =>
    ⟨operation, admits, changed⟩

end Procedure

end CourseRegistry
