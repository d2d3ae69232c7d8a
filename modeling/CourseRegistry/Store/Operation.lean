import CourseRegistry.Store.Seats

/-! All that can be asked of the records, as one type, and what each request answers and changes. -/

namespace CourseRegistry

/-- A request to the records. -/
inductive Operation where
  | addDepartment (input : NewDepartment)
  | listDepartments
  | updateDepartment (id : Uuid) (input : NewDepartment)
  | deleteDepartment (id : Uuid)
  | addProfessor (input : NewProfessor)
  | listProfessors
  | updateProfessor (id : Uuid) (input : NewProfessor)
  | deleteProfessor (id : Uuid)
  | addRoom (input : NewRoom)
  | listRooms
  | updateRoom (id : Uuid) (input : NewRoom)
  | deleteRoom (id : Uuid)
  | addStudent (input : NewStudent)
  | getStudent (id : Uuid)
  | listStudents
  | updateStudent (id : Uuid) (input : NewStudent)
  | deleteStudent (id : Uuid)
  | studentLogin (studentNumber : String)
  | studentExists (id : Uuid)
  | addSubject (input : NewSubject)
  | getSubject (id : Uuid)
  | listSubjects (query : SubjectQuery)
  | updateSubject (id : Uuid) (patch : SubjectPatch)
  | deleteSubject (id : Uuid)
  | addMeeting (subjectId : Uuid) (input : NewMeeting)
  | removeMeeting (id : Uuid)
  | getSchedule (subjectId : Uuid)
  | countLiveEnrollments (subjectId : Uuid)
  | liveEnrollments (studentId : Uuid)
  | listEnrollments
  | grantSeat (studentId subjectId : Uuid) (policy : AdmissionPolicy)
  | releaseSeat (studentId subjectId : Uuid)
deriving DecidableEq

namespace Operation

/-- What a request is answered with. -/
def Answer : Operation → Type
  | addDepartment _ => Department
  | listDepartments => List Department
  | updateDepartment .. => Option Department
  | deleteDepartment _ => Bool
  | addProfessor _ => Professor
  | listProfessors => List Professor
  | updateProfessor .. => Option Professor
  | deleteProfessor _ => Bool
  | addRoom _ => Room
  | listRooms => List Room
  | updateRoom .. => Option Room
  | deleteRoom _ => Bool
  | addStudent _ => Student
  | getStudent _ => Option Student
  | listStudents => List Student
  | updateStudent .. => Option Student
  | deleteStudent _ => Bool
  | studentLogin _ => Option StudentLogin
  | studentExists _ => Bool
  | addSubject _ => Subject
  | getSubject _ => Option Subject
  | listSubjects _ => List SubjectListing
  | updateSubject .. => Option Subject
  | deleteSubject _ => Bool
  | addMeeting .. => MeetingSlot
  | removeMeeting _ => Bool
  | getSchedule _ => List MeetingSlot
  | countLiveEnrollments _ => UInt32
  | liveEnrollments _ => List EnrollmentDetail
  | listEnrollments => List Enrollment
  | grantSeat .. => EnrollOutcome
  | releaseSeat .. => CancelOutcome

/-- A request carried out on the tables. -/
def step (stamp : Stamp) : (op : Operation) → Change op.Answer
  | addDepartment input => Database.addDepartment stamp input
  | listDepartments => fun db => (db.listDepartments, db)
  | updateDepartment id input => Database.updateDepartment id input
  | deleteDepartment id => Database.deleteDepartment id
  | addProfessor input => Database.addProfessor stamp input
  | listProfessors => fun db => (db.listProfessors, db)
  | updateProfessor id input => Database.updateProfessor id input
  | deleteProfessor id => Database.deleteProfessor id
  | addRoom input => Database.addRoom stamp input
  | listRooms => fun db => (db.listRooms, db)
  | updateRoom id input => Database.updateRoom id input
  | deleteRoom id => Database.deleteRoom id
  | addStudent input => Database.addStudent stamp input
  | getStudent id => fun db => (db.getStudent id, db)
  | listStudents => fun db => (db.listStudents, db)
  | updateStudent id input => Database.updateStudent id input
  | deleteStudent id => Database.deleteStudent id
  | studentLogin studentNumber => fun db => (db.studentLogin studentNumber, db)
  | studentExists id => fun db => (.ok (db.has .student id), db)
  | addSubject input => Database.addSubject stamp input
  | getSubject id => fun db => (db.getSubject id, db)
  | listSubjects query => fun db => (db.listSubjects query, db)
  | updateSubject id patch => Database.updateSubject id patch
  | deleteSubject id => Database.deleteSubject id
  | addMeeting subjectId input => Database.addMeeting stamp subjectId input
  | removeMeeting id => Database.removeMeeting id
  | getSchedule subjectId => fun db => (db.getSchedule subjectId, db)
  | countLiveEnrollments subjectId => fun db => (db.countLiveEnrollments subjectId, db)
  | liveEnrollments studentId => fun db => (db.liveEnrollments studentId, db)
  | listEnrollments => fun db => (db.listEnrollments, db)
  | grantSeat studentId subjectId policy => Database.grantSeat stamp studentId subjectId policy
  | releaseSeat studentId subjectId => Database.releaseSeat studentId subjectId

end Operation

/--
A way to a result that makes requests to the records, each depending on the answers before it.
-/
inductive Procedure (α : Type) where
  /-- The result. -/
  | done (value : α)
  /-- A request, and how to go on with its answer. -/
  | ask (op : Operation) (next : Except StoreError op.Answer → Procedure α)

namespace Procedure

/-- One procedure after another. -/
def bind {α β : Type} : Procedure α → (α → Procedure β) → Procedure β
  | done value, next => next value
  | ask op rest, next => ask op fun answer => (rest answer).bind next

instance : Monad Procedure where
  pure := done
  bind := bind

/-- A single request. -/
def request (op : Operation) : Procedure (Except StoreError op.Answer) :=
  ask op done

/-- A procedure carried out on the tables. -/
def run {α : Type} (stamp : Stamp) : Procedure α → Database → α × Database
  | done value, db => (value, db)
  | ask op next, db =>
    let (answer, db) := op.step stamp db
    (next answer).run stamp db

end Procedure

end CourseRegistry
