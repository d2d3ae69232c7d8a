import CourseRegistry.Api.Enrolling
import CourseRegistry.Api.People
import CourseRegistry.Api.Subjects

/-! Which request is answered by what. -/

namespace CourseRegistry.Api

open Http

/-- A method that some path takes. -/
inductive Method where
  | get | post | put | patch | delete
deriving DecidableEq

/--
The method that a word names, if any path takes it; asking for a head is asking without a body.
-/
def Method.ofText? (text : String) : Option Method :=
  match text with
  | "GET" => some .get
  | "HEAD" => some .get
  | "POST" => some .post
  | "PUT" => some .put
  | "PATCH" => some .patch
  | "DELETE" => some .delete
  | _ => none

/-- What a path points at. -/
inductive Resource where
  | me
  | enroll
  | cancel
  | timetable (studentId : List Char)
  | enrollments
  | subjects
  | subject (subjectId : List Char)
  | schedule (subjectId : List Char)
  | meeting (slotId : List Char)
  | departments
  | department (departmentId : List Char)
  | professors
  | professor (professorId : List Char)
  | rooms
  | room (roomId : List Char)
  | students
  | student (studentId : List Char)
deriving DecidableEq

namespace Resource

/-- The resource with a name of one part. -/
def ofName? : String → Option Resource
  | "me" => some .me
  | "enroll" => some .enroll
  | "enrollments" => some .enrollments
  | "subjects" => some .subjects
  | "departments" => some .departments
  | "professors" => some .professors
  | "rooms" => some .rooms
  | "students" => some .students
  | _ => none

/-- The resource of a kind with an identifier. -/
def ofPair? (kind : String) (id : List Char) : Option Resource :=
  match kind with
  | "subjects" => some (.subject id)
  | "schedule" => some (.meeting id)
  | "departments" => some (.department id)
  | "professors" => some (.professor id)
  | "rooms" => some (.room id)
  | "students" => some (.student id)
  | "enroll" => if id = "cancel".toList then some .cancel else none
  | _ => none

/-- The resource that the parts of a path point at; an identifier is not empty. -/
def ofSegments? : List (List Char) → Option Resource
  | [name] => ofName? (String.ofList name)
  | [kind, id] => if id.isEmpty then none else ofPair? (String.ofList kind) id
  | [kind, id, part] =>
    if id.isEmpty then none
    else if kind = "students".toList ∧ part = "enrollments".toList then some (.timetable id)
    else if kind = "subjects".toList ∧ part = "schedule".toList then some (.schedule id)
    else none
  | _ => none

end Resource

/-- How a resource is dealt with by a method, if it takes the method. -/
def handler? (policy : AdmissionPolicy) (caller : Option Principal) (request : Request) :
    Resource → Method → Option (Handler Response)
  | .me, .get => some do return .withJson 200 (← signedIn caller).toJson
  | .enroll, .post => some (enrollHandler policy caller request)
  | .cancel, .post => some (cancelHandler caller request)
  | .timetable id, .get => some (timetable caller id)
  | .enrollments, .get => some (enrollments caller)
  | .subjects, .get => some (subjects caller request)
  | .subjects, .post => some (createSubject caller request)
  | .subject id, .get => some (subject caller id)
  | .subject id, .patch => some (updateSubject caller id request)
  | .subject id, .delete => some (deleteSubject caller id)
  | .schedule id, .post => some (addMeeting caller id request)
  | .meeting id, .delete => some (removeMeeting caller id)
  | .departments, .get => some (departments caller)
  | .departments, .post => some (createDepartment caller request)
  | .department id, .put => some (updateDepartment caller id request)
  | .department id, .delete => some (deleteDepartment caller id)
  | .professors, .get => some (professors caller)
  | .professors, .post => some (createProfessor caller request)
  | .professor id, .put => some (updateProfessor caller id request)
  | .professor id, .delete => some (deleteProfessor caller id)
  | .rooms, .get => some (rooms caller)
  | .rooms, .post => some (createRoom caller request)
  | .room id, .put => some (updateRoom caller id request)
  | .room id, .delete => some (deleteRoom caller id)
  | .students, .get => some (students caller)
  | .students, .post => some (createStudent caller request)
  | .student id, .get => some (student caller id)
  | .student id, .put => some (updateStudent caller id request)
  | .student id, .delete => some (deleteStudent caller id)
  | _, _ => none

/-- A way to a response, whichever way it ends. -/
def respond (handler : Handler Response) : Procedure Response :=
  Functor.map (fun result => match result with
    | .ok response => response
    | .error response => response) (handler.run : Procedure (Except Response Response))

/-- The response to a request for a resource. -/
def answerAt (policy : AdmissionPolicy) (caller : Option Principal) (request : Request)
    (resource : Resource) : Procedure Response :=
  match (Method.ofText? request.method).bind (handler? policy caller request resource) with
  | some handler => Functor.map
      (fun response => if request.method = "HEAD" then response.withoutBody else response)
      (respond handler)
  | none => .done (.bare 405)

/-- The response to a request, whose caller may have signed in. -/
def answer (policy : AdmissionPolicy) (caller : Option Principal) (request : Request) :
    Procedure Response :=
  match Resource.ofSegments? (segments request.path) with
  | some resource => answerAt policy caller request resource
  | none => .done (.bare 404)

end CourseRegistry.Api
