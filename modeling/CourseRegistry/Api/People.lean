import CourseRegistry.Api.Handler
import CourseRegistry.Wire.Catalog

/-! Departments, professors, rooms and students over HTTP. -/

namespace CourseRegistry.Api

open Http

/-- All departments. -/
def departments : (caller : Option Principal) → Handler Response :=
  listed .listDepartments (fun answer => answer) Department.toJson

/-- A new department. -/
def createDepartment : (caller : Option Principal) → (request : Request) → Handler Response :=
  created NewDepartment.ofJson unchecked .addDepartment (fun _ answer => answer) Department.toJson

/-- A department's new name. -/
def updateDepartment :
    (caller : Option Principal) → (segment : List Char) → (request : Request) → Handler Response :=
  changed .department NewDepartment.ofJson unchecked .updateDepartment (fun _ _ answer => answer)
    Department.toJson

/-- The end of a department. -/
def deleteDepartment : (caller : Option Principal) → (segment : List Char) → Handler Response :=
  deleted .department .deleteDepartment fun _ answer => answer

/-- All professors. -/
def professors : (caller : Option Principal) → Handler Response :=
  listed .listProfessors (fun answer => answer) Professor.toJson

/-- A new professor. -/
def createProfessor : (caller : Option Principal) → (request : Request) → Handler Response :=
  created NewProfessor.ofJson unchecked .addProfessor (fun _ answer => answer) Professor.toJson

/-- A professor's new record. -/
def updateProfessor :
    (caller : Option Principal) → (segment : List Char) → (request : Request) → Handler Response :=
  changed .professor NewProfessor.ofJson unchecked .updateProfessor (fun _ _ answer => answer)
    Professor.toJson

/-- The end of a professor's record. -/
def deleteProfessor : (caller : Option Principal) → (segment : List Char) → Handler Response :=
  deleted .professor .deleteProfessor fun _ answer => answer

/-- All rooms. -/
def rooms : (caller : Option Principal) → Handler Response :=
  listed .listRooms (fun answer => answer) Room.toJson

/-- A new room. -/
def createRoom : (caller : Option Principal) → (request : Request) → Handler Response :=
  created NewRoom.ofJson unchecked .addRoom (fun _ answer => answer) Room.toJson

/-- A room's new record. -/
def updateRoom :
    (caller : Option Principal) → (segment : List Char) → (request : Request) → Handler Response :=
  changed .room NewRoom.ofJson unchecked .updateRoom (fun _ _ answer => answer) Room.toJson

/-- The end of a room's record. -/
def deleteRoom : (caller : Option Principal) → (segment : List Char) → Handler Response :=
  deleted .room .deleteRoom fun _ answer => answer

/-- All students. -/
def students : (caller : Option Principal) → Handler Response :=
  listed .listStudents (fun answer => answer) Student.toJson

/-- A student has a number that is not blank. -/
def checkStudent (input : NewStudent) : Option ApiError :=
  if Text.isBlankText input.studentNumber then
    some (.badRequest "student_number must not be empty")
  else none

/-- A new student. -/
def createStudent : (caller : Option Principal) → (request : Request) → Handler Response :=
  created NewStudent.ofJson checkStudent .addStudent (fun _ answer => answer) Student.toJson

/-- One student, for that student and the administrator. -/
def student (caller : Option Principal) (segment : List Char) : Handler Response := do
  let principal ← signedIn caller
  let id ← pathId segment
  permit principal (.viewStudent id)
  let found : Option Student ← ask (.getStudent id)
  match found with
  | some student => return .withJson 200 student.toJson
  | none => fail (missing .student id)

/-- A student's new record. -/
def updateStudent :
    (caller : Option Principal) → (segment : List Char) → (request : Request) → Handler Response :=
  changed .student NewStudent.ofJson checkStudent .updateStudent (fun _ _ answer => answer)
    Student.toJson

/-- The end of a student's record. -/
def deleteStudent : (caller : Option Principal) → (segment : List Char) → Handler Response :=
  deleted .student .deleteStudent fun _ answer => answer

end CourseRegistry.Api
