import CourseRegistry.Client.Display
import CourseRegistry.Client.Exchange

/-! The client from the words it is started with to what it prints. -/

namespace CourseRegistry.Client

open CommandLine

variable {m : Type → Type} [Monad m]

/-- The student of a timetable, who is asked for unless given. -/
def timetableOwner (network : Network m) (connection : Connection) (student : Option Uuid) :
    ExceptT Complaint m Uuid := do
  match student with
  | some id => return id
  | none =>
    match ← ExceptT.mk (ask network connection "/me" "principal" [] Principal.ofJson) with
    | .student id => return id
    | .admin => throw "--student is required when signed in as admin"

/-- The lines that a command prints. -/
def perform (network : Network m) (connection : Connection) :
    Command → ExceptT Complaint m (List String)
  | .enroll subjectId student => do
    let reply ← ExceptT.mk (askOutcome network connection "/enroll" subjectId student)
    return [reply.message]
  | .cancel subjectId student => do
    let reply ← ExceptT.mk (askOutcome network connection "/enroll/cancel" subjectId student)
    return [reply.message]
  | .subjects semester search => do
    let query := semester.toList.map (("semester", ·)) ++ search.toList.map (("q", ·))
    let listings ← ExceptT.mk
      (ask network connection "/subjects" "subjects" query (Json.asList SubjectListing.ofJson))
    return listings.map listingLine
  | .enrollments student => do
    let id ← timetableOwner network connection student
    let details ← ExceptT.mk (ask network connection ("/students/" ++ id.text ++ "/enrollments")
      "enrollments" [] (Json.asList EnrollmentDetail.ofJson))
    return details.map timetableLine

/-- The file of an invocation, if it names one. -/
def readConnectionFile (fileText : (path : String) → m (Option String)) :
    (path : Option String) → ExceptT Complaint m ConnectionFile
  | none => return .blank
  | some path => do
    match ← (fileText path : ExceptT Complaint m (Option String)) with
    | none => throw ("reading config file " ++ path)
    | some text =>
      match ConnectionFile.ofText? text with
      | some file => return file
      | none => throw "parsing config file"

/-- An invocation carried out. -/
def carryOut (fileText : (path : String) → m (Option String)) (network : Network m)
    (invocation : Invocation) : ExceptT Complaint m (List String) := do
  let file ← readConnectionFile fileText invocation.configPath
  perform network (.ofInvocation invocation file) invocation.command

/-- How the client ends. -/
inductive Finish where
  /-- It asked nothing. -/
  | ended (ending : Ending)
  /-- Something went wrong. -/
  | failed (complaint : Complaint)
  /-- It printed some lines. -/
  | printed (lines : List String)
deriving DecidableEq

/-- The exit code of the client; only what went wrong counts, not what the server answered. -/
def Finish.exitCode : Finish → UInt8
  | ended ending => ending.exitCode
  | failed _ => 1
  | printed _ => 0

/-- The client with some words and environment. -/
def run (fileText : (path : String) → m (Option String)) (network : Network m)
    (environment : List (String × String)) (words : List String) : m Finish := do
  match Invocation.ofWords environment words with
  | .error ending => return .ended ending
  | .ok invocation =>
    match ← (carryOut fileText network invocation).run with
    | .ok lines => return .printed lines
    | .error complaint => return .failed complaint

end CourseRegistry.Client
