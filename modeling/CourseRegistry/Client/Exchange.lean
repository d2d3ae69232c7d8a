import CourseRegistry.Client.Connection
import CourseRegistry.Http.Message
import CourseRegistry.Http.Percent
import CourseRegistry.Http.Status
import CourseRegistry.Wire.Enrollment

/-! The requests of the client, and what it makes of the replies. -/

namespace CourseRegistry.Client

open Http Text

/-- A reply of the server. -/
structure Reply where
  status : Nat
  body : List UInt8
deriving DecidableEq

/-- A way to send a request to a server, which may not reply. -/
abbrev Network (m : Type → Type) := (base : String) → Request → m (Option Reply)

/-- What a failure is told with. -/
abbrev Complaint := String

/-- The server's answer about a seat, be it yes or no. -/
structure OutcomeReply where
  outcome : String
  message : String
deriving DecidableEq

namespace OutcomeReply

open Json

/-- The fields of an answer. -/
def fields : List Field := [.needed "outcome" asText, .needed "message" asText]

/-- An answer is read from a record of its own. -/
def ofJson : Decode OutcomeReply := fun origin json => do
  let found ← find fields origin json
  return ⟨← found.required "outcome" asText, ← found.required "message" asText⟩

end OutcomeReply

/-- The members of an object as they are kept, of which each name has only the last. -/
def lastMembers (json : Json) : Json :=
  match json with
  | .object members =>
    .object (members.foldr
      (fun member kept => if kept.any (·.1 == member.1) then kept else member :: kept) [])
  | json => json

/-- What the body of an error tells. -/
def errorMessage (body : Json) : String :=
  match body.member? "error" with
  | some (.string message) => message
  | _ => "no error message"

/-- A body with an outcome is an answer, whatever its status is; any other is an error. -/
def interpret (path : String) (status : Nat) (body : Json) : Except Complaint OutcomeReply :=
  if (body.member? "outcome").isSome then
    match OutcomeReply.ofJson .held (lastMembers body) with
    | .ok reply => .ok reply
    | .error _ => .error "deserialising outcome"
  else .error ("POST " ++ path ++ " → " ++ statusText status ++ ": " ++ errorMessage body)

/-- Any value that can be held back. -/
def anyJson : Json.Decode Json := fun origin json =>
  if origin.canHold json then .ok json else .error .malformed

/-- A reply to a request that changes something. -/
def readOutcome (path : String) : Option Reply → Except Complaint OutcomeReply
  | none => .error ("POST " ++ path ++ " failed")
  | some reply =>
    match Json.decodeOctets anyJson reply.body with
    | .ok body => interpret path reply.status body
    | .error _ =>
      .error ("POST " ++ path ++ " → " ++ statusText reply.status ++ ": unreadable body")

/-- A reply to a request that only asks. -/
def readAnswer {α : Type} (path noun : String) (decode : Json.Decode α) :
    Option Reply → Except Complaint α
  | none => .error ("GET " ++ path ++ " failed")
  | some reply =>
    if isSuccess reply.status then
      match Json.decodeOctets decode reply.body with
      | .ok value => .ok value
      | .error _ => .error ("deserialising " ++ noun)
    else .error ("GET " ++ path ++ " → " ++ statusText reply.status)

/-- A request that only asks. -/
def getRequest (connection : Connection) (path : String) (query : List (String × String)) :
    Request where
  method := "GET"
  target := "/api" ++ path ++ (if query.isEmpty then "" else "?" ++ formText query)
  authorization := connection.authorization
  contentType := none
  body := []

/-- A request that changes something. -/
def postRequest (connection : Connection) (path : String) (form : List (String × String)) :
    Request where
  method := "POST"
  target := "/api" ++ path
  authorization := connection.authorization
  contentType := some (octets "application/x-www-form-urlencoded")
  body := octets (formText form)

variable {m : Type → Type} [Monad m]

/-- What the server answers to a request for a seat, or to one that gives it up. -/
def askOutcome (network : Network m) (connection : Connection) (path : String) (subjectId : Uuid)
    (student : Option Uuid) : m (Except Complaint OutcomeReply) :=
  let student := student.toList.map fun id => ("studentId", id.text)
  readOutcome path <$>
    network connection.base (postRequest connection path (("subjectId", subjectId.text) :: student))

/-- What the server answers to a question. -/
def ask {α : Type} (network : Network m) (connection : Connection) (path noun : String)
    (query : List (String × String)) (decode : Json.Decode α) : m (Except Complaint α) :=
  readAnswer path noun decode <$> network connection.base (getRequest connection path query)

end CourseRegistry.Client
