import CourseRegistry.Json.Value
import CourseRegistry.Text.Cut
import CourseRegistry.Text.Octets

/-! Requests to the registry over HTTP, and responses to them. -/

namespace CourseRegistry.Http

/-- A request; what its headers and its body hold need not be text. -/
structure Request where
  /-- The word for the method. -/
  method : String
  /-- The path with the query. -/
  target : String
  /-- The value of the header that credentials come in. -/
  authorization : Option (List UInt8)
  /-- The value of the header that declares the kind of the body. -/
  contentType : Option (List UInt8)
  /-- The body, empty if there is none. -/
  body : List UInt8

namespace Request

/-- A path and a query end where a fragment starts. -/
def withoutFragment (request : Request) : List Char :=
  request.target.toList.takeWhile (· ≠ '#')

/-- The path, as it is written. -/
def path (request : Request) : List Char :=
  request.withoutFragment.takeWhile (· ≠ '?')

/-- The octets of the query, as it is written. -/
def query (request : Request) : List UInt8 :=
  Text.octets (String.ofList ((request.withoutFragment.dropWhile (· ≠ '?')).drop 1))

end Request

/-- The parts of a path between slashes, the first of which the path starts with. -/
def segments : List Char → List (List Char)
  | '/' :: cs => Text.cutAt '/' cs
  | _ => []

/-- A response. -/
structure Response where
  /-- The three digits that say how it went. -/
  status : Nat
  /-- The body, if it is a JSON value. -/
  body : Option Json
  /-- How to sign in, where that is missing. -/
  challenge : Option String

namespace Response

/-- A response with nothing but a status. -/
def bare (status : Nat) : Response := ⟨status, none, none⟩

/-- A response with a JSON value. -/
def withJson (status : Nat) (json : Json) : Response := ⟨status, some json, none⟩

/-- The response as one to a request that asked for no body. -/
def withoutBody (response : Response) : Response := { response with body := none }

end Response

end CourseRegistry.Http
