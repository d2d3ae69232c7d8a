import CourseRegistry.Access
import CourseRegistry.Api.Error
import CourseRegistry.Http.MediaType
import CourseRegistry.Http.Percent
import CourseRegistry.Json.Record
import CourseRegistry.Store.Operation
import CourseRegistry.Wire.Schedule

/-! The steps that answers to requests are made of. -/

namespace CourseRegistry.Api

open Http Text

/--
A way to a value that may end early with a response, and that may make requests to the records.
-/
abbrev Handler (α : Type) := ExceptT Response Procedure α

/-- The response to an error ends the way. -/
def fail {α : Type} (error : ApiError) : Handler α := throw error.response

/-- The caller has to be known. -/
def signedIn : Option Principal → Handler Principal
  | some principal => return principal
  | none => fail .unauthorized

/-- The caller has to be allowed to do something. -/
def permit (principal : Principal) (capability : Capability) : Handler Unit :=
  match principal.authorize capability with
  | .ok () => return ()
  | .error refusal => fail (.ofRefusal refusal)

/-- The identifier in a part of the path. -/
def pathId (segment : List Char) : Handler Uuid :=
  match (textOf? (percentDecode (octets (String.ofList segment)))).bind Uuid.ofText? with
  | some id => return id
  | none => throw (.bare 400)

/-- How many octets a body may have. -/
def maxBodySize : Nat := 2 * 1024 * 1024

/-- The record in a body that is declared to be JSON. -/
def jsonBody {α : Type} (decode : Json.Decode α) (request : Request) : Handler α :=
  if !declaresJson request.contentType then throw (.bare 415)
  else if maxBodySize < request.body.length then throw (.bare 413)
  else
    match Json.decodeOctets decode request.body with
    | .ok value => return value
    | .error .malformed => throw (.bare 400)
    | .error .mismatched => throw (.bare 422)

/-- The answer of the records, which may not fail. -/
def ask (op : Operation) : Handler op.Answer := do
  match ← Procedure.request op with
  | .ok answer => return answer
  | .error error => fail (.ofStore error)

/-- There is no record of a kind with an identifier. -/
def missing (entity : Entity) (id : Uuid) : ApiError :=
  .notFound (entity.name ++ " " ++ id.text ++ " not found")

/-- A list that only the administrator may see. -/
def listed {α : Type} (op : Operation) (answer : op.Answer → List α) (write : α → Json)
    (caller : Option Principal) : Handler Response := do
  let principal ← signedIn caller
  permit principal .manageCatalog
  return .withJson 200 (.array ((answer (← ask op)).map write))

/-- A record that the administrator makes from a body, once the body has passed a check. -/
def created {α β : Type} (decode : Json.Decode α) (check : α → Option ApiError) (op : α → Operation)
    (answer : (input : α) → (op input).Answer → β) (write : β → Json) (caller : Option Principal)
    (request : Request) : Handler Response := do
  let principal ← signedIn caller
  -- The body is read before the permission is looked at.
  let input ← jsonBody decode request
  permit principal .manageCatalog
  if let some error := check input then fail error
  return .withJson 201 (write (answer input (← ask (op input))))

/-- A record that the administrator changes by a body, once the body has passed a check. -/
def changed {α β : Type} (entity : Entity) (decode : Json.Decode α) (check : α → Option ApiError)
    (op : Uuid → α → Operation)
    (answer : (id : Uuid) → (input : α) → (op id input).Answer → Option β)
    (write : β → Json) (caller : Option Principal) (segment : List Char) (request : Request) :
    Handler Response := do
  let principal ← signedIn caller
  let id ← pathId segment
  let input ← jsonBody decode request
  permit principal .manageCatalog
  if let some error := check input then fail error
  match answer id input (← ask (op id input)) with
  | some record => return .withJson 200 (write record)
  | none => fail (missing entity id)

/-- A record that the administrator deletes. -/
def deleted (entity : Entity) (op : Uuid → Operation) (answer : (id : Uuid) → (op id).Answer → Bool)
    (caller : Option Principal) (segment : List Char) : Handler Response := do
  let principal ← signedIn caller
  let id ← pathId segment
  permit principal .manageCatalog
  if answer id (← ask (op id)) then return .bare 204 else fail (missing entity id)

/-- Nothing more is asked of a body than its shape. -/
def unchecked {α : Type} (_ : α) : Option ApiError := none

end CourseRegistry.Api
