import CourseRegistry.Api.Router
import CourseRegistry.Server.SignIn

/-! The API under its own part of the path, for callers who have signed in. -/

namespace CourseRegistry.Server

open Http

/-- What a server is set up with. -/
structure Setup where
  policy : AdmissionPolicy
  admin : AdminAccount
  verify : Verifier

/-- The resource that a path points at, behind the part that all of them start with. -/
def resource? (request : Request) : Option Api.Resource :=
  match segments request.path with
  | part :: rest => if part = "api".toList then Api.Resource.ofSegments? rest else none
  | [] => none

/-- The response to a request for a resource: the caller is looked at before anything else. -/
def answerAt (setup : Setup) (request : Request) (resource : Api.Resource) :
    Procedure Response := do
  match ← (resolvePrincipal setup.verify setup.admin request.authorization).run with
  | .ok principal => Api.answerAt setup.policy (some principal) request resource
  | .error error =>
    return if request.method = "HEAD" then error.response.withoutBody else error.response

/-- The response to a request. -/
def answer (setup : Setup) (request : Request) : Procedure Response :=
  match resource? request with
  | some resource => answerAt setup request resource
  | none => .done (.bare 404)

end CourseRegistry.Server
