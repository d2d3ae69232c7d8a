import CourseRegistry.Http.Message
import CourseRegistry.Store.Error

/-! Errors as callers of the API see them. -/

namespace CourseRegistry

/-- An error that a caller of the API is told. -/
inductive ApiError where
  | unauthorized
  | forbidden
  | notFound (what : String)
  | badRequest (what : String)
  | conflict (what : String)
  /-- The records failed; the caller is not told how. -/
  | store (cause : String)
deriving DecidableEq

namespace ApiError

/-- The wording in the log. -/
def message : ApiError → String
  | unauthorized => "unauthorized"
  | forbidden => "forbidden"
  | notFound what => "not found: " ++ what
  | badRequest what => "bad request: " ++ what
  | conflict what => "conflict: " ++ what
  | store cause => "store error: " ++ cause

/-- The status of each error. -/
def status : ApiError → Nat
  | unauthorized => 401
  | forbidden => 403
  | notFound _ => 404
  | badRequest _ => 400
  | conflict _ => 409
  | store _ => 500

/-- What the caller is told. -/
def shown : ApiError → String
  | unauthorized => "unauthorized"
  | forbidden => "forbidden"
  | notFound what => what
  | badRequest what => what
  | conflict what => what
  | store _ => "internal error"

/-- The way to sign in that the registry offers. -/
def challenge : String := "Basic realm=\"registrar\""

/-- Only a caller who has not signed in is told how to. -/
def challenge? : ApiError → Option String
  | unauthorized => some challenge
  | _ => none

/-- An error as a response. -/
def response (error : ApiError) : Http.Response :=
  ⟨error.status, some (.object [("error", .string error.shown)]), error.challenge?⟩

/-- A refusal as an error; whoever made an invalid request is told the bare reason. -/
def ofRefusal : Refusal → ApiError
  | .invalidRequest reason => badRequest reason
  | .forbidden => forbidden
  | .infrastructure cause => store cause
  | refusal => badRequest refusal.message

/-- An error of the records by its kind. -/
def ofStore (error : StoreError) : ApiError :=
  match error.kind with
  | .notFound => notFound error.message
  | .conflict => conflict error.message
  | .invalid => badRequest error.message
  | .unavailable => store error.message

end ApiError

end CourseRegistry
