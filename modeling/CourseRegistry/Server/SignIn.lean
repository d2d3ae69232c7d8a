import CourseRegistry.Access
import CourseRegistry.Api.Error
import CourseRegistry.Http.MediaType
import CourseRegistry.Store.Operation
import CourseRegistry.Text.Base64
import CourseRegistry.Text.Octets

/-! Who a request comes from, by the name and the password in its header. -/

namespace CourseRegistry.Server

open Http Text

/-- A name and a password. -/
structure Credentials where
  user : String
  password : String
deriving DecidableEq

namespace Credentials

/-- What a header starts with. -/
def scheme : List Char := "Basic ".toList

/-- The credentials in a text: the name ends at the first colon. -/
def ofPair? (text : String) : Option Credentials :=
  match text.toList.span (· ≠ ':') with
  | (user, ':' :: password) => some ⟨String.ofList user, String.ofList password⟩
  | _ => none

/-- The credentials in the octets of a header. -/
def ofOctets? (value : List UInt8) : Option Credentials := do
  let cs ← headerChars? value
  if scheme.isPrefixOf cs then
    ofPair? (← textOf? (← ofBase64? (cs.drop scheme.length)))
  else none

/-- The header that carries credentials. -/
def header (credentials : Credentials) : String :=
  String.ofList (scheme ++ base64 (octets (credentials.user ++ ":" ++ credentials.password)))

/-- The credentials in the octets of a header, which has to be there. -/
def ofValue (value : Option (List UInt8)) : Except ApiError Credentials :=
  match value.bind ofOctets? with
  | some credentials => .ok credentials
  | none => .error .unauthorized

end Credentials

/-- The administrator's name and password hash. -/
structure AdminAccount where
  username : String
  passwordHash : String
deriving DecidableEq

/-- A way to tell whether a text is the hash of a password. -/
abbrev Verifier := (hash password : String) → Bool

/-- The caller that some credentials belong to; the administrator's name is no student's. -/
def principalOf (verify : Verifier) (admin : AdminAccount) (credentials : Credentials) :
    ExceptT ApiError Procedure Principal := do
  -- The administrator's name never leads to a student, also when the password is wrong.
  if credentials.user = admin.username then
    if verify admin.passwordHash credentials.password then return .admin else throw .unauthorized
  else
    match ← Procedure.request (.studentLogin credentials.user) with
    | .error error => throw (.ofStore error)
    | .ok none => throw .unauthorized
    | .ok (some login) =>
      let login : StudentLogin := login
      match login.passwordHash with
      | some hash =>
        if verify hash credentials.password then return .student login.studentId
        else throw .unauthorized
      | none => throw .unauthorized

/-- The headers of a request: names in small letters and the octets of their values, in order. -/
abbrev Headers := List (String × List UInt8)

/-- The caller that some headers tell; of several values for credentials the first one counts. -/
def callerOf (verify : Verifier) (admin : AdminAccount) (headers : Headers) :
    ExceptT ApiError Procedure Principal := do
  match Credentials.ofValue (headers.lookup "authorization") with
  | .ok credentials => principalOf verify admin credentials
  | .error error => throw error

/-- The caller of a request. -/
def resolvePrincipal (verify : Verifier) (admin : AdminAccount)
    (authorization : Option (List UInt8)) : ExceptT ApiError Procedure Principal :=
  callerOf verify admin (authorization.toList.map fun value => ("authorization", value))

end CourseRegistry.Server
