import CourseRegistry.Client.Command
import CourseRegistry.Server.SignIn
import CourseRegistry.Toml.Reader

/-! Where the client finds the server, and who signs in there. -/

namespace CourseRegistry.Client

/-- What a file tells about the server; an empty text tells nothing. -/
structure ConnectionFile where
  url : String
  username : String
  password : String
deriving DecidableEq

namespace ConnectionFile

/-- The text under a name, which is empty if there is none. -/
def textUnder? (entries : Toml.Entries) (name : String) : Option String :=
  match entries.value? name with
  | none => some ""
  | some (.text value) => some value
  | some _ => none

/-- A file by its text; other names in it do not matter. -/
def ofText? (text : String) : Option ConnectionFile := do
  let entries ← Toml.ofText? text
  return ⟨← textUnder? entries "url", ← textUnder? entries "username",
    ← textUnder? entries "password"⟩

/-- A file that tells nothing. -/
def blank : ConnectionFile := ⟨"", "", ""⟩

end ConnectionFile

/-- Where the server is and who signs in; nobody does with an empty name. -/
structure Connection where
  url : String
  username : String
  password : String
deriving DecidableEq

namespace Connection

/-- What was given, or else what a file tells. -/
def pick (given : Option String) (fromFile : String) : Option String :=
  given.or (if fromFile = "" then none else some fromFile)

/-- The server of an invocation, with a file behind it. -/
def ofInvocation (invocation : Invocation) (file : ConnectionFile) : Connection where
  url := (pick invocation.url file.url).getD "http://localhost:8080"
  username := (pick invocation.username file.username).getD ""
  password := (pick invocation.password file.password).getD ""

/-- The address of the server, without the slashes at its end. -/
def base (connection : Connection) : String :=
  String.ofList (connection.url.toList.reverse.dropWhile (· == '/')).reverse

/-- The header that signs in. -/
def authorization (connection : Connection) : Option (List UInt8) :=
  if connection.username = "" then none
  else
    some (Text.octets (Server.Credentials.mk connection.username connection.password).header)

end Connection

end CourseRegistry.Client
