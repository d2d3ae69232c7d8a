import CourseRegistry.Admission
import CourseRegistry.Server.SignIn
import CourseRegistry.Settings.Path
import CourseRegistry.Settings.Value
import CourseRegistry.Toml.Reader

/-! The settings of a server: from a file, and from the environment before it. -/

namespace CourseRegistry.Settings

/-- What is wrong with settings. -/
inductive Problem where
  /-- The file is not TOML. -/
  | unreadable
  /-- A value cannot be taken as what its setting is. -/
  | mistyped
  /-- A setting that has to be there is missing. -/
  | missing (name : String)
deriving DecidableEq

/-- Names and values of settings. -/
abbrev Values := List (String × Value)

/-- The values of a file; the case of names does not matter. -/
def ofFile? (text : String) : Option Values :=
  (Toml.ofText? text).map fun entries =>
    entries.map fun (name, value) => (name.toLower, .ofToml value)

/-- What the name of a setting starts with in the environment. -/
def variablePrefix : List Char := "registrar_".toList

/-- The values of the environment; the case of names does not matter. -/
def ofVariables (environment : List (String × String)) : Values :=
  environment.filterMap fun (name, text) =>
    let name := name.toList.map Char.toLower
    if variablePrefix.isPrefixOf name then
      some (String.ofList (name.drop variablePrefix.length), .ofVariable text)
    else none

/-- The last value of a setting. -/
def value? (values : Values) (name : String) : Option Value :=
  (values.reverse.find? (·.1 == name)).map (·.2)

/-- A setting that may be missing. -/
def setting {α : Type} (values : Values) (name : String) (read? : Value → Option α) :
    Except Problem (Option α) :=
  match value? values name with
  | none => .ok none
  | some value =>
    match read? value with
    | some value => .ok (some value)
    | none => .error .mistyped

/-- A setting that has to be there. -/
def present {α : Type} (name : String) : Option α → Except Problem α
  | some value => .ok value
  | none => .error (.missing name)

/-- The settings of a server. -/
structure ServerSettings where
  host : String
  port : UInt16
  storePath : String
  adminUsername : String
  adminPasswordHash : String
  checkTimeConflicts : Bool
deriving DecidableEq

namespace ServerSettings

/-- Settings from their values; a value that cannot be taken counts before one that is missing. -/
def ofValues (values : Values) : Except Problem ServerSettings := do
  let host ← setting values "host" Value.asText?
  let port ← setting values "port" Value.asPort?
  let storePath ← setting values "store_path" Value.asText?
  let adminUsername ← setting values "admin_username" Value.asText?
  let adminPasswordHash ← setting values "admin_password_hash" Value.asText?
  let checkTimeConflicts ← setting values "check_time_conflicts" Value.asBool?
  let storePath ← present "store_path" storePath
  let adminUsername ← present "admin_username" adminUsername
  let adminPasswordHash ← present "admin_password_hash" adminPasswordHash
  return ⟨host.getD "127.0.0.1", port.getD 8080, storePath, adminUsername, adminPasswordHash,
    checkTimeConflicts.getD true⟩

/-- Settings from a file, which may be missing, and from the environment, which counts before it. -/
def load (file : Option String) (environment : List (String × String)) :
    Except Problem ServerSettings :=
  match file with
  | none => ofValues (ofVariables environment)
  | some text =>
    match ofFile? text with
    -- Of two values the last one counts.
    | some values => ofValues (values ++ ofVariables environment)
    | none => .error .unreadable

/-- Where the records are, when the home directory is known or not. -/
def resolvedStorePath (settings : ServerSettings) (home : Option String) : String :=
  expandHome home settings.storePath

/-- What is looked at before a seat is given. -/
def policy (settings : ServerSettings) : AdmissionPolicy := ⟨settings.checkTimeConflicts⟩

/-- The administrator's account. -/
def admin (settings : ServerSettings) : Server.AdminAccount :=
  ⟨settings.adminUsername, settings.adminPasswordHash⟩

end ServerSettings

end CourseRegistry.Settings
