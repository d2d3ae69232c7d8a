import CourseRegistry.CommandLine
import CourseRegistry.Uuid

/-! What the client is asked to do, by the words it is started with. -/

namespace CourseRegistry.Client

open CommandLine

/-- Something that the client can do. -/
inductive Command where
  /-- Ask for a seat, for another student or for oneself. -/
  | enroll (subjectId : Uuid) (student : Option Uuid)
  /-- Give up a seat. -/
  | cancel (subjectId : Uuid) (student : Option Uuid)
  /-- Show the subjects of a semester, or those with a text in their names. -/
  | subjects (semester search : Option String)
  /-- Show the timetable of a student, or of oneself. -/
  | enrollments (student : Option Uuid)
deriving DecidableEq

namespace Command

/-- A text that spells an identifier. -/
def isUuid (text : String) : Bool := (Uuid.ofText? text).isSome

/-- The option that shows how a command is used. -/
def helpSwitch : Switch := ⟨"help", some 'h', .ends .help⟩

/-- The option that names a student. -/
def studentSwitch : Switch := ⟨"student", none, .gives isUuid⟩

/-- The options and values of a command about one subject. -/
def subjectGrammar : Grammar := ⟨[studentSwitch, helpSwitch], [⟨"subject_id", isUuid⟩], []⟩

/-- The options of the command that shows subjects. -/
def subjectsGrammar : Grammar where
  switches := [⟨"semester", none, .gives fun _ => true⟩, ⟨"search", none, .gives fun _ => true⟩,
    helpSwitch]
  places := []
  commands := []

/-- The options of the command that shows a timetable. -/
def enrollmentsGrammar : Grammar := ⟨[studentSwitch, helpSwitch], [], []⟩

/-- The identifier under a name. -/
def uuid? (given : Given) (name : String) : Option Uuid :=
  (given.value? name).bind Uuid.ofText?

/-- The identifier of the subject, which has to be there. -/
def subjectId (given : Given) : Except Ending Uuid :=
  match uuid? given "subject_id" with
  | some id => .ok id
  | none => .error .misuse

/-- The names of the commands. -/
def names : List String := ["enroll", "cancel", "subjects", "enrollments", "help"]

/-- A command by its name, with the words behind it. -/
def ofWords (name : String) (words : List String) : Except Ending Command :=
  match name with
  | "enroll" => do
    let given ← subjectGrammar.read words
    return .enroll (← subjectId given) (uuid? given "student")
  | "cancel" => do
    let given ← subjectGrammar.read words
    return .cancel (← subjectId given) (uuid? given "student")
  | "subjects" => do
    let given ← subjectsGrammar.read words
    return .subjects (given.value? "semester") (given.value? "search")
  | "enrollments" => do
    let given ← enrollmentsGrammar.read words
    return .enrollments (uuid? given "student")
  | "help" =>
    -- Help is about the client or about one of its commands.
    match words with
    | [] => .error .help
    | [command] => .error (if names.contains command then .help else .misuse)
    | _ => .error .misuse
  | _ => .error .misuse

end Command

/-- How the client is started: where the server is, who signs in, and what is to be done. -/
structure Invocation where
  configPath : Option String
  url : Option String
  username : Option String
  password : Option String
  command : Command
deriving DecidableEq

namespace Invocation

/-- The options in front of a command. -/
def grammar : Grammar where
  switches := [⟨"config", some 'c', .gives (· != "")⟩, ⟨"url", none, .gives fun _ => true⟩,
    ⟨"user", none, .gives fun _ => true⟩, ⟨"password", none, .gives fun _ => true⟩,
    Command.helpSwitch]
  places := []
  commands := Command.names

/-- The words and the environment together; an option counts before a variable. -/
def ofWords (environment : List (String × String)) (words : List String) :
    Except Ending Invocation := do
  let front ← grammar.front words
  match front.command with
  | none => .error .misuse
  | some (name, words) =>
    let command ← Command.ofWords name words
    let given ← front.given
    return {
      configPath := given.value? "config"
      url := (given.value? "url").or (environment.lookup "REGISTRAR_URL")
      username := (given.value? "user").or (environment.lookup "REGISTRAR_USER")
      password := (given.value? "password").or (environment.lookup "REGISTRAR_PASSWORD")
      command }

end Invocation

end CourseRegistry.Client
