import CourseRegistry.CommandLine
import CourseRegistry.Password.HashText
import CourseRegistry.Settings.Server

/-!
How a server starts: with the words it is started with, its settings, and what the machine allows.
-/

namespace CourseRegistry.Server

open CommandLine Settings

/-- What a server needs from the machine while it starts. -/
structure Machine (m : Type → Type) where
  /-- The text of a file, if there is such a file. -/
  fileText : (path : String) → m (Option String)
  /-- The first line of the input with what ends it, after a password was asked for. -/
  askPassword : m String
  /-- Sixteen octets that nobody can foresee. -/
  salt : m (List UInt8)
  /-- Whether the records in a file can be opened. -/
  openStore : (path : String) → m Bool
  /-- Whether requests to an address can be listened to. -/
  bind : (host : String) → (port : UInt16) → m Bool

/-- What a start comes to. -/
inductive Launch where
  /-- Nothing was started. -/
  | ended (ending : Ending)
  /-- Something went wrong. -/
  | failed (complaint : String)
  /-- The hash of a password is shown. -/
  | hashed (hash : String)
  /-- Requests are listened to. -/
  | listening (settings : ServerSettings)

namespace Launch

/-- The options of a server. -/
def grammar : Grammar where
  switches := [⟨"config", some 'c', .gives (· != "")⟩, ⟨"hash-password", none, .marks⟩,
    ⟨"help", some 'h', .ends .help⟩, ⟨"version", some 'V', .ends .version⟩]
  places := []
  commands := []

/-- A line without what ends it; an input without a line has none. -/
def lineText? (line : String) : Option String :=
  match line.toList.reverse with
  | [] => none
  | '\n' :: '\r' :: front => some (String.ofList front.reverse)
  | '\n' :: front => some (String.ofList front.reverse)
  | _ => some line

/-- The name of a file ends in the mark of the format that settings are written in. -/
def isMarked (path : String) : Bool :=
  let name := (path.toList.reverse.takeWhile (· ≠ '/')).reverse
  ".toml".toList.isSuffixOf name && name != ".toml".toList

/-- The file of settings at a path; the mark of the format may be left out of the path. -/
def readSettings {m : Type → Type} [Monad m] (machine : Machine m) (path : String) :
    m (Option String) := do
  match ← machine.fileText path with
  | some text => return if isMarked path then some text else none
  | none => machine.fileText (path ++ ".toml")

/-- The hash of the password that is asked for. -/
def hashPassword {m : Type → Type} [Monad m] (machine : Machine m) : m Launch := do
  match lineText? (← machine.askPassword) with
  | none => return .failed "no password on stdin"
  | some password => return .hashed (Password.hashText (← machine.salt) password)

/-- A server with the settings at a path and in the environment. -/
def listen {m : Type → Type} [Monad m] (machine : Machine m) (environment : List (String × String))
    (path : String) : m Launch := do
  match ServerSettings.load (← readSettings machine path) environment with
  | .error _ => return .failed ("loading " ++ path)
  | .ok settings =>
    let store := settings.resolvedStorePath (environment.lookup "HOME")
    if !(← machine.openStore store) then return .failed ("opening store " ++ store)
    else if !(← machine.bind settings.host settings.port) then
      return .failed ("binding " ++ settings.host ++ ":" ++ toString settings.port)
    else return .listening settings

/-- The start of a server. -/
def run {m : Type → Type} [Monad m] (machine : Machine m) (environment : List (String × String))
    (words : List String) : m Launch :=
  match grammar.read words with
  | .error ending => return .ended ending
  | .ok given =>
    if (given.value? "hash-password").isSome then hashPassword machine
    else listen machine environment ((given.value? "config").getD "config.toml")

end Launch

end CourseRegistry.Server
