import CourseRegistry.Client.Session
import CourseRegistry.Client.Transfer
import CourseRegistry.Server.Launch
import CourseRegistry.Server.Router
import CourseRegistry.Store.File
import Std.Async.DNS
import Std.Http.Server
import Std.Internal.UV.System

/-! The program: a client for the registry, and its server behind the word `server`. -/

namespace CourseRegistry.Program

open Std.Async

/-- The text of a file, if there is such a file. -/
def fileText (path : String) : IO (Option String) := do
  try return some (← IO.FS.readFile path)
  catch _ => return none

/-- The first address of a host. -/
def address? (host : String) (port : UInt16) : Async (Option Std.Net.SocketAddress) := do
  match (← DNS.getAddrInfo host "").toList with
  | .v4 ip :: _ => return some (.v4 ⟨ip, port⟩)
  | .v6 ip :: _ => return some (.v6 ⟨ip, port⟩)
  | [] => return none

/-- Everything that comes over a connection up to its end. -/
partial def receive (socket : TCP.Socket.Client) (received : ByteArray) : Async ByteArray := do
  match ← socket.recv? 65536 with
  | some more => receive socket (received ++ more)
  | none => return received

/-- A request over a connection of its own. -/
def exchange (origin : Client.Origin) (request : Http.Request) : Async (Option Client.Reply) := do
  match ← address? origin.host origin.port with
  | none => return none
  | some address =>
    let socket ← TCP.Socket.Client.mk
    socket.connect address
    socket.send ⟨(Client.requestOctets origin request).toArray⟩
    return Client.replyOf? (← receive socket .empty).toList

/-- The network, on which nobody waits longer than half a minute. -/
def network : Client.Network IO := fun base request => do
  match Client.Origin.ofUrl? base with
  | none => return none
  | some origin =>
    try
      Async.block <| Async.race (exchange origin request) do
        sleep 30000
        return none
    catch _ => return none

/-- The machine, which keeps the records that it opens. -/
def machine (records : IO.Ref Database) : Server.Machine IO where
  fileText := fileText
  askPassword := do
    IO.eprintln "Password:"
    (← IO.getStdin).getLine
  salt := return (← IO.getRandomBytes 16).toList
  openStore path := do
    match Database.ofFileText? ((← fileText path).getD "") with
    | none => return false
    | some db =>
      try
        IO.FS.writeFile path db.fileText
        records.set db
        return true
      catch _ => return false
  bind host port := do
    try
      Async.block do
        match ← address? host port with
        | none => return false
        | some address =>
          let socket ← TCP.Socket.Server.mk
          socket.bind address
          socket.listen 1
          return true
    catch _ => return false

/-- A new identifier and the present time. -/
def newStamp : IO Stamp := do
  let octets ← IO.getRandomBytes 16
  let since := (← Std.Time.Timestamp.now).toNanosecondsSinceUnixEpoch.val
  match Instant.ofEpoch? (since / billion) (since % billion).toNat with
  | some now =>
    return ⟨.ofRandom (octets.toList.foldl (fun value octet => 256 * value + octet.toNat) 0), now⟩
  | none => throw (.userError "no clock")

/-- A response to a request; records that it changes are kept in the file before it is sent. -/
def respond (settings : Settings.ServerSettings) (store : String) (records : Std.Mutex Database)
    (request : Http.Request) : IO Http.Response := do
  let stamp ← newStamp
  let setup : Server.Setup := ⟨settings.policy, settings.admin, Password.isPasswordOf⟩
  records.atomically do
    let db ← get
    let (response, changed) := (Server.answer setup request).run stamp db
    if changed ≠ db then
      IO.FS.writeFile store changed.fileText
      set changed
    return response

/-- A request that came over the network. -/
def received (request : Std.Http.Request Std.Http.Body.Stream) : ContextAsync Http.Request := do
  let body : ByteArray ← request.body.readAll
  let header (name : Std.Http.Header.Name) :=
    (request.line.headers.get? name).map (Text.octets ·.value)
  return {
    method := toString request.line.method
    target := toString request.line.uri
    authorization := header .authorization
    contentType := header .contentType
    body := body.toList }

/-- A response that goes over the network. -/
def sent (response : Http.Response) : Async (Std.Http.Response Std.Http.Body.Any) := do
  let status := Std.Http.Status.ofCode none (UInt16.ofNat response.status)
  let builder := Std.Http.Response.withStatus (status.getD .internalServerError)
  let builder := (response.challenge.bind (builder.header? "www-authenticate")).getD builder
  let full ← match response.body with
    | some json => builder.json json.text
    | none => builder.bytes .empty
  return { line := full.line, body := .ofBody full.body, extensions := full.extensions }

/-- Requests are listened to, and answered until the program is stopped. -/
def listen (settings : Settings.ServerSettings) (store : String) (records : Database) :
    IO Unit := do
  let records ← Std.Mutex.new records
  let handler := Std.Http.Server.Handler.ofFn fun request => do
    let response ← respond settings store records (← received request)
    sent response
  Async.block do
    match ← address? settings.host settings.port with
    | none => return
    | some address => (← Std.Http.Server.serve address handler).waitShutdown

/-- What is shown to those who ask how the program is used. -/
def usage : String :=
  "usage: registrar [--config FILE] [--url URL] [--user USER] [--password PASSWORD] COMMAND\n" ++
  "         enroll SUBJECT [--student STUDENT]\n" ++
  "         cancel SUBJECT [--student STUDENT]\n" ++
  "         subjects [--semester SEMESTER] [--search TEXT]\n" ++
  "         enrollments [--student STUDENT]\n" ++
  "       registrar server [--config FILE] [--hash-password]"

/-- The program ends without having done anything. -/
def finishWith (ending : CommandLine.Ending) : IO UInt32 := do
  match ending with
  | .help => IO.println usage
  | .version => IO.println "registrar 0.1.0"
  | .misuse => IO.eprintln usage
  return ending.exitCode.toUInt32

/-- The program ends because something went wrong. -/
def fail (complaint : String) : IO UInt32 := do
  IO.eprintln ("Error: " ++ complaint)
  return 1

/-- The server. -/
def serverMain (environment : List (String × String)) (words : List String) : IO UInt32 := do
  let records ← IO.mkRef Database.empty
  match ← Server.Launch.run (machine records) environment words with
  | .ended ending => finishWith ending
  | .failed complaint => fail complaint
  | .hashed hash =>
    IO.println hash
    return 0
  | .listening settings =>
    listen settings (settings.resolvedStorePath (environment.lookup "HOME")) (← records.get)
    return 0

/-- The client. -/
def clientMain (environment : List (String × String)) (words : List String) : IO UInt32 := do
  let finish ← Client.run fileText network environment words
  match finish with
  | .ended ending => finishWith ending
  | .failed complaint => fail complaint
  | .printed lines =>
    lines.forM IO.println
    return finish.exitCode.toUInt32

end CourseRegistry.Program

/-- The server runs behind the word `server`, and the client with any other words. -/
def main (words : List String) : IO UInt32 := do
  let environment := (← Std.Internal.UV.System.osEnviron).toList
  match words with
  | "server" :: words => CourseRegistry.Program.serverMain environment words
  | words => CourseRegistry.Program.clientMain environment words
