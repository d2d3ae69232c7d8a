import CourseRegistry.Client.Exchange
import CourseRegistry.Text.Digits

/-! Requests and replies on a connection that the server closes behind its reply. -/

namespace CourseRegistry.Client

open Http Text

/-- Where a server is, and what comes before every path there. -/
structure Origin where
  host : String
  port : UInt16
  path : String
deriving DecidableEq

namespace Origin

/-- What an address starts with that is reached without encryption. -/
def scheme : List Char := "http://".toList

/-- The place that an address names; without encryption, the usual port is 80. -/
def ofUrl? (url : String) : Option Origin :=
  if scheme.isPrefixOf url.toList then
    let rest := url.toList.drop scheme.length
    let authority := rest.takeWhile (· ≠ '/')
    let host := authority.takeWhile (· ≠ ':')
    let path := String.ofList (rest.drop authority.length)
    match authority.drop host.length with
    | [] => some ⟨String.ofList host, 80, path⟩
    | _ :: digits => do
      let port ← natural? digits
      if port < UInt16.size then some ⟨String.ofList host, UInt16.ofNat port, path⟩ else none
  else none

end Origin

/-- What ends a line of a message. -/
def lineEnd : String := "\r\n"

/-- A header that may be missing. -/
def headerLine (name : String) : Option (List UInt8) → List UInt8
  | none => []
  | some value => octets (name ++ ": ") ++ value ++ octets lineEnd

/-- A request as it is sent. -/
def requestOctets (origin : Origin) (request : Request) : List UInt8 :=
  octets (request.method ++ " " ++ origin.path ++ request.target ++ " HTTP/1.1" ++ lineEnd) ++
    headerLine "host" (octets (origin.host ++ ":" ++ toString origin.port)) ++
    headerLine "connection" (octets "close") ++
    headerLine "accept" (octets "*/*") ++
    headerLine "authorization" request.authorization ++
    headerLine "content-type" request.contentType ++
    headerLine "content-length" (octets (toString request.body.length)) ++
    octets lineEnd ++ request.body

/-- What stands before the first empty line, and what stands behind it. -/
def splitHead? : List UInt8 → Option (List UInt8 × List UInt8)
  | 0x0D :: 0x0A :: 0x0D :: 0x0A :: body => some ([], body)
  | octet :: rest => (splitHead? rest).map fun (head, body) => (octet :: head, body)
  | [] => none

/-- The number behind the first blank of a reply. -/
def statusOf? (head : List UInt8) : Option Nat :=
  natural? (octetChars ((head.dropWhile (· != 0x20)).drop 1 |>.take 3))

/-- The reply that was received up to the end of the connection. -/
def replyOf? (received : List UInt8) : Option Reply := do
  let (head, body) ← splitHead? received
  return ⟨← statusOf? head, body⟩

end CourseRegistry.Client
