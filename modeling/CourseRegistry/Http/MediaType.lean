import CourseRegistry.Text.Digits
import CourseRegistry.Text.Octets

/-! The kinds of content that a message may declare. -/

namespace CourseRegistry.Http

/-- A character that a name in a header may hold. -/
def isTokenChar (c : Char) : Bool :=
  c.isAlphanum || "!#$%&'+-.^_`|~".toList.contains c

/-- A character that a header may hold. -/
def isHeaderChar (c : Char) : Bool :=
  c == '\t' || (32 ≤ c.toNat && c.toNat < 127)

/-- The characters of a header, if it holds none but those that it may hold. -/
def headerChars? (value : List UInt8) : Option (List Char) :=
  let cs := Text.octetChars value
  if cs.all isHeaderChar then some cs else none

/-- What follows a value in quotes: blanks up to the next semicolon, or to the end. -/
def afterQuoted? : List Char → Option (List Char)
  | [] => some []
  | ' ' :: cs => afterQuoted? cs
  | ';' :: cs => some cs
  | _ :: _ => none

/-- What follows a value in quotes and its closing quote; the value is not empty. -/
def quotedValue? (cs : List Char) : Option (List Char) :=
  match cs.span fun c => c != '"' && isHeaderChar c with
  | (_ :: _, '"' :: rest) => afterQuoted? rest
  | _ => none

/-- What follows one parameter: a name, an equals sign and a value. -/
def parameter? (cs : List Char) : Option (List Char) :=
  match (cs.dropWhile (· == ' ')).span isTokenChar with
  | (_ :: _, '=' :: '"' :: rest) => quotedValue? rest
  | (_ :: _, '=' :: rest) =>
    match rest.span isTokenChar with
    | (_, []) => some []
    | (_ :: _, ';' :: rest) => some rest
    | _ => none
  | _ => none

/-- Parameters stand behind semicolons. -/
def areParameters : (fuel : Nat) → List Char → Bool
  | _, [] => true
  | 0, _ :: _ => false
  | fuel + 1, cs =>
    match parameter? cs with
    | some rest => areParameters fuel rest
    | none => false

/-- A kind of content: its type, its subtype up to the last plus, and what follows that plus. -/
structure MediaType where
  type : List Char
  subtype : List Char
  suffix : Option (List Char)

namespace MediaType

/-- A subtype cut at its last plus, which may not come first. -/
def cutSuffix (cs : List Char) : List Char × Option (List Char) :=
  let suffix := cs.reverse.takeWhile (· ≠ '+')
  let front := (cs.reverse.drop (suffix.length + 1)).reverse
  if front.isEmpty then (cs, none) else (front, some suffix.reverse)

/-- The kind that the characters of a header declare; case does not matter. -/
def ofChars? (cs : List Char) : Option MediaType :=
  let cs := cs.map Char.toLower
  match cs.span isTokenChar with
  | (type@(_ :: _), '/' :: rest) =>
    match rest.span isTokenChar with
    | (subtype@(_ :: _), parameters) =>
      let (front, suffix) := cutSuffix subtype
      match parameters with
      | [] => some ⟨type, front, suffix⟩
      | ';' :: parameters =>
        if areParameters parameters.length parameters then some ⟨type, front, suffix⟩ else none
      | _ => none
    | _ => none
  | _ => none

/-- The kind is JSON, or a kind built on JSON. -/
def isJson (kind : MediaType) : Bool :=
  kind.type == "application".toList &&
    (kind.subtype == "json".toList || kind.suffix == some "json".toList)

end MediaType

/-- A header declares JSON. -/
def declaresJson (contentType : Option (List UInt8)) : Bool :=
  match (contentType.bind headerChars?).bind MediaType.ofChars? with
  | some kind => kind.isJson
  | none => false

/-- A header declares a form; here case matters, and anything may follow. -/
def declaresForm (contentType : Option (List UInt8)) : Bool :=
  match contentType.bind headerChars? with
  | some cs => "application/x-www-form-urlencoded".toList.isPrefixOf cs
  | none => false

end CourseRegistry.Http
