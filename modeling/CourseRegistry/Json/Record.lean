import CourseRegistry.Json.Reader
import CourseRegistry.Text.Blank

/-! Records read from JSON: what comes first in the text decides what is wrong with it. -/

namespace CourseRegistry

/-- What can be wrong with a text that should hold a record. -/
inductive Fault where
  /-- The text is not JSON. -/
  | malformed
  /-- The text is JSON of another shape. -/
  | mismatched
deriving DecidableEq

namespace Json

/--
Where a value comes from: straight from a text, with room for so many more levels of nesting, or
from a value that was read and held back before.
-/
inductive Origin where
  /-- From a text, below so many levels of nesting. -/
  | text (room : Nat)
  /-- From a value that was held back. -/
  | held

namespace Origin

/-- A text may nest values this deep. -/
def start : Origin := .text 128

/-- The origin of the parts of a value. -/
def inside : Origin → Origin
  | .text room => .text (room - 1)
  | .held => .held

/--
What is wrong with a value that has no place where it stands: a text is not read beyond it, and a
value that was held back has another shape.
-/
def stray : Origin → Fault
  | .text _ => .malformed
  | .held => .mismatched

end Origin

/-- A way to make something of a JSON value. -/
abbrev Decode (α : Type) := Origin → Json → Except Fault α

/-- What is wrong with a value of another shape than was asked for. -/
def mismatch : Json → Fault
  | .broken => .malformed
  | .unpaired => .malformed
  | .misnamed _ => .malformed
  | .number numeral => if numeral.fits then .mismatched else .malformed
  | _ => .mismatched

/-- A text. -/
def asText : Decode String
  | _, .string text => .ok text
  | _, json => .error json.mismatch

/-- A number of 32 bits. -/
def asCount : Decode UInt32
  | _, .number numeral =>
    if numeral.whole && !numeral.negative && decide (numeral.mantissa < UInt32.size) then
      .ok (UInt32.ofNat numeral.mantissa)
    else .error (mismatch (.number numeral))
  | _, json => .error json.mismatch

/-- One of the two truth values. -/
def asBool : Decode Bool
  | _, .bool value => .ok value
  | _, json => .error json.mismatch

/-- A text that spells something. -/
def asSpelled {α : Type} (spell? : String → Option α) : Decode α
  | _, .string text =>
    match spell? text with
    | some value => .ok value
    | none => .error .mismatched
  | _, json => .error json.mismatch

/-- Nothing, or a value. -/
def asOption {α : Type} (decode : Decode α) : Decode (Option α)
  | _, .null => .ok none
  | origin, json => some <$> decode origin json

/-- A list of values. -/
def asList {α : Type} (decode : Decode α) : Decode (List α)
  | origin, .array items => items.mapM (decode origin.inside)
  | _, json => .error json.mismatch

mutual

/--
A value can be held back when its numbers fit a float, its texts are whole and it is not nested too
deep.
-/
def canHold (room : Nat) : Json → Bool
  | .broken => false
  | .unpaired => false
  | .misnamed _ => false
  | .number numeral => numeral.fits
  | .array items => decide (1 < room) && canHoldAll (room - 1) items
  | .object members => decide (1 < room) && canHoldMembers (room - 1) members
  | _ => true

/-- Every value of a list can be held back. -/
def canHoldAll (room : Nat) : List Json → Bool
  | [] => true
  | item :: items => canHold room item && canHoldAll room items

/-- Every value of an object can be held back. -/
def canHoldMembers (room : Nat) : List (String × Json) → Bool
  | [] => true
  | (_, value) :: members => canHold room value && canHoldMembers room members

end

/-- A value of this origin can be held back. -/
def Origin.canHold : Origin → Json → Bool
  | .text room, json => Json.canHold room json
  | .held, _ => true

/-- A field of a record. -/
structure Field where
  /-- The name of the member that holds it. -/
  name : String
  /-- What is wrong with a value for it. -/
  fault? : Origin → Json → Option Fault
  /-- Whether a list of the fields may end before it. -/
  spare : Bool

namespace Field

/-- A field that is read in the given way. -/
def of {α : Type} (name : String) (decode : Decode α) (spare : Bool) : Field where
  name
  fault? origin json :=
    match decode origin json with
    | .ok _ => none
    | .error fault => some fault
  spare

/-- A field that every list of the fields has. -/
def needed {α : Type} (name : String) (decode : Decode α) : Field :=
  of name decode false

/-- A field that a list of the fields may leave out at its end. -/
def sparing {α : Type} (name : String) (decode : Decode α) : Field :=
  of name decode true

end Field

/-- The fields of a record that a value holds. -/
structure Found where
  /-- Where the values of the fields come from. -/
  origin : Origin
  /-- The name and the value of each. -/
  values : List (String × Json)

/-- The fields among the members of an object; others are passed over, and none may come twice. -/
def findMembers (fields : List Field) (origin : Origin) :
    (found members : List (String × Json)) → Except Fault (List (String × Json))
  | found, [] => .ok found
  | found, (name, value) :: members =>
    match fields.find? (·.name == name) with
    | some field =>
      -- A name that comes twice is wrong whatever its value is.
      if found.any (·.1 == name) then .error .mismatched
      else
        match field.fault? origin value with
        | some fault => .error fault
        | none => findMembers fields origin (found ++ [(name, value)]) members
    | none => if value.canPass then findMembers fields origin found members else .error .malformed

/-- The fields as a list has them, one after the other. -/
def findItems (origin : Origin) : List Field → List Json → Except Fault (List (String × Json))
  | [], [] => .ok []
  | [], _ :: _ => .error origin.stray
  | field :: fields, [] =>
    if field.spare then findItems origin fields [] else .error .mismatched
  | field :: fields, value :: values =>
    match field.fault? origin value with
    | some fault => .error fault
    | none => ((field.name, value) :: ·) <$> findItems origin fields values

/-- The fields of a record, from an object or from a list. -/
def find (fields : List Field) : Decode Found
  | origin, .object members =>
    Found.mk origin.inside <$> findMembers fields origin.inside [] members
  | origin, .array items => Found.mk origin.inside <$> findItems origin.inside fields items
  | _, json => .error json.mismatch

/--
The fields among the members of an object, and all other members, which must be fit to be held back.
-/
def splitMembers (fields : List Field) (origin : Origin) :
    (found rest members : List (String × Json)) →
      Except Fault (List (String × Json) × List (String × Json))
  | found, rest, [] => .ok (found, rest)
  | found, rest, (name, value) :: members =>
    match fields.find? (·.name == name) with
    | some field =>
      if found.any (·.1 == name) then .error .mismatched
      else
        match field.fault? origin value with
        | some fault => .error fault
        | none => splitMembers fields origin (found ++ [(name, value)]) rest members
    | none =>
      if origin.canHold value then
        splitMembers fields origin found (rest ++ [(name, value)]) members
      else .error .malformed

/--
The fields of a record that shares its object with another one, and what is left for that one.
-/
def split (fields : List Field) : Origin → Json → Except Fault (Found × Found)
  | origin, .object members => do
    let (found, rest) ← splitMembers fields origin.inside [] [] members
    -- What is left has been read once and is not read from the text again.
    .ok (⟨origin.inside, found⟩, ⟨.held, rest⟩)
  | _, json => .error json.mismatch

/-- The fields of a record among members that were held back. -/
def Found.narrow (found : Found) (fields : List Field) : Except Fault Found :=
  Found.mk found.origin <$> findMembers fields found.origin [] found.values

/-- The value of a field, if it was found. -/
def Found.value? (found : Found) (name : String) : Option Json :=
  (found.values.find? (·.1 == name)).map (·.2)

/-- A field that has to be there. -/
def Found.required {α : Type} (found : Found) (name : String) (decode : Decode α) :
    Except Fault α :=
  match found.value? name with
  | some json => decode found.origin json
  | none => .error .mismatched

/-- A field that may be absent, and then holds nothing. -/
def Found.optional {α : Type} (found : Found) (name : String) (decode : Decode α) :
    Except Fault (Option α) :=
  match found.value? name with
  | some json => asOption decode found.origin json
  | none => .ok none

/-- All of some octets as one record; what follows it is wrong only if the record is right. -/
def decodeOctets {α : Type} (decode : Decode α) (octets : List UInt8) : Except Fault α :=
  let document := read octets
  match decode .start document.value with
  | .error fault => .error fault
  | .ok value => if document.ended then .ok value else .error .malformed

/-- A whole text as one record. -/
def decodeText {α : Type} (decode : Decode α) (text : String) : Except Fault α :=
  decodeOctets decode (Text.octets text)

end Json

end CourseRegistry
