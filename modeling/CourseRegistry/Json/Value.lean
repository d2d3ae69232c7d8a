/-! JSON values as a text holds them, up to the place where it stops being JSON. -/

namespace CourseRegistry

/-- A number as it is written: a whole part and a power of ten. -/
structure Numeral where
  /-- Whether a minus stands in front. -/
  negative : Bool
  /-- All digits, without the point. -/
  mantissa : Nat
  /-- The power of ten that the digits are multiplied with. -/
  scale : Int
  /-- Whether the number is written without point and exponent. -/
  whole : Bool
deriving DecidableEq

/--
A JSON value.
Besides the six kinds, what stands in quotes may be no text, because of an escape of half a
character or of octets that are not UTF-8, and so may the name of a member. And the octets may stop
being JSON altogether; a list or an object that breaks off ends with a `broken` value.
-/
inductive Json where
  /-- The value for nothing. -/
  | null
  /-- One of the two truth values. -/
  | bool (value : Bool)
  /-- A number. -/
  | number (numeral : Numeral)
  /-- A text. -/
  | string (text : String)
  /-- A list of values. -/
  | array (items : List Json)
  /-- Named values, in the order in which they stand. -/
  | object (members : List (String × Json))
  /-- What stands in quotes and is no text. -/
  | unpaired
  /-- The value of a member whose name is no text. -/
  | misnamed (value : Json)
  /-- The place where the text stops being JSON. -/
  | broken

namespace Json

/-- A natural number. -/
def nat (value : Nat) : Json :=
  .number ⟨false, value, 0, true⟩

/-- A value, or nothing. -/
def ofOption {α : Type} (write : α → Json) : Option α → Json
  | none => .null
  | some value => write value

mutual

/-- A value is whole when the text does not stop being JSON inside of it. -/
def isWhole : Json → Bool
  | .broken => false
  | .array items => allWhole items
  | .object members => membersWhole members
  | .misnamed value => isWhole value
  | _ => true

/-- Every value of a list is whole. -/
def allWhole : List Json → Bool
  | [] => true
  | item :: items => isWhole item && allWhole items

/-- Every value of an object is whole. -/
def membersWhole : List (String × Json) → Bool
  | [] => true
  | (_, value) :: members => isWhole value && membersWhole members

end

/-- The value of a member can be passed over when it is whole and the member has a name. -/
def canPass : Json → Bool
  | .misnamed _ => false
  | json => json.isWhole

/-- The value of the last member with a name. -/
def member? (name : String) : Json → Option Json
  | .object members => (members.reverse.find? (·.1 == name)).map (·.2)
  | _ => none

end Json

namespace Numeral

/-- The least number that no double-precision float is nearest to. -/
def tooLarge : Nat := Nat.pow 2 1024 - Nat.pow 2 970

/-- A number fits when some finite double-precision float is nearest to it. -/
def fits (numeral : Numeral) : Bool :=
  if numeral.mantissa = 0 then true
  else
    let places := (Nat.toDigits 10 numeral.mantissa).length + numeral.scale
    if places ≤ 308 then true
    else if 310 ≤ places then false
    else if 0 ≤ numeral.scale then
      decide (numeral.mantissa * Nat.pow 10 numeral.scale.toNat < tooLarge)
    else decide (numeral.mantissa < tooLarge * Nat.pow 10 (-numeral.scale).toNat)

end Numeral

end CourseRegistry
