import CourseRegistry.Json.Value
import CourseRegistry.Text.Digits

/-! JSON values written without any space between their parts. -/

namespace CourseRegistry.Json

open Text

/-- The lower-case hexadecimal digit of a value below sixteen. -/
def hexDigit (value : Nat) : Char :=
  if value < 10 then digitChar value else Char.ofNat ('a'.toNat + (value - 10))

/-- A character inside of quotes; control characters, quotes and backslashes are escaped. -/
def escapeChar (c : Char) : List Char :=
  if c = '"' then ['\\', '"']
  else if c = '\\' then ['\\', '\\']
  else if c = '\n' then ['\\', 'n']
  else if c = '\r' then ['\\', 'r']
  else if c = '\t' then ['\\', 't']
  else if c.toNat = 8 then ['\\', 'b']
  else if c.toNat = 12 then ['\\', 'f']
  else if c.toNat < 32 then
    ['\\', 'u', '0', '0', hexDigit (c.toNat / 16), hexDigit (c.toNat % 16)]
  else [c]

/-- A text in quotes. -/
def stringChars (text : String) : List Char :=
  '"' :: (text.toList.flatMap escapeChar ++ ['"'])

/-- A number as digits, with the power of ten behind an `e` unless the number is whole. -/
def numeralChars (numeral : Numeral) : List Char :=
  let sign := if numeral.negative then ['-'] else []
  let front := sign ++ digits numeral.mantissa
  if numeral.whole then front
  else if numeral.scale < 0 then front ++ 'e' :: '-' :: digits numeral.scale.natAbs
  else front ++ 'e' :: digits numeral.scale.natAbs

mutual

/-- The written form of a value; a text that is none is written as nothing. -/
def chars : Json → List Char
  | .null => "null".toList
  | .bool true => "true".toList
  | .bool false => "false".toList
  | .number numeral => numeralChars numeral
  | .string text => stringChars text
  | .array items => '[' :: (itemsChars items ++ [']'])
  | .object members => '\x7b' :: (membersChars members ++ ['\x7d'])
  | .unpaired => "null".toList
  | .misnamed _ => "null".toList
  | .broken => "null".toList

/-- Values with a comma between one and the next. -/
def itemsChars : List Json → List Char
  | [] => []
  | [item] => chars item
  | item :: items => chars item ++ ',' :: itemsChars items

/-- Named values with a comma between one and the next. -/
def membersChars : List (String × Json) → List Char
  | [] => []
  | [(name, value)] => stringChars name ++ ':' :: chars value
  | (name, value) :: members =>
    stringChars name ++ ':' :: (chars value ++ ',' :: membersChars members)

end

/-- The written form as a text. -/
def text (json : Json) : String :=
  String.ofList json.chars

end CourseRegistry.Json
