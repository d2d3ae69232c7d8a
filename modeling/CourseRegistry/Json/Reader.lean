import CourseRegistry.Json.Value
import CourseRegistry.Text.Digits
import CourseRegistry.Text.Octets

/-!
Reading octets as JSON; where they stop being JSON, a `broken` value stands instead.
All marks of JSON are single octets, so that the reader takes octets for the characters with their
numbers; only what stands in quotes is put together as a text in UTF-8.
-/

namespace CourseRegistry.Json

open Text

/-- The four characters that may stand between the parts of a value. -/
def isSpace (c : Char) : Bool :=
  c == ' ' || c == '\n' || c == '\t' || c == '\r'

/-- Everything after the spaces in front. -/
def dropSpaces (cs : List Char) : List Char :=
  cs.dropWhile isSpace

/-- The value of a hexadecimal digit of either case. -/
def hexDigit? (c : Char) : Option Nat :=
  if '0' ≤ c ∧ c ≤ '9' then some (c.toNat - '0'.toNat)
  else if 'a' ≤ c ∧ c ≤ 'f' then some (c.toNat - 'a'.toNat + 10)
  else if 'A' ≤ c ∧ c ≤ 'F' then some (c.toNat - 'A'.toNat + 10)
  else none

/-- The value of four hexadecimal digits. -/
def hexUnit? (a b c d : Char) : Option Nat := do
  return (((← hexDigit? a) * 16 + (← hexDigit? b)) * 16 + (← hexDigit? c)) * 16 + (← hexDigit? d)

/-- The character that one of the short escapes stands for. -/
def shortEscape? : Char → Option Char
  | '"' => some '"'
  | '\\' => some '\\'
  | '/' => some '/'
  | 'b' => some (Char.ofNat 8)
  | 'f' => some (Char.ofNat 12)
  | 'n' => some '\n'
  | 'r' => some '\r'
  | 't' => some '\t'
  | _ => none

/-- The first half of a character that takes two units. -/
def isHighHalf (unit : Nat) : Bool := 0xD800 ≤ unit && unit < 0xDC00

/-- The second half of a character that takes two units. -/
def isLowHalf (unit : Nat) : Bool := 0xDC00 ≤ unit && unit < 0xE000

/-- The character that two halves make. -/
def joinHalves (high low : Nat) : Char :=
  Char.ofNat (0x10000 + (high - 0xD800) * 0x400 + (low - 0xDC00))

/-- The octets in quotes are a text, if each half of a character has met its other half. -/
def ofQuoted (paired : Bool) (octets : List UInt8) : Json :=
  match textOf? octets with
  | some text => if paired then .string text else .unpaired
  | none => .unpaired

/-- The octets of a character, in reverse and in front of those that were read before it. -/
def pushChar (c : Char) (read : List UInt8) : List UInt8 :=
  (String.utf8EncodeChar c).reverse ++ read

/--
The rest of a text in quotes, after the opening quote.
The octets of the text that were read so far come in reverse, and `paired` tells whether every half
of a character has met its other half.
-/
def readString (paired : Bool) (read : List UInt8) : List Char → Json × List Char
  | '"' :: cs => (ofQuoted paired read.reverse, cs)
  | '\\' :: 'u' :: a :: b :: c :: d :: '\\' :: 'u' :: e :: f :: g :: h :: cs =>
    match hexUnit? a b c d with
    | none => (.broken, [])
    | some high =>
      match hexUnit? e f g h with
      | some low =>
        -- Two halves make a character together; otherwise the second escape is read once more, by
        -- itself.
        if isHighHalf high && isLowHalf low then
          readString paired (pushChar (joinHalves high low) read) cs
        else if isHighHalf high || isLowHalf high then
          readString false read ('\\' :: 'u' :: e :: f :: g :: h :: cs)
        else
          readString paired (pushChar (Char.ofNat high) read)
            ('\\' :: 'u' :: e :: f :: g :: h :: cs)
      | none => (.broken, [])
  | '\\' :: 'u' :: a :: b :: c :: d :: cs =>
    match hexUnit? a b c d with
    | none => (.broken, [])
    | some unit =>
      if isHighHalf unit || isLowHalf unit then readString false read cs
      else readString paired (pushChar (Char.ofNat unit) read) cs
  | '\\' :: c :: cs =>
    match shortEscape? c with
    | some c => readString paired (pushChar c read) cs
    | none => (.broken, [])
  | c :: cs =>
    if c.toNat < 32 || c == '\\' then (.broken, [])
    else readString paired (UInt8.ofNat c.toNat :: read) cs
  | [] => (.broken, [])
termination_by cs => cs.length

/-- The digits behind the point of a number, which must be there if the point is. -/
def readFraction? : List Char → Option (Option (List Char) × List Char)
  | '.' :: cs =>
    match splitDigits cs.length cs with
    | ([], _) => none
    | (front, rest) => some (some front, rest)
  | cs => some (none, cs)

/-- The digits of an exponent, which must be there if its letter is. -/
def readExponent? : List Char → Option (Option Int × List Char)
  | c :: cs =>
    if c = 'e' ∨ c = 'E' then
      let (negative, cs) :=
        match cs with
        | '+' :: cs => (false, cs)
        | '-' :: cs => (true, cs)
        | cs => (false, cs)
      match splitDigits cs.length cs with
      | ([], _) => none
      | (front, rest) =>
        some (some (if negative then -(valueOf front : Int) else valueOf front), rest)
    else some (none, c :: cs)
  | [] => some (none, [])

/-- A number without its sign; a zero in front of other digits is not one. -/
def readMagnitude? (negative : Bool) (cs : List Char) : Option (Numeral × List Char) := do
  match splitDigits cs.length cs with
  | ([], _) => none
  | (front, rest) =>
    if front.head? = some '0' ∧ 1 < front.length then none
    else
      -- Digits behind the point count as more digits in front of it, with a smaller power of ten.
      let (fraction, rest) ← readFraction? rest
      let (exponent, rest) ← readExponent? rest
      let places := fraction.getD []
      some (⟨negative, valueOf (front ++ places), exponent.getD 0 - (places.length : Int),
        fraction.isNone && exponent.isNone⟩, rest)

/-- A number. -/
def readNumber (cs : List Char) : Json × List Char :=
  let read :=
    match cs with
    | '-' :: cs => readMagnitude? true cs
    | cs => readMagnitude? false cs
  match read with
  | some (numeral, rest) => (.number numeral, rest)
  | none => (.broken, [])

/-- One of the three words. -/
def readWord (word : String) (value : Json) (cs : List Char) : Json × List Char :=
  if word.toList.isPrefixOf cs then (value, cs.drop word.toList.length) else (.broken, [])

/-- The name of a member, and whether it is a text. -/
def readName? : List Char → Option (String × Bool × List Char)
  | '"' :: cs =>
    match readString true [] cs with
    | (.string name, cs) => some (name, true, cs)
    | (.unpaired, cs) => some ("", false, cs)
    | _ => none
  | _ => none

mutual

/-- A value, with what follows it; each step needs one unit of fuel. -/
def readValue : (fuel : Nat) → List Char → Json × List Char
  | 0, _ => (.broken, [])
  | fuel + 1, cs =>
    match dropSpaces cs with
    | '"' :: cs => readString true [] cs
    | '[' :: cs =>
      match dropSpaces cs with
      | ']' :: cs => (.array [], cs)
      | cs =>
        let (items, cs) := readItems fuel cs
        (.array items, cs)
    | '\x7b' :: cs =>
      match dropSpaces cs with
      | '\x7d' :: cs => (.object [], cs)
      | cs =>
        let (members, cs) := readMembers fuel cs
        (.object members, cs)
    | 'n' :: cs => readWord "null" .null ('n' :: cs)
    | 't' :: cs => readWord "true" (.bool true) ('t' :: cs)
    | 'f' :: cs => readWord "false" (.bool false) ('f' :: cs)
    | cs => readNumber cs

/-- The values of a list, up to its closing bracket. -/
def readItems : (fuel : Nat) → List Char → List Json × List Char
  | 0, _ => ([.broken], [])
  | fuel + 1, cs =>
    let (item, cs) := readValue fuel cs
    match dropSpaces cs with
    | ',' :: cs =>
      let (items, cs) := readItems fuel cs
      (item :: items, cs)
    | ']' :: cs => ([item], cs)
    | _ => ([item, .broken], [])

/-- The members of an object, up to its closing brace. -/
def readMembers : (fuel : Nat) → List Char → List (String × Json) × List Char
  | 0, _ => ([("", .broken)], [])
  | fuel + 1, cs =>
    match readName? (dropSpaces cs) with
    | none => ([("", .broken)], [])
    | some (name, isText, cs) =>
      match dropSpaces cs with
      | ':' :: cs =>
        let (value, cs) := readValue fuel cs
        let value := if isText then value else .misnamed value
        match dropSpaces cs with
        | ',' :: cs =>
          let (members, cs) := readMembers fuel cs
          ((name, value) :: members, cs)
        | '\x7d' :: cs => ([(name, value)], cs)
        | _ => ([(name, value), ("", .broken)], [])
      -- The name counts although nothing follows it: a record refuses a repeated one before that.
      | _ => ([(name, .broken)], [])

end

/-- Octets read as one value, and whether nothing but spaces follows that value. -/
structure Document where
  /-- The value. -/
  value : Json
  /-- Whether the octets end with it. -/
  ended : Bool

/-- Octets as one value. -/
def read (octets : List UInt8) : Document :=
  let cs := octetChars octets
  let (value, rest) := readValue (2 * cs.length + 2) cs
  ⟨value, dropSpaces rest == []⟩

/-- The value that a text spells from its start to its end. -/
def ofText? (text : String) : Option Json :=
  let document := read (octets text)
  if document.ended && document.value.isWhole then some document.value else none

end CourseRegistry.Json
