/-!
Universally unique identifiers: 32 hexadecimal digits and the four spellings they are read in.
-/

namespace CourseRegistry

/-- The value of a hexadecimal digit of either case. -/
def hexValue? (c : Char) : Option (Fin 16) :=
  if '0' ≤ c ∧ c ≤ '9' then some (Fin.ofNat 16 (c.toNat - '0'.toNat))
  else if 'a' ≤ c ∧ c ≤ 'f' then some (Fin.ofNat 16 (c.toNat - 'a'.toNat + 10))
  else if 'A' ≤ c ∧ c ≤ 'F' then some (Fin.ofNat 16 (c.toNat - 'A'.toNat + 10))
  else none

/-- The lower-case hexadecimal digit of a value. -/
def hexChar (value : Fin 16) : Char :=
  if value.val < 10 then Char.ofNat ('0'.toNat + value.val)
  else Char.ofNat ('a'.toNat + (value.val - 10))

/-- An identifier is a row of 32 hexadecimal digits. -/
structure Uuid where
  /-- The digits, most significant first. -/
  digits : List (Fin 16)
  /-- There are 32 of them. -/
  length_eq : digits.length = 32
deriving DecidableEq

namespace Uuid

/-- The identifier of a row of digits, if there are 32. -/
def ofDigits? (digits : List (Fin 16)) : Option Uuid :=
  if h : digits.length = 32 then some ⟨digits, h⟩ else none

/-- The identifier whose digits are those of a number, cut to its last 32. -/
def ofNat (value : Nat) : Uuid where
  digits := (List.range 32).map fun i => Fin.ofNat 16 (value / Nat.pow 16 (31 - i))
  length_eq := by simp

/-- The identifier made of a random number, whose digits tell at two places that it is random. -/
def ofRandom (value : Nat) : Uuid where
  digits := (List.range 32).map fun i =>
    let digit := value / Nat.pow 16 (31 - i)
    if i = 12 then 4 else if i = 16 then Fin.ofNat 16 (8 + digit % 4) else Fin.ofNat 16 digit
  length_eq := by simp

/-- How many digits stand between the hyphens. -/
def groups : List Nat := [8, 4, 4, 4, 12]

/-- Digits written in groups with a hyphen between one group and the next. -/
def hyphenate : (groups : List Nat) → List (Fin 16) → List Char
  | [], _ => []
  | [size], digits => (digits.take size).map hexChar
  | size :: sizes, digits =>
    (digits.take size).map hexChar ++ '-' :: hyphenate sizes (digits.drop size)

/-- The written form has lower-case digits and four hyphens. -/
def chars (id : Uuid) : List Char :=
  hyphenate groups id.digits

/-- The written form as a text. -/
def text (id : Uuid) : String :=
  String.ofList id.chars

/-- Digits read from groups of the given sizes with a hyphen between one group and the next. -/
def unhyphenate? : (groups : List Nat) → List Char → Option (List (Fin 16))
  | [], [] => some []
  | [], _ :: _ => none
  | [size], cs => if cs.length = size then cs.mapM hexValue? else none
  | size :: sizes, cs =>
    if (cs.take size).length = size then do
      let front ← (cs.take size).mapM hexValue?
      match cs.drop size with
      | '-' :: rest => return front ++ (← unhyphenate? sizes rest)
      | _ => none
    else none

/-- The hyphenated spelling. -/
def ofHyphenated? (cs : List Char) : Option Uuid :=
  unhyphenate? groups cs >>= ofDigits?

/-- The word in front of an identifier in its name as a resource, in lower and in upper case. -/
def resourceMarks : List (List Char) := ["urn:uuid:".toList, "URN:UUID:".toList]

/--
Four spellings are read: plain digits, groups with hyphens, and the latter in braces or behind
the mark of a resource name.
-/
def ofChars? (cs : List Char) : Option Uuid :=
  if cs.length = 32 then cs.mapM hexValue? >>= ofDigits?
  else if cs.length = 36 then ofHyphenated? cs
  else if cs.length = 38 then
    if cs.head? = some '\x7b' ∧ cs.getLast? = some '\x7d' then
      ofHyphenated? (cs.drop 1).dropLast
    else none
  else if cs.length = 45 then
    if resourceMarks.contains (cs.take 9) then ofHyphenated? (cs.drop 9) else none
  else none

/-- The identifier that a text spells. -/
def ofText? (text : String) : Option Uuid :=
  ofChars? text.toList

instance : Inhabited Uuid := ⟨ofNat 0⟩

end Uuid

end CourseRegistry
