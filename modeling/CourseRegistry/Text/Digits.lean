/-! Decimal digits: numbers of a fixed width, and runs of digits at the front of a text. -/

namespace CourseRegistry.Text

/-- The value of one of the ten ASCII digits. -/
def digitValue? (c : Char) : Option Nat :=
  if '0' ≤ c ∧ c ≤ '9' then some (c.toNat - '0'.toNat) else none

/-- A character is a digit when it is one of the ten of ASCII. -/
def isDigit (c : Char) : Bool :=
  decide ('0' ≤ c ∧ c ≤ '9')

/-- The digit that stands for a value below ten. -/
def digitChar (value : Nat) : Char :=
  Char.ofNat ('0'.toNat + value % 10)

/-- The last `width` decimal digits of a number, with zeros in front where it has fewer. -/
def fixedDigits : (width value : Nat) → List Char
  | 0, _ => []
  | width + 1, value => fixedDigits width (value / 10) ++ [digitChar value]

/-- All decimal digits of a number. -/
def digits (value : Nat) : List Char :=
  Nat.toDigits 10 value

/-- The number that a run of digits denotes; other characters count as zero. -/
def valueOf (cs : List Char) : Nat :=
  cs.foldl (fun value c => 10 * value + (digitValue? c).getD 0) 0

/-- The digits at the front of a text, at most `limit` of them, and what follows. -/
def splitDigits : (limit : Nat) → List Char → List Char × List Char
  | 0, cs => ([], cs)
  | _ + 1, [] => ([], [])
  | limit + 1, c :: cs =>
    if isDigit c then
      let (front, rest) := splitDigits limit cs
      (c :: front, rest)
    else ([], c :: cs)

/-- A number of at least one and at most `limit` digits at the front of a text. -/
def number? (limit : Nat) (cs : List Char) : Option (Nat × List Char) :=
  match splitDigits limit cs with
  | ([], _) => none
  | (front, rest) => some (valueOf front, rest)

/-- A number of exactly `width` digits at the front of a text. -/
def fixedNumber? (width : Nat) (cs : List Char) : Option (Nat × List Char) :=
  let (front, rest) := splitDigits width cs
  if front.length = width then some (valueOf front, rest) else none

/-- The number that a whole text of digits denotes. -/
def natural? (cs : List Char) : Option Nat :=
  if cs ≠ [] ∧ cs.all isDigit then some (valueOf cs) else none

end CourseRegistry.Text
