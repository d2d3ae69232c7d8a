import CourseRegistry.Text.Blank
import CourseRegistry.Text.Digits

/-! The time of day to the nanosecond, leap seconds included, and its written form. -/

namespace CourseRegistry

open Text

/-- Nanoseconds in a second. -/
def billion : Nat := 1000000000

/--
A time of day counts seconds since midnight and nanoseconds within the second.
A second may run for two, which is how a leap second is kept.
Clocks insert one before a full minute only, but a time of day may have it behind any second.
-/
structure TimeOfDay where
  /-- Seconds since midnight. -/
  second : Nat
  /-- Nanoseconds since that second began. -/
  nano : Nat
  /-- A day has 86400 seconds. -/
  second_lt : second < 86400 := by omega
  /-- No second is longer than two. -/
  nano_lt : nano < 2 * billion := by decide
deriving DecidableEq

namespace TimeOfDay

/-- Times of day compare as the time passed since midnight, in steps no two of them share. -/
def rank (time : TimeOfDay) : Nat :=
  time.second * (2 * billion) + time.nano

instance : LT TimeOfDay := ⟨fun a b => a.rank < b.rank⟩

instance : LE TimeOfDay := ⟨fun a b => a.rank ≤ b.rank⟩

instance (a b : TimeOfDay) : Decidable (a < b) :=
  inferInstanceAs (Decidable (a.rank < b.rank))

instance (a b : TimeOfDay) : Decidable (a ≤ b) :=
  inferInstanceAs (Decidable (a.rank ≤ b.rank))

/-- The time a number of whole seconds after midnight. -/
def ofSeconds? (second : Nat) : Option TimeOfDay :=
  if h : second < 86400 then some { second, nano := 0, second_lt := h } else none

/-- The time that a clock shows; second 60 is a leap second. -/
def ofClock? (hour minute second nano : Nat) : Option TimeOfDay :=
  if h : hour < 24 ∧ minute < 60 ∧ second < 60 ∧ nano < billion then
    some {
      second := hour * 3600 + minute * 60 + second
      nano
      second_lt := by omega
      nano_lt := by omega }
  else if h : hour < 24 ∧ minute < 60 ∧ second = 60 ∧ nano < billion then
    some {
      second := hour * 3600 + minute * 60 + 59
      nano := billion + nano
      second_lt := by omega
      nano_lt := by omega }
  else none

/-- The hour, from 0 to 23. -/
def hour (time : TimeOfDay) : Nat := time.second / 3600

/-- The minute of the hour. -/
def minute (time : TimeOfDay) : Nat := time.second / 60 % 60

/-- The fraction of a second, in as few of 0, 3, 6 or 9 digits as are exact. -/
def fractionChars (nano : Nat) : List Char :=
  if nano = 0 then []
  else if nano % 1000000 = 0 then '.' :: fixedDigits 3 (nano / 1000000)
  else if nano % 1000 = 0 then '.' :: fixedDigits 6 (nano / 1000)
  else '.' :: fixedDigits 9 nano

/-- The hour and the minute, two digits each. -/
def clockChars (time : TimeOfDay) : List Char :=
  fixedDigits 2 time.hour ++ ':' :: fixedDigits 2 time.minute

/-- The written form: hour, minute, second, and a fraction where there is one. -/
def chars (time : TimeOfDay) : List Char :=
  let (second, nano) :=
    if time.nano < billion then (time.second % 60, time.nano)
    else (time.second % 60 + 1, time.nano - billion)
  time.clockChars ++ ':' :: fixedDigits 2 second ++ fractionChars nano

/-- The written form as a text. -/
def text (time : TimeOfDay) : String :=
  String.ofList time.chars

/-- One or two digits, after any blanks. -/
def clockNumber? (cs : List Char) : Option (Nat × List Char) :=
  number? 2 (dropBlanks cs)

/-- What follows the given mark, which blanks may precede. -/
def afterMark? (mark : Char) (cs : List Char) : Option (List Char) :=
  match dropBlanks cs with
  | c :: rest => if c = mark then some rest else none
  | [] => none

/-- An optional fraction of a second in nanoseconds; digits after the ninth are dropped. -/
def fraction? : List Char → Option (Nat × List Char)
  | '.' :: cs =>
    match splitDigits 9 cs with
    | ([], _) => none
    | (front, rest) =>
      some (valueOf front * Nat.pow 10 (9 - front.length), rest.dropWhile isDigit)
  | cs => some (0, cs)

/-- The second and its fraction, behind a colon. -/
def secondPart? (cs : List Char) : Option (Nat × Nat × List Char) := do
  let (second, rest) ← clockNumber? (← afterMark? ':' cs)
  let (nano, rest) ← fraction? rest
  if second ≤ 60 then some (second, nano, rest) else none

/-- Hour and minute, and a second unless only blanks are left. -/
def ofChars? (cs : List Char) : Option TimeOfDay := do
  let (hour, rest) ← clockNumber? cs
  let (minute, rest) ← clockNumber? (← afterMark? ':' rest)
  let (second, nano, rest) := (secondPart? rest).getD (0, 0, rest)
  if dropBlanks rest = [] then ofClock? hour minute second nano else none

/-- The time of day that a text spells. -/
def ofText? (text : String) : Option TimeOfDay :=
  ofChars? text.toList

end TimeOfDay

end CourseRegistry
