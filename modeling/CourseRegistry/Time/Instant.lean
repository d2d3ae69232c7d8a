import CourseRegistry.Time.Calendar
import CourseRegistry.Time.OfDay

/-!
Instants in universal time, how they are written, and the strict and the lenient way to read them.
-/

namespace CourseRegistry

open Text

/-- An instant is a date and a time of day in universal time. -/
structure Instant where
  /-- The date. -/
  date : Date
  /-- The time of that day. -/
  time : TimeOfDay
deriving DecidableEq

namespace Instant

/-- The instant a number of seconds and nanoseconds after the first of January 1970. -/
def ofEpoch? (seconds : Int) (nano : Nat) : Option Instant := do
  let date ← Date.ofDayNumber? (seconds / 86400)
  let second := (seconds % 86400).toNat
  -- Seconds are counted as clocks show them, and only the last one of a minute runs on.
  if h : second < 86400 ∧ nano < 2 * billion ∧ (billion ≤ nano → second % 60 = 59) then
    some ⟨date, ⟨second, nano, h.1, h.2.1⟩⟩
  else none

/-- A year has four digits, and a sign where it needs more or is negative. -/
def yearChars (year : Int) : List Char :=
  if year < 0 then
    '-' :: (if year.natAbs < 10000 then fixedDigits 4 year.natAbs else digits year.natAbs)
  else if year.natAbs < 10000 then fixedDigits 4 year.natAbs
  else '+' :: digits year.natAbs

/-- A date is written as year, month and day with hyphens between them. -/
def dateChars (date : Date) : List Char :=
  yearChars date.year ++ '-' :: fixedDigits 2 date.month ++ '-' :: fixedDigits 2 date.day

/-- The written form, which ends with a mark for universal time. -/
def charsWith (zone : List Char) (instant : Instant) : List Char :=
  dateChars instant.date ++ 'T' :: instant.time.chars ++ zone

/-- The form in messages ends with the letter for universal time. -/
def text (instant : Instant) : String :=
  String.ofList (instant.charsWith ['Z'])

/-- The form in storage ends with a difference of zero. -/
def stored (instant : Instant) : String :=
  String.ofList (instant.charsWith "+00:00".toList)

/-- The instant at which a place, so many minutes ahead of universal time, has a date and time. -/
def ofLocal? (date : Date) (time : TimeOfDay) (ahead : Int) : Option Instant := do
  let second := (time.second : Int) - 60 * ahead
  if h : 0 ≤ second ∧ second < 86400 then
    some ⟨date, ⟨second.toNat, time.nano, by omega, time.nano_lt⟩⟩
  else if h : -86400 ≤ second ∧ second < 0 then
    let date ← date.previous?
    some ⟨date, ⟨(second + 86400).toNat, time.nano, by omega, time.nano_lt⟩⟩
  else if h : 86400 ≤ second ∧ second < 172800 then
    let date ← date.next?
    some ⟨date, ⟨(second - 86400).toNat, time.nano, by omega, time.nano_lt⟩⟩
  else none

/-- Whether a difference from universal time is negative, by its sign. -/
def sign? : List Char → Option (Bool × List Char)
  | '+' :: cs => some (false, cs)
  | '-' :: cs => some (true, cs)
  | '\u2212' :: cs => some (true, cs)
  | _ => none

/--
A difference from universal time in minutes: the letter for none, or a sign, two digits of hours,
whatever `between` allows, and two digits of minutes.
-/
def zone? (between : List Char → Option (List Char)) : List Char → Option (Int × List Char)
  | 'Z' :: cs => some (0, cs)
  | 'z' :: cs => some (0, cs)
  | cs => do
    let (negative, cs) ← sign? cs
    let (hours, cs) ← fixedNumber? 2 cs
    let (minutes, cs) ← fixedNumber? 2 (← between cs)
    if minutes < 60 ∧ hours < 24 then
      let ahead : Int := hours * 60 + minutes
      some (if negative then -ahead else ahead, cs)
    else none

/-- The given character at the front of a text. -/
def after? (mark : Char) : List Char → Option (List Char)
  | c :: cs => if c = mark then some cs else none
  | [] => none

/-- What follows the letter, of either case, or the space between a date and a time. -/
def afterDate? : List Char → Option (List Char)
  | c :: cs => if c = 'T' ∨ c = 't' ∨ c = ' ' then some cs else none
  | [] => none

/-- The strict form: every field has its full width, and nothing stands around them. -/
def ofStrict? (cs : List Char) : Option Instant := do
  let (year, cs) ← fixedNumber? 4 cs
  let (month, cs) ← fixedNumber? 2 (← after? '-' cs)
  let (day, cs) ← fixedNumber? 2 (← after? '-' cs)
  let (hour, cs) ← fixedNumber? 2 (← afterDate? cs)
  let (minute, cs) ← fixedNumber? 2 (← after? ':' cs)
  let (second, cs) ← fixedNumber? 2 (← after? ':' cs)
  let (nano, cs) ← TimeOfDay.fraction? cs
  let (ahead, cs) ← zone? (after? ':') cs
  if cs = [] then
    ofLocal? (← Date.of? year month day) (← TimeOfDay.ofClock? hour minute second nano) ahead
  else none

/-- A year of at most four digits, or of any number of them behind a sign. -/
def year? (cs : List Char) : Option (Int × List Char) :=
  match dropBlanks cs with
  | '-' :: cs => (number? cs.length cs).map fun (year, rest) => (-(year : Int), rest)
  | '+' :: cs => (number? cs.length cs).map fun (year, rest) => ((year : Int), rest)
  | cs => (number? 4 cs).map fun (year, rest) => ((year : Int), rest)

/-- Universal time by name, in any case, or a difference with any colons and blanks inside. -/
def lenientZone? (cs : List Char) : Option (Int × List Char) :=
  if (cs.take 3).map Char.toLower = ['u', 't', 'c'] then some (0, cs.drop 3)
  else zone? (fun cs => some (cs.dropWhile fun c => c == ':' || isBlank c)) cs

/-- The lenient form: fields may be short and blanks may stand between them and at the ends. -/
def ofLenient? (cs : List Char) : Option Instant := do
  let (year, cs) ← year? cs
  let (month, cs) ← TimeOfDay.clockNumber? (← TimeOfDay.afterMark? '-' cs)
  let (day, cs) ← TimeOfDay.clockNumber? (← TimeOfDay.afterMark? '-' cs)
  let (hour, cs) ← TimeOfDay.clockNumber? (← afterDate? cs)
  let (minute, cs) ← TimeOfDay.clockNumber? (← TimeOfDay.afterMark? ':' cs)
  let (second, nano, cs) ← TimeOfDay.secondPart? cs
  let (ahead, cs) ← lenientZone? (dropBlanks cs)
  if dropBlanks cs = [] then
    ofLocal? (← Date.of? year month day) (← TimeOfDay.ofClock? hour minute second nano) ahead
  else none

/-- The instant that a text in a message spells. -/
def ofText? (text : String) : Option Instant :=
  ofLenient? text.toList

/-- The instant that a text in storage spells. -/
def ofStored? (text : String) : Option Instant :=
  ofStrict? text.toList

end Instant

end CourseRegistry
