/-! The seven days of the week, numbered from Monday. -/

namespace CourseRegistry

/-- A day of the week. -/
inductive Weekday where
  | monday | tuesday | wednesday | thursday | friday | saturday | sunday
deriving DecidableEq

namespace Weekday

/-- All days in order. -/
def all : List Weekday := [monday, tuesday, wednesday, thursday, friday, saturday, sunday]

/-- The place of a day in the week; Monday is 0. -/
def index : Weekday → Nat
  | monday => 0 | tuesday => 1 | wednesday => 2 | thursday => 3
  | friday => 4 | saturday => 5 | sunday => 6

/-- The day at a place in the week. -/
def ofIndex? (index : Nat) : Option Weekday :=
  all[index]?

/-- The English name. -/
def name : Weekday → String
  | monday => "Monday" | tuesday => "Tuesday" | wednesday => "Wednesday"
  | thursday => "Thursday" | friday => "Friday" | saturday => "Saturday" | sunday => "Sunday"

/-- A day is written as the first three letters of its name. -/
def text : Weekday → String
  | monday => "Mon" | tuesday => "Tue" | wednesday => "Wed"
  | thursday => "Thu" | friday => "Fri" | saturday => "Sat" | sunday => "Sun"

/-- The day that a text names, in full or by three letters, in any case. -/
def ofText? (text : String) : Option Weekday :=
  let spelled := text.toList.map Char.toLower
  all.find? fun day =>
    spelled == day.text.toList.map Char.toLower || spelled == day.name.toList.map Char.toLower

end Weekday

end CourseRegistry
