import CourseRegistry.Store.Error
import CourseRegistry.Time.Instant
import CourseRegistry.Time.Weekday

/-!
Single stored values: their order, how domain values are stored in them, and how they are read.
-/

namespace CourseRegistry

/-- A stored value: nothing, a whole number, or a text. -/
inductive Cell where
  | null
  | integer (value : Int)
  | text (value : String)
deriving DecidableEq

namespace Cell

/-- Nothing precedes numbers, and numbers precede texts; texts are ordered by their characters. -/
def precedes : Cell → Cell → Bool
  | null, null => false
  | null, _ => true
  | integer _, null => false
  | integer a, integer b => decide (a < b)
  | integer _, text _ => true
  | text a, text b => decide (a < b)
  | text _, _ => false

/-- The order of rows of cells: the first difference decides. -/
def keyLe : List Cell → List Cell → Bool
  | [], _ => true
  | _ :: _, [] => false
  -- Where the first cells are equal, the others decide.
  | a :: as, b :: bs => a.precedes b || (a == b && keyLe as bs)

/-- Rows in the order of their keys; rows with equal keys stay as they stood. -/
def sortOn {α : Type} (key : α → List Cell) (rows : List α) : List α :=
  -- The sort is stable.
  rows.mergeSort fun a b => keyLe (key a) (key b)

/-- The cell that holds an identifier. -/
def ofId (id : Uuid) : Cell := .text id.text

/-- The cell that holds an instant. -/
def ofInstant (instant : Instant) : Cell := .text instant.stored

/-- The cell that holds a count. -/
def ofCount (count : UInt32) : Cell := .integer count.toNat

/-- The cell that holds a weekday. -/
def ofWeekday (day : Weekday) : Cell := .integer day.index

/-- The cell that holds a time of day, without the fraction of its second. -/
def ofTime (time : TimeOfDay) : Cell := .integer time.second

/-- The cell that holds a value, or nothing. -/
def ofOption {α : Type} (write : α → Cell) : Option α → Cell
  | none => .null
  | some value => write value

/-- The cell holds a text. -/
def isText : Cell → Bool
  | text _ => true
  | _ => false

/-- The cell holds a number. -/
def isInteger : Cell → Bool
  | integer _ => true
  | _ => false

/-- The cell holds a text or nothing. -/
def isTextOrNull : Cell → Bool
  | integer _ => false
  | _ => true

/-- The text in a cell. -/
def readText : Cell → Except StoreError String
  | text value => .ok value
  | _ => .error .database

/-- The number in a cell. -/
def readInteger : Cell → Except StoreError Int
  | integer value => .ok value
  | _ => .error .database

/-- The value in a cell, or nothing. -/
def readOption {α : Type} (read : Cell → Except StoreError α) : Cell → Except StoreError (Option α)
  | null => .ok none
  | cell => some <$> read cell

/-- The identifier in a cell. -/
def readId (cell : Cell) : Except StoreError Uuid := do
  match Uuid.ofText? (← cell.readText) with
  | some id => .ok id
  | none => .error .malformedId

/-- The instant in a cell. -/
def readInstant (cell : Cell) : Except StoreError Instant := do
  match Instant.ofStored? (← cell.readText) with
  | some instant => .ok instant
  | none => .error .malformedInstant

/-- A whole number that is a count. -/
def countOf (number : Int) : Except StoreError UInt32 :=
  -- A number that does not fit is an error, and never cut down.
  if 0 ≤ number ∧ number < UInt32.size then .ok (UInt32.ofNat number.toNat)
  else .error (.undecodable (.count number))

/-- The count in a cell. -/
def readCount (cell : Cell) : Except StoreError UInt32 := do
  countOf (← cell.readInteger)

/-- A whole number that is a weekday. -/
def weekdayOf (number : Int) : Except StoreError Weekday :=
  match if 0 ≤ number then Weekday.ofIndex? number.toNat else none with
  | some day => .ok day
  | none => .error (.undecodable (.weekday number))

/-- The weekday in a cell. -/
def readWeekday (cell : Cell) : Except StoreError Weekday := do
  weekdayOf (← cell.readInteger)

/-- A whole number that is a time of day. -/
def timeOf (number : Int) : Except StoreError TimeOfDay :=
  match if 0 ≤ number then TimeOfDay.ofSeconds? number.toNat else none with
  | some time => .ok time
  | none => .error (.undecodable (.timeOfDay number))

/-- The time of day in a cell. -/
def readTime (cell : Cell) : Except StoreError TimeOfDay := do
  timeOf (← cell.readInteger)

end Cell

end CourseRegistry
