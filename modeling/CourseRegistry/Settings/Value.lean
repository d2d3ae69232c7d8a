import CourseRegistry.Toml.Table

/-!
Values of settings, from a file or from the environment, and how one kind is taken for another.
-/

namespace CourseRegistry.Settings

open Text

/-- A value that was given for a setting. -/
inductive Value where
  | bool (value : Bool)
  | integer (value : Int)
  | float (value : Binary64)
  | text (value : String)
  /-- A list or a table, which no setting is. -/
  | structured
deriving DecidableEq

/-- A value in a file. -/
def Value.ofToml : Toml → Value
  | .bool value => .bool value
  | .integer value => .integer value
  | .float value => .float value
  | .text value => .text value
  | .moment value => .text value
  | _ => .structured

/-- A whole number of 64 bits. -/
def integer? (cs : List Char) : Option Int := do
  let (negative, cs) := Binary64.sign cs
  let value ← natural? cs
  let value := if negative then -(value : Int) else value
  if Int64.minValue.toInt ≤ value ∧ value ≤ Int64.maxValue.toInt then some value else none

/-- A float: digits with a point or an exponent, or a word for what no digits stand for. -/
def float? (cs : List Char) : Option Binary64 := do
  let (negative, cs) := Binary64.sign cs
  let word := cs.map Char.toLower
  if word = "inf".toList ∨ word = "infinity".toList then return .infinite negative
  if word = "nan".toList then return .notANumber
  Binary64.ofDigits? negative cs

/-- A value in the environment is a truth value, a whole number or a float if it looks like one. -/
def Value.ofVariable (text : String) : Value :=
  let cs := text.toList
  let word := cs.map Char.toLower
  if word = "true".toList then .bool true
  else if word = "false".toList then .bool false
  else
    match integer? cs, float? cs with
    | some value, _ => .integer value
    | none, some value => .float value
    | none, none => .text text

namespace Value

/-- A value taken as a text. -/
def asText? : Value → Option String
  | text value => some value
  | bool value => some (if value then "true" else "false")
  | integer value => some (toString value)
  | float value => some value.text
  | structured => none

/-- The words that are taken as true. -/
def yesWords : List (List Char) := ["true".toList, "on".toList, "yes".toList]

/-- The words that are taken as false. -/
def noWords : List (List Char) := ["false".toList, "off".toList, "no".toList]

/-- A value taken as a natural number of 64 bits. -/
def asNatural? : Value → Option Nat
  | integer value => if 0 ≤ value then some value.toNat else none
  | bool value => some (if value then 1 else 0)
  | float value => some value.toNatural
  | text value =>
    let word := value.toList.map Char.toLower
    if yesWords.contains word then some 1
    else if noWords.contains word then some 0
    else do
      let number ← natural? <| match value.toList with
        | '+' :: cs => cs
        | cs => cs
      if number < UInt64.size then some number else none
  | structured => none

/-- A value taken as a port. -/
def asPort? (value : Value) : Option UInt16 := do
  let number ← value.asNatural?
  if number < UInt16.size then some (UInt16.ofNat number) else none

/-- A value taken as a truth value. -/
def asBool? : Value → Option Bool
  | bool value => some value
  | integer value => some (value != 0)
  | float value => some (!value.isZero)
  | text value =>
    let word := value.toList.map Char.toLower
    if word = ['1'] ∨ yesWords.contains word then some true
    else if word = ['0'] ∨ noWords.contains word then some false
    else none
  | structured => none

end Value

end CourseRegistry.Settings
