import CourseRegistry.Password.Argon2
import CourseRegistry.Text.Base64
import CourseRegistry.Text.Cut
import CourseRegistry.Text.Digits

/-!
Password hashes as texts: which function with which parameters, the salt and the hash, between
dollar signs.
-/

namespace CourseRegistry.Password

open Text

/-- A character of a name. -/
def isNameChar (c : Char) : Bool :=
  ('a' ≤ c && c ≤ 'z') || isDigit c || c == '-'

/-- A name has 1 to 32 characters. -/
def isName (cs : List Char) : Bool :=
  cs ≠ [] && cs.length ≤ 32 && cs.all isNameChar

/-- A character of a value. -/
def isValueChar (c : Char) : Bool :=
  c.isAlphanum || c == '/' || c == '+' || c == '.' || c == '-'

/-- A value has at most 64 characters. -/
def isValue (cs : List Char) : Bool :=
  cs.length ≤ 64 && cs.all isValueChar

/-- A number of 32 bits without zeros in front. -/
def decimal? (cs : List Char) : Option Nat :=
  if cs.head? = some '0' ∧ 1 < cs.length then none
  else do
    let value ← natural? cs
    if value < UInt32.size then some value else none

/-- A name, an equals sign and a value. -/
def parameter? (cs : List Char) : Option (List Char × List Char) :=
  match cutAt '=' cs with
  | [name, value] => if isName name && isValue value then some (name, value) else none
  | _ => none

/-- Parameters between commas, of at most 127 characters. -/
def parameters? (cs : List Char) : Option (List (List Char × List Char)) :=
  if 127 < cs.length then none else (cutAt ',' cs).mapM parameter?

/-- A text of a password hash, cut into its parts. -/
structure HashText where
  name : List Char
  version : Option Nat
  parameters : List (List Char × List Char)
  salt : List UInt8
  hash : List UInt8

namespace HashText

/-- The version in front of the other parts, if there is one. -/
def takeVersion : List (List Char) → Option (Option Nat × List (List Char))
  | ('v' :: '=' :: value) :: parts =>
    if value.contains ',' then some (none, ('v' :: '=' :: value) :: parts)
    else if isValue value then do return (some (← decimal? value), parts)
    else none
  | parts => some (none, parts)

/-- The parameters in front of the other parts, if there are any. -/
def takeParameters : List (List Char) → Option (List (List Char × List Char) × List (List Char))
  | part :: parts =>
    if part.contains '=' then do return (← parameters? part, parts) else some ([], part :: parts)
  | [] => some ([], [])

/-- A salt has 4 to 64 letters. -/
def salt? (cs : List Char) : Option (List UInt8) :=
  if 4 ≤ cs.length ∧ cs.length ≤ 64 then ofBase64Unpadded? cs else none

/-- A hash has 10 to 64 octets. -/
def hash? (cs : List Char) : Option (List UInt8) := do
  let octets ← ofBase64Unpadded? cs
  if 10 ≤ octets.length ∧ octets.length ≤ 64 then some octets else none

/-- The parts of a text; all of them have to be there, but version and parameters. -/
def ofText? (text : String) : Option HashText := do
  match cutAt '$' text.toList with
  | [] :: name :: parts =>
    if isName name then
      let (version, parts) ← takeVersion parts
      let (parameters, parts) ← takeParameters parts
      match parts with
      | [salt, hash] => return ⟨name, version, parameters, ← salt? salt, ← hash? hash⟩
      | _ => none
    else none
  | _ => none

/-- The variant of a name. -/
def variant? (name : List Char) : Option Variant :=
  if name = "argon2d".toList then some .byData
  else if name = "argon2i".toList then some .byPlace
  else if name = "argon2id".toList then some .mixed
  else none

/-- What is done unless told otherwise. -/
def usual (variant : Variant) (version : Nat) : Recipe :=
  ⟨variant, version, 19456, 2, 1, []⟩

/-- One parameter more of a recipe. -/
def withParameter? (recipe : Recipe) (parameter : List Char × List Char) : Option Recipe := do
  let (name, value) := parameter
  if name = ['m'] then return { recipe with memory := ← decimal? value }
  else if name = ['t'] then return { recipe with passes := ← decimal? value }
  else if name = ['p'] then return { recipe with lanes := ← decimal? value }
  else if name = "keyid".toList then
    if (← ofBase64Unpadded? value).length ≤ 8 then some recipe else none
  else if name = "data".toList then
    let octets ← ofBase64Unpadded? value
    if octets.length ≤ 32 then some { recipe with data := octets } else none
  else none

/-- A recipe that can be followed: the lanes are not too many, and each has eight blocks. -/
def isSound (recipe : Recipe) : Bool :=
  (recipe.version == 16 || recipe.version == 19) && 8 ≤ recipe.memory &&
    8 * recipe.lanes ≤ recipe.memory && 1 ≤ recipe.passes && 1 ≤ recipe.lanes &&
    recipe.lanes ≤ 0xFFFFFF

/-- The recipe that a text tells. -/
def recipe? (text : HashText) : Option Recipe := do
  let recipe ← text.parameters.foldlM withParameter?
    (usual (← variant? text.name) (text.version.getD 19))
  if isSound recipe && 8 ≤ text.salt.length then some recipe else none

end HashText

/-- A password is the one that a text holds the hash of. -/
def isPasswordOf (text password : String) : Bool :=
  match HashText.ofText? text with
  | none => false
  | some parts =>
    match parts.recipe? with
    | none => false
    | some recipe =>
      argon2 recipe parts.hash.length password.toUTF8.toList parts.salt == parts.hash

/-- The hash of a password as a text, with the given salt. -/
def hashText (salt : List UInt8) (password : String) : String :=
  let recipe := HashText.usual .mixed 19
  "$argon2id$v=19$m=19456,t=2,p=1$" ++ String.ofList (base64Unpadded salt) ++ "$" ++
    String.ofList (base64Unpadded (argon2 recipe 32 password.toUTF8.toList salt))

end CourseRegistry.Password
