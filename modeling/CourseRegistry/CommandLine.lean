/-! The words that a program is started with: options, values in their places, and a command. -/

namespace CourseRegistry.CommandLine

/-- How a program ends that does nothing but answer the words it was started with. -/
inductive Ending where
  /-- It shows how it is used. -/
  | help
  /-- It shows its version. -/
  | version
  /-- The words are not understood. -/
  | misuse
deriving DecidableEq

/-- The exit code of a program that ends so. -/
def Ending.exitCode : Ending → UInt8
  | help => 0
  | version => 0
  | misuse => 2

/-- A value that has to be given, with its name. -/
structure Place where
  name : String
  /-- What the value has to be. -/
  isRight : String → Bool

/-- What an option does. -/
inductive Effect where
  /-- It gives the value that comes with it. -/
  | gives (isRight : String → Bool)
  /-- It is there or not. -/
  | marks
  /-- It ends the program. -/
  | ends (ending : Ending)

/-- An option: a name behind two dashes, and perhaps a letter behind one. -/
structure Switch where
  name : String
  letter : Option Char
  effect : Effect

/-- What the words may be. -/
structure Grammar where
  switches : List Switch
  /-- The values that stand alone, all of which have to be there. -/
  places : List Place
  /-- The commands, of which one has to be there unless there are none. -/
  commands : List String

/-- The values that were given, and the options that were there, by their names. -/
abbrev Given := List (String × String)

/-- The value under a name. -/
def Given.value? (given : Given) (name : String) : Option String :=
  (given.find? (·.1 == name)).map (·.2)

/-- A value under a name; it has to be right, and the only one. -/
def Given.add (given : Given) (place : Place) (value : String) : Except Ending Given :=
  if place.isRight value && (given.value? place.name).isNone then
    .ok (given ++ [(place.name, value)])
  else .error .misuse

/-- An option that is there; it has to be there only once. -/
def Given.mark (given : Given) (name : String) : Except Ending Given :=
  given.add ⟨name, fun _ => true⟩ ""

namespace Grammar

/--
The effect of an option with what is attached to its name; one may wait for the next word as its
value.
-/
def useName (grammar : Grammar) (given : Given) (word : List Char) :
    Except Ending (Given × Option Place) :=
  let name := String.ofList (word.takeWhile (· ≠ '='))
  match grammar.switches.find? (·.name == name), word.dropWhile (· ≠ '=') with
  | some ⟨name, _, .gives isRight⟩, [] => .ok (given, some ⟨name, isRight⟩)
  | some ⟨name, _, .gives isRight⟩, _ :: value => do
    return (← given.add ⟨name, isRight⟩ (String.ofList value), none)
  | some ⟨name, _, .marks⟩, [] => do return (← given.mark name, none)
  | some ⟨_, _, .ends ending⟩, [] => .error ending
  | _, _ => .error .misuse

/--
The effects of options behind one dash; what follows the letter of one with a value is its value.
-/
def useLetters (grammar : Grammar) (given : Given) :
    List Char → Except Ending (Given × Option Place)
  | [] => .ok (given, none)
  | letter :: rest =>
    match grammar.switches.find? (·.letter == some letter) with
    | some ⟨name, _, .gives isRight⟩ =>
      match rest with
      | [] => .ok (given, some ⟨name, isRight⟩)
      | '=' :: value => do return (← given.add ⟨name, isRight⟩ (String.ofList value), none)
      | value => do return (← given.add ⟨name, isRight⟩ (String.ofList value), none)
    | some ⟨name, _, .marks⟩ => do grammar.useLetters (← given.mark name) rest
    | some ⟨_, _, .ends ending⟩ => .error ending
    | none => .error .misuse

/-- A word of options. -/
def useWord (grammar : Grammar) (given : Given) : List Char → Except Ending (Given × Option Place)
  | '-' :: '-' :: name => grammar.useName given name
  | _ :: letters => grammar.useLetters given letters
  | [] => .error .misuse

/-- Options start with a dash, but a dash alone is a value. -/
def startsSwitch (word : String) : Bool :=
  word.toList.head? == some '-' && word != "-"

/-- Words that were read up to their end or up to a command. -/
structure Front where
  /-- The values; whether the last one is right is asked only when it is needed. -/
  given : Except Ending Given
  /-- The command, and the words behind it. -/
  command : Option (String × List String)

/--
The words up to a command or to their end.
Behind two dashes all words are values.
A value is looked at when the next word is an option or a value.
-/
def readFront (grammar : Grammar) (given : Except Ending Given) (places : List Place)
    (isPlain : Bool) : List String → Except Ending Front
  | [] => if places.isEmpty && grammar.commands.isEmpty then .ok ⟨given, none⟩ else .error .misuse
  | word :: words =>
    if !isPlain && grammar.commands.contains word then .ok ⟨given, some (word, words)⟩
    else if !isPlain && word == "--" then grammar.readFront given places true words
    else if !isPlain && startsSwitch word then do
      match ← grammar.useWord (← given) word.toList, words with
      | (given, none), words => grammar.readFront (.ok given) places false words
      | (given, some place), value :: words =>
        -- Whether the value is right is not asked yet: a command behind it may show help first.
        if startsSwitch value then .error .misuse
        else grammar.readFront (given.add place value) places false words
      | (_, some _), [] => .error .misuse
    else
      match places with
      | [] => .error .misuse
      | place :: places => do
        grammar.readFront ((← given).add place word) places isPlain words

/-- The words up to a command or to their end, with nothing given before. -/
def front (grammar : Grammar) (words : List String) : Except Ending Front :=
  grammar.readFront (.ok []) grammar.places false words

/-- The values that words without a command give. -/
def read (grammar : Grammar) (words : List String) : Except Ending Given := do
  (← grammar.front words).given

end Grammar

end CourseRegistry.CommandLine
