import CourseRegistry.Json.Reader
import CourseRegistry.Time.Calendar
import CourseRegistry.Toml.Table

/-! Reading a text as a TOML document. -/

namespace CourseRegistry.Toml

open Text

/-- A blank inside of a line. -/
def isSpace (c : Char) : Bool := c == ' ' || c == '\t'

/-- Everything after the blanks that a text starts with. -/
def dropSpaces (cs : List Char) : List Char := cs.dropWhile isSpace

/-- What follows the end of a line. -/
def newline? : List Char → Option (List Char)
  | '\n' :: cs => some cs
  | '\r' :: '\n' :: cs => some cs
  | _ => none

/-- A character that may stand in a text of one line, or in a comment. -/
def isShown (c : Char) : Bool :=
  c == '\t' || (32 ≤ c.toNat && c.toNat ≠ 127)

/-- Everything after a comment, if there is one. -/
def dropComment : List Char → List Char
  | '#' :: cs => cs.dropWhile isShown
  | cs => cs

/-- What follows the rest of a line, which holds nothing but blanks and a comment. -/
def lineEnd? (cs : List Char) : Option (List Char) :=
  match dropComment (dropSpaces cs) with
  | [] => some []
  | cs => newline? cs

/-- Everything after blanks, comments and ends of lines. -/
def dropBlankLines : (fuel : Nat) → List Char → List Char
  | 0, cs => cs
  | fuel + 1, cs =>
    let rest := dropComment (dropSpaces cs)
    match newline? rest with
    | some rest => dropBlankLines fuel rest
    | none => rest

/-- The character of some hexadecimal digits. -/
def escapedChar? (digits : List Char) : Option Char := do
  let value ← digits.foldlM (fun value c => do return 16 * value + (← Json.hexDigit? c)) 0
  if value < 0xD800 ∨ (0xDFFF < value ∧ value < 0x110000) then some (Char.ofNat value) else none

/-- The character behind a backslash. -/
def escape? : List Char → Option (Char × List Char)
  | 'b' :: cs => some (Char.ofNat 8, cs)
  | 't' :: cs => some ('\t', cs)
  | 'n' :: cs => some ('\n', cs)
  | 'f' :: cs => some (Char.ofNat 12, cs)
  | 'r' :: cs => some ('\r', cs)
  | '"' :: cs => some ('"', cs)
  | '\\' :: cs => some ('\\', cs)
  | 'u' :: cs =>
    if 4 ≤ cs.length then (escapedChar? (cs.take 4)).map fun c => (c, cs.drop 4) else none
  | 'U' :: cs =>
    if 8 ≤ cs.length then (escapedChar? (cs.take 8)).map fun c => (c, cs.drop 8) else none
  | _ => none

/-- The rest of a text in double quotes. -/
def basicText? : (fuel : Nat) → (read : List Char) → List Char → Option (String × List Char)
  | 0, _, _ => none
  | fuel + 1, read, cs =>
    match cs with
    | '"' :: cs => some (String.ofList read.reverse, cs)
    | '\\' :: cs => do
      let (c, cs) ← escape? cs
      basicText? fuel (c :: read) cs
    | c :: cs => if isShown c then basicText? fuel (c :: read) cs else none
    | [] => none

/-- The rest of a text in single quotes, in which nothing is escaped. -/
def literalText? (cs : List Char) : Option (String × List Char) :=
  match cs.span fun c => c ≠ '\'' && isShown c with
  | (read, '\'' :: cs) => some (String.ofList read, cs)
  | _ => none

/--
What closes a text of many lines: three quotes, before which up to two more belong to the text.
-/
def close? (quote : Char) (cs : List Char) : Option (Nat × List Char) :=
  let count := (cs.takeWhile (· == quote)).length
  if 3 ≤ count then some (min count 5 - 3, cs.drop (min count 5)) else none

/-- Everything after blanks and ends of lines. -/
def dropLineBreaks : (fuel : Nat) → List Char → List Char
  | 0, cs => cs
  | fuel + 1, cs =>
    match newline? (dropSpaces cs) with
    | some rest => dropLineBreaks fuel rest
    | none => dropSpaces cs

/-- The rest of a text of many lines; with escapes, a backslash at the end of a line joins lines. -/
def linesText? (quote : Char) (escapes : Bool) :
    (fuel : Nat) → (read : List Char) → List Char → Option (String × List Char)
  | 0, _, _ => none
  | fuel + 1, read, cs =>
    match close? quote cs with
    | some (more, cs) => some (String.ofList (read.reverse ++ List.replicate more quote), cs)
    | none =>
      match newline? cs with
      | some cs => linesText? quote escapes fuel ('\n' :: read) cs
      | none =>
        match cs with
        | c :: cs =>
          if escapes && c == '\\' then
            match newline? (dropSpaces cs) with
            | some cs => linesText? quote escapes fuel read (dropLineBreaks cs.length cs)
            | none => do
              let (c, cs) ← escape? cs
              linesText? quote escapes fuel (c :: read) cs
          else if isShown c then linesText? quote escapes fuel (c :: read) cs
          else none
        | [] => none

/-- A text of many lines, without the end of the line that it starts on. -/
def manyLines? (quote : Char) (escapes : Bool) (cs : List Char) : Option (String × List Char) :=
  let cs := (newline? cs).getD cs
  linesText? quote escapes (cs.length + 1) [] cs

/-- A text in any of the four kinds of quotes. -/
def text? : List Char → Option (String × List Char)
  | '"' :: '"' :: '"' :: cs => manyLines? '"' true cs
  | '\'' :: '\'' :: '\'' :: cs => manyLines? '\'' false cs
  | '"' :: cs => basicText? (cs.length + 1) [] cs
  | '\'' :: cs => literalText? cs
  | _ => none

/-- A character of a name without quotes. -/
def isBareChar (c : Char) : Bool :=
  c.isAlphanum || c == '_' || c == '-'

/-- One name, bare or in quotes. -/
def name? (cs : List Char) : Option (String × List Char) :=
  match cs with
  | '"' :: cs => basicText? (cs.length + 1) [] cs
  | '\'' :: cs => literalText? cs
  | cs =>
    match cs.span isBareChar with
    | ([], _) => none
    | (name, cs) => some (String.ofList name, cs)

/-- Names with points between them. -/
def names? : (fuel : Nat) → List Char → Option (List String × List Char)
  | 0, _ => none
  | fuel + 1, cs => do
    let (name, cs) ← name? (dropSpaces cs)
    match dropSpaces cs with
    | '.' :: cs => do
      let (names, cs) ← names? fuel cs
      return (name :: names, cs)
    | cs => return ([name], cs)

/-- Names with points between them, the last of them apart. -/
def dottedName? (cs : List Char) : Option (List String × String × List Char) := do
  let (names, cs) ← names? (cs.length + 1) cs
  return (names.dropLast, ← names.getLast?, cs)

/-- Digits of a base with single underscores between them. -/
def grouped? (isDigit : Char → Bool) : List Char → Option (List Char)
  | [] => none
  | [c] => if isDigit c then some [c] else none
  | c :: '_' :: cs => if isDigit c then (grouped? isDigit cs).map (c :: ·) else none
  | c :: d :: cs => if isDigit c then (grouped? isDigit (d :: cs)).map (c :: ·) else none

/-- The value of a digit of a base up to sixteen. -/
def digitOf? (base : Nat) (c : Char) : Option Nat := do
  let value ← Json.hexDigit? c
  if value < base then some value else none

/-- A number of 64 bits with its sign. -/
def integerOf? (value : Int) : Option Toml :=
  if Int64.minValue.toInt ≤ value ∧ value ≤ Int64.maxValue.toInt then some (.integer value)
  else none

/-- A whole number in a base other than ten. -/
def based? (base : Nat) (cs : List Char) : Option Toml := do
  let digits ← grouped? (fun c => (digitOf? base c).isSome) cs
  integerOf? (digits.foldl (fun (value : Nat) c => base * value + (digitOf? base c).getD 0) 0 : Nat)

/-- Decimal digits without a zero in front of others. -/
def decimal? (cs : List Char) : Option (List Char) := do
  let digits ← grouped? isDigit cs
  if digits.head? = some '0' ∧ 1 < cs.length then none else some digits

/-- The exponent of a number, if it has one. -/
def exponent? : List Char → Option Int
  | [] => some 0
  | _ :: cs => do
    let (negative, cs) := Binary64.sign cs
    let value := valueOf (← grouped? isDigit cs)
    return if negative then -(value : Int) else value

/-- A float: whole digits, and digits behind a point or an exponent or both. -/
def float? (cs : List Char) : Option Toml := do
  let (negative, cs) := Binary64.sign cs
  if cs = "inf".toList then return .float (.infinite negative)
  if cs = "nan".toList then return .float .notANumber
  let isExponent := fun (c : Char) => c == 'e' || c == 'E'
  let (front, power) := cs.span fun c => !isExponent c
  let (whole, places) := front.span (· ≠ '.')
  let whole ← decimal? whole
  let places ← match places with
    | [] => if power.isEmpty then none else some []
    | _ :: places => grouped? isDigit places
  let value := Binary64.ofDecimal negative (valueOf (whole ++ places))
    ((← exponent? power) - (places.length : Int))
  -- A positive number too large for a float is refused, a negative one is not.
  if value = .infinite false then none else some (.float value)

/-- A whole number. -/
def integer? : List Char → Option Toml
  | '0' :: 'x' :: cs => based? 16 cs
  | '0' :: 'o' :: cs => based? 8 cs
  | '0' :: 'b' :: cs => based? 2 cs
  | cs => do
    let (negative, cs) := Binary64.sign cs
    let value := valueOf (← decimal? cs)
    integerOf? (if negative then -(value : Int) else value)

/-- A date, as year, month and day. -/
def date? (cs : List Char) : Option (List Char × List Char) := do
  let (year, rest) ← fixedNumber? 4 cs
  let '-' :: rest := rest | none
  let (month, rest) ← fixedNumber? 2 rest
  let '-' :: rest := rest | none
  let (day, rest) ← fixedNumber? 2 rest
  if 1 ≤ month ∧ month ≤ 12 ∧ 1 ≤ day ∧ day ≤ daysInMonth year month then
    some (cs.take 10, rest)
  else none

/-- The written fraction of a second, in at most nine digits and without zeros at its end. -/
def fraction? : List Char → Option (List Char × List Char)
  | '.' :: cs =>
    match cs.span isDigit with
    | ([], _) => none
    | (digits, rest) =>
      let kept := ((digits.take 9).reverse.dropWhile (· == '0')).reverse
      some (if kept.isEmpty then [] else '.' :: kept, rest)
  | cs => some ([], cs)

/-- A time of day. -/
def time? (cs : List Char) : Option (List Char × List Char) := do
  let (hour, rest) ← fixedNumber? 2 cs
  let ':' :: rest := rest | none
  let (minute, rest) ← fixedNumber? 2 rest
  let ':' :: rest := rest | none
  let (second, rest) ← fixedNumber? 2 rest
  let (fraction, rest) ← fraction? rest
  if hour < 24 ∧ minute < 60 ∧ second ≤ 60 then some (cs.take 8 ++ fraction, rest) else none

/-- A difference from universal time, which may be left out. -/
def offset? : List Char → Option (List Char)
  | [] => some []
  | ['Z'] => some ['Z']
  | ['z'] => some ['Z']
  | sign :: cs => do
    let (hours, rest) ← fixedNumber? 2 cs
    let ':' :: rest := rest | none
    let (minutes, rest) ← fixedNumber? 2 rest
    if (sign = '+' ∨ sign = '-') ∧ hours < 24 ∧ minutes < 60 ∧ rest = [] then
      -- No difference at all is written with a plus.
      some ((if hours = 0 ∧ minutes = 0 then '+' else sign) :: cs)
    else none

/-- A date, a time of day, or both, in its usual text. -/
def moment? (cs : List Char) : Option Toml :=
  match date? cs with
  | some (date, []) => some (.moment (String.ofList date))
  | some (date, mark :: rest) => do
    let (time, rest) ← time? rest
    let offset ← offset? rest
    if mark = 'T' ∨ mark = 't' ∨ mark = ' ' then
      some (.moment (String.ofList (date ++ 'T' :: time ++ offset)))
    else none
  | none => do
    let (time, rest) ← time? cs
    if rest.isEmpty then some (.moment (String.ofList time)) else none

/-- A character of a value without quotes or brackets. -/
def isPlainChar (c : Char) : Bool :=
  c.isAlphanum || "+-._:".toList.contains c

/-- A value without quotes or brackets; a date may have a time behind a space. -/
def plain? (cs : List Char) : Option (Toml × List Char) := do
  let (word, rest) := cs.span isPlainChar
  -- A space ends every other value, but a date takes the time behind it.
  let (word, rest) :=
    match date? word, rest with
    | some (_, []), ' ' :: more =>
      if (time? (more.takeWhile isPlainChar)).isSome then
        (word ++ ' ' :: more.takeWhile isPlainChar, more.dropWhile isPlainChar)
      else (word, rest)
    | _, _ => (word, rest)
  let value ←
    if word = "true".toList then some (.bool true)
    else if word = "false".toList then some (.bool false)
    else (moment? word).or ((float? word).or (integer? word))
  return (value, rest)

/-- A way to read one value. -/
abbrev ReadValue := List Char → Option (Toml × List Char)

/-- The values of a list, up to its closing bracket; a comma may follow the last one. -/
def items? (value? : ReadValue) : (fuel : Nat) → List Char → Option (List Toml × List Char)
  | 0, _ => none
  | fuel + 1, cs =>
    match dropBlankLines cs.length cs with
    | ']' :: cs => some ([], cs)
    | cs => do
      let (item, cs) ← value? cs
      match dropBlankLines cs.length cs with
      | ',' :: cs =>
        let (items, cs) ← items? value? fuel cs
        return (item :: items, cs)
      | ']' :: cs => return ([item], cs)
      | _ => none

/-- A name, an equals sign and a value. -/
def pair? (value? : ReadValue) (cs : List Char) :
    Option (List String × String × Toml × List Char) := do
  let (names, name, cs) ← dottedName? cs
  let '=' :: cs := dropSpaces cs | none
  let (value, cs) ← value? (dropSpaces cs)
  return (names, name, value, cs)

/-- The pairs of a table on one line, up to its closing brace. -/
def pairs? (value? : ReadValue) :
    (fuel : Nat) → (entries : Entries) → List Char → Option (Entries × List Char)
  | 0, _, _ => none
  | fuel + 1, entries, cs => do
    let (names, name, value, cs) ← pair? value? cs
    let entries ← insert names name value entries
    match dropSpaces cs with
    | ',' :: cs => pairs? value? fuel entries cs
    | '\x7d' :: cs => return (entries, cs)
    | _ => none

/-- A value; `room` bounds how deep lists and tables are nested. -/
def value? : (room : Nat) → ReadValue
  | 0, _ => none
  | room + 1, cs =>
    match cs with
    | '[' :: cs =>
      if room = 0 then none
      else (items? (value? room) (cs.length + 1) cs).map fun (items, cs) => (.array items, cs)
    | '\x7b' :: cs =>
      if room = 0 then none
      else
        match dropSpaces cs with
        | '\x7d' :: cs => some (.inlineTable [], cs)
        | cs => (pairs? (value? room) (cs.length + 1) [] cs).map
            fun (entries, cs) => (.inlineTable entries, cs)
    | '"' :: _ => (text? cs).map fun (read, cs) => (.text read, cs)
    | '\'' :: _ => (text? cs).map fun (read, cs) => (.text read, cs)
    | cs => plain? cs

/-- How deep values may be nested. -/
def maxDepth : Nat := 80

/-- The name in a header, up to its closing brackets, and the rest of its line. -/
def header? (close : List Char) (cs : List Char) : Option (List String × String × List Char) := do
  let (names, name, cs) ← dottedName? cs
  if close.isPrefixOf (dropSpaces cs) then
    return (names, name, ← lineEnd? ((dropSpaces cs).drop close.length))
  else none

/-- All lines of a document, which add to the table of the last header. -/
def lines? :
    (fuel : Nat) → (header : List String) → (entries : Entries) → List Char → Option Entries
  | 0, _, _, _ => none
  | fuel + 1, header, entries, cs =>
    match dropSpaces cs with
    | [] => some entries
    | '[' :: '[' :: cs => do
      let (names, name, cs) ← header? [']', ']'] cs
      lines? fuel (names ++ [name]) (← appendTable names name entries) cs
    | '[' :: cs => do
      let (names, name, cs) ← header? [']'] cs
      lines? fuel (names ++ [name]) (← openTable names name entries) cs
    | cs =>
      match lineEnd? cs with
      | some cs => lines? fuel header entries cs
      | none => do
        let (names, name, value, cs) ← pair? (value? maxDepth) cs
        lines? fuel header (← insertAt header names name value entries) (← lineEnd? cs)

/-- The entries of the document that a text spells; a mark of byte order may come first. -/
def ofText? (text : String) : Option Entries :=
  let cs := match text.toList with
    | '\ufeff' :: cs => cs
    | cs => cs
  lines? (cs.length + 1) [] [] cs

end CourseRegistry.Toml
