import CourseRegistry.Text.Lossy

/-! Patterns with wildcards, and the one that finds a text as it stands, anywhere in a name. -/

namespace CourseRegistry.Text

/-- The part of a text before its first NUL character. -/
def beforeNul (cs : List Char) : List Char :=
  cs.takeWhile fun c => c.toNat ≠ 0

/-- What a character is compared as: U+FFFE and U+FFFF count as what stands for no character. -/
def comparedAs (c : Char) : Char :=
  if c.toNat = 0xFFFE ∨ c.toNat = 0xFFFF then replacement else c

/-- Two characters are taken for the same, where the case of ASCII letters does not matter. -/
def isAlike (a b : Char) : Bool :=
  (comparedAs a).toLower == (comparedAs b).toLower

/-- A part of a pattern. -/
inductive PatternPart where
  /-- Any run of characters, which may be empty. -/
  | run
  /-- Any single character. -/
  | one
  /-- The given character. -/
  | exactly (c : Char)
deriving DecidableEq

namespace PatternPart

/-- What a character of a pattern means by itself. -/
def ofChar (c : Char) : PatternPart :=
  if c = '%' then run else if c = '_' then one else exactly c

/-- The parts of a pattern; what is behind a backslash stands for itself. -/
def parse? : List Char → Option (List PatternPart)
  | [] => some []
  | c :: cs =>
    if c = '\\' then
      match cs with
      -- A backslash with nothing behind it stands for nothing at all.
      | [] => none
      | escaped :: cs => (exactly escaped :: ·) <$> parse? cs
    else (ofChar c :: ·) <$> parse? cs

/-- A text meets a condition from one of its characters on, or at its end. -/
def fromSomewhere (holds : List Char → Bool) : List Char → Bool
  | [] => holds []
  | c :: cs => holds (c :: cs) || fromSomewhere holds cs

/-- A text consists of what the parts stand for, one after the other. -/
def describe : List PatternPart → List Char → Bool
  | [], cs => cs.isEmpty
  -- How long a run is shows only in what follows it, so every length is tried.
  | run :: parts, cs => fromSomewhere (describe parts) cs
  | one :: parts, cs =>
    match cs with
    | [] => false
    | _ :: cs => describe parts cs
  | exactly c :: parts, cs =>
    match cs with
    | [] => false
    | other :: cs => isAlike c other && describe parts cs

end PatternPart

/-- A pattern describes a name; both end at their first NUL character. -/
def isLike (pattern : List Char) (name : String) : Bool :=
  match PatternPart.parse? (beforeNul pattern) with
  | some parts => PatternPart.describe parts (beforeNul name.toList)
  | none => false

/--
The three characters that mean something in a search pattern, and stand for themselves when escaped.
-/
def isWildcard (c : Char) : Bool :=
  c == '\\' || c == '%' || c == '_'

/-- A text in which each character stands for itself. -/
def escape (cs : List Char) : List Char :=
  cs.flatMap fun c => if isWildcard c then ['\\', c] else [c]

/-- The pattern that finds a text anywhere. -/
def searchPattern (text : String) : List Char :=
  '%' :: (escape text.toList ++ ['%'])

/-- How many bytes a text takes as a pattern that finds it anywhere. -/
def patternSize (text : String) : Nat :=
  (String.ofList (searchPattern text)).utf8ByteSize

/-- How many bytes a pattern may take. -/
def maxPatternSize : Nat := 50000

/-- A name matches a text when the pattern that finds the text describes it. -/
def nameMatches (text name : String) : Bool :=
  isLike (searchPattern text) name

end CourseRegistry.Text
