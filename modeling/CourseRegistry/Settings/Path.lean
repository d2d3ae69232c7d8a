import CourseRegistry.Text.Cut

/-! Paths that start in the home directory. -/

namespace CourseRegistry.Settings

/-- A part of a path that leads nowhere. -/
def isIdle (part : List Char) : Bool :=
  part.isEmpty || part == ['.']

/-- The parts of a path without those at its ends that lead nowhere. -/
def trimParts (parts : List (List Char)) : List (List Char) :=
  ((parts.dropWhile isIdle).reverse.dropWhile isIdle).reverse

/-- A path inside of a directory. -/
def joinPath (directory rest : List Char) : List Char :=
  match directory.getLast? with
  | none => rest
  | some '/' => directory ++ rest
  | some _ => directory ++ '/' :: rest

/-- A path that starts with a tilde alone starts in the home directory, if that is known. -/
def expandHome (home : Option String) (path : String) : String :=
  match home, Text.cutAt '/' path.toList with
  -- A tilde with a name behind it is a name like any other.
  | some home, ['~'] :: parts =>
    String.ofList (joinPath home.toList (List.intercalate ['/'] (trimParts parts)))
  | _, _ => path

end CourseRegistry.Settings
