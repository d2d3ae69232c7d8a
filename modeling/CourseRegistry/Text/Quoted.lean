import CourseRegistry.Text.Visible

/-! Text in quotes, with everything escaped that could not be told apart otherwise. -/

namespace CourseRegistry.Text

/-- The lower-case hexadecimal digits of a number, without zeros in front. -/
def hexDigits (value : Nat) : List Char :=
  Nat.toDigits 16 value

/-- A character inside of quotes. -/
def quoteChar (c : Char) : List Char :=
  if c = '"' then ['\\', '"']
  else if c = '\\' then ['\\', '\\']
  else if c = '\n' then ['\\', 'n']
  else if c = '\r' then ['\\', 'r']
  else if c = '\t' then ['\\', 't']
  else if c.toNat = 0 then ['\\', '0']
  else if isVisible c then [c]
  else ['\\', 'u', '\x7b'] ++ hexDigits c.toNat ++ ['\x7d']

/-- A text in quotes. -/
def quoted (text : String) : String :=
  String.ofList ('"' :: (text.toList.flatMap quoteChar ++ ['"']))

end CourseRegistry.Text
