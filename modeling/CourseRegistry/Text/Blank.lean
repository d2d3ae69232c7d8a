/-! White space as Unicode defines it, and text with none at its ends. -/

namespace CourseRegistry.Text

/-- A character is blank when it has Unicode's White_Space property. -/
def isBlank (c : Char) : Bool :=
  let n := c.toNat
  (9 ≤ n && n ≤ 13) || n == 0x20 || n == 0x85 || n == 0xA0 || n == 0x1680 ||
    (0x2000 ≤ n && n ≤ 0x200A) || n == 0x2028 || n == 0x2029 || n == 0x202F ||
    n == 0x205F || n == 0x3000

/-- Everything after the blanks that a text starts with. -/
def dropBlanks (cs : List Char) : List Char :=
  cs.dropWhile isBlank

/-- The characters left when the blanks at both ends are gone. -/
def trimChars (cs : List Char) : List Char :=
  (dropBlanks (dropBlanks cs).reverse).reverse

/-- The text left when the blanks at both ends are gone. -/
def trim (text : String) : String :=
  String.ofList (trimChars text.toList)

/-- A text says nothing when each of its characters is blank. -/
def isBlankText (text : String) : Bool :=
  text.toList.all isBlank

end CourseRegistry.Text
