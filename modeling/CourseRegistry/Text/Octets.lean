/-! Texts as octets in UTF-8. -/

namespace CourseRegistry.Text

/-- The octets of a text. -/
def octets (text : String) : List UInt8 :=
  text.toUTF8.toList

/-- The text of some octets, if they are one. -/
def textOf? (octets : List UInt8) : Option String :=
  String.fromUTF8? (ByteArray.mk octets.toArray)

/-- Octets one by one as the characters with their numbers. -/
def octetChars (octets : List UInt8) : List Char :=
  octets.map fun octet => Char.ofNat octet.toNat

end CourseRegistry.Text
