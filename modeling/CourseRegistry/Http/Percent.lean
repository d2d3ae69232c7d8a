import CourseRegistry.Text.Cut
import CourseRegistry.Text.Lossy
import CourseRegistry.Text.Octets

/-! Octets written as percent signs with two digits, and forms made of such text. -/

namespace CourseRegistry.Http

/-- The value of an octet that is a hexadecimal digit. -/
def hexOctet? (octet : UInt8) : Option UInt8 :=
  if 0x30 ≤ octet ∧ octet ≤ 0x39 then some (octet - 0x30)
  else if 0x41 ≤ octet ∧ octet ≤ 0x46 then some (octet - 0x41 + 10)
  else if 0x61 ≤ octet ∧ octet ≤ 0x66 then some (octet - 0x61 + 10)
  else none

/-- A percent sign with two digits becomes one octet; any other octet stays as it is. -/
def percentDecode : List UInt8 → List UInt8
  | [] => []
  | percent :: high :: low :: rest =>
    if percent = 0x25 then
      match hexOctet? high, hexOctet? low with
      | some high, some low => (16 * high + low) :: percentDecode rest
      | _, _ => percent :: percentDecode (high :: low :: rest)
    else percent :: percentDecode (high :: low :: rest)
  | octet :: rest => octet :: percentDecode rest

/-- One part of a form: a plus is a space, and octets that are no text are replaced. -/
def formPart (part : List UInt8) : String :=
  Text.lossy (percentDecode (part.map fun octet => if octet = 0x2B then 0x20 else octet))

/-- The names and values of a form: pairs between ampersands, each cut at its first equals sign. -/
def formPairs (form : List UInt8) : List (String × String) :=
  ((Text.cutAt 0x26 form).filter (!·.isEmpty)).map fun pair =>
    (formPart (pair.takeWhile (· ≠ 0x3D)), formPart ((pair.dropWhile (· ≠ 0x3D)).drop 1))

/-- The digit of a value below sixteen. -/
def upperHexChar (value : Nat) : Char :=
  Char.ofNat (if value < 10 then 0x30 + value else 0x41 + (value - 10))

/-- An octet that stands for itself in a form: a letter, a digit or one of four signs. -/
def standsInForm (octet : UInt8) : Bool :=
  (0x30 ≤ octet && octet ≤ 0x39) || (0x41 ≤ octet && octet ≤ 0x5A) ||
    (0x61 ≤ octet && octet ≤ 0x7A) || "*-._".toList.contains (Char.ofNat octet.toNat)

/-- An octet in a form; a space is a plus. -/
def formOctet (octet : UInt8) : List Char :=
  if octet = 0x20 then ['+']
  else if standsInForm octet then [Char.ofNat octet.toNat]
  else ['%', upperHexChar (octet.toNat / 16), upperHexChar (octet.toNat % 16)]

/-- A name or a value as it stands in a form. -/
def formPartChars (part : String) : List Char :=
  (Text.octets part).flatMap formOctet

/-- Names and values as a form. -/
def formText (pairs : List (String × String)) : String :=
  String.ofList <| List.intercalate ['&'] <|
    pairs.map fun (name, value) => formPartChars name ++ '=' :: formPartChars value

/-- The value under one of some names; nothing tells that there are two. -/
def single? (names : List String) (pairs : List (String × String)) : Option (Option String) :=
  match pairs.filter fun pair => names.contains pair.1 with
  | [] => some none
  | [pair] => some (some pair.2)
  | _ => none

end CourseRegistry.Http
