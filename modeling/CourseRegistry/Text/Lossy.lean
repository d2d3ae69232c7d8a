/-! Octets read as UTF-8, with a replacement for each stretch that is none. -/

namespace CourseRegistry.Text

/-- A character of which some octets are still to come. -/
structure Pending where
  /-- How many octets are to come. -/
  owed : Nat
  /-- The least octet that may come next. -/
  low : Nat
  /-- The greatest octet that may come next. -/
  high : Nat
  /-- The number of the character, as far as it is known. -/
  known : Nat

/-- What stands for octets that are no character. -/
def replacement : Char := '\ufffd'

/-- The first octet of a character: the character is complete, to be continued, or none. -/
def startChar (octet : Nat) : List Char × Option Pending :=
  if octet < 0x80 then ([Char.ofNat octet], none)
  else if octet < 0xC2 then ([replacement], none)
  else if octet < 0xE0 then ([], some ⟨1, 0x80, 0xBF, octet - 0xC0⟩)
  else if octet = 0xE0 then ([], some ⟨2, 0xA0, 0xBF, 0⟩)
  else if octet = 0xED then ([], some ⟨2, 0x80, 0x9F, 0xD⟩)
  else if octet < 0xF0 then ([], some ⟨2, 0x80, 0xBF, octet - 0xE0⟩)
  else if octet = 0xF0 then ([], some ⟨3, 0x90, 0xBF, 0⟩)
  else if octet < 0xF4 then ([], some ⟨3, 0x80, 0xBF, octet - 0xF0⟩)
  else if octet = 0xF4 then ([], some ⟨3, 0x80, 0x8F, 4⟩)
  else ([replacement], none)

/-- One more octet; an octet that cannot continue a character ends it and starts the next one. -/
def stepChar (pending : Option Pending) (octet : Nat) : List Char × Option Pending :=
  match pending with
  | none => startChar octet
  | some ⟨owed, low, high, known⟩ =>
    if low ≤ octet ∧ octet ≤ high then
      let known := known * 64 + (octet - 0x80)
      if owed ≤ 1 then ([Char.ofNat known], none) else ([], some ⟨owed - 1, 0x80, 0xBF, known⟩)
    else
      let (cs, pending) := startChar octet
      (replacement :: cs, pending)

/-- The characters of some octets, of which a first few may have been read. -/
def lossyFrom : (pending : Option Pending) → List UInt8 → List Char
  | none, [] => []
  | some _, [] => [replacement]
  | pending, octet :: octets =>
    let (cs, pending) := stepChar pending octet.toNat
    cs ++ lossyFrom pending octets

/-- The text of some octets. -/
def lossy (octets : List UInt8) : String :=
  String.ofList (lossyFrom none octets)

end CourseRegistry.Text
