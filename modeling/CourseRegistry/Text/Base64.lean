/-!
Octets written with 64 letters, in groups of four, with padding and without; each text has one
spelling.
-/

namespace CourseRegistry.Text

/-- The letter for six bits. -/
def base64Letter (value : Nat) : Char :=
  if value < 26 then Char.ofNat ('A'.toNat + value)
  else if value < 52 then Char.ofNat ('a'.toNat + (value - 26))
  else if value < 62 then Char.ofNat ('0'.toNat + (value - 52))
  else if value = 62 then '+'
  else '/'

/-- The six bits that a letter stands for. -/
def base64Value? (c : Char) : Option Nat :=
  if 'A' ≤ c ∧ c ≤ 'Z' then some (c.toNat - 'A'.toNat)
  else if 'a' ≤ c ∧ c ≤ 'z' then some (c.toNat - 'a'.toNat + 26)
  else if '0' ≤ c ∧ c ≤ '9' then some (c.toNat - '0'.toNat + 52)
  else if c = '+' then some 62
  else if c = '/' then some 63
  else none

/-- The two letters of a single octet. -/
def base64One (a : UInt8) : List Char :=
  [base64Letter (a.toNat / 4), base64Letter (a.toNat % 4 * 16)]

/-- The three letters of two octets. -/
def base64Two (a b : UInt8) : List Char :=
  [base64Letter (a.toNat / 4), base64Letter (a.toNat % 4 * 16 + b.toNat / 16),
    base64Letter (b.toNat % 16 * 4)]

/-- The four letters of three octets. -/
def base64Three (a b c : UInt8) : List Char :=
  [base64Letter (a.toNat / 4), base64Letter (a.toNat % 4 * 16 + b.toNat / 16),
    base64Letter (b.toNat % 16 * 4 + c.toNat / 64), base64Letter (c.toNat % 64)]

/-- The octet of two letters, whose unused bits are zero. -/
def base64One? (a b : Char) : Option (List UInt8) := do
  let x ← base64Value? a
  let y ← base64Value? b
  if y % 16 = 0 then some [UInt8.ofNat (x * 4 + y / 16)] else none

/-- The octets of three letters, whose unused bits are zero. -/
def base64Two? (a b c : Char) : Option (List UInt8) := do
  let x ← base64Value? a
  let y ← base64Value? b
  let z ← base64Value? c
  if z % 4 = 0 then some [UInt8.ofNat (x * 4 + y / 16), UInt8.ofNat (y % 16 * 16 + z / 4)] else none

/-- The octets of four letters. -/
def base64Three? (a b c d : Char) : Option (List UInt8) := do
  let x ← base64Value? a
  let y ← base64Value? b
  let z ← base64Value? c
  let w ← base64Value? d
  some [UInt8.ofNat (x * 4 + y / 16), UInt8.ofNat (y % 16 * 16 + z / 4),
    UInt8.ofNat (z % 4 * 64 + w)]

/-- The padded form. -/
def base64 : List UInt8 → List Char
  | [] => []
  | [a] => base64One a ++ ['=', '=']
  | [a, b] => base64Two a b ++ ['=']
  | a :: b :: c :: rest => base64Three a b c ++ base64 rest

/-- The form without padding. -/
def base64Unpadded : List UInt8 → List Char
  | [] => []
  | [a] => base64One a
  | [a, b] => base64Two a b
  | a :: b :: c :: rest => base64Three a b c ++ base64Unpadded rest

/-- The octets of a padded text. -/
def ofBase64? : List Char → Option (List UInt8)
  | [] => some []
  | a :: b :: c :: d :: rest =>
    if rest = [] ∧ c = '=' ∧ d = '=' then base64One? a b
    else if rest = [] ∧ d = '=' then base64Two? a b c
    else do return (← base64Three? a b c d) ++ (← ofBase64? rest)
  | _ => none

/-- The octets of a text without padding. -/
def ofBase64Unpadded? : List Char → Option (List UInt8)
  | [] => some []
  | [a, b] => base64One? a b
  | [a, b, c] => base64Two? a b c
  | a :: b :: c :: d :: rest => do return (← base64Three? a b c d) ++ (← ofBase64Unpadded? rest)
  | _ => none

end CourseRegistry.Text
