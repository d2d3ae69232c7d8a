import CourseRegistry.Text.Digits

/-!
Floats of double precision: the nearest one to a decimal number, and its shortest decimal text.
-/

namespace CourseRegistry

/-- A float is a whole number times a power of two, or it is infinite, or it is no number. -/
inductive Binary64 where
  | finite (negative : Bool) (mantissa : Nat) (exponent : Int)
  | infinite (negative : Bool)
  | notANumber
deriving DecidableEq

namespace Binary64

/-- The whole number nearest to a quotient; a tie goes to the even one. -/
def roundToEven (numerator denominator : Nat) : Nat :=
  let quotient := numerator / denominator
  let twice := 2 * (numerator % denominator)
  if denominator < twice ∨ (twice = denominator ∧ quotient % 2 = 1) then quotient + 1 else quotient

/-- The product of a fraction with a power of two. -/
def scaleByTwo (numerator denominator : Nat) (power : Int) : Nat × Nat :=
  if 0 ≤ power then (numerator * Nat.pow 2 power.toNat, denominator)
  else (numerator, denominator * Nat.pow 2 (-power).toNat)

/-- The least mantissa of 53 bits. -/
def hiddenBit : Nat := Nat.pow 2 52

/-- The power of two that a fraction is at least, or the next smaller one. -/
def magnitude (numerator denominator : Nat) : Int :=
  (numerator.log2 : Int) - denominator.log2 - 1

/--
The float nearest to a positive fraction; its mantissa has 53 bits where the exponent allows it.
-/
def ofFraction (negative : Bool) (numerator denominator : Nat) : Binary64 :=
  let low := magnitude numerator denominator
  let (n, d) := scaleByTwo numerator denominator (-(low + 1))
  let exact := if d ≤ n then low + 1 else low
  -- Below the least exponent the mantissa has fewer bits.
  let exponent := max (exact - 52) (-1074)
  let (n, d) := scaleByTwo numerator denominator (-exponent)
  let mantissa := roundToEven n d
  -- Rounding up may need one bit more.
  let (mantissa, exponent) :=
    if mantissa = 2 * hiddenBit then (hiddenBit, exponent + 1) else (mantissa, exponent)
  if 971 < exponent then .infinite negative else .finite negative mantissa exponent

/-- The float nearest to a whole number times a power of ten. -/
def ofDecimal (negative : Bool) (mantissa : Nat) (scale : Int) : Binary64 :=
  if mantissa = 0 then .finite negative 0 (-1074)
  else
    let places := ((Text.digits mantissa).length : Int) + scale
    if 310 < places then .infinite negative
    else if places < -330 then .finite negative 0 (-1074)
    else if 0 ≤ scale then ofFraction negative (mantissa * Nat.pow 10 scale.toNat) 1
    else ofFraction negative mantissa (Nat.pow 10 (-scale).toNat)

/-- A sign in front of a number. -/
def sign (cs : List Char) : Bool × List Char :=
  match cs with
  | '-' :: cs => (true, cs)
  | '+' :: cs => (false, cs)
  | cs => (false, cs)

/-- The exponent of a number, which may be missing with its letter. -/
def exponent? : List Char → Option Int
  | [] => some 0
  | _ :: cs => do
    let (negative, cs) := sign cs
    let value ← Text.natural? cs
    return if negative then -(value : Int) else value

/-- The float nearest to digits, of which some may stand behind a point, and perhaps an exponent. -/
def ofDigits? (negative : Bool) (cs : List Char) : Option Binary64 := do
  let (front, power) := cs.span fun c => c != 'e' && c != 'E'
  let (whole, places) := front.span (· ≠ '.')
  let places := places.drop 1
  let value ← Text.natural? (whole ++ places)
  return ofDecimal negative value ((← exponent? power) - (places.length : Int))

/-- The whole number that a float is. -/
def whole? : Binary64 → Option Int
  | finite negative mantissa exponent => do
    let (n, d) := scaleByTwo mantissa 1 exponent
    if n % d = 0 then return if negative then -(n / d : Nat) else (n / d : Nat)
    none
  | _ => none

/-- The product of a fraction with a power of ten. -/
def scaleByTen (numerator denominator : Nat) (power : Int) : Nat × Nat :=
  if 0 ≤ power then (numerator * Nat.pow 10 power.toNat, denominator)
  else (numerator, denominator * Nat.pow 10 (-power).toNat)

/-- A whole number on a grid of decimals lies among the numbers that are read as a float. -/
def isRead (mantissa : Nat) (exponent scale : Int) (candidate : Nat) : Bool :=
  -- All four numbers are compared in quarters of the float's last place.
  let (n, d) := scaleByTen candidate 1 scale
  let (n, d) := scaleByTwo (4 * n) d (-exponent)
  let low := if mantissa = hiddenBit ∧ -1074 < exponent then 4 * mantissa - 1 else 4 * mantissa - 2
  let high := 4 * mantissa + 2
  if mantissa % 2 = 0 then low * d ≤ n && n ≤ high * d else low * d < n && n < high * d

/--
The neighbour of a float on a grid of decimals that is read as the float.
Of two neighbours it is the nearer one, and the greater one of two that are as near.
-/
def onGrid? (mantissa : Nat) (exponent scale : Int) : Option Nat :=
  let (n, d) := scaleByTwo mantissa 1 exponent
  let (n, d) := scaleByTen n d (-scale)
  let below := n / d
  let isBelow := isRead mantissa exponent scale below
  let isAbove := isRead mantissa exponent scale (below + 1)
  if isBelow && isAbove then
    some (if 2 * (n % d) < d then below else below + 1)
  else if isBelow then some below
  else if isAbove then some (below + 1)
  else none

/-- The first of some grids, each ten times finer than the one before, that has a neighbour. -/
def firstGrid (mantissa : Nat) (exponent : Int) : (tries : Nat) → (scale : Int) → Nat × Int
  | 0, _ => (mantissa, 0)
  | tries + 1, scale =>
    match onGrid? mantissa exponent scale with
    | some digits => (digits, scale)
    | none => firstGrid mantissa exponent tries (scale - 1)

/-- The fewest digits that are read as a positive float, with their power of ten. -/
def shortest (mantissa : Nat) (exponent : Int) : Nat × Int :=
  let (n, d) := scaleByTwo mantissa 1 exponent
  -- The first grid is too coarse for any float of this size, so no grid is passed over.
  let start : Int :=
    if d ≤ n then (Text.digits (n / d)).length else -((Text.digits (d / n)).length : Int) + 1
  firstGrid mantissa exponent 20 (start + 1)

/-- Digits times a power of ten, written without an exponent. -/
def positional (digits : Nat) (scale : Int) : List Char :=
  let cs := Text.digits digits
  if 0 ≤ scale then cs ++ List.replicate scale.toNat '0'
  else
    let places := (-scale).toNat
    let padded := List.replicate (places + 1 - cs.length) '0' ++ cs
    padded.take (padded.length - places) ++ '.' :: padded.drop (padded.length - places)

/-- The written form: the fewest digits that are read as the float, without an exponent. -/
def text : Binary64 → String
  | notANumber => "NaN"
  | infinite negative => if negative then "-inf" else "inf"
  | finite negative mantissa exponent =>
    let sign := if negative then ['-'] else []
    if mantissa = 0 then String.ofList (sign ++ ['0'])
    else
      let (digits, scale) := shortest mantissa exponent
      String.ofList (sign ++ positional digits scale)

/-- A float that is zero, with either sign. -/
def isZero : Binary64 → Bool
  | finite _ mantissa _ => mantissa == 0
  | _ => false

/--
The natural number nearest to a float, where a half is rounded up.
A negative number becomes zero, as does what is no number, and nothing exceeds 64 bits.
-/
def toNatural : Binary64 → Nat
  | notANumber => 0
  | infinite negative => if negative then 0 else UInt64.size - 1
  | finite negative mantissa exponent =>
    if negative then 0
    else
      let (n, d) := scaleByTwo mantissa 1 exponent
      min ((2 * n + d) / (2 * d)) (UInt64.size - 1)

end Binary64

end CourseRegistry
