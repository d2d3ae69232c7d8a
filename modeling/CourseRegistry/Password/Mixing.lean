/-!
Sixteen words in four rows, and the step that mixes them column by column and along the diagonals.
-/

namespace CourseRegistry.Password

/-- Four words side by side. -/
structure Lanes where
  w0 : UInt64
  w1 : UInt64
  w2 : UInt64
  w3 : UInt64
deriving DecidableEq

namespace Lanes

/-- No bit is set. -/
def zero : Lanes := ⟨0, 0, 0, 0⟩

/-- A function of two words, word by word. -/
@[inline] def zip (f : UInt64 → UInt64 → UInt64) (a b : Lanes) : Lanes :=
  ⟨f a.w0 b.w0, f a.w1 b.w1, f a.w2 b.w2, f a.w3 b.w3⟩

/-- The words moved one place down; the first becomes the last. -/
@[inline] def turn (a : Lanes) : Lanes := ⟨a.w1, a.w2, a.w3, a.w0⟩

end Lanes

/-- A word turned to the right by some bits, more than none and fewer than all. -/
@[inline] def rotateRight (bits : UInt64) (word : UInt64) : UInt64 :=
  (word >>> bits) ||| (word <<< (64 - bits))

/-- One word joined to another, and turned. -/
@[inline] def joinTurned (bits : UInt64) (a b : UInt64) : UInt64 :=
  rotateRight bits (a ^^^ b)

/-- Four rows of four words. -/
structure Square where
  a : Lanes
  b : Lanes
  c : Lanes
  d : Lanes
deriving DecidableEq

namespace Square

/-- The words of each column are mixed, with two more words for each column. -/
@[inline] def mixColumns (add : UInt64 → UInt64 → UInt64) (x y : Lanes) (square : Square) :
    Square :=
  let a := (square.a.zip add square.b).zip (· + ·) x
  let d := square.d.zip (joinTurned 32) a
  let c := square.c.zip add d
  let b := square.b.zip (joinTurned 24) c
  let a := (a.zip add b).zip (· + ·) y
  let d := d.zip (joinTurned 16) a
  let c := c.zip add d
  let b := b.zip (joinTurned 63) c
  ⟨a, b, c, d⟩

/-- The rows are moved so that each diagonal becomes a column. -/
@[inline] def diagonalsUp (square : Square) : Square :=
  ⟨square.a, square.b.turn, square.c.turn.turn, square.d.turn.turn.turn⟩

/-- The rows are moved back. -/
@[inline] def diagonalsDown (square : Square) : Square :=
  ⟨square.a, square.b.turn.turn.turn, square.c.turn.turn, square.d.turn⟩

/-- The columns are mixed, then the diagonals. -/
@[inline] def mix (add : UInt64 → UInt64 → UInt64) (columns diagonals : Lanes × Lanes)
    (square : Square) : Square :=
  let mixed := square.mixColumns add columns.1 columns.2
  (mixed.diagonalsUp.mixColumns add diagonals.1 diagonals.2).diagonalsDown

end Square

end CourseRegistry.Password
