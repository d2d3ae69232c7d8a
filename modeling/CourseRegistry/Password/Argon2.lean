import CourseRegistry.Password.Blake2b

/-! The password hash Argon2, in its three variants and two versions. -/

namespace CourseRegistry.Password

/--
Which earlier block a block is made from: one told by the data, by the place alone, or at first by
the place.
-/
inductive Variant where
  | byData | byPlace | mixed
deriving DecidableEq

/-- The number of a variant. -/
def Variant.number : Variant → Nat
  | byData => 0
  | byPlace => 1
  | mixed => 2

/-- How a hash is made. -/
structure Recipe where
  variant : Variant
  /-- The number of the version: 16 overwrites a block in each pass, 19 adds to it. -/
  version : Nat
  /-- How much memory is used, in blocks of 1024 octets. -/
  memory : Nat
  /-- How often the memory is passed over. -/
  passes : Nat
  /-- How many lanes the memory has. -/
  lanes : Nat
  /-- Octets that are hashed besides the password and the salt. -/
  data : List UInt8
deriving DecidableEq

namespace Argon2

/-- A block is 128 words. -/
abbrev Block := Array UInt64

/-- The block without any bit set. -/
def zeroBlock : Block := Array.replicate 128 0

/-- A sum in which a product of the lower halves takes part. -/
@[inline] def addMultiplied (a b : UInt64) : UInt64 :=
  a + b + 2 * (a &&& 0xFFFFFFFF) * (b &&& 0xFFFFFFFF)

/-- Sixteen words of a block, in pairs `step` words apart, are mixed in their places. -/
def mixAt (first step : Nat) (block : Block) : Block :=
  let pair := fun (i : Nat) => first + i * step
  let word := fun (i : Nat) => block.getD i 0
  let lanes := fun (i : Nat) =>
    Lanes.mk (word (pair i)) (word (pair i + 1)) (word (pair (i + 1))) (word (pair (i + 1) + 1))
  let square : Square := ⟨lanes 0, lanes 2, lanes 4, lanes 6⟩
  let mixed := square.mix addMultiplied (.zero, .zero) (.zero, .zero)
  let put := fun (i : Nat) (lanes : Lanes) (block : Block) =>
    (((block.setIfInBounds (pair i) lanes.w0).setIfInBounds (pair i + 1) lanes.w1).setIfInBounds
      (pair (i + 1)) lanes.w2).setIfInBounds (pair (i + 1) + 1) lanes.w3
  put 6 mixed.d (put 4 mixed.c (put 2 mixed.b (put 0 mixed.a block)))

/-- Two blocks word by word. -/
def xor (a b : Block) : Block :=
  Array.zipWith (· ^^^ ·) a b

/-- Two blocks make one: their words are mixed in eight rows, then in eight columns. -/
def compress (a b : Block) : Block :=
  let joined := xor a b
  let rows := (List.range 8).foldl (fun block i => mixAt (16 * i) 2 block) joined
  let columns := (List.range 8).foldl (fun block i => mixAt (2 * i) 16 block) rows
  xor joined columns

/-- A number as four octets, the lowest first. -/
def number (value : Nat) : List UInt8 :=
  octetsOf 4 (UInt64.ofNat value)

/-- Octets with their number in front. -/
def counted (octets : List UInt8) : List UInt8 :=
  number octets.length ++ octets

/-- Half of each of `count` hashes, each the hash of the one before, and then the whole last one. -/
def chain : (count last : Nat) → List UInt8 → List UInt8
  | 0, last, hash => blake2b last hash
  | count + 1, last, hash =>
    let next := blake2b 64 hash
    next.take 32 ++ chain count last next

/-- A hash of any size. -/
def longHash (size : Nat) (message : List UInt8) : List UInt8 :=
  let message := number size ++ message
  if size ≤ 64 then blake2b size message
  else
    let count := (size + 31) / 32 - 2
    chain count (size - 32 * count) message

/-- The hash that all blocks depend on. -/
def seed (recipe : Recipe) (size : Nat) (password salt : List UInt8) : List UInt8 :=
  blake2b 64 (number recipe.lanes ++ number size ++ number recipe.memory ++ number recipe.passes ++
    number recipe.version ++ number recipe.variant.number ++ counted password ++ counted salt ++
    counted [] ++ counted recipe.data)

/-- How many blocks a quarter of a lane has. -/
def quarter (recipe : Recipe) : Nat :=
  recipe.memory / (4 * recipe.lanes)

/-- How many blocks a lane has. -/
def laneSize (recipe : Recipe) : Nat :=
  4 * quarter recipe

/-- A place in the memory: a pass over a quarter of a lane. -/
structure Segment where
  pass : Nat
  slice : Nat
  lane : Nat

/-- Whether earlier blocks are chosen by the place alone. -/
def Segment.isByPlace (segment : Segment) (variant : Variant) : Bool :=
  match variant with
  | .byData => false
  | .byPlace => true
  | .mixed => segment.pass == 0 && segment.slice < 2

/-- The words that choose earlier blocks, for the 128 places of one number. -/
def choices (recipe : Recipe) (segment : Segment) (index : Nat) : Block :=
  let place := [segment.pass, segment.lane, segment.slice, laneSize recipe * recipe.lanes,
    recipe.passes, recipe.variant.number, index].map UInt64.ofNat
  let input := place.toArray ++ Array.replicate 121 0
  compress zeroBlock (compress zeroBlock input)

/-- How many blocks may be chosen from, and which is the first of them in its lane. -/
def window (recipe : Recipe) (segment : Segment) (index : Nat) (isSame : Bool) : Nat × Nat :=
  let done := if segment.pass = 0 then segment.slice * quarter recipe
    else laneSize recipe - quarter recipe
  -- The segment being filled can be chosen from in its own lane alone, without the block before.
  let behind := if isSame then index else 0
  let less := if isSame ∨ index = 0 then 1 else 0
  (done + behind - less,
    if segment.pass = 0 ∨ segment.slice = 3 then 0 else (segment.slice + 1) * quarter recipe)

/-- The place of the block that a word chooses, in its lane. -/
def chosen (recipe : Recipe) (segment : Segment) (index : Nat) (isSame : Bool) (word : UInt64) :
    Nat :=
  let (count, first) := window recipe segment index isSame
  -- Squaring makes later blocks likelier than earlier ones.
  let low := word.toNat % UInt32.size
  let back := count * (low * low / UInt32.size) / UInt32.size
  (first + (count - 1 - back)) % laneSize recipe

/-- One block is made from the one before it and from the one that a word chooses. -/
def fillBlock (recipe : Recipe) (segment : Segment) (word : Option UInt64) (index : Nat)
    (memory : Array Block) : Array Block :=
  let size := laneSize recipe
  let column := segment.slice * quarter recipe + index
  let here := segment.lane * size + column
  let before := memory.getD (segment.lane * size + (column + size - 1) % size) zeroBlock
  -- Without a choice by place, the first word of the block before chooses.
  let word := word.getD (before.getD 0 0)
  let lane := if segment.pass = 0 ∧ segment.slice = 0 then segment.lane
    else word.toNat / UInt32.size % recipe.lanes
  let other := memory.getD
    (lane * size + chosen recipe segment index (lane == segment.lane) word) zeroBlock
  let block := compress before other
  -- From the second pass on, the newer version keeps what a block held before.
  let block := if segment.pass = 0 ∨ recipe.version = 16 then block
    else xor (memory.getD here zeroBlock) block
  memory.setIfInBounds here block

/-- The words that choose earlier blocks, for the places from the given one on. -/
def fillBlocks (recipe : Recipe) (segment : Segment) :
    (count index : Nat) → (words : Block) → Array Block → Array Block
  | 0, _, _, memory => memory
  | count + 1, index, words, memory =>
    let isByPlace := segment.isByPlace recipe.variant
    let words := if isByPlace ∧ (index % 128 = 0 ∨ words.isEmpty) then
      choices recipe segment (index / 128 + 1) else words
    let word := if isByPlace then some (words.getD (index % 128) 0) else none
    fillBlocks recipe segment count (index + 1) words (fillBlock recipe segment word index memory)

/-- A quarter of a lane is filled; the first two blocks of a lane are there from the start. -/
def fillSegment (recipe : Recipe) (memory : Array Block) (segment : Segment) : Array Block :=
  let first := if segment.pass = 0 ∧ segment.slice = 0 then 2 else 0
  fillBlocks recipe segment (quarter recipe - first) first #[] memory

/-- All segments in the order in which they are filled. -/
def segments (recipe : Recipe) : List Segment :=
  (List.range recipe.passes).flatMap fun pass => (List.range 4).flatMap fun slice =>
    (List.range recipe.lanes).map fun lane => ⟨pass, slice, lane⟩

/-- The memory before the first pass. -/
def firstMemory (recipe : Recipe) (seed : List UInt8) : Array Block :=
  (List.range recipe.lanes).foldl (fun memory lane =>
    memory ++ #[wordsOf 128 (longHash 1024 (seed ++ number 0 ++ number lane)),
      wordsOf 128 (longHash 1024 (seed ++ number 1 ++ number lane))] ++
      Array.replicate (laneSize recipe - 2) zeroBlock) #[]

end Argon2

/-- The hash of a password with a salt, of `size` octets. -/
def argon2 (recipe : Recipe) (size : Nat) (password salt : List UInt8) : List UInt8 :=
  let memory := Argon2.firstMemory recipe (Argon2.seed recipe size password salt)
  let filled := (Argon2.segments recipe).foldl (Argon2.fillSegment recipe) memory
  let last := (List.range recipe.lanes).foldl (fun block lane =>
    Argon2.xor block (filled.getD ((lane + 1) * Argon2.laneSize recipe - 1) Argon2.zeroBlock))
    Argon2.zeroBlock
  Argon2.longHash size (last.toList.flatMap (octetsOf 8))

end CourseRegistry.Password
