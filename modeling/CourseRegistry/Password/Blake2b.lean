import CourseRegistry.Password.Mixing

/-! The hash BLAKE2b, without a key, of up to 64 octets. -/

namespace CourseRegistry.Password

/-- The word whose octets these are, the lowest first. -/
def wordOf (octets : List UInt8) : UInt64 :=
  octets.foldr (fun octet word => (word <<< 8) ||| octet.toUInt64) 0

/-- Some octets of a word, the lowest first. -/
def octetsOf (count : Nat) (word : UInt64) : List UInt8 :=
  match count with
  | 0 => []
  | count + 1 => word.toUInt8 :: octetsOf count (word >>> 8)

/-- The words of some octets. -/
def wordsOf (count : Nat) (octets : List UInt8) : Array UInt64 :=
  match count with
  | 0 => #[]
  | count + 1 => #[wordOf (octets.take 8)] ++ wordsOf count (octets.drop 8)

namespace Blake2b

/-- The first half of the words that each hash starts from. -/
def start : Lanes :=
  ⟨0x6a09e667f3bcc908, 0xbb67ae8584caa73b, 0x3c6ef372fe94f82b, 0xa54ff53a5f1d36f1⟩

/-- The second half of the words that each hash starts from. -/
def startBelow : Lanes :=
  ⟨0x510e527fade682d1, 0x9b05688c2b3e6c1f, 0x1f83d9abfb41bd6b, 0x5be0cd19137e2179⟩

/-- In which order each round takes the words of the message. -/
def schedule : List (List Nat) :=
  [[0, 1, 2, 3, 4, 5, 6, 7, 8, 9, 10, 11, 12, 13, 14, 15],
    [14, 10, 4, 8, 9, 15, 13, 6, 1, 12, 0, 2, 11, 7, 5, 3],
    [11, 8, 12, 0, 5, 2, 15, 13, 10, 14, 3, 6, 7, 1, 9, 4],
    [7, 9, 3, 1, 13, 12, 11, 14, 2, 6, 5, 10, 4, 0, 15, 8],
    [9, 0, 5, 7, 2, 4, 10, 15, 14, 1, 11, 12, 6, 8, 3, 13],
    [2, 12, 6, 10, 0, 11, 8, 3, 4, 13, 7, 5, 15, 14, 1, 9],
    [12, 5, 1, 15, 14, 13, 4, 10, 0, 7, 6, 3, 9, 2, 8, 11],
    [13, 11, 7, 14, 12, 1, 3, 9, 5, 0, 15, 4, 8, 6, 2, 10],
    [6, 15, 14, 9, 11, 3, 0, 8, 12, 2, 13, 7, 1, 4, 10, 5],
    [10, 2, 8, 4, 7, 6, 1, 5, 15, 11, 9, 14, 3, 12, 13, 0],
    [0, 1, 2, 3, 4, 5, 6, 7, 8, 9, 10, 11, 12, 13, 14, 15],
    [14, 10, 4, 8, 9, 15, 13, 6, 1, 12, 0, 2, 11, 7, 5, 3]]

/-- Four words of a message, two steps apart in the order of a round. -/
def pick (message : Array UInt64) (order : Array Nat) (first : Nat) : Lanes :=
  let word := fun i => message.getD (order.getD (first + 2 * i) 0) 0
  ⟨word 0, word 1, word 2, word 3⟩

/-- One round. -/
def round (message : Array UInt64) (square : Square) (order : List Nat) : Square :=
  let order := order.toArray
  square.mix (· + ·) (pick message order 0, pick message order 1)
    (pick message order 8, pick message order 9)

/-- Eight words between two blocks. -/
structure State where
  above : Lanes
  below : Lanes

/-- One block of 128 octets; `count` octets have been taken with it. -/
def State.compress (state : State) (block : List UInt8) (count : Nat) (isLast : Bool) : State :=
  let message := wordsOf 16 block
  let marks : Lanes :=
    ⟨UInt64.ofNat count, UInt64.ofNat (count / UInt64.size),
      if isLast then 0xFFFFFFFFFFFFFFFF else 0, 0⟩
  let square : Square := ⟨state.above, state.below, start, startBelow.zip (· ^^^ ·) marks⟩
  let mixed := schedule.foldl (round message) square
  ⟨(state.above.zip (· ^^^ ·) mixed.a).zip (· ^^^ ·) mixed.c,
    (state.below.zip (· ^^^ ·) mixed.b).zip (· ^^^ ·) mixed.d⟩

/-- All blocks of a message; the last one is filled up with zeros. -/
def State.absorb (state : State) (taken : Nat) (message : List UInt8) : State :=
  if message.length ≤ 128 then
    let filled := message ++ List.replicate (128 - message.length) 0
    state.compress filled (taken + message.length) true
  else
    (state.compress (message.take 128) (taken + 128) false).absorb (taken + 128) (message.drop 128)
termination_by message.length
decreasing_by simp; omega

/-- The octets of four words. -/
def lanesOctets (lanes : Lanes) : List UInt8 :=
  [lanes.w0, lanes.w1, lanes.w2, lanes.w3].flatMap (octetsOf 8)

end Blake2b

/-- The hash of a message, of `size` octets, at most 64. -/
def blake2b (size : Nat) (message : List UInt8) : List UInt8 :=
  let parameters : Lanes := ⟨0x01010000 ^^^ UInt64.ofNat size, 0, 0, 0⟩
  let state : Blake2b.State := ⟨Blake2b.start.zip (· ^^^ ·) parameters, Blake2b.startBelow⟩
  let final := state.absorb 0 message
  (Blake2b.lanesOctets final.above ++ Blake2b.lanesOctets final.below).take size

end CourseRegistry.Password
