import CourseRegistry.Text.Lossy

/-! The octets of a text are read as that text, and no character of it is replaced. -/

namespace CourseRegistry.Text

section Steps

variable {octet : UInt8} {rest : List UInt8} {owed low high known : Nat}

/-- An octet that starts a longer character leaves it pending. -/
theorem lossyFrom_start {pending : Pending}
    (starts : startChar octet.toNat = ([], some pending)) :
    lossyFrom none (octet :: rest) = lossyFrom (some pending) rest := by
  simp only [lossyFrom, stepChar, starts, List.nil_append]

/-- An octet in the middle of a character adds to what is known of it. -/
theorem lossyFrom_middle (fits : low ≤ octet.toNat ∧ octet.toNat ≤ high) (more : 1 < owed) :
    lossyFrom (some ⟨owed, low, high, known⟩) (octet :: rest) =
      lossyFrom (some ⟨owed - 1, 0x80, 0xBF, known * 64 + (octet.toNat - 0x80)⟩) rest := by
  simp only [lossyFrom, stepChar, if_pos fits, if_neg (Nat.not_le_of_lt more), List.nil_append]

/-- The last octet of a character completes it. -/
theorem lossyFrom_last (fits : low ≤ octet.toNat ∧ octet.toNat ≤ high) :
    lossyFrom (some ⟨1, low, high, known⟩) (octet :: rest) =
      Char.ofNat (known * 64 + (octet.toNat - 0x80)) :: lossyFrom none rest := by
  simp only [lossyFrom, stepChar, if_pos fits, Nat.le_refl, if_true, List.singleton_append]

end Steps

-- The first octet tells how many are to come, and the second has to be in the range that the first
-- one leaves: no character is written in more octets than it takes, and none is a surrogate.
section Starts

variable {n : Nat}

/-- The first of two octets tells the upper bits of a character. -/
theorem startChar_two (least : 0x80 ≤ n) (most : n < 0x800) :
    startChar (n / 64 % 32 + 192) = ([], some ⟨1, 0x80, 0xBF, n / 64⟩) := by
  have known : n / 64 % 32 + 192 - 0xC0 = n / 64 := by omega
  rw [startChar, if_neg (by omega), if_neg (by omega), if_pos (by omega), known]

/-- So does the first of three, which leaves out what two could hold and the surrogates. -/
theorem startChar_three (least : 0x800 ≤ n) (most : n < 0x10000)
    (valid : n < 0xD800 ∨ 0xDFFF < n) : ∃ low high,
      startChar (n / 4096 % 16 + 224) = ([], some ⟨2, low, high, n / 4096⟩) ∧
        low ≤ n / 64 % 64 + 128 ∧ n / 64 % 64 + 128 ≤ high := by
  unfold startChar
  rw [if_neg (by omega), if_neg (by omega), if_neg (by omega)]
  -- The ranges are those behind the first octet, behind the one before the surrogates, and others.
  split
  · have known : n / 4096 = 0 := by omega
    exact ⟨0xA0, 0xBF, by rw [known], by omega, by omega⟩
  · split
    · have known : n / 4096 = 0xD := by omega
      exact ⟨0x80, 0x9F, by rw [known], by omega, by omega⟩
    · have known : n / 4096 % 16 + 224 - 0xE0 = n / 4096 := by omega
      exact ⟨0x80, 0xBF, by rw [if_pos (by omega), known], by omega, by omega⟩

/-- So does the first of four, which leaves out what three could hold and what is past the last. -/
theorem startChar_four (least : 0x10000 ≤ n) (most : n < 0x110000) : ∃ low high,
    startChar (n / 262144 % 8 + 240) = ([], some ⟨3, low, high, n / 262144⟩) ∧
      low ≤ n / 4096 % 64 + 128 ∧ n / 4096 % 64 + 128 ≤ high := by
  unfold startChar
  rw [if_neg (by omega), if_neg (by omega), if_neg (by omega), if_neg (by omega),
    if_neg (by omega), if_neg (by omega)]
  -- Here it is the first and the last octet that leave less than the full range.
  split
  · have known : n / 262144 = 0 := by omega
    exact ⟨0x90, 0xBF, by rw [known], by omega, by omega⟩
  · split
    · have known : n / 262144 % 8 + 240 - 0xF0 = n / 262144 := by omega
      exact ⟨0x80, 0xBF, by rw [known], by omega, by omega⟩
    · have known : n / 262144 = 4 := by omega
      exact ⟨0x80, 0x8F, by rw [if_pos (by omega), known], by omega, by omega⟩

end Starts

/-- The octets of a character are read as the character. -/
theorem lossyFrom_utf8EncodeChar (c : Char) (rest : List UInt8) :
    lossyFrom none (String.utf8EncodeChar c ++ rest) = c :: lossyFrom none rest := by
  have valid : c.toNat < 0xD800 ∨ 0xDFFF < c.toNat ∧ c.toNat < 0x110000 := c.valid
  have same : Char.ofNat c.toNat = c := Char.ofNat_toNat c
  have toNat {k : Nat} (small : k < 256) : (UInt8.ofNat k).toNat = k :=
    UInt8.toNat_ofNat_of_lt' small
  have further (k : Nat) : (UInt8.ofNat (k % 64 + 128)).toNat = k % 64 + 128 := toNat (by omega)
  unfold String.utf8EncodeChar
  simp only [Char.toNat_val]
  generalize c.toNat = n at valid same ⊢
  -- A character has one to four octets, by its number.
  split
  · -- A single octet is a character of ASCII.
    have start : startChar (UInt8.ofNat n).toNat = ([c], none) := by
      rw [toNat (by omega), startChar, if_pos (by omega), same]
    simp only [List.singleton_append, lossyFrom, stepChar, start]
  · split
    · -- Two octets hold eleven bits.
      have start := startChar_two (n := n) (by omega) (by omega)
      rw [← toNat (k := n / 64 % 32 + 192) (by omega)] at start
      have number : n / 64 * 64 + (n % 64 + 128 - 0x80) = n := by omega
      rw [List.cons_append, lossyFrom_start start, List.singleton_append,
        lossyFrom_last (by rw [further]; omega), further, number, same]
    · split
      · -- Three octets hold sixteen bits.
        obtain ⟨low, high, start, fits⟩ :=
          startChar_three (n := n) (by omega) (by omega) (by omega)
        rw [← toNat (k := n / 4096 % 16 + 224) (by omega)] at start
        rw [← further] at fits
        have number : (n / 4096 * 64 + (n / 64 % 64 + 128 - 0x80)) * 64 +
            (n % 64 + 128 - 0x80) = n := by omega
        rw [List.cons_append, lossyFrom_start start, List.cons_append,
          lossyFrom_middle fits (by decide), List.singleton_append,
          lossyFrom_last (by rw [further]; omega), further, further, number, same]
      · -- Four octets hold all that there are.
        obtain ⟨low, high, start, fits⟩ := startChar_four (n := n) (by omega) (by omega)
        rw [← toNat (k := n / 262144 % 8 + 240) (by omega)] at start
        rw [← further] at fits
        have number : ((n / 262144 * 64 + (n / 4096 % 64 + 128 - 0x80)) * 64 +
            (n / 64 % 64 + 128 - 0x80)) * 64 + (n % 64 + 128 - 0x80) = n := by omega
        rw [List.cons_append, lossyFrom_start start, List.cons_append,
          lossyFrom_middle fits (by decide), List.cons_append,
          lossyFrom_middle (by rw [further]; omega) (by decide), List.singleton_append,
          lossyFrom_last (by rw [further]; omega), further, further, further, number, same]

/-- So are those of several characters, one after the other. -/
theorem lossyFrom_flatMap (cs : List Char) :
    lossyFrom none (cs.flatMap String.utf8EncodeChar) = cs := by
  -- The octets of each character are used up before those of the next one are read.
  induction cs with
  | nil => rfl
  | cons c cs ih => rw [List.flatMap_cons, lossyFrom_utf8EncodeChar, ih]

end CourseRegistry.Text
