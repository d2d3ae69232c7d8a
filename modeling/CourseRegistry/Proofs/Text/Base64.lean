import CourseRegistry.Text.Base64

/-! Octets and their written form in 64 letters determine each other. -/

namespace CourseRegistry.Text

/-- Every letter reads back as its own value. -/
theorem base64Value?_base64Letter {value : Nat} (small : value < 64) :
    base64Value? (base64Letter value) = some value := by
  -- All sixty-four letters are tried.
  have all : ∀ value < 64, base64Value? (base64Letter value) = some value := by decide
  exact all value small

/-- Every character that has a value is the letter for it. -/
theorem base64Letter_of_base64Value? {c : Char} {value : Nat} (read : base64Value? c = some value) :
    value < 64 ∧ base64Letter value = c := by
  unfold base64Value? at read
  -- The letters come in three runs and two single signs.
  split at read
  · -- A capital letter has the value of its place in the alphabet.
    next upper =>
    have first : 65 ≤ c.toNat := upper.1
    have last : c.toNat ≤ 90 := upper.2
    obtain rfl : c.toNat - 65 = value := Option.some.inj read
    refine ⟨by omega, ?_⟩
    have same : 'A'.toNat + (c.toNat - 65) = c.toNat := Nat.add_sub_of_le first
    rw [base64Letter, if_pos (by omega), same, Char.ofNat_toNat]
  · split at read
    · -- A small letter comes after all capital ones.
      next lower =>
      have first : 97 ≤ c.toNat := lower.1
      have last : c.toNat ≤ 122 := lower.2
      obtain rfl : c.toNat - 97 + 26 = value := Option.some.inj read
      refine ⟨by omega, ?_⟩
      have same : 'a'.toNat + (c.toNat - 97) = c.toNat := Nat.add_sub_of_le first
      rw [base64Letter, if_neg (by omega), if_pos (by omega), Nat.add_sub_cancel, same,
        Char.ofNat_toNat]
    · split at read
      · -- A digit comes after all letters.
        next digit =>
        have first : 48 ≤ c.toNat := digit.1
        have last : c.toNat ≤ 57 := digit.2
        obtain rfl : c.toNat - 48 + 52 = value := Option.some.inj read
        refine ⟨by omega, ?_⟩
        have same : '0'.toNat + (c.toNat - 48) = c.toNat := Nat.add_sub_of_le first
        rw [base64Letter, if_neg (by omega), if_neg (by omega), if_pos (by omega),
          Nat.add_sub_cancel, same, Char.ofNat_toNat]
      · split at read
        -- The two signs have the last two values.
        · next plus =>
          obtain rfl : 62 = value := Option.some.inj read
          exact ⟨by decide, plus.symm⟩
        · split at read
          · next slash =>
            obtain rfl : 63 = value := Option.some.inj read
            exact ⟨by decide, slash.symm⟩
          -- Nothing else has a value.
          · cases read

/-- A letter is not the mark that fills up a group. -/
theorem base64Letter_ne_padding {value : Nat} (small : value < 64) : base64Letter value ≠ '=' := by
  -- No letter among the sixty-four is the mark.
  have all : ∀ value < 64, base64Letter value ≠ '=' := by decide
  exact all value small

/-- An octet reads back from its two letters. -/
theorem base64One?_base64One (a : UInt8) :
    base64One? (base64Letter (a.toNat / 4)) (base64Letter (a.toNat % 4 * 16)) = some [a] := by
  have := a.toNat_lt
  -- The low bits of the second letter belong to no octet, and the others make up the octet.
  have zero : a.toNat % 4 * 16 % 16 = 0 := by omega
  have whole : a.toNat / 4 * 4 + a.toNat % 4 * 16 / 16 = a.toNat := by omega
  unfold base64One?
  rw [base64Value?_base64Letter (by omega), base64Value?_base64Letter (by omega)]
  simp only [Option.bind_eq_bind, Option.bind_some]
  rw [if_pos zero, whole, UInt8.ofNat_toNat]

/-- Two octets read back from their three letters. -/
theorem base64Two?_base64Two (a b : UInt8) :
    base64Two? (base64Letter (a.toNat / 4)) (base64Letter (a.toNat % 4 * 16 + b.toNat / 16))
      (base64Letter (b.toNat % 16 * 4)) = some [a, b] := by
  have := a.toNat_lt
  have := b.toNat_lt
  -- Each octet is the sum of the two pieces that went into neighbouring letters.
  have zero : b.toNat % 16 * 4 % 4 = 0 := by omega
  have first : a.toNat / 4 * 4 + (a.toNat % 4 * 16 + b.toNat / 16) / 16 = a.toNat := by omega
  have second : (a.toNat % 4 * 16 + b.toNat / 16) % 16 * 16 + b.toNat % 16 * 4 / 4 = b.toNat := by
    omega
  unfold base64Two?
  rw [base64Value?_base64Letter (by omega), base64Value?_base64Letter (by omega),
    base64Value?_base64Letter (by omega)]
  simp only [Option.bind_eq_bind, Option.bind_some]
  rw [if_pos zero, first, second, UInt8.ofNat_toNat, UInt8.ofNat_toNat]

/-- Three octets read back from their four letters. -/
theorem base64Three?_base64Three (a b c : UInt8) :
    base64Three? (base64Letter (a.toNat / 4)) (base64Letter (a.toNat % 4 * 16 + b.toNat / 16))
      (base64Letter (b.toNat % 16 * 4 + c.toNat / 64)) (base64Letter (c.toNat % 64)) =
        some [a, b, c] := by
  have := a.toNat_lt
  have := b.toNat_lt
  have := c.toNat_lt
  -- Here no bit is left over, and the last letter holds the low bits of the last octet.
  have first : a.toNat / 4 * 4 + (a.toNat % 4 * 16 + b.toNat / 16) / 16 = a.toNat := by omega
  have second : (a.toNat % 4 * 16 + b.toNat / 16) % 16 * 16 +
      (b.toNat % 16 * 4 + c.toNat / 64) / 4 = b.toNat := by omega
  have third : (b.toNat % 16 * 4 + c.toNat / 64) % 4 * 64 + c.toNat % 64 = c.toNat := by omega
  unfold base64Three?
  rw [base64Value?_base64Letter (by omega), base64Value?_base64Letter (by omega),
    base64Value?_base64Letter (by omega), base64Value?_base64Letter (by omega)]
  simp only [Option.bind_eq_bind, Option.bind_some]
  rw [first, second, third, UInt8.ofNat_toNat, UInt8.ofNat_toNat, UInt8.ofNat_toNat]

/-- Octets read back from their padded form. -/
theorem ofBase64?_base64 (octets : List UInt8) : ofBase64? (base64 octets) = some octets := by
  -- The induction follows the groups of three; only the last group can be smaller.
  induction octets using base64.induct with
  -- Without octets nothing is written.
  | case1 => rfl
  -- A single octet is written with two marks, by which its group is known.
  | case2 a => exact (if_pos ⟨rfl, rfl, rfl⟩).trans (base64One?_base64One a)
  | case3 a b =>
    have := b.toNat_lt
    -- One mark tells a group of two, since the third letter is a letter.
    have letter : base64Letter (b.toNat % 16 * 4) ≠ '=' := base64Letter_ne_padding (by omega)
    exact (if_neg fun marks => letter marks.2.1).trans
      ((if_pos ⟨rfl, rfl⟩).trans (base64Two?_base64Two a b))
  | case4 a b c rest ih =>
    have := c.toNat_lt
    -- In a full group the last letter is no mark, so that the group is read as three octets.
    have letter : base64Letter (c.toNat % 64) ≠ '=' := base64Letter_ne_padding (by omega)
    change ofBase64? (_ :: _ :: _ :: base64Letter (c.toNat % 64) :: base64 rest) = _
    rw [ofBase64?, if_neg fun marks => letter marks.2.2, if_neg fun marks => letter marks.2,
      base64Three?_base64Three, ih]
    rfl

section Groups

variable {x y z w : Char} {octets : List UInt8}

/-- Two letters that read as an octet are those that it is written in. -/
theorem base64One_of_base64One? (read : base64One? x y = some octets) :
    ∃ a, octets = [a] ∧ base64One a = [x, y] := by
  obtain ⟨p, x_read, front⟩ := Option.bind_eq_some_iff.mp read
  obtain ⟨q, y_read, made⟩ := Option.bind_eq_some_iff.mp front
  obtain ⟨p_lt, rfl⟩ := base64Letter_of_base64Value? x_read
  obtain ⟨q_lt, rfl⟩ := base64Letter_of_base64Value? y_read
  -- Bits that belong to no octet are zero.
  split at made
  · next zero =>
    have fits : (UInt8.ofNat (p * 4 + q / 16)).toNat = p * 4 + q / 16 :=
      UInt8.toNat_ofNat_of_lt' (show _ < 256 by omega)
    have first : (p * 4 + q / 16) / 4 = p := by omega
    have second : (p * 4 + q / 16) % 4 * 16 = q := by omega
    exact ⟨_, (Option.some.inj made).symm, by rw [base64One, fits, first, second]⟩
  · cases made

/-- Three letters that read as two octets are those that they are written in. -/
theorem base64Two_of_base64Two? (read : base64Two? x y z = some octets) :
    ∃ a b, octets = [a, b] ∧ base64Two a b = [x, y, z] := by
  obtain ⟨p, x_read, front⟩ := Option.bind_eq_some_iff.mp read
  obtain ⟨q, y_read, middle⟩ := Option.bind_eq_some_iff.mp front
  obtain ⟨r, z_read, made⟩ := Option.bind_eq_some_iff.mp middle
  obtain ⟨p_lt, rfl⟩ := base64Letter_of_base64Value? x_read
  obtain ⟨q_lt, rfl⟩ := base64Letter_of_base64Value? y_read
  -- The bits that go into the second octet come from two letters.
  obtain ⟨r_lt, rfl⟩ := base64Letter_of_base64Value? z_read
  split at made
  · next zero =>
    have a_fits : (UInt8.ofNat (p * 4 + q / 16)).toNat = p * 4 + q / 16 :=
      UInt8.toNat_ofNat_of_lt' (show _ < 256 by omega)
    have b_fits : (UInt8.ofNat (q % 16 * 16 + r / 4)).toNat = q % 16 * 16 + r / 4 :=
      UInt8.toNat_ofNat_of_lt' (show _ < 256 by omega)
    have first : (p * 4 + q / 16) / 4 = p := by omega
    have second : (p * 4 + q / 16) % 4 * 16 + (q % 16 * 16 + r / 4) / 16 = q := by omega
    have third : (q % 16 * 16 + r / 4) % 16 * 4 = r := by omega
    refine ⟨_, _, (Option.some.inj made).symm, ?_⟩
    rw [base64Two, a_fits, b_fits, first, second, third]
  -- Other bits at the end of the group are refused.
  · cases made

/-- Four letters that read as three octets are those that they are written in. -/
theorem base64Three_of_base64Three? (read : base64Three? x y z w = some octets) :
    ∃ a b c, octets = [a, b, c] ∧ base64Three a b c = [x, y, z, w] := by
  obtain ⟨p, x_read, front⟩ := Option.bind_eq_some_iff.mp read
  obtain ⟨q, y_read, middle⟩ := Option.bind_eq_some_iff.mp front
  obtain ⟨r, z_read, back⟩ := Option.bind_eq_some_iff.mp middle
  obtain ⟨s, w_read, made⟩ := Option.bind_eq_some_iff.mp back
  obtain ⟨p_lt, rfl⟩ := base64Letter_of_base64Value? x_read
  obtain ⟨q_lt, rfl⟩ := base64Letter_of_base64Value? y_read
  obtain ⟨r_lt, rfl⟩ := base64Letter_of_base64Value? z_read
  -- The values of four letters are cut into three octets, and each of these fits.
  obtain ⟨s_lt, rfl⟩ := base64Letter_of_base64Value? w_read
  have a_fits : (UInt8.ofNat (p * 4 + q / 16)).toNat = p * 4 + q / 16 :=
    UInt8.toNat_ofNat_of_lt' (show _ < 256 by omega)
  have b_fits : (UInt8.ofNat (q % 16 * 16 + r / 4)).toNat = q % 16 * 16 + r / 4 :=
    UInt8.toNat_ofNat_of_lt' (show _ < 256 by omega)
  have c_fits : (UInt8.ofNat (r % 4 * 64 + s)).toNat = r % 4 * 64 + s :=
    UInt8.toNat_ofNat_of_lt' (show _ < 256 by omega)
  -- Written again, the octets are cut into the values they were made of.
  have first : (p * 4 + q / 16) / 4 = p := by omega
  have second : (p * 4 + q / 16) % 4 * 16 + (q % 16 * 16 + r / 4) / 16 = q := by omega
  have third : (q % 16 * 16 + r / 4) % 16 * 4 + (r % 4 * 64 + s) / 64 = r := by omega
  have fourth : (r % 4 * 64 + s) % 64 = s := by omega
  exact ⟨_, _, _, (Option.some.inj made).symm,
    by rw [base64Three, a_fits, b_fits, c_fits, first, second, third, fourth]⟩

end Groups

/-- A text that reads as octets is the padded form of these. -/
theorem base64_of_ofBase64? {cs : List Char} {octets : List UInt8}
    (read : ofBase64? cs = some octets) : base64 octets = cs := by
  -- The cases are those of reading: two marks, one mark, or none at the end of a group.
  induction cs using ofBase64?.induct generalizing octets with
  | case1 =>
    -- No letters are no octets.
    obtain rfl : [] = octets := Option.some.inj read
    rfl
  | case2 x y z w rest padded =>
    -- Two marks at the end stand for one octet.
    rw [ofBase64?, if_pos padded] at read
    obtain ⟨a, rfl, written⟩ := base64One_of_base64One? read
    rw [base64, written, padded.1, padded.2.1, padded.2.2]
    rfl
  | case3 x y z w rest twice once =>
    -- A single mark stands for two.
    rw [ofBase64?, if_neg twice, if_pos once] at read
    obtain ⟨a, b, rfl, written⟩ := base64Two_of_base64Two? read
    rw [base64, written, once.1, once.2]
    rfl
  | case4 x y z w rest twice once ih =>
    -- A group without marks is three octets, and what is behind it is read on its own.
    rw [ofBase64?, if_neg twice, if_neg once] at read
    obtain ⟨front, group, read⟩ := Option.bind_eq_some_iff.mp read
    obtain ⟨back, others, made⟩ := Option.bind_eq_some_iff.mp read
    obtain ⟨a, b, c, rfl, written⟩ := base64Three_of_base64Three? group
    obtain rfl := Option.some.inj made
    have h : base64 ([a, b, c] ++ back) = base64Three a b c ++ base64 back := rfl
    rw [h, written, ih others]
    rfl
  | case5 =>
    -- A group that is cut short cannot be read.
    rw [ofBase64?] at read
    · cases read
    all_goals assumption

/-- A text reads as some octets exactly when it is their padded form. -/
theorem ofBase64?_eq_some {cs : List Char} {octets : List UInt8} :
    ofBase64? cs = some octets ↔ cs = base64 octets := by
  constructor
  · intro read
    exact (base64_of_ofBase64? read).symm
  · rintro rfl
    exact ofBase64?_base64 octets

/-- The last group is filled up where it is smaller than the others. -/
example : String.ofList (base64 [102, 111, 111, 98]) = "Zm9vYg==" := by decide

end CourseRegistry.Text
