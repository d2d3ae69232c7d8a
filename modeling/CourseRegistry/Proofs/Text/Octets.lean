import CourseRegistry.Text.Octets
import CourseRegistry.Proofs.Text.Order

/-! The octets of texts: which octets are a text, and in what order texts stand by their octets. -/

namespace CourseRegistry.Text

/-- Listing the octets of an array from some place on leaves those before it. -/
theorem toList_loop (bytes : ByteArray) (place : Nat) (front : List UInt8) :
    ByteArray.toList.loop bytes place front = front.reverse ++ bytes.data.toList.drop place := by
  -- What is listed already is kept in reverse until the end.
  fun_induction ByteArray.toList.loop bytes place front with
  -- There is an octet at the place, which is put in front of those that are kept.
  | case1 place front inside ih =>
    have within : place < bytes.data.toList.length := by simpa using inside
    rw [ih, List.drop_eq_getElem_cons within]
    simp [ByteArray.get!, inside]
  -- Behind the last place nothing is left.
  | case2 place front past =>
    rw [List.drop_eq_nil_of_le (by simpa using Nat.le_of_not_lt past), List.append_nil]

/-- The octets of an array are those that it is made of. -/
theorem toList_eq (bytes : ByteArray) : bytes.toList = bytes.data.toList := by
  rw [ByteArray.toList, toList_loop]
  rfl

/-- The octets of a text are those of its characters, one after the other. -/
theorem octets_eq (text : String) : octets text = text.toList.flatMap String.utf8EncodeChar := by
  have same : text.toUTF8 = text.toByteArray := rfl
  -- What the library encodes are the same octets, in an array.
  rw [octets, toList_eq, same, ← String.utf8Encode_toList]
  simp [List.utf8Encode]

/-- A text is as long as its octets are many. -/
theorem length_octets (text : String) : (octets text).length = text.utf8ByteSize := by
  rw [octets, toList_eq, Array.length_toList]
  rfl

/-- Some octets are a text exactly when they are those of the text. -/
theorem textOf?_eq_some {value : List UInt8} {text : String} :
    textOf? value = some text ↔ value = octets text := by
  unfold textOf? String.fromUTF8? octets
  rw [toList_eq]
  constructor
  · -- Octets that can be read are kept as they are by the text.
    intro read
    split at read
    · obtain rfl := Option.some.inj read
      rfl
    · cases read
  · -- The octets of a text are always in order, so that the text is made of them again.
    rintro rfl
    have same : ByteArray.mk text.toUTF8.data.toList.toArray = text.toByteArray := rfl
    rw [same, dif_pos text.isValidUTF8]
    rfl

/-- A character of ASCII has a single octet, which is its number. -/
theorem utf8EncodeChar_of_lt {c : Char} (small : c.toNat < 128) :
    String.utf8EncodeChar c = [UInt8.ofNat c.toNat] := by
  -- Below the first bound on numbers a single octet is written.
  unfold String.utf8EncodeChar
  simp only [Char.toNat_val]
  rw [if_pos (by omega)]

/-- The number of an octet is also that of a character. -/
theorem toNat_ofNat_toNat (octet : UInt8) : (Char.ofNat octet.toNat).toNat = octet.toNat := by
  have := octet.toNat_lt
  -- No octet has the number of a surrogate, which no character has.
  rw [Char.ofNat, dif_pos (.inl (by omega))]
  rfl

/-- The octet is known from the character. -/
theorem ofNat_toNat_ofNat (octet : UInt8) :
    UInt8.ofNat (Char.ofNat octet.toNat).toNat = octet := by
  rw [toNat_ofNat_toNat, UInt8.ofNat_toNat]

/-- Each character of ASCII has one octet in a text. -/
theorem octets_ofList {cs : List Char} (small : ∀ c ∈ cs, c.toNat < 128) :
    octets (String.ofList cs) = cs.map fun c => UInt8.ofNat c.toNat := by
  -- The characters are encoded one after the other, each as one octet.
  rw [octets_eq, String.toList_ofList]
  induction cs with
  | nil => rfl
  | cons c cs ih =>
    rw [List.flatMap_cons, utf8EncodeChar_of_lt (small c List.mem_cons_self),
      ih fun other member => small other (List.mem_cons_of_mem _ member)]
    rfl

/-- The octets of two rows of characters, one after the other. -/
theorem octets_ofList_append (front back : List Char) :
    octets (String.ofList (front ++ back)) =
      octets (String.ofList front) ++ octets (String.ofList back) := by
  simp only [octets_eq, String.toList_ofList, List.flatMap_append]

/-- The octets of a text are that text. -/
theorem textOf?_octets (text : String) : textOf? (octets text) = some text :=
  textOf?_eq_some.mpr rfl

/-- The octets of a character outside of ASCII are all outside of ASCII. -/
theorem le_of_mem_utf8EncodeChar {c : Char} (large : 128 ≤ c.toNat) {octet : UInt8}
    (member : octet ∈ String.utf8EncodeChar c) : 128 ≤ octet.toNat := by
  -- Each octet that is written has its highest bit, if it is at least this large.
  have highest {k : Nat} (range : 128 ≤ k ∧ k < 256) : 128 ≤ (UInt8.ofNat k).toNat := by
    rw [UInt8.toNat_ofNat_of_lt' range.2]
    exact range.1
  unfold String.utf8EncodeChar at member
  simp only [Char.toNat_val] at member
  generalize c.toNat = n at large member
  -- The first octet tells how many there are, and the others go on; both have their highest bit.
  rw [if_neg (by omega)] at member
  repeat' split at member
  all_goals simp only [List.mem_cons, List.not_mem_nil, or_false] at member
  -- The cases are those of two, three and four octets.
  · rcases member with rfl | rfl <;> exact highest (by omega)
  · rcases member with rfl | rfl | rfl <;> exact highest (by omega)
  · rcases member with rfl | rfl | rfl | rfl <;> exact highest (by omega)

section Encoded

/-- The octets of some characters, each taken for the character with its number. -/
def encoded (cs : List Char) : List Char :=
  octetChars (cs.flatMap String.utf8EncodeChar)

/-- A text is encoded by way of its octets. -/
theorem octetChars_octets (text : String) : octetChars (octets text) = encoded text.toList := by
  rw [encoded, octets_eq]

/-- Without characters there are no octets. -/
@[simp] theorem encoded_nil : encoded [] = [] := rfl

/-- Characters one after the other are encoded one after the other. -/
theorem encoded_append (front back : List Char) :
    encoded (front ++ back) = encoded front ++ encoded back := by
  simp only [encoded, octetChars, List.flatMap_append, List.map_append]

/-- A character of ASCII stands for itself. -/
theorem encoded_cons {c : Char} (ascii : c.toNat < 128) (cs : List Char) :
    encoded (c :: cs) = c :: encoded cs := by
  -- A number of ASCII fits into an octet.
  have fits : (UInt8.ofNat c.toNat).toNat = c.toNat :=
    UInt8.toNat_ofNat_of_lt' (show c.toNat < 256 by omega)
  rw [encoded, List.flatMap_cons, utf8EncodeChar_of_lt ascii, octetChars, List.singleton_append,
    List.map_cons, fits, Char.ofNat_toNat]
  rfl

/-- So does one that stands between others. -/
theorem encoded_append_cons {c : Char} (ascii : c.toNat < 128) (front back : List Char) :
    encoded (front ++ c :: back) = encoded front ++ c :: encoded back := by
  rw [encoded_append, encoded_cons ascii]

/-- So do all of them. -/
theorem encoded_of_ascii {cs : List Char} (ascii : ∀ c ∈ cs, c.toNat < 128) : encoded cs = cs := by
  -- Each character is encoded on its own.
  induction cs with
  | nil => rfl
  | cons c cs ih =>
    rw [encoded_cons (ascii c List.mem_cons_self),
      ih fun other member => ascii other (List.mem_cons_of_mem _ member)]

/-- No character is lost. -/
theorem length_le_length_encoded (cs : List Char) : cs.length ≤ (encoded cs).length := by
  -- Every character is written as at least one octet.
  induction cs with
  | nil => exact Nat.le_refl _
  | cons c cs ih =>
    have some_ : 0 < (String.utf8EncodeChar c).length :=
      List.length_pos_iff.mpr String.utf8EncodeChar_ne_nil
    have split : encoded (c :: cs) = octetChars (String.utf8EncodeChar c) ++ encoded cs := by
      simp only [encoded, octetChars, List.flatMap_cons, List.map_append]
    rw [split, List.length_append, octetChars, List.length_map, List.length_cons]
    omega

end Encoded

section Order

/-- The octets of an earlier character come first, whatever is behind them. -/
theorem utf8EncodeChar_append_lt {a b : Char} (before : a < b) (front back : List UInt8) :
    String.utf8EncodeChar a ++ front < String.utf8EncodeChar b ++ back := by
  have less : a.toNat < b.toNat := before
  have bound : b.toNat < 0x110000 := by
    have : b.toNat < 0xD800 ∨ 0xDFFF < b.toNat ∧ b.toNat < 0x110000 := b.valid
    omega
  unfold String.utf8EncodeChar
  simp only [Char.toNat_val]
  generalize a.toNat = m at *
  generalize b.toNat = n at *
  -- A character with more octets has a greater first one; with as many, the first difference
  -- between the octets is that between their numbers.
  repeat' split
  all_goals
    simp (disch := omega) only [List.cons_append, List.nil_append, List.cons_lt_cons_iff,
      UInt8.lt_iff_toNat_lt, ← UInt8.toNat_inj, UInt8.toNat_ofNat', Nat.mod_eq_of_lt]
    omega

/-- Rows of characters stand in the order of their octets. -/
theorem flatMap_utf8EncodeChar_lt {left right : List Char} :
    left.flatMap String.utf8EncodeChar < right.flatMap String.utf8EncodeChar ↔ left < right := by
  induction left generalizing right with
  -- In front of all others is the empty row, whose octets are none.
  | nil =>
    cases right with
    | nil => simp
    | cons b right =>
      have some_ : (b :: right).flatMap String.utf8EncodeChar ≠ [] := by
        -- Any other row starts with an octet.
        simp [String.utf8EncodeChar_ne_nil]
      obtain ⟨octet, others, same⟩ := List.exists_cons_of_ne_nil some_
      rw [same]
      exact iff_of_true (List.nil_lt_cons _ _) (List.nil_lt_cons _ _)
  | cons a left ih =>
    cases right with
    -- Nothing is in front of the empty row.
    | nil => simp
    | cons b right =>
      rw [List.flatMap_cons, List.flatMap_cons, List.cons_lt_cons_iff]
      -- The first characters decide, unless they are the same.
      rcases Nat.lt_trichotomy a.toNat b.toNat with before | same | after
      · exact iff_of_true (utf8EncodeChar_append_lt before _ _) (.inl before)
      · obtain rfl : a = b := Char.toNat_inj.mp same
        rw [append_lt_append_left, ih]
        simp
      · -- A later first character puts all octets behind, and cannot be in front.
        refine iff_of_false (List.lt_asymm (utf8EncodeChar_append_lt after _ _)) ?_
        rintro (before | ⟨rfl, -⟩)
        · exact Nat.lt_asymm after before
        · exact Nat.lt_irrefl _ after

/-- Texts stand in the order of their octets. -/
theorem octets_lt {left right : String} : octets left < octets right ↔ left < right := by
  rw [octets_eq, octets_eq, flatMap_utf8EncodeChar_lt]
  exact String.lt_iff.symm

end Order

end CourseRegistry.Text
