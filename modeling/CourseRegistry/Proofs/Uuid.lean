import CourseRegistry.Uuid

/-! Identifiers read back from their written form, so that no two of them are written alike. -/

namespace CourseRegistry

/-- Every digit reads back as its own value. -/
theorem hexValue?_hexChar (value : Fin 16) : hexValue? (hexChar value) = some value := by
  -- All sixteen digits are tried.
  revert value
  decide

/-- A row of digits reads back digit by digit. -/
theorem mapM_hexValue?_hexChar (digits : List (Fin 16)) :
    (digits.map hexChar).mapM hexValue? = some digits := by
  -- The digits are read one at a time.
  induction digits with
  | nil => rfl
  | cons digit digits ih => simp [List.mapM_cons, hexValue?_hexChar, ih]

namespace Uuid

/-- How many digits there are in groups of the given sizes. -/
def countDigits : (groups : List Nat) → Nat
  | [] => 0
  | size :: sizes => size + countDigits sizes

/-- Hyphens between the groups come on top of the digits themselves. -/
theorem length_hyphenate (size : Nat) (sizes : List Nat) (digits : List (Fin 16))
    (covered : digits.length = countDigits (size :: sizes)) :
    (hyphenate (size :: sizes) digits).length = digits.length + sizes.length := by
  -- The induction is on the groups behind the first one, which every written form has.
  induction sizes generalizing size digits with
  -- A single group has no hyphen.
  | nil =>
    have whole : digits.length = size := covered
    simp [hyphenate, whole]
  | cons next sizes ih =>
    rw [countDigits] at covered
    -- The digits behind the first group are covered by the other groups.
    have rest := ih next (digits.drop size) (by rw [List.length_drop]; omega)
    simp only [hyphenate, List.length_append, List.length_map, List.length_take,
      List.length_cons, rest, List.length_drop]
    omega

/-- Groups read back in the sizes they were written in. -/
theorem unhyphenate?_hyphenate (size : Nat) (sizes : List Nat) (digits : List (Fin 16))
    (covered : digits.length = countDigits (size :: sizes)) :
    unhyphenate? (size :: sizes) (hyphenate (size :: sizes) digits) = some digits := by
  -- Reading goes group by group, as writing does.
  induction sizes generalizing size digits with
  -- The only group takes all digits.
  | nil =>
    obtain rfl : size = digits.length := covered.symm
    simp only [unhyphenate?, hyphenate, List.take_length, List.length_map, if_true,
      mapM_hexValue?_hexChar]
  | cons next sizes ih =>
    rw [countDigits] at covered
    have front : ((digits.take size).map hexChar).length = size := by
      simp only [List.length_map, List.length_take]
      omega
    have rest := ih next (digits.drop size) (by rw [List.length_drop]; omega)
    -- Cutting after the first group leaves the hyphen and the groups behind it.
    rw [hyphenate, unhyphenate?, List.take_left' front, List.drop_left' front, if_pos front,
      mapM_hexValue?_hexChar]
    · simp [rest]
    all_goals simp

/-- The written form always has the same length. -/
theorem length_chars (id : Uuid) : id.chars.length = 36 := by
  -- The five groups of an identifier take up all of its digits, with a hyphen between any two.
  rw [chars, groups, length_hyphenate _ _ _ id.length_eq, id.length_eq]
  rfl

/-- Nothing but digits and hyphens is written. -/
theorem mem_hyphenate {groups : List Nat} {digits : List (Fin 16)} {c : Char}
    (member : c ∈ hyphenate groups digits) : c = '-' ∨ ∃ value, c = hexChar value := by
  have isDigit {size : Nat} {digits : List (Fin 16)}
      (member : c ∈ (digits.take size).map hexChar) : ∃ value, c = hexChar value := by
    obtain ⟨value, -, rfl⟩ := List.mem_map.mp member
    exact ⟨value, rfl⟩
  -- The cases are those of writing: no group, a last one, and one with others behind it.
  fun_induction hyphenate groups digits with
  | case1 => cases member
  | case2 digits size => exact .inr (isDigit member)
  | case3 digits size sizes more ih =>
    rcases List.mem_append.mp member with front | behind
    · exact .inr (isDigit front)
    · exact (List.mem_cons.mp behind).elim .inl ih

/-- An identifier reads back from its written form. -/
theorem ofText?_text (id : Uuid) : ofText? id.text = some id := by
  have digits : unhyphenate? groups id.chars = some id.digits :=
    unhyphenate?_hyphenate _ _ _ id.length_eq
  -- Of the written forms that are accepted, it is the length that picks this one.
  simp [ofText?, text, ofChars?, id.length_chars, ofHyphenated?, digits, ofDigits?, id.length_eq]

/-- Different identifiers are written differently. -/
theorem text_injective {a b : Uuid} (same : a.text = b.text) : a = b := by
  -- Reading gives both of them back from the one text.
  have read : some a = some b := by rw [← ofText?_text a, same, ofText?_text b]
  exact Option.some.inj read

end Uuid

end CourseRegistry
