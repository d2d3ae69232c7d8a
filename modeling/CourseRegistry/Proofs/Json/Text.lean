import CourseRegistry.Json.Reader
import CourseRegistry.Json.Writer
import CourseRegistry.Proofs.Text.Digits
import CourseRegistry.Proofs.Text.Octets

/-!
JSON values read back from the octets of the texts that they are written as.
What is written outside of quotes is all ASCII and encoded as itself, so that only the texts in
quotes have to be put together from their octets.
-/

namespace CourseRegistry

/-- A number without an exponent has no power of ten, so that its written form keeps all of it. -/
def Numeral.isPlain (numeral : Numeral) : Bool :=
  !numeral.whole || numeral.scale == 0

namespace Json

open Text

section Strings

variable {paired : Bool} {read : List UInt8} {rest : List Char}

/-- A hexadecimal digit reads back as its value. -/
theorem hexDigit?_hexDigit {value : Nat} (small : value < 16) :
    hexDigit? (hexDigit value) = some value := by
  -- All sixteen digits are tried.
  have all : ∀ d < 16, hexDigit? (hexDigit d) = some d := by decide
  exact all value small

/-- The four digits of a control character denote its number. -/
theorem hexUnit?_control {code : Nat} (control : code < 32) :
    hexUnit? '0' '0' (hexDigit (code / 16)) (hexDigit (code % 16)) = some code := by
  -- The two zeros in front add nothing, and the two digits are its quotient and its remainder.
  have zero : hexDigit? '0' = some 0 := by decide
  have high := hexDigit?_hexDigit (show code / 16 < 16 by omega)
  have low := hexDigit?_hexDigit (show code % 16 < 16 by omega)
  have joined : ((0 * 16 + 0) * 16 + code / 16) * 16 + code % 16 = code := by omega
  simp only [hexUnit?, zero, high, low, Option.bind_eq_bind, Option.bind_some, Option.pure_def,
    joined]

/-- An octet that is no mark in quotes and no control character is read as itself. -/
theorem readString_octet {c : Char} (notQuote : c ≠ '"') (notEscape : c ≠ '\\')
    (printed : ¬ c.toNat < 32) :
    readString paired read (c :: rest) =
      readString paired (UInt8.ofNat c.toNat :: read) rest := by
  -- The cases are those of the reader, and the first character rules out all but one.
  rw [readString.eq_def]
  split
  · -- It is no quote.
    next same => exact absurd (List.cons.inj same).1 notQuote
  · -- It starts no escape, whether that is a pair of long ones, a long one or a short one.
    next same => exact absurd (List.cons.inj same).1 notEscape
  · next same => exact absurd (List.cons.inj same).1 notEscape
  · next same => exact absurd (List.cons.inj same).1 notEscape
  · next same =>
    obtain ⟨rfl, rfl⟩ := List.cons.inj same
    rw [if_neg]
    simp [printed, notEscape]
  · -- The text is not empty.
    next same => cases same

/-- A short escape is read as the character that it stands for. -/
theorem readString_short {mark c : Char} (stands : shortEscape? mark = some c) :
    readString paired read ('\\' :: mark :: rest) = readString paired (pushChar c read) rest := by
  -- The mark of the long escapes is none of the short ones.
  have notLong : mark ≠ 'u' := by
    rintro rfl
    cases stands
  rw [readString.eq_def]
  split
  · -- It is no quote.
    next same => cases same
  · -- It is none of the two kinds of long escapes.
    next same =>
    obtain ⟨rfl, _⟩ := List.cons.inj (List.cons.inj same).2
    exact absurd rfl notLong
  · next same =>
    obtain ⟨rfl, _⟩ := List.cons.inj (List.cons.inj same).2
    exact absurd rfl notLong
  · -- The mark stands for its character.
    next same =>
    obtain ⟨rfl, rfl⟩ := List.cons.inj (List.cons.inj same).2
    rw [stands]
  · -- The escape is the one at hand.
    next other same =>
    obtain ⟨rfl, rfl⟩ := List.cons.inj same
    exact (other _ _ rfl rfl).elim
  · next same => cases same

/-- A long escape of four digits that denote nothing is not read. -/
theorem readString_unspelled {a b c d : Char} (unspelled : hexUnit? a b c d = none) :
    readString paired read ('\\' :: 'u' :: a :: b :: c :: d :: rest) = (.broken, []) := by
  -- The reader looks for a pair of long escapes first, and then for a single one.
  rw [readString.eq_def]
  split
  · next same => cases same
  · next same =>
    cases same
    simp only [unspelled]
  · next same =>
    cases same
    simp only [unspelled]
  · next notLong same =>
    cases same
    exact (notLong _ _ _ _ _ rfl rfl).elim
  · next other same =>
    obtain ⟨rfl, rfl⟩ := List.cons.inj same
    exact (other _ _ rfl rfl).elim
  · next same => cases same

/-- A long escape is read as its character, whatever follows it. -/
theorem readString_unit {a b c d : Char} {unit : Nat} (spelled : hexUnit? a b c d = some unit)
    (high : isHighHalf unit = false) (low : isLowHalf unit = false) :
    readString paired read ('\\' :: 'u' :: a :: b :: c :: d :: rest) =
      readString paired (pushChar (Char.ofNat unit) read) rest := by
  -- The unit is no half of a pair, so that it is a character of its own.
  rw [readString.eq_def]
  split
  · next same => cases same
  · next same =>
    cases same
    simp only [spelled, high, low, Bool.false_and, Bool.or_false, Bool.false_eq_true, if_false]
    -- The second escape is read once more by itself, and is as wrong then as it is here.
    split
    · rfl
    · next unspelled => exact (readString_unspelled unspelled).symm
  · next same =>
    cases same
    simp [spelled, high, low]
  · next notLong same =>
    cases same
    exact (notLong _ _ _ _ _ rfl rfl).elim
  · next other same =>
    obtain ⟨rfl, rfl⟩ := List.cons.inj same
    exact (other _ _ rfl rfl).elim
  · next same => cases same

/-- Octets that are all read as themselves are read one after the other. -/
theorem readString_octetChars {octets : List UInt8}
    (plain : ∀ octet ∈ octets, Char.ofNat octet.toNat ≠ '"' ∧ Char.ofNat octet.toNat ≠ '\\' ∧
      ¬ octet.toNat < 32) :
    readString paired read (octetChars octets ++ rest) =
      readString paired (octets.reverse ++ read) rest := by
  -- By induction on the octets, the first of which is no mark.
  induction octets generalizing read with
  | nil => rfl
  | cons octet octets ih =>
    obtain ⟨notQuote, notEscape, printed⟩ := plain octet List.mem_cons_self
    rw [← toNat_ofNat_toNat] at printed
    rw [octetChars, List.map_cons, List.cons_append, readString_octet notQuote notEscape printed,
      ofNat_toNat_ofNat, List.reverse_cons, List.append_assoc, List.singleton_append]
    exact ih fun other member => plain other (List.mem_cons_of_mem _ member)

/-- A character that needs no escape is read from its octets. -/
theorem readString_plain {c : Char} (notQuote : c ≠ '"') (notEscape : c ≠ '\\')
    (printed : ¬ c.toNat < 32) :
    readString paired read (encoded [c] ++ rest) = readString paired (pushChar c read) rest := by
  have same : encoded [c] = octetChars (String.utf8EncodeChar c) := by
    rw [encoded, List.flatMap_singleton]
  rw [same, pushChar]
  refine readString_octetChars fun octet member => ?_
  by_cases ascii : c.toNat < 128
  · -- Its only octet is its number.
    rw [utf8EncodeChar_of_lt ascii, List.mem_singleton] at member
    have fits : (UInt8.ofNat c.toNat).toNat = c.toNat :=
      UInt8.toNat_ofNat_of_lt' (show c.toNat < 256 by omega)
    rw [member, fits, Char.ofNat_toNat]
    exact ⟨notQuote, notEscape, printed⟩
  · -- None of its octets is a mark, which are all in ASCII.
    have large := le_of_mem_utf8EncodeChar (Nat.le_of_not_lt ascii) member
    refine ⟨fun mark => ?_, fun mark => ?_, by omega⟩
    all_goals
      rw [← toNat_ofNat_toNat, mark] at large
      exact absurd large (by decide)

/-- The mark of a short escape is in ASCII. -/
theorem toNat_lt_of_shortEscape? {mark c : Char} (stands : shortEscape? mark = some c) :
    mark.toNat < 128 := by
  unfold shortEscape? at stands
  -- All short escapes are tried.
  split at stands <;> first
    | decide
    | cases stands

/-- A hexadecimal digit is in ASCII. -/
theorem toNat_hexDigit {value : Nat} (small : value < 16) : (hexDigit value).toNat < 128 := by
  -- All sixteen digits are tried.
  have all : ∀ d < 16, (hexDigit d).toNat < 128 := by decide
  exact all value small

/-- A character has a short escape, or is a control character with a long one, or needs none. -/
theorem escapeChar_cases (c : Char) :
    (∃ mark, escapeChar c = ['\\', mark] ∧ shortEscape? mark = some c) ∨
      (escapeChar c = ['\\', 'u', '0', '0', hexDigit (c.toNat / 16), hexDigit (c.toNat % 16)] ∧
        c.toNat < 32) ∨
      (escapeChar c = [c] ∧ c ≠ '"' ∧ c ≠ '\\' ∧ ¬ c.toNat < 32) := by
  -- The characters are tried in the order in which the writer tries them.
  by_cases quote : c = '"'
  · exact .inl ⟨'"', by rw [quote]; rfl, by rw [quote]; rfl⟩
  by_cases escape : c = '\\'
  · exact .inl ⟨'\\', by rw [escape]; rfl, by rw [escape]; rfl⟩
  by_cases newline : c = '\n'
  · exact .inl ⟨'n', by rw [newline]; rfl, by rw [newline]; rfl⟩
  by_cases carriageReturn : c = '\r'
  · exact .inl ⟨'r', by rw [carriageReturn]; rfl, by rw [carriageReturn]; rfl⟩
  by_cases tab : c = '\t'
  · exact .inl ⟨'t', by rw [tab]; rfl, by rw [tab]; rfl⟩
  have isIt {code : Nat} (same : c.toNat = code) : Char.ofNat code = c := by
    rw [← same, Char.ofNat_toNat]
  by_cases backspace : c.toNat = 8
  · obtain rfl := isIt backspace
    exact .inl ⟨'b', rfl, rfl⟩
  by_cases formFeed : c.toNat = 12
  · obtain rfl := isIt formFeed
    exact .inl ⟨'f', rfl, rfl⟩
  by_cases control : c.toNat < 32
  · refine .inr (.inl ⟨?_, control⟩)
    rw [escapeChar, if_neg quote, if_neg escape, if_neg newline, if_neg carriageReturn, if_neg tab,
      if_neg backspace, if_neg formFeed, if_pos control]
  · refine .inr (.inr ⟨?_, quote, escape, control⟩)
    rw [escapeChar, if_neg quote, if_neg escape, if_neg newline, if_neg carriageReturn, if_neg tab,
      if_neg backspace, if_neg formFeed, if_neg control]

/-- What a character is written as is read as that character. -/
theorem readString_escapeChar (c : Char) :
    readString paired read (encoded (escapeChar c) ++ rest) =
      readString paired (pushChar c read) rest := by
  rcases escapeChar_cases c with ⟨mark, short, stands⟩ | ⟨long, control⟩ |
    ⟨plain, notQuote, notEscape, printed⟩
  · -- A short escape is a mark behind a backslash, both of them in ASCII.
    rw [short, encoded_cons (by decide), encoded_cons (toNat_lt_of_shortEscape? stands)]
    exact readString_short stands
  · -- A control character is no half of another character.
    have high : isHighHalf c.toNat = false := by
      rw [isHighHalf, Bool.and_eq_false_iff, decide_eq_false_iff_not]
      exact .inl (by omega)
    have low : isLowHalf c.toNat = false := by
      rw [isLowHalf, Bool.and_eq_false_iff, decide_eq_false_iff_not]
      exact .inl (by omega)
    -- So its four digits are a long escape by themselves.
    have unit : readString paired read ('\\' :: 'u' :: '0' :: '0' :: hexDigit (c.toNat / 16) ::
        hexDigit (c.toNat % 16) :: rest) =
          readString paired (pushChar (Char.ofNat c.toNat) read) rest :=
      readString_unit (hexUnit?_control control) high low
    rw [Char.ofNat_toNat] at unit
    have ascii := fun {value : Nat} (small : value < 16) => encoded_cons (toNat_hexDigit small)
    rw [long, encoded_cons (by decide), encoded_cons (by decide), encoded_cons (by decide),
      encoded_cons (by decide), ascii (by omega), ascii (by omega)]
    exact unit
  · -- Any other character stands for itself.
    rw [plain]
    exact readString_plain notQuote notEscape printed

/-- What a text is written as is read as that text, up to the closing quote. -/
theorem readString_flatMap (cs : List Char) :
    readString true read (encoded (cs.flatMap escapeChar) ++ '"' :: rest) =
      (ofQuoted true (read.reverse ++ cs.flatMap String.utf8EncodeChar), rest) := by
  -- The octets of each character that is read move from the text to those that were read before.
  induction cs generalizing read with
  | nil =>
    rw [List.flatMap_nil, List.flatMap_nil, encoded_nil, List.nil_append, List.append_nil,
      readString]
  | cons c cs ih =>
    rw [List.flatMap_cons, encoded_append, List.append_assoc, readString_escapeChar, ih, pushChar,
      List.reverse_append, List.reverse_reverse, List.flatMap_cons, List.append_assoc]

/-- The rest of a quoted text behind its opening quote is read as the text. -/
theorem readString_text (text : String) :
    readString true [] (encoded (text.toList.flatMap escapeChar) ++ '"' :: rest) =
      (.string text, rest) := by
  -- Nothing was read in front, and the octets that are read are those of the text.
  rw [readString_flatMap, List.reverse_nil, List.nil_append, ← octets_eq, ofQuoted, textOf?_octets]
  rfl

/-- What follows a quoted text stands behind its closing quote. -/
theorem encoded_stringChars_append (text : String) :
    encoded (stringChars text) ++ rest =
      '"' :: (encoded (text.toList.flatMap escapeChar) ++ '"' :: rest) := by
  -- The two quotes are in ASCII, and what stands between them is encoded.
  rw [stringChars, encoded_cons (by decide), encoded_append_cons (by decide), encoded_nil,
    List.cons_append, List.append_assoc, List.singleton_append]

end Strings

/-- A number cannot go on in a text. -/
def NumberEnds (cs : List Char) : Prop :=
  ∀ c ∈ cs.head?, isDigit c = false ∧ c ≠ '.' ∧ c ≠ 'e' ∧ c ≠ 'E'

section Numbers

variable {rest : List Char}

/-- It cannot at the end of the text. -/
theorem numberEnds_nil : NumberEnds [] := by
  intro c next
  cases next

/-- It cannot in front of what follows an item or a member. -/
theorem numberEnds_cons {c : Char} (mark : c = ',' ∨ c = ']' ∨ c = '\x7d') (cs : List Char) :
    NumberEnds (c :: cs) := by
  intro d next
  cases next
  -- None of the three marks is a digit, a point or an exponent.
  rcases mark with rfl | rfl | rfl <;> decide

/-- Where a number ends, there is no fraction. -/
theorem readFraction?_of_noPoint (noPoint : rest.head? ≠ some '.') :
    readFraction? rest = some (none, rest) := by
  unfold readFraction?
  -- A fraction would start with a point.
  split
  · exact absurd rfl noPoint
  · rfl

/-- Where it ends, there is no exponent. -/
theorem readExponent?_of_numberEnds (ends : NumberEnds rest) :
    readExponent? rest = some (none, rest) := by
  -- An exponent would start with one of the two marks.
  cases rest with
  | nil => rfl
  | cons c rest =>
    obtain ⟨-, -, small, large⟩ := ends c rfl
    exact if_neg (not_or.mpr ⟨small, large⟩)

/-- The digits of an exponent are read as the power of ten. -/
theorem readExponent?_digits (value : Nat) (stop : NoDigitNext rest) :
    readExponent? ('e' :: (digits value ++ rest)) = some (some (value : Int), rest) := by
  have split : splitDigits (digits value ++ rest).length (digits value ++ rest) =
      (digits value, rest) := splitDigits_digits value (by simp) stop
  -- All digits are read, and they denote the value.
  have denoted := valueOf_digits value
  obtain ⟨c, front, written, digit⟩ := digits_eq_cons value
  rw [written] at split denoted ⊢
  -- The first digit is no sign.
  have notPlus : c ≠ '+' := by rintro rfl; cases digit
  have notMinus : c ≠ '-' := by rintro rfl; cases digit
  rw [List.cons_append] at split ⊢
  simp only [readExponent?, true_or, if_true, List.cons.injEq, notPlus, notMinus, false_and,
    imp_false, not_false_eq_true, implies_true, split, denoted, Bool.false_eq_true, if_false]

/-- Behind a minus they are read as its opposite. -/
theorem readExponent?_minus (value : Nat) (stop : NoDigitNext rest) :
    readExponent? ('e' :: '-' :: (digits value ++ rest)) = some (some (-(value : Int)), rest) := by
  have split : splitDigits (digits value ++ rest).length (digits value ++ rest) =
      (digits value, rest) := splitDigits_digits value (by simp) stop
  have denoted := valueOf_digits value
  -- The reader only looks for a digit behind the sign, and there is one.
  obtain ⟨c, front, written, -⟩ := digits_eq_cons value
  rw [written] at split denoted ⊢
  simp only [readExponent?, true_or, if_true, split, denoted]

/-- The exponent of a number as it is written, if it is written. -/
def exponentChars (numeral : Numeral) : List Char :=
  if numeral.whole then []
  else if numeral.scale < 0 then 'e' :: '-' :: digits numeral.scale.natAbs
  else 'e' :: digits numeral.scale.natAbs

/-- A number is written as its sign, its digits and its exponent. -/
theorem numeralChars_eq (numeral : Numeral) :
    numeralChars numeral = (if numeral.negative then ['-'] else []) ++
      (digits numeral.mantissa ++ exponentChars numeral) := by
  unfold numeralChars exponentChars
  -- Without an exponent only the sign and the digits are left.
  cases numeral.whole with
  | true => simp
  | false => by_cases negative : numeral.scale < 0 <;> simp [negative]

/-- The exponent reads back, where the number ends behind it. -/
theorem readExponent?_exponentChars (numeral : Numeral) (ends : NumberEnds rest) :
    readExponent? (exponentChars numeral ++ rest) =
      some (if numeral.whole then none else some numeral.scale, rest) := by
  have stop : NoDigitNext rest := fun c next => (ends c next).1
  -- The writer puts no sign in front of a power of ten that is not negative.
  unfold exponentChars
  split
  · exact readExponent?_of_numberEnds ends
  · split
    · next negative =>
      have opposite : -(numeral.scale.natAbs : Int) = numeral.scale := by omega
      exact (readExponent?_minus _ stop).trans (by rw [opposite])
    · next nonnegative =>
      have same : (numeral.scale.natAbs : Int) = numeral.scale := by omega
      exact (readExponent?_digits _ stop).trans (by rw [same])

/-- Neither a digit nor a point follows the digits of a number. -/
theorem exponentChars_follow (numeral : Numeral) (ends : NumberEnds rest) :
    NoDigitNext (exponentChars numeral ++ rest) ∧
      (exponentChars numeral ++ rest).head? ≠ some '.' := by
  unfold exponentChars
  -- A number that is whole ends with its digits, and otherwise the mark of the exponent comes next.
  split
  · exact ⟨fun c next => (ends c next).1, fun point => (ends '.' point).2.1 rfl⟩
  · split <;> exact ⟨noDigitNext_cons rfl _, by simp⟩

/-- The digits and the exponent of a number read back. -/
theorem readMagnitude?_chars {numeral : Numeral} (plain : numeral.isPlain = true)
    (ends : NumberEnds rest) :
    readMagnitude? numeral.negative (digits numeral.mantissa ++ (exponentChars numeral ++ rest)) =
      some (numeral, rest) := by
  obtain ⟨stop, noPoint⟩ := exponentChars_follow numeral ends
  have split := splitDigits_digits numeral.mantissa
    (show (digits numeral.mantissa).length ≤
      (digits numeral.mantissa ++ (exponentChars numeral ++ rest)).length by simp) stop
  -- The reader refuses a zero in front of further digits, and the writer writes none.
  have notPadded : ¬ ((digits numeral.mantissa).head? = some '0' ∧
      1 < (digits numeral.mantissa).length) := by
    rintro ⟨zero, more⟩
    rw [length_digits_of_head? zero] at more
    exact absurd more (by decide)
  have denoted := valueOf_digits numeral.mantissa
  obtain ⟨c, front, written, -⟩ := digits_eq_cons numeral.mantissa
  rw [written] at split notPadded denoted ⊢
  simp only [readMagnitude?, split, if_neg notPadded, readFraction?_of_noPoint noPoint,
    readExponent?_exponentChars numeral ends, Option.bind_eq_bind, Option.bind_some,
    Option.getD_none, List.append_nil, denoted]
  -- Only a number without an exponent loses its power of ten, and it has none.
  obtain ⟨negative, mantissa, scale, whole⟩ := numeral
  cases whole with
  | false => simp
  | true =>
    obtain rfl : scale = 0 := by simpa [Numeral.isPlain] using plain
    simp

/-- A number reads back, where it ends. -/
theorem readNumber_numeralChars {numeral : Numeral} (plain : numeral.isPlain = true)
    (ends : NumberEnds rest) :
    readNumber (numeralChars numeral ++ rest) = (.number numeral, rest) := by
  have magnitude := readMagnitude?_chars plain ends
  rw [numeralChars_eq, List.append_assoc, List.append_assoc]
  -- A minus is passed over, and without one the number starts with a digit.
  cases sign : numeral.negative with
  | true =>
    rw [sign] at magnitude
    simp only [if_true, List.singleton_append, readNumber, magnitude]
  | false =>
    rw [sign] at magnitude
    -- The first digit is no sign.
    obtain ⟨c, front, written, digit⟩ := digits_eq_cons numeral.mantissa
    have notMinus : c ≠ '-' := by rintro rfl; cases digit
    rw [written, List.cons_append] at magnitude ⊢
    simp only [Bool.false_eq_true, if_false, List.nil_append, readNumber, List.cons.injEq, notMinus,
      false_and, imp_false, not_false_eq_true, implies_true, magnitude]

end Numbers

mutual

/--
A value is plain when its written form keeps all of it.
It breaks off nowhere, and no text and no name in it has half a character.
-/
def isPlain : Json → Bool
  | .number numeral => numeral.isPlain
  | .array items => allPlain items
  | .object members => membersPlain members
  | .unpaired => false
  | .misnamed _ => false
  | .broken => false
  | _ => true

/-- Every value of a list is plain. -/
def allPlain : List Json → Bool
  | [] => true
  | item :: items => isPlain item && allPlain items

/-- Every value of an object is plain. -/
def membersPlain : List (String × Json) → Bool
  | [] => true
  | (_, value) :: members => isPlain value && membersPlain members

end

section Values

variable {rest : List Char}

/-- No space has to be dropped in front of a character that is none. -/
theorem dropSpaces_cons {c : Char} (visible : isSpace c = false) (cs : List Char) :
    dropSpaces (c :: cs) = c :: cs :=
  List.dropWhile_cons_of_neg (Bool.eq_false_iff.mp visible)

/-- No digit is a space. -/
theorem isSpace_of_isDigit {c : Char} (digit : isDigit c = true) : isSpace c = false := by
  simp only [isSpace, Bool.or_eq_false_iff, beq_eq_false_iff_ne]
  -- A space is none of the ten digits.
  refine ⟨⟨⟨?_, ?_⟩, ?_⟩, ?_⟩ <;> rintro rfl <;> cases digit

/-- A number starts with a minus or with a digit. -/
theorem numeralChars_start (numeral : Numeral) :
    ∃ c cs, numeralChars numeral = c :: cs ∧ (c = '-' ∨ isDigit c = true) := by
  rw [numeralChars_eq]
  -- The sign comes first where there is one.
  cases numeral.negative with
  | true => exact ⟨'-', _, rfl, .inl rfl⟩
  | false =>
    obtain ⟨c, front, written, digit⟩ := digits_eq_cons numeral.mantissa
    rw [written]
    exact ⟨c, _, rfl, .inr digit⟩

/-- A digit is in ASCII. -/
theorem toNat_lt_of_isDigit {c : Char} (digit : isDigit c = true) : c.toNat < 128 := by
  -- The digits are the characters up to nine, which are in ASCII.
  have least : c ≤ '9' := (of_decide_eq_true digit).2
  exact Nat.lt_of_le_of_lt least (by decide)

/-- A number is written in ASCII. -/
theorem encoded_numeralChars (numeral : Numeral) :
    encoded (numeralChars numeral) = numeralChars numeral := by
  refine encoded_of_ascii fun c member => ?_
  have digit {value : Nat} (member : c ∈ digits value) : c.toNat < 128 :=
    toNat_lt_of_isDigit (isDigit_of_mem_digits member)
  rw [numeralChars_eq, List.mem_append, List.mem_append] at member
  unfold exponentChars at member
  -- Besides digits there are a sign in front, the mark of an exponent and the sign behind it.
  rcases member with sign | mantissa | exponent
  · split at sign <;> simp at sign
    rw [sign]
    decide
  · exact digit mantissa
  · split at exponent
    · cases exponent
    · split at exponent <;> simp only [List.mem_cons] at exponent
      · rcases exponent with rfl | rfl | exponent
        · decide
        · decide
        · exact digit exponent
      · rcases exponent with rfl | exponent
        · decide
        · exact digit exponent

/-- No value starts with a space, and none with the end of a list. -/
theorem encoded_chars_start (json : Json) :
    ∃ c cs, encoded json.chars = c :: cs ∧ isSpace c = false ∧ c ≠ ']' := by
  -- The first character of a value tells its kind.
  cases json with
  | number numeral =>
    rw [chars, encoded_numeralChars]
    obtain ⟨c, cs, written, sign | digit⟩ := numeralChars_start numeral
    · exact ⟨c, cs, written, by rw [sign]; decide, by rw [sign]; decide⟩
    · exact ⟨c, cs, written, isSpace_of_isDigit digit, by rintro rfl; cases digit⟩
  | bool value => cases value <;> exact ⟨_, _, encoded_cons (by decide) _, by decide, by decide⟩
  | _ => exact ⟨_, _, encoded_cons (by decide) _, by decide, by decide⟩

/-- What starts like a number is read as a number. -/
theorem readValue_number {c : Char} (starts : c = '-' ∨ isDigit c = true) (fuel : Nat)
    (cs : List Char) : readValue (fuel + 1) (c :: cs) = readNumber (c :: cs) := by
  have visible : isSpace c = false := by
    rcases starts with rfl | digit
    · decide
    · exact isSpace_of_isDigit digit
  -- All other values start with a character that is neither a minus nor a digit.
  have other {mark : Char} (notMinus : mark ≠ '-') (noDigit : isDigit mark = false) :
      c ≠ mark := by
    rintro rfl
    rcases starts with sign | digit
    · exact notMinus sign
    · rw [noDigit] at digit
      cases digit
  rw [readValue, dropSpaces_cons visible]
  split <;> first
    | rfl
    | next same => exact absurd (List.cons.inj same).1 (other (by decide) (by decide))

/-- A written text is read as the text. -/
theorem readValue_stringChars (text : String) (fuel : Nat) :
    readValue (fuel + 1) (encoded (stringChars text) ++ rest) = (.string text, rest) := by
  rw [encoded_stringChars_append, readValue, dropSpaces_cons (by decide)]
  exact readString_text text

/-- So is a written name. -/
theorem readName?_stringChars (name : String) :
    readName? (dropSpaces (encoded (stringChars name) ++ rest)) = some (name, true, rest) := by
  -- The name is read like any other text, and its quotes are paired.
  rw [encoded_stringChars_append, dropSpaces_cons (by decide)]
  simp only [readName?, readString_text]

/-- One of the three words is read as its value. -/
theorem readWord_append (word : String) (value : Json) :
    readWord word value (word.toList ++ rest) = (value, rest) := by
  -- The word stands in front of what follows it.
  have found : word.toList.isPrefixOf (word.toList ++ rest) = true :=
    List.isPrefixOf_iff_prefix.mpr (List.prefix_append _ _)
  rw [readWord, if_pos found, List.drop_left]

/-- A list that is not empty starts with a character that neither is a space nor ends it. -/
theorem encoded_itemsChars_start {items : List Json} (some_ : items ≠ []) :
    ∃ c cs, encoded (itemsChars items) = c :: cs ∧ isSpace c = false ∧ c ≠ ']' := by
  -- A list starts with its first item, whatever comes after it.
  cases items with
  | nil => exact absurd rfl some_
  | cons item items =>
    obtain ⟨c, cs, written, start⟩ := encoded_chars_start item
    cases items with
    | nil => exact ⟨c, cs, written, start⟩
    | cons other items =>
      have first : encoded (itemsChars (item :: other :: items)) =
          c :: (cs ++ ',' :: encoded (itemsChars (other :: items))) := by
        rw [itemsChars, encoded_append_cons (by decide), written, List.cons_append]
        exact List.cons_ne_nil _ _
      exact ⟨c, _, first, start⟩

/-- An object that is not empty starts with a quote. -/
theorem encoded_membersChars_start {members : List (String × Json)} (some_ : members ≠ []) :
    ∃ cs, encoded (membersChars members) = '"' :: cs := by
  cases members with
  | nil => exact absurd rfl some_
  -- A member starts with its name.
  | cons member members => cases members <;> exact ⟨_, encoded_cons (by decide) _⟩

section Steps

variable {fuel : Nat} {item : Json} {items : List Json} {name : String} {value : Json}
  {members : List (String × Json)}

/-- A list reads back when its values do. -/
theorem readValue_array (some_ : items ≠ [])
    (read : readItems fuel (encoded (itemsChars items) ++ ']' :: rest) = (items, rest)) :
    readValue (fuel + 1) (encoded (array items).chars ++ rest) = (.array items, rest) := by
  -- The opening bracket is read, and the first item is no end of the list.
  obtain ⟨c, cs, written, visible, notEnd⟩ := encoded_itemsChars_start some_
  rw [chars, encoded_cons (by decide), encoded_append_cons (by decide), encoded_nil,
    List.cons_append, List.append_assoc, List.singleton_append, readValue,
    dropSpaces_cons (by decide)]
  rw [written, List.cons_append] at read ⊢
  simp only [dropSpaces_cons visible]
  split
  · next same => exact absurd (List.cons.inj same).1 notEnd
  · rw [read]

/-- An object reads back when its members do. -/
theorem readValue_object (some_ : members ≠ [])
    (read : readMembers fuel (encoded (membersChars members) ++ '\x7d' :: rest) =
      (members, rest)) :
    readValue (fuel + 1) (encoded (object members).chars ++ rest) = (.object members, rest) := by
  -- The opening brace is read, and the first name is no end of the object.
  obtain ⟨cs, written⟩ := encoded_membersChars_start some_
  have visible : isSpace '"' = false := by decide
  rw [chars, encoded_cons (by decide), encoded_append_cons (by decide), encoded_nil,
    List.cons_append, List.append_assoc, List.singleton_append, readValue,
    dropSpaces_cons (by decide)]
  rw [written, List.cons_append] at read ⊢
  simp only [dropSpaces_cons visible]
  split
  · next same => cases same
  · rw [read]

/-- The last value of a list is read up to the bracket behind it. -/
theorem readItems_last
    (read : readValue fuel (encoded item.chars ++ ']' :: rest) = (item, ']' :: rest)) :
    readItems (fuel + 1) (encoded (itemsChars [item]) ++ ']' :: rest) = ([item], rest) := by
  -- The bracket ends the list.
  have visible : isSpace ']' = false := by decide
  simp only [itemsChars, readItems, read, dropSpaces_cons visible]

/-- Any other value is read up to the comma behind it. -/
theorem readItems_cons (some_ : items ≠ [])
    (read : ∀ cs, readValue fuel (encoded item.chars ++ ',' :: cs) = (item, ',' :: cs))
    (readRest : readItems fuel (encoded (itemsChars items) ++ ']' :: rest) = (items, rest)) :
    readItems (fuel + 1) (encoded (itemsChars (item :: items)) ++ ']' :: rest) =
      (item :: items, rest) := by
  -- The comma is passed over, and the other items are read behind it.
  have visible : isSpace ',' = false := by decide
  cases items with
  | nil => exact absurd rfl some_
  | cons other items =>
    rw [itemsChars, encoded_append_cons (by decide), List.append_assoc, List.cons_append, readItems]
    · simp only [read, dropSpaces_cons visible, readRest]
    · exact some_

/-- The last member of an object is read up to the brace behind it. -/
theorem readMembers_last
    (read : readValue fuel (encoded value.chars ++ '\x7d' :: rest) = (value, '\x7d' :: rest)) :
    readMembers (fuel + 1) (encoded (membersChars [(name, value)]) ++ '\x7d' :: rest) =
      ([(name, value)], rest) := by
  -- The colon stands behind the name, and the brace behind the value.
  have colon : isSpace ':' = false := by decide
  have brace : isSpace '\x7d' = false := by decide
  rw [membersChars, encoded_append_cons (by decide), List.append_assoc, List.cons_append]
  simp only [readMembers, readName?_stringChars, dropSpaces_cons colon, read,
    dropSpaces_cons brace, if_true]

/-- Any other member is read up to the comma behind it. -/
theorem readMembers_cons (some_ : members ≠ [])
    (read : ∀ cs, readValue fuel (encoded value.chars ++ ',' :: cs) = (value, ',' :: cs))
    (readRest : readMembers fuel (encoded (membersChars members) ++ '\x7d' :: rest) =
      (members, rest)) :
    readMembers (fuel + 1) (encoded (membersChars ((name, value) :: members)) ++ '\x7d' :: rest) =
      ((name, value) :: members, rest) := by
  -- The colon stands behind the name, and the comma behind the value.
  have colon : isSpace ':' = false := by decide
  have comma : isSpace ',' = false := by decide
  cases members with
  | nil => exact absurd rfl some_
  | cons other members =>
    rw [membersChars, encoded_append_cons (by decide), encoded_append_cons (by decide),
      List.append_assoc, List.cons_append, List.append_assoc, List.cons_append]
    · simp only [readMembers, readName?_stringChars, dropSpaces_cons colon, read,
        dropSpaces_cons comma, readRest, if_true]
    · exact some_

end Steps

mutual

/-- A plain value reads back from its written form, given fuel for each character of it. -/
theorem readValue_chars (json : Json) (plain : json.isPlain = true) {fuel : Nat}
    (fuelled : json.chars.length ≤ fuel) {rest : List Char} (ends : NumberEnds rest) :
    readValue fuel (encoded json.chars ++ rest) = (json, rest) := by
  -- Without fuel there would be no character, but every value has one.
  cases fuel with
  | zero =>
    obtain ⟨c, cs, written, -⟩ := encoded_chars_start json
    rw [List.eq_nil_of_length_eq_zero (Nat.le_zero.mp fuelled), encoded_nil] at written
    cases written
  | succ fuel =>
    cases json with
    | null => exact readWord_append "null" .null
    | bool value =>
      cases value with
      | true => exact readWord_append "true" (.bool true)
      | false => exact readWord_append "false" (.bool false)
    | number numeral =>
      -- Only a number depends on what follows it.
      have read := readNumber_numeralChars plain ends
      obtain ⟨c, cs, written, starts⟩ := numeralChars_start numeral
      rw [chars, encoded_numeralChars]
      rw [written, List.cons_append] at read ⊢
      rw [readValue_number starts, read]
    | string text => exact readValue_stringChars text fuel
    | array items =>
      cases items with
      | nil => rfl
      | cons item items =>
        -- The two brackets pay for the value itself and for the end of its list.
        refine readValue_array (List.cons_ne_nil _ _) ?_
        refine readItems_itemsChars (item :: items) plain (List.cons_ne_nil _ _) ?_ rest
        simp only [chars, List.length_cons, List.length_append, List.length_nil] at fuelled
        omega
    | object members =>
      cases members with
      | nil => rfl
      | cons member members =>
        refine readValue_object (List.cons_ne_nil _ _) ?_
        refine readMembers_membersChars (member :: members) plain (List.cons_ne_nil _ _) ?_ rest
        simp only [chars, List.length_cons, List.length_append, List.length_nil] at fuelled
        omega
    -- What breaks off is not written in a way that is read back.
    | unpaired => cases plain
    | misnamed value => cases plain
    | broken => cases plain

/-- So do the values of a list, up to its closing bracket. -/
theorem readItems_itemsChars (items : List Json) (plain : allPlain items = true)
    (some_ : items ≠ []) {fuel : Nat} (fuelled : (itemsChars items).length < fuel)
    (rest : List Char) :
    readItems fuel (encoded (itemsChars items) ++ ']' :: rest) = (items, rest) := by
  cases fuel with
  | zero => exact absurd fuelled (Nat.not_lt_zero _)
  | succ fuel =>
    cases items with
    | nil => exact absurd rfl some_
    | cons item items =>
      -- The first item is plain, and so are the others.
      obtain ⟨itemPlain, itemsPlain⟩ := Bool.and_eq_true_iff.mp plain
      cases items with
      | nil =>
        refine readItems_last (readValue_chars item itemPlain ?_ (numberEnds_cons (by simp) rest))
        simp only [itemsChars] at fuelled
        omega
      | cons other items =>
        -- One unit of fuel is spent on the comma, which is a character as well.
        simp only [itemsChars, List.length_append, List.length_cons] at fuelled
        refine readItems_cons (List.cons_ne_nil _ _) (fun cs => ?_) ?_
        · exact readValue_chars item itemPlain (by omega) (numberEnds_cons (by simp) cs)
        · exact readItems_itemsChars (other :: items) itemsPlain (List.cons_ne_nil _ _)
            (by omega) rest

/-- So do the members of an object, up to its closing brace. -/
theorem readMembers_membersChars (members : List (String × Json))
    (plain : membersPlain members = true) (some_ : members ≠ []) {fuel : Nat}
    (fuelled : (membersChars members).length < fuel) (rest : List Char) :
    readMembers fuel (encoded (membersChars members) ++ '\x7d' :: rest) = (members, rest) := by
  cases fuel with
  | zero => exact absurd fuelled (Nat.not_lt_zero _)
  | succ fuel =>
    cases members with
    | nil => exact absurd rfl some_
    | cons member members =>
      -- A member is plain when its value is, and its name reads back in any case.
      obtain ⟨name, value⟩ := member
      obtain ⟨valuePlain, membersPlain⟩ := Bool.and_eq_true_iff.mp plain
      cases members with
      | nil =>
        simp only [membersChars, List.length_append, List.length_cons] at fuelled
        exact readMembers_last
          (readValue_chars value valuePlain (by omega) (numberEnds_cons (by simp) rest))
      | cons other members =>
        -- The name and its marks are characters too, so that the fuel lasts for the others.
        simp only [membersChars, List.length_append, List.length_cons] at fuelled
        refine readMembers_cons (List.cons_ne_nil _ _) (fun cs => ?_) ?_
        · exact readValue_chars value valuePlain (by omega) (numberEnds_cons (by simp) cs)
        · exact readMembers_membersChars (other :: members) membersPlain (List.cons_ne_nil _ _)
            (by omega) rest

end

/-- A plain value reads back from the text that it is written as, which ends with it. -/
theorem read_text {json : Json} (plain : json.isPlain = true) :
    read (octets json.text) = ⟨json, true⟩ := by
  -- The reader starts with more fuel than there are octets, which are no fewer than the characters.
  have fewer := length_le_length_encoded json.chars
  have whole := readValue_chars json plain
    (show json.chars.length ≤ 2 * (encoded json.chars).length + 2 by omega) numberEnds_nil
  rw [List.append_nil] at whole
  simp only [read, text, octetChars_octets, String.toList_ofList, whole]
  rfl

end Values

end Json

end CourseRegistry
