import CourseRegistry.Http.Percent
import CourseRegistry.Proofs.Text.Octets
import CourseRegistry.Proofs.Text.Lossy
import Mathlib.Data.List.TakeWhile

/-!
Forms are read as the names and values that they were written from, whatever texts these are.
A name or a value is written without ampersands and equals signs, so that the pairs come apart.
-/

namespace CourseRegistry

namespace Text

variable {α : Type} [DecidableEq α] {separator : α} {part rest : List α}

/-- Without a separator nothing is cut. -/
theorem cutAt_of_not_mem (absent : separator ∉ part) : cutAt separator part = [part] := by
  -- By induction on the part, of which every item goes to the same piece.
  induction part with
  | nil => rfl
  | cons item part ih =>
    rw [List.mem_cons, not_or] at absent
    rw [cutAt, if_neg (Ne.symm absent.1), ih absent.2]

/-- The first cut is made at the first separator. -/
theorem cutAt_append (absent : separator ∉ part) :
    cutAt separator (part ++ separator :: rest) = part :: cutAt separator rest := by
  -- The items before the separator are kept for the first piece one by one.
  induction part with
  | nil => rw [List.nil_append, cutAt, if_pos rfl]
  | cons item part ih =>
    rw [List.mem_cons, not_or] at absent
    rw [List.cons_append, cutAt, if_neg (Ne.symm absent.1), ih absent.2]

/-- Parts that were put together with separators are cut apart again. -/
theorem cutAt_intercalate {parts : List (List α)} (some_ : parts ≠ [])
    (absent : ∀ part ∈ parts, separator ∉ part) :
    cutAt separator ([separator].intercalate parts) = parts := by
  induction parts with
  | nil => exact absurd rfl some_
  -- The separator behind the first part is the first one there is, and the others are cut after it.
  | cons part parts ih =>
    have first := absent part List.mem_cons_self
    cases parts with
    | nil => rw [List.intercalate_singleton, cutAt_of_not_mem first]
    | cons other parts =>
      have others := ih nofun fun part member => absent part (List.mem_cons_of_mem _ member)
      rw [List.intercalate_cons_cons, List.append_assoc, List.singleton_append,
        cutAt_append first, others]

end Text

namespace Http

open Text

/-- An octet other than a percent sign stands for itself. -/
theorem percentDecode_cons_of_ne {octet : UInt8} (plain : octet ≠ 0x25) (rest : List UInt8) :
    percentDecode (octet :: rest) = octet :: percentDecode rest := by
  -- Only of a percent sign more than one octet is taken, if there are two behind it.
  match rest with
  | [] | [_] => rfl
  | high :: low :: rest => rw [percentDecode, if_neg plain]

/-- The octet of a character of ASCII. -/
def asciiOctet (c : Char) : UInt8 := UInt8.ofNat c.toNat

/-- A plus is a space. -/
def unplus (octet : UInt8) : UInt8 := if octet = 0x2B then 0x20 else octet

/-- The digit of a value is read as the value, and it is no plus. -/
theorem hexOctet?_upperHexChar {value : Nat} (small : value < 16) :
    unplus (asciiOctet (upperHexChar value)) = asciiOctet (upperHexChar value) ∧
      hexOctet? (asciiOctet (upperHexChar value)) = some (UInt8.ofNat value) := by
  -- There are sixteen digits to look at.
  have all : ∀ value < 16,
      unplus (asciiOctet (upperHexChar value)) = asciiOctet (upperHexChar value) ∧
        hexOctet? (asciiOctet (upperHexChar value)) = some (UInt8.ofNat value) := by decide
  exact all value small

/-- An octet is put together from its two digits. -/
theorem digits_octet (octet : UInt8) :
    16 * UInt8.ofNat (octet.toNat / 16) + UInt8.ofNat (octet.toNat % 16) = octet := by
  -- The two halves carry no more than the octet, so that nothing runs over.
  have := octet.toNat_lt
  rw [← UInt8.toNat_inj]
  simp only [UInt8.toNat_add, UInt8.toNat_mul, UInt8.toNat_ofNat', UInt8.reduceToNat]
  omega

/-- An octet that stands for itself is none of those that do not. -/
theorem ne_of_standsInForm {octet mark : UInt8} (stands : standsInForm octet = true)
    (isMark : standsInForm mark = false) : octet ≠ mark := by
  rintro rfl
  cases stands.symm.trans isMark

/-- An octet in a form is read as the octet. -/
theorem percentDecode_formOctet (octet : UInt8) (rest : List UInt8) :
    percentDecode ((formOctet octet).map (unplus ∘ asciiOctet) ++ rest) =
      octet :: percentDecode rest := by
  unfold formOctet
  split
  · -- A space is written as a plus.
    next space =>
    have plus : unplus (asciiOctet '+') = 0x20 := by decide
    rw [List.map_singleton, Function.comp_apply, plus, List.singleton_append, space,
      percentDecode_cons_of_ne (by decide)]
  · split
    -- A letter, a digit or a sign is written as itself, and it is none of the two that are read
    -- anew.
    · next stands =>
      have noPlus : octet ≠ 0x2B := ne_of_standsInForm stands (by decide)
      have plain : octet ≠ 0x25 := ne_of_standsInForm stands (by decide)
      rw [List.map_singleton, Function.comp_apply, asciiOctet, ofNat_toNat_ofNat, unplus,
        if_neg noPlus, List.singleton_append, percentDecode_cons_of_ne plain]
    · -- Any other octet is written with a percent sign and two digits, none of which is a plus.
      have bound := octet.toNat_lt
      have percent : unplus (asciiOctet '%') = 0x25 := by decide
      obtain ⟨high, isHigh⟩ :=
        hexOctet?_upperHexChar (show octet.toNat / 16 < 16 by omega)
      obtain ⟨low, isLow⟩ := hexOctet?_upperHexChar (show octet.toNat % 16 < 16 by omega)
      simp only [List.map_cons, List.map_nil, Function.comp_apply, percent, high, low]
      rw [List.cons_append, List.cons_append, List.singleton_append, percentDecode, if_pos rfl,
        isHigh, isLow]
      exact congrArg (· :: percentDecode rest) (digits_octet octet)

/-- A character of ASCII that parts neither a form nor a pair in it. -/
def IsFormChar (c : Char) : Prop := c.toNat < 128 ∧ asciiOctet c ≠ 0x26 ∧ asciiOctet c ≠ 0x3D

/-- An octet that stands for itself is such a character. -/
theorem isFormChar_of_standsInForm {octet : UInt8} (stands : standsInForm octet = true) :
    IsFormChar (Char.ofNat octet.toNat) := by
  have small : octet.toNat < 128 := by
    -- Of the signs each is looked at; for letters and digits the bounds are enough.
    have signs : "*-._".toList.all (·.toNat < 128) = true := by decide
    simp only [standsInForm, Bool.or_eq_true, Bool.and_eq_true, decide_eq_true_eq,
      UInt8.le_iff_toNat_le, UInt8.reduceToNat, List.contains_iff_mem] at stands
    rcases stands with ((digit | upper) | lower) | sign
    · omega
    · omega
    · omega
    · rw [← toNat_ofNat_toNat]
      exact of_decide_eq_true (List.all_eq_true.mp signs _ sign)
  rw [IsFormChar, asciiOctet, ofNat_toNat_ofNat, toNat_ofNat_toNat]
  exact ⟨small, ne_of_standsInForm stands (by decide), ne_of_standsInForm stands (by decide)⟩

/-- A name or a value in a form has no other characters. -/
theorem isFormChar_of_mem {part : String} {c : Char} (member : c ∈ formPartChars part) :
    IsFormChar c := by
  -- A digit is a number or a letter, and no mark of a form.
  have digit : ∀ value < 16, IsFormChar (upperHexChar value) := by
    unfold IsFormChar
    decide
  obtain ⟨octet, -, member⟩ := List.mem_flatMap.mp member
  unfold formOctet at member
  split at member
  · -- A space is a plus, which parts nothing.
    obtain rfl := List.mem_singleton.mp member
    exact ⟨by decide, by decide, by decide⟩
  · split at member
    -- What stands for itself was seen above.
    · next stands =>
      obtain rfl := List.mem_singleton.mp member
      exact isFormChar_of_standsInForm stands
    · -- Of three characters the first is a percent sign and the others are digits.
      have bound := octet.toNat_lt
      simp only [List.mem_cons, List.not_mem_nil, or_false] at member
      rcases member with rfl | rfl | rfl
      · exact ⟨by decide, by decide, by decide⟩
      · exact digit _ (by omega)
      · exact digit _ (by omega)

/-- The octets of a name or a value in a form. -/
def formPartOctets (part : String) : List UInt8 := (formPartChars part).map asciiOctet

/-- A name or a value is read from a form as it was written. -/
theorem formPart_formPartOctets (part : String) : formPart (formPartOctets part) = part := by
  -- The octets are read one at a time, each from as many characters as it was written with.
  have decoded (octets : List UInt8) :
      percentDecode ((octets.flatMap formOctet).map (unplus ∘ asciiOctet)) = octets := by
    induction octets with
    | nil => rfl
    | cons octet octets ih =>
      rw [List.flatMap_cons, List.map_append, percentDecode_formOctet, ih]
  have same : (formPartOctets part).map (fun octet => if octet = 0x2B then 0x20 else octet) =
      ((octets part).flatMap formOctet).map (unplus ∘ asciiOctet) := List.map_map
  -- The octets are those of a text, so that nothing is lost by reading them as one.
  rw [formPart, same, decoded, Text.lossy, octets_eq, Text.lossyFrom_flatMap, String.ofList_toList]

/-- A pair in a form. -/
def formPairOctets (pair : String × String) : List UInt8 :=
  formPartOctets pair.1 ++ 0x3D :: formPartOctets pair.2

/-- A pair in a form is cut at its equals sign. -/
theorem formPairOctets_read (pair : String × String) :
    (formPart ((formPairOctets pair).takeWhile (· ≠ 0x3D)),
      formPart (((formPairOctets pair).dropWhile (· ≠ 0x3D)).drop 1)) = pair := by
  -- The name has no equals sign, so that the first one is the one between name and value.
  have passed : ∀ octet ∈ formPartOctets pair.1, decide (octet ≠ 0x3D) = true := by
    intro octet member
    obtain ⟨c, isIn, rfl⟩ := List.mem_map.mp member
    exact decide_eq_true (isFormChar_of_mem isIn).2.2
  rw [formPairOctets, List.takeWhile_append_of_pos passed, List.dropWhile_append_of_pos passed]
  simp [formPart_formPartOctets]

/-- A pair in a form has no ampersand. -/
theorem not_mem_formPairOctets (pair : String × String) : 0x26 ∉ formPairOctets pair := by
  -- Neither the name nor the value has one, and the sign between them is another.
  have absent (part : String) : 0x26 ∉ formPartOctets part := by
    intro member
    obtain ⟨c, isIn, same⟩ := List.mem_map.mp member
    exact (isFormChar_of_mem isIn).2.1 same
  rw [formPairOctets, List.mem_append, List.mem_cons]
  rintro (inName | same | inValue)
  · exact absent _ inName
  · exact absurd same (by decide)
  · exact absent _ inValue

/-- The octets of a form have its pairs between ampersands. -/
theorem octets_formText (pairs : List (String × String)) :
    octets (formText pairs) = [0x26].intercalate (pairs.map formPairOctets) := by
  -- All characters are of ASCII, so that each is one octet.
  have ofPart (part : String) :
      octets (String.ofList (formPartChars part)) = formPartOctets part :=
    octets_ofList fun _ member => (isFormChar_of_mem member).1
  have ofPair (pair : String × String) :
      octets (String.ofList (formPartChars pair.1 ++ '=' :: formPartChars pair.2)) =
        formPairOctets pair := by
    have equals : octets (String.ofList ['=']) = [0x3D] := by decide +kernel
    rw [List.append_cons, octets_ofList_append, octets_ofList_append, ofPart, ofPart, equals,
      List.append_assoc, List.singleton_append, formPairOctets]
  have ampersand : octets (String.ofList ['&']) = [0x26] := by decide +kernel
  rw [formText]
  -- An ampersand stands behind each pair but the last.
  induction pairs with
  | nil => decide +kernel
  | cons pair pairs ih =>
    cases pairs with
    | nil =>
      rw [List.map_singleton, List.intercalate_singleton, ofPair, List.map_singleton,
        List.intercalate_singleton]
    | cons other pairs =>
      simp only [List.map_cons, List.intercalate_cons_cons] at ih ⊢
      rw [octets_ofList_append, octets_ofList_append, ofPair, ih, ampersand]

/-- The names and values of a form are those that it was written from. -/
theorem formPairs_formText (pairs : List (String × String)) :
    formPairs (octets (formText pairs)) = pairs := by
  rw [formPairs, octets_formText]
  cases pairs with
  -- An empty form is one empty part, which does not count as a pair.
  | nil => rfl
  | cons pair pairs =>
    -- No part has an ampersand and none is empty, so that they come apart and all of them count.
    have parts : ∀ part ∈ (pair :: pairs).map formPairOctets, 0x26 ∉ part := by
      intro part member
      obtain ⟨written, -, rfl⟩ := List.mem_map.mp member
      exact not_mem_formPairOctets written
    have kept : ∀ part ∈ (pair :: pairs).map formPairOctets, (!part.isEmpty) = true := by
      intro part member
      obtain ⟨written, -, rfl⟩ := List.mem_map.mp member
      simp [formPairOctets]
    rw [Text.cutAt_intercalate (by simp) parts, List.filter_eq_self.mpr kept, List.map_map]
    exact List.map_id'' formPairOctets_read _

section Size

/-- Of one octet no more than three characters are made. -/
theorem length_formPartOctets_le (part : String) :
    (formPartOctets part).length ≤ 3 * part.utf8ByteSize := by
  -- A space and what stands for itself are one character, anything else is three.
  have one (octet : UInt8) : (formOctet octet).length ≤ 3 := by
    unfold formOctet
    split
    · decide
    · split <;> simp
  rw [formPartOctets, List.length_map, formPartChars, ← length_octets]
  induction octets part with
  | nil => decide
  | cons octet octets ih =>
    have first := one octet
    rw [List.flatMap_cons, List.length_append, List.length_cons]
    omega

/-- A form of short names and values is short: of each octet it has no more than three. -/
theorem length_octets_formText_le {size : Nat} {pairs : List (String × String)}
    (short : ∀ pair ∈ pairs, pair.1.utf8ByteSize ≤ size ∧ pair.2.utf8ByteSize ≤ size) :
    (octets (formText pairs)).length ≤ pairs.length * (6 * size + 2) := by
  rw [octets_formText]
  induction pairs with
  | nil => exact Nat.zero_le _
  | cons pair pairs ih =>
    obtain ⟨shortName, shortValue⟩ := short pair List.mem_cons_self
    have behind := ih fun other member => short other (List.mem_cons_of_mem _ member)
    -- Name and value have three characters for each octet, and there is the sign between them.
    have front : (formPairOctets pair).length ≤ 6 * size + 1 := by
      have name := length_formPartOctets_le pair.1
      have value := length_formPartOctets_le pair.2
      rw [formPairOctets, List.length_append, List.length_cons]
      omega
    rw [List.length_cons, Nat.succ_mul]
    cases pairs with
    | nil =>
      rw [List.map_singleton, List.intercalate_singleton]
      omega
    | cons other pairs =>
      -- One more octet parts a pair from the next one.
      simp only [List.map_cons, List.intercalate_cons_cons, List.length_append,
        List.length_singleton] at behind ⊢
      omega

end Size

end Http

end CourseRegistry
