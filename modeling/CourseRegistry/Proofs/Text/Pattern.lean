import CourseRegistry.Text.Pattern
import Mathlib.Data.List.Forall2
import Mathlib.Data.List.TakeWhile

/-! The pattern that is made of a text describes the names in which the text occurs. -/

namespace CourseRegistry.Text

/-- Some neighbouring characters of a name are those of a text, one by one. -/
def Occurs (alike : Char → Char → Prop) (text name : List Char) : Prop :=
  ∃ front found back, name = front ++ found ++ back ∧ List.Forall₂ alike text found

section Reading

open PatternPart

/-- A character that is no wildcard stands for itself. -/
theorem ofChar_of_not_isWildcard {c : Char} (plain : isWildcard c = false) :
    PatternPart.ofChar c = exactly c := by
  -- Neither of the two wildcards is the character, so that neither meaning applies.
  simp only [isWildcard, Bool.or_eq_false_iff, beq_eq_false_iff_ne] at plain
  rw [PatternPart.ofChar, if_neg plain.1.2, if_neg plain.2]

/-- What is behind a backslash stands for itself. -/
theorem parse?_backslash (c : Char) (rest : List Char) :
    parse? ('\\' :: c :: rest) = (exactly c :: ·) <$> parse? rest := by
  rw [parse?.eq_def]
  -- The backslash is taken for one wherever it is read.
  exact if_pos rfl

/-- Any other character has its own meaning. -/
theorem parse?_cons {c : Char} (other : c ≠ '\\') (rest : List Char) :
    parse? (c :: rest) = (PatternPart.ofChar c :: ·) <$> parse? rest := by
  rw [parse?.eq_def]
  exact if_neg other

/-- Escaped text is read as its characters, each of which stands for itself. -/
theorem parse?_escape (text rest : List Char) :
    parse? (escape text ++ rest) = (text.map exactly ++ ·) <$> parse? rest := by
  -- The characters of the text are escaped one by one, and read back so.
  induction text with
  | nil => exact (id_map _).symm
  | cons c text ih =>
    have step : parse? (escape (c :: text) ++ rest) =
        (exactly c :: ·) <$> parse? (escape text ++ rest) := by
      rw [escape, List.flatMap_cons, List.append_assoc, ← escape]
      cases wildcard : isWildcard c with
      -- The backslash is taken off again, also where it was put before another one.
      | true => exact parse?_backslash c _
      -- What is not escaped is no backslash, since these are.
      | false =>
        have other : c ≠ '\\' := by
          rintro rfl
          cases wildcard
        rw [← ofChar_of_not_isWildcard wildcard]
        exact parse?_cons other _
    rw [step, ih, ← comp_map]
    rfl

/-- The pattern of a search has a run, the characters of the text, and another run. -/
theorem parse?_searchPattern (text : String) :
    parse? (searchPattern text) = some (run :: (text.toList.map exactly ++ [run])) := by
  -- The percent signs around the text are not escaped, and so they are runs.
  rw [searchPattern, parse?_cons (by decide), parse?_escape]
  rfl

end Reading

section Matching

open PatternPart

/-- A text meets a condition from somewhere on where what is left of it at some place does. -/
theorem fromSomewhere_iff {holds : List Char → Bool} {name : List Char} :
    fromSomewhere holds name = true ↔ ∃ front back, name = front ++ back ∧ holds back = true := by
  induction name with
  | nil =>
    -- The empty text is its own rest.
    constructor
    · exact fun here => ⟨[], [], rfl, here⟩
    · rintro ⟨front, back, whole, here⟩
      obtain ⟨-, rfl⟩ := List.append_eq_nil_iff.mp whole.symm
      exact here
  | cons c name ih =>
    rw [fromSomewhere, Bool.or_eq_true, ih]
    constructor
    · -- It holds at once, or it holds further on.
      rintro (here | ⟨front, back, rfl, later⟩)
      · exact ⟨[], c :: name, rfl, here⟩
      · exact ⟨c :: front, back, rfl, later⟩
    · -- A place in the name is given.
      rintro ⟨front, back, whole, holds⟩
      -- The place is at the start, or it is one in the rest of the text.
      rcases List.cons_eq_append_iff.mp whole with ⟨rfl, rfl⟩ | ⟨rest, rfl, rfl⟩
      · exact .inl holds
      · exact .inr ⟨rest, back, rfl, holds⟩

/-- Any text is described by a run alone. -/
theorem describe_run (name : List Char) : describe [run] name = true :=
  fromSomewhere_iff.mpr ⟨name, [], (List.append_nil name).symm, rfl⟩

/-- Characters that stand for themselves describe the start of a text, and the rest its rest. -/
theorem describe_exactly {text : List Char} {parts : List PatternPart} {name : List Char} :
    describe (text.map exactly ++ parts) name = true ↔
      ∃ found back, name = found ++ back ∧
        List.Forall₂ (isAlike · ·) text found ∧ describe parts back = true := by
  induction text generalizing name with
  -- A text without characters describes nothing, and leaves all to the parts behind it.
  | nil => simp
  | cons c text ih =>
    cases name with
    -- Nothing is left of the name, in which no character can be found.
    | nil => simp [describe]
    | cons other name =>
      -- The first characters are compared, and what is behind them is described by the rest.
      rw [List.map_cons, List.cons_append, describe, Bool.and_eq_true, ih]
      constructor
      · -- The first characters are alike, and so are the others by the induction.
        rintro ⟨alike, found, back, rfl, others, rest⟩
        exact ⟨other :: found, back, rfl, .cons alike others, rest⟩
      · -- The piece that is found starts with the first character of the name.
        rintro ⟨found, back, whole, same, rest⟩
        obtain ⟨first, others, alike, later, rfl⟩ := List.forall₂_cons_left_iff.mp same
        obtain ⟨rfl, rfl⟩ := List.cons.inj whole
        exact ⟨alike, others, back, rfl, later, rest⟩

/-- A text between two runs describes the names in which it occurs. -/
theorem describe_between_runs {text name : List Char} :
    describe (run :: (text.map exactly ++ [run])) name = true ↔
      Occurs (isAlike · ·) text name := by
  rw [describe, fromSomewhere_iff]
  constructor
  · -- Behind the first run the text is found, and the second one describes the rest.
    rintro ⟨front, back, rfl, described⟩
    obtain ⟨found, back, rfl, same, -⟩ := describe_exactly.mp described
    exact ⟨front, found, back, (List.append_assoc front found back).symm, same⟩
  · -- What is before the text and what is behind it are described by the runs.
    rintro ⟨front, found, back, rfl, same⟩
    exact ⟨front, found ++ back, List.append_assoc front found back,
      describe_exactly.mpr ⟨found, back, rfl, same, describe_run back⟩⟩

end Matching

section Names

/-- There is no NUL character in a text. -/
def WithoutNul (text : String) : Prop := ∀ c ∈ text.toList, c.toNat ≠ 0

-- The characters of the text are gone through, and not all that there are.
instance (text : String) : Decidable (WithoutNul text) :=
  List.decidableBAll (fun c : Char => c.toNat ≠ 0) text.toList

/-- What has no NUL character does not end at one. -/
theorem beforeNul_eq_self {cs : List Char} (plain : ∀ c ∈ cs, c.toNat ≠ 0) : beforeNul cs = cs :=
  List.takeWhile_eq_self_iff.mpr fun c member => decide_eq_true (plain c member)

/-- The pattern of a search has no NUL character that is not in the text. -/
theorem searchPattern_plain {text : String} (plain : WithoutNul text) :
    ∀ c ∈ searchPattern text, c.toNat ≠ 0 := by
  intro c member
  rw [searchPattern, List.mem_cons, List.mem_append, List.mem_singleton] at member
  rcases member with rfl | escaped | rfl
  -- The percent signs are none.
  · decide
  · obtain ⟨original, original_mem, written⟩ := List.mem_flatMap.mp escaped
    -- Each character is written as itself, and some have a backslash before them.
    split at written
    · rcases List.mem_cons.mp written with rfl | same
      · decide
      · exact List.mem_singleton.mp same ▸ plain original original_mem
    · exact List.mem_singleton.mp written ▸ plain original original_mem
  · decide

/-- A search finds the names in which its text occurs. -/
theorem nameMatches_iff {text name : String} (textPlain : WithoutNul text)
    (namePlain : WithoutNul name) :
    nameMatches text name = true ↔ Occurs (isAlike · ·) text.toList name.toList := by
  -- Neither side is cut short, and the pattern is read as two runs around the text.
  rw [nameMatches, isLike, beforeNul_eq_self (searchPattern_plain textPlain),
    beforeNul_eq_self namePlain, parse?_searchPattern]
  exact describe_between_runs

end Names

section Letters

/-- Two characters are the same, or the same ASCII letter in two cases. -/
def SameButCase (a b : Char) : Prop := a.toLower = b.toLower

instance (a b : Char) : Decidable (SameButCase a b) :=
  inferInstanceAs (Decidable (a.toLower = b.toLower))

/-- Neither U+FFFE nor U+FFFF, which are compared as another character, is in a text. -/
def HasOnlyCharacters (text : String) : Prop :=
  ∀ c ∈ text.toList, c.toNat ≠ 0xFFFE ∧ c.toNat ≠ 0xFFFF

/-- All other characters are compared as they are. -/
theorem isAlike_iff {a b : Char} (a_is : a.toNat ≠ 0xFFFE ∧ a.toNat ≠ 0xFFFF)
    (b_is : b.toNat ≠ 0xFFFE ∧ b.toNat ≠ 0xFFFF) : isAlike a b = true ↔ SameButCase a b := by
  -- Neither of the two is replaced before it is compared.
  rw [isAlike, comparedAs, if_neg (not_or.mpr a_is), comparedAs, if_neg (not_or.mpr b_is),
    beq_iff_eq, SameButCase]

/-- A text occurs in the same places where its characters are compared with the same outcome. -/
theorem occurs_congr {alike other : Char → Char → Prop} {text name : List Char}
    (same : ∀ a ∈ text, ∀ b ∈ name, (alike a b ↔ other a b)) :
    Occurs alike text name ↔ Occurs other text name := by
  refine exists_congr fun front => exists_congr fun found => exists_congr fun back =>
    and_congr_right fun whole => ?_
  -- Two rows are compared in pairs, each of a character of the text and one of the name.
  rw [List.forall₂_iff_zip, List.forall₂_iff_zip]
  refine and_congr_right fun _ => forall_congr' fun a => forall_congr' fun b =>
    forall_congr' fun pair => ?_
  obtain ⟨a_mem, b_mem⟩ := List.of_mem_zip pair
  have within : b ∈ name := by
    rw [whole]
    exact List.mem_append_left back (List.mem_append_right front b_mem)
  exact same a a_mem b within

/-- Where all characters are compared as they are, a search finds them in whatever case. -/
theorem nameMatches_characters {text name : String} (textPlain : WithoutNul text)
    (namePlain : WithoutNul name) (text_is : HasOnlyCharacters text)
    (name_is : HasOnlyCharacters name) :
    nameMatches text name = true ↔ Occurs SameButCase text.toList name.toList := by
  -- It only matters how the characters of the two are compared.
  rw [nameMatches_iff textPlain namePlain]
  exact occurs_congr fun a a_mem b b_mem => isAlike_iff (text_is a a_mem) (name_is b b_mem)

/-- What comes before the letters in lower case is in lower case only where it is written so. -/
theorem eq_of_toLower_eq {c other : Char} (before : c.toNat < 97) (same : other.toLower = c) :
    other = c := by
  unfold Char.toLower at same
  split at same
  · next upper =>
    -- A capital letter is turned into one that comes later.
    have first : 65 ≤ other.val.toNat := UInt32.le_iff_toNat_le.mp upper.1
    have last : other.val.toNat ≤ 90 := UInt32.le_iff_toNat_le.mp upper.2
    have shifted : c.toNat = (other.val.toNat + 32) % 4294967296 :=
      (congrArg Char.toNat same).symm
    omega
  · -- Any other character is left as it is.
    exact same

/-- A wildcard of a text stands for itself alone. -/
theorem isAlike_of_isWildcard {c other : Char} (wildcard : isWildcard c = true) :
    isAlike c other = true ↔ other = c := by
  -- There are three wildcards, and all of this can be seen of each.
  have facts : c.toNat < 97 ∧ comparedAs c = c ∧ c.toLower = c ∧ replacement ≠ c := by
    simp only [isWildcard, Bool.or_eq_true, beq_iff_eq] at wildcard
    rcases wildcard with (rfl | rfl) | rfl <;> decide
  obtain ⟨before, compared, lower, notReplacement⟩ := facts
  rw [isAlike, compared, lower, beq_iff_eq]
  constructor
  · intro same
    have same := eq_of_toLower_eq before same.symm
    unfold comparedAs at same
    -- What is compared as a replacement is not compared as a wildcard.
    split at same
    · exact absurd same notReplacement
    · exact same
  · -- The wildcard itself is compared with itself.
    rintro rfl
    rw [compared, lower]

end Letters

end CourseRegistry.Text
