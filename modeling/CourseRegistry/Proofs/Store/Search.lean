import CourseRegistry.Proofs.Store.Listing
import CourseRegistry.Proofs.Text.Pattern

/-! A search for a text finds the subjects in whose names it occurs. -/

namespace CourseRegistry

open Text

/-- The search for a text, with nothing else asked for. -/
def SubjectQuery.named (text : String) : SubjectQuery := ⟨some text, none, none, none, none, none⟩

/-- It asks for the subjects whose names match the text. -/
theorem SubjectQuery.asksFor_named {text : String} {subject : Subject} :
    (named text).AsksFor subject ↔ nameMatches text subject.name = true := by
  -- Nothing is asked for but the text, since every other field is left out.
  constructor
  · intro asks
    exact asks.text text rfl
  · intro matched
    refine ⟨fun _ same => Option.some.inj same ▸ matched, ?_, ?_, ?_⟩
    all_goals
      intro _ none_
      cases none_

namespace Database

variable {db : Database}

/-- The search for a text that is not too long lists the stored subjects that match it. -/
theorem Reachable.listSubjects_named (reachable : db.Reachable Instant.InFourDigitYear)
    {text : String} (short : patternSize text ≤ maxPatternSize) :
    ∃ listings, db.listSubjects (.named text) = .ok listings ∧ ∀ subject,
      (∃ listing ∈ listings, listing.subject = subject) ↔
        db.getSubject subject.subjectId = .ok (some subject) ∧
          nameMatches text subject.name = true := by
  have readable := reachable.readable
  -- The pattern is within the limit, and there is neither a page nor an offset to be refused.
  have within : (SubjectQuery.named text).isWithinLimits = true := by
    simp only [SubjectQuery.isWithinLimits, SubjectQuery.named, isTooLong, Option.all_none,
      Bool.true_and, Bool.not_eq_true', decide_eq_false_iff_not, Nat.not_lt]
    exact short
  obtain ⟨listings, listed⟩ := readable.listSubjects within
  -- All listings are those of subjects that are asked for, with their counts.
  have selection : db.IsSelection (.named text) listings :=
    reachable.readings.isSelection reachable.wellFormed.unique listed
  refine ⟨listings, listed, fun subject => ?_⟩
  rw [← SubjectQuery.asksFor_named]
  constructor
  · -- A listing is that of a stored subject that the query asks for.
    rintro ⟨listing, member, rfl⟩
    obtain ⟨subject, _, found, asks, -, rfl⟩ := (selection.mem_iff listing).mp member
    exact ⟨found, asks⟩
  · -- Such a subject can be counted, so that it has a listing.
    rintro ⟨found, asks⟩
    obtain ⟨enrolled, counted, -⟩ := readable.counts subject.subjectId
    exact ⟨.ofSubject subject enrolled,
      (selection.mem_iff _).mpr ⟨subject, enrolled, found, asks, counted, rfl⟩, rfl⟩

/--
In all that can be reached, a search for a text finds the subjects in whose names it occurs.
Characters are compared without the case of ASCII letters, and wildcards stand for themselves.
U+FFFD, U+FFFE and U+FFFF are taken for one another, and everything else for itself.
-/
theorem Reachable.search_literal (reachable : db.Reachable Instant.InFourDigitYear)
    {text : String} (plain : WithoutNul text) (short : patternSize text ≤ maxPatternSize) :
    (∃ listings, db.listSubjects (.named text) = .ok listings ∧
      ∀ subject, WithoutNul subject.name →
        ((∃ listing ∈ listings, listing.subject = subject) ↔
          db.getSubject subject.subjectId = .ok (some subject) ∧
            Occurs (isAlike · ·) text.toList subject.name.toList) ∧
        (HasOnlyCharacters text → HasOnlyCharacters subject.name →
          ((∃ listing ∈ listings, listing.subject = subject) ↔
            db.getSubject subject.subjectId = .ok (some subject) ∧
              Occurs SameButCase text.toList subject.name.toList))) ∧
    ∀ c other, isWildcard c = true → (isAlike c other = true ↔ other = c) := by
  refine ⟨?_, fun c other wildcard => isAlike_of_isWildcard wildcard⟩
  -- The search answers, and what it finds are the subjects whose names match.
  obtain ⟨listings, listed, found_iff⟩ := reachable.listSubjects_named short
  refine ⟨listings, listed, fun subject namePlain => ⟨?_, fun text_is name_is => ?_⟩⟩
  · -- Without NUL characters the names that match are those in which the text occurs.
    rw [found_iff, nameMatches_iff plain namePlain]
  · -- Characters that are compared as they are differ at most in their case.
    rw [found_iff, nameMatches_characters plain namePlain text_is name_is]

section Samples

/-- The transaction that adds a subject with a name. -/
def addNamed (digit : Nat) (name : String) : Transaction :=
  ⟨.ofDigit digit, .addSubject ⟨name, 3, 2, "Spring", none, none⟩⟩

/-- The subject that it adds. -/
def namedSubject (digit : Nat) (name : String) : Subject :=
  ⟨.ofDigit digit, name, 3, 2, "Spring", none, none, (Stamp.ofDigit digit).now, []⟩

/-- A percent sign finds the name that has one, and not the other name. -/
theorem search_literal_percent :
    let db := empty.after [addNamed 1 "100% Rust", addNamed 2 "Rust 101"]
    db.Reachable Instant.InFourDigitYear ∧ WithoutNul "%" ∧
      patternSize "%" ≤ maxPatternSize ∧
      ∃ listings, db.listSubjects (.named "%") = .ok listings ∧
        (∃ listing ∈ listings, listing.subject = namedSubject 1 "100% Rust") ∧
        ¬ ∃ listing ∈ listings, listing.subject = namedSubject 2 "Rust 101" := by
  intro db
  have reachable : db.Reachable Instant.InFourDigitYear := ⟨_, by decide, rfl⟩
  have plain : WithoutNul "%" := by decide
  have short : patternSize "%" ≤ maxPatternSize := by decide
  -- The percent sign is found as itself.
  obtain ⟨⟨listings, listed, found⟩, -⟩ := reachable.search_literal plain short
  refine ⟨reachable, plain, short, listings, listed, ?_, ?_⟩
  · -- It stands behind the number.
    refine ((found _ (by decide)).1).mpr ⟨by decide +kernel, ?_⟩
    exact ⟨['1', '0', '0'], ['%'], [' ', 'R', 'u', 's', 't'], rfl, .cons rfl .nil⟩
  · -- The other name has no percent sign, so that it does not match.
    intro listed
    obtain ⟨-, occurs⟩ := ((found _ (by decide)).1).mp listed
    exact absurd ((nameMatches_iff plain (by decide)).mpr occurs) (by decide)

/-- A search for U+FFFD finds a name that has U+FFFE instead. -/
theorem search_literal_replacement :
    let db := empty.after [addNamed 1 "\ufffe"]
    db.Reachable Instant.InFourDigitYear ∧ WithoutNul "\ufffd" ∧ WithoutNul "\ufffe" ∧
      patternSize "\ufffd" ≤ maxPatternSize ∧
      (∃ listings, db.listSubjects (.named "\ufffd") = .ok listings ∧
        ∃ listing ∈ listings, listing.subject = namedSubject 1 "\ufffe") ∧
      ¬ Occurs SameButCase "\ufffd".toList "\ufffe".toList := by
  intro db
  have reachable : db.Reachable Instant.InFourDigitYear := ⟨_, by decide, rfl⟩
  have short : patternSize "\ufffd" ≤ maxPatternSize := by decide
  obtain ⟨listings, listed, found⟩ := reachable.listSubjects_named short
  refine ⟨reachable, by decide, by decide, short, ⟨listings, listed, ?_⟩, ?_⟩
  · -- Both characters are compared as the same third one.
    exact (found (namedSubject 1 "\ufffe")).mpr ⟨by decide +kernel, by decide⟩
  · rintro ⟨front, found, back, whole, same⟩
    obtain ⟨other, rest, alike, -, rfl⟩ := List.forall₂_cons_left_iff.mp same
    -- The only character of the name is not the one that is searched for.
    have member : other ∈ "\ufffe".toList := by
      rw [whole]
      simp
    obtain rfl : other = '\ufffe' := List.mem_singleton.mp member
    have differ : ¬ SameButCase '\ufffd' '\ufffe' := by decide
    exact differ alike

end Samples

end Database

end CourseRegistry
