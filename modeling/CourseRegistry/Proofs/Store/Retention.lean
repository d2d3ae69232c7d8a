import CourseRegistry.Proofs.Store.Replacement
import CourseRegistry.Proofs.Store.Success
import Mathlib.Data.List.Induction

/-!
What a student signs in against.
Along a run it is what was given last, by the request that added the student or by a later change.
-/

namespace CourseRegistry

open Database

/-- A change to a student was answered with the student. -/
def isAnswered : Except StoreError (Option Student) → Bool
  | .ok student => student.isSome
  | .error _ => false

/-- A change to a student was made; it may have failed, but only to read the instant afterwards. -/
def isMade : Except StoreError (Option Student) → Bool
  | .ok student => student.isSome
  | .error error => error == .malformedInstant

/-- What a student is given to sign in against by a request for a new one; it may be nothing. -/
def givenToNew? (id : Uuid) (input : NewStudent) :
    Except StoreError Student → Option (Option String)
  | .ok student => if student.studentId = id then some input.passwordHash else none
  | .error _ => none

/-- What a student is given to sign in against by a request for a change, where that counts. -/
def givenByChange? (counts : Except StoreError (Option Student) → Bool) (id other : Uuid)
    (input : NewStudent) (answer : Except StoreError (Option Student)) : Option (Option String) :=
  if other = id ∧ counts answer = true then input.passwordHash.map some else none

/-- What a student is given to sign in against, told from a request and its answer. -/
def Operation.hashGiven? (counts : Except StoreError (Option Student) → Bool) (id : Uuid) :
    (operation : Operation) → Except StoreError operation.Answer → Option (Option String)
  | addStudent input, answer => givenToNew? id input answer
  | updateStudent other input, answer => givenByChange? counts id other input answer
  | _, _ => none

/-- What a student is given to sign in against by a transaction. -/
def Transaction.hashGiven? (counts : Except StoreError (Option Student) → Bool) (id : Uuid)
    (db : Database) (transaction : Transaction) : Option (Option String) :=
  transaction.operation.hashGiven? counts id (transaction.answer db)

/-- What a student is given to sign in against along a run, in the order in which it is given. -/
def Database.hashesGiven (counts : Except StoreError (Option Student) → Bool) (id : Uuid)
    (run : List Transaction) : List (Option String) :=
  empty.observed (Transaction.hashGiven? counts id) run

/-- Each stored student has the hash that is remembered for the identifier. -/
def Database.Remembers (db : Database) (last : Uuid → Option (Option String)) : Prop :=
  ∀ row ∈ db.students, ∀ id, row.studentId = .ofId id →
    ∃ hash, row.passwordHash = .ofOption .text hash ∧ last id = some hash

section Steps

variable {clock : Instant → Prop} {db : Database}

/-- The row of a student fails to be read for its instant at most. -/
theorem isMade_decode (student : Student) (hash : Option String) :
    isMade (some <$> (StudentRow.ofStudent student hash).decode) = true := by
  simp only [StudentRow.decode, StudentRow.ofStudent, Cell.readInstant, Cell.readId_ofId,
    Cell.readText_text, Cell.readOption_ofOption_ofId, Cell.readOption_ofOption_text, ok_bind,
    Cell.ofInstant]
  -- All other cells read back, so that the instant decides.
  cases Instant.ofStored? student.createdAt.stored with
  | none => rfl
  | some instant => rfl

/-- A change to a student is not made, or the row is replaced and read again for the answer. -/
theorem updateStudent_cases (written : db.Written clock) (id : Uuid) (input : NewStudent) :
    (isMade (updateStudent id input db).1 = false ∧ (updateStudent id input db).2 = db) ∨
      ∃ stored hash, stored.studentId = id ∧ .ofStudent stored hash ∈ db.students ∧
        updateStudent id input db =
          (some <$> (StudentRow.ofStudent (input.applied stored)
            (input.passwordHash.or hash)).decode,
          { db with
            students := replaceRow (·.studentId == .ofId id)
              (.ofStudent (input.applied stored) (input.passwordHash.or hash)) db.students }) := by
  unfold updateStudent
  split
  · exact .inl ⟨rfl, rfl⟩
  · next row found =>
    split
    · next error failed =>
      -- A reference to nothing is reported as such, and the change is not made.
      obtain ⟨entity, missing, rfl⟩ := exists_of_checkReferences_error db failed
      exact .inl ⟨rfl, rfl⟩
    · split
      · exact .inl ⟨rfl, rfl⟩
      · -- All checks have passed, and the row is replaced, whatever it reads as.
        obtain ⟨member, isIt⟩ := mem_of_find?_key found
        obtain ⟨stored, hash, -, rfl⟩ := written.students row member
        dsimp only
        rw [StudentRow.replaced_ofStudent rfl input, if_pos (StudentRow.isReadable_ofStudent ..)]
        exact .inr ⟨stored, hash, Cell.ofId_inj.mp isIt, member, rfl⟩

/-- A request that writes the record of a student. -/
def Operation.writesStudent : Operation → Bool
  | addStudent _ | updateStudent .. => true
  | _ => false

/-- No other request gives a student anything to sign in against. -/
theorem Operation.hashGiven?_eq_none {operation : Operation}
    (other : operation.writesStudent = false) (id : Uuid)
    (answer : Except StoreError operation.Answer) :
    operation.hashGiven? isMade id answer = none := by
  cases operation with
  | addStudent | updateStudent => cases other
  | _ => rfl

/-- It leaves students with what they sign in against, if it leaves them. -/
theorem Effect.exists_credentials {stamp : Stamp} {changed : Database} {operation : Operation}
    (effect : Effect stamp db operation changed) (other : operation.writesStudent = false)
    {row : StudentRow} (member : row ∈ changed.students) :
    ∃ old ∈ db.students, old.studentId = row.studentId ∧ old.passwordHash = row.passwordHash := by
  cases effect with
  | studentAdded | studentUpdated => cases other
  -- A student who loses the department keeps the identifier and the hash.
  | departmentDeleted =>
    obtain ⟨old, old_mem, rfl⟩ := List.mem_map.mp member
    exact ⟨old, old_mem, rfl, rfl⟩
  -- Those who stay were there before.
  | studentDeleted => exact ⟨row, (List.mem_filter.mp member).1, rfl, rfl⟩
  | _ => exact ⟨row, member, rfl, rfl⟩

variable {last : Uuid → Option (Option String)} (remembers : db.Remembers last)

include remembers

/-- A new student is remembered with what the request gives. -/
theorem remembers_addStudent (stamp : Stamp) (input : NewStudent) :
    (addStudent stamp input db).2.Remembers fun id =>
      (givenToNew? id input (addStudent stamp input db).1).or (last id) := by
  cases answered : (addStudent stamp input db).1 with
  -- A request that is refused gives nothing, and the tables are as before.
  | error error =>
    rcases addStudent_answer stamp db input with same | ⟨student, made⟩
    · rw [same]
      exact remembers
    · rw [answered] at made
      cases made
  | ok student =>
    obtain ⟨newId, -, added⟩ := addStudent_of_ok answered
    rw [added]
    intro row member id isIt
    rcases List.mem_append.mp member with before | new
    · -- The identifier of the new student is not that of any other.
      have other : student.studentId ≠ id := by
        rintro rfl
        exact not_mem_keys newId (List.mem_map.mpr ⟨row, before, isIt⟩)
      dsimp only [givenToNew?]
      rw [if_neg other]
      exact remembers row before id isIt
    · -- The new student has the hash of the request, if there is one.
      obtain rfl := List.mem_singleton.mp new
      dsimp only [givenToNew?]
      rw [if_pos (Cell.ofId_inj.mp isIt)]
      exact ⟨input.passwordHash, rfl, rfl⟩

/-- A changed student is remembered with the hash that is given, or else with the one before. -/
theorem remembers_updateStudent (written : db.Written clock) (id : Uuid) (input : NewStudent) :
    (updateStudent id input db).2.Remembers fun other =>
      (givenByChange? isMade other id input (updateStudent id input db).1).or (last other) := by
  rcases updateStudent_cases written id input with
    ⟨notMade, same⟩ | ⟨stored, hash, rfl, member, outcome⟩
  · -- A change that is not made gives nothing.
    simp only [givenByChange?, notMade, Bool.false_eq_true, and_false, if_false, Option.none_or]
    rw [same]
    exact remembers
  · simp only [outcome, givenByChange?, isMade_decode, and_true]
    intro row changed other isIt
    dsimp only
    rcases eq_or_not_of_mem_replaceRow changed with rfl | ⟨before, apart⟩
    · -- Of the student who is changed, it depends on whether a hash is given.
      have same : stored.studentId = other := Cell.ofId_inj.mp isIt
      rw [if_pos same]
      cases input.passwordHash with
      | none => exact remembers _ member other isIt
      | some given => exact ⟨some given, rfl, rfl⟩
    · -- All other students keep what they had.
      have different : stored.studentId ≠ other := by
        rintro rfl
        exact apart (beq_iff_eq.mpr isIt)
      rw [if_neg different]
      exact remembers row before other isIt

/-- A transaction leads to tables that remember what it gives, and all else as before. -/
theorem Database.Remembers.apply (written : db.Written clock) (transaction : Transaction) :
    (transaction.apply db).Remembers fun id =>
      (transaction.hashGiven? isMade id db).or (last id) := by
  obtain ⟨stamp, operation⟩ := transaction
  cases writes : operation.writesStudent with
  | true =>
    cases operation with
    | addStudent input => exact remembers_addStudent remembers stamp input
    | updateStudent id input => exact remembers_updateStudent remembers written id input
    | _ => cases writes
  -- Whoever is there afterwards was there before, with the same hash.
  | false =>
    intro row member id isIt
    obtain ⟨old, old_mem, sameId, sameHash⟩ :=
      (operation.step_effect stamp db).exists_credentials writes member
    obtain ⟨hash, stored, remembered⟩ := remembers old old_mem id (sameId.trans isIt)
    refine ⟨hash, sameHash.symm.trans stored, ?_⟩
    dsimp only [Transaction.hashGiven?]
    rw [Operation.hashGiven?_eq_none writes, Option.none_or, remembered]

end Steps

namespace Database

/-- After a run, each student has the hash that was given last. -/
theorem remembers_after (run : List Transaction) :
    (empty.after run).Remembers fun id => (hashesGiven isMade id run).getLast? := by
  -- The induction is on the last transaction, which finds what the others have left.
  induction run using List.reverseRecOn with
  | nil => exact List.forall_mem_nil _
  | append_singleton run transaction ih =>
    have reachable : (empty.after run).Reachable fun _ => True := ⟨run, fun _ _ => trivial, rfl⟩
    have remembers := Remembers.apply ih reachable.written transaction
    -- What is given last is what the last transaction gives, or else what was given before it.
    have longer (id : Uuid) : (hashesGiven isMade id (run ++ [transaction])).getLast? =
        (transaction.hashGiven? isMade id (empty.after run)).or
          (hashesGiven isMade id run).getLast? := by
      rw [hashesGiven, observed_concat, List.getLast?_append]
      cases Transaction.hashGiven? isMade id (empty.after run) transaction <;> rfl
    rw [after_concat, funext longer]
    exact remembers

section Plain

variable {db : Database} (written : db.Written Instant.IsReading)

include written

/-- Where instants read back, a change to a student that is made is answered with the student. -/
theorem isMade_eq_isAnswered (id : Uuid) (input : NewStudent) :
    isMade (updateStudent id input db).1 = isAnswered (updateStudent id input db).1 := by
  rcases updateStudent_cases written id input with
    ⟨notMade, -⟩ | ⟨stored, hash, rfl, member, outcome⟩
  · -- A change that is not made is not answered with a student either.
    cases answered : (updateStudent id input db).1 with
    | ok student => rfl
    | error error => rwa [answered] at notMade
  · -- The instant of the changed row is that of the old one, which reads back.
    obtain ⟨-, old, decoded⟩ := (written.students _ member).readsBack
    obtain ⟨createdAt, read, -⟩ := StudentRow.decode_ofStudent_eq_ok.mp decoded
    have changed : (StudentRow.ofStudent (input.applied stored)
        (input.passwordHash.or hash)).decode = .ok { input.applied stored with createdAt } :=
      StudentRow.decode_ofStudent_eq_ok.mpr ⟨createdAt, read, rfl⟩
    rw [outcome, changed]
    rfl

/-- So it makes no difference which of these changes count. -/
theorem hashGiven?_isMade_eq (id : Uuid) (transaction : Transaction) :
    transaction.hashGiven? isMade id db = transaction.hashGiven? isAnswered id db := by
  obtain ⟨stamp, operation⟩ := transaction
  cases operation with
  | updateStudent other input =>
    have same := isMade_eq_isAnswered written other input
    change givenByChange? isMade id other input (updateStudent other input db).1 =
      givenByChange? isAnswered id other input (updateStudent other input db).1
    rw [givenByChange?, same, givenByChange?]
  | _ => rfl

end Plain

/-- In the years of four digits, what is given along a run is what was answered with success. -/
theorem hashesGiven_isMade_eq {run : List Transaction}
    (plain : ∀ transaction ∈ run, transaction.stamp.now.InFourDigitYear) (id : Uuid) :
    hashesGiven isMade id run = hashesGiven isAnswered id run := by
  induction run using List.reverseRecOn with
  | nil => rfl
  | append_singleton run transaction ih =>
    have before (other : Transaction) (member : other ∈ run) : other.stamp.now.InFourDigitYear :=
      plain other (List.mem_append_left _ member)
    have reachable : (empty.after run).Reachable Instant.InFourDigitYear := ⟨run, before, rfl⟩
    -- The tables before the last transaction were reached at such instants as well.
    have earlier := ih before
    rw [hashesGiven, hashesGiven] at earlier ⊢
    rw [observed_concat, observed_concat, earlier, hashGiven?_isMade_eq reachable.readings]

/--
Along any run, records are replaced as a whole, and a student signs in against what was given last:
by the request that added the student or by a change that was made, also where it failed afterwards.
In the years of four digits, where all instants read back, no change that was made fails.
-/
theorem records_replaced (run : List Transaction) :
    (∀ id, (empty.after run).Replaces id) ∧
      (∀ id, (empty.after run).has .student id = true →
        ∃ number hash, (empty.after run).studentLogin number = .ok (some ⟨id, hash⟩)) ∧
      (∀ number login, (empty.after run).studentLogin number = .ok (some login) →
        (hashesGiven isMade login.studentId run).getLast? = some login.passwordHash) ∧
      ((∀ transaction ∈ run, transaction.stamp.now.InFourDigitYear) →
        ∀ id, hashesGiven isMade id run = hashesGiven isAnswered id run) := by
  have reachable : (empty.after run).Reachable fun _ => True := ⟨run, fun _ _ => trivial, rfl⟩
  refine ⟨reachable.replaces, fun id exists_ => ?_, fun number login found => ?_,
    hashesGiven_isMade_eq⟩
  · -- A student who exists signs in under the number of the row.
    obtain ⟨row, member, isIt⟩ := List.any_eq_true.mp exists_
    obtain ⟨student, hash, -, rfl⟩ := reachable.written.students row member
    obtain rfl := Cell.ofId_inj.mp (beq_iff_eq.mp isIt)
    exact ⟨_, hash, studentLogin_of_mem reachable.wellFormed.unique member⟩
  · -- What is found for signing in is stored in a row, and the row has what was given last.
    obtain ⟨row, member, -, isIt, stored⟩ := reachable.written.exists_row_of_studentLogin found
    obtain ⟨hash, remembered, last⟩ := remembers_after run row member login.studentId isIt
    obtain rfl := Cell.ofOption_text_inj.mp (stored.symm.trans remembered)
    exact last

/-- A student is given a new number first, and only then something else to sign in against. -/
theorem records_replaced_sample :
    let renamed : NewStudent := ⟨"2", "Ada", none, none, none⟩
    let run : List Transaction := [
      ⟨.ofDigit 1, .addStudent ⟨"1", "Ada", none, none, some "old"⟩⟩,
      ⟨.ofDigit 2, .updateStudent (.ofDigit 1) renamed⟩,
      ⟨.ofDigit 3, .updateStudent (.ofDigit 1) { renamed with passwordHash := some "new" }⟩]
    (∀ transaction ∈ run, transaction.stamp.now.InFourDigitYear) ∧
      (empty.after run).has .student (.ofDigit 1) = true ∧
      (empty.after run).studentLogin "1" = .ok none ∧
      (empty.after run).studentLogin "2" = .ok (some ⟨.ofDigit 1, some "new"⟩) ∧
      (hashesGiven isMade (.ofDigit 1) run).getLast? = some (some "new") ∧
      hashesGiven isMade (.ofDigit 1) run = hashesGiven isAnswered (.ofDigit 1) run ∧
      (empty.after run).Replaces (.ofDigit 1) := by
  intro renamed run
  have plain : ∀ transaction ∈ run, transaction.stamp.now.InFourDigitYear := by decide
  have login : (empty.after run).studentLogin "2" = .ok (some ⟨.ofDigit 1, some "new"⟩) := by
    decide +kernel
  obtain ⟨replaces, -, last, same⟩ := records_replaced run
  exact ⟨plain, by decide +kernel, by decide +kernel, login, last "2" _ login,
    same plain (.ofDigit 1), replaces (.ofDigit 1)⟩

-- A student added in a later year: the change fails, and yet what they sign in against is the new.
example :
    let added : Transaction := ⟨⟨.ofDigit 1, ⟨⟨10000, 1, 1, by decide⟩, .ofHour 0⟩⟩,
      .addStudent ⟨"1", "Ada", none, none, some "old"⟩⟩
    let input : NewStudent := ⟨"1", "Ada", none, none, some "new"⟩
    let run : List Transaction := [added, ⟨.ofDigit 2, .updateStudent (.ofDigit 1) input⟩]
    (updateStudent (.ofDigit 1) input (empty.after [added])).1 = .error .malformedInstant ∧
      (hashesGiven isAnswered (.ofDigit 1) run).getLast? = some (some "old") ∧
      (empty.after run).studentLogin "1" = .ok (some ⟨.ofDigit 1, some "new"⟩) := by
  decide +kernel

end Database

end CourseRegistry
