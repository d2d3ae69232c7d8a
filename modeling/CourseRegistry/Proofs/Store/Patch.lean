import CourseRegistry.Proofs.Store.Answer
import CourseRegistry.Proofs.Store.Seats
import CourseRegistry.Proofs.Store.Written

/-!
A subject is changed in part.
What a patch sets is replaced and all else stays, and two patches in a row are like a single one.
-/

namespace CourseRegistry

open Database

namespace SubjectPatch

/-- One patch and then another as a single one; what both of them set is as the later one says. -/
def followedBy (first second : SubjectPatch) : SubjectPatch where
  name := second.name.or first.name
  credits := second.credits.or first.credits
  capacity := second.capacity.or first.capacity
  semester := second.semester.or first.semester
  professorId := second.professorId.or first.professorId
  departmentId := second.departmentId.or first.departmentId

/-- A patch is valid when the number of seats and the name are, where it sets them. -/
theorem validate_eq_ok {patch : SubjectPatch} : patch.validate = .ok () ↔
    (∀ capacity ∈ patch.capacity, checkCapacity capacity = .ok ()) ∧
      ∀ name ∈ patch.name, checkSubjectName name = .ok () := by
  obtain ⟨name, credits, capacity, semester, professorId, departmentId⟩ := patch
  -- A number of seats or a name that is not set is not checked either.
  cases capacity <;> cases name <;> simp [validate, bind_eq_ok, Unique.exists_iff]

variable {first second : SubjectPatch}

/-- Two patches that are valid are valid as a single one. -/
theorem validate_followedBy (valid : first.validate = .ok ()) (next : second.validate = .ok ()) :
    (first.followedBy second).validate = .ok () := by
  rw [validate_eq_ok] at valid next ⊢
  -- Whatever is set is what one of the two patches sets.
  constructor
  · intro capacity set
    rcases Option.or_eq_some_iff.mp set with set | ⟨-, set⟩
    · -- The later patch sets the number of seats.
      exact next.1 capacity set
    · -- What the later one leaves alone is as the first one sets it.
      exact valid.1 capacity set
  · intro name set
    rcases Option.or_eq_some_iff.mp set with set | ⟨-, set⟩
    · exact next.2 name set
    · exact valid.2 name set

/-- A row is changed by the single patch as it is by one after the other. -/
theorem patched_followedBy (row : SubjectRow) :
    patched (first.followedBy second) row = patched second (patched first row) := by
  -- The later of two writes is the one that stays.
  simp only [patched, followedBy, Option.map_or, Option.getD_or]

end SubjectPatch

/-- A reference that the later of two patches leaves alone is the one that the first one sets. -/
theorem join_or_eq_some {first second : Option (Option Uuid)} {id : Uuid}
    (set : (second.or first).join = some id) : second.join = some id ∨ first.join = some id := by
  cases second with
  -- The later patch leaves the reference alone.
  | none => exact .inr set
  -- Otherwise what it says is all that matters.
  | some reference => exact .inl set

namespace Database

variable {db : Database} {id : Uuid} {row : SubjectRow}

section Twice

variable {first second : SubjectPatch}

/-- All keys are still there when the row of a subject is replaced. -/
theorem hasKey_withSubject (isIt : row.subjectId = .ofId id) (entity : Entity) (cell : Cell) :
    (db.withSubject id row).hasKey entity cell = db.hasKey entity cell := by
  rw [Bool.eq_iff_iff, hasKey_iff, hasKey_iff]
  cases entity with
  | subject =>
    -- The keys of the subjects are the same, since the row has the same one.
    have same : (db.withSubject id row).keys .subject = db.keys .subject := map_key_replaceRow isIt
    rw [same]
  | _ => exact Iff.rfl

/-- The second of two rows for a subject is the one that stays. -/
theorem withSubject_withSubject (isIt : row.subjectId = .ofId id) (next : SubjectRow) :
    (db.withSubject id row).withSubject id next = db.withSubject id next :=
  congrArg (fun subjects => { db with subjects })
    -- The row of the first change has the key, so the second change replaces it.
    (replaceRow_replaceRow (·.subjectId == .ofId id) (beq_iff_eq.mpr isIt) next db.subjects)

/-- A row that takes one patch and then another takes both of them as a single one. -/
theorem Takes.followedBy (takes : db.Takes id first row)
    (takesNext : (db.withSubject id (patched first row)).Takes id second (patched first row)) :
    db.Takes id (first.followedBy second) row := by
  have isIt : (patched first row).subjectId = .ofId id := (mem_of_find?_key takes.found).2
  -- What can be referred to after the first change could be referred to before it.
  have keys : ∀ entity cell, (db.withSubject id (patched first row)).hasKey entity cell =
      db.hasKey entity cell := hasKey_withSubject isIt
  have each := (checkReferences_eq_ok db).mp takes.checked
  have eachNext := (checkReferences_eq_ok _).mp takesNext.checked
  simp only [has, keys] at each eachNext
  refine ⟨SubjectPatch.validate_followedBy takes.valid takesNext.valid, takes.found, ?_, ?_⟩
  · -- Each reference that is set is one that one of the two patches sets.
    refine (checkReferences_eq_ok db).mpr fun entity target member => ?_
    simp only [List.mem_cons, Prod.mk.injEq, List.not_mem_nil, or_false] at member
    rcases member with ⟨rfl, set⟩ | ⟨rfl, set⟩
    · rcases join_or_eq_some set.symm with set | set
      · exact eachNext .professor target (by simp [set])
      · exact each .professor target (by simp [set])
    · rcases join_or_eq_some set.symm with set | set
      · exact eachNext .department target (by simp [set])
      · exact each .department target (by simp [set])
  · -- The row that is stored in the end is the same one.
    have sound := takesNext.sound
    simp only [isSound, isReference, keys] at sound ⊢
    rwa [SubjectPatch.patched_followedBy]

/-- Two patches that are made in a row are like a single one. -/
theorem updateSubject_followedBy {once twice : Subject}
    (answered : (updateSubject id first db).1 = .ok (some once))
    (answeredNext : (updateSubject id second (updateSubject id first db).2).1 = .ok (some twice)) :
    updateSubject id (first.followedBy second) db =
      updateSubject id second (updateSubject id first db).2 := by
  obtain ⟨row, takes⟩ := takes_of_some answered
  rw [takes.updateSubject] at answeredNext ⊢
  obtain ⟨changed, takesNext⟩ := takes_of_some answeredNext
  -- The second patch finds the row that the first one has left.
  have isIt : (patched first row).subjectId = .ofId id := (mem_of_find?_key takes.found).2
  have same : patched first row = changed :=
    Option.some.inj ((find?_replaceRow takes.found isIt).symm.trans takesNext.found)
  subst same
  rw [takesNext.updateSubject, (takes.followedBy takesNext).updateSubject,
    withSubject_withSubject isIt, SubjectPatch.patched_followedBy]

end Twice

section Reads

variable {clock : Instant → Prop} {patch : SubjectPatch} {subject : Subject}

/-- What a changed subject reads as is the change to what it read as before. -/
theorem Takes.exists_old (takes : db.Takes id patch row) (written : row.IsWritten clock)
    (read : (db.withSubject id (patched patch row)).getSubject id = .ok (some subject)) :
    ∃ old, db.getSubject id = .ok (some old) ∧ subject = patch.applied old := by
  -- The row was made from a subject, whose cells are read again except for those that are set.
  obtain ⟨stored, -, rfl⟩ := written
  rw [takes.getSubject, readRow?_eq_ok] at read
  obtain ⟨readable, decoded⟩ := read
  obtain ⟨-, meetings⟩ := Bool.and_eq_true_iff.mp readable
  obtain ⟨schedule, scheduled, decoded⟩ := bind_eq_ok.mp decoded
  -- Neither the meetings nor the instant are touched, so that both were read before as well.
  change (patched patch (.ofSubject stored)).decode schedule = .ok subject at decoded
  rw [patched_ofSubject, SubjectRow.decode_ofSubject_eq_ok] at decoded
  obtain ⟨createdAt, instant, rfl⟩ := decoded
  refine ⟨{ stored with createdAt, schedule }, ?_, rfl⟩
  -- The old row is read in the same way, cell by cell.
  rw [Database.getSubject, takes.found, Option.map_some, readRow?_eq_ok]
  refine ⟨Bool.and_eq_true_iff.mpr ⟨SubjectRow.isReadable_ofSubject stored, meetings⟩, ?_⟩
  exact bind_eq_ok.mpr
    ⟨schedule, scheduled, SubjectRow.decode_ofSubject_eq_ok.mpr ⟨createdAt, instant, rfl⟩⟩

end Reads

/--
In all that can be reached, a change that is answered with a subject is made to its row alone.
The answer is what is read from then on: the old subject with what the patch sets in its place.
Two such changes in a row leave what the single patch of both leaves, with the same answer.
-/
theorem Reachable.updateSubject_exact {clock : Instant → Prop} (reachable : db.Reachable clock)
    (id : Uuid) :
    (∀ patch subject, (updateSubject id patch db).1 = .ok (some subject) →
      (∃ old, db.getSubject id = .ok (some old) ∧ subject = patch.applied old) ∧
        (updateSubject id patch db).2.getSubject id = .ok (some subject) ∧
        ∃ row rows, row.subjectId = .ofId id ∧
          IsReplaced row (patched patch row) db.subjects rows ∧
          (updateSubject id patch db).2 = { db with subjects := rows }) ∧
      ∀ first second once twice, (updateSubject id first db).1 = .ok (some once) →
        (updateSubject id second (updateSubject id first db).2).1 = .ok (some twice) →
          updateSubject id (first.followedBy second) db =
            updateSubject id second (updateSubject id first db).2 := by
  refine ⟨fun patch subject answered => ?_, fun _ _ _ _ => updateSubject_followedBy⟩
  obtain ⟨row, takes⟩ := takes_of_some answered
  obtain ⟨member, isIt⟩ := mem_of_find?_key takes.found
  -- The row that is found was written, and it is the only one with its key.
  have written := reachable.written.subjects row member
  have replaced := isReplaced_replaceRow reachable.wellFormed.unique.subjectKeys takes.found
    (patched patch row)
  rw [takes.updateSubject] at answered ⊢
  exact ⟨takes.exists_old written answered, answered, row, _, isIt, replaced, rfl⟩

/-- After the sample, a subject gets a name and a professor, and then loses the professor again. -/
theorem updateSubject_exact_sample :
    let db := empty.after (sampleRun ++ [⟨.ofDigit 9, .addProfessor ⟨"Grace", none, none⟩⟩])
    let named : SubjectPatch := ⟨some "Logic", none, none, none, some (some (.ofDigit 9)), none⟩
    let vacant : SubjectPatch := ⟨none, some 4, none, none, some none, none⟩
    let slot : MeetingSlot := ⟨.ofDigit 5, .ofDigit 4, .monday, ⟨.ofHour 10, .ofHour 11⟩, none⟩
    let once : Subject := ⟨.ofDigit 4, "Logic", 3, 2, "Spring", some (.ofDigit 9), none,
      (Stamp.ofDigit 4).now, [slot]⟩
    db.Reachable Instant.InFourDigitYear ∧
      (updateSubject (.ofDigit 4) named db).1 = .ok (some once) ∧
      (updateSubject (.ofDigit 4) vacant (updateSubject (.ofDigit 4) named db).2).1 =
        .ok (some { once with credits := 4, professorId := none }) ∧
      (∃ old, db.getSubject (.ofDigit 4) = .ok (some old) ∧ once = named.applied old) ∧
      updateSubject (.ofDigit 4) (named.followedBy vacant) db =
        updateSubject (.ofDigit 4) vacant (updateSubject (.ofDigit 4) named db).2 := by
  intro db named vacant slot once
  have reachable : db.Reachable Instant.InFourDigitYear := ⟨_, by decide, rfl⟩
  have answered : (updateSubject (.ofDigit 4) named db).1 = .ok (some once) := by decide +kernel
  have answeredNext :
      (updateSubject (.ofDigit 4) vacant (updateSubject (.ofDigit 4) named db).2).1 =
        .ok (some { once with credits := 4, professorId := none }) := by decide +kernel
  -- Both answers are those of the theorem, at the tables of the run.
  obtain ⟨each, both⟩ := reachable.updateSubject_exact (.ofDigit 4)
  exact ⟨reachable, answered, answeredNext, (each named once answered).1,
    both named vacant _ _ answered answeredNext⟩

end Database

end CourseRegistry
