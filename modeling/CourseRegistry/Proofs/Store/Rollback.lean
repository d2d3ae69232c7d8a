import CourseRegistry.Proofs.Store.Damage

/-!
What becomes of an update that fails.
The answer to an update is what the changed row reads as, so that a damaged row makes it fail. Where
the damage shows only when the change was kept, the update has failed and the change stays.
-/

namespace CourseRegistry

open Database

namespace Operation

/--
What an update finds wrong with what it reads back and has not written.
Of a subject, these are the cells that the patch leaves alone and the meetings; of any other record
it is the instant since when the record is there.
-/
def damage? (db : Database) : Operation → Option Damage
  | updateDepartment id _ => (db.departments.find? (·.departmentId == .ofId id)).bind
    (·.createdAt.instantDamage?)
  | updateProfessor id _ => (db.professors.find? (·.professorId == .ofId id)).bind
    (·.createdAt.instantDamage?)
  | updateRoom id _ => (db.rooms.find? (·.roomId == .ofId id)).bind (·.createdAt.instantDamage?)
  | updateStudent id _ => (db.students.find? (·.studentId == .ofId id)).bind
    (·.createdAt.instantDamage?)
  | updateSubject id patch => (db.subjects.find? (·.subjectId == .ofId id)).bind fun row =>
    Damage.worst ((Offering.of db row).damages patch)
  | _ => none

/-- An update takes its change back for a cell of the wrong shape, if it looks for that first. -/
def takesBack : Operation → Damage → Bool
  | updateProfessor .., .shape | updateStudent .., .shape => true
  | _, _ => false

end Operation

/-- The record that an update is about reads back, if there is one. -/
def Operation.IsLegible (db : Database) : Operation → Prop
  | updateDepartment id _ => ∀ row, db.departments.find? (·.departmentId == .ofId id) = some row →
    ReadsBack DepartmentRow.isReadable DepartmentRow.decode row
  | updateProfessor id _ => ∀ row, db.professors.find? (·.professorId == .ofId id) = some row →
    ReadsBack ProfessorRow.isReadable ProfessorRow.decode row
  | updateRoom id _ => ∀ row, db.rooms.find? (·.roomId == .ofId id) = some row →
    ReadsBack RoomRow.isReadable RoomRow.decode row
  | updateStudent id _ => ∀ row, db.students.find? (·.studentId == .ofId id) = some row →
    ReadsBack StudentRow.isReadable StudentRow.decode row
  -- A subject is read with its meetings.
  | updateSubject id _ => ∀ offering,
    (db.subjects.find? (·.subjectId == .ofId id)).map (Offering.of db) = some offering →
      ReadsBack Offering.isReadable Offering.decode offering
  | _ => True

/--
How an update ends on any tables, by its checks and by the damage of the row that it finds.
The change stays although the update fails wherever the damage is not looked for first.
-/
structure EndsByDamage {α : Type} (passes : Prop) (damage? : Option Damage)
    (takesBack : Damage → Bool) (changed db : Database)
    (outcome : Except StoreError α × Database) : Prop where
  refused : ¬ passes → outcome.2 = db
  made : passes → damage? = none → (∃ answer, outcome.1 = .ok answer) ∧ outcome.2 = changed
  failed : passes → ∀ damage, damage? = some damage →
    (∃ error, outcome.1 = .error error) ∧ outcome.2 = if takesBack damage then db else changed

section Changes

variable {α ρ : Type} {isReadable : ρ → Bool} {decode : ρ → Except StoreError α} {found? : Option ρ}
  {change : ρ → ρ} {passes : Prop} {looksFirst : Bool} {changed db : Database}
  {damage? : Option Damage} {takesBack : Damage → Bool}

/-- Whatever ends so is unchanged after a failure where the damage is looked for, or is none. -/
theorem EndsByDamage.unchanged_iff {outcome : Except StoreError α × Database}
    (ends : EndsByDamage passes damage? takesBack changed db outcome) :
    (∀ error, outcome.1 = .error error → outcome.2 = db) ↔
      (passes → ∀ damage, damage? = some damage → takesBack damage = true ∨ changed = db) := by
  constructor
  · -- A change that stays after a failure is one only where it makes a difference.
    intro unchanged passed damage damaged
    obtain ⟨⟨error, failed⟩, after⟩ := ends.failed passed damage damaged
    cases back : takesBack damage with
    | true => exact .inl rfl
    | false =>
      -- The tables after the failure are the changed ones, and those before it as well.
      rw [back, if_neg Bool.false_ne_true] at after
      exact .inr (after.symm.trans (unchanged error failed))
  · -- What fails has failed a check, or by a damage for which nothing is changed.
    intro spared error failed
    by_cases passed : passes
    · cases damaged : damage? with
      | none =>
        obtain ⟨⟨answer, answered⟩, -⟩ := ends.made passed damaged
        cases failed.symm.trans answered
      | some damage =>
        obtain ⟨-, after⟩ := ends.failed passed damage damaged
        rw [after]
        rcases spared passed damage damaged with back | same
        · rw [if_pos back]
        · rw [same, ite_self]
    · exact ends.refused passed

variable {outcome : Except StoreError (Option α) × Database}

/-- An update of one row ends by the damage of that row, as it is after the change. -/
theorem IsUpdate.endsByDamage
    (update : IsUpdate isReadable decode found? change passes looksFirst changed db outcome)
    (damaged : ∀ row, found? = some row →
      damage? = CourseRegistry.damage? isReadable decode (change row))
    (shape : takesBack .shape = looksFirst) (content : takesBack .content = false) :
    EndsByDamage passes damage? takesBack changed db outcome := by
  by_cases passed : passes
  · obtain ⟨row, found⟩ := update.found passed
    have ends := update.made passed row found
    rw [damaged row found, CourseRegistry.damage?]
    refine ⟨fun fails => absurd passed fails, fun _ none_ => ?_, fun _ damage some_ => ?_⟩
    · -- A row without damage is read, and it makes no difference whether it is looked at first.
      obtain ⟨readable, record, decoded⟩ := damage?_eq_none.mp none_
      rw [ends, readable, Bool.not_true, Bool.and_false, if_neg Bool.false_ne_true, readRow?,
        if_pos readable, decoded]
      exact ⟨⟨_, rfl⟩, rfl⟩
    · cases readable : isReadable (change row) with
      | false =>
        -- The shape is what is looked at first, if anything is.
        rw [readable, if_neg Bool.false_ne_true] at some_
        obtain rfl := Option.some.inj some_
        rw [ends, readable, shape, readRow?, readable]
        cases looksFirst <;> exact ⟨⟨_, rfl⟩, rfl⟩
      | true =>
        -- What a cell holds is only looked at when the change was kept.
        rw [readable, if_pos rfl] at some_
        rw [ends, readable, Bool.not_true, Bool.and_false, if_neg Bool.false_ne_true, readRow?,
          if_pos readable]
        split at some_
        · cases some_
        · next cause decoded =>
          obtain rfl := Option.some.inj some_
          rw [content, decoded]
          exact ⟨⟨cause, rfl⟩, rfl⟩
  · -- An update that fails a check is refused, whatever the damage.
    exact ⟨fun _ => update.unchanged passed, fun passed' => absurd passed' passed,
      fun passed' => absurd passed' passed⟩

end Changes

/-- Each update ends by the damage of the row that it finds. -/
theorem Operation.endsByDamage {operation : Operation} (update : operation.isUpdate = true)
    (stamp : Stamp) (db : Database) :
    EndsByDamage (operation.Passes db) (operation.damage? db) operation.takesBack
      (operation.changed db) db (operation.step stamp db) := by
  cases operation with
  | updateDepartment id input =>
    refine (updateDepartment_isUpdate db id input).endsByDamage (fun row found => ?_) rfl rfl
    -- Only the instant is read and not written.
    rw [DepartmentRow.damage?_renamed (mem_of_find?_key found).2, damage?, found, Option.bind_some]
  | updateProfessor id input =>
    refine (updateProfessor_isUpdate db id input).endsByDamage (fun row found => ?_) rfl rfl
    rw [ProfessorRow.damage?_replaced (mem_of_find?_key found).2, damage?, found, Option.bind_some]
  | updateRoom id input =>
    refine (updateRoom_isUpdate db id input).endsByDamage (fun row found => ?_) rfl rfl
    rw [RoomRow.damage?_replaced (mem_of_find?_key found).2, damage?, found, Option.bind_some]
  | updateStudent id input =>
    refine (updateStudent_isUpdate db id input).endsByDamage (fun row found => ?_) rfl rfl
    rw [StudentRow.damage?_replaced (mem_of_find?_key found).2, damage?, found, Option.bind_some]
  | updateSubject id patch =>
    refine (updateSubject_isUpdate db id patch).endsByDamage (fun offering isIt => ?_) rfl rfl
    -- A subject is read with all that the patch leaves alone.
    obtain ⟨row, found, rfl⟩ := Option.map_eq_some_iff.mp isIt
    have key : (Offering.of db row).subject.subjectId = .ofId id := (mem_of_find?_key found).2
    rw [Offering.damage?_patched key, damage?, found, Option.bind_some]
  -- Nothing else is an update.
  | _ => cases update

/-- A record that reads back is still in order after a change. -/
theorem Operation.damage?_of_isLegible {operation : Operation} {db : Database}
    (legible : operation.IsLegible db) : operation.damage? db = none := by
  -- Only what was there before can be damaged, and it was read as well.
  cases operation with
  | updateDepartment id input =>
    refine Option.bind_eq_none_iff.mpr fun row found => ?_
    rw [← DepartmentRow.damage?_renamed (mem_of_find?_key found).2 input]
    exact damage?_eq_none.mpr (DepartmentRow.readsBack_renamed (legible row found) input)
  | updateProfessor id input =>
    -- The identifier and the instant are the cells of a professor that stay.
    refine Option.bind_eq_none_iff.mpr fun row found => ?_
    rw [← ProfessorRow.damage?_replaced (mem_of_find?_key found).2 input]
    exact damage?_eq_none.mpr (ProfessorRow.readsBack_replaced (legible row found) input)
  | updateRoom id input =>
    refine Option.bind_eq_none_iff.mpr fun row found => ?_
    rw [← RoomRow.damage?_replaced (mem_of_find?_key found).2 input]
    exact damage?_eq_none.mpr (RoomRow.readsBack_replaced (legible row found) input)
  | updateStudent id input =>
    refine Option.bind_eq_none_iff.mpr fun row found => ?_
    rw [← StudentRow.damage?_replaced (mem_of_find?_key found).2 input]
    exact damage?_eq_none.mpr (StudentRow.readsBack_replaced (legible row found) input)
  | updateSubject id patch =>
    -- A subject reads back with its meetings, which no patch touches.
    refine Option.bind_eq_none_iff.mpr fun row found => ?_
    have key : (Offering.of db row).subject.subjectId = .ofId id := (mem_of_find?_key found).2
    rw [← Offering.damage?_patched key]
    exact damage?_eq_none.mpr
      (Offering.readsBack_patched (legible _ (congrArg (Option.map _) found)) patch)
  | _ => rfl

/--
On any tables, an update that fails changes nothing where the record reads back before it.
In general it ends by the damage of what it reads back without having written it.
A professor's and a student's are looked at for cells of the wrong shape before the change is kept.
All other damage shows after that, and the change stays, unless it makes no difference.
-/
theorem Operation.update_unchanged_iff {operation : Operation} (update : operation.isUpdate = true)
    (stamp : Stamp) (db : Database) :
    EndsByDamage (operation.Passes db) (operation.damage? db) operation.takesBack
        (operation.changed db) db (operation.step stamp db) ∧
      ((∀ error, (operation.step stamp db).1 = .error error → (operation.step stamp db).2 = db) ↔
        (operation.Passes db → ∀ damage, operation.damage? db = some damage →
          operation.takesBack damage = true ∨ operation.changed db = db)) ∧
      (operation.IsLegible db → ∀ error, (operation.step stamp db).1 = .error error →
        (operation.step stamp db).2 = db) := by
  have ends := operation.endsByDamage update stamp db
  refine ⟨ends, ends.unchanged_iff, fun legible => ?_⟩
  -- Without damage there is nothing that an update could fail by after its checks.
  refine ends.unchanged_iff.mpr fun _ damage damaged => ?_
  rw [operation.damage?_of_isLegible legible] at damaged
  cases damaged

section Sample

/--
Two departments, of which the second was made yesterday, and a subject that has many credits.
The one word was put where an instant should be, and the other where a number should be.
-/
def illegibleSample : Database :=
  let db := empty.after [⟨.ofDigit 1, .addDepartment ⟨"Mathematics"⟩⟩,
    ⟨.ofDigit 2, .addDepartment ⟨"Physics"⟩⟩,
    ⟨.ofDigit 3, .addSubject ⟨"Logic", 3, 2, "Spring", none, none⟩⟩]
  { db with
    departments := db.departments.map fun row =>
      if row.departmentId = .ofId (.ofDigit 2) then { row with createdAt := .text "yesterday" }
      else row
    subjects := db.subjects.map fun row => { row with credits := .text "many" } }

/-- There, the first department cannot take the name of the second, and nothing changes. -/
theorem update_unchanged_sample :
    let operation : Operation := .updateDepartment (.ofDigit 1) ⟨"Physics"⟩
    operation.isUpdate = true ∧ operation.IsLegible illegibleSample ∧
      ∃ error, (operation.step (.ofDigit 9) illegibleSample).1 = .error error ∧
        (operation.step (.ofDigit 9) illegibleSample).2 = illegibleSample := by
  intro operation
  have legible : operation.IsLegible illegibleSample := by
    intro row found
    -- The row that is found is still the one that was written.
    have written : row.IsWritten Instant.IsReading :=
      ⟨⟨.ofDigit 1, "Mathematics", (Stamp.ofDigit 1).now⟩, by decide,
        Option.some.inj (found.symm.trans (by decide +kernel))⟩
    exact written.readsBack
  -- The name is that of the second department.
  have failed : (updateDepartment (.ofDigit 1) ⟨"Physics"⟩ illegibleSample).1 =
      .error (.duplicate .departmentName "Physics") := by decide +kernel
  have unchanged := Operation.update_unchanged_iff (show operation.isUpdate = true from rfl)
    (.ofDigit 9) illegibleSample
  exact ⟨rfl, legible, _, failed, unchanged.2.2 legible _ failed⟩

/-- The second department and the subject get their new names, though each update fails. -/
theorem update_changed_sample :
    let named := updateDepartment (.ofDigit 2) ⟨"Chemistry"⟩ illegibleSample
    let patched := updateSubject (.ofDigit 3) ⟨some "Set theory", none, none, none, none, none⟩
      illegibleSample
    named.1 = .error .malformedInstant ∧ named.2 ≠ illegibleSample ∧
      named.2.departments.map (·.name) = [.text "Mathematics", .text "Chemistry"] ∧
    patched.1 = .error .database ∧ patched.2 ≠ illegibleSample ∧
      patched.2.subjects.map (·.name) = [.text "Set theory"] := by
  decide +kernel

end Sample

end CourseRegistry
