import CourseRegistry.Proofs.Store.Update

/-!
What is wrong with a row that cannot be read.
A row is read in two passes, and its damage is that of the first pass in which one of its cells
fails. Of a row that was changed, only those cells can be damaged that the change left alone.
-/

namespace CourseRegistry

open Database

/-- What is wrong with a row, or with a cell of it. -/
inductive Damage where
  /-- It has the wrong shape, which shows as soon as it is looked for. -/
  | shape
  /-- It has the right shape, but what it holds is no part of a record. -/
  | content
deriving DecidableEq

/-- What is wrong with a row, or with a cell, if anything is. -/
def damage? {α ρ : Type} (isReadable : ρ → Bool) (decode : ρ → Except StoreError α) (row : ρ) :
    Option Damage :=
  if isReadable row then
    match decode row with
    | .ok _ => none
    | .error _ => some .content
  else some .shape

/-- What is wrong with several cells together: the shapes of all of them are looked at first. -/
def Damage.worst (damages : List (Option Damage)) : Option Damage :=
  if some .shape ∈ damages then some .shape
  else if some .content ∈ damages then some .content
  else none

section Rows

variable {α ρ : Type} {isReadable : ρ → Bool} {decode : ρ → Except StoreError α} {row : ρ}

/-- The shape is not wrong where it is right. -/
theorem damage?_ne_shape : damage? isReadable decode row ≠ some .shape ↔ isReadable row = true := by
  unfold damage?
  cases isReadable row with
  -- Without the right shape the damage is the shape.
  | false => simp
  -- With it the damage is of what is held, if there is any.
  | true => cases decode row <;> simp

/-- With the right shape, what is held is not wrong where it reads as something. -/
theorem damage?_ne_content (readable : isReadable row = true) :
    damage? isReadable decode row ≠ some .content ↔ ∃ record, decode row = .ok record := by
  rw [damage?, if_pos readable]
  cases decode row <;> simp

/-- A row without damage reads back. -/
theorem damage?_eq_none :
    damage? isReadable decode row = none ↔ ReadsBack isReadable decode row := by
  unfold damage? ReadsBack
  cases isReadable row with
  | false => simp
  | true => cases decode row <;> simp

/-- A row fails in each pass in which one of its cells fails. -/
theorem damage?_eq_worst {damages : List (Option Damage)}
    (shaped : isReadable row = true ↔ some .shape ∉ damages)
    (legible : isReadable row = true →
      ((∃ record, decode row = .ok record) ↔ some .content ∉ damages)) :
    damage? isReadable decode row = Damage.worst damages := by
  unfold damage? Damage.worst
  by_cases readable : isReadable row = true
  · -- No cell has the wrong shape, and the row reads where no cell has the wrong content.
    rw [if_pos readable, if_neg (shaped.mp readable)]
    cases decoded : decode row with
    | ok record => rw [if_neg ((legible readable).mp ⟨record, decoded⟩)]
    | error cause =>
      -- Were the content of every cell in order, the row would have been read.
      have failed : some Damage.content ∈ damages := by
        by_contra absent
        obtain ⟨record, read⟩ := (legible readable).mpr absent
        cases decoded.symm.trans read
      rw [if_pos failed]
  · -- A row of the wrong shape has a cell of the wrong shape.
    rw [if_neg readable, if_pos (not_not.mp (mt shaped.mpr readable))]

end Rows

namespace Cell

/-- What is wrong with a cell that holds an instant. -/
def instantDamage? (cell : Cell) : Option Damage := damage? isText readInstant cell

/-- What is wrong with a cell, unless something is written in its place. -/
def damageUnless? {α β : Type} (set : Option β) (isShaped : Cell → Bool)
    (read : Cell → Except StoreError α) (cell : Cell) : Option Damage :=
  if set.isSome then none else damage? isShaped read cell

/-- A cell has no damage after something was written, and the same one if nothing was. -/
theorem damage?_getD_map {α β : Type} {isShaped : Cell → Bool} {read : Cell → Except StoreError α}
    {write : β → Cell} (back : ∀ value, ReadsBack isShaped read (write value)) (set : Option β)
    (cell : Cell) :
    damage? isShaped read ((set.map write).getD cell) = damageUnless? set isShaped read cell := by
  cases set with
  | none => rfl
  -- What is written reads back.
  | some value => exact damage?_eq_none.mpr (back value)

end Cell

section Changed

variable {α β : Type} {id : Uuid}

/-- Two steps succeed where the first does and the second does after it. -/
theorem exists_bind_eq_ok {first : Except StoreError α} {next : α → Except StoreError β} :
    (∃ result, first >>= next = .ok result) ↔
      ∃ value, first = .ok value ∧ ∃ result, next value = .ok result := by
  simp only [bind_eq_ok]
  exact ⟨fun ⟨result, value, head, rest⟩ => ⟨value, head, result, rest⟩,
    fun ⟨value, head, result, rest⟩ => ⟨result, value, head, rest⟩⟩

/-- A list of rows reads where each of them does. -/
theorem exists_mapM_eq_ok {ρ : Type} {decode : ρ → Except StoreError α} {rows : List ρ} :
    (∃ records, rows.mapM decode = .ok records) ↔
      ∀ row ∈ rows, ∃ record, decode row = .ok record := by
  refine ⟨fun ⟨records, read⟩ row member => ?_, mapM_eq_ok⟩
  obtain ⟨record, -, decoded⟩ := exists_of_mapM read member
  exact ⟨record, decoded⟩

/-- A row of which all but one cell are in order is damaged like that cell. -/
theorem damage?_eq_of_cell {ρ : Type} {isReadable : ρ → Bool} {decode : ρ → Except StoreError α}
    {row : ρ} {isShaped : Cell → Bool} {read : Cell → Except StoreError β} {cell : Cell}
    (shaped : isReadable row = isShaped cell)
    (legible : (∃ record, decode row = .ok record) ↔ ∃ value, read cell = .ok value) :
    damage? isReadable decode row = damage? isShaped read cell := by
  unfold damage?
  -- The shapes agree, and in the second pass both fail or neither does.
  rw [shaped]
  cases decoded : decode row with
  | ok record =>
    obtain ⟨value, value_eq⟩ := legible.mp ⟨record, decoded⟩
    rw [value_eq]
  | error cause =>
    cases value_eq : read cell with
    | ok value =>
      obtain ⟨record, record_eq⟩ := legible.mpr ⟨value, value_eq⟩
      cases decoded.symm.trans record_eq
    | error other => rfl

/-- Of a department with another name only the instant can be damaged. -/
theorem DepartmentRow.damage?_renamed {row : DepartmentRow} (isIt : row.departmentId = .ofId id)
    (input : NewDepartment) :
    damage? isReadable decode (row.renamed input) = row.createdAt.instantDamage? := by
  -- The identifier is the one that was looked for, and the name was written.
  refine damage?_eq_of_cell ?_ ?_
  · simp [isReadable, renamed, isIt]
  · simp [decode, renamed, isIt, exists_bind_eq_ok, pure_eq_ok]

/-- So it is with a professor whose record was replaced. -/
theorem ProfessorRow.damage?_replaced {row : ProfessorRow} (isIt : row.professorId = .ofId id)
    (input : NewProfessor) :
    damage? isReadable decode (row.replaced input) = row.createdAt.instantDamage? := by
  -- The name, the address and the department were written.
  refine damage?_eq_of_cell ?_ ?_
  · simp [isReadable, replaced, isIt]
  · simp [decode, replaced, isIt, exists_bind_eq_ok, pure_eq_ok]

/-- So it is with a room. -/
theorem RoomRow.damage?_replaced {row : RoomRow} (isIt : row.roomId = .ofId id)
    (input : NewRoom) :
    damage? isReadable decode (row.replaced input) = row.createdAt.instantDamage? := by
  -- The name and the building were written.
  refine damage?_eq_of_cell ?_ ?_
  · simp [isReadable, replaced, isIt]
  · simp [decode, replaced, isIt, exists_bind_eq_ok, pure_eq_ok]

/-- So it is with a student. -/
theorem StudentRow.damage?_replaced {row : StudentRow} (isIt : row.studentId = .ofId id)
    (input : NewStudent) :
    damage? isReadable decode (row.replaced input) = row.createdAt.instantDamage? := by
  -- The hash is not read, and of the other cells only the instant was not written.
  refine damage?_eq_of_cell ?_ ?_
  · simp [isReadable, replaced, isIt]
  · simp [decode, replaced, isIt, exists_bind_eq_ok, pure_eq_ok]

open Cell in
/-- What is wrong with the cells of a subject that a patch leaves alone, and with its meetings. -/
def Database.Offering.damages (patch : SubjectPatch) (offering : Offering) :
    List (Option Damage) :=
  let row := offering.subject
  [damageUnless? patch.name isText readText row.name,
    damageUnless? patch.credits isInteger readCount row.credits,
    damageUnless? patch.capacity isInteger readCount row.capacity,
    damageUnless? patch.semester isText readText row.semester,
    damageUnless? patch.professorId isTextOrNull (readOption readId) row.professorId,
    damageUnless? patch.departmentId isTextOrNull (readOption readId) row.departmentId,
    row.createdAt.instantDamage?] ++
  offering.meetings.map (damage? MeetingRow.isReadable MeetingRow.decode)

/-- A subject that was changed in part is damaged in what the patch left alone, or not at all. -/
theorem Database.Offering.damage?_patched {offering : Offering}
    (isIt : offering.subject.subjectId = .ofId id) (patch : SubjectPatch) :
    damage? isReadable decode (offering.patched patch) =
      Damage.worst (offering.damages patch) := by
  have text (value : String) : ReadsBack Cell.isText Cell.readText (.text value) :=
    ⟨rfl, value, rfl⟩
  have count (value : UInt32) : ReadsBack Cell.isInteger Cell.readCount (.ofCount value) :=
    ⟨rfl, value, Cell.readCount_ofCount value⟩
  have reference (value : Option Uuid) : ReadsBack Cell.isTextOrNull (Cell.readOption Cell.readId)
      (.ofOption .ofId value) :=
    ⟨Cell.isTextOrNull_ofOption_ofId value, value, Cell.readOption_ofOption_ofId value⟩
  -- The cells are those of the changed row, whether they were left alone or not.
  simp only [damages, ← Cell.damage?_getD_map text, ← Cell.damage?_getD_map count,
    ← Cell.damage?_getD_map reference, Cell.instantDamage?]
  refine damage?_eq_worst ?_ fun readable => ?_
  · -- The first pass looks at all cells and all meetings.
    simp [isReadable, Offering.patched, SubjectRow.isReadable, Database.patched, isIt,
      @eq_comm _ (some Damage.shape), ← ne_eq, damage?_ne_shape, and_assoc]
  · -- All cells have the right shape, so that each is in order where it reads as something.
    simp only [isReadable, Offering.patched, SubjectRow.isReadable, Database.patched,
      Bool.and_eq_true, List.all_eq_true, and_assoc] at readable
    obtain ⟨-, name, credits, capacity, semester, professor, department, created, meetings⟩ :=
      readable
    -- The meetings read as a list where each of them does.
    have scheduled : (∃ slots, offering.meetings.mapM MeetingRow.decode = .ok slots) ↔
        ∀ row ∈ offering.meetings,
          damage? MeetingRow.isReadable MeetingRow.decode row ≠ some .content := by
      rw [exists_mapM_eq_ok]
      exact forall₂_congr fun row member => (damage?_ne_content (meetings row member)).symm
    simp only [List.mem_append, List.mem_cons, List.not_mem_nil, or_false, List.mem_map, not_or,
      not_exists, not_and, @eq_comm _ (some Damage.content), ← ne_eq, damage?_ne_content name,
      damage?_ne_content credits, damage?_ne_content capacity, damage?_ne_content semester,
      damage?_ne_content professor, damage?_ne_content department, damage?_ne_content created,
      ← scheduled]
    simp only [decode, Offering.patched, SubjectRow.decode, Database.patched, isIt,
      exists_bind_eq_ok, pure_eq_ok, Cell.readId_ofId, Except.ok.injEq, exists_eq',
      exists_and_right, and_true, true_and]
    -- The meetings are read before the cells of the row, which come first in the list.
    exact and_comm

end Changed

end CourseRegistry
