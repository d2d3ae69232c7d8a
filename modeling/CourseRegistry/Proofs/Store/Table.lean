import CourseRegistry.Store.Database

/-! Tables as lists of rows: which rows and which keys are left when a table is changed. -/

namespace CourseRegistry

section Rows

variable {ρ κ : Type} {key : ρ → κ} {rows : List ρ}

/-- What differs from the key of each row is not among the keys. -/
theorem not_mem_map_of_ne {wanted : κ} (new : ∀ other ∈ rows, key other ≠ wanted) :
    wanted ∉ rows.map key := by
  intro member
  obtain ⟨other, other_mem, same⟩ := List.mem_map.mp member
  exact new other other_mem same

/-- A row that is found by its key is there and has the key. -/
theorem mem_of_find?_key [DecidableEq κ] {wanted : κ} {row : ρ}
    (found : rows.find? (fun other => key other == wanted) = some row) :
    row ∈ rows ∧ key row = wanted :=
  ⟨List.mem_of_find?_eq_some found, by simpa using List.find?_some found⟩

/-- What is not taken by any row as its key or as its name is new as both. -/
theorem new_of_not_any {ν : Type} [DecidableEq κ] [DecidableEq ν] {name : ρ → ν} {wanted : κ}
    {named : ν}
    (free : ¬ rows.any (fun other => key other == wanted || name other == named) = true) :
    rows.any (fun other => key other == wanted) = false ∧
      ∀ other ∈ rows, name other ≠ named := by
  -- That no row has either is that every row has neither.
  simp only [List.any_eq_true, Bool.or_eq_true, beq_iff_eq, not_exists, not_and, not_or] at free
  simp only [List.any_eq_false, beq_iff_eq]
  exact ⟨fun other member => (free other member).1, fun other member => (free other member).2⟩

/-- A name that no other row has is new to the row that is to get it. -/
theorem renamed_of_not_any {ν : Type} [DecidableEq κ] [DecidableEq ν] {name : ρ → ν} {wanted : κ}
    {named : ν}
    (free : ¬ rows.any (fun other => key other != wanted && name other == named) = true) :
    ∀ other ∈ rows, key other ≠ wanted → name other ≠ named := by
  simpa only [List.any_eq_true, Bool.and_eq_true, bne_iff_ne, beq_iff_eq, not_exists,
    not_and] using free

/-- Where a key is new, only a name can be taken. -/
theorem any_key_or_name_iff {ν : Type} [DecidableEq κ] [DecidableEq ν] {name : ρ → ν} {wanted : κ}
    {named : ν} (newKey : rows.any (key · == wanted) = false) :
    rows.any (fun other => key other == wanted || name other == named) = true ↔
      ∃ row ∈ rows, name row = named := by
  simp only [List.any_eq_false, beq_iff_eq] at newKey
  simp only [List.any_eq_true, Bool.or_eq_true, beq_iff_eq]
  -- Of the two things that a row could have, the first is excluded for all of them.
  exact exists_congr fun row => and_congr_right fun member => or_iff_right (newKey row member)

/-- A name is taken by a row with another key. -/
theorem any_other_name_iff {ν : Type} [DecidableEq κ] [DecidableEq ν] {name : ρ → ν} {wanted : κ}
    {named : ν} :
    rows.any (fun other => key other != wanted && name other == named) = true ↔
      ∃ row ∈ rows, key row ≠ wanted ∧ name row = named := by
  simp only [List.any_eq_true, Bool.and_eq_true, bne_iff_ne, beq_iff_eq]

/-- Some row is looked for where one is found. -/
theorem any_of_find? {isIt : ρ → Bool} {row : ρ} (found : rows.find? isIt = some row) :
    rows.any isIt = true := by
  rw [← List.isSome_find?, found, Option.isSome_some]

/-- No row is looked for where none is found. -/
theorem any_eq_false_of_find? {isIt : ρ → Bool} (absent : rows.find? isIt = none) :
    rows.any isIt = false := by
  rw [← List.isSome_find?, absent, Option.isSome_none]

/-- A row with a new key can be added without a key coming twice. -/
theorem nodup_map_append (unique : (rows.map key).Nodup) {row : ρ} (new : key row ∉ rows.map key) :
    ((rows ++ [row]).map key).Nodup := by
  -- Neither part has a key twice, and the parts have no key in common.
  rw [List.map_append, List.nodup_append]
  refine ⟨unique, by simp, ?_⟩
  intro a old b added same
  obtain rfl : b = key row := by simpa using added
  exact new (same ▸ old)

/-- Taking rows away cannot make a key come twice. -/
theorem nodup_map_filter (unique : (rows.map key).Nodup) (kept : ρ → Bool) :
    ((rows.filter kept).map key).Nodup :=
  unique.sublist (List.filter_sublist.map key)

/-- Taking away other rows leaves those that are looked for. -/
theorem filter_filter_of_kept {isIt stays : ρ → Bool}
    (kept : ∀ row, isIt row = true → stays row = true) :
    (rows.filter stays).filter isIt = rows.filter isIt := by
  rw [List.filter_filter]
  -- Of the rows that are looked for, all were kept.
  refine List.filter_congr fun row _ => ?_
  cases is : isIt row with
  | false => rw [Bool.false_and]
  | true => rw [Bool.true_and, kept row is]

/-- Taking away all rows that are looked for leaves none of them. -/
theorem filter_filter_of_gone {isIt stays : ρ → Bool}
    (gone : ∀ row, isIt row = true → stays row = false) :
    (rows.filter stays).filter isIt = [] := by
  -- Such a row would have to have stayed.
  refine List.filter_eq_nil_iff.mpr fun row member is => ?_
  have stayed := (List.mem_filter.mp member).2
  rw [gone row is] at stayed
  cases stayed

/-- Of all rows, only the row itself has its key. -/
theorem filter_eq_singleton [DecidableEq κ] (unique : (rows.map key).Nodup) {row : ρ}
    (member : row ∈ rows) : rows.filter (fun other => key other == key row) = [row] := by
  induction rows with
  | nil => cases member
  | cons first rows ih =>
    rw [List.map_cons, List.nodup_cons] at unique
    obtain ⟨apart, unique⟩ := unique
    rcases List.mem_cons.mp member with rfl | later
    · -- The key of the first row is not met again.
      have gone : rows.filter (fun other => key other == key row) = [] :=
        List.filter_eq_nil_iff.mpr fun other other_mem same =>
          apart (beq_iff_eq.mp same ▸ List.mem_map_of_mem other_mem)
      rw [List.filter_cons, if_pos (beq_self_eq_true _), gone]
    · -- The first row has another key, and the row is among the others.
      have other : ¬ (key first == key row) = true := fun same =>
        apart (beq_iff_eq.mp same ▸ List.mem_map_of_mem later)
      rw [List.filter_cons, if_neg other, ih unique later]

/-- A row is what its key is found by, where keys come once. -/
theorem find?_of_mem [DecidableEq κ] (unique : (rows.map key).Nodup) {row : ρ}
    (member : row ∈ rows) : rows.find? (key · == key row) = some row := by
  -- The first of the rows with its key is the only one.
  rw [← List.head?_filter, filter_eq_singleton unique member, List.head?_cons]

/-- Rows that a change leaves alone, each of them, are left alone. -/
theorem map_eq_self {change : ρ → ρ} (same : ∀ row ∈ rows, change row = row) :
    rows.map change = rows :=
  (List.map_congr_left same).trans (List.map_id _)

/-- Where keys come once, the rows before and after a row have others. -/
theorem key_ne_of_nodup {before after : List ρ} {row : ρ}
    (unique : ((before ++ row :: after).map key).Nodup) :
    (∀ other ∈ before, key other ≠ key row) ∧ ∀ other ∈ after, key other ≠ key row := by
  rw [List.map_append, List.map_cons, List.nodup_append, List.nodup_cons] at unique
  obtain ⟨-, ⟨notAfter, -⟩, apart⟩ := unique
  -- The three parts of the list have no key in common.
  refine ⟨fun other member => ?_, fun other member same => ?_⟩
  · exact apart _ (List.mem_map_of_mem member) _ List.mem_cons_self
  · exact notAfter (same ▸ List.mem_map_of_mem member)

/-- Without the row of a key that comes once, all rows before and after it are left. -/
theorem exists_filter_not (unique : (rows.map key).Nodup) {isIt : ρ → Bool} {wanted : κ}
    (isIt_iff : ∀ row, isIt row = true ↔ key row = wanted)
    (some_row : rows.any isIt = true) :
    ∃ before row after, isIt row = true ∧ rows = before ++ row :: after ∧
      rows.filter (fun other => !isIt other) = before ++ after := by
  obtain ⟨row, member, is⟩ := List.any_eq_true.mp some_row
  -- The row is cut out of the list, with what stands before it and behind it.
  obtain ⟨before, after, rfl⟩ := List.append_of_mem member
  obtain ⟨notBefore, notAfter⟩ := key_ne_of_nodup unique
  obtain rfl := (isIt_iff row).mp is
  refine ⟨before, row, after, is, rfl, ?_⟩
  -- No row on either side has the key once more, so that all of them stay.
  have stays (side : List ρ) (others : ∀ other ∈ side, key other ≠ key row) :
      side.filter (fun other => !isIt other) = side := by
    refine List.filter_eq_self.mpr fun other other_mem => ?_
    rw [Bool.not_eq_true', Bool.eq_false_iff]
    exact mt (isIt_iff other).mp (others other other_mem)
  rw [List.filter_append, stays before notBefore, List.filter_cons_of_neg (by simp [is]),
    stays after notAfter]

/-- Changing other columns leaves the keys alone. -/
theorem nodup_map_map (unique : (rows.map key).Nodup) {change : ρ → ρ}
    (same : ∀ row, key (change row) = key row) : ((rows.map change).map key).Nodup := by
  -- The keys are those of the old rows, read through the change.
  have kept : key ∘ change = key := funext same
  rwa [List.map_map, kept]

/-- A row of a changed table is the new row or one that is not the one looked for. -/
theorem eq_or_not_of_mem_replaceRow {isIt : ρ → Bool} {row other : ρ}
    (member : other ∈ replaceRow isIt row rows) :
    other = row ∨ other ∈ rows ∧ ¬ isIt other = true := by
  obtain ⟨old, old_mem, changed⟩ := List.mem_map.mp member
  -- Each row comes from an old one, which was the one looked for or not.
  split at changed
  · exact Or.inl changed.symm
  · next stays => exact Or.inr (changed ▸ ⟨old_mem, stays⟩)

/-- So it is the new row or one that stayed. -/
theorem mem_replaceRow {isIt : ρ → Bool} {row other : ρ}
    (member : other ∈ replaceRow isIt row rows) : other = row ∨ other ∈ rows :=
  (eq_or_not_of_mem_replaceRow member).imp_right And.left

/-- The new row is in the changed table when there was a row to replace. -/
theorem mem_replaceRow_new [DecidableEq κ] {wanted : κ} {old : ρ} (old_mem : old ∈ rows)
    (isIt : key old = wanted) (row : ρ) :
    row ∈ replaceRow (fun other => key other == wanted) row rows :=
  List.mem_map.mpr ⟨old, old_mem, if_pos (beq_iff_eq.mpr isIt)⟩

/-- Where a row was found by its key, the row that is put in its place is found. -/
theorem find?_replaceRow [DecidableEq κ] {wanted : κ} {old row : ρ}
    (found : rows.find? (key · == wanted) = some old) (isIt : key row = wanted) :
    (replaceRow (key · == wanted) row rows).find? (key · == wanted) = some row := by
  induction rows with
  | nil => cases found
  | cons first rows ih =>
    rw [replaceRow, List.map_cons, ← replaceRow]
    by_cases it : key first = wanted
    · -- The first row is the one that is replaced, and the new one is found in its place.
      rw [if_pos (beq_iff_eq.mpr it), List.find?_cons_of_pos (by simp [isIt])]
    · -- The first row stays, and it is not the one that is found.
      rw [List.find?_cons_of_neg (by simp [it])] at found
      rw [if_neg (by simp [it]), List.find?_cons_of_neg (by simp [it]), ih found]

/-- One row stands in the place of another one, and all others stay in theirs. -/
def IsReplaced (old new : ρ) (rows changed : List ρ) : Prop :=
  ∃ before after, rows = before ++ old :: after ∧ changed = before ++ new :: after

/-- Where keys come once, it is the row that is found by its key that is replaced. -/
theorem isReplaced_replaceRow [DecidableEq κ] (unique : (rows.map key).Nodup) {wanted : κ}
    {old : ρ} (found : rows.find? (key · == wanted) = some old) (row : ρ) :
    IsReplaced old row rows (replaceRow (key · == wanted) row rows) := by
  obtain ⟨member, isIt⟩ := mem_of_find?_key found
  obtain ⟨before, after, rfl⟩ := List.append_of_mem member
  obtain ⟨notBefore, notAfter⟩ := key_ne_of_nodup unique
  refine ⟨before, after, rfl, ?_⟩
  -- No other row has the key, so that nothing else is touched on either side.
  have stays (side : List ρ) (others : ∀ other ∈ side, key other ≠ key old) :
      replaceRow (key · == wanted) row side = side := by
    refine map_eq_self fun other other_mem => if_neg ?_
    rw [← isIt, beq_iff_eq]
    exact others other other_mem
  rw [replaceRow, List.map_append, List.map_cons, ← replaceRow, ← replaceRow,
    stays before notBefore, stays after notAfter, if_pos (beq_iff_eq.mpr isIt)]

/-- After that, no row but the new one can have what the old one alone had before. -/
theorem IsReplaced.eq_or_ne {old new : ρ} {changed : List ρ}
    (replaced : IsReplaced old new rows changed) (unique : (rows.map key).Nodup) :
    ∀ other ∈ changed, other = new ∨ key other ≠ key old := by
  obtain ⟨before, after, rfl, rfl⟩ := replaced
  obtain ⟨notBefore, notAfter⟩ := key_ne_of_nodup unique
  intro other member
  -- A row of the changed table stands before the new one, or it is that one, or it stands behind.
  rcases List.mem_append.mp member with earlier | later
  · exact .inr (notBefore other earlier)
  · exact (List.mem_cons.mp later).imp_right (notAfter other)

/-- Of two rows that are put in one place after each other, the second one stays. -/
theorem replaceRow_replaceRow (isIt : ρ → Bool) {first : ρ} (is : isIt first = true)
    (second : ρ) (rows : List ρ) :
    replaceRow isIt second (replaceRow isIt first rows) = replaceRow isIt second rows := by
  rw [replaceRow, replaceRow, replaceRow, List.map_map]
  refine List.map_congr_left fun other _ => ?_
  rw [Function.comp_apply]
  cases it : isIt other with
  -- The row in question becomes the second new one in either way.
  | true => rw [if_pos rfl, if_pos is, if_pos rfl]
  -- Any other row is touched by neither change.
  | false => rw [if_neg Bool.false_ne_true, if_neg (by simp [it]), if_neg Bool.false_ne_true]

/-- What the new row has in common with the row that it replaces is the same in all rows. -/
theorem map_replaceRow {isIt : ρ → Bool} {row : ρ}
    (same : ∀ other, isIt other = true → key other = key row) :
    (replaceRow isIt row rows).map key = rows.map key := by
  rw [replaceRow, List.map_map]
  -- Row by row: one that is replaced has the same as the new one, and all others stay.
  refine List.map_congr_left fun other _ => ?_
  simp only [Function.comp_apply]
  split
  · next isIt => exact (same other isIt).symm
  · rfl

/-- A row that is replaced by one with the same key leaves all keys as they were. -/
theorem map_key_replaceRow [DecidableEq κ] {wanted : κ} {row : ρ} (isIt : key row = wanted) :
    (replaceRow (fun other => key other == wanted) row rows).map key = rows.map key :=
  map_replaceRow fun _ is => (beq_iff_eq.mp is).trans isIt.symm

/-- A row that is replaced by one with the same key makes no key come twice. -/
theorem nodup_key_replaceRow [DecidableEq κ] (unique : (rows.map key).Nodup) {wanted : κ} {row : ρ}
    (isIt : key row = wanted) :
    ((replaceRow (fun other => key other == wanted) row rows).map key).Nodup := by
  rwa [map_key_replaceRow isIt]

/-- A row can get a new name without a name coming twice, when no other row has that name. -/
theorem nodup_map_replaceRow {ν : Type} [DecidableEq κ] {name : ρ → ν} {wanted : κ} {row : ρ}
    (keys : (rows.map key).Nodup) (names : (rows.map name).Nodup)
    (new : ∀ other ∈ rows, key other ≠ wanted → name other ≠ name row) :
    ((replaceRow (fun other => key other == wanted) row rows).map name).Nodup := by
  rw [replaceRow, List.map_map]
  rw [List.Nodup, List.pairwise_map] at keys names ⊢
  refine (keys.and names).imp_of_mem ?_
  -- At most one of two rows has the key, and a row that has it is named anew.
  intro a b a_mem b_mem apart
  simp only [Function.comp_apply, beq_iff_eq]
  -- Each of the two rows is the one that is named anew, or it is not.
  by_cases isA : key a = wanted
  · by_cases isB : key b = wanted
    · -- They would have the same key.
      exact absurd (isA.trans isB.symm) apart.1
    · rw [if_pos isA, if_neg isB]
      exact (new b b_mem isB).symm
  · by_cases isB : key b = wanted
    · rw [if_neg isA, if_pos isB]
      exact new a a_mem isA
    · -- Neither name is new.
      rw [if_neg isA, if_neg isB]
      exact apart.2

/-- The keys that were there are still there when only other columns are changed. -/
theorem mem_map_map {cell : κ} {change : ρ → ρ} (member : cell ∈ rows.map key)
    (same : ∀ row, key (change row) = key row) : cell ∈ (rows.map change).map key := by
  have kept : key ∘ change = key := funext same
  rwa [List.map_map, kept]

/-- The keys that were there are still there when a row is added. -/
theorem mem_map_append {cell : κ} (row : ρ) (member : cell ∈ rows.map key) :
    cell ∈ (rows ++ [row]).map key := by
  rw [List.map_append]
  exact List.mem_append_left _ member
-- The added row stands behind all others.

/-- The keys that were there are still there when a row is replaced. -/
theorem mem_key_replaceRow [DecidableEq κ] {wanted cell : κ} {row : ρ} (isIt : key row = wanted)
    (member : cell ∈ rows.map key) :
    cell ∈ (replaceRow (fun other => key other == wanted) row rows).map key := by
  rwa [map_key_replaceRow isIt]

/-- The keys that were there, but for one, are still there when its row is taken away. -/
theorem mem_map_filter [DecidableEq κ] {gone cell : κ} (member : cell ∈ rows.map key)
    (other : cell ≠ gone) : cell ∈ (rows.filter fun row => key row != gone).map key := by
  -- The row of the key is not the one that goes.
  obtain ⟨row, row_mem, rfl⟩ := List.mem_map.mp member
  exact List.mem_map_of_mem (List.mem_filter.mpr ⟨row_mem, by simpa using other⟩)

section Conditions

variable {holds still : ρ → Prop}

/-- All rows meet a condition when the old ones keep meeting it and the added one does. -/
theorem forall_mem_add (old : ∀ row ∈ rows, holds row) (kept : ∀ row, holds row → still row)
    {row : ρ} (new : still row) : ∀ other ∈ rows ++ [row], still other := by
  intro other member
  rcases List.mem_append.mp member with before | added
  · -- It was there before.
    exact kept other (old other before)
  · -- It is the one that was added.
    exact List.mem_singleton.mp added ▸ new

/-- All rows meet a condition when the old ones keep meeting it and the new one does. -/
theorem forall_mem_replace (old : ∀ row ∈ rows, holds row) (kept : ∀ row, holds row → still row)
    {isIt : ρ → Bool} {row : ρ} (new : still row) :
    ∀ other ∈ replaceRow isIt row rows, still other := by
  intro other member
  -- It is the new row or one of the old ones.
  rcases mem_replaceRow member with rfl | before
  · exact new
  · exact kept other (old other before)

/-- All rows meet a condition when those that stay keep meeting it. -/
theorem forall_mem_remove {stays : ρ → Bool} (old : ∀ row ∈ rows, holds row)
    (kept : ∀ row, stays row = true → holds row → still row) :
    ∀ other ∈ rows.filter stays, still other := by
  intro other member
  -- It was there before, and it is one of those that stay.
  obtain ⟨before, stayed⟩ := List.mem_filter.mp member
  exact kept other stayed (old other before)

/-- All rows meet a condition when each meets it once it is changed. -/
theorem forall_mem_change (old : ∀ row ∈ rows, holds row) {change : ρ → ρ}
    (kept : ∀ row, holds row → still (change row)) : ∀ other ∈ rows.map change, still other := by
  intro other member
  -- It is what one of the old rows was changed to.
  obtain ⟨row, row_mem, rfl⟩ := List.mem_map.mp member
  exact kept row (old row row_mem)

end Conditions

end Rows

namespace Database

/-- The keys of all rows of a kind. -/
def keys (db : Database) : Entity → List Cell
  | .department => db.departments.map (·.departmentId)
  | .professor => db.professors.map (·.professorId)
  | .room => db.rooms.map (·.roomId)
  | .student => db.students.map (·.studentId)
  | .subject => db.subjects.map (·.subjectId)
  | .meeting => db.meetings.map (·.slotId)

/-- A cell is looked for among the keys. -/
theorem hasKey_iff {db : Database} {entity : Entity} {cell : Cell} :
    db.hasKey entity cell = true ↔ cell ∈ db.keys entity := by
  -- Each kind of row has a table of its own.
  cases entity <;> simp [hasKey, keys]

/-- A subject exists when a row is found by its key. -/
theorem has_subject_iff {db : Database} {subjectId : Uuid} :
    db.has .subject subjectId = true ↔
      ∃ row, db.subjects.find? (·.subjectId == .ofId subjectId) = some row := by
  -- That a row is found is that there is one.
  rw [← Option.isSome_iff_exists, List.find?_isSome]
  exact List.any_eq_true

/-- An identifier is new when no key is its cell. -/
theorem not_mem_keys {db : Database} {entity : Entity} {id : Uuid}
    (new : db.has entity id = false) : .ofId id ∉ db.keys entity := by
  -- It is not among the keys when the lookup does not find it.
  rw [← hasKey_iff]
  exact Bool.eq_false_iff.mp new

/-- References stay valid when all keys stay. -/
theorem isReference_mono {db changed : Database} {entity : Entity}
    (kept : ∀ key ∈ db.keys entity, key ∈ changed.keys entity) {cell : Cell}
    (reference : db.isReference entity cell = true) :
    changed.isReference entity cell = true := by
  rw [isReference, Bool.or_eq_true_iff, hasKey_iff] at reference ⊢
  -- A reference to nothing needs no key.
  exact reference.imp_right (kept cell)

/-- References stay valid when a single key goes and they are cleared of it. -/
theorem isReference_withoutId {db changed : Database} {entity : Entity} {id : Uuid}
    (kept : ∀ key ∈ db.keys entity, key ≠ .ofId id → key ∈ changed.keys entity) {cell : Cell}
    (reference : db.isReference entity cell = true) :
    changed.isReference entity (cell.withoutId id) = true := by
  rw [isReference, Bool.or_eq_true_iff, hasKey_iff] at reference ⊢
  -- A reference to the key that goes is cleared, and any other one stays as it is.
  by_cases gone : cell = .ofId id
  · simp [Cell.withoutId, gone]
  · have same : cell.withoutId id = cell := if_neg (by simpa using gone)
    rw [same]
    exact reference.imp_right fun member => kept cell member gone

end Database

end CourseRegistry
