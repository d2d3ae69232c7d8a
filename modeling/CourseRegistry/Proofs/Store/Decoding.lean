import CourseRegistry.Proofs.Store.Row
import Mathlib.Data.List.Perm.Basic

/-! What is done to a list of rows is done to the records that they read as. -/

namespace CourseRegistry

section Lists

variable {α ρ : Type} {decode : ρ → Except StoreError α} {rows : List ρ} {records : List α}

/-- A list of rows reads as the records that its rows read as, one by one. -/
theorem mapM_eq_ok_iff :
    rows.mapM decode = .ok records ↔
      List.Forall₂ (fun row record => decode row = .ok record) rows records := by
  -- By induction on the rows, the first of which is read before the others.
  induction rows generalizing records with
  | nil =>
    -- No rows read as no records, and as nothing else.
    rw [List.mapM_nil, pure_eq_ok, Except.ok.injEq, List.forall₂_nil_left_iff]
    exact eq_comm
  | cons row rows ih =>
    rw [List.mapM_cons, bind_eq_ok, List.forall₂_cons_left_iff]
    -- The first row reads as the first record, and the others as the others.
    constructor
    · rintro ⟨record, head, tail⟩
      obtain ⟨others, read, same⟩ := bind_eq_ok.mp tail
      exact ⟨record, others, head, ih.mp read, (Except.ok.inj same).symm⟩
    · rintro ⟨record, others, head, tail, rfl⟩
      exact ⟨record, head, bind_eq_ok.mpr ⟨others, ih.mpr tail, rfl⟩⟩

/-- The two passes come to the records that the rows read as. -/
theorem mapM_of_readRows {isReadable : ρ → Bool}
    (read : readRows isReadable decode rows = .ok records) : rows.mapM decode = .ok records := by
  -- The first pass looks at the shape of all rows, and changes none of them.
  unfold readRows at read
  split at read
  · exact read
  · cases read

/-- There are as many records as rows. -/
theorem length_of_mapM (read : rows.mapM decode = .ok records) : records.length = rows.length :=
  (mapM_eq_ok_iff.mp read).length_eq.symm

/-- Each row of a list that was read reads as one of the records. -/
theorem exists_of_mapM (read : rows.mapM decode = .ok records) {row : ρ} (member : row ∈ rows) :
    ∃ record ∈ records, decode row = .ok record := by
  -- The rows and the records are gone through side by side.
  rw [mapM_eq_ok_iff] at read
  induction read with
  | nil => cases member
  | @cons first record rows records head _ ih =>
    rcases List.mem_cons.mp member with rfl | later
    · -- The first row reads as the first record.
      exact ⟨record, List.mem_cons_self, head⟩
    · -- A later row reads as one of the later records.
      obtain ⟨found, found_mem, decoded⟩ := ih later
      exact ⟨found, List.mem_cons_of_mem record found_mem, decoded⟩

/-- Rows that tell no more than what they read as are made from their records. -/
theorem eq_map_of_mapM {encode : α → ρ} (read : rows.mapM decode = .ok records)
    (whole : ∀ row ∈ rows, ∀ record, decode row = .ok record → row = encode record) :
    rows = records.map encode := by
  rw [mapM_eq_ok_iff] at read
  induction read with
  | nil => rfl
  | @cons row record rows records head _ ih =>
    -- The later rows are made from the later records by induction.
    have tail := ih fun other member => whole other (List.mem_cons_of_mem row member)
    rw [List.map_cons, ← whole row List.mem_cons_self record head, ← tail]

/-- Rows that are selected read as the records that are selected in the same way. -/
theorem mapM_filter (read : rows.mapM decode = .ok records) {keptRow : ρ → Bool} {kept : α → Bool}
    (alike : ∀ row ∈ rows, ∀ record, decode row = .ok record → keptRow row = kept record) :
    (rows.filter keptRow).mapM decode = .ok (records.filter kept) := by
  -- The rows and their records are gone through side by side, and kept or left out together.
  rw [mapM_eq_ok_iff] at read ⊢
  induction read with
  | nil => exact .nil
  | @cons row record rows records head _ ih =>
    have same := alike row List.mem_cons_self record head
    have tail := ih fun other member => alike other (List.mem_cons_of_mem row member)
    rw [List.filter_cons, List.filter_cons, same]
    split
    · exact .cons head tail
    · exact tail

/-- Rows of which a part is read, read as that part of the records. -/
theorem mapM_map {β σ : Type} {part : ρ → σ} {decodePart : σ → Except StoreError β} {shown : α → β}
    (read : rows.mapM decode = .ok records)
    (alike : ∀ row ∈ rows, ∀ record, decode row = .ok record →
      decodePart (part row) = .ok (shown record)) :
    (rows.map part).mapM decodePart = .ok (records.map shown) := by
  -- A part of each row is read as the same part of its record.
  rw [mapM_eq_ok_iff] at read ⊢
  induction read with
  | nil => exact .nil
  | @cons row record rows records head _ ih =>
    have tail := ih fun other member => alike other (List.mem_cons_of_mem row member)
    exact .cons (alike row List.mem_cons_self record head) tail

/-- Rows whose records show the same, read in one way or another, read as lists that do so. -/
theorem map_mapM_congr {β : Type} {other : ρ → Except StoreError α} {shown : α → β}
    (alike : ∀ row ∈ rows, shown <$> other row = shown <$> decode row) :
    List.map shown <$> rows.mapM other = List.map shown <$> rows.mapM decode := by
  -- By induction on the rows, with the first of them read in two ways that show the same.
  induction rows with
  | nil => rfl
  | cons row rows ih =>
    have head := alike row List.mem_cons_self
    have tail := ih fun later member => alike later (List.mem_cons_of_mem row member)
    rw [List.mapM_cons, List.mapM_cons]
    -- What is shown of the whole list is put together from its first record and the others.
    have parts (first : Except StoreError α) (others : Except StoreError (List α)) :
        List.map shown <$> (first >>= fun record => others >>= fun records =>
          pure (record :: records)) =
        shown <$> first >>= fun record => List.map shown <$> others >>= fun records =>
          pure (record :: records) := by
      cases first with
      -- An error of the first read is the result, and then one of the others.
      | error => rfl
      | ok => cases others <;> rfl
    rw [parts, parts, head, tail]

/-- Rows in another order read as the same records in another order. -/
theorem mapM_perm {others : List ρ} (perm : others.Perm rows)
    (read : rows.mapM decode = .ok records) :
    ∃ found, others.mapM decode = .ok found ∧ found.Perm records := by
  -- The rows and their records are moved in the same way.
  obtain ⟨found, decoded, same⟩ := List.perm_comp_forall₂ perm (mapM_eq_ok_iff.mp read)
  exact ⟨found, mapM_eq_ok_iff.mpr decoded, same⟩

end Lists

end CourseRegistry
