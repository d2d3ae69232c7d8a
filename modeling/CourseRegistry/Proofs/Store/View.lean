import CourseRegistry.Proofs.Store.Directory

/-!
Views of a table: reads that show the records of one kind, or a part of them.
When a row is put into the table, every view shows the record of that row and keeps all others.
-/

namespace CourseRegistry

section Tables

variable {α ρ : Type}

/-- A row is put into a table: in the place of the one with its key, or as a new one. -/
def IsPut (key : ρ → Cell) (row : ρ) (rows changed : List ρ) : Prop :=
  changed.Perm (row :: rows.filter (key · != key row))

/-- A row with a new key is put at the end. -/
theorem isPut_append {key : ρ → Cell} {row : ρ} {rows : List ρ}
    (new : ∀ other ∈ rows, key other ≠ key row) : IsPut key row rows (rows ++ [row]) := by
  -- No row of the table has the new key, so no row gives way.
  have kept : rows.filter (key · != key row) = rows :=
    List.filter_eq_self.mpr fun other member => bne_iff_ne.mpr (new other member)
  rw [IsPut, kept]
  exact List.perm_append_singleton row rows

/-- A row is put in the place of the one with the same key. -/
theorem isPut_replaceRow {key : ρ → Cell} {rows : List ρ} (unique : (rows.map key).Nodup)
    {old : ρ} {wanted : Cell} (found : old ∈ rows) (isIt : key old = wanted) {row : ρ}
    (same : key row = wanted) : IsPut key row rows (replaceRow (key · == wanted) row rows) := by
  subst same
  -- The row stands where the row of its key stood, and nowhere else.
  have once : (replaceRow (key · == key row) row rows).filter (key · == key row) = [row] :=
    filter_eq_singleton (nodup_key_replaceRow unique rfl) (mem_replaceRow_new found isIt row)
  -- All rows with another key stay what they are.
  have others : (replaceRow (key · == key row) row rows).filter (key · != key row) =
      rows.filter (key · != key row) := by
    clear unique found once
    induction rows with
    | nil => rfl
    | cons first rows ih =>
      rw [replaceRow, List.map_cons, ← replaceRow]
      -- A row with the key is exchanged and then left out, any other passes both sides.
      by_cases it : key first = key row
      · rw [if_pos (beq_iff_eq.mpr it), List.filter_cons_of_neg (by simp),
          List.filter_cons_of_neg (by simp [it]), ih]
      · rw [if_neg (by simp [it]), List.filter_cons_of_pos (by simp [it]),
          List.filter_cons_of_pos (by simp [it]), ih]
  -- The changed rows are the one with the key, and all that have another.
  have parts := List.filter_append_perm (key · == key row)
    (replaceRow (key · == key row) row rows)
  rw [once] at parts
  change ([row] ++ (replaceRow (key · == key row) row rows).filter (key · != key row)).Perm _
    at parts
  rw [others] at parts
  exact parts.symm

/-- What is made of each row is made of the row that is put as well. -/
theorem replaceRow_map {σ : Type} (make : ρ → σ) (isIt : σ → Bool) (row : ρ) (rows : List ρ) :
    replaceRow isIt (make row) (rows.map make) =
      (replaceRow (fun other => isIt (make other)) row rows).map make := by
  rw [replaceRow, replaceRow, List.map_map, List.map_map]
  exact List.map_congr_left fun other _ => (apply_ite make _ row other).symm

/-- When a row is put into a table, its record is put among the records. -/
theorem IsPut.records {key : ρ → Cell} {row : ρ} {rows changed : List ρ}
    (put : IsPut key row rows changed) {decode : ρ → Except StoreError α} {idOf : α → Uuid}
    {before after : List α} {record : α} (read : rows.mapM decode = .ok before)
    (readChanged : changed.mapM decode = .ok after)
    (keyed : ∀ other, other ∈ rows ∨ other ∈ changed → ∀ found, decode other = .ok found →
      key other = .ofId (idOf found))
    (decoded : decode row = .ok record) :
    after.Perm (record :: before.filter (idOf · != idOf record)) := by
  -- The row that is put has the identifier of its record for a key.
  have isKey : key row = .ofId (idOf record) :=
    keyed row (.inr (put.mem_iff.mpr List.mem_cons_self)) record decoded
  -- Rows with another key read as records with another identifier.
  have kept : (rows.filter (key · != key row)).mapM decode =
      .ok (before.filter (idOf · != idOf record)) := by
    refine mapM_filter read fun other member found foundDecoded => ?_
    rw [keyed other (.inl member) found foundDecoded, isKey, Bool.eq_iff_iff, bne_iff_ne,
      bne_iff_ne, ne_eq, Cell.ofId_inj]
  have all : (row :: rows.filter (key · != key row)).mapM decode =
      .ok (record :: before.filter (idOf · != idOf record)) := by
    rw [List.mapM_cons, decoded, ok_bind, kept, ok_bind, pure_eq_ok]
  -- The changed rows are those of the list just read, in another order.
  obtain ⟨found, foundRead, perm⟩ := mapM_perm put all
  rw [readChanged, Except.ok.injEq] at foundRead
  exact foundRead ▸ perm

end Tables

/-- A read of records of one kind, and which of them it is to show. -/
structure View (α : Type) where
  read : Database → Except StoreError (List α)
  shows : α → Bool

namespace View

section Renewal

variable {α : Type} {view : View α} {idOf : α → Uuid} {record : α} {db changed : Database}
  {all allChanged : List α}

/-- A view of given records reads, in some order, those of them that it is to show. -/
def IsOf (view : View α) (all : List α) (db : Database) : Prop :=
  ∃ shown, view.read db = .ok shown ∧ shown.Perm (all.filter view.shows)

/--
A view is read before and after a change.
Where it is to show a record it has it exactly once afterwards, and it has all others as before.
-/
def Renews (view : View α) (idOf : α → Uuid) (record : α) (db changed : Database) : Prop :=
  ∃ before after, view.read db = .ok before ∧ view.read changed = .ok after ∧
    after.filter (idOf · == idOf record) = (if view.shows record then [record] else []) ∧
      (after.filter (idOf · != idOf record)).Perm (before.filter (idOf · != idOf record))

/-- A view of records among which one is put shows that one and keeps all others. -/
theorem IsOf.renews (isOf : view.IsOf all db) (isOfChanged : view.IsOf allChanged changed)
    (put : allChanged.Perm (record :: all.filter (idOf · != idOf record))) :
    view.Renews idOf record db changed := by
  obtain ⟨before, read, perm⟩ := isOf
  obtain ⟨after, readChanged, permChanged⟩ := isOfChanged
  -- What is shown afterwards is what is to be shown of the changed records.
  have shown := permChanged.trans (put.filter view.shows)
  refine ⟨before, after, read, readChanged, ?_, ?_⟩
  · -- Of the records that are shown only the one that was put has its identifier.
    have none_left : (all.filter (idOf · != idOf record)).filter (idOf · == idOf record) = [] :=
      filter_filter_of_gone fun _ is => by rw [bne, is, Bool.not_true]
    have only := shown.filter (idOf · == idOf record)
    rw [List.filter_comm (idOf · == idOf record) view.shows,
      List.filter_cons_of_pos (by simp), none_left, List.filter_singleton] at only
    -- A list of one record, or of none, has only one order.
    cases shows : view.shows record with
    | true =>
      rw [shows] at only
      exact List.perm_singleton.mp only
    | false =>
      rw [shows] at only
      exact List.perm_nil.mp only
  · -- With another identifier there are those that were there before, in some order.
    have kept := shown.filter (idOf · != idOf record)
    rw [List.filter_comm (idOf · != idOf record) view.shows, List.filter_cons_of_neg (by simp),
      filter_filter_of_kept fun _ is => is, List.filter_comm view.shows] at kept
    exact kept.trans (perm.filter _).symm

end Renewal

end View

/-- A table: its rows, what they are found by, and the records that they read as. -/
structure Table (α ρ : Type) where
  rows : Database → List ρ
  key : ρ → Cell
  isReadable : ρ → Bool
  decode : ρ → Except StoreError α
  idOf : α → Uuid

namespace Table

/-- Each row reads back, as a record with the identifier that is its key; no key comes twice. -/
structure Reads {α ρ : Type} (table : Table α ρ) (db : Database) : Prop where
  back : ∀ row ∈ table.rows db, table.isReadable row = true ∧
    ∃ record, table.decode row = .ok record ∧ table.key row = .ofId (table.idOf record)
  unique : ((table.rows db).map table.key).Nodup

/-- A view reads the records of all rows that it is to show. -/
def IsViewed {α ρ : Type} (table : Table α ρ) (view : View α) (db : Database) : Prop :=
  ∀ all, (table.rows db).mapM table.decode = .ok all → view.IsOf all db

/-- A row that reads as the record was put into the table. -/
def IsPut {α ρ : Type} (table : Table α ρ) (record : α) (db changed : Database) : Prop :=
  ∃ row, table.decode row = .ok record ∧
    CourseRegistry.IsPut table.key row (table.rows db) (table.rows changed)

section Views

variable {α ρ : Type} {table : Table α ρ} {view : View α} {db changed : Database}

/-- A row with a new key was put at the end. -/
theorem isPut_of_append {row : ρ} {record : α} (decoded : table.decode row = .ok record)
    (new : (table.rows db).any (table.key · == table.key row) = false)
    (is : table.rows changed = table.rows db ++ [row]) : table.IsPut record db changed := by
  -- A key that no row has is a new one.
  refine ⟨row, decoded, ?_⟩
  rw [is]
  exact isPut_append fun other member same =>
    List.any_eq_false.mp new other member (beq_iff_eq.mpr same)

/-- A row was put in the place of the one that was found. -/
theorem isPut_of_replaceRow (reads : table.Reads db) {wanted : Cell} {old row : ρ}
    (found : (table.rows db).find? (table.key · == wanted) = some old)
    {record : α} (decoded : table.decode row = .ok record) (same : table.key row = table.key old)
    (is : table.rows changed = replaceRow (table.key · == wanted) row (table.rows db)) :
    table.IsPut record db changed := by
  -- The row that was found is one of the table and has the key that was looked for.
  obtain ⟨member, isIt⟩ := mem_of_find?_key found
  refine ⟨row, decoded, ?_⟩
  rw [is]
  exact isPut_replaceRow reads.unique member isIt (same.trans isIt)

/-- All rows read as records. -/
theorem Reads.exists_records (reads : table.Reads db) :
    ∃ all, (table.rows db).mapM table.decode = .ok all :=
  mapM_eq_ok fun row member => (reads.back row member).2.imp fun _ => And.left

/-- A row has the identifier of the record that it reads as. -/
theorem Reads.key_eq (reads : table.Reads db) {row : ρ} (member : row ∈ table.rows db) {record : α}
    (decoded : table.decode row = .ok record) : table.key row = .ofId (table.idOf record) := by
  -- A row reads as one record only, so the one at hand is the one with the key as identifier.
  obtain ⟨-, found, foundDecoded, key⟩ := reads.back row member
  rw [decoded, Except.ok.injEq] at foundDecoded
  rw [key, foundDecoded]

/-- When a row is put into a table, every view of it shows the record and keeps all others. -/
theorem IsPut.renews {record : α} (put : table.IsPut record db changed) (reads : table.Reads db)
    (readsChanged : table.Reads changed) (viewed : table.IsViewed view db)
    (viewedChanged : table.IsViewed view changed) :
    view.Renews table.idOf record db changed := by
  obtain ⟨row, decoded, put⟩ := put
  obtain ⟨all, read⟩ := reads.exists_records
  obtain ⟨allChanged, readChanged⟩ := readsChanged.exists_records
  -- Both before and after, each row has the identifier of its record for a key.
  refine (viewed all read).renews (viewedChanged allChanged readChanged)
    (put.records read readChanged (fun other member found foundDecoded => ?_) decoded)
  exact member.elim (fun before => reads.key_eq before foundDecoded)
    fun after => readsChanged.key_eq after foundDecoded

/-- A selection of the rows that is sorted and read is a view. -/
theorem isViewed_sortOn (reads : table.Reads db) (order : ρ → List Cell) {kept : ρ → Bool}
    (alike : ∀ row ∈ table.rows db, ∀ record, table.decode row = .ok record →
      kept row = view.shows record)
    (is : view.read db =
      readRows table.isReadable table.decode (Cell.sortOn order ((table.rows db).filter kept))) :
    table.IsViewed view db := by
  intro all read
  -- Selecting rows is selecting records, and sorting them only moves them.
  obtain ⟨shown, mapped, perm⟩ := mapM_perm (Cell.sortOn_perm order _) (mapM_filter read alike)
  refine ⟨shown, ?_, perm⟩
  -- Every row has a shape that can be read, also after the selection and the sorting.
  rw [is, readRows, if_pos, mapped]
  refine List.all_eq_true.mpr fun row member => ?_
  exact (reads.back row (List.mem_filter.mp (Cell.mem_sortOn.mp member)).1).1

/-- So is a list of all rows. -/
theorem isViewed_list (reads : table.Reads db) (order : ρ → List Cell)
    (all_shown : ∀ record, view.shows record = true)
    (is : view.read db =
      readRows table.isReadable table.decode (Cell.sortOn order (table.rows db))) :
    table.IsViewed view db := by
  -- The selection is one that keeps everything.
  refine isViewed_sortOn reads order (fun _ _ record _ => (all_shown record).symm) ?_
  rw [is, List.filter_true]

/-- So is a single row that is looked for by its key. -/
theorem isViewed_find (reads : table.Reads db) {id : Uuid}
    (shown : ∀ record, view.shows record = (table.idOf record == id))
    (is : view.read db = Option.toList <$> readRow? table.isReadable table.decode
      ((table.rows db).find? (table.key · == .ofId id))) :
    table.IsViewed view db := by
  intro all read
  have selected : ((table.rows db).filter (table.key · == .ofId id)).mapM table.decode =
      .ok (all.filter view.shows) := by
    -- Keys and identifiers are equal together, so the rows of one key are its records.
    refine mapM_filter read fun row member record decoded => ?_
    rw [reads.key_eq member decoded, shown, Bool.eq_iff_iff, beq_iff_eq, beq_iff_eq,
      Cell.ofId_inj]
  refine ⟨_, ?_, .refl _⟩
  cases found : (table.rows db).find? (table.key · == .ofId id) with
  | none =>
    -- Without such a row the selection is empty as well.
    have none_kept : (table.rows db).filter (table.key · == .ofId id) = [] :=
      List.filter_eq_nil_iff.mpr (List.find?_eq_none.mp found)
    rw [none_kept] at selected
    rw [is, found, readRow?, map_ok, ← Except.ok.inj selected]
    rfl
  | some row =>
    -- The row that is found is the only one with the key.
    obtain ⟨member, key⟩ := mem_of_find?_key found
    obtain ⟨readable, record, decoded, -⟩ := reads.back row member
    rw [← key, filter_eq_singleton reads.unique member, List.mapM_cons, decoded, ok_bind]
      at selected
    rw [is, found, readRow?, if_pos readable, decoded, map_ok, map_ok, ← Except.ok.inj selected]
    rfl

end Views

end Table

end CourseRegistry
