import CourseRegistry.Proofs.Text.Octets
import CourseRegistry.Proofs.Store.ReadBack

/-! What a search lists: the subjects that it asks for, in their order, page by page. -/

namespace CourseRegistry

/-- A search asks for a subject. What it leaves open does not matter. -/
structure SubjectQuery.AsksFor (query : SubjectQuery) (subject : Subject) : Prop where
  text : ∀ text ∈ query.text, Text.nameMatches text subject.name = true
  /-- A subject without a department belongs to none that can be asked for. -/
  department : ∀ id ∈ query.departmentId, subject.departmentId = some id
  professor : ∀ id ∈ query.professorId, subject.professorId = some id
  semester : ∀ semester ∈ query.semester, subject.semester = semester

/-- The same search for the whole list. -/
def SubjectQuery.unpaged (query : SubjectQuery) : SubjectQuery :=
  { query with limit := none, offset := none }

/-- The same search for one of the pages that the list is cut into. -/
def SubjectQuery.pageAt (query : SubjectQuery) (size number : Nat) : SubjectQuery :=
  { query with limit := some size, offset := some (number * size) }

/--
A listing comes before another one by the octets of its name.
Of two subjects with one name the one with the lesser identifier comes first.
-/
def SubjectListing.Before (a b : SubjectListing) : Prop :=
  Text.octets a.subject.name < Text.octets b.subject.name ∨
    a.subject.name = b.subject.name ∧ a.subject.subjectId < b.subject.subjectId

/-- A reference is stored as an identifier where it is there and is that one. -/
theorem Cell.ofOption_ofId_eq {reference : Option Uuid} {id : Uuid} :
    ofOption ofId reference = ofId id ↔ reference = some id := by
  -- An absent reference is stored as null, which is no identifier.
  cases reference with
  | none => simp [ofOption, (ofId_ne_null id).symm]
  | some => simp [ofOption]

namespace Database

section Asking

/-- A cell holds what is asked for where it holds the one value that is. -/
theorem isWanted_iff {α : Type} {write : α → Cell} {wanted : Option α} {cell : Cell} :
    isWanted write wanted cell = true ↔ ∀ value ∈ wanted, cell = write value := by
  -- What is left open asks for nothing, and the rest for one value.
  cases wanted <;> simp [isWanted]

/-- The row of a subject is selected where the subject is asked for. -/
theorem isSelected_iff {query : SubjectQuery} {subject : Subject} :
    isSelected query (.ofSubject subject) = true ↔ query.AsksFor subject := by
  -- A text that is searched for is matched against the name that is stored.
  have named : isNamed query.text (.text subject.name) = true ↔
      ∀ text ∈ query.text, Text.nameMatches text subject.name = true := by
    cases query.text <;> simp [isNamed]
  -- Each of the four conditions on the cells is the one on the field that was stored in it.
  simp only [isSelected, Bool.and_eq_true, SubjectRow.ofSubject, named, isWanted_iff,
    Cell.ofOption_ofId_eq, Cell.text.injEq]
  constructor
  · rintro ⟨⟨⟨text, department⟩, professor⟩, semester⟩
    exact ⟨text, department, professor, semester⟩
  · intro asks
    exact ⟨⟨⟨asks.text, asks.department⟩, asks.professor⟩, asks.semester⟩

end Asking

section Pages

variable {α : Type}

/-- A stretch of a list is what is left after its start, up to as many as are asked for. -/
theorem page_eq (query : SubjectQuery) (items : List α) :
    page query items =
      (items.drop (query.offset.getD 0)).take (query.limit.getD items.length) := by
  unfold page
  cases query.limit with
  -- Without a limit as many as there are in the whole list are taken, which cuts nothing.
  | none => exact (List.take_of_length_le (by simp)).symm
  | some => rfl

/-- A stretch of some rows reads as the same stretch of their records. -/
theorem mapM_page {ρ : Type} {decode : ρ → Except StoreError α} {rows : List ρ} {records : List α}
    (read : rows.mapM decode = .ok records) (query : SubjectQuery) :
    (page query rows).mapM decode = .ok (page query records) := by
  -- A list reads record by record, and both are cut at the same places.
  rw [mapM_eq_ok_iff] at read ⊢
  rw [page_eq, page_eq, read.length_eq]
  exact List.forall₂_take _ (List.forall₂_drop _ read)

/-- The pages of a list, one after the other, are the list as far as they reach. -/
theorem flatMap_pages (items : List α) (size count : Nat) :
    (List.range count).flatMap (fun number => (items.drop (number * size)).take size) =
      items.take (count * size) := by
  -- By induction on the number of pages.
  induction count with
  | zero => simp
  | succ count ih =>
    -- The next page starts where those before it end.
    rw [List.range_succ, List.flatMap_append, ih, List.flatMap_singleton, Nat.succ_mul,
      List.take_add]

end Pages

variable {db : Database}

section Refusals

/-- A number that is too large is refused by name. -/
theorem checkPageBound_eq_error {name : String} {value : Nat} (beyond : maxPageBound < value) :
    checkPageBound name (some value) = .error (.refused (.invalidRequest
      (name ++ " out of range: " ++ String.ofList (Text.digits value)))) :=
  if_neg (Nat.not_le.mpr beyond)

/-- A limit that is too large is refused, whatever else is asked for. -/
theorem listSubjects_of_limit {query : SubjectQuery} {limit : Nat}
    (given : query.limit = some limit) (beyond : maxPageBound < limit) :
    db.listSubjects query = .error (.refused (.invalidRequest
      ("limit out of range: " ++ String.ofList (Text.digits limit)))) := by
  unfold listSubjects
  -- The limit is looked at before anything else.
  rw [given, checkPageBound_eq_error beyond]
  rfl

/-- So is an offset that is too large, after the limit was looked at. -/
theorem listSubjects_of_offset {query : SubjectQuery} {offset : Nat}
    (limited : query.limit.all (· ≤ maxPageBound) = true) (given : query.offset = some offset)
    (beyond : maxPageBound < offset) :
    db.listSubjects query = .error (.refused (.invalidRequest
      ("offset out of range: " ++ String.ofList (Text.digits offset)))) := by
  unfold listSubjects
  -- The limit passes, so that it is the offset that is refused.
  rw [checkPageBound_eq_ok "limit" limited, given, checkPageBound_eq_error beyond]
  rfl

end Refusals

section Selection

/--
The listings of the subjects that a search asks for.
There is one for each of them, with the seats that are counted for it, and they are in order.
-/
structure IsSelection (db : Database) (query : SubjectQuery) (all : List SubjectListing) :
    Prop where
  mem_iff : ∀ listing, listing ∈ all ↔ ∃ subject enrolled,
    db.getSubject subject.subjectId = .ok (some subject) ∧ query.AsksFor subject ∧
      db.countLiveEnrollments subject.subjectId = .ok enrolled ∧
        listing = .ofSubject subject enrolled
  once : (all.map (·.subject.subjectId)).Nodup
  sorted : all.Pairwise SubjectListing.Before

/-- The rows of a stretch are that stretch of all rows that are selected. -/
theorem selection_eq_page (query : SubjectQuery) :
    db.selection query = page query (db.selection query.unpaged) :=
  rfl

/-- A search for a stretch of the list answers with that stretch of it. -/
theorem Readable.listSubjects_eq (readable : db.Readable) {query : SubjectQuery}
    (within : query.isWithinLimits = true) {all : List SubjectListing}
    (listed : db.listSubjects query.unpaged = .ok all) :
    db.listSubjects query = .ok (page query all) := by
  obtain ⟨listings, read⟩ := readable.listSubjects within
  have stretch := mapM_page (mapM_of_listSubjects listed) query
  have rows := mapM_of_listSubjects read
  -- The subjects of a stretch, with their meetings, are that stretch of all of them.
  have cut : (db.selection query).map (Offering.of db) =
      page query ((db.selection query.unpaged).map (Offering.of db)) := by
    rw [selection_eq_page, page_eq, page_eq, List.map_take, List.map_drop, List.length_map]
  rw [cut, stretch, Except.ok.injEq] at rows
  rw [read, rows]

variable (written : db.Written Instant.IsReading) (unique : db.Unique)

include written unique

/-- A search for the whole list has a listing for each subject that is asked for. -/
theorem Written.mem_listings_iff {query : SubjectQuery} {all : List SubjectListing}
    (listed : db.listSubjects query.unpaged = .ok all) (listing : SubjectListing) :
    listing ∈ all ↔ ∃ subject enrolled,
      db.getSubject subject.subjectId = .ok (some subject) ∧ query.AsksFor subject ∧
        db.countLiveEnrollments subject.subjectId = .ok enrolled ∧
          listing = .ofSubject subject enrolled := by
  have read := mapM_of_listSubjects listed
  have mem_rows (row : SubjectRow) : row ∈ db.selection query.unpaged ↔
      row ∈ db.subjects ∧ isSelected query row = true :=
    Cell.mem_sortOn.trans List.mem_filter
  constructor
  · -- A listing was made of a selected row, and tells what the row reads as.
    intro member
    obtain ⟨offering, offering_mem, decoded⟩ := (mem_of_mapM_eq_ok read).mp member
    obtain ⟨row, row_mem, rfl⟩ := List.mem_map.mp offering_mem
    obtain ⟨stored, selected⟩ := (mem_rows row).mp row_mem
    obtain ⟨rfl, found, enrolled, counted, made⟩ :=
      written.of_decodeListing unique stored decoded
    exact ⟨listing.subject, enrolled, found, isSelected_iff.mp selected, counted, made⟩
  · -- The row of a subject that is asked for is selected.
    rintro ⟨subject, enrolled, found, asks, counted, rfl⟩
    obtain ⟨-, stored, -⟩ := written.mem_of_getSubject unique found
    have selected := (mem_rows _).mpr ⟨stored, isSelected_iff.mpr asks⟩
    -- The row of the subject is read as some listing, which can only be this one.
    obtain ⟨listing, member, decoded⟩ := exists_of_mapM read (List.mem_map_of_mem selected)
    obtain ⟨same, found', enrolled', counted', made⟩ :=
      written.of_decodeListing unique stored decoded
    have key : subject.subjectId = listing.subject.subjectId :=
      Cell.ofId_inj.mp (congrArg SubjectRow.subjectId same)
    rw [← key, found, Except.ok.injEq, Option.some.injEq] at found'
    rw [← key, counted, Except.ok.injEq] at counted'
    rw [← found', ← counted'] at made
    exact made ▸ member

/-- It has them in their order, in which no two of them share a place. -/
theorem Written.pairwise_listings {query : SubjectQuery} {all : List SubjectListing}
    (listed : db.listSubjects query.unpaged = .ok all) :
    all.Pairwise SubjectListing.Before := by
  -- Names are compared first, and then identifiers, since no two rows have the same one.
  have sorted : (db.selection query.unpaged).Pairwise fun a b =>
      a.name.precedes b.name = true ∨
        a.name = b.name ∧ a.subjectId.precedes b.subjectId = true :=
    Cell.pairwise_sortOn_two (nodup_map_filter unique.subjectKeys _)
  rw [written.selection_eq_map unique listed, List.pairwise_map] at sorted
  -- Cells stand in the order of what is stored in them.
  refine sorted.imp fun order => order.imp (fun first => ?_) fun tied => ?_
  · exact Text.octets_lt.mpr (Cell.precedes_text.mp first)
  · exact ⟨Cell.text.inj tied.1, Cell.precedes_ofId.mp tied.2⟩

/-- The answer to a search for the whole list is the listings of what it asks for. -/
theorem Written.isSelection {query : SubjectQuery} {all : List SubjectListing}
    (listed : db.listSubjects query.unpaged = .ok all) : db.IsSelection query all where
  mem_iff := written.mem_listings_iff unique listed
  once := written.nodup_listings unique listed
  sorted := written.pairwise_listings unique listed

end Selection

/-- The pages that cover a list are read one by one and are the list together. -/
theorem Readable.exists_pages (readable : db.Readable) {query : SubjectQuery}
    (within : query.isWithinLimits = true) {all : List SubjectListing}
    (listed : db.listSubjects query.unpaged = .ok all) {size count : Nat}
    (bounded : size ≤ maxPageBound) (reached : ∀ number < count, number * size ≤ maxPageBound)
    (covered : all.length ≤ count * size) :
    ∃ pages : Nat → List SubjectListing,
      (∀ number < count, db.listSubjects (query.pageAt size number) = .ok (pages number)) ∧
        (List.range count).flatMap pages = all := by
  -- Each page is a stretch of the whole list.
  refine ⟨fun number => (all.drop (number * size)).take size, fun number before => ?_, ?_⟩
  · -- Only the numbers of a page are its own; the text is that of the search.
    have short := (Bool.and_eq_true_iff.mp within).2
    have pageWithin : (query.pageAt size number).isWithinLimits = true :=
      Bool.and_eq_true_iff.mpr ⟨Bool.and_eq_true_iff.mpr
        ⟨decide_eq_true bounded, decide_eq_true (reached number before)⟩, short⟩
    exact readable.listSubjects_eq pageWithin listed
  · -- The pages together go past the end of the list.
    rw [flatMap_pages, List.take_of_length_le covered]

/--
In all that can be reached, a search within its limits answers with the stretch that it asks for.
Pages of one size have together every subject that is asked for, and none of them twice.
A limit or an offset that is too large is refused, whatever the rest of the search.
-/
theorem Reachable.listSubjects_pages (reachable : db.Reachable Instant.InFourDigitYear)
    (query : SubjectQuery) :
    (query.isWithinLimits = true → ∃ all, db.IsSelection query all ∧
      db.listSubjects query =
        .ok ((all.drop (query.offset.getD 0)).take (query.limit.getD all.length)) ∧
      db.listSubjects query.unpaged = .ok all ∧
      ∀ size count, size ≤ maxPageBound → (∀ number < count, number * size ≤ maxPageBound) →
        all.length ≤ count * size → ∃ pages : Nat → List SubjectListing,
          (∀ number < count, db.listSubjects (query.pageAt size number) = .ok (pages number)) ∧
            (List.range count).flatMap pages = all) ∧
    (∀ limit, query.limit = some limit → maxPageBound < limit →
      db.listSubjects query = .error (.refused (.invalidRequest
        ("limit out of range: " ++ String.ofList (Text.digits limit))))) ∧
    ∀ offset, query.offset = some offset → maxPageBound < offset →
      query.limit.all (· ≤ maxPageBound) = true →
        db.listSubjects query = .error (.refused (.invalidRequest
          ("offset out of range: " ++ String.ofList (Text.digits offset)))) := by
  have readable := reachable.readable
  refine ⟨fun within => ?_, fun limit given => listSubjects_of_limit given,
    fun offset given beyond limited => listSubjects_of_offset limited given beyond⟩
  -- The whole list is within the limits where any stretch of it is.
  have whole : query.unpaged.isWithinLimits = true := (Bool.and_eq_true_iff.mp within).2
  obtain ⟨all, listed⟩ := readable.listSubjects whole
  refine ⟨all, reachable.readings.isSelection reachable.wellFormed.unique listed, ?_, listed,
    fun size count => readable.exists_pages within listed⟩
  -- The answer is the stretch of the whole list that the search asks for.
  rw [← page_eq]
  exact readable.listSubjects_eq within listed

section Sample

/-- The subjects of the sample run, in the order in which they are stored. -/
def storedSubjects : List Subject := [
  ⟨.ofDigit 2, "Logic", 3, 1, "Spring", none, none, (Stamp.ofDigit 2).now, []⟩,
  ⟨.ofDigit 4, "Algebra", 3, 2, "Spring", none, none, (Stamp.ofDigit 4).now, []⟩]

/-- A search for the second of the subjects of the spring that have an L in their names. -/
def secondInSpring : SubjectQuery := ⟨some "l", none, none, some "Spring", some 1, some 1⟩

/-- It finds the subject that is stored first. -/
theorem listSubjects_secondInSpring :
    List.map (·.subject.name) <$> (empty.after sampleRun).listSubjects secondInSpring =
      .ok ["Logic"] := by
  -- Both subjects of the sample are selected, and they are stored in the order of their making.
  have rows : (empty.after sampleRun).subjects.filter (isSelected secondInSpring) =
      storedSubjects.map .ofSubject := by decide +kernel
  -- By name they stand the other way round.
  have sorted : Cell.sortOn (fun row => [row.name, row.subjectId])
      (storedSubjects.map SubjectRow.ofSubject) =
        storedSubjects.reverse.map .ofSubject := Cell.sortOn_turned (by decide +kernel)
  unfold listSubjects
  rw [rows, sorted]
  decide +kernel

/-- Of both subjects of the sample, the second page of one has the one with the later name. -/
theorem listSubjects_pages_sample :
    (empty.after sampleRun).Reachable Instant.InFourDigitYear ∧
      secondInSpring.isWithinLimits = true ∧
      ∃ all, (empty.after sampleRun).IsSelection secondInSpring all ∧
        ((all.drop 1).take 1).map (·.subject.name) = ["Logic"] := by
  have reachable : (empty.after sampleRun).Reachable Instant.InFourDigitYear :=
    ⟨sampleRun, by decide, rfl⟩
  have within : secondInSpring.isWithinLimits = true := by decide +kernel
  -- The list that the theorem speaks of is the one that was read before.
  obtain ⟨all, isSelection, read, -⟩ := (reachable.listSubjects_pages secondInSpring).1 within
  have names := listSubjects_secondInSpring
  rw [read, map_ok, Except.ok.injEq] at names
  exact ⟨reachable, within, all, isSelection, names⟩

end Sample

end Database

end CourseRegistry
