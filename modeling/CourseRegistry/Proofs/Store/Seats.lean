import CourseRegistry.Proofs.Store.WellFormed
import Mathlib.Data.List.Nodup

/-! No subject is oversubscribed: seats are granted up to its capacity, along any run. -/

namespace CourseRegistry

open Database

namespace Database

/-- The number of seats that a subject is stored with; a subject that is not stored has none. -/
def capacityOf (db : Database) (subjectId : Uuid) : Nat :=
  match db.subjects.find? (·.subjectId == .ofId subjectId) with
  | some row => row.seats
  | none => 0

end Database

/-- A change to a subject sets its number of seats below the number of those taken. -/
def Transaction.undercuts (subjectId : Uuid) (db : Database) (transaction : Transaction) : Bool :=
  match transaction.operation with
  | .updateSubject id patch =>
    id == subjectId && patch.capacity.isSome &&
      decide ((transaction.apply db).capacityOf subjectId < db.seatsTaken (.ofId subjectId))
  | _ => false

namespace Database

variable {db changed : Database}

/-- Giving back seats does not raise the number of those taken. -/
theorem seatsTaken_le_of_sublist (fewer : changed.enrollments.Sublist db.enrollments)
    (cell : Cell) : changed.seatsTaken cell ≤ db.seatsTaken cell :=
  -- The seats of one subject are fewer where all seats are.
  (fewer.filter _).length_le

/-- A seat counts for its own subject. -/
theorem seatsTaken_append_same {row : EnrollmentRow}
    (added : changed.enrollments = db.enrollments ++ [row]) {cell : Cell}
    (same : row.subjectId = cell) : changed.seatsTaken cell = db.seatsTaken cell + 1 := by
  simp [seatsTaken, added, List.filter_append, same]

/-- A seat does not count for another subject. -/
theorem seatsTaken_append_other {row : EnrollmentRow}
    (added : changed.enrollments = db.enrollments ++ [row]) {cell : Cell}
    (other : row.subjectId ≠ cell) : changed.seatsTaken cell = db.seatsTaken cell := by
  simp [seatsTaken, added, List.filter_append, other]

/-- Where there is no subject there are no seats. -/
theorem seatsTaken_eq_zero (ref : db.Referential) {subjectId : Uuid}
    (absent : db.has .subject subjectId = false) : db.seatsTaken (.ofId subjectId) = 0 := by
  rw [seatsTaken, List.length_eq_zero_iff, List.filter_eq_nil_iff]
  intro row member isIn
  -- A seat in the subject would refer to it.
  have exists_ := ref.enrollmentSubjects row member
  rw [beq_iff_eq.mp isIn, ← has, absent] at exists_
  cases exists_

/-- The row with the key of a subject is the one that its number of seats is looked up in. -/
theorem find?_subject (keys : (db.keys .subject).Nodup) {row : SubjectRow}
    (member : row ∈ db.subjects) {subjectId : Uuid} (isIt : row.subjectId = .ofId subjectId) :
    db.subjects.find? (·.subjectId == .ofId subjectId) = some row := by
  cases found : db.subjects.find? (·.subjectId == .ofId subjectId) with
  | none =>
    have other := List.find?_eq_none.mp found row member
    -- The row itself would have been found.
    simp [isIt] at other
  | some first =>
    -- Two rows with the same key would be one and the same.
    obtain ⟨first_mem, first_isIt⟩ := mem_of_find?_key found
    exact congrArg some
      (List.inj_on_of_nodup_map keys first_mem member (first_isIt.trans isIt.symm))

/-- The number of seats of a subject is the one in its row. -/
theorem capacityOf_eq (keys : (db.keys .subject).Nodup) {row : SubjectRow}
    (member : row ∈ db.subjects) {subjectId : Uuid} (isIt : row.subjectId = .ofId subjectId) :
    db.capacityOf subjectId = row.seats := by
  rw [capacityOf, find?_subject keys member isIt]

/-- A granted seat was free. -/
theorem Grants.seatsTaken_lt {studentId subjectId : Uuid} {policy : AdmissionPolicy}
    (grants : db.Grants studentId subjectId policy) :
    db.seatsTaken (.ofId subjectId) < db.capacityOf subjectId := by
  -- The row with the free seat is the one that the number is looked up in.
  obtain ⟨row, found, free⟩ := grants.room
  rwa [capacityOf, found]

/-- No more seats of a subject are taken than each of its rows has. -/
def Bounded (subjectId : Uuid) (db : Database) : Prop :=
  ∀ row ∈ db.subjects, row.subjectId = .ofId subjectId →
    db.seatsTaken (.ofId subjectId) ≤ row.seats

/-- Where each row of a subject has the seats that are taken, the subject has. -/
theorem Bounded.seatsTaken_le {subjectId : Uuid} (bounded : db.Bounded subjectId)
    (ref : db.Referential) : db.seatsTaken (.ofId subjectId) ≤ db.capacityOf subjectId := by
  cases found : db.subjects.find? (·.subjectId == .ofId subjectId) with
  | none =>
    -- No seat is taken in a subject that does not exist.
    have absent : db.has .subject subjectId = false := by
      simpa [has, hasKey] using List.find?_eq_none.mp found
    rw [seatsTaken_eq_zero ref absent]
    exact Nat.zero_le _
  | some row =>
    -- The number of seats is that of the row that is found.
    obtain ⟨member, isIt⟩ := mem_of_find?_key found
    rw [capacityOf, found]
    exact bounded row member isIt

end Database

section Effects

variable {stamp : Stamp} {db changed : Database} {operation : Operation}

/-- No operation takes a seat of a subject but a grant, which takes one. -/
theorem Effect.seatsTaken_cases (effect : Effect stamp db operation changed) (subjectId : Uuid) :
    changed.seatsTaken (.ofId subjectId) ≤ db.seatsTaken (.ofId subjectId) ∨
      ∃ studentId policy, db.Grants studentId subjectId policy ∧
        changed.seatsTaken (.ofId subjectId) = db.seatsTaken (.ofId subjectId) + 1 := by
  cases effect with
  | @seatGranted studentId granted policy grants =>
    -- A seat in another subject does not count.
    by_cases same : granted = subjectId
    · -- The seat is one of this subject, and it was granted because there was one.
      subst same
      exact Or.inr ⟨studentId, policy, grants, seatsTaken_append_same rfl rfl⟩
    · have other : Cell.ofId granted ≠ .ofId subjectId := fun cell => same (Cell.ofId_inj.mp cell)
      exact Or.inl (Nat.le_of_eq (seatsTaken_append_other rfl other))
  | studentDeleted | subjectDeleted | seatReleased =>
    -- Seats are only given back.
    exact Or.inl (seatsTaken_le_of_sublist List.filter_sublist _)
  -- All other operations leave the seats alone.
  | _ => exact Or.inl (Nat.le_refl _)

/-- One operation fills a subject no further than its seats go. -/
theorem Effect.seatsTaken_le (effect : Effect stamp db operation changed) (subjectId : Uuid) :
    changed.seatsTaken (.ofId subjectId) ≤
      max (db.seatsTaken (.ofId subjectId)) (db.capacityOf subjectId) := by
  rcases effect.seatsTaken_cases subjectId with fewer | ⟨studentId, policy, grants, more⟩
  · -- No seat is taken that was not taken before.
    exact Nat.le_trans fewer (Nat.le_max_left _ _)
  · -- One more seat is taken, and there was a free one.
    have free := grants.seatsTaken_lt
    rw [more]
    exact Nat.le_trans free (Nat.le_max_right _ _)

/-- A subject stays within its seats unless a change to it undercuts those taken. -/
theorem Effect.bounded (effect : Effect stamp db operation changed) {subjectId : Uuid}
    (wellFormed : db.WellFormed) (bounded : db.Bounded subjectId)
    (sufficient : ∀ patch, operation = .updateSubject subjectId patch →
      patch.capacity.isSome = true →
        db.seatsTaken (.ofId subjectId) ≤ changed.capacityOf subjectId) :
    changed.Bounded subjectId := by
  have keys := wellFormed.unique.subjectKeys
  have changedKeys := (wellFormed.effect effect).unique.subjectKeys
  -- Each row that stays as it was has the seats that are taken afterwards.
  have filled : ∀ row ∈ db.subjects, row.subjectId = .ofId subjectId →
      changed.seatsTaken (.ofId subjectId) ≤ row.seats := by
    intro row member isIt
    have most := effect.seatsTaken_le subjectId
    rw [capacityOf_eq keys member isIt] at most
    exact Nat.le_trans most (Nat.max_le.mpr ⟨bounded row member isIt, Nat.le_refl _⟩)
  cases effect with
  -- Clearing a reference leaves the number of seats alone.
  | departmentDeleted | professorDeleted => exact forall_mem_change filled fun _ => id
  | subjectDeleted => exact forall_mem_remove filled fun _ _ => id
  | @subjectAdded input seats professor department newId =>
    refine forall_mem_add filled (fun _ => id) ?_
    intro isIt
    -- A new subject has no seats taken.
    rw [← Cell.ofId_inj.mp isIt]
    have none_taken := seatsTaken_eq_zero wellFormed.referential newId
    exact Nat.le_trans (Nat.le_of_eq none_taken) (Nat.zero_le _)
  | @subjectUpdated updated patch row found isIt =>
    refine forall_mem_replace filled (fun _ => id) ?_
    intro isSubject
    have same : updated = subjectId := Cell.ofId_inj.mp (isIt.symm.trans isSubject)
    subst same
    cases set : patch.capacity with
    | none =>
      -- The number of seats stays as it is.
      have kept : (patched patch row).seats = row.seats := by simp [SubjectRow.seats, patched, set]
      rw [kept]
      exact filled row found isIt
    | some capacity =>
      -- The number of seats is set, and not below the number of those taken.
      have enough := sufficient patch rfl (by simp [set])
      have placed := mem_replaceRow_new found isIt (patched patch row)
      rwa [capacityOf_eq changedKeys placed isSubject] at enough
  -- All other operations leave the subjects alone.
  | _ => exact filled

end Effects

namespace Database

/-- Nothing is taken in empty tables. -/
theorem bounded_empty (subjectId : Uuid) : empty.Bounded subjectId :=
  List.forall_mem_nil _

/-- No subject of well-formed tables has more seats than a count can hold. -/
theorem WellFormed.capacityOf_lt {db : Database} (wellFormed : db.WellFormed) (subjectId : Uuid) :
    db.capacityOf subjectId < UInt32.size := by
  change db.capacityOf subjectId < 4294967296
  unfold capacityOf
  split
  · -- The number in a row is in range.
    next row found =>
    obtain ⟨member, -⟩ := mem_of_find?_key found
    obtain ⟨capacity, _, stored, -, -, fits, -, -⟩ := wellFormed.subjectNumbers row member
    simp only [SubjectRow.seats, stored]
    omega
  · omega

/-- All that can be reached is well-formed. -/
theorem Reachable.wellFormed {clock : Instant → Prop} {db : Database}
    (reachable : db.Reachable clock) : db.WellFormed :=
  reachable.invariant WellFormed wellFormed_empty fun db transaction _ wellFormed =>
    wellFormed.effect (transaction.operation.step_effect transaction.stamp db)

/-- The seats that are taken can be counted in all that can be reached. -/
theorem Reachable.seatsTaken_lt {clock : Instant → Prop} {db : Database}
    (reachable : db.Reachable clock) (subjectId : Uuid) :
    db.seatsTaken (.ofId subjectId) < UInt32.size := by
  refine (reachable.invariant (fun db => db.WellFormed ∧ db.seatsTaken (.ofId subjectId) < _)
    ⟨wellFormed_empty, Nat.zero_lt_succ _⟩ ?_).2
  rintro db transaction - ⟨wellFormed, counted⟩
  have effect := transaction.operation.step_effect transaction.stamp db
  refine ⟨wellFormed.effect effect, ?_⟩
  -- Seats are taken up to the number of seats, which itself can be counted.
  have room := wellFormed.capacityOf_lt subjectId
  exact Nat.lt_of_le_of_lt (effect.seatsTaken_le subjectId) (Nat.max_lt.mpr ⟨counted, room⟩)

/--
Seats are taken up to the number of seats that a subject has, and no further.
More are only ever taken when a change to the subject undercuts them.
-/
theorem seatsTaken_throughout (subjectId : Uuid) :
    (∀ (db : Database) (transaction : Transaction),
      (transaction.apply db).seatsTaken (.ofId subjectId) ≤
        max (db.seatsTaken (.ofId subjectId)) (db.capacityOf subjectId)) ∧
    ∀ run : List Transaction,
      empty.Throughout (fun db transaction => transaction.undercuts subjectId db = false) run →
        ∀ db ∈ empty.states run, db.seatsTaken (.ofId subjectId) ≤ db.capacityOf subjectId := by
  have effect (db : Database) (transaction : Transaction) :=
    transaction.operation.step_effect transaction.stamp db
  refine ⟨fun db transaction => (effect db transaction).seatsTaken_le subjectId, ?_⟩
  intro run admitted
  -- What is kept along the run is that the tables are well-formed besides.
  have kept : ∀ db ∈ empty.states run, db.WellFormed ∧ db.Bounded subjectId := by
    refine invariant_of_kept ?_ ⟨wellFormed_empty, bounded_empty subjectId⟩ admitted
    rintro db ⟨stamp, operation⟩ sufficient ⟨wellFormed, bounded⟩
    have changes := effect db ⟨stamp, operation⟩
    refine ⟨wellFormed.effect changes, changes.bounded wellFormed bounded ?_⟩
    rintro patch rfl sets
    refine Nat.le_of_not_lt fun undercut => ?_
    change (Transaction.apply _ db).capacityOf subjectId < _ at undercut
    simp [Transaction.undercuts, sets, undercut] at sufficient
  -- Within each of its rows a subject is within its number of seats.
  intro db member
  obtain ⟨wellFormed, bounded⟩ := kept db member
  exact bounded.seatsTaken_le wellFormed.referential

/-- The one seat that is taken in the sample is the one that is left. -/
theorem seatsTaken_sample :
    empty.Throughout (fun db transaction => transaction.undercuts (.ofDigit 2) db = false)
        sampleRun ∧
      (∀ db ∈ empty.states sampleRun,
        db.seatsTaken (.ofId (.ofDigit 2)) ≤ db.capacityOf (.ofDigit 2)) ∧
      (empty.after sampleRun).seatsTaken (.ofId (.ofDigit 2)) = 1 ∧
      (empty.after sampleRun).capacityOf (.ofDigit 2) = 1 := by
  have admitted : empty.Throughout
      (fun db transaction => transaction.undercuts (.ofDigit 2) db = false) sampleRun := by
    decide +kernel
  exact ⟨admitted, (seatsTaken_throughout (.ofDigit 2)).2 sampleRun admitted, by decide +kernel,
    by decide +kernel⟩

end Database

end CourseRegistry
