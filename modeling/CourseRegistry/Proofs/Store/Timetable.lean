import CourseRegistry.Proofs.Schedule
import CourseRegistry.Proofs.Store.Reads

/-!
No student is in two places at once.
Along any run in which seats are granted with an eye on the timetable, and meetings are only added
to subjects in which nobody holds a seat yet, no two subjects of a student clash.
-/

namespace CourseRegistry

open Database

/-- Timetables are not put at risk by a transaction. -/
def Transaction.keepsTimetables (db : Database) (transaction : Transaction) : Bool :=
  match transaction.operation with
  -- A seat is granted only after a look at the timetable.
  | .grantSeat _ _ policy => policy.checkTimeConflicts
  -- No meeting is accepted for a subject in which seats are taken.
  | .addMeeting subjectId input =>
    !((addMeeting transaction.stamp subjectId input db).1.isOk &&
      decide (0 < db.seatsTaken (.ofId subjectId)))
  | _ => true

namespace Database

/-- No meeting of a subject clashes with one of another subject that the same student holds. -/
def NoDoubleBooking (db : Database) : Prop :=
  ∀ studentId subjectId otherId : Uuid, subjectId ≠ otherId →
    db.holdsSeat studentId subjectId = true → db.holdsSeat studentId otherId = true →
      ∀ row ∈ db.meetingsOf (.ofId subjectId), ∀ other ∈ db.meetingsOf (.ofId otherId),
        ∃ slot otherSlot, row.decode = .ok slot ∧ other.decode = .ok otherSlot ∧
          slot.clashesWith otherSlot = false

end Database

/-- Two stored meetings are on the same day, and each starts before the other ends. -/
def MeetingRow.Clashes (row other : MeetingRow) : Prop :=
  row.weekday = other.weekday ∧ row.startSecond.precedes other.endSecond = true ∧
    other.startSecond.precedes row.endSecond = true

/-- Which of two stored meetings comes first does not matter. -/
theorem MeetingRow.Clashes.symm {row other : MeetingRow} (clash : row.Clashes other) :
    other.Clashes row :=
  ⟨clash.1.symm, clash.2.2, clash.2.1⟩

/-- Times at whole seconds are ordered as they are stored. -/
theorem precedes_ofTime {a b : TimeOfDay} (a_whole : a.nano = 0) (b_whole : b.nano = 0) :
    (Cell.ofTime a).precedes (.ofTime b) = true ↔ a < b := by
  -- What is compared are numbers of seconds.
  rw [TimeOfDay.lt_iff_second_lt a_whole b_whole]
  simp [Cell.precedes, Cell.ofTime]

/-- Days are told apart as they are stored. -/
theorem ofWeekday_inj {a b : Weekday} : Cell.ofWeekday a = .ofWeekday b ↔ a = b := by
  -- All pairs of days are compared.
  cases a <;> cases b <;> decide

/-- Stored meetings clash as the meetings do. -/
theorem clashes_ofMeeting {slot other : MeetingSlot} (storable : slot.IsStorable)
    (otherStorable : other.IsStorable) :
    (MeetingRow.ofMeeting slot).Clashes (.ofMeeting other) ↔ slot.clashesWith other = true := by
  -- Day, start and end are compared one by one.
  rw [MeetingSlot.clashesWith_iff]
  change Cell.ofWeekday _ = .ofWeekday _ ∧ (Cell.ofTime _).precedes (.ofTime _) = true ∧
    (Cell.ofTime _).precedes (.ofTime _) = true ↔ _
  rw [ofWeekday_inj, precedes_ofTime storable.start_whole otherStorable.finish_whole,
    precedes_ofTime otherStorable.start_whole storable.finish_whole]

namespace Database

/-- No stored meeting of a seat's subject clashes with one of another seat of the student. -/
def Disjoint (db : Database) : Prop :=
  ∀ seat ∈ db.enrollments, ∀ other ∈ db.enrollments, seat.studentId = other.studentId →
    seat.subjectId ≠ other.subjectId →
      ∀ row ∈ db.meetings, row.subjectId = seat.subjectId →
        ∀ otherRow ∈ db.meetings, otherRow.subjectId = other.subjectId → ¬ row.Clashes otherRow

/-- Where stored meetings do not clash, no student is in two places at once. -/
theorem Disjoint.noDoubleBooking {clock : Instant → Prop} {db : Database}
    (disjoint : db.Disjoint) (written : db.Written clock) : db.NoDoubleBooking := by
  intro studentId subjectId otherId apart held otherHeld row member other other_member
  obtain ⟨seat, seat_mem, isOf, isIn⟩ := holdsSeat_iff.mp held
  obtain ⟨otherSeat, other_mem, otherIsOf, otherIsIn⟩ := holdsSeat_iff.mp otherHeld
  obtain ⟨row_mem, ofSubject⟩ := mem_meetingsOf.mp member
  obtain ⟨otherRow_mem, ofOther⟩ := mem_meetingsOf.mp other_member
  -- Both meetings belong to seats of the one student.
  have clear : ¬ row.Clashes other := by
    refine disjoint seat seat_mem otherSeat other_mem ?_ ?_ row row_mem (ofSubject.trans isIn.symm)
      other otherRow_mem (ofOther.trans otherIsIn.symm)
    · exact (beq_iff_eq.mp isOf).trans (beq_iff_eq.mp otherIsOf).symm
    · rw [isIn, otherIsIn]
      exact fun same => apart (Cell.ofId_inj.mp same)
  -- Both rows read back as the meetings they were made from, which clash as they do.
  obtain ⟨slot, storable, rfl⟩ := written.meetings row row_mem
  obtain ⟨otherSlot, otherStorable, rfl⟩ := written.meetings other otherRow_mem
  refine ⟨slot, otherSlot, MeetingRow.decode_ofMeeting storable,
    MeetingRow.decode_ofMeeting otherStorable, ?_⟩
  rw [Bool.eq_false_iff]
  exact fun clash => clear ((clashes_ofMeeting storable otherStorable).mpr clash)

variable {clock : Instant → Prop} {db changed : Database}

/-- Taking seats and meetings away causes no clash. -/
theorem Disjoint.mono (disjoint : db.Disjoint) (seats : changed.enrollments ⊆ db.enrollments)
    (meetings : changed.meetings ⊆ db.meetings) : changed.Disjoint := by
  -- Whatever could clash after the change was there before it.
  intro seat seat_mem other other_mem student apart row row_mem ofSubject otherRow otherRow_mem
  exact disjoint seat (seats seat_mem) other (seats other_mem) student apart row (meetings row_mem)
    ofSubject otherRow (meetings otherRow_mem)

/-- A seat that is granted with an eye on the timetable clashes with none that the student has. -/
theorem Grants.not_clashes {studentId subjectId : Uuid} {policy : AdmissionPolicy}
    (grants : db.Grants studentId subjectId policy) (check : policy.checkTimeConflicts = true)
    (written : db.Written clock) {seat : EnrollmentRow} (seat_mem : seat ∈ db.enrollments)
    (isOf : seat.isOf studentId = true) {row : MeetingRow} (row_mem : row ∈ db.meetings)
    (wanted : row.subjectId = .ofId subjectId) {other : MeetingRow}
    (other_mem : other ∈ db.meetings) (held : other.subjectId = seat.subjectId) :
    ¬ row.Clashes other := by
  -- The grant comes with a comparison that found nothing.
  obtain ⟨schedule, meetings, scheduled, mapped, clear⟩ := grants.noClash check
  obtain ⟨slot, storable, rfl⟩ := written.meetings row row_mem
  obtain ⟨otherSlot, otherStorable, rfl⟩ := written.meetings other other_mem
  -- Both meetings are among those that were compared.
  have slot_mem : slot ∈ schedule := (mem_of_mapM_eq_ok scheduled).mpr
    ⟨_, mem_meetingsOf.mpr ⟨row_mem, wanted⟩, MeetingRow.decode_ofMeeting storable⟩
  have notNull : seat.subjectId ≠ .null := held ▸ Cell.ofId_ne_null otherSlot.subjectId
  have held_mem : MeetingRow.ofMeeting otherSlot ∈ db.heldMeetings studentId :=
    mem_heldMeetings.mpr ⟨seat, seat_mem, isOf, notNull, mem_meetingsOf.mpr ⟨other_mem, held⟩⟩
  have otherSlot_mem : otherSlot ∈ meetings := (mem_of_mapM_eq_ok mapped).mpr
    ⟨_, held_mem, MeetingRow.decode_ofMeeting otherStorable⟩
  intro clash
  rw [clashes_ofMeeting storable otherStorable] at clash
  rw [firstClash?_eq_none.mp clear otherSlot otherSlot_mem slot slot_mem] at clash
  cases clash

end Database

section Effects

variable {clock : Instant → Prop} {stamp : Stamp} {db changed : Database} {operation : Operation}

/-- No operation that keeps timetables makes the meetings of a student clash. -/
theorem Effect.disjoint (effect : Effect stamp db operation changed) (written : db.Written clock)
    (disjoint : db.Disjoint)
    (checked : ∀ studentId subjectId policy, operation = .grantSeat studentId subjectId policy →
      policy.checkTimeConflicts = true)
    (untaken : ∀ subjectId input, operation = .addMeeting subjectId input →
      db.seatsTaken (.ofId subjectId) = 0) : changed.Disjoint := by
  cases effect with
  -- Seats and meetings that go cause no clash.
  | studentDeleted | seatReleased =>
    exact disjoint.mono (List.filter_subset_self _) (List.Subset.refl _)
  | subjectDeleted => exact disjoint.mono (List.filter_subset_self _) (List.filter_subset_self _)
  | meetingRemoved => exact disjoint.mono (List.Subset.refl _) (List.filter_subset_self _)
  | roomDeleted =>
    -- When and for which subject a meeting is held does not depend on its room.
    intro seat seat_mem other other_mem student apart _ changed_mem ofSubject _ otherChanged_mem
      ofOther
    obtain ⟨row, row_mem, rfl⟩ := List.mem_map.mp changed_mem
    obtain ⟨otherRow, otherRow_mem, rfl⟩ := List.mem_map.mp otherChanged_mem
    exact disjoint seat seat_mem other other_mem student apart row row_mem ofSubject otherRow
      otherRow_mem ofOther
  | @meetingAdded subjectId input =>
    -- Nobody holds a seat in the subject that the new meeting belongs to.
    have nobody : ∀ seat ∈ db.enrollments, seat.subjectId ≠ .ofId subjectId := by
      intro seat seat_mem
      have none_taken := untaken subjectId input rfl
      rw [seatsTaken, List.length_eq_zero_iff, List.filter_eq_nil_iff] at none_taken
      simpa using none_taken seat seat_mem
    intro seat seat_mem other other_mem student apart row row_mem ofSubject otherRow otherRow_mem
      ofOther
    rcases List.mem_append.mp row_mem with before | added
    · rcases List.mem_append.mp otherRow_mem with otherBefore | otherAdded
      · -- Two meetings that were both there clash no more than before.
        exact disjoint seat seat_mem other other_mem student apart row before ofSubject otherRow
          otherBefore ofOther
      · -- The second meeting is the new one, and nobody holds a seat that it belongs to.
        rw [List.mem_singleton.mp otherAdded] at ofOther
        exact absurd ofOther.symm (nobody other other_mem)
    · rw [List.mem_singleton.mp added] at ofSubject
      exact absurd ofSubject.symm (nobody seat seat_mem)
  | @seatGranted studentId subjectId policy grants =>
    have check := checked studentId subjectId policy rfl
    intro seat seat_mem other other_mem student apart row row_mem ofSubject otherRow otherRow_mem
      ofOther
    rcases List.mem_append.mp seat_mem with before | added
    · rcases List.mem_append.mp other_mem with otherBefore | otherAdded
      · -- Neither of the two seats is the new one.
        exact disjoint seat before other otherBefore student apart row row_mem ofSubject otherRow
          otherRow_mem ofOther
      · -- The new seat was compared with all that the student had, in the one order.
        rw [List.mem_singleton.mp otherAdded] at student ofOther
        exact fun clash => grants.not_clashes check written before (beq_iff_eq.mpr student)
          otherRow_mem ofOther row_mem ofSubject clash.symm
    · rcases List.mem_append.mp other_mem with otherBefore | otherAdded
      · -- Here it comes first.
        rw [List.mem_singleton.mp added] at student ofSubject
        exact grants.not_clashes check written otherBefore (beq_iff_eq.mpr student.symm) row_mem
          ofSubject otherRow_mem ofOther
      · -- Both seats would be the new one, which is in one subject only.
        rw [List.mem_singleton.mp added, List.mem_singleton.mp otherAdded] at apart
        exact absurd rfl apart
  -- All other operations leave seats and meetings alone.
  | _ => exact disjoint

end Effects

namespace Database

/-- A meeting that is not accepted is not stored. -/
theorem addMeeting_of_refused {stamp : Stamp} {subjectId : Uuid} {input : NewMeeting}
    {db : Database} (refused : (addMeeting stamp subjectId input db).1.isOk = false) :
    (addMeeting stamp subjectId input db).2 = db := by
  unfold addMeeting at refused ⊢
  -- Each refusal leaves the tables as they were, and otherwise the meeting would be accepted.
  split
  · -- The times are looked at first.
    rfl
  · next time accepted =>
    simp only [accepted] at refused
    split
    · -- The subject and the room are looked for next.
      rfl
    · next checked =>
      simp only [checked] at refused
      split
      · rfl
      · next newId => simp [newId, Except.isOk, Except.toBool] at refused

/-- Empty tables have no meetings that clash. -/
theorem disjoint_empty : empty.Disjoint :=
  List.forall_mem_nil _

/-- A transaction that keeps timetables makes no meetings of a student clash. -/
theorem Disjoint.apply {clock : Instant → Prop} {db : Database} (disjoint : db.Disjoint)
    (written : db.Written clock) {transaction : Transaction}
    (keeps : transaction.keepsTimetables db = true) : (transaction.apply db).Disjoint := by
  obtain ⟨stamp, operation⟩ := transaction
  have effect := operation.step_effect stamp db
  unfold Transaction.keepsTimetables at keeps
  cases operation with
  -- For a grant and a new meeting the condition says what is needed.
  | grantSeat studentId subjectId policy =>
    refine effect.disjoint written disjoint ?_ nofun
    rintro _ _ _ ⟨⟩
    exact keeps
  | addMeeting subjectId input =>
    -- What was not accepted was not stored, and otherwise no seats are taken.
    cases accepted : (addMeeting stamp subjectId input db).1.isOk with
    | false =>
      have same : (Transaction.mk stamp (.addMeeting subjectId input)).apply db = db :=
        addMeeting_of_refused accepted
      rw [same]
      exact disjoint
    | true =>
      refine effect.disjoint written disjoint nofun ?_
      rintro _ _ ⟨⟩
      simpa [accepted] using keeps
  -- All other operations are neither.
  | _ => exact effect.disjoint written disjoint nofun nofun

/-- No student is in two places at once along a run that keeps timetables. -/
theorem noDoubleBooking_throughout {run : List Transaction}
    (keeps : empty.Throughout (fun db transaction => transaction.keepsTimetables db = true) run) :
    ∀ db ∈ empty.states run, db.NoDoubleBooking := by
  -- What is kept along the run is that all meetings read back besides, whatever the clock shows.
  have kept : ∀ db ∈ empty.states run, db.Written (fun _ => True) ∧ db.Disjoint := by
    refine invariant_of_kept ?_ ⟨written_empty, disjoint_empty⟩ keeps
    rintro db transaction keeps ⟨written, disjoint⟩
    have effect := transaction.operation.step_effect transaction.stamp db
    exact ⟨effect.stillWritten trivial written, disjoint.apply written keeps⟩
  -- In each of the states the rows tell what the meetings do.
  intro db member
  obtain ⟨written, disjoint⟩ := kept db member
  exact disjoint.noDoubleBooking written

/-- The sample keeps timetables, and its student holds seats in two subjects. -/
theorem noDoubleBooking_sample :
    empty.Throughout (fun db transaction => transaction.keepsTimetables db = true) sampleRun ∧
      (∀ db ∈ empty.states sampleRun, db.NoDoubleBooking) ∧
      (empty.after sampleRun).holdsSeat (.ofDigit 1) (.ofDigit 2) = true ∧
      (empty.after sampleRun).holdsSeat (.ofDigit 1) (.ofDigit 4) = true := by
  have keeps :
      empty.Throughout (fun db transaction => transaction.keepsTimetables db = true) sampleRun := by
    decide +kernel
  exact ⟨keeps, noDoubleBooking_throughout keeps, by decide +kernel, by decide +kernel⟩

end Database

end CourseRegistry
