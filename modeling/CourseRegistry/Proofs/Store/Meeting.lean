import CourseRegistry.Proofs.Store.WellFormed

/-!
Meetings and the rows that hold them.
An accepted meeting is stored within the bounds of its table and read back as it was, and the rows
that can be read are those within the bounds, each of which holds one meeting that is accepted.
-/

namespace CourseRegistry

namespace Cell

/-- A cell holds a text that spells an identifier. -/
def SpellsId (cell : Cell) : Prop :=
  ∃ text id, cell = .text text ∧ Uuid.ofText? text = some id

/-- An identifier is read where one is spelled. -/
theorem exists_readId {cell : Cell} : (∃ id, cell.readId = .ok id) ↔ cell.SpellsId := by
  -- A cell is read in two steps: it has to be a text, and that text has to spell an identifier.
  constructor
  · rintro ⟨id, read⟩
    obtain ⟨text, shape, spelled⟩ := bind_eq_ok.mp read
    cases cell with
    | text value =>
      obtain rfl := Except.ok.inj shape
      -- A text is not an identifier where it does not spell one.
      split at spelled
      · next found spells => exact ⟨value, found, rfl, spells⟩
      · cases spelled
    -- Neither a number nor a missing value is a text.
    | null | integer => cases shape
  · rintro ⟨text, id, rfl, spells⟩
    -- Both steps go through, with the identifier that is spelled.
    exact ⟨id, by rw [readId, readText, ok_bind, spells]⟩

/-- Whatever is not missing is read as what it is. -/
theorem readOption_of_ne_null {α : Type} {read : Cell → Except StoreError α} {cell : Cell}
    (present : cell ≠ null) : cell.readOption read = some <$> read cell := by
  -- Only a missing value is treated in a way of its own.
  cases cell with
  | null => exact absurd rfl present
  | integer | text => rfl

/-- An identifier that may be missing is read where it is missing and where one is spelled. -/
theorem exists_readOption_readId {cell : Cell} :
    (∃ id, cell.readOption readId = .ok id) ↔ cell = null ∨ cell.SpellsId := by
  -- What is missing is read as such, and what is there has to spell an identifier.
  by_cases missing : cell = null
  · subst missing
    exact iff_of_true ⟨none, rfl⟩ (.inl rfl)
  · rw [readOption_of_ne_null missing, or_iff_right missing, ← exists_readId]
    -- Nothing is made of what was read, but that it is there.
    cases cell.readId with
    | error => exact iff_of_false nofun nofun
    | ok id => exact iff_of_true ⟨some id, rfl⟩ ⟨id, rfl⟩

end Cell

/-- Each of the first seven numbers is the place of a day in the week. -/
theorem Weekday.exists_index {index : Nat} (small : index < 7) :
    ∃ day : Weekday, index = day.index := by
  -- The days are listed, and the number is a place in the list.
  have found : ofIndex? index = some all[index] := List.getElem?_eq_getElem small
  exact ⟨all[index], ofIndex?_eq_some.mp found⟩

/-- A new meeting as it stands in the schedule of a subject. -/
def NewMeeting.slot (meeting : NewMeeting) (slotId subjectId : Uuid) : MeetingSlot :=
  ⟨slotId, subjectId, meeting.day, ⟨meeting.start, meeting.finish⟩, meeting.roomId⟩

/-- A meeting of a schedule as one that is still to be added. -/
def MeetingSlot.asNew (slot : MeetingSlot) : NewMeeting :=
  ⟨slot.day, slot.time.start, slot.time.finish, slot.roomId⟩

/-- The meetings that can be stored are those that are accepted. -/
theorem MeetingSlot.timeRange_asNew {slot : MeetingSlot} :
    slot.asNew.timeRange = .ok slot.time ↔ slot.IsStorable := by
  -- The day and the two times are the ones that are looked at, and nothing else is.
  rw [NewMeeting.timeRange_eq_ok, and_iff_right (by rfl)]
  exact ⟨fun accepted => ⟨accepted.1, accepted.2.1, accepted.2.2⟩,
    fun storable => ⟨storable.start_whole, storable.finish_whole, storable.ordered⟩⟩

/-- A meeting is refused for a fraction of a second, or because it does not end after it starts. -/
theorem NewMeeting.exists_timeRange_error {meeting : NewMeeting} :
    (∃ refusal, meeting.timeRange = .error refusal) ↔
      meeting.start.nano ≠ 0 ∨ meeting.finish.nano ≠ 0 ∨ meeting.finish ≤ meeting.start := by
  rw [exists_error_iff]
  -- A meeting is accepted only where none of the three faults is found.
  constructor
  · intro refused
    -- Without any fault the meeting would be accepted, as the one at its own two times.
    refine Decidable.byContradiction fun sound => ?_
    rw [not_or, not_or, Decidable.not_not, Decidable.not_not] at sound
    obtain ⟨start_whole, finish_whole, notEmpty⟩ := sound
    exact refused _ (timeRange_eq_ok.mpr
      ⟨rfl, start_whole, finish_whole, Nat.lt_of_not_le notEmpty⟩)
  · intro fault time accepted
    obtain ⟨-, start_whole, finish_whole, ordered⟩ := timeRange_eq_ok.mp accepted
    -- Each fault goes against one of the conditions under which a meeting is accepted.
    rcases fault with fraction | fraction | empty
    · exact fraction start_whole
    · exact fraction finish_whole
    · exact Nat.not_le_of_lt ordered empty

namespace MeetingRow

/-- The identifiers of a row can be read, where that of the room may be missing. -/
structure HasIds (row : MeetingRow) : Prop where
  slot : row.slotId.SpellsId
  subject : row.subjectId.SpellsId
  room : row.roomId = .null ∨ row.roomId.SpellsId

variable {row : MeetingRow}

/-- A row that holds the time of a meeting that can be stored is within the bounds. -/
theorem IsTimeOf.inRange {slot : MeetingSlot} (isTime : row.IsTimeOf slot)
    (storable : slot.IsStorable) : row.InRange := by
  -- The numbers of the row are those of the row that the meeting is stored in.
  obtain ⟨weekday, start, finish, weekday_eq, start_eq, finish_eq, bounds⟩ :=
    inRange_ofMeeting storable
  exact ⟨weekday, start, finish, isTime.weekday.trans weekday_eq, isTime.startSecond.trans start_eq,
    isTime.endSecond.trans finish_eq, bounds⟩

/-- Within the bounds each row holds the time of a meeting, whatever identifiers that one has. -/
theorem InRange.exists_isTimeOf (inRange : row.InRange) (slotId subjectId : Uuid)
    (roomId : Option Uuid) : ∃ slot : MeetingSlot, row.IsTimeOf slot ∧ slot.IsStorable ∧
      slot.slotId = slotId ∧ slot.subjectId = subjectId ∧ slot.roomId = roomId := by
  obtain ⟨weekday, first, last, weekday_eq, first_eq, last_eq, bounds⟩ := inRange
  -- The weekday is one of seven numbers, and the times are seconds of a day.
  obtain ⟨day, isDay⟩ := Weekday.exists_index (show weekday.toNat < 7 by omega)
  let start : TimeOfDay := ⟨first.toNat, 0, by omega, by decide⟩
  let finish : TimeOfDay := ⟨last.toNat, 0, by omega, by decide⟩
  -- Each number of the row is that of the part of a meeting which was made from it.
  have weekday_is : weekday = day.index := by omega
  have first_is : first = start.second := by dsimp only [start]; omega
  have last_is : last = finish.second := by dsimp only [finish]; omega
  -- The bounds of the table keep the two times in order.
  have ordered : start < finish :=
    (TimeOfDay.lt_iff_second_lt rfl rfl).mpr (by omega)
  exact ⟨⟨slotId, subjectId, day, ⟨start, finish⟩, roomId⟩,
    ⟨weekday_eq.trans (congrArg _ weekday_is), first_eq.trans (congrArg _ first_is),
      last_eq.trans (congrArg _ last_is)⟩, ⟨rfl, rfl, ordered⟩, rfl, rfl, rfl⟩

/-- A row can be read when it is within the bounds and has its identifiers, and only then. -/
theorem exists_decode_iff : (∃ slot, row.decode = .ok slot) ↔ row.InRange ∧ row.HasIds := by
  constructor
  · -- What was read tells the time of a meeting, and each identifier.
    rintro ⟨slot, decoded⟩
    obtain ⟨isTime, storable, slotId, subjectId, roomId⟩ := decode_eq_ok.mp decoded
    exact ⟨isTime.inRange storable, Cell.exists_readId.mp ⟨_, slotId⟩,
      Cell.exists_readId.mp ⟨_, subjectId⟩, Cell.exists_readOption_readId.mp ⟨_, roomId⟩⟩
  · -- The identifiers that are read are those of the meeting that the row holds the time of.
    rintro ⟨inRange, ids⟩
    obtain ⟨slotId, slotId_eq⟩ := Cell.exists_readId.mpr ids.slot
    obtain ⟨subjectId, subjectId_eq⟩ := Cell.exists_readId.mpr ids.subject
    obtain ⟨roomId, roomId_eq⟩ := Cell.exists_readOption_readId.mpr ids.room
    obtain ⟨slot, isTime, storable, rfl, rfl, rfl⟩ :=
      inRange.exists_isTimeOf slotId subjectId roomId
    exact ⟨slot, decode_eq_ok.mpr ⟨isTime, storable, slotId_eq, subjectId_eq, roomId_eq⟩⟩

/--
Meetings and the rows that can be read correspond one to one.
An accepted meeting has a row within the bounds and is read back from it with its day, start, end
and room; a refused one is not at whole seconds or does not end after it starts.
A row within the bounds is read, if its identifiers can be, as a meeting that is accepted and whose
row has the same numbers; no other row is read at all.
-/
theorem decode_exact :
    (∀ (meeting : NewMeeting) (slotId subjectId : Uuid),
      let slot := meeting.slot slotId subjectId
      (∀ time, meeting.timeRange = .ok time →
        time = slot.time ∧ (ofMeeting slot).InRange ∧ (ofMeeting slot).decode = .ok slot) ∧
      ((∃ refusal, meeting.timeRange = .error refusal) ↔
        meeting.start.nano ≠ 0 ∨ meeting.finish.nano ≠ 0 ∨ meeting.finish ≤ meeting.start)) ∧
    (∀ row : MeetingRow, row.InRange → row.HasIds → ∃ slot, row.decode = .ok slot ∧
      slot.asNew.timeRange = .ok slot.time ∧ (ofMeeting slot).weekday = row.weekday ∧
        (ofMeeting slot).startSecond = row.startSecond ∧
        (ofMeeting slot).endSecond = row.endSecond) ∧
    ∀ row : MeetingRow, ¬ (row.InRange ∧ row.HasIds) → ∃ error, row.decode = .error error := by
  refine ⟨fun meeting slotId subjectId => ⟨fun time accepted => ?_,
    NewMeeting.exists_timeRange_error⟩, fun row inRange ids => ?_, fun row outside => ?_⟩
  · -- An accepted meeting is whole and in order, which is what its row needs.
    obtain ⟨rfl, start_whole, finish_whole, ordered⟩ := NewMeeting.timeRange_eq_ok.mp accepted
    have storable : (meeting.slot slotId subjectId).IsStorable :=
      ⟨start_whole, finish_whole, ordered⟩
    exact ⟨rfl, inRange_ofMeeting storable, decode_ofMeeting storable⟩
  · -- What is read from the row has the numbers of the row, and so they are those of its own row.
    obtain ⟨slot, decoded⟩ := exists_decode_iff.mpr ⟨inRange, ids⟩
    obtain ⟨isTime, storable, -⟩ := decode_eq_ok.mp decoded
    exact ⟨slot, decoded, MeetingSlot.timeRange_asNew.mpr storable, isTime.weekday.symm,
      isTime.startSecond.symm, isTime.endSecond.symm⟩
  · -- A row that could be read would be within the bounds and have its identifiers.
    exact exists_error_iff.mpr fun slot decoded => outside (exists_decode_iff.mp ⟨slot, decoded⟩)

/-- A leap second is kept as the second before it and more, and no meeting ends there. -/
example :
    let leap : TimeOfDay := ⟨86399, billion, by decide, by decide⟩
    (NewMeeting.mk .monday (.ofHour 9) leap none).timeRange = .error (.fractionalSeconds leap) := by
  rfl

end MeetingRow

end CourseRegistry
