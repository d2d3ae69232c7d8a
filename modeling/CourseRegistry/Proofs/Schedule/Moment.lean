import CourseRegistry.Proofs.Schedule
import CourseRegistry.Proofs.Store.Run

/-!
What a clash means: two meetings clash when a moment of the week belongs to both of them.
Whether there is a clash depends only on the moments that either side takes up, and so neither on
the order of the meetings nor on how they are cut into shorter ones.
-/

namespace CourseRegistry

namespace TimeOfDay

/-- One time is before another one when less of the day has passed. -/
theorem lt_iff {a b : TimeOfDay} : a < b ↔ a.rank < b.rank := Iff.rfl

/-- One time is not after another one when no more of the day has passed. -/
theorem le_iff {a b : TimeOfDay} : a ≤ b ↔ a.rank ≤ b.rank := Iff.rfl

end TimeOfDay

namespace MeetingSlot

/-- A meeting ends after it starts. -/
def IsProper (slot : MeetingSlot) : Prop :=
  slot.time.start < slot.time.finish

instance (slot : MeetingSlot) : Decidable slot.IsProper :=
  inferInstanceAs (Decidable (_ < _))

/-- A meeting takes up the moments of its day from its start on and before its end. -/
def Covers (slot : MeetingSlot) (day : Weekday) (time : TimeOfDay) : Prop :=
  slot.day = day ∧ slot.time.start ≤ time ∧ time < slot.time.finish

/-- Two meetings share a moment of the week. -/
def SharesMoment (a b : MeetingSlot) : Prop :=
  ∃ day time, a.Covers day time ∧ b.Covers day time

/-- A meeting is held in two parts, the second of which starts when the first ends. -/
structure SplitsInto (slot first second : MeetingSlot) : Prop where
  first_day : first.day = slot.day
  second_day : second.day = slot.day
  starts : first.time.start = slot.time.start
  turns : first.time.finish = second.time.start
  ends : second.time.finish = slot.time.finish
  first_proper : first.IsProper
  second_proper : second.IsProper

variable {a b slot first second : MeetingSlot}

/-- Two meetings clash exactly when they share a moment. -/
theorem clashesWith_iff_sharesMoment (a_proper : a.IsProper) (b_proper : b.IsProper) :
    a.clashesWith b = true ↔ a.SharesMoment b := by
  rw [clashesWith_iff]
  constructor
  · rintro ⟨same, front, back⟩
    -- The later of the two starts is a moment of both meetings.
    rcases Nat.le_total a.time.start.rank b.time.start.rank with before | after
    · exact ⟨b.day, b.time.start, ⟨same, before, back⟩, rfl, Nat.le_refl _, b_proper⟩
    · exact ⟨a.day, a.time.start, ⟨rfl, Nat.le_refl _, a_proper⟩, same.symm, after, front⟩
  · -- A shared moment is not before either start, and before either end.
    rintro ⟨day, time, ⟨rfl, a_start, a_end⟩, same, b_start, b_end⟩
    exact ⟨same.symm, Nat.lt_of_le_of_lt a_start b_end, Nat.lt_of_le_of_lt b_start a_end⟩

/-- Two parts take up the same moments as the whole. -/
theorem SplitsInto.covers_iff (split : slot.SplitsInto first second) {day : Weekday}
    {time : TimeOfDay} :
    first.Covers day time ∨ second.Covers day time ↔ slot.Covers day time := by
  have first_proper := split.first_proper
  have second_proper := split.second_proper
  simp only [Covers, IsProper, TimeOfDay.lt_iff, TimeOfDay.le_iff, split.first_day,
    split.second_day, split.starts, split.turns, split.ends] at first_proper second_proper ⊢
  -- On the day of the meeting a moment is before the second part starts, or it is not.
  rw [← and_or_left]
  refine and_congr_right fun _ => ?_
  omega

end MeetingSlot

open MeetingSlot

/-- A moment of the week is taken up by one of some meetings. -/
def IsCovered (slots : List MeetingSlot) (day : Weekday) (time : TimeOfDay) : Prop :=
  ∃ slot ∈ slots, slot.Covers day time

/-- One of some meetings is held in two parts, and all others are as before. -/
def IsCut (slots parts : List MeetingSlot) : Prop :=
  ∃ front slot back first second, slots = front ++ slot :: back ∧
    parts = front ++ first :: second :: back ∧ slot.SplitsInto first second

section Coverage

variable {slots parts : List MeetingSlot}

/-- In another order meetings take up the same moments. -/
theorem isCovered_of_perm (perm : parts.Perm slots) (day : Weekday) (time : TimeOfDay) :
    IsCovered parts day time ↔ IsCovered slots day time := by
  -- Only what is among the meetings matters, and not where.
  simp only [IsCovered, perm.mem_iff]

/-- So they do when one of them is held in two parts. -/
theorem IsCut.isCovered_iff (cut : IsCut slots parts) (day : Weekday) (time : TimeOfDay) :
    IsCovered parts day time ↔ IsCovered slots day time := by
  obtain ⟨front, slot, back, first, second, rfl, rfl, split⟩ := cut
  -- The one meeting that is not there any more takes up what its two parts take up.
  simp only [IsCovered, List.mem_append, List.mem_cons, or_and_right, exists_or, exists_eq_left,
    ← split.covers_iff, or_assoc]

/-- The parts end after they start, as all others do. -/
theorem IsCut.isProper (cut : IsCut slots parts) (proper : ∀ slot ∈ slots, slot.IsProper) :
    ∀ part ∈ parts, part.IsProper := by
  obtain ⟨front, slot, back, first, second, rfl, rfl, split⟩ := cut
  intro part member
  -- Such a part is in front of the cut, one of the two new ones, or behind the cut.
  rcases List.mem_append.mp member with before | behind
  · exact proper part (List.mem_append_left _ before)
  · rcases List.mem_cons.mp behind with rfl | behind
    · exact split.first_proper
    · rcases List.mem_cons.mp behind with rfl | after
      · exact split.second_proper
      · exact proper part (List.mem_append_right _ (List.mem_cons_of_mem _ after))

end Coverage

section FirstClash

variable {held wanted : List MeetingSlot} (heldProper : ∀ slot ∈ held, slot.IsProper)
  (wantedProper : ∀ slot ∈ wanted, slot.IsProper)

include heldProper wantedProper

/-- A meeting that is held clashes with a wanted one when it shares a moment with it. -/
theorem any_clashesWith_iff {slot : MeetingSlot} (member : slot ∈ held) :
    wanted.any (·.clashesWith slot) = true ↔ ∃ other ∈ wanted, slot.SharesMoment other := by
  rw [List.any_eq_true]
  refine exists_congr fun other => and_congr_right fun other_mem => ?_
  -- It makes no difference which of the two is asked.
  rw [clashesWith_comm]
  exact clashesWith_iff_sharesMoment (heldProper slot member) (wantedProper other other_mem)

/-- No clash is found when no moment is taken up on both sides. -/
theorem firstClash?_eq_none_iff_moment : firstClash? held wanted = none ↔
    ¬ ∃ day time, IsCovered held day time ∧ IsCovered wanted day time := by
  rw [firstClash?, List.find?_eq_none]
  constructor
  · -- A shared moment is one of a clash, which is not found.
    rintro free ⟨day, time, ⟨slot, member, covers⟩, other, other_mem, other_covers⟩
    refine free slot member ((any_clashesWith_iff heldProper wantedProper member).mpr ?_)
    exact ⟨other, other_mem, day, time, covers, other_covers⟩
  · -- A clash has a moment, which is then taken up on both sides.
    intro free slot member clash
    obtain ⟨other, other_mem, day, time, covers, other_covers⟩ :=
      (any_clashesWith_iff heldProper wantedProper member).mp clash
    exact free ⟨day, time, ⟨slot, member, covers⟩, other, other_mem, other_covers⟩

/-- The clash that is found is the first meeting that shares a moment with a wanted one. -/
theorem firstClash?_eq_some_iff_moment {slot : MeetingSlot} :
    firstClash? held wanted = some slot ↔ ∃ earlier later, held = earlier ++ slot :: later ∧
      (∃ other ∈ wanted, slot.SharesMoment other) ∧
      ∀ before ∈ earlier, ∀ other ∈ wanted, ¬ before.SharesMoment other := by
  rw [firstClash?, List.find?_eq_some_iff_append]
  constructor
  · -- What the search passes over on its way shares no moment.
    rintro ⟨clash, earlier, later, rfl, free⟩
    refine ⟨earlier, later, rfl, ?_, fun before member other other_mem shared => ?_⟩
    · exact (any_clashesWith_iff heldProper wantedProper (by simp)).mp clash
    · have found := (any_clashesWith_iff heldProper wantedProper
        (List.mem_append_left _ member)).mpr ⟨other, other_mem, shared⟩
      simpa [found] using free before member
  · -- A meeting that shares a moment stops the search, unless an earlier one has stopped it.
    rintro ⟨earlier, later, rfl, shared, free⟩
    refine ⟨(any_clashesWith_iff heldProper wantedProper (by simp)).mpr shared,
      earlier, later, rfl, fun before member => ?_⟩
    rw [Bool.not_eq_true', Bool.eq_false_iff]
    intro clash
    obtain ⟨other, other_mem, moment⟩ := (any_clashesWith_iff heldProper wantedProper
      (List.mem_append_left _ member)).mp clash
    exact free before member other other_mem moment

/-- Meetings that take up the same moments give the same answer. -/
theorem firstClash?_eq_none_congr {heldToo wantedToo : List MeetingSlot}
    (heldTooProper : ∀ slot ∈ heldToo, slot.IsProper)
    (wantedTooProper : ∀ slot ∈ wantedToo, slot.IsProper)
    (sameHeld : ∀ day time, IsCovered heldToo day time ↔ IsCovered held day time)
    (sameWanted : ∀ day time, IsCovered wantedToo day time ↔ IsCovered wanted day time) :
    firstClash? heldToo wantedToo = none ↔ firstClash? held wanted = none := by
  rw [firstClash?_eq_none_iff_moment heldTooProper wantedTooProper,
    firstClash?_eq_none_iff_moment heldProper wantedProper]
  -- Either side depends on its moments alone.
  simp only [sameHeld, sameWanted]

/--
A clash is a moment of the week that is taken up on both sides.
The first meeting with such a moment is found, and whether there is one depends neither on which
side is which, nor on the order of the meetings, nor on whether one of them is cut in two.
-/
theorem firstClash?_meaning :
    (firstClash? held wanted = none ↔
        ¬ ∃ day time, IsCovered held day time ∧ IsCovered wanted day time) ∧
      (∀ slot, firstClash? held wanted = some slot ↔
        ∃ earlier later, held = earlier ++ slot :: later ∧
          (∃ other ∈ wanted, slot.SharesMoment other) ∧
          ∀ before ∈ earlier, ∀ other ∈ wanted, ¬ before.SharesMoment other) ∧
      (firstClash? held wanted = none ↔ firstClash? wanted held = none) ∧
      (∀ heldToo wantedToo, heldToo.Perm held → wantedToo.Perm wanted →
        (firstClash? heldToo wantedToo = none ↔ firstClash? held wanted = none)) ∧
      (∀ parts, IsCut held parts →
        (firstClash? parts wanted = none ↔ firstClash? held wanted = none)) ∧
      ∀ parts, IsCut wanted parts →
        (firstClash? held parts = none ↔ firstClash? held wanted = none) := by
  refine ⟨firstClash?_eq_none_iff_moment heldProper wantedProper,
    fun slot => firstClash?_eq_some_iff_moment heldProper wantedProper, ?_, ?_, ?_, ?_⟩
  · -- A moment is taken up on both sides whichever of them is named first.
    rw [firstClash?_eq_none_iff_moment heldProper wantedProper,
      firstClash?_eq_none_iff_moment wantedProper heldProper]
    simp only [and_comm]
  · -- Neither side has other meetings than before.
    intro heldToo wantedToo heldPerm wantedPerm
    exact firstClash?_eq_none_congr heldProper wantedProper
      (fun slot member => heldProper slot (heldPerm.mem_iff.mp member))
      (fun slot member => wantedProper slot (wantedPerm.mem_iff.mp member))
      (isCovered_of_perm heldPerm) (isCovered_of_perm wantedPerm)
  · -- The parts on the side that is held take up what the whole did.
    intro parts cut
    exact firstClash?_eq_none_congr heldProper wantedProper (cut.isProper heldProper) wantedProper
      cut.isCovered_iff fun _ _ => Iff.rfl
  · -- So do those on the side that is wanted.
    intro parts cut
    exact firstClash?_eq_none_congr heldProper wantedProper heldProper (cut.isProper wantedProper)
      (fun _ _ => Iff.rfl) cut.isCovered_iff

end FirstClash

/-- A meeting that goes on for the whole of a wanted one is found, behind one that has ended. -/
theorem firstClash?_meaning_sample :
    let slot (number : Nat) (start finish : Nat) : MeetingSlot :=
      ⟨.ofDigit number, .ofDigit 0, .monday, ⟨.ofHour start, .ofHour finish⟩, none⟩
    let held := [slot 1 8 10, slot 2 9 13]
    let wanted := [slot 3 10 12]
    let halves := [slot 4 10 11, slot 5 11 12]
    (∀ meeting ∈ held, meeting.IsProper) ∧ (∀ meeting ∈ wanted, meeting.IsProper) ∧
      firstClash? held wanted = some (slot 2 9 13) ∧
      (∃ day time, IsCovered held day time ∧ IsCovered wanted day time) ∧
      firstClash? wanted held ≠ none ∧ firstClash? held.reverse wanted ≠ none ∧
      IsCut wanted halves ∧ firstClash? held halves ≠ none := by
  intro slot held wanted halves
  have heldProper : ∀ meeting ∈ held, meeting.IsProper := by decide
  have wantedProper : ∀ meeting ∈ wanted, meeting.IsProper := by decide
  have found : firstClash? held wanted = some (slot 2 9 13) := by decide +kernel
  have notFree : firstClash? held wanted ≠ none := by simp [found]
  have cut : IsCut wanted halves := by
    refine ⟨[], slot 3 10 12, [], _, _, rfl, rfl, rfl, rfl, rfl, rfl, rfl, ?_, ?_⟩ <;> decide
  obtain ⟨moment, -, turned, order, -, cuts⟩ := firstClash?_meaning heldProper wantedProper
  exact ⟨heldProper, wantedProper, found, Classical.not_not.mp (mt moment.mpr notFree),
    mt turned.mpr notFree, mt (order _ _ held.reverse_perm (.refl _)).mp notFree, cut,
    mt (cuts halves cut).mp notFree⟩

end CourseRegistry
