import CourseRegistry.Refusal
import CourseRegistry.Time.Weekday
import CourseRegistry.Uuid

/-! Weekly meetings of a subject, and when two of them clash. -/

namespace CourseRegistry

/-- A stretch of a day, from its start up to but without its end. -/
structure TimeRange where
  /-- The first moment. -/
  start : TimeOfDay
  /-- The moment after the last. -/
  finish : TimeOfDay
deriving DecidableEq

namespace TimeRange

/-- The stretch between two times, which must not be empty. -/
def between (start finish : TimeOfDay) : Except Refusal TimeRange :=
  -- A stretch that ends when it starts is empty too.
  if finish ≤ start then .error (.emptyMeeting start finish) else .ok ⟨start, finish⟩

/-- Two stretches overlap when each starts before the other ends. -/
def overlaps (a b : TimeRange) : Bool :=
  -- An end is not part of its stretch, so that one may start when the other ends.
  decide (a.start < b.finish) && decide (b.start < a.finish)

end TimeRange

/-- A weekly meeting of a subject. -/
structure MeetingSlot where
  /-- The identifier of the meeting. -/
  slotId : Uuid
  /-- The subject that meets. -/
  subjectId : Uuid
  /-- The day of the week. -/
  day : Weekday
  /-- The time of that day. -/
  time : TimeRange
  /-- The room, if one is assigned. -/
  roomId : Option Uuid
deriving DecidableEq

/-- Two meetings clash when they overlap on the same day. -/
def MeetingSlot.clashesWith (a b : MeetingSlot) : Bool :=
  a.day == b.day && a.time.overlaps b.time

/-- The first of the held meetings that clashes with a wanted one. -/
def firstClash? (held wanted : List MeetingSlot) : Option MeetingSlot :=
  -- What is held is gone through in order, and each meeting is compared with all that is wanted.
  held.find? fun slot => wanted.any (·.clashesWith slot)

/-- A meeting to be added to a subject. -/
structure NewMeeting where
  /-- The day of the week. -/
  day : Weekday
  /-- When it starts. -/
  start : TimeOfDay
  /-- When it ends. -/
  finish : TimeOfDay
  /-- The room, if one is assigned. -/
  roomId : Option Uuid
deriving DecidableEq

/-- The stretch of the day that a meeting takes; it starts and ends at a whole second. -/
def NewMeeting.timeRange (meeting : NewMeeting) : Except Refusal TimeRange :=
  -- Only whole seconds are stored, so that no fraction may be lost.
  if meeting.start.nano ≠ 0 then .error (.fractionalSeconds meeting.start)
  else if meeting.finish.nano ≠ 0 then .error (.fractionalSeconds meeting.finish)
  else TimeRange.between meeting.start meeting.finish

end CourseRegistry
