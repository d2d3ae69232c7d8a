import CourseRegistry.Json.Record
import CourseRegistry.Schedule
import CourseRegistry.Time.Instant

/-! The JSON forms of identifiers, times and meetings. -/

namespace CourseRegistry

open Json

namespace Uuid

/-- An identifier is a text. -/
def toJson (id : Uuid) : Json := .string id.text

/-- An identifier is read from a text. -/
def ofJson : Decode Uuid := asSpelled ofText?

end Uuid

namespace TimeOfDay

/-- A time of day is a text. -/
def toJson (time : TimeOfDay) : Json := .string time.text

/-- A time of day is read from a text. -/
def ofJson : Decode TimeOfDay := asSpelled ofText?

end TimeOfDay

namespace Weekday

/-- A day is a text. -/
def toJson (day : Weekday) : Json := .string day.text

/-- A day is read from a text. -/
def ofJson : Decode Weekday := asSpelled ofText?

end Weekday

namespace Instant

/-- An instant is a text. -/
def toJson (instant : Instant) : Json := .string instant.text

/-- An instant is read from a text. -/
def ofJson : Decode Instant := asSpelled ofText?

end Instant

namespace TimeRange

/-- The members that hold a stretch of a day. -/
def members (range : TimeRange) : List (String × Json) :=
  [("start", range.start.toJson), ("end", range.finish.toJson)]

/-- A stretch of a day as an object. -/
def toJson (range : TimeRange) : Json := .object range.members

/-- The fields of a stretch of a day. -/
def fields : List Field :=
  [.needed "start" TimeOfDay.ofJson, .needed "end" TimeOfDay.ofJson]

/-- A stretch of a day from its fields; nothing says that it ends after it starts. -/
def ofFound (found : Found) : Except Fault TimeRange := do
  let start ← found.required "start" TimeOfDay.ofJson
  let finish ← found.required "end" TimeOfDay.ofJson
  return ⟨start, finish⟩

/-- A stretch of a day is read from a record of its own. -/
def ofJson : Decode TimeRange := fun origin json => do
  ofFound (← find fields origin json)

end TimeRange

namespace MeetingSlot

/-- A meeting as an object, which has the two times among its own members. -/
def toJson (slot : MeetingSlot) : Json :=
  .object ([("slot_id", slot.slotId.toJson), ("subject_id", slot.subjectId.toJson),
    ("day", slot.day.toJson)] ++ slot.time.members ++
    [("room_id", .ofOption Uuid.toJson slot.roomId)])

/-- The fields of a meeting, without the two times. -/
def fields : List Field :=
  [.needed "slot_id" Uuid.ofJson, .needed "subject_id" Uuid.ofJson, .needed "day" Weekday.ofJson,
    .needed "room_id" (asOption Uuid.ofJson)]

/-- A meeting is read from an object, the two times after all other members. -/
def ofJson : Decode MeetingSlot := fun origin json => do
  let (found, rest) ← split fields origin json
  let slotId ← found.required "slot_id" Uuid.ofJson
  let subjectId ← found.required "subject_id" Uuid.ofJson
  let day ← found.required "day" Weekday.ofJson
  let time ← TimeRange.ofFound (← rest.narrow TimeRange.fields)
  let roomId ← found.optional "room_id" Uuid.ofJson
  return ⟨slotId, subjectId, day, time, roomId⟩

end MeetingSlot

namespace NewMeeting

/-- A meeting to be added, as an object. -/
def toJson (meeting : NewMeeting) : Json :=
  .object [("day", meeting.day.toJson), ("start", meeting.start.toJson),
    ("end", meeting.finish.toJson), ("room_id", .ofOption Uuid.toJson meeting.roomId)]

/-- The fields of a meeting to be added. -/
def fields : List Field :=
  [.needed "day" Weekday.ofJson, .needed "start" TimeOfDay.ofJson, .needed "end" TimeOfDay.ofJson,
    .sparing "room_id" (asOption Uuid.ofJson)]

/-- A meeting to be added is read from a record of its own. -/
def ofJson : Decode NewMeeting := fun origin json => do
  let found ← find fields origin json
  let day ← found.required "day" Weekday.ofJson
  let start ← found.required "start" TimeOfDay.ofJson
  let finish ← found.required "end" TimeOfDay.ofJson
  let roomId ← found.optional "room_id" Uuid.ofJson
  return ⟨day, start, finish, roomId⟩

end NewMeeting

end CourseRegistry
