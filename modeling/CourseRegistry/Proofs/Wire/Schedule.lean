import CourseRegistry.Proofs.Json.Record
import CourseRegistry.Proofs.Time.Message
import CourseRegistry.Proofs.Uuid
import CourseRegistry.Wire.Schedule

/-!
Identifiers, times and meetings read back from their JSON forms.
A time is written as clocks show it, so that a leap second inside of a minute is read as the second
behind it.
-/

namespace CourseRegistry

open Json

section RoundTrip

variable {α : Type} {shown : α → α} {times : α → List TimeOfDay} {write : α → Json}
  {decode : Decode α}

/--
Every value reads back from its text, as clocks show it.
That is the value itself exactly if clocks show all of its times.
-/
structure RoundTrips (shown : α → α) (times : α → List TimeOfDay) (write : α → Json)
    (decode : Decode α) : Prop where
  reads : ∀ value, decodeText decode (write value).text = .ok (shown value)
  shown_eq_iff : ∀ value, shown value = value ↔ ∀ time ∈ times value, time.IsOnClock

/-- It is enough that the JSON values are plain and that they are read as what they came from. -/
theorem RoundTrips.of_reads (plain : ∀ value, (write value).isPlain = true)
    (reads : ∀ value, decode .start (write value) = .ok (shown value))
    (same : ∀ value, shown value = value ↔ ∀ time ∈ times value, time.IsOnClock) :
    RoundTrips shown times write decode where
  reads value := decodeText_text (plain value) (reads value)
  shown_eq_iff := same

/-- Values that have no times read back as they are. -/
theorem RoundTrips.of_timeless (plain : ∀ value, (write value).isPlain = true)
    (reads : ∀ value, decode .start (write value) = .ok value) :
    RoundTrips id (fun _ => []) write decode :=
  .of_reads plain reads fun _ => iff_of_true rfl nofun

end RoundTrip

variable {origin : Origin}

-- Identifiers, times and days are texts, which read back as what they spell.

namespace Uuid

/-- An identifier reads back from its text. -/
@[simp] theorem ofJson_toJson (id : Uuid) : ofJson origin id.toJson = .ok id :=
  asSpelled_string (ofText?_text id)

/-- A text between quotes can stand as it is. -/
@[simp] theorem isPlain_toJson (id : Uuid) : id.toJson.isPlain = true := by rfl

/-- It is no array and no object, so that it can be held back anywhere. -/
@[simp] theorem canHold_toJson (room : Nat) (id : Uuid) :
    Json.canHold room id.toJson = true := by rfl

/-- An identifier is not written as nothing. -/
@[simp] theorem toJson_ne_null (id : Uuid) : id.toJson ≠ .null := by
  intro same
  cases same

end Uuid

namespace TimeOfDay

/-- A time of day reads back as clocks show it. -/
@[simp] theorem ofJson_toJson (time : TimeOfDay) : ofJson origin time.toJson = .ok time.shown :=
  asSpelled_string (ofText?_text time)

/-- Its text can stand as it is. -/
@[simp] theorem isPlain_toJson (time : TimeOfDay) : time.toJson.isPlain = true := by rfl

/-- Wherever an identifier can be held back, a time can. -/
@[simp] theorem canHold_toJson (room : Nat) (time : TimeOfDay) :
    Json.canHold room time.toJson = true := by rfl

/-- A time of day can be held back wherever it comes from. -/
@[simp] theorem isHeld_toJson (time : TimeOfDay) : origin.canHold time.toJson = true :=
  Origin.canHold_string time.text

end TimeOfDay

namespace Weekday

/-- A day reads back from its name. -/
@[simp] theorem ofJson_toJson (day : Weekday) : ofJson origin day.toJson = .ok day :=
  asSpelled_string (ofText?_text day)

/-- The name of a day can stand as it is. -/
@[simp] theorem isPlain_toJson (day : Weekday) : day.toJson.isPlain = true := by rfl

/-- Neither does it need any room to be held back. -/
@[simp] theorem canHold_toJson (room : Nat) (day : Weekday) :
    Json.canHold room day.toJson = true := by rfl

end Weekday

namespace Instant

/-- An instant reads back as clocks show it. -/
@[simp] theorem ofJson_toJson (instant : Instant) :
    ofJson origin instant.toJson = .ok instant.shown :=
  asSpelled_string (ofText?_text instant)

/-- An instant is a text as well. -/
@[simp] theorem isPlain_toJson (instant : Instant) : instant.toJson.isPlain = true := by rfl

/-- And it is held back like one. -/
@[simp] theorem canHold_toJson (room : Nat) (instant : Instant) :
    Json.canHold room instant.toJson = true := by rfl

end Instant

namespace TimeRange

/-- A stretch of a day as clocks show it. -/
def shown (range : TimeRange) : TimeRange := ⟨range.start.shown, range.finish.shown⟩

/-- The times of a stretch of a day. -/
def times (range : TimeRange) : List TimeOfDay := [range.start, range.finish]

/-- A stretch of a day is shown as itself if its times are. -/
theorem shown_eq_iff (range : TimeRange) :
    range.shown = range ↔ ∀ time ∈ range.times, time.IsOnClock := by
  obtain ⟨start, finish⟩ := range
  simp [shown, times, TimeOfDay.shown_eq_iff]

/-- A stretch of a day reads back from its members, wherever they were found. -/
@[simp] theorem ofFound_members (range : TimeRange) :
    ofFound ⟨origin, range.members⟩ = .ok range.shown := by
  simp [ofFound, members, Found.required, shown]

/-- Each of its members has a field that takes it. -/
@[simp] theorem findMembers_members (range : TimeRange) :
    findMembers fields origin [] range.members = .ok range.members :=
  findMembers_nil (by simp [members]) (by simp [members, fields, isTaken])

end TimeRange

namespace MeetingSlot

/-- A meeting as clocks show its times. -/
def shown (slot : MeetingSlot) : MeetingSlot := { slot with time := slot.time.shown }

/-- The times of a meeting. -/
def times (slot : MeetingSlot) : List TimeOfDay := slot.time.times

/-- A meeting is shown as itself if its times are. -/
theorem shown_eq_iff (slot : MeetingSlot) :
    slot.shown = slot ↔ ∀ time ∈ slot.times, time.IsOnClock := by
  obtain ⟨slotId, subjectId, day, time, roomId⟩ := slot
  simp [shown, times, TimeRange.shown_eq_iff]

/-- A meeting reads back, the two times from among its own members. -/
@[simp] theorem ofJson_toJson (slot : MeetingSlot) :
    ofJson origin slot.toJson = .ok slot.shown := by
  -- The times have names that the meeting has no fields for, and are held back.
  have parted : split fields origin slot.toJson =
      .ok (⟨origin.inside, [("slot_id", slot.slotId.toJson), ("subject_id", slot.subjectId.toJson),
        ("day", slot.day.toJson), ("room_id", .ofOption Uuid.toJson slot.roomId)]⟩,
        ⟨.held, slot.time.members⟩) := by
    simp [split, splitMembers, toJson, fields, TimeRange.members]
  -- The meeting's own members are read first, and then the stretch from what was held back.
  simp [ofJson, parted, Found.narrow, Found.required, Found.optional, shown]

/-- Meetings read back one by one. -/
@[simp] theorem asList_toJson (slots : List MeetingSlot) :
    asList ofJson origin (.array (slots.map toJson)) = .ok (slots.map shown) :=
  asList_array ofJson_toJson slots

/-- Meetings are shown as themselves if the times of all of them are. -/
theorem map_shown_eq_iff (slots : List MeetingSlot) :
    slots.map shown = slots ↔ ∀ time ∈ slots.flatMap times, time.IsOnClock := by
  -- A list is kept exactly if its first meeting and all others are.
  induction slots with
  | nil => simp
  | cons slot slots ih =>
    rw [List.map_cons, List.cons.injEq, shown_eq_iff, ih, List.flatMap_cons, List.forall_mem_append]

/-- All that is written of a meeting can stand in a text as it is. -/
@[simp] theorem isPlain_toJson (slot : MeetingSlot) : slot.toJson.isPlain = true := by
  simp [toJson, TimeRange.members]

/-- A meeting can be held back where its object has room. -/
@[simp] theorem canHold_toJson {room : Nat} (deep : 1 < room) (slot : MeetingSlot) :
    canHold room slot.toJson = true := by
  simp [toJson, TimeRange.members, deep]

end MeetingSlot

namespace NewMeeting

/-- A meeting to be added as clocks show its times. -/
def shown (meeting : NewMeeting) : NewMeeting :=
  { meeting with start := meeting.start.shown, finish := meeting.finish.shown }

/-- The times of a meeting to be added. -/
def times (meeting : NewMeeting) : List TimeOfDay := [meeting.start, meeting.finish]

/-- A meeting to be added is shown as itself if its times are. -/
theorem shown_eq_iff (meeting : NewMeeting) :
    meeting.shown = meeting ↔ ∀ time ∈ meeting.times, time.IsOnClock := by
  obtain ⟨day, start, finish, roomId⟩ := meeting
  simp [shown, times, TimeOfDay.shown_eq_iff]

/-- A meeting to be added reads back. -/
theorem ofJson_toJson (meeting : NewMeeting) :
    ofJson origin meeting.toJson = .ok meeting.shown := by
  -- The room is written in any case, as null if there is none.
  have found : find fields origin meeting.toJson = .ok ⟨origin.inside, _⟩ :=
    find_object (by simp) (by simp [fields, isTaken])
  simp [ofJson, found, Found.required, Found.optional, shown]

/-- All that is written of it can stand in a text as it is. -/
theorem isPlain_toJson (meeting : NewMeeting) : meeting.toJson.isPlain = true := by
  simp [toJson]

end NewMeeting

end CourseRegistry
