import CourseRegistry.Catalog
import CourseRegistry.Enrollment

/-! The lines that the client prints. -/

namespace CourseRegistry.Client

/-- A text with blanks behind it, so that it takes some room at least. -/
def padRight (room : Nat) (text : String) : String :=
  text ++ String.ofList (List.replicate (room - text.length) ' ')

/-- A text with blanks in front of it. -/
def padLeft (room : Nat) (text : String) : String :=
  String.ofList (List.replicate (room - text.length) ' ') ++ text

/-- A meeting: its day, and when it starts and ends. -/
def meetingText (slot : MeetingSlot) : String :=
  slot.day.text ++ " " ++
    String.ofList (slot.time.start.clockChars ++ '-' :: slot.time.finish.clockChars)

/-- The meetings of a week. -/
def scheduleText (schedule : List MeetingSlot) : String :=
  ", ".intercalate (schedule.map meetingText)

/-- A subject with its seats. -/
def listingLine (listing : SubjectListing) : String :=
  let subject := listing.subject
  let seats := padLeft 3 (toString listing.enrolled) ++ "/" ++
    padRight 3 (toString subject.capacity)
  subject.subjectId.text ++ "  " ++ padRight 32 subject.name ++ " " ++
    padRight 8 subject.semester ++ " " ++ seats ++ " seats left: " ++
    padRight 3 (toString listing.remaining) ++ " " ++ scheduleText subject.schedule

/-- An entry of a timetable. -/
def timetableLine (detail : EnrollmentDetail) : String :=
  detail.enrollment.subjectId.text ++ "  " ++ padRight 32 detail.subjectName ++ " " ++
    scheduleText detail.schedule

end CourseRegistry.Client
