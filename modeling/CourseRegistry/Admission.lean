import CourseRegistry.Enrollment

/-! The decision whether a student gets a seat. -/

namespace CourseRegistry

/-- What is looked at before a seat is given. -/
structure AdmissionPolicy where
  /-- Whether the timetable counts. -/
  checkTimeConflicts : Bool
deriving DecidableEq

namespace AdmissionPolicy

/-- Unless told otherwise, the timetable counts. -/
def standard : AdmissionPolicy := ⟨true⟩

/-- Only the number of seats counts. -/
def capacityOnly : AdmissionPolicy := ⟨false⟩

end AdmissionPolicy

/-- The seats of a subject and when it meets. -/
structure SeatState where
  capacity : UInt32
  enrolled : UInt32
  schedule : List MeetingSlot
deriving DecidableEq

/-- Everything that the decision depends on. -/
structure AdmissionSnapshot where
  /-- Whether the student holds a seat in the subject. -/
  alreadyEnrolled : Bool
  /-- The subject, if it exists. -/
  subject : Option SeatState
  /-- The meetings of all subjects that the student holds. -/
  held : List MeetingSlot
deriving DecidableEq

/-- What is decided: the seat, or an answer without one. -/
inductive Decision where
  | grant
  | reject (outcome : EnrollOutcome)
deriving DecidableEq

/-- A seat is given unless the student has it, it does not exist, it is taken or it clashes. -/
def decideAdmission (policy : AdmissionPolicy) (snapshot : AdmissionSnapshot) : Decision :=
  if snapshot.alreadyEnrolled then .reject .alreadyEnrolled
  else
    match snapshot.subject with
    | none => .reject .subjectNotFound
    | some seats =>
      -- There can be fewer seats than are taken, after their number was lowered.
      if seats.capacity ≤ seats.enrolled then .reject .capacityExceeded
      else if policy.checkTimeConflicts then
        match firstClash? snapshot.held seats.schedule with
        | some slot => .reject (.timeConflict slot.subjectId)
        | none => .grant
      else .grant

end CourseRegistry
