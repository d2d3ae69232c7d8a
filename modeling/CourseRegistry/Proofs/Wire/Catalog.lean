import CourseRegistry.Proofs.Wire.Schedule
import CourseRegistry.Wire.Catalog

/-! The catalogue's records read back from their JSON forms. -/

namespace CourseRegistry

open Json

variable {origin : Origin}

namespace Json

/-- A count reads back, whatever number of 32 bits it is. -/
@[simp] theorem asCount_count (value : UInt32) : asCount origin (count value) = .ok value :=
  asCount_nat value

/-- It is written in figures that a text can hold as they are. -/
@[simp] theorem isPlain_count (value : UInt32) : (count value).isPlain = true := by rfl

/-- A count has nothing inside of it, so that it can be held back anywhere. -/
@[simp] theorem canHold_count (room : Nat) (value : UInt32) : canHold room (count value) = true :=
  canHold_nat value

/-- A number is not written as nothing. -/
@[simp] theorem count_ne_null (value : UInt32) : count value ≠ .null := by
  intro same
  cases same

end Json

-- All records without parts of their own are read in one pass, in which each member has its field.

namespace Department

/-- A department as clocks show the instant since when it is there. -/
def shown (department : Department) : Department :=
  { department with createdAt := department.createdAt.shown }

/-- The only time of a department. -/
def times (department : Department) : List TimeOfDay := [department.createdAt.time]

/-- A department is shown as itself if that time is. -/
theorem shown_eq_iff (department : Department) :
    department.shown = department ↔ ∀ time ∈ department.times, time.IsOnClock := by
  obtain ⟨departmentId, name, createdAt⟩ := department
  simp [shown, times, Instant.shown_eq_iff, Instant.IsOnClock]

/-- A department reads back from its members, the instant as clocks show it. -/
theorem ofJson_toJson (department : Department) :
    ofJson origin department.toJson = .ok department.shown := by
  -- Of the object it is enough that each member has its field and that no name stands twice.
  have found : find fields origin department.toJson = .ok ⟨origin.inside, _⟩ :=
    find_object (by simp) (by simp [fields, isTaken])
  simp [ofJson, found, Found.required, shown]

/-- All that is written of it can stand in a text as it is. -/
theorem isPlain_toJson (department : Department) : department.toJson.isPlain = true := by
  simp [toJson]

end Department

namespace Professor

/-- A professor as clocks show the instant since when it is there. -/
def shown (professor : Professor) : Professor :=
  { professor with createdAt := professor.createdAt.shown }

/-- The only time of a professor. -/
def times (professor : Professor) : List TimeOfDay := [professor.createdAt.time]

/-- A professor is shown as itself if that time is. -/
theorem shown_eq_iff (professor : Professor) :
    professor.shown = professor ↔ ∀ time ∈ professor.times, time.IsOnClock := by
  obtain ⟨professorId, name, email, departmentId, createdAt⟩ := professor
  simp [shown, times, Instant.shown_eq_iff, Instant.IsOnClock]

/-- A professor reads back, with or without a department. -/
theorem ofJson_toJson (professor : Professor) :
    ofJson origin professor.toJson = .ok professor.shown := by
  -- The name of the department's identifier is there in both cases, at times with null behind
  -- it.
  have found : find fields origin professor.toJson = .ok ⟨origin.inside, _⟩ :=
    find_object (by simp) (by simp [fields, isTaken])
  simp [ofJson, found, Found.required, Found.optional, shown]

/-- All that is written of a professor can stand in a text as it is. -/
theorem isPlain_toJson (professor : Professor) : professor.toJson.isPlain = true := by
  simp [toJson]

end Professor

namespace Room

/-- A room as clocks show the instant since when it is there. -/
def shown (room : Room) : Room := { room with createdAt := room.createdAt.shown }

/-- The only time of a room. -/
def times (room : Room) : List TimeOfDay := [room.createdAt.time]

/-- A room is shown as itself if that time is. -/
theorem shown_eq_iff (room : Room) :
    room.shown = room ↔ ∀ time ∈ room.times, time.IsOnClock := by
  obtain ⟨roomId, name, building, createdAt⟩ := room
  simp [shown, times, Instant.shown_eq_iff, Instant.IsOnClock]

/-- A room reads back, with or without a building. -/
theorem ofJson_toJson (room : Room) : ofJson origin room.toJson = .ok room.shown := by
  -- A building that is not known is written as null, which is read as none.
  have found : find fields origin room.toJson = .ok ⟨origin.inside, _⟩ :=
    find_object (by simp) (by simp [fields, isTaken])
  simp [ofJson, found, Found.required, Found.optional, shown]

/-- All that is written of a room can stand in a text as it is. -/
theorem isPlain_toJson (room : Room) : room.toJson.isPlain = true := by
  simp [toJson]

end Room

namespace Student

/-- A student as clocks show the instant since when it is there. -/
def shown (student : Student) : Student := { student with createdAt := student.createdAt.shown }

/-- The only time of a student. -/
def times (student : Student) : List TimeOfDay := [student.createdAt.time]

/-- A student is shown as itself if that time is. -/
theorem shown_eq_iff (student : Student) :
    student.shown = student ↔ ∀ time ∈ student.times, time.IsOnClock := by
  obtain ⟨studentId, studentNumber, name, departmentId, grade, createdAt⟩ := student
  simp [shown, times, Instant.shown_eq_iff, Instant.IsOnClock]

/-- A student reads back, with or without a department and a grade. -/
theorem ofJson_toJson (student : Student) : ofJson origin student.toJson = .ok student.shown := by
  -- A grade that is not known is null, which is not the text that spells it.
  have found : find fields origin student.toJson = .ok ⟨origin.inside, _⟩ :=
    find_object (by simp) (by simp [fields, isTaken])
  simp [ofJson, found, Found.required, Found.optional, shown]

/-- All that is written of a student can stand in a text as it is. -/
theorem isPlain_toJson (student : Student) : student.toJson.isPlain = true := by
  simp [toJson]

end Student

namespace Subject

/-- A subject as clocks show the times of its meetings and the instant since when it is there. -/
def shown (subject : Subject) : Subject :=
  { subject with
    createdAt := subject.createdAt.shown
    schedule := subject.schedule.map MeetingSlot.shown }

/-- The times of a subject, with those of its meetings. -/
def times (subject : Subject) : List TimeOfDay :=
  subject.createdAt.time :: subject.schedule.flatMap MeetingSlot.times

/-- A subject is shown as itself if all of its times are. -/
theorem shown_eq_iff (subject : Subject) :
    subject.shown = subject ↔ ∀ time ∈ subject.times, time.IsOnClock := by
  obtain ⟨subjectId, name, credits, capacity, semester, professorId, departmentId, createdAt,
    schedule⟩ := subject
  simp only [shown, times, Subject.mk.injEq, true_and, Instant.shown_eq_iff, Instant.IsOnClock,
    MeetingSlot.map_shown_eq_iff, List.forall_mem_cons]

/-- A subject reads back from its members, wherever they were found. -/
@[simp] theorem ofFound_members (subject : Subject) :
    ofFound ⟨origin, subject.members⟩ = .ok subject.shown := by
  simp [ofFound, members, Found.required, Found.optional, shown]

/-- Each of its members has a field that takes it. -/
@[simp] theorem findMembers_members (subject : Subject) :
    findMembers fields origin [] subject.members = .ok subject.members :=
  findMembers_nil (by simp [members]) (by simp [members, fields, isTaken])

/-- So it does from an object that has no members but these. -/
theorem ofJson_toJson (subject : Subject) :
    ofJson origin subject.toJson = .ok subject.shown := by
  simp [ofJson, toJson, find]

/-- Each member of a subject can stand in a text as it is. -/
@[simp] theorem membersPlain_members (subject : Subject) :
    membersPlain subject.members = true := by
  simp [members]

/-- And so can the object that is made of them. -/
theorem isPlain_toJson (subject : Subject) : subject.toJson.isPlain = true :=
  subject.membersPlain_members

/-- The members of a subject can be held back where the list of its meetings has room. -/
theorem canHoldMembers_members {room : Nat} (subject : Subject) (deep : 2 < room) :
    canHoldMembers room subject.members = true := by
  -- The list takes some of the room, and each meeting in it some of what is left.
  have listed : 1 < room := by omega
  have inside : 1 < room - 1 := by omega
  simp [members, listed, inside]

end Subject

namespace NewSubject

/-- A subject to add reads back, with or without the references that it names. -/
theorem ofJson_toJson (input : NewSubject) : ofJson origin input.toJson = .ok input := by
  -- The references are members in any case, unlike those of a patch.
  have found : find fields origin input.toJson = .ok ⟨origin.inside, _⟩ :=
    find_object (by simp) (by simp [fields, isTaken])
  simp [ofJson, found, Found.required, Found.optional]

/-- All that is written of it can stand in a text as it is. -/
theorem isPlain_toJson (input : NewSubject) : input.toJson.isPlain = true := by
  simp [toJson]

end NewSubject

namespace SubjectPatch

/-- Changes read back, and with them whether a reference stays, goes or is another one. -/
theorem ofJson_toJson (patch : SubjectPatch) : ofJson origin patch.toJson = .ok patch := by
  obtain ⟨name, credits, capacity, semester, professorId, departmentId⟩ := patch
  -- Of the two references each may be absent, so that there are four shapes of the object.
  have found : find fields origin (toJson ⟨name, credits, capacity, semester, professorId,
      departmentId⟩) = .ok ⟨origin.inside, _⟩ := find_object
    (by cases professorId <;> cases departmentId <;> simp [changeMember])
    (by cases professorId <;> cases departmentId <;> simp [changeMember, fields, isTaken])
  rw [ofJson, found, ok_bind]
  -- An absent member is no change, and null is the change to nothing.
  cases professorId <;> cases departmentId <;> simp [changeMember, change, Found.optional]

/-- All that is written of a patch can stand in a text as it is. -/
theorem isPlain_toJson (patch : SubjectPatch) : patch.toJson.isPlain = true := by
  obtain ⟨name, credits, capacity, semester, professorId, departmentId⟩ := patch
  -- An absent reference has no member that could be other than plain.
  cases professorId <;> cases departmentId <;> simp [toJson, changeMember]

end SubjectPatch

namespace SubjectListing

/-- A listing as clocks show the times of its subject. -/
def shown (listing : SubjectListing) : SubjectListing :=
  { listing with subject := listing.subject.shown }

/-- The times of a listing are those of its subject. -/
def times (listing : SubjectListing) : List TimeOfDay := listing.subject.times

/-- A listing is shown as itself if its subject is. -/
theorem shown_eq_iff (listing : SubjectListing) :
    listing.shown = listing ↔ ∀ time ∈ listing.times, time.IsOnClock := by
  obtain ⟨subject, enrolled, remaining⟩ := listing
  simp [shown, times, Subject.shown_eq_iff]

/-- The members of the subject are held back from a listing, which is left with its counts. -/
theorem split_toJson (listing : SubjectListing) :
    split fields .start listing.toJson =
      .ok (⟨.text 127, [("enrolled", .count listing.enrolled),
        ("remaining", .count listing.remaining)]⟩, ⟨.held, listing.subject.members⟩) := by
  -- No name of a subject's member is one of the listing's own.
  have strange : listing.subject.members.all (isStrange fields) = true := by
    simp [Subject.members, fields, isStrange]
  have room : canHoldMembers 127 listing.subject.members = true :=
    listing.subject.canHoldMembers_members (by decide)
  -- The counts behind the subject are taken, and what is held back stays as it is.
  have counts : splitMembers fields (.text 127) [] listing.subject.members
      [("enrolled", .count listing.enrolled), ("remaining", .count listing.remaining)] =
        .ok ([("enrolled", .count listing.enrolled), ("remaining", .count listing.remaining)],
          listing.subject.members) := by
    simp [splitMembers, fields]
  simp only [split, toJson, Origin.start, Origin.inside, splitMembers_held room strange,
    List.nil_append, counts, ok_bind]

/-- A listing reads back, the subject from among its own members. -/
theorem ofJson_toJson (listing : SubjectListing) :
    ofJson .start listing.toJson = .ok listing.shown := by
  -- The subject is read from what was held back, and each count from its own member.
  simp [ofJson, split_toJson, Found.narrow, Found.required, shown]

/-- All that is written of a listing can stand in a text as it is. -/
theorem isPlain_toJson (listing : SubjectListing) : listing.toJson.isPlain = true := by
  simp [toJson]

end SubjectListing

end CourseRegistry
