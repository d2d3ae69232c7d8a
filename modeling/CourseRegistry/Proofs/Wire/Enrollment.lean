import CourseRegistry.Proofs.Wire.Catalog
import CourseRegistry.Wire.Enrollment

/-! Seats, answers, callers and policies read back from their JSON forms. -/

namespace CourseRegistry

open Json

variable {origin : Origin}

namespace Enrollment

/-- A seat as clocks show the instant at which it was given. -/
def shown (enrollment : Enrollment) : Enrollment :=
  { enrollment with enrolledAt := enrollment.enrolledAt.shown }

/-- The only time of a seat. -/
def times (enrollment : Enrollment) : List TimeOfDay := [enrollment.enrolledAt.time]

/-- A seat is shown as itself if that time is. -/
theorem shown_eq_iff (enrollment : Enrollment) :
    enrollment.shown = enrollment ↔ ∀ time ∈ enrollment.times, time.IsOnClock := by
  obtain ⟨enrollmentId, studentId, subjectId, enrolledAt⟩ := enrollment
  simp [shown, times, Instant.shown_eq_iff, Instant.IsOnClock]

/-- A seat reads back from its members, wherever they were found. -/
@[simp] theorem ofFound_members (enrollment : Enrollment) :
    ofFound ⟨origin, enrollment.members⟩ = .ok enrollment.shown := by
  simp [ofFound, members, Found.required, shown]

/-- Each of its members has a field that takes it. -/
@[simp] theorem findMembers_members (enrollment : Enrollment) :
    findMembers fields origin [] enrollment.members = .ok enrollment.members :=
  findMembers_nil (by simp [members]) (by simp [members, fields, isTaken])

/-- A seat reads back from an object that has no members but these. -/
@[simp] theorem ofJson_toJson (enrollment : Enrollment) :
    ofJson origin enrollment.toJson = .ok enrollment.shown := by
  simp [ofJson, toJson, find]

/-- Each member of a seat can stand in a text as it is. -/
@[simp] theorem membersPlain_members (enrollment : Enrollment) :
    membersPlain enrollment.members = true := by
  simp [members]

/-- And so can the object that is made of them. -/
@[simp] theorem isPlain_toJson (enrollment : Enrollment) : enrollment.toJson.isPlain = true :=
  enrollment.membersPlain_members

/-- The members of a seat are texts, which can be held back whatever room there is. -/
@[simp] theorem canHoldMembers_members (room : Nat) (enrollment : Enrollment) :
    canHoldMembers room enrollment.members = true := by
  -- None of them has a value inside of it.
  simp [members]

end Enrollment

namespace EnrollmentDetail

/-- A timetable entry as clocks show the times of the seat and of the meetings. -/
def shown (detail : EnrollmentDetail) : EnrollmentDetail :=
  { detail with
    enrollment := detail.enrollment.shown
    schedule := detail.schedule.map MeetingSlot.shown }

/-- The times of a timetable entry: that of the seat and those of the meetings. -/
def times (detail : EnrollmentDetail) : List TimeOfDay :=
  detail.enrollment.times ++ detail.schedule.flatMap MeetingSlot.times

/-- A timetable entry is shown as itself if all of its times are. -/
theorem shown_eq_iff (detail : EnrollmentDetail) :
    detail.shown = detail ↔ ∀ time ∈ detail.times, time.IsOnClock := by
  obtain ⟨enrollment, subjectName, professorId, schedule⟩ := detail
  simp only [shown, times, EnrollmentDetail.mk.injEq, true_and, Enrollment.shown_eq_iff,
    MeetingSlot.map_shown_eq_iff, List.forall_mem_append]

/-- The members that a timetable entry has besides those of the seat. -/
def ownMembers (detail : EnrollmentDetail) : List (String × Json) :=
  [("subject_name", .string detail.subjectName),
    ("professor_id", .ofOption Uuid.toJson detail.professorId),
    ("schedule", .array (detail.schedule.map MeetingSlot.toJson))]

/-- The members of the seat are held back from a timetable entry. -/
theorem split_toJson (detail : EnrollmentDetail) :
    split fields .start detail.toJson =
      .ok (⟨.text 127, detail.ownMembers⟩, ⟨.held, detail.enrollment.members⟩) := by
  -- No name of a seat's member is one of the entry's own.
  have strange : detail.enrollment.members.all (isStrange fields) = true := by
    simp [Enrollment.members, fields, isStrange]
  have held := splitMembers_held (detail.enrollment.canHoldMembers_members 127) strange
  -- What follows the seat is taken by the fields, and nothing more is held back.
  have own : splitMembers fields (.text 127) [] detail.enrollment.members detail.ownMembers =
      .ok (detail.ownMembers, detail.enrollment.members) := by
    simp [splitMembers, fields, ownMembers]
  have parts : detail.toJson = .object (detail.enrollment.members ++ detail.ownMembers) := rfl
  simp only [split, parts, Origin.start, Origin.inside, held, List.nil_append, own, ok_bind]

/-- A timetable entry reads back, the seat from among its own members. -/
theorem ofJson_toJson (detail : EnrollmentDetail) :
    ofJson .start detail.toJson = .ok detail.shown := by
  -- The seat is read from what was held back, the rest from the entry's own members.
  simp [ofJson, split_toJson, ownMembers, Found.narrow, Found.required, Found.optional, shown]

/-- All that is written of a timetable entry can stand in a text as it is. -/
theorem isPlain_toJson (detail : EnrollmentDetail) : detail.toJson.isPlain = true := by
  simp [toJson]

end EnrollmentDetail

namespace AdmissionPolicy

/-- A policy reads back from its only member. -/
theorem ofJson_toJson (policy : AdmissionPolicy) : ofJson origin policy.toJson = .ok policy := by
  have found : find fields origin policy.toJson = .ok ⟨origin.inside, _⟩ :=
    find_object (by simp) (by simp [fields, isTaken])
  simp [ofJson, found, Found.required]

/-- That member is a truth value, which can stand in a text as it is. -/
theorem isPlain_toJson (policy : AdmissionPolicy) : policy.toJson.isPlain = true := by
  simp [toJson]

end AdmissionPolicy

namespace Principal

section Members

variable {json : Json} {members : List (String × Json)}

/-- Where nothing was met before, a role is read and the way goes on with it. -/
theorem ofMembers_role :
    ofMembers origin .nothing (("role", json) :: members) =
      Role.ofJson origin json >>= fun role => ofMembers origin (.role role) members := by
  -- No part was met before, which leaves only this one way of reading it.
  rfl

/-- Once the role was met, what stands beside it is read as the role asks. -/
theorem ofMembers_besides (role : Role) :
    ofMembers origin (.role role) (("student_id", json) :: members) =
      besides role origin json >>= fun principal => ofMembers origin (.both principal) members := by
  -- An identifier that stands beside a role is read as that role asks.
  cases role <;> rfl

end Members

/-- A caller reads back by the role, which stands in front of what is beside it. -/
theorem ofJson_toJson (principal : Principal) : ofJson origin principal.toJson = .ok principal := by
  -- The role is written first, and it says whether an identifier follows.
  cases principal with
  | admin =>
    -- The word is all there is, so that the object ends behind it.
    have role : Role.ofJson origin.inside (.string "admin") = .ok .admin := by rfl
    rw [toJson, ofJson, ofMembers_role, role, ok_bind]
    rfl
  | student id =>
    -- What stands beside the word is the identifier, which reads back.
    have role : Role.ofJson origin.inside (.string "student") = .ok .student := by rfl
    rw [toJson, ofJson, ofMembers_role, role, ok_bind, ofMembers_besides, besides,
      Uuid.ofJson_toJson, map_ok, ok_bind]
    rfl

/-- What is written of a caller can stand in a text as it is. -/
theorem isPlain_toJson (principal : Principal) : principal.toJson.isPlain = true := by
  cases principal <;> simp [toJson]

end Principal

namespace Tagged

variable {known : String → Bool}

/-- Behind the word for the kind all members are held back. -/
theorem ofMembers_held (tag : String) {room : Nat} {members : List (String × Json)}
    (held : canHoldMembers room members = true)
    (untagged : ∀ member ∈ members, member.1 ≠ "outcome") (rest : List (String × Json)) :
    ofMembers known (.text room) (some tag) rest members =
      .ok ⟨tag, .object (rest ++ members)⟩ := by
  -- With the word for the kind at hand, only another such word would not be held back.
  induction members generalizing rest with
  | nil => rw [ofMembers, List.append_nil]
  | cons member members ih =>
    obtain ⟨memberHeld, membersHeld⟩ := Bool.and_eq_true_iff.mp held
    have further := ih membersHeld (fun other mem => untagged other (List.mem_cons_of_mem _ mem))
      (rest ++ [member])
    have other : member.1 ≠ "outcome" := untagged member List.mem_cons_self
    rw [List.append_assoc, List.singleton_append] at further
    simp only [ofMembers, if_neg other, Origin.canHold_text, memberHeld, if_true, further]

/-- An answer that starts with the word for its kind is read as that word and all other members. -/
theorem ofJson_object {tag : String} (isKnown : known tag = true) {rest : List (String × Json)}
    (held : canHoldMembers 127 rest = true) (untagged : ∀ member ∈ rest, member.1 ≠ "outcome") :
    ofJson known .start (.object (("outcome", .string tag) :: rest)) = .ok ⟨tag, .object rest⟩ := by
  -- The word is read first and known, and all behind it is held back.
  simp only [ofJson, Origin.start, Origin.inside, ofMembers, asSpelled, isKnown, if_true, ok_bind,
    ofMembers_held tag held untagged, List.nil_append]

end Tagged

namespace EnrollOutcome

/-- An answer as clocks show the instant at which a seat was given. -/
def shown : EnrollOutcome → EnrollOutcome
  | enrolled enrollment => enrolled enrollment.shown
  | outcome => outcome

/-- An answer has a time if a seat was given. -/
def times : EnrollOutcome → List TimeOfDay
  | enrolled enrollment => enrollment.times
  | _ => []

/-- An answer is shown as itself if its seat is. -/
theorem shown_eq_iff (outcome : EnrollOutcome) :
    outcome.shown = outcome ↔ ∀ time ∈ outcome.times, time.IsOnClock := by
  cases outcome <;> simp [shown, times, Enrollment.shown_eq_iff]

/-- What an answer is read from besides its kind. -/
def details : EnrollOutcome → List (String × Json)
  | enrolled enrollment => [("enrollment", enrollment.toJson)]
  | timeConflict id => [("conflicting_subject_id", id.toJson)]
  | _ => []

/-- The word that is spelled from the name of an answer is the one that it is known by. -/
theorem word_name (outcome : EnrollOutcome) : Tagged.word outcome.name = outcome.kind := by
  cases outcome <;> simp [name, kind, Tagged.word]

/-- An answer holds the word for its kind before all that is known besides. -/
theorem members_eq (outcome : EnrollOutcome) :
    outcome.members = ("outcome", .string outcome.kind) :: outcome.details := by
  cases outcome <;> simp [members, word_name, details]

/-- The kind of an answer and all that is known besides are told apart. -/
theorem tagged_toJson (outcome : EnrollOutcome) :
    Tagged.ofJson kinds.contains .start outcome.toJson =
      .ok ⟨outcome.kind, .object outcome.details⟩ := by
  -- Every kind is one that the reader knows, and no detail is named like the kind.
  have isKnown : kinds.contains outcome.kind = true := by cases outcome <;> rfl
  have held : canHoldMembers 127 outcome.details = true := by
    cases outcome <;> simp [details, Enrollment.toJson]
  have untagged : ∀ member ∈ outcome.details, member.1 ≠ "outcome" := by
    cases outcome <;> simp [details]
  rw [toJson, members_eq, Tagged.ofJson_object isKnown held untagged]

/-- An answer to asking for a seat reads back by its kind, with what is known besides. -/
theorem ofJson_toJson (outcome : EnrollOutcome) :
    ofJson .start outcome.toJson = .ok outcome.shown := by
  rw [ofJson, tagged_toJson, ok_bind]
  -- Each kind is read in its own way.
  cases outcome with
  | enrolled enrollment =>
    -- The seat is what is known besides.
    have found : find [enrollmentField] .held (.object [("enrollment", enrollment.toJson)]) =
        .ok ⟨Origin.held.inside, _⟩ := find_object (by simp) (by simp [enrollmentField, isTaken])
    simp [kind, details, found, Found.required, shown]
  | timeConflict id =>
    -- Or it is the subject that stands in the way.
    have found : find [conflictField] .held (.object [("conflicting_subject_id", id.toJson)]) =
        .ok ⟨Origin.held.inside, _⟩ := find_object (by simp) (by simp [conflictField, isTaken])
    simp [kind, details, found, Found.required, shown]
  | _ => rfl

/-- What is written of an answer can stand in a text as it is. -/
theorem isPlain_toJson (outcome : EnrollOutcome) : outcome.toJson.isPlain = true := by
  cases outcome <;> simp [toJson, members]

end EnrollOutcome

namespace CancelOutcome

/-- The word that is spelled from the name of an answer is the one that it is known by. -/
theorem word_name (outcome : CancelOutcome) : Tagged.word outcome.name = outcome.kind := by
  cases outcome <;> simp [name, kind, Tagged.word]

/-- An answer holds the word for its kind and nothing besides. -/
theorem members_eq (outcome : CancelOutcome) :
    outcome.members = [("outcome", .string outcome.kind)] := by
  rw [members, word_name]

/-- An answer to giving a seat back reads back by its kind. -/
theorem ofJson_toJson (outcome : CancelOutcome) : ofJson .start outcome.toJson = .ok outcome := by
  have isKnown : kinds.contains outcome.kind = true := by cases outcome <;> decide
  -- The word is known, and there is nothing behind it to be held back.
  have tagged : Tagged.ofJson kinds.contains .start outcome.toJson =
      .ok ⟨outcome.kind, .object []⟩ := by
    rw [toJson, members_eq]
    exact Tagged.ofJson_object isKnown rfl (by simp)
  rw [ofJson, tagged, ok_bind]
  cases outcome <;> rfl

/-- The word for its kind can stand in a text as it is. -/
theorem isPlain_toJson (outcome : CancelOutcome) : outcome.toJson.isPlain = true := by
  simp [toJson, members]

end CancelOutcome

/--
Every record that the registry and its clients exchange is read from its text, as clocks show it.
No text, no number and no list in it is lost, nor whether something is absent or nothing.
A time is kept exactly if clocks show it, which have leap seconds only at the end of a minute.
-/
theorem records_roundTrip :
    RoundTrips Department.shown Department.times Department.toJson Department.ofJson ∧
      RoundTrips Professor.shown Professor.times Professor.toJson Professor.ofJson ∧
      RoundTrips Room.shown Room.times Room.toJson Room.ofJson ∧
      RoundTrips Student.shown Student.times Student.toJson Student.ofJson ∧
      RoundTrips Subject.shown Subject.times Subject.toJson Subject.ofJson ∧
      RoundTrips id (fun _ => []) NewSubject.toJson NewSubject.ofJson ∧
      RoundTrips NewMeeting.shown NewMeeting.times NewMeeting.toJson NewMeeting.ofJson ∧
      RoundTrips id (fun _ => []) SubjectPatch.toJson SubjectPatch.ofJson ∧
      RoundTrips SubjectListing.shown SubjectListing.times SubjectListing.toJson
        SubjectListing.ofJson ∧
      RoundTrips MeetingSlot.shown MeetingSlot.times MeetingSlot.toJson MeetingSlot.ofJson ∧
      RoundTrips Enrollment.shown Enrollment.times Enrollment.toJson Enrollment.ofJson ∧
      RoundTrips EnrollmentDetail.shown EnrollmentDetail.times EnrollmentDetail.toJson
        EnrollmentDetail.ofJson ∧
      RoundTrips id (fun _ => []) AdmissionPolicy.toJson AdmissionPolicy.ofJson ∧
      RoundTrips id (fun _ => []) Principal.toJson Principal.ofJson ∧
      RoundTrips EnrollOutcome.shown EnrollOutcome.times EnrollOutcome.toJson
        EnrollOutcome.ofJson ∧
      RoundTrips id (fun _ => []) CancelOutcome.toJson CancelOutcome.ofJson :=
  -- Each record is plain and read as what it came from, and those without times are so as they are.
  ⟨.of_reads Department.isPlain_toJson Department.ofJson_toJson Department.shown_eq_iff,
    .of_reads Professor.isPlain_toJson Professor.ofJson_toJson Professor.shown_eq_iff,
    .of_reads Room.isPlain_toJson Room.ofJson_toJson Room.shown_eq_iff,
    .of_reads Student.isPlain_toJson Student.ofJson_toJson Student.shown_eq_iff,
    .of_reads Subject.isPlain_toJson Subject.ofJson_toJson Subject.shown_eq_iff,
    .of_timeless NewSubject.isPlain_toJson NewSubject.ofJson_toJson,
    .of_reads NewMeeting.isPlain_toJson NewMeeting.ofJson_toJson NewMeeting.shown_eq_iff,
    .of_timeless SubjectPatch.isPlain_toJson SubjectPatch.ofJson_toJson,
    .of_reads SubjectListing.isPlain_toJson SubjectListing.ofJson_toJson
      SubjectListing.shown_eq_iff,
    .of_reads MeetingSlot.isPlain_toJson MeetingSlot.ofJson_toJson MeetingSlot.shown_eq_iff,
    .of_reads Enrollment.isPlain_toJson Enrollment.ofJson_toJson Enrollment.shown_eq_iff,
    .of_reads EnrollmentDetail.isPlain_toJson EnrollmentDetail.ofJson_toJson
      EnrollmentDetail.shown_eq_iff,
    .of_timeless AdmissionPolicy.isPlain_toJson AdmissionPolicy.ofJson_toJson,
    .of_timeless Principal.isPlain_toJson Principal.ofJson_toJson,
    .of_reads EnrollOutcome.isPlain_toJson EnrollOutcome.ofJson_toJson EnrollOutcome.shown_eq_iff,
    .of_timeless CancelOutcome.isPlain_toJson CancelOutcome.ofJson_toJson⟩

/--
A meeting from ten o'clock and one second that runs on is read as one from a second later.
It is written like the other one, which can be stored, while the meeting itself cannot.
-/
theorem meeting_insideLeapSecond :
    let meeting : NewMeeting :=
      ⟨.monday, ⟨36000, billion, by decide, by decide⟩, ⟨39600, 0, by decide, by decide⟩, none⟩
    let later : NewMeeting :=
      ⟨.monday, ⟨36001, 0, by decide, by decide⟩, ⟨39600, 0, by decide, by decide⟩, none⟩
    decodeText NewMeeting.ofJson meeting.toJson.text = .ok later ∧ later ≠ meeting ∧
      later.timeRange = .ok ⟨later.start, later.finish⟩ ∧
      meeting.timeRange = .error (.fractionalSeconds meeting.start) := by
  intro meeting later
  have shown : meeting.shown = later := by decide
  -- What clocks show of the meeting is the later one, which can be checked.
  have read := decodeText_text meeting.isPlain_toJson meeting.ofJson_toJson
  exact ⟨shown ▸ read, by decide, by decide, by decide⟩

end CourseRegistry
