import CourseRegistry.Access
import CourseRegistry.Admission
import CourseRegistry.Wire.Catalog

/-! The JSON forms of seats, answers, callers and policies. -/

namespace CourseRegistry

open Json

namespace Enrollment

/-- The members that hold a seat. -/
def members (enrollment : Enrollment) : List (String × Json) :=
  [("enrollment_id", enrollment.enrollmentId.toJson), ("student_id", enrollment.studentId.toJson),
    ("subject_id", enrollment.subjectId.toJson), ("enrolled_at", enrollment.enrolledAt.toJson)]

/-- A seat as an object. -/
def toJson (enrollment : Enrollment) : Json := .object enrollment.members

/-- The fields of a seat. -/
def fields : List Field :=
  [.needed "enrollment_id" Uuid.ofJson, .needed "student_id" Uuid.ofJson,
    .needed "subject_id" Uuid.ofJson, .needed "enrolled_at" Instant.ofJson]

/-- A seat from its fields. -/
def ofFound (found : Found) : Except Fault Enrollment := do
  let enrollmentId ← found.required "enrollment_id" Uuid.ofJson
  let studentId ← found.required "student_id" Uuid.ofJson
  let subjectId ← found.required "subject_id" Uuid.ofJson
  let enrolledAt ← found.required "enrolled_at" Instant.ofJson
  return ⟨enrollmentId, studentId, subjectId, enrolledAt⟩

/-- A seat is read from a record of its own. -/
def ofJson : Decode Enrollment := fun origin json => do
  ofFound (← find fields origin json)

end Enrollment

namespace EnrollmentDetail

/-- A seat with its subject, as one object. -/
def toJson (detail : EnrollmentDetail) : Json :=
  .object (detail.enrollment.members ++ [("subject_name", .string detail.subjectName),
    ("professor_id", .ofOption Uuid.toJson detail.professorId),
    ("schedule", .array (detail.schedule.map MeetingSlot.toJson))])

/-- The fields of a timetable entry, without the seat. -/
def fields : List Field :=
  [.needed "subject_name" asText, .needed "professor_id" (asOption Uuid.ofJson),
    .needed "schedule" (asList MeetingSlot.ofJson)]

/-- A timetable entry is read from an object, the seat after all other members. -/
def ofJson : Decode EnrollmentDetail := fun origin json => do
  let (found, rest) ← split fields origin json
  let enrollment ← Enrollment.ofFound (← rest.narrow Enrollment.fields)
  let subjectName ← found.required "subject_name" asText
  let professorId ← found.optional "professor_id" Uuid.ofJson
  let schedule ← found.required "schedule" (asList MeetingSlot.ofJson)
  return ⟨enrollment, subjectName, professorId, schedule⟩

end EnrollmentDetail

namespace AdmissionPolicy

/-- A policy as an object. -/
def toJson (policy : AdmissionPolicy) : Json :=
  .object [("check_time_conflicts", .bool policy.checkTimeConflicts)]

/-- The fields of a policy. -/
def fields : List Field := [.needed "check_time_conflicts" asBool]

/-- A policy is read from a record of its own. -/
def ofJson : Decode AdmissionPolicy := fun origin json => do
  let found ← find fields origin json
  let checkTimeConflicts ← found.required "check_time_conflicts" asBool
  return ⟨checkTimeConflicts⟩

end AdmissionPolicy

namespace Principal

/-- A caller as an object with the role and, for a student, the identifier. -/
def toJson : Principal → Json
  | admin => .object [("role", .string "admin")]
  | student id => .object [("role", .string "student"), ("student_id", id.toJson)]

/-- The two roles. -/
inductive Role where
  | admin | student

/-- The role that a word stands for. -/
def Role.ofWord? : String → Option Role
  | "admin" => some .admin
  | "student" => some .student
  | _ => none

/-- A role is read from the word for it, alone or as the only name in an object, with nothing. -/
def Role.ofJson : Decode Role
  | origin, .string word => asSpelled ofWord? origin (.string word)
  | _, .unpaired => .error .malformed
  | origin, .object ((word, value) :: rest) =>
    match ofWord? word, value with
    | some role, .null => if rest.isEmpty then .ok role else .error origin.stray
    | some _, value => .error value.mismatch
    -- An empty name may stand for none at all, which is no JSON; any other name is a wrong word.
    | none, value => .error (if word.isEmpty && !value.canPass then .malformed else .mismatched)
  | origin, _ => .error origin.stray

/-- What stands beside a role: nothing for the administrator, an identifier for a student. -/
def besides : Role → Decode Principal
  | .admin, _, .null => .ok admin
  | .admin, _, json => .error json.mismatch
  | .student, origin, json => student <$> Uuid.ofJson origin json

/-- The part of a caller's object that was met first. -/
inductive Pending where
  /-- Neither part. -/
  | nothing
  /-- The role. -/
  | role (role : Role)
  /-- The value that stands beside it, held back. -/
  | value (json : Json)
  /-- Both. -/
  | both (principal : Principal)

/-- The caller in the members of an object, in whichever order role and identifier come. -/
def ofMembers (origin : Origin) : Pending → List (String × Json) → Except Fault Principal
  | .both principal, [] => .ok principal
  | .role .admin, [] => .ok admin
  | _, [] => .error .mismatched
  | pending, (name, json) :: members =>
    if name = "role" then
      match pending with
      | .nothing => do ofMembers origin (.role (← Role.ofJson origin json)) members
      | .value value => do
        ofMembers origin (.both (← besides (← Role.ofJson origin json) .held value)) members
      | _ => .error .mismatched
    else if name = "student_id" then
      match pending with
      -- What the value has to be is not known before the role.
      | .nothing =>
        if origin.canHold json then ofMembers origin (.value json) members else .error .malformed
      | .role role => do ofMembers origin (.both (← besides role origin json)) members
      | _ => .error .mismatched
    else if json.canPass then ofMembers origin pending members
    else .error .malformed

/-- A caller is read from an object, or from a list of the role and what stands beside it. -/
def ofJson : Decode Principal
  | origin, .object members => ofMembers origin.inside .nothing members
  | origin, .array (role :: rest) => do
    let role ← Role.ofJson origin.inside role
    match rest with
    | [] => .error .mismatched
    | value :: extra =>
      let principal ← besides role origin.inside value
      if extra.isEmpty then .ok principal else .error origin.stray
  | _, .array [] => .error .mismatched
  | _, json => .error json.mismatch

end Principal

/-- A kind of answer and what is known of it: the values of a list or the members of an object. -/
structure Tagged where
  /-- The word for the kind. -/
  tag : String
  /-- Everything else, held back. -/
  body : Json

namespace Tagged

/-- The members of an object, of which one holds the word for the kind. -/
def ofMembers (known : String → Bool) (origin : Origin) :
    (tag : Option String) → (rest members : List (String × Json)) → Except Fault Tagged
  | some tag, rest, [] => .ok ⟨tag, .object rest⟩
  | none, _, [] => .error .mismatched
  | tag, rest, (name, json) :: members =>
    if name = "outcome" then
      match tag with
      | some _ => .error .mismatched
      | none => do
        let tag ← asSpelled (fun text => if known text then some text else none) origin json
        ofMembers known origin (some tag) rest members
    else if origin.canHold json then ofMembers known origin tag (rest ++ [(name, json)]) members
    else .error .malformed

/-- An answer is read from an object, or from a list that starts with the word for its kind. -/
def ofJson (known : String → Bool) : Decode Tagged
  | origin, .object members => ofMembers known origin.inside none [] members
  | origin, .array (tag :: rest) => do
    let tag ← asSpelled (fun text => if known text then some text else none) origin.inside tag
    if rest.all origin.inside.canHold then .ok ⟨tag, .array rest⟩ else .error .malformed
  | _, .array [] => .error .mismatched
  | _, json => .error json.mismatch

/-- A kind of which nothing more is known; an object may hold anything, a list nothing. -/
def bare {α : Type} (value : α) : Json → Except Fault α
  | .array (_ :: _) => .error .mismatched
  | _ => .ok value

/-- The word for a kind is its name in small letters, its parts held together by underscores. -/
def word (name : String) : String :=
  match name.toList with
  | [] => ""
  | first :: rest =>
    -- A capital begins a part, and the first one is not held to any before it.
    .ofList (first.toLower :: rest.flatMap fun c => if c.isUpper then ['_', c.toLower] else [c])

end Tagged

namespace EnrollOutcome

/-- The name of the kind of an answer. -/
def name : EnrollOutcome → String
  | enrolled _ => "Enrolled"
  | alreadyEnrolled => "AlreadyEnrolled"
  | subjectNotFound => "SubjectNotFound"
  | capacityExceeded => "CapacityExceeded"
  | timeConflict _ => "TimeConflict"

/-- The members that hold an answer. Its word is spelled from the name of its kind. -/
def members (outcome : EnrollOutcome) : List (String × Json) :=
  ("outcome", .string (Tagged.word outcome.name)) ::
    match outcome with
    | enrolled enrollment => [("enrollment", enrollment.toJson)]
    | timeConflict id => [("conflicting_subject_id", id.toJson)]
    | _ => []

/-- An answer as an object. -/
def toJson (outcome : EnrollOutcome) : Json := .object outcome.members

/-- The words for the kinds of answers. -/
def kinds : List String :=
  ["enrolled", "already_enrolled", "subject_not_found", "capacity_exceeded", "time_conflict"]

/-- The seat that an answer tells of. -/
def enrollmentField : Field := .needed "enrollment" Enrollment.ofJson

/-- The subject that an answer tells of. -/
def conflictField : Field := .needed "conflicting_subject_id" Uuid.ofJson

/-- An answer is read by its kind. -/
def ofJson : Decode EnrollOutcome := fun origin json => do
  let tagged ← Tagged.ofJson kinds.contains origin json
  match tagged.tag with
  | "enrolled" => do
    let found ← find [enrollmentField] .held tagged.body
    return enrolled (← found.required "enrollment" Enrollment.ofJson)
  | "already_enrolled" => Tagged.bare alreadyEnrolled tagged.body
  | "subject_not_found" => Tagged.bare subjectNotFound tagged.body
  | "capacity_exceeded" => Tagged.bare capacityExceeded tagged.body
  | "time_conflict" => do
    let found ← find [conflictField] .held tagged.body
    return timeConflict (← found.required "conflicting_subject_id" Uuid.ofJson)
  | _ => .error .mismatched

end EnrollOutcome

namespace CancelOutcome

/-- The name of the kind of an answer. -/
def name : CancelOutcome → String
  | cancelled => "Cancelled"
  | notEnrolled => "NotEnrolled"

/-- The members that hold an answer. Its word is spelled from the name of its kind. -/
def members (outcome : CancelOutcome) : List (String × Json) :=
  [("outcome", .string (Tagged.word outcome.name))]

/-- An answer as an object. -/
def toJson (outcome : CancelOutcome) : Json := .object outcome.members

/-- The words for the kinds of answers. -/
def kinds : List String := ["cancelled", "not_enrolled"]

/-- An answer is read by its kind. -/
def ofJson : Decode CancelOutcome := fun origin json => do
  let tagged ← Tagged.ofJson kinds.contains origin json
  match tagged.tag with
  | "cancelled" => Tagged.bare cancelled tagged.body
  | "not_enrolled" => Tagged.bare notEnrolled tagged.body
  | _ => .error .mismatched

end CancelOutcome

end CourseRegistry
