import CourseRegistry.Api.Enrolling
import CourseRegistry.Client.Exchange
import CourseRegistry.Proofs.Api.Addressee
import CourseRegistry.Proofs.Http.Form
import CourseRegistry.Proofs.Text.Blank
import CourseRegistry.Proofs.Uuid
import CourseRegistry.Server.Router

/-!
What the server reads of the requests of the client.
A request about a seat names the subject, and the student if one was given, in a form that the
server reads as it was written; everybody else is left to be found out by who signs in.
-/

namespace CourseRegistry

open Http

namespace Uuid

/-- What an identifier is written with is not blank, and has one octet. -/
theorem mem_chars {id : Uuid} {c : Char} (member : c ∈ id.chars) :
    Text.isBlank c = false ∧ c.toNat < 128 := by
  -- Sixteen digits, none of which is blank or beyond ASCII.
  have digit : ∀ value, Text.isBlank (hexChar value) = false ∧ (hexChar value).toNat < 128 := by
    decide
  -- Whatever stands in it is a hyphen or a digit.
  rcases mem_hyphenate member with rfl | ⟨value, rfl⟩
  · decide
  · exact digit value

/-- An identifier is written in 36 octets. -/
theorem utf8ByteSize_text (id : Uuid) : id.text.utf8ByteSize = 36 := by
  -- Of ASCII each character is one octet, and there are 36 of them.
  rw [← Text.length_octets, text, Text.octets_ofList fun c member => (mem_chars member).2,
    List.length_map, length_chars]

/-- An identifier is read between blanks also where there are none. -/
theorem ofText?_trim (id : Uuid) : ofText? (Text.trim id.text) = some id := by
  -- Nothing at either end is blank, so that nothing is taken away.
  rw [text, Text.trim_of_visible fun c member => (mem_chars member).1]
  exact ofText?_text id

/-- The written form of an identifier says something. -/
theorem isBlankText_text (id : Uuid) : Text.isBlankText id.text = false := by
  -- It is enough that there is one character, as none of them is blank.
  obtain ⟨c, member⟩ : ∃ c, c ∈ id.chars :=
    List.exists_mem_of_length_pos (by rw [length_chars]; decide)
  rw [Text.isBlankText, text, String.toList_ofList, List.all_eq_false]
  exact ⟨c, member, by simp [(mem_chars member).1]⟩

end Uuid

namespace Client

open Api

/-- What a request about a seat is written with: the subject, and the student if one is named. -/
def seatForm (subjectId : Uuid) (student : Option Uuid) : List (String × String) :=
  ("subjectId", subjectId.text) :: student.toList.map fun id => ("studentId", id.text)

/-- The server has room for such a form. -/
theorem length_seatForm_le (subjectId : Uuid) (student : Option Uuid) :
    (Text.octets (formText (seatForm subjectId student))).length ≤ maxBodySize := by
  -- Names are shorter than identifiers, so that 36 octets are enough for all four.
  have names : "subjectId".utf8ByteSize ≤ 36 ∧ "studentId".utf8ByteSize ≤ 36 := by decide +kernel
  have values (id : Uuid) : id.text.utf8ByteSize ≤ 36 := id.utf8ByteSize_text.le
  have short : ∀ pair ∈ seatForm subjectId student,
      pair.1.utf8ByteSize ≤ 36 ∧ pair.2.utf8ByteSize ≤ 36 := by
    intro pair member
    rcases List.mem_cons.mp member with rfl | member
    · exact ⟨names.1, values subjectId⟩
    · obtain ⟨id, -, rfl⟩ := List.mem_map.mp member
      exact ⟨names.2, values id⟩
  have few : (seatForm subjectId student).length ≤ 2 := by cases student <;> simp [seatForm]
  -- No pair takes more than six octets for each of 36, with a sign inside and one behind.
  calc (Text.octets (formText (seatForm subjectId student))).length
      ≤ (seatForm subjectId student).length * (6 * 36 + 2) := length_octets_formText_le short
    _ ≤ 2 * (6 * 36 + 2) := Nat.mul_le_mul_right _ few
    _ ≤ maxBodySize := by decide

/-- The server reads the form as it was written. -/
theorem ofForm?_seatForm (subjectId : Uuid) (student : Option Uuid) :
    EnrollParams.ofForm? (Text.octets (formText (seatForm subjectId student))) =
      some ⟨student.map Uuid.text, some subjectId.text⟩ := by
  -- The form comes back as pairs, of which there are one or two.
  rw [EnrollParams.ofForm?, formPairs_formText]
  cases student <;> rfl

/-- Where each request about a seat is sent. -/
def seatPath : Api.SeatRequest → String
  | .enroll => "/enroll"
  | .cancel => "/enroll/cancel"

/-- A request about a seat, as the client makes it. -/
def seatRequest (connection : Connection) (seat : Api.SeatRequest) (subjectId : Uuid)
    (student : Option Uuid) : Request :=
  postRequest connection (seatPath seat) (seatForm subjectId student)

/-- The student that a caller may act for: a named one, or the caller if none is named. -/
def ActsFor (student : Option Uuid) (studentId : Uuid) : Principal → Prop
  | .admin => student = some studentId
  | .student me => me = studentId ∧ student.getD me = studentId

section Requests

variable (connection : Connection) (seat : Api.SeatRequest) (subjectId : Uuid)
  (student : Option Uuid)

/-- The server finds what the request is for. -/
theorem resource?_seatRequest :
    Server.resource? (seatRequest connection seat subjectId student) = some seat.resource := by
  -- Nothing but the target counts.
  have read : Server.resource? ⟨"POST", "/api" ++ seatPath seat, none, none, []⟩ =
      some seat.resource := by
    -- The two paths are looked up in the table of routes.
    cases seat <;> decide +kernel
  exact read

/-- It does not look for anything behind the path. -/
theorem ofForm?_query_seatRequest :
    EnrollParams.ofForm? (seatRequest connection seat subjectId student).query =
      some ⟨none, none⟩ := by
  have read : EnrollParams.ofForm?
      (Request.query ⟨"POST", "/api" ++ seatPath seat, none, none, []⟩) = some ⟨none, none⟩ := by
    cases seat <;> decide +kernel
  -- Headers and body have no part in the query.
  exact read

/-- The body is read as the form that it was written as. -/
theorem ofBody?_seatRequest :
    EnrollParams.ofBody? (seatRequest connection seat subjectId student) =
      some ⟨student.map Uuid.text, some subjectId.text⟩ := by
  -- The client says that it sends a form, and what it sends is not too long.
  have declared :
      declaresForm (some (Text.octets "application/x-www-form-urlencoded")) = true := by
    decide +kernel
  have fits := length_seatForm_le subjectId student
  simp [EnrollParams.ofBody?, seatRequest, postRequest, declared, fits, ofForm?_seatForm]

/-- What is said of the student is the name, if there is one. -/
theorem studentText_seatRequest :
    studentText ⟨none, none⟩
        (EnrollParams.ofBody? (seatRequest connection seat subjectId student)) =
      student.map Uuid.text := by
  rw [ofBody?_seatRequest]
  -- With or without a name, nothing blank is said.
  cases student <;> simp [studentText, firstSpoken, Uuid.isBlankText_text]

/-- The subject is always named. -/
theorem subjectText_seatRequest :
    subjectText ⟨none, none⟩
        (EnrollParams.ofBody? (seatRequest connection seat subjectId student)) =
      some subjectId.text := by
  rw [ofBody?_seatRequest]
  simp [subjectText, firstSpoken, Uuid.isBlankText_text]

end Requests

/-- The student that is meant is the named one, or the caller if none is named. -/
theorem isMeant_iff {principal : Principal} {student : Option Uuid} {studentId : Uuid} :
    IsMeant principal (student.map Uuid.text) studentId ↔
      student = some studentId ∨ student = none ∧ principal = .student studentId := by
  -- A name that is an identifier means whoever has that identifier.
  cases student <;> simp [IsMeant, Uuid.ofText?_trim]

/-- A request concerns the subject, and the student that its caller may act for. -/
theorem concerns_iff {principal : Principal} {student : Option Uuid}
    {subjectId studentId otherId : Uuid} :
    Concerns principal (student.map Uuid.text) (some subjectId.text) (.ok (studentId, otherId)) ↔
      otherId = subjectId ∧ ActsFor student studentId principal := by
  -- To be meant and to be allowed is what acting for somebody comes to, for either role.
  have acts : IsMeant principal (student.map Uuid.text) studentId ∧
      (principal = .admin ∨ principal = .student studentId) ↔
        ActsFor student studentId principal := by
    rw [isMeant_iff]
    cases principal <;> cases student <;> simp [ActsFor, and_comm, eq_comm]
  rw [← acts]
  constructor
  · -- The pair is the only way in which a request concerns anybody and is not refused.
    intro concerns
    cases concerns with
    | pair isMeant isSaid isId mayAct =>
      obtain rfl := Option.some.inj isSaid
      rw [Uuid.ofText?_trim] at isId
      exact ⟨(Option.some.inj isId).symm, isMeant, mayAct⟩
  · -- The subject is written as an identifier, which reads back.
    rintro ⟨rfl, isMeant, mayAct⟩
    exact .pair isMeant rfl (Uuid.ofText?_trim _) mayAct

end Client

end CourseRegistry
