import CourseRegistry.Proofs.Api.Status
import CourseRegistry.Proofs.Server.Caller

/-!
Which of the students that are accepted over HTTP can sign in.
A colon ends the name in a header for credentials: a student signs in under a number without one,
and never under a number with one, although both are accepted.
-/

namespace CourseRegistry

open Database Http

/-- A row is that of a student by identifier and number, whatever else it holds. -/
def StudentRow.IsOf (row : StudentRow) (student : Student) : Prop :=
  row.studentId = .ofId student.studentId ∧ row.studentNumber = .text student.studentNumber

/-- A student that is made has the number that was asked for. -/
theorem studentNumber_of_addStudent {stamp : Stamp} {db : Database} {input : NewStudent}
    {student : Student} (answered : (addStudent stamp input db).1 = .ok student) :
    student.studentNumber = input.studentNumber := by
  unfold addStudent at answered
  dsimp only at answered
  split at answered
  · -- The department does not exist, and nobody is answered with.
    cases answered
  · split at answered
    · -- The number is taken.
      cases answered
    · exact Except.ok.inj answered ▸ rfl

namespace Database

/-- Runs of transactions lead from reachable tables to reachable ones. -/
theorem Reachable.after {db : Database} (reachable : db.Reachable fun _ => True)
    (run : List Transaction) : (db.after run).Reachable fun _ => True := by
  obtain ⟨before, -, rfl⟩ := reachable
  -- The run that led there goes on.
  exact ⟨before ++ run, fun _ _ => trivial, List.foldl_append⟩

end Database

namespace Api

section Acceptance

variable {stamp : Stamp} {db : Database} {caller : Option Principal} {request : Request}

/-- The body was that of a new student, and the response shows the student who is stored. -/
def Accepts (request : Request) (response : Response) (changed : Database) : Prop :=
  ∃ input student, Json.decodeOctets NewStudent.ofJson request.body = .ok input ∧
    student.studentNumber = input.studentNumber ∧ response.body = some student.toJson ∧
      ∃ row ∈ changed.students, row.IsOf student

/-- A student is made and stored, or nothing is. -/
theorem createStudent_settles (written : db.Written Instant.IsReading) :
    Settles stamp db (Accepts request) db (createStudent caller request) := by
  refine settles_signedIn fun principal => settles_jsonBody fun input read => settles_permit ?_
  split
  · -- What does not pass the check is not asked for.
    exact settles_fail _
  · refine settles_ask (fun _ => Operation.unchanged_of_error written) fun student made => ?_
    -- The student who is answered with stands behind all others.
    obtain ⟨-, -, added⟩ := addStudent_of_ok made
    refine .inr ⟨input, student, read, studentNumber_of_addStudent made, rfl,
      .ofStudent student input.passwordHash, ?_, rfl, rfl⟩
    rw [show (Operation.step stamp (.addStudent input) db).2 = _ from added]
    exact List.mem_append_right _ List.mem_cons_self

/-- A student is changed and stored, or nothing is. -/
theorem updateStudent_settles (written : db.Written Instant.IsReading) (unique : db.Unique)
    {segment : List Char} :
    Settles stamp db (Accepts request) db (updateStudent caller segment request) := by
  refine settles_signedIn fun principal => settles_pathId fun id _ =>
    settles_jsonBody fun input read => settles_permit ?_
  split
  · -- The check is made before the update here as well.
    exact settles_fail _
  · refine settles_ask (fun _ => Operation.unchanged_of_error written) fun found answered => ?_
    have outcome := Operation.unchanged_or_success written stamp (.updateStudent id input)
    rw [answered] at outcome
    cases found with
    | none =>
      -- Where there is no such student, nothing was changed.
      rw [outcome.resolve_right Bool.false_ne_true]
      exact settles_fail (missing .student id)
    | some student =>
      -- The row that was found is replaced, with the number that was asked for.
      obtain ⟨stored, hash, -, decoded, ⟨before, after, -, rows⟩, -⟩ :=
        updateStudent_of_written written unique id answered
      -- The row is read again for the answer, and nothing but its instant might differ.
      obtain ⟨createdAt, -, rfl⟩ := StudentRow.decode_ofStudent_eq_ok.mp decoded
      refine .inr ⟨input, _, read, rfl, rfl,
        .ofStudent (input.applied stored) (input.passwordHash.or hash), ?_, rfl, rfl⟩
      rw [show (Operation.step stamp (.updateStudent id input) db).2.students = _ from rows]
      exact List.mem_append_cons_self

/-- A success that a handler settles on is one of its deed. -/
theorem Settles.of_isSuccess {deed : Response → Database → Prop} {handler : Handler Response}
    (settles : Settles stamp db deed db handler) :
    let outcome := (respond handler).run stamp db
    isSuccess outcome.1.status = true → deed outcome.1 outcome.2 := by
  unfold Settles at settles
  simp only [respond, Procedure.run_map]
  split at settles
  · -- The handler has ended with a response, which is a success or the refusal of one.
    next response changed ended =>
    rw [ended]
    intro success
    refine settles.resolve_left fun refused => ?_
    exact Bool.false_ne_true (refused.1.symm.trans success)
  · -- It has ended with a refusal.
    next response changed ended =>
    rw [ended]
    intro success
    exact absurd (settles.1.symm.trans success) Bool.false_ne_true

/-- A request that asks for a student to be stored is told that it was done. -/
def IsAccepted (request : Request) (response : Response) : Prop :=
  IsFor request .post .students ∧ response.status = 201 ∨
    (∃ segment, IsFor request .put (.student segment)) ∧ response.status = 200

/-- What is told to be accepted is what is stored. -/
theorem accepts_of_isAccepted (reachable : db.Reachable Instant.InFourDigitYear)
    (policy : AdmissionPolicy) :
    let outcome := (answer policy caller request).run stamp db
    IsAccepted request outcome.1 → Accepts request outcome.1 outcome.2 := by
  have written := reachable.readings
  rintro outcome (⟨isFor, status⟩ | ⟨⟨segment, isFor⟩, status⟩)
  · -- A new student is posted.
    have same : answer policy caller request = respond (createStudent caller request) :=
      answer_eq_respond isFor nofun rfl
    simp only [outcome, same] at status ⊢
    exact (createStudent_settles written).of_isSuccess (by rw [status]; rfl)
  · -- A student is put in the place of one.
    have same : answer policy caller request = respond (updateStudent caller segment request) :=
      answer_eq_respond isFor nofun rfl
    simp only [outcome, same] at status ⊢
    exact (updateStudent_settles written reachable.wellFormed.unique).of_isSuccess
      (by rw [status]; rfl)

/-- Answering a request leads from reachable tables to reachable ones. -/
theorem answer_reachable (reachable : db.Reachable fun _ => True) (policy : AdmissionPolicy) :
    ((answer policy caller request).run stamp db).2.Reachable fun _ => True := by
  rcases (answer_asks policy caller request).run_cases stamp db with
    same | ⟨operation, -, changed⟩
  · -- Nothing was changed.
    rw [same]
    exact reachable
  · -- One operation was carried out, which is a transaction like any other.
    have applied : (Transaction.apply ⟨stamp, operation⟩ db).Reachable fun _ => True :=
      reachable.apply trivial
    rw [changed]
    exact applied

end Acceptance

end Api

namespace Server

section Rows

variable {clock : Instant → Prop} {db : Database} (written : db.Written clock) (unique : db.Unique)
  {row : StudentRow} (member : row ∈ db.students) {student : Student} (isOf : row.IsOf student)

include written unique member isOf

/-- A student whose number has a colon is the caller of no request. -/
theorem hasPlainName_of_callerOn {setup : Setup} {stamp : Stamp} {headers : Headers}
    (told : setup.callerOn stamp db headers = .ok (.student student.studentId)) :
    ':' ∉ student.studentNumber.toList := by
  -- Whoever is the caller has come with credentials of a stored student.
  obtain ⟨credentials, read, -, found, found_mem, number, id, -⟩ :=
    (callerOn_eq_ok setup stamp written unique).mp told
  -- The name in the header is the number in the only row with the identifier.
  obtain rfl := List.inj_on_of_nodup_map unique.studentKeys member found_mem
    (isOf.1.trans id.symm)
  have plain := (Credentials.ofValue_eq_ok.mp read).1
  rwa [Credentials.HasPlainName, ← Cell.text.inj (isOf.2.symm.trans number)] at plain

/-- A student whose number has no colon is the caller of a request with number and password. -/
theorem callerOn_of_plain {setup : Setup} (stamp : Stamp) {headers : Headers} {hash : String}
    (stored : row.passwordHash = .text hash) {password : String}
    (other : student.studentNumber ≠ setup.admin.username)
    (verified : setup.verify hash password = true)
    (carried : headers.lookup "authorization" =
      some (Text.octets (Credentials.header ⟨student.studentNumber, password⟩)))
    (plain : ':' ∉ student.studentNumber.toList) :
    setup.callerOn stamp db headers = .ok (.student student.studentId) := by
  -- The header carries exactly the number and the password.
  refine (callerOn_eq_ok setup stamp written unique).mpr
    ⟨⟨student.studentNumber, password⟩, Credentials.ofValue_eq_ok.mpr ⟨plain, carried⟩, ?_⟩
  exact ⟨other, row, member, isOf.2, isOf.1, hash, stored, verified⟩

end Rows

/--
Whoever is accepted as a student is stored under the number that was asked for.
For as long as the record is stored, the student signs in with that number and a password of the
hash that is stored with it, exactly when the number has no colon; with a colon in the number the
student is the caller of no request.
-/
theorem accepted_signsIn {db : Database} (reachable : db.Reachable Instant.InFourDigitYear)
    (policy : AdmissionPolicy) (caller : Option Principal) (request : Request) (stamp : Stamp)
    (accepted : Api.IsAccepted request ((Api.answer policy caller request).run stamp db).1) :
    let outcome := (Api.answer policy caller request).run stamp db
    ∃ input student, Json.decodeOctets NewStudent.ofJson request.body = .ok input ∧
      student.studentNumber = input.studentNumber ∧ outcome.1.body = some student.toJson ∧
      (∃ row ∈ outcome.2.students, row.IsOf student) ∧
      ∀ (run : List Transaction), ∀ row ∈ (outcome.2.after run).students, row.IsOf student →
        ∀ (setup : Setup) (now : Stamp),
          (∀ hash password headers, row.passwordHash = .text hash →
            student.studentNumber ≠ setup.admin.username → setup.verify hash password = true →
            headers.lookup "authorization" =
              some (Text.octets (Credentials.header ⟨student.studentNumber, password⟩)) →
            (setup.callerOn now (outcome.2.after run) headers = .ok (.student student.studentId) ↔
              ':' ∉ student.studentNumber.toList)) ∧
          (':' ∈ student.studentNumber.toList → ∀ headers,
            setup.callerOn now (outcome.2.after run) headers ≠
              .ok (.student student.studentId)) := by
  intro outcome
  obtain ⟨input, student, read, number, shown, stored⟩ :=
    Api.accepts_of_isAccepted reachable policy accepted
  refine ⟨input, student, read, number, shown, stored, fun run row member isOf setup now => ?_⟩
  -- Whatever happened since, the tables can be reached.
  have later : (outcome.2.after run).Reachable fun _ => True :=
    (Api.answer_reachable (reachable.mono fun _ _ => trivial) policy).after run
  have written := later.written
  have unique := later.wellFormed.unique
  refine ⟨fun hash password headers stored other verified carried => ⟨?_, ?_⟩, ?_⟩
  · -- Who has signed in has a number without a colon.
    exact hasPlainName_of_callerOn written unique member isOf
  · -- Such a number passes through the header as it is.
    exact callerOn_of_plain written unique member isOf now stored other verified carried
  · intro colon headers told
    exact hasPlainName_of_callerOn written unique member isOf told colon

/-- A request for a student with a number and with a word to sign in against. -/
def studentRequest (number : String) : Request :=
  ⟨"POST", "/students", none, some (Text.octets "application/json"),
    Text.octets ("[\"" ++ number ++ "\", \"Ada\", null, null, \"key\"]")⟩

/-- A student with a plain number is accepted, and signs in with the word. -/
theorem accepted_signsIn_sample :
    let request := studentRequest "12"
    let outcome := (Api.answer .standard (some .admin) request).run (.ofDigit 1) empty
    empty.Reachable Instant.InFourDigitYear ∧ Api.IsAccepted request outcome.1 ∧
      ∃ student : Student, student.studentNumber = "12" ∧ outcome.1.body = some student.toJson ∧
        plainSetup.callerOn (.ofDigit 2) outcome.2
          [("authorization", Text.octets (Credentials.header ⟨"12", "key"⟩))] =
            .ok (.student student.studentId) := by
  intro request outcome
  have reachable : empty.Reachable Instant.InFourDigitYear := ⟨[], List.forall_mem_nil _, rfl⟩
  have accepted : Api.IsAccepted request outcome.1 :=
    .inl ⟨⟨by decide, by decide +kernel⟩, by decide +kernel⟩
  obtain ⟨input, student, read, number, shown, ⟨row, member, isOf⟩, signsIn⟩ :=
    accepted_signsIn reachable .standard (some .admin) request (.ofDigit 1) accepted
  have asked : Json.decodeOctets NewStudent.ofJson request.body =
      .ok ⟨"12", "Ada", none, none, some "key"⟩ := by decide +kernel
  -- The body asks for the number twelve and the word.
  obtain rfl := Except.ok.inj (asked.symm.trans read)
  have stored : ∀ row ∈ outcome.2.students, row.passwordHash = .text "key" := by decide +kernel
  refine ⟨reachable, accepted, student, number, shown, ?_⟩
  rw [number] at signsIn
  exact ((signsIn [] row member isOf plainSetup (.ofDigit 2)).1 "key" "key" _ (stored row member)
    (by decide) rfl rfl).mpr (by decide)

/-- A student with a colon in the number is accepted too, and does not sign in with the word. -/
theorem accepted_colon_refused :
    let request := studentRequest "1:2"
    let outcome := (Api.answer .standard (some .admin) request).run (.ofDigit 1) empty
    Api.IsAccepted request outcome.1 ∧
      (∃ row ∈ outcome.2.students, row.studentId = .ofId (.ofDigit 1) ∧
        row.studentNumber = .text "1:2" ∧ row.passwordHash = .text "key") ∧
      "1:2" ≠ plainSetup.admin.username ∧ plainSetup.verify "key" "key" = true ∧
      plainSetup.callerOn (.ofDigit 2) outcome.2
        [("authorization", Text.octets (Credentials.header ⟨"1:2", "key"⟩))] =
          .error .unauthorized := by
  intro request outcome
  have accepted : Api.IsAccepted request outcome.1 :=
    .inl ⟨⟨by decide, by decide +kernel⟩, by decide +kernel⟩
  -- The row is stored, and the name that the header carries ends in front of the colon.
  exact ⟨accepted, by decide +kernel, by decide, rfl, by decide +kernel⟩

end Server

end CourseRegistry
