import CourseRegistry.Proofs.Api.Permission
import CourseRegistry.Proofs.Store.Reads
import CourseRegistry.Server.Router

/-!
Who a change to the tables comes from.
Only the administrator changes more than a single seat, and a student only a seat of their own.
-/

namespace CourseRegistry

open Database Http

namespace Database

/-- One database has a single seat of a student more than another one, and is the same otherwise. -/
def HasSeatMore (studentId : Uuid) (more db : Database) : Prop :=
  ∃ before row after, row.studentId = .ofId studentId ∧
    db.enrollments = before ++ after ∧
      more = { db with enrollments := before ++ row :: after }

/-- A single seat of a student was added or taken away, and nothing else was changed. -/
def SeatMoved (studentId : Uuid) (db changed : Database) : Prop :=
  HasSeatMore studentId changed db ∨ HasSeatMore studentId db changed

end Database

section Changes

variable {stamp : Stamp} {db changed : Database} {operation : Operation} {me : Uuid}

/-- What is open to a student changes a single seat of that student, or nothing. -/
theorem Effect.seatMoved (effect : Effect stamp db operation changed) (unique : db.Unique)
    (isOpen : operation.isOpenTo (.student me) = true) :
    changed = db ∨ db.SeatMoved me changed := by
  cases effect with
  | nothing => exact .inl rfl
  | @seatGranted studentId subjectId =>
    obtain rfl : me = studentId := eq_of_beq isOpen
    -- A new seat stands behind all others.
    refine .inr (.inl ⟨db.enrollments, _, [], rfl, ?_, rfl⟩)
    rw [List.append_nil]
  | @seatReleased studentId subjectId held =>
    obtain rfl : me = studentId := eq_of_beq isOpen
    -- The rows that go are those of the student and the subject, and there is only one.
    have isIt_iff (row : EnrollmentRow) : (row.isOf me && row.isIn subjectId) = true ↔
        (row.studentId, row.subjectId) = (.ofId me, .ofId subjectId) := by
      simp [EnrollmentRow.isOf, EnrollmentRow.isIn]
    obtain ⟨before, row, after, is, split_eq, left_eq⟩ :=
      exists_filter_not unique.seats isIt_iff held
    have student : row.studentId = .ofId me := eq_of_beq (Bool.and_eq_true_iff.mp is).1
    exact .inr (.inr ⟨before, row, after, student, left_eq, by rw [← split_eq]⟩)
  -- No other change is open to a student.
  | _ => cases isOpen

/-- What a student is answered with changes a single seat of that student, or nothing. -/
theorem Api.answerAt_seatMoved (unique : db.Unique) (policy : AdmissionPolicy) (me : Uuid)
    (request : Request) (resource : Api.Resource) (stamp : Stamp) :
    let changed := ((Api.answerAt policy (some (.student me)) request resource).run stamp db).2
    changed = db ∨ db.SeatMoved me changed := by
  -- What is asked for is known before what comes of it.
  have asks := Api.answerAt_asks policy (some (.student me)) request resource
  rcases asks.run_cases stamp db with same | ⟨operation, ⟨principal, known, isOpen⟩, change⟩
  · exact .inl same
  · -- The one change was open to the caller, who is the student.
    obtain rfl : Principal.student me = principal := Option.some.inj known
    dsimp only
    rw [change]
    exact (operation.step_effect stamp db).seatMoved unique isOpen

end Changes

namespace Server

/-- Some credentials are those of the administrator. -/
def Setup.IsAdmin (setup : Setup) (credentials : Credentials) : Prop :=
  credentials.user = setup.admin.username ∧
    setup.verify setup.admin.passwordHash credentials.password = true

/-- Some credentials are those of a student, whose row has the number and a hash of the password. -/
def Setup.IsStudent (setup : Setup) (db : Database) (credentials : Credentials)
    (studentId : Uuid) : Prop :=
  credentials.user ≠ setup.admin.username ∧ ∃ row ∈ db.students,
    row.studentNumber = .text credentials.user ∧ row.studentId = .ofId studentId ∧
      ∃ hash, row.passwordHash = .text hash ∧ setup.verify hash credentials.password = true

/-- Some credentials are those of a caller. -/
def Setup.IsSignedIn (setup : Setup) (db : Database) (credentials : Credentials) :
    Principal → Prop
  | .admin => setup.IsAdmin credentials
  | .student studentId => setup.IsStudent db credentials studentId

/-- The header of a request is found under its name. -/
theorem lookup_authorization (authorization : Option (List UInt8)) :
    (authorization.toList.map fun value => ("authorization", value)).lookup "authorization" =
      authorization := by
  cases authorization <;> simp

section SignIn

/-- Finding out whose credentials they are changes nothing, whatever is stored. -/
theorem principalOf_unchanged (setup : Setup) (credentials : Credentials) (stamp : Stamp)
    (db : Database) :
    ((principalOf setup.verify setup.admin credentials).run.run stamp db).2 = db := by
  unfold principalOf
  -- The name is compared with that of the administrator, and then the tables are asked once.
  split
  · split <;> rfl
  · rw [Procedure.run_request]
    simp only [Operation.step]
    -- However the search for a student ends, nothing more is asked of the tables.
    rcases db.studentLogin credentials.user with error | _ | ⟨studentId, _ | hash⟩
    · rfl
    · rfl
    · rfl
    · dsimp only
      split <;> rfl

/-- Nor does finding out who calls. -/
theorem resolvePrincipal_unchanged (setup : Setup) (authorization : Option (List UInt8))
    (stamp : Stamp) (db : Database) :
    ((resolvePrincipal setup.verify setup.admin authorization).run.run stamp db).2 = db := by
  unfold resolvePrincipal callerOf
  split
  · -- The credentials are looked up.
    exact principalOf_unchanged setup _ stamp db
  · -- Without any, nothing is.
    rfl

variable {clock : Instant → Prop} {db : Database} (written : db.Written clock)

include written

/-- Nobody is taken for somebody else. -/
theorem isSignedIn_of_principalOf {setup : Setup} {credentials : Credentials} {stamp : Stamp}
    {principal : Principal}
    (known : ((principalOf setup.verify setup.admin credentials).run.run stamp db).1 =
      .ok principal) : setup.IsSignedIn db credentials principal := by
  unfold principalOf at known
  split at known
  · -- The name is that of the administrator, whose password is verified.
    next isAdmin =>
    split at known
    · next verified =>
      obtain rfl := Except.ok.inj known
      exact ⟨isAdmin, verified⟩
    · cases known
  · next notAdmin =>
    rw [Procedure.run_request] at known
    -- Of all that signing in may find, only a student with a hash leads to a caller.
    cases found : db.studentLogin credentials.user with
    | error error =>
      simp only [Operation.step, found] at known
      cases known
    | ok login =>
      simp only [Operation.step, found] at known
      cases login with
      | none => cases known
      | some login =>
        obtain ⟨row, member, number, id, hash_eq⟩ := written.exists_row_of_studentLogin found
        dsimp only at known
        split at known
        · next hash stored =>
          rw [stored] at hash_eq
          split at known
          · -- The password is verified against the hash that is stored.
            next verified =>
            obtain rfl := Except.ok.inj known
            exact ⟨notAdmin, row, member, number, id, hash, hash_eq, verified⟩
          · cases known
        · -- A student without a hash never signs in.
          cases known

/-- A caller has come with credentials, which are those of the caller. -/
theorem resolvePrincipal_run (setup : Setup) (authorization : Option (List UInt8))
    (stamp : Stamp) :
    let outcome := (resolvePrincipal setup.verify setup.admin authorization).run.run stamp db
    outcome.2 = db ∧ ∀ principal, outcome.1 = .ok principal →
      ∃ credentials, authorization.bind Credentials.ofOctets? = some credentials ∧
        setup.IsSignedIn db credentials principal := by
  refine ⟨resolvePrincipal_unchanged setup authorization stamp db, fun principal => ?_⟩
  unfold resolvePrincipal callerOf Credentials.ofValue
  -- Of all headers there is one to be read.
  rw [lookup_authorization]
  cases decoded : authorization.bind Credentials.ofOctets? with
  | none => exact nofun
  | some credentials =>
    exact fun known => ⟨credentials, rfl, isSignedIn_of_principalOf written known⟩

end SignIn

/--
Whoever makes a request that changes the tables has signed in.
It is the administrator, or a student, and then the change is to a single seat of that student.
-/
theorem authorized_of_changed {clock : Instant → Prop} {db : Database}
    (reachable : db.Reachable clock) (setup : Setup) (stamp : Stamp) (request : Request)
    (changed : ((answer setup request).run stamp db).2 ≠ db) :
    ∃ credentials, request.authorization.bind Credentials.ofOctets? = some credentials ∧
      (setup.IsAdmin credentials ∨ ∃ studentId, setup.IsStudent db credentials studentId ∧
        db.SeatMoved studentId ((answer setup request).run stamp db).2) := by
  -- A path outside of the resources is answered without a look at the tables.
  unfold answer at changed ⊢
  split at changed
  · next resource found =>
    unfold answerAt at changed ⊢
    obtain ⟨same, signedIn⟩ :=
      resolvePrincipal_run reachable.written setup request.authorization stamp
    rw [Procedure.run_bind, same] at changed ⊢
    -- Without a caller there is nothing left but to say so.
    split at changed
    · next principal known =>
      obtain ⟨credentials, decoded, isSignedIn⟩ := signedIn principal known
      refine ⟨credentials, decoded, ?_⟩
      cases principal with
      -- The administrator may change anything, and a student moves a seat of their own.
      | admin => exact .inl isSignedIn
      | student studentId =>
        have moved := Api.answerAt_seatMoved reachable.wellFormed.unique setup.policy studentId
          request resource stamp
        exact .inr ⟨studentId, isSignedIn, moved.resolve_left changed⟩
    · exact absurd rfl changed
  · -- Nothing was changed.
    exact absurd rfl changed

/-- A run after which a student signs in with the password that is the hash. -/
def signInRun : List Transaction := [
  ⟨.ofDigit 1, .addStudent ⟨"1", "Ada", none, none, some "key"⟩⟩,
  ⟨.ofDigit 2, .addSubject ⟨"Logic", 3, 2, "Spring", none, none⟩⟩]

/-- A server on which each password is its own hash. -/
def plainSetup : Setup := ⟨.standard, ⟨"root", "lock"⟩, fun hash password => hash == password⟩

/-- A request for a seat by the student. -/
def seatRequest : Request where
  method := "POST"
  target := "/api/enroll?subjectId=22222222-2222-2222-2222-222222222222"
  authorization := some (Text.octets (Credentials.header ⟨"1", "key"⟩))
  contentType := none
  body := []

/-- The student gets a seat, and so has signed in. -/
theorem authorized_of_changed_sample :
    ((answer plainSetup seatRequest).run (.ofDigit 3) (empty.after signInRun)).2 ≠
        empty.after signInRun ∧
      ∃ credentials, seatRequest.authorization.bind Credentials.ofOctets? = some credentials ∧
        (plainSetup.IsAdmin credentials ∨ ∃ studentId,
          plainSetup.IsStudent (empty.after signInRun) credentials studentId ∧
            (empty.after signInRun).SeatMoved studentId
              ((answer plainSetup seatRequest).run (.ofDigit 3) (empty.after signInRun)).2) := by
  have reachable : (empty.after signInRun).Reachable fun _ => True :=
    ⟨signInRun, fun _ _ => trivial, rfl⟩
  have changed : ((answer plainSetup seatRequest).run (.ofDigit 3) (empty.after signInRun)).2 ≠
      empty.after signInRun := by
    decide +kernel
  -- The tables after the request are other ones, so someone has signed in.
  exact ⟨changed, authorized_of_changed reachable plainSetup (.ofDigit 3) seatRequest changed⟩

end Server

end CourseRegistry
