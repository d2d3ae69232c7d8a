import CourseRegistry.Password.HashText
import CourseRegistry.Proofs.Server.Authorization
import CourseRegistry.Proofs.Server.Credentials
import CourseRegistry.Proofs.Store.Replacement

/-!
Whom the headers of a request tell as its caller.
A caller is told exactly when the headers carry credentials that are those of the administrator or
of a stored student; whatever else they carry, the request is unauthorized.
-/

namespace CourseRegistry

open Database Http Password

/-- Under a number a student is found by their row, or there is no row with the number. -/
theorem studentLogin_cases {clock : Instant → Prop} {db : Database} (written : db.Written clock)
    (unique : db.Unique) (number : String) :
    (∃ student hash, .ofStudent student hash ∈ db.students ∧ student.studentNumber = number ∧
        db.studentLogin number = .ok (some ⟨student.studentId, hash⟩)) ∨
      (∀ row ∈ db.students, row.studentNumber ≠ .text number) ∧
        db.studentLogin number = .ok none := by
  by_cases known : ∃ row ∈ db.students, row.studentNumber = .text number
  · -- The one row with the number is found, and it reads as that of its student.
    obtain ⟨row, member, isIt⟩ := known
    obtain ⟨student, hash, -, rfl⟩ := written.students row member
    obtain rfl : student.studentNumber = number := Cell.text.inj isIt
    exact .inl ⟨student, hash, member, rfl, studentLogin_of_mem unique member⟩
  · -- No row has the number, so that nobody is found.
    have absent : ∀ row ∈ db.students, row.studentNumber ≠ .text number :=
      fun row member isIt => known ⟨row, member, isIt⟩
    exact .inr ⟨absent, studentLogin_of_absent absent⟩

namespace Server

/-- Nothing but the text of a password hash is verified against. -/
def Verifier.ReadsHashes (verify : Verifier) : Prop :=
  ∀ text, HashText.ofText? text = none → ∀ password, verify text password = false

/-- Passwords are told by what a text says of the hash, and no other text says anything. -/
theorem readsHashes_isPasswordOf : Verifier.ReadsHashes isPasswordOf := by
  intro text notHash password
  -- What spells no hash is no password of anybody.
  rw [isPasswordOf, notHash]

/-- The caller that headers tell on some tables, or the error that they are answered with. -/
def Setup.callerOn (setup : Setup) (stamp : Stamp) (db : Database) (headers : Headers) :
    Except ApiError Principal :=
  ((callerOf setup.verify setup.admin headers).run.run stamp db).1

/-- What a password leads to for the student who is found under a name, if anyone is. -/
def Setup.verdictOn (setup : Setup) (password : String) :
    Option StudentLogin → Except ApiError Principal
  | some ⟨studentId, some hash⟩ =>
    if setup.verify hash password then .ok (.student studentId) else .error .unauthorized
  | _ => .error .unauthorized

section Rows

variable {setup : Setup} {db : Database} (unique : db.Unique) {credentials : Credentials}

include unique

/-- Credentials with the number of a stored student can be those of that student only. -/
theorem isSignedIn_iff_of_mem (other : credentials.user ≠ setup.admin.username) {student : Student}
    {hash : Option String} (member : .ofStudent student hash ∈ db.students)
    (number : student.studentNumber = credentials.user) {principal : Principal} :
    setup.IsSignedIn db credentials principal ↔ principal = .student student.studentId ∧
      ∃ text, hash = some text ∧ setup.verify text credentials.password = true := by
  constructor
  · intro signedIn
    -- The administrator has another name.
    cases principal with
    | admin => exact absurd signedIn.1 other
    | student studentId =>
      obtain ⟨-, row, row_mem, isIt, id, text, stored, verified⟩ := signedIn
      -- There is one row with the number.
      obtain rfl := List.inj_on_of_nodup_map unique.studentNumbers member row_mem
        ((congrArg Cell.text number).trans isIt.symm)
      exact ⟨congrArg Principal.student (Cell.ofId_inj.mp id).symm, text,
        Cell.ofOption_text_inj.mp stored, verified⟩
  · rintro ⟨rfl, text, rfl, verified⟩
    exact ⟨other, _, member, congrArg Cell.text number, rfl, text, rfl, verified⟩

/-- The same credentials are not those of two callers. -/
theorem eq_of_isSignedIn {principal also : Principal}
    (signedIn : setup.IsSignedIn db credentials principal)
    (alsoSignedIn : setup.IsSignedIn db credentials also) : principal = also := by
  -- Whether somebody is the administrator is told by the name.
  cases principal with
  | admin =>
    cases also with
    | admin => rfl
    | student => exact absurd signedIn.1 alsoSignedIn.1
  | student studentId =>
    cases also with
    | admin => exact absurd alsoSignedIn.1 signedIn.1
    | student otherId =>
      obtain ⟨-, row, member, number, id, -⟩ := signedIn
      obtain ⟨-, otherRow, otherMember, otherNumber, otherId, -⟩ := alsoSignedIn
      -- The two rows have one number, and so they are one row.
      obtain rfl := List.inj_on_of_nodup_map unique.studentNumbers member otherMember
        (number.trans otherNumber.symm)
      exact congrArg Principal.student (Cell.ofId_inj.mp (id.symm.trans otherId))

end Rows

section Resolution

variable (setup : Setup) (stamp : Stamp) {credentials : Credentials}

/-- Under the administrator's name the tables are not looked at. -/
theorem principalOf_of_admin (isAdmin : credentials.user = setup.admin.username) (db : Database) :
    ((principalOf setup.verify setup.admin credentials).run.run stamp db).1 =
      if setup.verify setup.admin.passwordHash credentials.password then .ok .admin
      else .error .unauthorized := by
  -- The name decides that only the administrator's hash counts.
  rw [principalOf, if_pos isAdmin]
  split <;> rfl

/-- Under any other name the outcome hangs on what the student of that number signs in against. -/
theorem principalOf_of_login (other : credentials.user ≠ setup.admin.username) {db : Database}
    {login : Option StudentLogin} (found : db.studentLogin credentials.user = .ok login) :
    ((principalOf setup.verify setup.admin credentials).run.run stamp db).1 =
      setup.verdictOn credentials.password login := by
  rw [principalOf, if_neg other, Procedure.run_request]
  simp only [Operation.step, found]
  -- Nobody is found, or a student without a hash, or one with a hash.
  rcases login with _ | ⟨studentId, _ | hash⟩
  · rfl
  · rfl
  · dsimp only [Setup.verdictOn]
    split <;> rfl

variable {clock : Instant → Prop} {db : Database} (written : db.Written clock) (unique : db.Unique)

include written unique

/-- Credentials tell a caller exactly when they are those of that caller. -/
theorem principalOf_eq_ok {principal : Principal} :
    ((principalOf setup.verify setup.admin credentials).run.run stamp db).1 = .ok principal ↔
      setup.IsSignedIn db credentials principal := by
  by_cases isAdmin : credentials.user = setup.admin.username
  · rw [principalOf_of_admin setup stamp isAdmin]
    -- Under this name only the administrator signs in.
    cases principal with
    | admin => simp [Setup.IsSignedIn, Setup.IsAdmin, isAdmin]
    | student =>
      -- The administrator's name is no student's, whatever the password is.
      refine iff_of_false ?_ fun signedIn => signedIn.1 isAdmin
      split <;> nofun
  · rcases studentLogin_cases written unique credentials.user with
      ⟨student, hash, member, number, found⟩ | ⟨absent, found⟩
    · -- A student has the number, and signs in against the hash of the row.
      rw [principalOf_of_login setup stamp isAdmin found,
        isSignedIn_iff_of_mem unique isAdmin member number]
      cases hash with
      | none => simp [Setup.verdictOn]
      | some hash =>
        simp only [Setup.verdictOn, Option.some.injEq, exists_eq_left']
        split
        · next verified => simp [verified, eq_comm]
        · next refused => simp [refused]
    · -- Nobody has the number, so that there is nobody to be signed in.
      rw [principalOf_of_login setup stamp isAdmin found]
      refine iff_of_false nofun fun signedIn => ?_
      cases principal with
      | admin => exact isAdmin signedIn.1
      | student =>
        obtain ⟨-, row, member, number, -⟩ := signedIn
        exact absent row member number

/-- Credentials that tell no caller are refused, and never for an error of the records. -/
theorem principalOf_eq_ok_or :
    let outcome := ((principalOf setup.verify setup.admin credentials).run.run stamp db).1
    (∃ principal, outcome = .ok principal) ∨ outcome = .error .unauthorized := by
  dsimp only
  by_cases isAdmin : credentials.user = setup.admin.username
  · -- The administrator is let in or refused.
    rw [principalOf_of_admin setup stamp isAdmin]
    split <;> simp
  · rcases studentLogin_cases written unique credentials.user with
      ⟨student, hash, -, -, found⟩ | ⟨-, found⟩
    · -- A student is let in or refused, and refused where there is no hash.
      rw [principalOf_of_login setup stamp isAdmin found]
      cases hash with
      | none => exact .inr rfl
      | some hash =>
        dsimp only [Setup.verdictOn]
        split <;> simp
    · -- Where nobody is found, everybody is refused.
      exact .inr (principalOf_of_login setup stamp isAdmin found)

/-- Headers tell a caller exactly when they carry the credentials of that caller. -/
theorem callerOn_eq_ok {headers : Headers} {principal : Principal} :
    setup.callerOn stamp db headers = .ok principal ↔
      ∃ credentials, Credentials.ofValue (headers.lookup "authorization") = .ok credentials ∧
        setup.IsSignedIn db credentials principal := by
  unfold Setup.callerOn callerOf
  -- Headers without credentials tell nobody.
  cases Credentials.ofValue (headers.lookup "authorization") with
  | error error => exact iff_of_false nofun nofun
  | ok credentials =>
    simp only [Except.ok.injEq, exists_eq_left']
    exact principalOf_eq_ok setup stamp written unique

/-- Headers that tell no caller are unauthorized. -/
theorem callerOn_eq_ok_or (headers : Headers) :
    (∃ principal, setup.callerOn stamp db headers = .ok principal) ∨
      setup.callerOn stamp db headers = .error .unauthorized := by
  unfold Setup.callerOn callerOf
  rcases Credentials.ofValue_eq_ok_or (headers.lookup "authorization") with
    ⟨credentials, read⟩ | refused
  · -- The credentials tell a caller or are refused.
    rw [read]
    exact principalOf_eq_ok_or setup stamp written unique
  · rw [refused]
    exact .inr rfl

end Resolution

section Students

variable {setup : Setup} (stamp : Stamp) {clock : Instant → Prop} {db : Database}
  (written : db.Written clock) (unique : db.Unique) {row : StudentRow} (member : row ∈ db.students)
  {studentId : Uuid} (id : row.studentId = .ofId studentId)

include written unique member id

/-- A student signs in under the number of their row only, and against nothing but its hash. -/
theorem of_callerOn_eq_student {headers : Headers}
    (told : setup.callerOn stamp db headers = .ok (.student studentId)) :
    row.studentNumber ≠ .text setup.admin.username ∧
      ∃ hash password, row.passwordHash = .text hash ∧ setup.verify hash password = true := by
  obtain ⟨credentials, -, other, found, found_mem, number, foundId, hash, stored, verified⟩ :=
    -- Whoever is told has a row with this identifier, under the number that was given.
    (callerOn_eq_ok setup stamp written unique).mp told
  -- There is one row with the identifier.
  obtain rfl := List.inj_on_of_nodup_map unique.studentKeys member found_mem
    (id.trans foundId.symm)
  exact ⟨fun same => other (Cell.text.inj (number.symm.trans same)), hash, _, stored, verified⟩

end Students

/--
Headers tell a caller exactly when they carry credentials of that caller; all others are
unauthorized, and never for an error of the records.
No credentials are those of two callers, and nobody signs in without the text of a password hash.
The administrator's name is the administrator's alone, whatever is stored under it as a number.
-/
theorem callerOn_exact {clock : Instant → Prop} {db : Database} (reachable : db.Reachable clock)
    (setup : Setup) (readsHashes : setup.verify.ReadsHashes) (stamp : Stamp) :
    (∀ headers principal, setup.callerOn stamp db headers = .ok principal ↔
        ∃ credentials, Credentials.ofValue (headers.lookup "authorization") = .ok credentials ∧
          setup.IsSignedIn db credentials principal) ∧
      (∀ headers, setup.callerOn stamp db headers = .error .unauthorized ↔
        ∀ principal, setup.callerOn stamp db headers ≠ .ok principal) ∧
      (∀ credentials principal other, setup.IsSignedIn db credentials principal →
        setup.IsSignedIn db credentials other → principal = other) ∧
      (∀ row ∈ db.students, ∀ studentId, row.studentId = .ofId studentId →
        (∀ hash, row.passwordHash = .text hash → HashText.ofText? hash = none) →
          ∀ headers, setup.callerOn stamp db headers ≠ .ok (.student studentId)) ∧
      (∀ row ∈ db.students, ∀ studentId, row.studentId = .ofId studentId →
        row.studentNumber = .text setup.admin.username →
          ∀ headers, setup.callerOn stamp db headers ≠ .ok (.student studentId)) ∧
      ∀ (tables : Database) headers credentials,
        Credentials.ofValue (headers.lookup "authorization") = .ok credentials →
        credentials.user = setup.admin.username →
          setup.callerOn stamp tables headers =
            if setup.verify setup.admin.passwordHash credentials.password then .ok .admin
            else .error .unauthorized := by
  have written := reachable.written
  have unique := reachable.wellFormed.unique
  refine ⟨fun _ _ => callerOn_eq_ok setup stamp written unique, fun headers => ?_,
    fun _ _ _ => eq_of_isSignedIn unique, ?_, ?_, ?_⟩
  · -- A caller is told, or everybody is refused.
    rcases callerOn_eq_ok_or setup stamp written unique headers with ⟨principal, told⟩ | refused
    · rw [told]
      exact iff_of_false nofun fun none_told => none_told principal rfl
    · rw [refused]
      exact iff_of_true rfl nofun
  · -- What is stored spells no hash, and nothing is verified against it.
    intro row member studentId id notHash headers told
    obtain ⟨-, hash, password, stored, verified⟩ :=
      of_callerOn_eq_student stamp written unique member id told
    rw [readsHashes hash (notHash hash stored)] at verified
    cases verified
  · -- The number is the administrator's name, under which no student signs in.
    intro row member studentId id number headers told
    exact (of_callerOn_eq_student stamp written unique member id told).1 number
  · -- The administrator is looked up before the tables are.
    intro tables headers credentials read isAdmin
    unfold Setup.callerOn callerOf
    rw [read]
    exact principalOf_of_admin setup stamp isAdmin tables

/-- Students of whom one may sign in: one has no hash, one no text of a hash, one a taken name. -/
def callersRun : List Transaction := [
  ⟨.ofDigit 1, .addStudent ⟨"1", "Ada", none, none, some "$argon2id$c2FsdA$AAECAwQFBgcICQ"⟩⟩,
  ⟨.ofDigit 2, .addStudent ⟨"2", "Ben", none, none, none⟩⟩,
  ⟨.ofDigit 3, .addStudent ⟨"3", "Cleo", none, none, some "key"⟩⟩,
  ⟨.ofDigit 4, .addStudent ⟨"root", "Dora", none, none, some "$argon2id$c2FsdA$AAECAwQFBgcICQ"⟩⟩]

/-- Of four students three never sign in, and an administrator without a hash does not either. -/
theorem callerOn_exact_sample :
    let setup : Setup := ⟨.standard, ⟨"root", "lock"⟩, isPasswordOf⟩
    let caller (headers : Headers) := setup.callerOn (.ofDigit 5) (empty.after callersRun) headers
    let header (credentials : Credentials) := [("authorization", Text.octets credentials.header)]
    setup.verify.ReadsHashes ∧
      (∀ headers, caller headers ≠ .ok (.student (.ofDigit 2)) ∧
        caller headers ≠ .ok (.student (.ofDigit 3)) ∧
        caller headers ≠ .ok (.student (.ofDigit 4))) ∧
      caller (header ⟨"root", "lock"⟩) = .error .unauthorized ∧
      ∀ password, isPasswordOf "$argon2id$c2FsdA$AAECAwQFBgcICQ" password = true →
        caller (header ⟨"1", password⟩) = .ok (.student (.ofDigit 1)) := by
  intro setup caller header
  have reachable : (empty.after callersRun).Reachable fun _ => True :=
    ⟨callersRun, fun _ _ => trivial, rfl⟩
  obtain ⟨told, -, -, hashless, named, admin⟩ :=
    callerOn_exact reachable setup readsHashes_isPasswordOf (.ofDigit 5)
  -- No number here has a colon, so that the header carries what it is made of.
  have carries (credentials : Credentials) (plain : credentials.HasPlainName) :
      Credentials.ofValue ((header credentials).lookup "authorization") = .ok credentials :=
    Credentials.ofValue_eq_ok.mpr ⟨plain, by simp [header]⟩
  refine ⟨readsHashes_isPasswordOf, fun headers => ⟨?_, ?_, ?_⟩, ?_, fun password verified => ?_⟩
  · -- The second student has no hash.
    obtain ⟨row, member, id, null⟩ : ∃ row ∈ (empty.after callersRun).students,
        row.studentId = .ofId (.ofDigit 2) ∧ row.passwordHash = .null := by decide +kernel
    exact hashless row member _ id (by simp [null]) headers
  · -- What the third has is no hash.
    obtain ⟨row, member, id, stored⟩ : ∃ row ∈ (empty.after callersRun).students,
        row.studentId = .ofId (.ofDigit 3) ∧ row.passwordHash = .text "key" := by decide +kernel
    have notHash : HashText.ofText? "key" = none := by decide +kernel
    exact hashless row member _ id (by simp [stored, notHash]) headers
  · -- The fourth has the administrator's name for a number.
    obtain ⟨row, member, id, number⟩ : ∃ row ∈ (empty.after callersRun).students,
        row.studentId = .ofId (.ofDigit 4) ∧ row.studentNumber = .text "root" := by decide +kernel
    exact named row member _ id number headers
  · -- What the administrator has is no hash, either.
    have notHash : isPasswordOf "lock" "lock" = false := by decide +kernel
    rw [show caller _ = _ from admin _ _ _ (carries ⟨"root", "lock"⟩ (by decide)) rfl]
    exact if_neg (by simp [setup, notHash])
  · -- The first student has a number, a hash and the password of it.
    obtain ⟨row, member, id, number, stored⟩ : ∃ row ∈ (empty.after callersRun).students,
        row.studentId = .ofId (.ofDigit 1) ∧ row.studentNumber = .text "1" ∧
          row.passwordHash = .text "$argon2id$c2FsdA$AAECAwQFBgcICQ" := by decide +kernel
    have plain : ':' ∉ "1".toList := by decide
    have other : "1" ≠ "root" := by decide
    refine (told _ _).mpr ⟨⟨"1", password⟩, carries _ plain, ?_⟩
    exact ⟨other, row, member, number, id, _, stored, verified⟩

end Server

end CourseRegistry
