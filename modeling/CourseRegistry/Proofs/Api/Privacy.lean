import CourseRegistry.Proofs.Api.Permission
import CourseRegistry.Proofs.Store.Alike
import CourseRegistry.Proofs.Store.Hashes
import CourseRegistry.Proofs.Store.Run

/-!
What the responses of the API cannot depend on.
A student learns nothing of other students but how many seats they take, and nobody learns hashes.
-/

namespace CourseRegistry

open Database Http

section Students

variable {me : Uuid} {db other : Database} (alike : db.AlikeFor me other) {stamp : Stamp}
  (newId : ∀ row ∈ db.enrollments ++ other.enrollments, row.enrollmentId ≠ .ofId stamp.id)

include alike newId

/-- Whatever is open to a student is answered alike. -/
theorem Database.AlikeFor.step {operation : Operation}
    (isOpen : operation.isOpenTo (.student me) = true) :
    (operation.step stamp db).1 = (operation.step stamp other).1 := by
  -- By the operation, of which only a few are open to a student.
  cases operation with
  | getSubject id => exact alike.getSubject id
  | listSubjects query => exact alike.listSubjects query
  -- Where a student is named, it is the student who asks.
  | getStudent id =>
    obtain rfl : me = id := eq_of_beq isOpen
    exact alike.getStudent
  | studentExists id =>
    obtain rfl : me = id := eq_of_beq isOpen
    exact congrArg Except.ok alike.has_student
  | liveEnrollments id =>
    obtain rfl : me = id := eq_of_beq isOpen
    exact alike.liveEnrollments
  | grantSeat id subjectId policy =>
    obtain rfl : me = id := eq_of_beq isOpen
    exact alike.grantSeat newId subjectId policy
  | releaseSeat id subjectId =>
    obtain rfl : me = id := eq_of_beq isOpen
    exact alike.releaseSeat subjectId
  -- Everything else is the administrator's, or comes before there is a caller.
  | _ => cases isOpen

/--
A student gets the same response from tables that are alike for the student.
The identifier at hand has to be new to the seats in both.
-/
theorem Api.answer_of_alikeFor (policy : AdmissionPolicy) (request : Request) :
    ((Api.answer policy (some (.student me)) request).run stamp db).1 =
      ((Api.answer policy (some (.student me)) request).run stamp other).1 := by
  -- By what the whole answer asks for, it is enough to compare it request by request.
  have asks := Api.answer_asks policy (some (.student me)) request
  refine (asks.run_eq ?_).1
  -- All that is asked for is open to the caller, who is the student.
  rintro operation ⟨principal, known, isOpen⟩
  obtain rfl : Principal.student me = principal := Option.some.inj known
  exact alike.step newId isOpen

end Students

/-- A run after which another student has a seat, under an identifier of the given digit. -/
def classmateRun (digit : Nat) (name : String) : List Transaction := [
  ⟨.ofDigit 1, .addStudent ⟨"1", "Ada", none, none, none⟩⟩,
  ⟨.ofDigit 2, .addSubject ⟨"Logic", 3, 2, "Spring", none, none⟩⟩,
  ⟨.ofDigit digit, .addStudent ⟨"2", name, none, none, none⟩⟩,
  ⟨.ofDigit 5, .grantSeat (.ofDigit digit) (.ofDigit 2) .standard⟩]

/-- A student who asks for a seat does not learn who else has one. -/
theorem Api.answer_of_alikeFor_sample :
    empty.after (classmateRun 3 "Bob") ≠ empty.after (classmateRun 4 "Eve") ∧
      (empty.after (classmateRun 3 "Bob")).AlikeFor (.ofDigit 1)
        (empty.after (classmateRun 4 "Eve")) ∧
      ((Api.answer .standard (some (.student (.ofDigit 1)))
          ⟨"POST", "/enroll?subjectId=22222222-2222-2222-2222-222222222222", none, none, []⟩).run
            (.ofDigit 6) (empty.after (classmateRun 3 "Bob"))).1 =
        ((Api.answer .standard (some (.student (.ofDigit 1)))
          ⟨"POST", "/enroll?subjectId=22222222-2222-2222-2222-222222222222", none, none, []⟩).run
            (.ofDigit 6) (empty.after (classmateRun 4 "Eve"))).1 := by
  have alike : (empty.after (classmateRun 3 "Bob")).AlikeFor (.ofDigit 1)
      (empty.after (classmateRun 4 "Eve")) := by
    -- All that the student can learn is compared, table by table.
    constructor <;> decide +kernel
  exact ⟨by decide +kernel, alike, Api.answer_of_alikeFor alike (by decide +kernel) _ _⟩

/-- Nothing that is open to a caller is signing in. -/
theorem Operation.ne_studentLogin_of_isOpenTo {operation : Operation} {principal : Principal}
    (isOpen : operation.isOpenTo principal = true) (number : String) :
    operation ≠ .studentLogin number := by
  -- Signing in is open to nobody who is signed in.
  rintro rfl
  cases isOpen

namespace Api

/-- A request to the API, who makes it, and the identifier and the instant at hand. -/
structure Visit where
  stamp : Stamp
  caller : Option Principal
  request : Request

/-- The response to a visit, with the tables that it leaves behind. -/
def Visit.outcome (policy : AdmissionPolicy) (visit : Visit) (db : Database) :
    Response × Database :=
  (answer policy visit.caller visit.request).run visit.stamp db

/-- The outcomes of visits one after the other, each on the tables that the last one left. -/
def served (policy : AdmissionPolicy) : Database → List Visit → List (Response × Database)
  | _, [] => []
  | db, visit :: visits =>
    let outcome := visit.outcome policy db
    outcome :: served policy outcome.2 visits

/-- Two outcomes have the same response, and their tables differ in hashes only. -/
def SameButHashes (a b : Response × Database) : Prop :=
  a.1 = b.1 ∧ a.2.withoutHashes = b.2.withoutHashes

section Hashes

variable {db other : Database} (alike : db.withoutHashes = other.withoutHashes)

include alike

/-- On tables that differ in hashes only, a visit has the same response. -/
theorem outcome_of_withoutHashes (policy : AdmissionPolicy) (visit : Visit) :
    SameButHashes (visit.outcome policy db) (visit.outcome policy other) := by
  have asks := answer_asks policy visit.caller visit.request
  -- Whoever calls, none of the operations that may be asked for is the one that reads hashes.
  have step (operation : Operation)
      (admitted : ∃ principal ∈ visit.caller, operation.isOpenTo principal = true) :
      (operation.step visit.stamp db).1 = (operation.step visit.stamp other).1 ∧
        (operation.step visit.stamp db).2.withoutHashes =
          (operation.step visit.stamp other).2.withoutHashes := by
    -- Whoever calls, what is open to them is not signing in.
    obtain ⟨principal, -, isOpen⟩ := admitted
    exact step_of_alike visit.stamp alike (Operation.ne_studentLogin_of_isOpenTo isOpen)
  obtain ⟨response, changes⟩ := asks.run_eq fun operation admitted => (step operation admitted).1
  refine ⟨response, ?_⟩
  unfold Visit.outcome
  rcases changes with ⟨here, there⟩ | ⟨operation, admitted, here, there⟩
  · -- Where nothing is changed, the tables are those from before.
    rw [here, there, alike]
  · -- Otherwise one change was made to both, and it leaves nothing but the hashes different.
    rw [here, there, (step operation admitted).2]

/--
Along any visits of any callers, the responses do not depend on the hashes of the students.
The tables go on to differ in hashes only.
-/
theorem served_of_withoutHashes (policy : AdmissionPolicy) (visits : List Visit) :
    List.Forall₂ SameButHashes (served policy db visits) (served policy other visits) := by
  -- What is kept from visit to visit is that the tables differ in hashes only.
  induction visits generalizing db other with
  | nil => exact .nil
  | cons visit visits ih =>
    have same := outcome_of_withoutHashes alike policy visit
    exact .cons same (ih same.2)

end Hashes

/-- A run after which a student signs in against the given hash. -/
def hashRun (hash : String) : List Transaction := [
  ⟨.ofDigit 1, .addStudent ⟨"1", "Ada", none, none, some hash⟩⟩]

/-- Neither the administrator nor the student learns which of two hashes is stored. -/
theorem served_of_withoutHashes_sample :
    empty.after (hashRun "a") ≠ empty.after (hashRun "b") ∧
      (empty.after (hashRun "a")).withoutHashes = (empty.after (hashRun "b")).withoutHashes ∧
      List.Forall₂ SameButHashes
        (served .standard (empty.after (hashRun "a")) [
          ⟨.ofDigit 2, some .admin, ⟨"GET", "/students", none, none, []⟩⟩,
          ⟨.ofDigit 3, some (.student (.ofDigit 1)), ⟨"GET", "/me", none, none, []⟩⟩])
        (served .standard (empty.after (hashRun "b")) [
          ⟨.ofDigit 2, some .admin, ⟨"GET", "/students", none, none, []⟩⟩,
          ⟨.ofDigit 3, some (.student (.ofDigit 1)), ⟨"GET", "/me", none, none, []⟩⟩]) := by
  have alike : (empty.after (hashRun "a")).withoutHashes =
      (empty.after (hashRun "b")).withoutHashes := by
    decide +kernel
  -- The two hashes are all that is different.
  exact ⟨by decide +kernel, alike, served_of_withoutHashes alike _ _⟩

end Api

end CourseRegistry
