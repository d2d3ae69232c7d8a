import CourseRegistry.Api.Router
import CourseRegistry.Proofs.Store.Procedure

/-!
What the API asks of the records on behalf of a caller: nothing that the caller may not do, and at
most one change.
-/

namespace CourseRegistry

/-- Who may enroll a student may see the student's record, and the other way round. -/
theorem Principal.can_enrollFor (principal : Principal) (id : Uuid) :
    principal.can (.enrollFor id) = principal.can (.viewStudent id) := by
  -- The administrator may do both, and a student what is about themselves.
  cases principal <;> rfl

/-- A request to the records that requests of a caller may lead to. -/
def Operation.isOpenTo (principal : Principal) : Operation → Bool
  -- Signing in comes before there is a caller.
  | studentLogin _ => false
  | getSubject _ | listSubjects _ => true
  | getStudent id | studentExists id | liveEnrollments id => principal.can (.viewStudent id)
  | grantSeat id _ _ | releaseSeat id _ => principal.can (.enrollFor id)
  -- Everything else is the administrator's.
  | _ => principal.can .manageCatalog

namespace Api

open Http

/-- A way asks for nothing that is not open to the caller, and for nothing while there is none. -/
def Permitted {α : Type} (caller : Option Principal) (handler : Handler α) : Prop :=
  handler.run.Asks fun operation => ∃ principal ∈ caller, operation.isOpenTo principal = true

section Steps

variable {α β : Type} {caller : Option Principal}

/-- Nothing is asked before the caller is known. -/
theorem permitted_signedIn {next : Principal → Handler α}
    (rest : ∀ principal ∈ caller, Permitted caller (next principal)) :
    Permitted caller (signedIn caller >>= next) := by
  -- Whoever is not known is turned away.
  cases caller with
  | none => trivial
  | some principal => exact rest principal rfl

/-- Nothing is asked for a caller who lacks the permission. -/
theorem permitted_permit {principal : Principal} {capability : Capability}
    {next : Unit → Handler α}
    (rest : principal.can capability = true → Permitted caller (next ())) :
    Permitted caller (permit principal capability >>= next) := by
  unfold permit Principal.authorize
  cases allowed : principal.can capability with
  | false => trivial
  | true => exact rest allowed

/-- A part of the path is read without asking. -/
theorem permitted_pathId {segment : List Char} {next : Uuid → Handler α}
    (rest : ∀ id, Permitted caller (next id)) :
    Permitted caller (pathId segment >>= next) := by
  -- A part that spells no identifier ends the way.
  unfold pathId
  split
  · exact rest _
  · trivial

/-- So is a body. -/
theorem permitted_jsonBody {decode : Json.Decode β} {request : Request} {next : β → Handler α}
    (rest : ∀ value, Permitted caller (next value)) :
    Permitted caller (jsonBody decode request >>= next) := by
  unfold jsonBody
  -- Kind, size and form of the body are looked at, and each of them may end the way.
  split
  · trivial
  · split
    · trivial
    · split
      · exact rest _
      · trivial
      · trivial

section Requests

variable {operation : Operation} {principal : Principal} (known : principal ∈ caller)

include known

/-- After a read that is open to the caller the way may go on. -/
theorem permitted_read {next : operation.Answer → Handler α}
    (isOpen : operation.isOpenTo principal = true) (read : operation.isRead = true)
    (rest : ∀ answer, Permitted caller (next answer)) :
    Permitted caller (ask operation >>= next) := by
  refine ⟨⟨principal, known, isOpen⟩, Or.inl ⟨read, fun answer => ?_⟩⟩
  -- A failed read ends the way with its error.
  cases answer with
  | error error => trivial
  | ok answer => exact rest answer

/-- After any other request that is open to the caller only the response is left to be made. -/
theorem permitted_last {next : operation.Answer → Handler α}
    (isOpen : operation.isOpenTo principal = true) (rest : ∀ answer, (next answer).run.IsDone) :
    Permitted caller (ask operation >>= next) := by
  refine ⟨⟨principal, known, isOpen⟩, Or.inr fun answer => ?_⟩
  -- Whatever the answer is, nothing is asked after it.
  cases answer with
  | error error => trivial
  | ok answer => exact rest answer

/-- Whether a student is known is asked only for a caller who may act for the student. -/
theorem permitted_checkKnown {studentId : Uuid} {further : Unit → ExceptT Refusal Procedure β}
    {next : β → Handler α} (allowed : principal.can (.enrollFor studentId) = true)
    (rest : Permitted caller (orRefusal (further ()) >>= next)) :
    Permitted caller (orRefusal (checkKnown studentId >>= further) >>= next) := by
  have isOpen : (Operation.studentExists studentId).isOpenTo principal = true :=
    (principal.can_enrollFor studentId).symm.trans allowed
  refine ⟨⟨principal, known, isOpen⟩, Or.inl ⟨rfl, fun answer => ?_⟩⟩
  -- The way ends here for a student who is not known.
  rcases answer with error | exists_
  · trivial
  · cases exists_ with
    | false => trivial
    | true => exact rest

/-- The answer to the last request may also be a refusal. -/
theorem permitted_lastRefusal {further : Except StoreError operation.Answer →
      ExceptT Refusal Procedure β} {next : β → Handler α}
    (isOpen : operation.isOpenTo principal = true)
    (ended : ∀ answer, (further answer).run.IsDone) (rest : ∀ value, (next value).run.IsDone) :
    Permitted caller (orRefusal (Procedure.request operation >>= further) >>= next) := by
  refine ⟨⟨principal, known, isOpen⟩, Or.inr fun answer => ?_⟩
  -- Whatever the answer is turned into, no step on the way from it to the response asks again.
  refine ((Procedure.IsDone.bind (ended answer) ?_).bind ?_).bind ?_
  · exact fun _ => trivial
  · rintro (response | refusal | value) <;> trivial
  · rintro (response | value)
    · trivial
    · exact rest value

end Requests

/-- Whom a request is about is found out without asking, and only for those who may act there. -/
theorem permitted_enrollPair {request : Request} {next : Uuid × Uuid → Handler α}
    (rest : ∀ principal ∈ caller, ∀ pair, principal.can (.enrollFor pair.1) = true →
      Permitted caller (next pair)) :
    Permitted caller (enrollPair caller request >>= next) := by
  -- The caller comes first, and then what the request says.
  rw [enrollPair, bind_assoc]
  refine permitted_signedIn fun principal known => ?_
  split
  -- Only what can be read and resolved is looked at further.
  · split
    · trivial
    · next studentId subjectId resolved =>
      rw [bind_assoc]
      exact permitted_permit fun allowed => rest principal known _ allowed
  · trivial

end Steps

section Handlers

variable {α β : Type} {caller : Option Principal} {request : Request} {segment : List Char}

/-- A list is shown to the administrator only. -/
theorem listed_permitted {operation : Operation} {answer : operation.Answer → List α}
    {write : α → Json} (read : operation.isRead = true)
    (isOpen : ∀ principal, operation.isOpenTo principal = principal.can .manageCatalog) :
    Permitted caller (listed operation answer write caller) := by
  -- The caller is known and has the permission before the list is read.
  refine permitted_signedIn fun principal known => permitted_permit fun allowed => ?_
  exact permitted_read known ((isOpen principal).trans allowed) read fun _ => trivial

/-- A record is made by the administrator only. -/
theorem created_permitted {decode : Json.Decode α} {check : α → Option ApiError}
    {operation : α → Operation} {answer : (input : α) → (operation input).Answer → β}
    {write : β → Json}
    (isOpen : ∀ input principal,
      (operation input).isOpenTo principal = principal.can .manageCatalog) :
    Permitted caller (created decode check operation answer write caller request) := by
  refine permitted_signedIn fun principal known => permitted_jsonBody fun input =>
    permitted_permit fun allowed => ?_
  -- What does not pass the check is not asked for.
  split
  · trivial
  · exact permitted_last known ((isOpen input principal).trans allowed) fun _ => trivial

/-- A record is changed by the administrator only. -/
theorem changed_permitted {entity : Entity} {decode : Json.Decode α}
    {check : α → Option ApiError} {operation : Uuid → α → Operation}
    {answer : (id : Uuid) → (input : α) → (operation id input).Answer → Option β}
    {write : β → Json}
    (isOpen : ∀ id input principal,
      (operation id input).isOpenTo principal = principal.can .manageCatalog) :
    Permitted caller
      (changed entity decode check operation answer write caller segment request) := by
  refine permitted_signedIn fun principal known => permitted_pathId fun id =>
    permitted_jsonBody fun input => permitted_permit fun allowed => ?_
  -- The check is made before the change is asked for.
  split
  · trivial
  · -- Whether the record was there shows in the answer to the change.
    refine permitted_last known ((isOpen id input principal).trans allowed) fun record => ?_
    split <;> trivial

/-- A record is deleted by the administrator only. -/
theorem deleted_permitted {entity : Entity} {operation : Uuid → Operation}
    {answer : (id : Uuid) → (operation id).Answer → Bool}
    (isOpen : ∀ id principal,
      (operation id).isOpenTo principal = principal.can .manageCatalog) :
    Permitted caller (deleted entity operation answer caller segment) := by
  refine permitted_signedIn fun principal known => permitted_pathId fun id =>
    permitted_permit fun allowed => ?_
  refine permitted_last known ((isOpen id principal).trans allowed) fun gone => ?_
  split <;> trivial

/-- A meeting is added by the administrator only. -/
theorem addMeeting_permitted : Permitted caller (addMeeting caller segment request) := by
  refine permitted_signedIn fun principal known => permitted_pathId fun id =>
    permitted_jsonBody fun input => permitted_permit fun allowed => ?_
  exact permitted_last known allowed fun _ => trivial

/-- Subjects are shown to every caller. -/
theorem subjects_permitted : Permitted caller (subjects caller request) := by
  -- The query is read, and the list is open to everybody who is known.
  refine permitted_signedIn fun principal known => ?_
  split
  · exact permitted_read known rfl rfl fun _ => trivial
  · trivial

/-- So is a single subject. -/
theorem subject_permitted : Permitted caller (subject caller segment) := by
  refine permitted_signedIn fun principal known => permitted_pathId fun id => ?_
  refine permitted_read known rfl rfl fun found => ?_
  split <;> trivial

/-- A student is shown to that student and the administrator. -/
theorem student_permitted : Permitted caller (student caller segment) := by
  refine permitted_signedIn fun principal known => permitted_pathId fun id =>
    permitted_permit fun allowed => ?_
  -- The one read is about the student who is shown.
  refine permitted_read known allowed rfl fun found => ?_
  split <;> trivial

/-- So is the timetable of a student. -/
theorem timetable_permitted : Permitted caller (timetable caller segment) := by
  refine permitted_signedIn fun principal known => permitted_pathId fun id =>
    permitted_permit fun allowed => ?_
  -- Both reads are about the student whose timetable it is.
  refine permitted_read known allowed rfl fun exists_ => ?_
  split
  · exact permitted_read known allowed rfl fun _ => trivial
  · trivial

/-- A seat is asked for by the student who is to have it, or by the administrator. -/
theorem enrollHandler_permitted {policy : AdmissionPolicy} :
    Permitted caller (enrollHandler policy caller request) := by
  -- Whom the request is about, the caller may act for.
  refine permitted_enrollPair fun principal known ⟨studentId, subjectId⟩ allowed => ?_
  refine permitted_checkKnown known allowed ?_
  refine permitted_lastRefusal known allowed (fun answer => ?_) fun _ => trivial
  cases answer <;> trivial

/-- It is given back by the same callers. -/
theorem cancelHandler_permitted : Permitted caller (cancelHandler caller request) := by
  refine permitted_enrollPair fun principal known ⟨studentId, subjectId⟩ allowed => ?_
  refine permitted_checkKnown known allowed ?_
  refine permitted_lastRefusal known allowed (fun answer => ?_) fun _ => trivial
  cases answer <;> trivial

/-- Whatever a request is answered by asks for nothing that is not open to its caller. -/
theorem handler?_permitted {policy : AdmissionPolicy} {resource : Resource} {method : Method}
    {handler : Handler Response}
    (found : handler? policy caller request resource method = some handler) :
    Permitted caller handler := by
  -- Each resource takes a few methods, and for all others nothing was found.
  cases resource with
  | me =>
    cases method with
    | get => cases found; exact permitted_signedIn fun _ _ => trivial
    | _ => cases found
  | enroll =>
    cases method with
    | post => cases found; exact enrollHandler_permitted
    | _ => cases found
  | cancel =>
    cases method with
    | post => cases found; exact cancelHandler_permitted
    | _ => cases found
  | timetable =>
    cases method with
    | get => cases found; exact timetable_permitted
    | _ => cases found
  | enrollments =>
    cases method with
    | get => cases found; exact listed_permitted rfl fun _ => rfl
    | _ => cases found
  | subjects =>
    cases method with
    | get => cases found; exact subjects_permitted
    | post => cases found; exact created_permitted fun _ _ => rfl
    | _ => cases found
  | subject =>
    cases method with
    | get => cases found; exact subject_permitted
    | patch => cases found; exact changed_permitted fun _ _ _ => rfl
    | delete => cases found; exact deleted_permitted fun _ _ => rfl
    | _ => cases found
  | schedule =>
    cases method with
    | post => cases found; exact addMeeting_permitted
    | _ => cases found
  | meeting =>
    cases method with
    | delete => cases found; exact deleted_permitted fun _ _ => rfl
    | _ => cases found
  | departments =>
    cases method with
    | get => cases found; exact listed_permitted rfl fun _ => rfl
    | post => cases found; exact created_permitted fun _ _ => rfl
    | _ => cases found
  | department =>
    cases method with
    | put => cases found; exact changed_permitted fun _ _ _ => rfl
    | delete => cases found; exact deleted_permitted fun _ _ => rfl
    | _ => cases found
  | professors =>
    cases method with
    | get => cases found; exact listed_permitted rfl fun _ => rfl
    | post => cases found; exact created_permitted fun _ _ => rfl
    | _ => cases found
  | professor =>
    cases method with
    | put => cases found; exact changed_permitted fun _ _ _ => rfl
    | delete => cases found; exact deleted_permitted fun _ _ => rfl
    | _ => cases found
  | rooms =>
    cases method with
    | get => cases found; exact listed_permitted rfl fun _ => rfl
    | post => cases found; exact created_permitted fun _ _ => rfl
    | _ => cases found
  | room =>
    cases method with
    | put => cases found; exact changed_permitted fun _ _ _ => rfl
    | delete => cases found; exact deleted_permitted fun _ _ => rfl
    | _ => cases found
  | students =>
    cases method with
    | get => cases found; exact listed_permitted rfl fun _ => rfl
    | post => cases found; exact created_permitted fun _ _ => rfl
    | _ => cases found
  | student =>
    cases method with
    | get => cases found; exact student_permitted
    | put => cases found; exact changed_permitted fun _ _ _ => rfl
    | delete => cases found; exact deleted_permitted fun _ _ => rfl
    | _ => cases found

/-- A request for a resource asks for nothing that is not open to its caller. -/
theorem answerAt_asks (policy : AdmissionPolicy) (caller : Option Principal) (request : Request)
    (resource : Resource) : (answerAt policy caller request resource).Asks
      fun operation => ∃ principal ∈ caller, operation.isOpenTo principal = true := by
  unfold answerAt
  split
  · next handler found =>
    -- The handler of the method was found, and it asks for nothing else.
    obtain ⟨method, -, found⟩ := Option.bind_eq_some_iff.mp found
    -- How a way ends and whether a body is wanted only changes the response.
    exact (Procedure.Asks.map (handler?_permitted found) _).map _
  · trivial

/-- Nor does any other request. -/
theorem answer_asks (policy : AdmissionPolicy) (caller : Option Principal) (request : Request) :
    (answer policy caller request).Asks
      fun operation => ∃ principal ∈ caller, operation.isOpenTo principal = true := by
  unfold answer
  split
  · -- A path that leads to a resource is answered by its handler.
    exact answerAt_asks policy caller request _
  · -- For any other path there is nothing to be asked.
    trivial

end Handlers

end Api

end CourseRegistry
