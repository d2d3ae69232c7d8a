import CourseRegistry.Api.Router
import CourseRegistry.Http.Status
import CourseRegistry.Proofs.Store.Answer
import CourseRegistry.Proofs.Store.Success
import CourseRegistry.Proofs.Wire.Enrollment

/-!
The status of a response tells what became of the tables.
A way to a response either refuses and changes nothing, or it does its deed and says so.
-/

namespace CourseRegistry

open Database Http

/-- No error is told with the status of a success. -/
theorem ApiError.isSuccess_status (error : ApiError) : isSuccess error.status = false := by
  -- All kinds of errors have statuses of their own, none of which is that of a success.
  cases error <;> rfl

/-- An operation that fails changes nothing. -/
theorem Operation.unchanged_of_error {db : Database} (written : db.Written Instant.IsReading)
    {stamp : Stamp} {operation : Operation} {error : StoreError}
    (failed : (operation.step stamp db).1 = .error error) :
    (operation.step stamp db).2 = db := by
  have outcome := operation.unchanged_or_success written stamp
  rw [failed] at outcome
  -- An error is no success, whichever operation it comes from.
  have noSuccess : operation.isSuccess (.error error) = false := by cases operation <;> rfl
  exact outcome.resolve_right (Bool.eq_false_iff.mp noSuccess)

namespace Api

section Steps

variable {α β : Type} (stamp : Stamp) (origin : Database) (deed : Response → Database → Prop)

/--
A way to a response is gone on from some tables.
It ends with a refusal and the tables that it started from, or with a response and its deed.
-/
def Settles (db : Database) (handler : Handler Response) : Prop :=
  match handler.run.run stamp db with
  | (.ok response, changed) =>
    isSuccess response.status = false ∧ changed = origin ∨ deed response changed
  | (.error response, changed) => isSuccess response.status = false ∧ changed = origin

variable {stamp origin deed}

/-- An error refuses. -/
theorem settles_fail (error : ApiError) : Settles stamp origin deed origin (fail error) :=
  ⟨error.isSuccess_status, rfl⟩

/-- A caller who is not known is refused. -/
theorem settles_signedIn {caller : Option Principal} {next : Principal → Handler Response}
    (rest : ∀ principal, Settles stamp origin deed origin (next principal)) :
    Settles stamp origin deed origin (signedIn caller >>= next) := by
  -- Without a caller the request is answered as unauthorized.
  cases caller with
  | none => exact settles_fail .unauthorized
  | some principal => exact rest principal

/-- So is a caller who lacks the permission. -/
theorem settles_permit {principal : Principal} {capability : Capability}
    {next : Unit → Handler Response} (rest : Settles stamp origin deed origin (next ())) :
    Settles stamp origin deed origin (permit principal capability >>= next) := by
  unfold permit Principal.authorize
  -- The permission is looked up before the tables are touched.
  cases principal.can capability with
  | false => exact settles_fail (.ofRefusal .forbidden)
  | true => exact rest

/-- The identifier that a part of a path spells. -/
def segmentId? (segment : List Char) : Option Uuid :=
  (Text.textOf? (percentDecode (Text.octets (String.ofList segment)))).bind Uuid.ofText?

/-- A part of the path that spells no identifier is refused. -/
theorem settles_pathId {segment : List Char} {next : Uuid → Handler Response}
    (rest : ∀ id, segmentId? segment = some id → Settles stamp origin deed origin (next id)) :
    Settles stamp origin deed origin (pathId segment >>= next) := by
  unfold pathId
  split
  · -- The identifier is spelled, and the way goes on.
    next id spelled => exact rest id spelled
  · exact ⟨rfl, rfl⟩

/-- So is a body that is not the one that is needed. -/
theorem settles_jsonBody {decode : Json.Decode β} {request : Request}
    {next : β → Handler Response}
    (rest : ∀ value, Json.decodeOctets decode request.body = .ok value →
      Settles stamp origin deed origin (next value)) :
    Settles stamp origin deed origin (jsonBody decode request >>= next) := by
  unfold jsonBody
  -- The kind, the size and the form of the body are looked at before the tables are.
  split
  · exact ⟨rfl, rfl⟩
  · split
    · exact ⟨rfl, rfl⟩
    · split
      · -- The body has a value, and the way goes on with it.
        next value read => exact rest value read
      · exact ⟨rfl, rfl⟩
      · exact ⟨rfl, rfl⟩

/-- The way goes on from what a request leaves behind, with its answer, and an error ends it. -/
theorem settles_ask {operation : Operation} {db : Database}
    {next : operation.Answer → Handler Response}
    (failed : ∀ error, (operation.step stamp db).1 = .error error →
      (operation.step stamp db).2 = origin)
    (rest : ∀ answer, (operation.step stamp db).1 = .ok answer →
      Settles stamp origin deed (operation.step stamp db).2 (next answer)) :
    Settles stamp origin deed db (ask operation >>= next) := by
  unfold Settles
  -- The first request of the way is carried out on the tables at hand.
  rw [ask, bind_assoc, Procedure.run_request]
  cases answered : (operation.step stamp db).1 with
  | error error => exact ⟨ApiError.isSuccess_status _, failed error answered⟩
  | ok answer => exact rest answer answered

/-- After a read the way goes on as before. -/
theorem settles_read {operation : Operation} {next : operation.Answer → Handler Response}
    (read : operation.isRead = true)
    (rest : ∀ answer, Settles stamp origin deed origin (next answer)) :
    Settles stamp origin deed origin (ask operation >>= next) := by
  have unchanged := Operation.step_of_isRead read stamp origin
  refine settles_ask (fun _ _ => unchanged) fun answer _ => ?_
  rw [unchanged]
  exact rest answer

/-- A procedure that may be refused is carried out request by request. -/
theorem run_orRefusal_request {operation : Operation}
    (further : Except StoreError operation.Answer → ExceptT Refusal Procedure β)
    (next : β → Handler Response) (db : Database) :
    (orRefusal (liftM (Procedure.request operation) >>= further) >>= next).run.run stamp db =
      (orRefusal (further (operation.step stamp db).1) >>= next).run.run stamp
        (operation.step stamp db).2 := by
  rfl

/-- A student who is not known is refused. -/
theorem settles_checkKnown {studentId : Uuid} {further : Unit → ExceptT Refusal Procedure β}
    {next : β → Handler Response}
    (rest : Settles stamp origin deed origin (orRefusal (further ()) >>= next)) :
    Settles stamp origin deed origin (orRefusal (checkKnown studentId >>= further) >>= next) := by
  unfold Settles
  rw [checkKnown, bind_assoc, run_orRefusal_request]
  -- The tables are only asked whether the student is there.
  have answer : Operation.step stamp (.studentExists studentId) origin =
      (.ok (origin.has .student studentId), origin) := rfl
  rw [answer]
  cases origin.has .student studentId with
  | true => exact rest
  | false => exact ⟨rfl, rfl⟩

/-- The way goes on from what the last request leaves behind, with its outcome. -/
theorem settles_orRefusal {operation : Operation} {db : Database}
    {further : Except StoreError operation.Answer → ExceptT Refusal Procedure β}
    {next : β → Handler Response}
    (failed : ∀ error, (operation.step stamp db).1 = .error error →
      (operation.step stamp db).2 = origin ∧ further (.error error) = throw error.asRefusal)
    (rest : ∀ outcome, (operation.step stamp db).1 = .ok outcome →
      Settles stamp origin deed (operation.step stamp db).2
        (orRefusal (further (.ok outcome)) >>= next)) :
    Settles stamp origin deed db
      (orRefusal (liftM (Procedure.request operation) >>= further) >>= next) := by
  unfold Settles
  rw [run_orRefusal_request]
  -- An error of the last request is told as a refusal.
  cases answered : (operation.step stamp db).1 with
  | error error =>
    obtain ⟨same, refused⟩ := failed error answered
    rw [refused]
    exact ⟨ApiError.isSuccess_status (.ofRefusal error.asRefusal), same⟩
  | ok outcome => exact rest outcome answered

/-- Whom a request is about is found out, or the request is refused. -/
theorem settles_enrollPair {caller : Option Principal} {request : Request}
    {next : Uuid × Uuid → Handler Response}
    (rest : ∀ pair, Settles stamp origin deed origin (next pair)) :
    Settles stamp origin deed origin (enrollPair caller request >>= next) := by
  rw [enrollPair, bind_assoc]
  refine settles_signedIn fun principal => ?_
  -- The question behind the path comes first, then whom it is about, then the permission.
  split
  · split
    · exact settles_fail _
    · next studentId subjectId resolved =>
      rw [bind_assoc]
      exact settles_permit (rest _)
  · exact ⟨rfl, rfl⟩

end Steps

/-- The kind of record that a resource takes new ones of. -/
def Resource.created? : Resource → Option Entity
  | .departments => some .department
  | .professors => some .professor
  | .rooms => some .room
  | .students => some .student
  | .subjects => some .subject
  | .schedule _ => some .meeting
  | _ => none

/-- The record that a resource is: its kind and the identifier that the path spells. -/
def Resource.addressed? : Resource → Option (Entity × Uuid)
  | .department id => (segmentId? id).map (.department, ·)
  | .professor id => (segmentId? id).map (.professor, ·)
  | .room id => (segmentId? id).map (.room, ·)
  | .student id => (segmentId? id).map (.student, ·)
  | .subject id => (segmentId? id).map (.subject, ·)
  | .meeting id => (segmentId? id).map (.meeting, ·)
  | _ => none

/-- A response tells the outcome of giving a seat back. -/
def Tells (outcome : CancelOutcome) (response : Response) : Prop :=
  response.status = 200 ∧ ∃ members, response.body = some (.object members) ∧
    ("outcome", .string outcome.kind) ∈ members

/-- What is done by each method to each resource, and how the response says so. -/
def Deed (db : Database) : Method → Resource → Response → Database → Prop
  | .get, _, _, changed => changed = db
  | .post, .enroll, response, changed => response.status = 201 ∧ changed.HasOneSeatMore db
  | .post, .cancel, response, changed =>
    Tells .cancelled response ∧ db.HasOneSeatMore changed ∨
      ¬ Tells .cancelled response ∧ changed = db
  | .post, resource, response, changed =>
    response.status = 201 ∧ ∃ entity ∈ resource.created?, changed.HasOneMore db entity
  | .delete, resource, response, changed =>
    response.status = 204 ∧ ∃ record ∈ resource.addressed?,
      db.has record.1 record.2 = true ∧ changed.has record.1 record.2 = false
  | _, _, response, _ => response.status = 200

/-- Where a record can be made, the deed is to make one. -/
theorem deed_post_iff {db changed : Database} {response : Response} {resource : Resource}
    {entity : Entity} (created : entity ∈ resource.created?) :
    Deed db .post resource response changed ↔
      response.status = 201 ∧ changed.HasOneMore db entity := by
  -- The posts about seats have deeds of their own, and those resources take no new records.
  cases resource with
  | departments | professors | rooms | students | subjects | schedule =>
    cases created
    refine and_congr_right fun _ => ⟨?_, fun more => ⟨_, rfl, more⟩⟩
    rintro ⟨_, ⟨⟩, more⟩
    exact more
  | _ => cases created

section Handlers

variable {α β : Type} {stamp : Stamp} {db : Database} {deed : Response → Database → Prop}
  {caller : Option Principal} {request : Request} {segment : List Char}

/-- A list only shows what is there. -/
theorem listed_settles {operation : Operation} {answer : operation.Answer → List α}
    {write : α → Json} (read : operation.isRead = true)
    (shown : ∀ response, deed response db) :
    Settles stamp db deed db (listed operation answer write caller) := by
  -- The caller is looked at before the list is read.
  refine settles_signedIn fun principal => settles_permit ?_
  exact settles_read read fun _ => .inr (shown _)

/-- A record of the kind that a resource takes is made, or nothing is. -/
theorem created_settles (entity : Entity) {resource : Resource}
    (creates : entity ∈ resource.created?) (written : db.Written Instant.IsReading)
    {decode : Json.Decode α} {check : α → Option ApiError} {operation : α → Operation}
    {answer : (input : α) → (operation input).Answer → β} {write : β → Json}
    (adds : ∀ input made, ((operation input).step stamp db).1 = .ok made →
      ((operation input).step stamp db).2.HasOneMore db entity) :
    Settles stamp db (Deed db .post resource) db
      (created decode check operation answer write caller request) := by
  refine settles_signedIn fun principal => settles_jsonBody fun input _ => settles_permit ?_
  -- What does not pass the check is not asked for.
  split
  · -- What did not pass is refused.
    exact settles_fail _
  · -- What was asked for was done, or it failed and changed nothing.
    refine settles_ask (fun _ => Operation.unchanged_of_error written) fun made answered => ?_
    exact .inr ((deed_post_iff creates).mpr ⟨rfl, adds input made answered⟩)

/-- A record is changed, or nothing is. -/
theorem changed_settles (written : db.Written Instant.IsReading) {entity : Entity}
    {decode : Json.Decode α} {check : α → Option ApiError} {operation : Uuid → α → Operation}
    {answer : (id : Uuid) → (input : α) → (operation id input).Answer → Option β}
    {write : β → Json}
    (isSuccess : ∀ id input record, (operation id input).isSuccess (.ok record) =
      (answer id input record).isSome)
    (done : ∀ response changed, response.status = 200 → deed response changed) :
    Settles stamp db deed db
      (changed entity decode check operation answer write caller segment request) := by
  -- The caller, the record, the body and the permission are looked at in this order.
  refine settles_signedIn fun principal => settles_pathId fun id _ =>
    settles_jsonBody fun input _ => settles_permit ?_
  split
  · exact settles_fail _
  · refine settles_ask (fun _ => Operation.unchanged_of_error written) fun record answered => ?_
    -- An update that answers with no record has changed nothing.
    have outcome := Operation.unchanged_or_success written stamp (operation id input)
    rw [answered, isSuccess] at outcome
    cases found : answer id input record with
    | some record => exact .inr (done _ _ rfl)
    | none =>
      -- Where there is no such record, nothing was changed.
      rw [found] at outcome
      rw [outcome.resolve_right Bool.false_ne_true]
      exact settles_fail (missing entity id)

/-- The record that a resource is was there and is gone, or nothing is. -/
theorem deleted_settles {entity : Entity} {resource : Resource}
    (addressed : resource.addressed? = (segmentId? segment).map (entity, ·))
    {operation : Uuid → Operation} {answer : (id : Uuid) → (operation id).Answer → Bool}
    (deletes : ∀ id, IsDeletion entity id db
      ((answer id <$> ((operation id).step stamp db).1), ((operation id).step stamp db).2)) :
    Settles stamp db (Deed db .delete resource) db
      (deleted entity operation answer caller segment) := by
  refine settles_signedIn fun principal => settles_pathId fun id spelled => settles_permit ?_
  -- A deletion never fails: its answer is a yes or a no.
  have outcome := deletes id
  refine settles_ask (fun error failed => ?_) fun gone answered => ?_
  · rw [failed] at outcome
    rcases outcome with ⟨yes, -⟩ | ⟨no, -⟩
    · -- A failure is no yes.
      cases yes
    · -- Nor is it a no.
      cases no
  · rw [answered] at outcome
    rcases outcome with ⟨yes, there, removed⟩ | ⟨no, same⟩
    · -- With a yes the record was there and is gone.
      rw [Except.ok.inj yes]
      have record : (entity, id) ∈ resource.addressed? := by
        rw [addressed, spelled, Option.map_some, Option.mem_some_iff]
      exact .inr ⟨rfl, (entity, id), record, there, removed⟩
    · -- With a no there was none, and everything stays.
      rw [Except.ok.inj no]
      dsimp only at same
      rw [same]
      exact settles_fail (missing entity id)

/-- A meeting is added to the schedule, or nothing is. -/
theorem addMeeting_settles (written : db.Written Instant.IsReading) :
    Settles stamp db (Deed db .post (.schedule segment)) db
      (addMeeting caller segment request) := by
  refine settles_signedIn fun principal => settles_pathId fun id _ =>
    settles_jsonBody fun input _ => settles_permit ?_
  refine settles_ask (fun _ => Operation.unchanged_of_error written) fun slot answered => ?_
  -- The resource is the schedule of one subject, but the new record is a meeting.
  obtain ⟨-, -, added⟩ := addMeeting_of_ok answered
  have created : Entity.meeting ∈ (Resource.schedule segment).created? := rfl
  exact .inr ((deed_post_iff created).mpr ⟨rfl, _, isOneMore_append _ _, added⟩)

/-- The list of subjects only shows what is there. -/
theorem subjects_settles (shown : ∀ response, deed response db) :
    Settles stamp db deed db (subjects caller request) := by
  refine settles_signedIn fun principal => ?_
  split
  · -- A query that can be read asks for a list.
    exact settles_read rfl fun _ => .inr (shown _)
  · -- Any other is refused.
    exact ⟨rfl, rfl⟩

/-- So does a single subject. -/
theorem subject_settles (shown : ∀ response, deed response db) :
    Settles stamp db deed db (subject caller segment) := by
  refine settles_signedIn fun principal => settles_pathId fun id _ => ?_
  refine settles_read rfl fun found => ?_
  cases found with
  | none => exact settles_fail (missing .subject id)
  | some subject => exact .inr (shown _)

/-- So does a single student. -/
theorem student_settles (shown : ∀ response, deed response db) :
    Settles stamp db deed db (student caller segment) := by
  refine settles_signedIn fun principal => settles_pathId fun id _ => settles_permit ?_
  refine settles_read rfl fun found => ?_
  cases found with
  | none => exact settles_fail (missing .student id)
  | some student => exact .inr (shown _)

/-- So does a timetable, for which it is asked first whether the student is there. -/
theorem timetable_settles (shown : ∀ response, deed response db) :
    Settles stamp db deed db (timetable caller segment) := by
  refine settles_signedIn fun principal => settles_pathId fun id _ => settles_permit ?_
  refine settles_read rfl fun known => ?_
  cases known with
  | false => exact settles_fail (missing .student id)
  | true => exact settles_read rfl fun _ => .inr (shown _)

/-- A seat is granted, or nothing is changed, whatever the answer is. -/
theorem enrollHandler_settles (written : db.Written Instant.IsReading)
    {policy : AdmissionPolicy}
    (done : ∀ response changed, response.status = 201 → changed.HasOneSeatMore db →
      deed response changed) :
    Settles stamp db deed db (enrollHandler policy caller request) := by
  refine settles_enrollPair fun ⟨studentId, subjectId⟩ => settles_checkKnown ?_
  refine settles_orRefusal (fun error failed => ⟨Operation.unchanged_of_error written failed, rfl⟩)
    fun outcome answered => ?_
  rcases grantSeat_cases stamp db studentId subjectId policy with
    ⟨-, -, -, granted⟩ | ⟨refused, same⟩
  · -- The seat that was granted stands behind all others.
    have enrolled := congrArg Prod.fst granted
    obtain rfl := Except.ok.inj (answered.symm.trans enrolled)
    exact .inr (done _ _ rfl ⟨_, isOneMore_append _ _, congrArg Prod.snd granted⟩)
  · -- All other outcomes are told with the status of a refusal.
    refine .inl ⟨?_, same⟩
    cases outcome with
    | enrolled seat => exact absurd answered (refused seat)
    | _ => rfl

/-- A seat is given back, or nothing is changed, and the outcome says which. -/
theorem cancelHandler_settles (written : db.Written Instant.IsReading)
    (unique : db.Unique)
    (done : ∀ response changed, Tells .cancelled response → db.HasOneSeatMore changed →
      deed response changed)
    (idle : ∀ response, ¬ Tells .cancelled response → deed response db) :
    Settles stamp db deed db (cancelHandler caller request) := by
  refine settles_enrollPair fun ⟨studentId, subjectId⟩ => settles_checkKnown ?_
  refine settles_orRefusal (fun error failed => ⟨Operation.unchanged_of_error written failed, rfl⟩)
    fun outcome answered => ?_
  rcases releaseSeat_cases db unique studentId subjectId with ⟨yes, fewer⟩ | ⟨no, same⟩
  · -- The seat was held, and the word for this stands in the body.
    obtain rfl := Except.ok.inj (answered.symm.trans yes)
    exact .inr (done _ _ ⟨rfl, _, rfl, List.mem_cons_self⟩ fewer)
  · obtain rfl := Except.ok.inj (answered.symm.trans no)
    -- The other outcome has the same status, and is told apart by its word in the body.
    have untold : ¬ Tells .cancelled (outcomeResponse 200 CancelOutcome.notEnrolled.members
        CancelOutcome.notEnrolled.message) := by
      rintro ⟨-, members, body, told⟩
      cases body
      simp [CancelOutcome.members_eq, CancelOutcome.kind] at told
    rw [show (Operation.step stamp (.releaseSeat studentId subjectId) db).2 = db from same]
    exact .inr (idle _ untold)

/-- Whatever answers a request refuses it, or does what the method does to the resource. -/
theorem handler?_settles (reachable : db.Reachable Instant.InFourDigitYear)
    {policy : AdmissionPolicy} {resource : Resource} {method : Method} {handler : Handler Response}
    (found : handler? policy caller request resource method = some handler) :
    Settles stamp db (Deed db method resource) db handler := by
  have written := reachable.readings
  -- Each resource takes a few methods, and for all others nothing was found.
  cases resource with
  | me =>
    cases method with
    | get => cases found; exact settles_signedIn fun _ => .inr rfl
    | _ => cases found
  | enroll =>
    cases method with
    | post => cases found; exact enrollHandler_settles written fun _ _ => And.intro
    | _ => cases found
  | cancel =>
    cases method with
    | post =>
      cases found
      exact cancelHandler_settles written reachable.wellFormed.unique
        (fun _ _ told fewer => .inl ⟨told, fewer⟩) fun _ untold => .inr ⟨untold, rfl⟩
    | _ => cases found
  | timetable =>
    cases method with
    | get => cases found; exact timetable_settles fun _ => rfl
    | _ => cases found
  | enrollments =>
    cases method with
    | get => cases found; exact listed_settles rfl fun _ => rfl
    | _ => cases found
  | subjects =>
    cases method with
    | get => cases found; exact subjects_settles fun _ => rfl
    | post =>
      cases found
      exact created_settles .subject rfl written fun _ _ made =>
        ⟨_, isOneMore_append _ _, (addSubject_of_ok made).2.2.2⟩
    | _ => cases found
  | subject =>
    cases method with
    | get => cases found; exact subject_settles fun _ => rfl
    | patch =>
      cases found
      exact changed_settles written (fun _ _ _ => rfl) fun _ _ status => status
    | delete =>
      cases found
      exact deleted_settles rfl fun id => (deleteSubject_isDeletion id db).map_answer
    | _ => cases found
  | schedule =>
    cases method with
    | post => cases found; exact addMeeting_settles written
    | _ => cases found
  | meeting =>
    cases method with
    | delete =>
      cases found
      exact deleted_settles rfl fun id => (removeMeeting_isDeletion id db).map_answer
    | _ => cases found
  | departments =>
    cases method with
    | get => cases found; exact listed_settles rfl fun _ => rfl
    | post =>
      cases found
      exact created_settles .department rfl written fun _ _ made =>
        ⟨_, isOneMore_append _ _, (addDepartment_of_ok made).2.2⟩
    | _ => cases found
  | department =>
    cases method with
    | put => cases found; exact changed_settles written (fun _ _ _ => rfl) fun _ _ status => status
    | delete =>
      cases found
      exact deleted_settles rfl fun id => (deleteDepartment_isDeletion id db).map_answer
    | _ => cases found
  | professors =>
    cases method with
    | get => cases found; exact listed_settles rfl fun _ => rfl
    | post =>
      cases found
      exact created_settles .professor rfl written fun _ _ made =>
        ⟨_, isOneMore_append _ _, (addProfessor_of_ok made).2.2⟩
    | _ => cases found
  | professor =>
    cases method with
    | put => cases found; exact changed_settles written (fun _ _ _ => rfl) fun _ _ status => status
    | delete =>
      cases found
      exact deleted_settles rfl fun id => (deleteProfessor_isDeletion id db).map_answer
    | _ => cases found
  | rooms =>
    cases method with
    | get => cases found; exact listed_settles rfl fun _ => rfl
    | post =>
      cases found
      exact created_settles .room rfl written fun _ _ made =>
        ⟨_, isOneMore_append _ _, (addRoom_of_ok made).2.2⟩
    | _ => cases found
  | room =>
    cases method with
    | put => cases found; exact changed_settles written (fun _ _ _ => rfl) fun _ _ status => status
    | delete =>
      cases found
      exact deleted_settles rfl fun id => (deleteRoom_isDeletion id db).map_answer
    | _ => cases found
  | students =>
    cases method with
    | get => cases found; exact listed_settles rfl fun _ => rfl
    | post =>
      cases found
      exact created_settles .student rfl written fun _ _ made =>
        ⟨_, isOneMore_append _ _, (addStudent_of_ok made).2.2⟩
    | _ => cases found
  | student =>
    cases method with
    | get => cases found; exact student_settles fun _ => rfl
    | put => cases found; exact changed_settles written (fun _ _ _ => rfl) fun _ _ status => status
    | delete =>
      cases found
      exact deleted_settles rfl fun id => (deleteStudent_isDeletion id db).map_answer
    | _ => cases found

end Handlers

/-- A request is for a method on a resource. -/
def IsFor (request : Request) (method : Method) (resource : Resource) : Prop :=
  Method.ofText? request.method = some method ∧
    Resource.ofSegments? (segments request.path) = some resource

/-- Only a look may be one without a body. -/
theorem ne_head_of_named {request : Request} {method : Method}
    (named : Method.ofText? request.method = some method) (isNoLook : method ≠ .get) :
    request.method ≠ "HEAD" := by
  intro head
  rw [head] at named
  exact isNoLook (Option.some.inj named).symm

/-- A request that is not for a look is answered with what its handler ends with. -/
theorem answerAt_eq_respond {policy : AdmissionPolicy} {caller : Option Principal}
    {request : Request} {method : Method} {resource : Resource} {handler : Handler Response}
    (named : Method.ofText? request.method = some method) (isNoLook : method ≠ .get)
    (handled : handler? policy caller request resource method = some handler) :
    answerAt policy caller request resource = respond handler := by
  -- The method is not that of a look, so that the body is kept.
  rw [answerAt, named, Option.bind_some, handled]
  simp only [if_neg (ne_head_of_named named isNoLook)]
  exact id_map (respond handler)

/-- So is a request that is for the resource by its path. -/
theorem answer_eq_respond {policy : AdmissionPolicy} {caller : Option Principal}
    {request : Request} {method : Method} {resource : Resource} {handler : Handler Response}
    (isFor : IsFor request method resource) (isNoLook : method ≠ .get)
    (handled : handler? policy caller request resource method = some handler) :
    answer policy caller request = respond handler := by
  -- The path leads to the resource.
  rw [answer, isFor.2]
  exact answerAt_eq_respond isFor.1 isNoLook handled

/-- The status of the response to a request tells what became of the tables. -/
structure IsTruthful (request : Request) (db : Database) (response : Response)
    (changed : Database) : Prop where
  /-- Whoever only looks changes nothing, and neither does whoever is refused. -/
  unchanged : Method.ofText? request.method = some .get ∨ isSuccess response.status = false →
    changed = db
  /-- A seat is told to be granted exactly where there is one more, and nothing else is new. -/
  enrolled : IsFor request .post .enroll →
    (response.status = 201 ↔ changed.HasOneSeatMore db)
  /-- A seat is told to be given back exactly where there is one less. -/
  cancelled : IsFor request .post .cancel →
    (Tells .cancelled response ↔ db.HasOneSeatMore changed)
  /-- A record is told to be made exactly where there is one more of its kind. -/
  created : ∀ resource, ∀ entity ∈ resource.created?, IsFor request .post resource →
    (response.status = 201 ↔ changed.HasOneMore db entity)
  /-- A record is told to be deleted exactly where it was there and is gone. -/
  deleted : Method.ofText? request.method = some .delete →
    (response.status = 204 ↔ ∃ resource, IsFor request .delete resource ∧
      ∃ record ∈ resource.addressed?,
        db.has record.1 record.2 = true ∧ changed.has record.1 record.2 = false)

section Responses

variable {db changed : Database} {request : Request} {response : Response}

/-- A request is for one method and one resource only. -/
theorem IsFor.unique {method other : Method} {resource target : Resource}
    (isFor : IsFor request method resource) (isForOther : IsFor request other target) :
    other = method ∧ target = resource :=
  ⟨Option.some.inj (isForOther.1.symm.trans isFor.1),
    Option.some.inj (isForOther.2.symm.trans isFor.2)⟩

/-- A refusal does not have the status of a success. -/
theorem status_ne_of_refused (refused : isSuccess response.status = false) {status : Nat}
    (success : isSuccess status = true) : response.status ≠ status := by
  rintro rfl
  rw [success] at refused
  cases refused

/-- A deed that is told with no success has changed nothing. -/
theorem Deed.unchanged {method : Method} {resource : Resource}
    (deed : Deed db method resource response changed)
    (quiet : method = .get ∨ isSuccess response.status = false) : changed = db := by
  rcases quiet with rfl | refused
  · exact deed
  · -- All that changes something is told with one of three statuses.
    have noSuccess {status : Nat} (success : isSuccess status = true) : response.status ≠ status :=
      status_ne_of_refused refused success
    cases method with
    | get => exact deed
    | post =>
      cases resource with
      | cancel =>
        rcases deed with ⟨⟨status, -⟩, -⟩ | ⟨-, same⟩
        · -- A seat that is given back is told with a success.
          exact absurd status (noSuccess rfl)
        · exact same
      | _ => exact absurd deed.1 (noSuccess rfl)
    -- Other methods change nothing without one of these statuses.
    | put => exact absurd deed (noSuccess rfl)
    | patch => exact absurd deed (noSuccess rfl)
    | delete => exact absurd deed.1 (noSuccess rfl)

/-- A refusal that changes nothing is truthful. -/
theorem isTruthful_refusal (refused : isSuccess response.status = false) :
    IsTruthful request db response db where
  unchanged _ := rfl
  enrolled _ := iff_of_false (status_ne_of_refused refused rfl) fun more => more.ne rfl
  cancelled _ :=
    iff_of_false (fun told => status_ne_of_refused refused rfl told.1) fun fewer => fewer.ne rfl
  created _ _ _ _ := iff_of_false (status_ne_of_refused refused rfl) fun more => more.ne rfl
  deleted _ := by
    refine iff_of_false (status_ne_of_refused refused rfl) ?_
    -- In the same tables a record cannot be there and be gone.
    rintro ⟨_, -, record, -, there, gone⟩
    rw [there] at gone
    cases gone

/-- So is a deed that the request was for. -/
theorem Deed.isTruthful {method : Method} {resource : Resource}
    (isFor : IsFor request method resource) (deed : Deed db method resource response changed) :
    IsTruthful request db response changed where
  -- A request is for one method and one resource, so that only one clause is about its deed.
  unchanged quiet :=
    deed.unchanged (quiet.imp_left fun get => Option.some.inj (isFor.1.symm.trans get))
  enrolled isForSeat := by
    obtain ⟨rfl, rfl⟩ := isFor.unique isForSeat
    exact iff_of_true deed.1 deed.2
  cancelled isForSeat := by
    obtain ⟨rfl, rfl⟩ := isFor.unique isForSeat
    rcases deed with ⟨told, fewer⟩ | ⟨untold, same⟩
    · exact iff_of_true told fewer
    · exact iff_of_false untold fun fewer => fewer.ne same.symm
  created target entity created isForTarget := by
    obtain ⟨rfl, rfl⟩ := isFor.unique isForTarget
    -- The resource takes one kind of record, and that is the kind that was made.
    obtain ⟨status, more⟩ := (deed_post_iff created).mp deed
    exact iff_of_true status more
  deleted named := by
    obtain rfl := Option.some.inj (isFor.1.symm.trans named)
    obtain ⟨status, record, addressed, there, gone⟩ := deed
    exact iff_of_true status ⟨resource, isFor, record, addressed, there, gone⟩

/-- A request for a head gets the response without its body, which has the same status. -/
theorem status_withoutBody (request : Request) (response : Response) :
    (if request.method = "HEAD" then response.withoutBody else response).status =
      response.status := by
  split
  · rfl
  · rfl

/-- Whoever asks for a head only looks, so that no deed is told by a body that is left out. -/
theorem Deed.withoutBody {method : Method} {resource : Resource}
    (named : Method.ofText? request.method = some method)
    (deed : Deed db method resource response changed) :
    Deed db method resource
      (if request.method = "HEAD" then response.withoutBody else response) changed := by
  split
  · next head =>
    rw [head] at named
    cases named
    exact deed
  · exact deed

end Responses

/-- A request is answered with a refusal that changes nothing, or with the deed that it was for. -/
theorem answer_cases {db : Database} (reachable : db.Reachable Instant.InFourDigitYear)
    (policy : AdmissionPolicy) (caller : Option Principal) (request : Request) (stamp : Stamp) :
    let outcome := (answer policy caller request).run stamp db
    (isSuccess outcome.1.status = false ∧ outcome.2 = db) ∨
      ∃ method resource, IsFor request method resource ∧
        Deed db method resource outcome.1 outcome.2 := by
  unfold answer
  split
  · next resource path =>
    unfold answerAt
    split
    · next handler found =>
      obtain ⟨method, named, found⟩ := Option.bind_eq_some_iff.mp found
      have settles : Settles stamp db (Deed db method resource) db handler :=
        handler?_settles reachable found
      unfold Settles at settles
      simp only [respond, Procedure.run_map]
      -- Whichever way the handler ends, leaving the body out keeps the status and the tables.
      split at settles
      · next response changed ended =>
        rw [ended]
        rw [status_withoutBody request]
        exact settles.imp_right fun deed =>
          ⟨method, resource, ⟨named, path⟩, deed.withoutBody named⟩
      · next response changed ended =>
        rw [ended]
        rw [status_withoutBody request]
        exact .inl settles
    -- No resource has such a path, or it does not take the method: nothing is asked for.
    · exact .inl ⟨rfl, rfl⟩
  · exact .inl ⟨rfl, rfl⟩

/-- In all that can be reached, every response tells the truth about the tables. -/
theorem answer_isTruthful {db : Database} (reachable : db.Reachable Instant.InFourDigitYear)
    (policy : AdmissionPolicy) (caller : Option Principal) (request : Request) (stamp : Stamp) :
    let outcome := (answer policy caller request).run stamp db
    IsTruthful request db outcome.1 outcome.2 := by
  intro outcome
  rcases answer_cases reachable policy caller request stamp with
    ⟨refused, same⟩ | ⟨method, resource, isFor, deed⟩
  · have same : outcome.2 = db := same
    rw [same]
    exact isTruthful_refusal refused
  · -- What was done is what the request was for.
    exact deed.isTruthful isFor

/-- A request by which a seat is given back. -/
def seatReturn : Request :=
  ⟨"POST", "/enroll/cancel?subjectId=22222222-2222-2222-2222-222222222222", none, none, []⟩

/-- The student of the sample gives a seat back, and is told the truth about it. -/
theorem answer_isTruthful_sample :
    let outcome := (answer .standard (some (.student (.ofDigit 1))) seatReturn).run
      (.ofDigit 9) (empty.after sampleRun)
    (empty.after sampleRun).Reachable Instant.InFourDigitYear ∧
      IsFor seatReturn .post .cancel ∧ outcome.2 ≠ empty.after sampleRun ∧
      IsTruthful seatReturn (empty.after sampleRun) outcome.1 outcome.2 := by
  have reachable : (empty.after sampleRun).Reachable Instant.InFourDigitYear :=
    ⟨sampleRun, by decide, rfl⟩
  exact ⟨reachable, ⟨by decide, by decide +kernel⟩, by decide +kernel,
    answer_isTruthful reachable _ _ _ _⟩

end Api

end CourseRegistry
