import CourseRegistry.Client.Session
import CourseRegistry.Proofs.Client.Reply
import CourseRegistry.Proofs.Client.Request
import CourseRegistry.Proofs.Server.Authorization

/-!
Client and server agree on what is an answer about a seat.
An answer is what the registry returns, be it yes or no; what does not come so far is an error.
The client prints the one and ends well, and it fails with the other.
-/

namespace CourseRegistry

open Http Api

namespace Api

section Returned

variable (policy : AdmissionPolicy) (stamp : Stamp) (db : Database)

/-- The registry returns an outcome, and the reply is its kind and its sentence. -/
def SeatRequest.Returns (studentId subjectId : Uuid) (reply : Client.OutcomeReply) :
    SeatRequest → Prop
  | enroll => ∃ outcome,
      ((CourseRegistry.enroll policy studentId subjectId).run.run stamp db).1 = .ok outcome ∧
        reply = ⟨outcome.kind, outcome.message⟩
  | cancel => ∃ outcome,
      ((CourseRegistry.cancel studentId subjectId).run.run stamp db).1 = .ok outcome ∧
        reply = ⟨outcome.kind, outcome.message⟩

/-- The registry returns an outcome for those whom a request of a caller concerns. -/
def SeatRequest.IsAnsweredWith (caller : Option Principal) (request : Request)
    (reply : Client.OutcomeReply) (seat : SeatRequest) : Prop :=
  ∃ principal query studentId subjectId, caller = some principal ∧
    EnrollParams.ofForm? request.query = some query ∧
      Concerns principal (studentText query (EnrollParams.ofBody? request))
        (subjectText query (EnrollParams.ofBody? request)) (.ok (studentId, subjectId)) ∧
        seat.Returns policy stamp db studentId subjectId reply

variable {principal : Principal} {request : Request} {seat : SeatRequest}
  {reply : Client.OutcomeReply} {query : EnrollParams}
  (parsed : EnrollParams.ofForm? request.query = some query)

include parsed

/-- Once it is known whom a request concerns, it is up to what the registry returns for them. -/
theorem SeatRequest.isAnsweredWith_iff {verdict : Except ApiError (Uuid × Uuid)}
    (concerns : Concerns principal (studentText query (EnrollParams.ofBody? request))
      (subjectText query (EnrollParams.ofBody? request)) verdict) :
    seat.IsAnsweredWith policy stamp db (some principal) request reply ↔
      ∃ studentId subjectId, verdict = .ok (studentId, subjectId) ∧
        seat.Returns policy stamp db studentId subjectId reply := by
  constructor
  · -- No request concerns two pairs, or one pair and is refused.
    rintro ⟨_, _, studentId, subjectId, ⟨⟩, read, pair, returned⟩
    obtain rfl := Option.some.inj (parsed.symm.trans read)
    -- The pair that the request concerns is the verdict, which there is only one of.
    exact ⟨studentId, subjectId, concerns.unique pair, returned⟩
  · -- And where the verdict is a pair, it is that pair which the registry is asked about.
    rintro ⟨studentId, subjectId, rfl, returned⟩
    exact ⟨principal, query, studentId, subjectId, rfl, parsed, concerns, returned⟩

end Returned

/-- What the registry returns is turned into a response, and a refusal into an error. -/
theorem run_respond_orRefusal {α : Type} (procedure : ExceptT Refusal Procedure α)
    (tell : α → Response) (stamp : Stamp) (db : Database) :
    ((respond (orRefusal procedure >>= fun outcome => pure (tell outcome))).run stamp db).1 =
      match (procedure.run.run stamp db).1 with
      | .ok outcome => tell outcome
      | .error refusal => (ApiError.ofRefusal refusal).response := by
  unfold ExceptT at procedure
  -- Each request is made on both sides, until the result is there.
  induction procedure generalizing db with
  | done value => cases value <;> rfl
  | ask operation next ih => exact ih _ _

end Api

namespace Client

section Responses

variable (policy : AdmissionPolicy) (stamp : Stamp) (db : Database)

/-- The response conveys what the registry returns, and nothing if that is a refusal. -/
theorem conveys_orRefusal {α : Type} (procedure : ExceptT Refusal Procedure α)
    {tell : α → Response} {said : α → OutcomeReply}
    (conveys : ∀ outcome, Conveys (tell outcome) (some (said outcome))) :
    ∃ told,
      Conveys ((respond (orRefusal procedure >>= fun outcome =>
        pure (tell outcome))).run stamp db).1 told ∧
        ∀ reply, told = some reply ↔
          ∃ outcome, (procedure.run.run stamp db).1 = .ok outcome ∧ reply = said outcome := by
  rw [run_respond_orRefusal]
  cases (procedure.run.run stamp db).1 with
  -- An outcome is told in words, which convey it and nothing else.
  | ok outcome => exact ⟨_, conveys outcome, by simp [eq_comm]⟩
  -- A refusal turns into an error, which conveys no answer.
  | error refusal => exact ⟨_, conveys_error _, by simp⟩

/-- What is carried out for a student and a subject conveys what the registry returns. -/
theorem conveys_carriedOut (seat : Api.SeatRequest) (studentId subjectId : Uuid) :
    ∃ told, Conveys ((respond (seat.carriedOut policy studentId subjectId)).run stamp db).1 told ∧
      ∀ reply, told = some reply ↔ seat.Returns policy stamp db studentId subjectId reply := by
  cases seat with
  -- Both requests go to the registry alone, and differ in what they tell of its outcome.
  | enroll => exact conveys_orRefusal stamp db _ fun outcome => conveys_enrollOutcome outcome _
  | cancel => exact conveys_orRefusal stamp db _ fun outcome => conveys_cancelOutcome outcome _

/-- The response to a request about a seat conveys what the registry returns for the request. -/
theorem conveys_answerAt (seat : Api.SeatRequest) (caller : Option Principal) {request : Request}
    (named : Method.ofText? request.method = some .post) :
    ∃ told, Conveys ((answerAt policy caller request seat.resource).run stamp db).1 told ∧
      ∀ reply, told = some reply ↔ seat.IsAnsweredWith policy stamp db caller request reply := by
  cases caller with
  | none =>
    -- Whoever is not signed in is refused before anything is read.
    rw [seat.answerAt_eq policy none named]
    exact ⟨none, conveys_error .unauthorized, fun reply => iff_of_false nofun nofun⟩
  | some principal =>
    cases parsed : EnrollParams.ofForm? request.query with
    | none =>
      -- A query that cannot be read is refused without a word.
      rw [seat.answerAt_eq policy _ named, enrollPair, parsed]
      refine ⟨none, conveys_bare 400, fun reply => iff_of_false nofun ?_⟩
      rintro ⟨_, _, _, _, -, read, -⟩
      cases parsed.symm.trans read
    | some query =>
      -- The query can be read, and so there is one verdict on whom the request concerns.
      obtain ⟨verdict, concerns⟩ := exists_concerns principal
        (studentText query (EnrollParams.ofBody? request))
        (subjectText query (EnrollParams.ofBody? request))
      rw [seat.answerAt_of_concerns policy named parsed concerns]
      simp only [Api.SeatRequest.isAnsweredWith_iff policy stamp db parsed concerns]
      cases verdict with
      -- Where it is an error, the registry is not asked and has nothing to return.
      | error error => exact ⟨none, conveys_error error, by simp⟩
      -- Where it is a pair, the registry is asked about it.
      | ok pair =>
        obtain ⟨told, conveys, isTold⟩ := conveys_carriedOut policy stamp db seat pair.1 pair.2
        exact ⟨told, conveys, by simp [isTold, Prod.ext_iff]⟩

/-- So does the response of a server, where it is known who calls. -/
theorem conveys_answer (setup : Server.Setup) (seat : Api.SeatRequest) {request : Request}
    (found : Server.resource? request = some seat.resource)
    (named : Method.ofText? request.method = some .post) :
    ∃ told, Conveys ((Server.answer setup request).run stamp db).1 told ∧
      ∀ reply, told = some reply ↔ ∃ principal,
        ((Server.resolvePrincipal setup.verify setup.admin request.authorization).run.run
          stamp db).1 = .ok principal ∧
          seat.IsAnsweredWith setup.policy stamp db (some principal) request reply := by
  rw [Server.answer, found]
  dsimp only
  -- The request is answered from the tables as they were before it was known who calls.
  rw [Server.answerAt, Procedure.run_bind, Server.resolvePrincipal_unchanged]
  cases ((Server.resolvePrincipal setup.verify setup.admin request.authorization).run.run
    stamp db).1 with
  | error error =>
    -- Without a caller there is an error, and no principal for whom anything could be returned.
    dsimp only
    rw [if_neg (ne_head_of_named named nofun)]
    exact ⟨none, conveys_error error, by simp⟩
  | ok principal =>
    -- With a caller the rest is up to the router.
    obtain ⟨told, conveys, isTold⟩ :=
      conveys_answerAt setup.policy stamp db seat (some principal) named
    exact ⟨told, conveys, by simp [isTold]⟩

end Responses

section Errands

/-- The command that asks for something about a seat. -/
def seatCommand (subjectId : Uuid) (student : Option Uuid) : Api.SeatRequest → Command
  | .enroll => .enroll subjectId student
  | .cancel => .cancel subjectId student

/-- Both commands ask their request, and print the sentence of the answer. -/
theorem perform_seatCommand {m : Type → Type} [Monad m] (network : Network m)
    (connection : Connection) (subjectId : Uuid) (student : Option Uuid) (seat : Api.SeatRequest) :
    perform network connection (seatCommand subjectId student seat) = do
      let reply ← ExceptT.mk (askOutcome network connection (seatPath seat) subjectId student)
      return [reply.message] := by
  cases seat <;> rfl

/-- A network on which every request is responded to. -/
def respondingNetwork (respond : Request → Response) : Network Id :=
  fun _ request => some (.ofResponse (respond request))

/-- What a client is started with, and the texts of the files that it can read. -/
structure Start where
  fileText : (path : String) → Id (Option String)
  environment : List (String × String)
  words : List String

/-- The client is started to ask for something about a seat, over some connection. -/
def Start.IsFor (start : Start) (seat : Api.SeatRequest) (connection : Connection)
    (subjectId : Uuid) (student : Option Uuid) : Prop :=
  ∃ invocation file, Invocation.ofWords start.environment start.words = .ok invocation ∧
    invocation.command = seatCommand subjectId student seat ∧
      (readConnectionFile start.fileText invocation.configPath).run = .ok file ∧
        connection = .ofInvocation invocation file

/-- How the client ends on a network. -/
def Start.finish (start : Start) (network : Network Id) : Finish :=
  (Client.run start.fileText network start.environment start.words).run

/-- The client prints the sentence of an answer, and complains about anything else. -/
theorem Start.IsFor.finish_eq {start : Start} {seat : Api.SeatRequest} {connection : Connection}
    {subjectId : Uuid} {student : Option Uuid}
    (isFor : start.IsFor seat connection subjectId student) (respond : Request → Response) :
    start.finish (respondingNetwork respond) =
      match readOutcome (seatPath seat)
          (some (.ofResponse (respond (seatRequest connection seat subjectId student)))) with
      | .ok reply => .printed [reply.message]
      | .error complaint => .failed complaint := by
  obtain ⟨invocation, file, read, isCommand, found, rfl⟩ := isFor
  -- Before the command is carried out, nothing is asked over the network.
  have carried (network : Network Id) : (carryOut start.fileText network invocation).run =
      (perform network (.ofInvocation invocation file) invocation.command).run := by
    rw [carryOut, ExceptT.run_bind, found]
    rfl
  -- Over this network the only request is the one about the seat.
  have asked (connection : Connection) :
      askOutcome (respondingNetwork respond) connection (seatPath seat) subjectId student =
        readOutcome (seatPath seat)
          (some (.ofResponse (respond (seatRequest connection seat subjectId student)))) := rfl
  rw [← asked, Start.finish, Client.run, read]
  dsimp only
  rw [carried, isCommand, perform_seatCommand, ExceptT.run_bind]
  -- Either the sentence is printed, or the complaint is what the client fails with.
  cases askOutcome (respondingNetwork respond) _ (seatPath seat) subjectId student <;> rfl

/-- The registry returns an outcome to whoever signs in, for a student that they may act for. -/
def IsTold (setup : Server.Setup) (stamp : Stamp) (db : Database) (seat : Api.SeatRequest)
    (connection : Connection) (subjectId : Uuid) (student : Option Uuid)
    (reply : OutcomeReply) : Prop :=
  ∃ principal studentId,
    ((Server.resolvePrincipal setup.verify setup.admin connection.authorization).run.run
      stamp db).1 = .ok principal ∧ ActsFor student studentId principal ∧
      seat.Returns setup.policy stamp db studentId subjectId reply

variable (stamp : Stamp) (db : Database) {seat : Api.SeatRequest} {connection : Connection}
  {subjectId : Uuid} {student : Option Uuid} {reply : OutcomeReply}

/-- What the client asks is answered with what the registry returns for the subject. -/
theorem isAnsweredWith_seatRequest (policy : AdmissionPolicy) {principal : Principal} :
    seat.IsAnsweredWith policy stamp db (some principal)
        (seatRequest connection seat subjectId student) reply ↔
      ∃ studentId, ActsFor student studentId principal ∧
        seat.Returns policy stamp db studentId subjectId reply := by
  constructor
  · rintro ⟨_, query, studentId, otherId, ⟨⟩, read, concerns, returned⟩
    -- The form in the body is all that the server goes by, as nothing stands in the query.
    rw [ofForm?_query_seatRequest] at read
    obtain rfl := Option.some.inj read
    rw [studentText_seatRequest, subjectText_seatRequest, concerns_iff] at concerns
    obtain ⟨rfl, acts⟩ := concerns
    exact ⟨studentId, acts, returned⟩
  · rintro ⟨studentId, acts, returned⟩
    -- The other way, the form names the subject and the student that is acted for.
    refine ⟨principal, ⟨none, none⟩, studentId, subjectId, rfl,
      ofForm?_query_seatRequest _ _ _ _, ?_, returned⟩
    rw [studentText_seatRequest, subjectText_seatRequest]
    exact concerns_iff.mpr ⟨rfl, acts⟩

/-- A client prints the sentence of what it is told by a server, and fails if that is nothing. -/
theorem exists_told (setup : Server.Setup) {start : Start}
    (isFor : start.IsFor seat connection subjectId student) :
    let finish := start.finish (respondingNetwork fun request =>
      ((Server.answer setup request).run stamp db).1)
    ∃ told, (∀ reply, told = some reply ↔
        IsTold setup stamp db seat connection subjectId student reply) ∧
      (∀ reply, told = some reply → finish = .printed [reply.message]) ∧
      (told = none → ∃ complaint, finish = .failed complaint) := by
  intro finish
  obtain ⟨told, conveys, isTold⟩ := conveys_answer stamp db setup seat
    (resource?_seatRequest connection seat subjectId student) rfl
  -- What comes to the client as a text conveys as much as the value would.
  have received := conveys.received (seatPath seat)
  have ended : finish = _ := isFor.finish_eq _
  refine ⟨told, fun reply => (isTold reply).trans ⟨?_, ?_⟩, fun reply some_told => ?_,
    fun none_told => ?_⟩
  · -- Who is told something has signed in, and the server answered for that student.
    rintro ⟨principal, known, answered⟩
    obtain ⟨studentId, acts, returned⟩ :=
      (isAnsweredWith_seatRequest stamp db setup.policy).mp answered
    exact ⟨principal, studentId, known, acts, returned⟩
  · -- And what the registry returns for such a student is what the server answers with.
    rintro ⟨principal, studentId, known, acts, returned⟩
    exact ⟨principal, known,
      (isAnsweredWith_seatRequest stamp db setup.policy).mpr ⟨studentId, acts, returned⟩⟩
  · -- An answer that is told is read as that answer.
    rw [ended, (received reply).mpr some_told]
  · -- Whatever is read of the response, it is not an answer.
    cases read : readOutcome (seatPath seat) _ with
    | ok reply => cases none_told.symm.trans ((received reply).mp read)
    | error complaint => exact ⟨complaint, by rw [ended, read]⟩

end Errands

/--
Client and server agree on what is an answer about a seat, whatever is stored.
The response to such a request is read as an answer exactly when the registry returns that answer
for the student and the subject of the request, and every error is complained about.
A client with such an errand prints the sentence of the answer, be it yes or no, and ends with the
exit code for success exactly when there is an answer.
-/
theorem agree_on_answers :
    (∀ (seat : Api.SeatRequest) (policy : AdmissionPolicy) (caller : Option Principal)
      (request : Request), IsFor request .post seat.resource →
        ∀ (stamp : Stamp) (db : Database) (path : String),
          let response := ((Api.answer policy caller request).run stamp db).1
          (∀ json ∈ response.body, ∀ reply, interpret path response.status json = .ok reply ↔
            seat.IsAnsweredWith policy stamp db caller request reply) ∧
          ∀ reply, readOutcome path (some (.ofResponse response)) = .ok reply ↔
            seat.IsAnsweredWith policy stamp db caller request reply) ∧
      (∀ (error : ApiError) (path : String), ∃ json, error.response.body = some json ∧
        interpret path error.response.status json = .error (complaint path error) ∧
        readOutcome path (some (.ofResponse error.response)) = .error (complaint path error)) ∧
      ∀ (setup : Server.Setup) (stamp : Stamp) (db : Database) (start : Start)
        (seat : Api.SeatRequest) (connection : Connection) (subjectId : Uuid)
        (student : Option Uuid), start.IsFor seat connection subjectId student →
          let finish := start.finish (respondingNetwork fun request =>
            ((Server.answer setup request).run stamp db).1)
          (∀ lines, finish = .printed lines ↔ ∃ reply,
            IsTold setup stamp db seat connection subjectId student reply ∧
              lines = [reply.message]) ∧
          (finish.exitCode = 0 ↔ ∃ reply,
            IsTold setup stamp db seat connection subjectId student reply) := by
  refine ⟨?_, ?_, ?_⟩
  · intro seat policy caller request isFor stamp db path
    -- The caller is known here, so that the router alone decides.
    obtain ⟨told, conveys, isTold⟩ := conveys_answerAt policy stamp db seat caller isFor.1
    rw [Api.answer, isFor.2]
    simp only [← isTold]
    exact ⟨conveys.interpreted path, conveys.received path⟩
  · intro error path
    -- Every error has a body, which is complained about as a value and as a text.
    exact ⟨_, rfl, interpret_error path error,
      (readOutcome_ofResponse rfl (by simp) (by simp) path).trans (interpret_error path error)⟩
  · intro setup stamp db start seat connection subjectId student isFor finish
    -- The two ends of a client go with the two cases of being told something or not.
    obtain ⟨told, isTold, printed, failed⟩ := exists_told stamp db setup isFor
    simp only [← isTold]
    cases told with
    | some reply =>
      rw [show finish = _ from printed reply rfl]
      simp [Finish.exitCode, eq_comm]
    | none =>
      obtain ⟨complaint, complained⟩ := failed rfl
      rw [show finish = _ from complained]
      simp [Finish.exitCode]

/-- A start by the student of a sample run, who signs in by the environment. -/
def sampleStart (words : List String) : Start where
  fileText _ := none
  environment := [("REGISTRAR_USER", "1"), ("REGISTRAR_PASSWORD", "key")]
  words

/-- The connection over which the student signs in. -/
def sampleConnection : Connection := ⟨"http://localhost:8080", "1", "key"⟩

/--
The student is told of a new seat, and of none to give back, and fails for somebody else.
The router is answered in the same way.
-/
theorem agree_on_answers_sample :
    let stamp := Stamp.ofDigit 3
    let db := Database.empty.after Server.signInRun
    let finish (words : List String) := (sampleStart words).finish (respondingNetwork
      fun request => ((Server.answer Server.plainSetup request).run stamp db).1)
    let subject := "22222222-2222-2222-2222-222222222222"
    let me : Principal := .student (.ofDigit 1)
    let response := ((Api.answer .standard (some me) seatReturn).run stamp db).1
    readOutcome "/enroll/cancel" (some (.ofResponse response)) =
        .ok ⟨"not_enrolled", "not enrolled in this subject"⟩ ∧
      finish ["enroll", subject] = .printed ["enrollment completed"] ∧
      (finish ["cancel", subject]).exitCode = 0 ∧
      (finish ["enroll", subject, "--student", subject]).exitCode ≠ 0 := by
  intro stamp db finish subject me response
  have isFor : IsFor seatReturn .post Api.SeatRequest.cancel.resource :=
    ⟨by decide, by decide +kernel⟩
  -- The words on the command line say what is asked for, and the environment who asks.
  have starts (seat : Api.SeatRequest) (student : Option Uuid) {words : List String}
      (read : Invocation.ofWords (sampleStart words).environment words =
        .ok ⟨none, none, some "1", some "key", seatCommand (.ofDigit 2) student seat⟩) :
      (sampleStart words).IsFor seat sampleConnection (.ofDigit 2) student :=
    ⟨_, .blank, read, rfl, rfl, rfl⟩
  -- The password is the right one, and the name is that of the only student.
  have caller : ((Server.resolvePrincipal Server.plainSetup.verify Server.plainSetup.admin
      sampleConnection.authorization).run.run stamp db).1 = .ok (.student (.ofDigit 1)) := by
    decide +kernel
  -- The student has no seat as yet, so that there is one to take and none to give back.
  have enrolled : Api.SeatRequest.enroll.Returns .standard stamp db (.ofDigit 1) (.ofDigit 2)
      ⟨"enrolled", "enrollment completed"⟩ :=
    ⟨.enrolled ⟨stamp.id, .ofDigit 1, .ofDigit 2, stamp.now⟩, by decide +kernel, rfl⟩
  have notEnrolled : Api.SeatRequest.cancel.Returns .standard stamp db (.ofDigit 1) (.ofDigit 2)
      ⟨"not_enrolled", "not enrolled in this subject"⟩ :=
    ⟨.notEnrolled, by decide +kernel, rfl⟩
  obtain ⟨routed, -, ends⟩ := agree_on_answers
  refine ⟨?_, ?_, ?_, ?_⟩
  · -- The router reads the subject from what was sent, and knows the student already.
    refine ((routed .cancel .standard _ seatReturn isFor stamp db _).2 _).mpr ?_
    have parsed : EnrollParams.ofForm? seatReturn.query = some ⟨none, some subject⟩ := by
      decide +kernel
    have said : subjectText ⟨none, some subject⟩ (EnrollParams.ofBody? seatReturn) =
        some subject := by
      decide +kernel
    have isId : Uuid.ofText? (Text.trim subject) = some (.ofDigit 2) := by decide +kernel
    exact ⟨_, _, _, _, rfl, parsed, .pair (.inr ⟨by decide +kernel, rfl⟩) said isId (.inr rfl),
      notEnrolled⟩
  · -- The sentence is printed of a seat that is given.
    refine ((ends _ stamp db _ .enroll sampleConnection _ none
      (starts .enroll none (by decide +kernel))).1 _).mpr ?_
    exact ⟨_, ⟨_, _, caller, ⟨rfl, rfl⟩, enrolled⟩, rfl⟩
  · -- There is no seat to give back, which is an answer as good as any other.
    refine (ends _ stamp db _ .cancel sampleConnection _ none
      (starts .cancel none (by decide +kernel))).2.mpr ?_
    exact ⟨_, _, _, caller, ⟨rfl, rfl⟩, notEnrolled⟩
  · rw [ne_eq, (ends _ stamp db _ .enroll sampleConnection _ (some (.ofDigit 2))
      (starts .enroll _ (by decide +kernel))).2]
    -- The student may not act for anybody else.
    rintro ⟨_, principal, studentId, known, acts, -⟩
    obtain rfl := Except.ok.inj (caller.symm.trans known)
    obtain ⟨rfl, other⟩ := acts
    exact absurd other (by decide)

end Client

end CourseRegistry
