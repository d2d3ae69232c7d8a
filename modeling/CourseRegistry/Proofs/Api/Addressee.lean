import CourseRegistry.Proofs.Api.Status

/-!
Whom a request about a seat concerns.
The body and the query are two sources of texts for the student and the subject, and the first that
says something counts. Asking for a seat and giving it back read them alike, and nothing is asked of
the records before it is certain that the caller may act for the student.
-/

namespace CourseRegistry.Api

open Http

/-- The two requests about a seat. -/
inductive SeatRequest where
  | enroll | cancel

namespace SeatRequest

/-- Where each of them is sent. -/
def resource : SeatRequest → Resource
  | enroll => .enroll
  | cancel => .cancel

/-- What each of them has done for a student and a subject, and how the outcome is told. -/
def carriedOut (policy : AdmissionPolicy) (studentId subjectId : Uuid) :
    SeatRequest → Handler Response
  | enroll => do
    let outcome ← orRefusal (CourseRegistry.enroll policy studentId subjectId)
    return outcomeResponse (enrollStatus outcome) outcome.members outcome.message
  | cancel => do
    let outcome ← orRefusal (CourseRegistry.cancel studentId subjectId)
    return outcomeResponse 200 outcome.members outcome.message

/-- A refusal is told as it is, and for anybody else what is asked for is carried out. -/
def answeredBy (policy : AdmissionPolicy) (seat : SeatRequest) :
    Except ApiError (Uuid × Uuid) → Procedure Response
  | .error error => .done error.response
  | .ok (studentId, subjectId) => respond (seat.carriedOut policy studentId subjectId)

end SeatRequest

section Texts

/-- The first of some texts that says something. -/
def firstSpoken (texts : List (Option String)) : Option String :=
  (texts.filterMap id).find? fun text => !Text.isBlankText text

/-- What a request says of the student, in its body or else in its query. -/
def studentText (query : EnrollParams) (body : Option EnrollParams) : Option String :=
  firstSpoken [body.bind (·.studentId), query.studentId]

/-- What a request says of the subject, in its body or else in its query. -/
def subjectText (query : EnrollParams) (body : Option EnrollParams) : Option String :=
  firstSpoken [body.bind (·.subjectId), query.subjectId]

/-- The values that a form has under some names. -/
def formValues (names : List String) (form : List UInt8) : List String :=
  ((formPairs form).filter fun pair => names.contains pair.1).map (·.2)

/-- Parameters are what a form has under their names, of which a subject has two. -/
def EnrollParams.IsSaidBy (params : EnrollParams) (form : List UInt8) : Prop :=
  formValues ["studentId"] form = params.studentId.toList ∧
    formValues ["subjectId", "sectionId"] form = params.subjectId.toList

/-- A value is the only one under some names, or there is none under any of them. -/
theorem single?_eq_some {names : List String} {pairs : List (String × String)}
    {value : Option String} (found : single? names pairs = some value) :
    (pairs.filter fun pair => names.contains pair.1).map (·.2) = value.toList := by
  unfold single? at found
  split at found
  · -- None of the names is there, and no value was found.
    next none_named => rw [none_named, ← Option.some.inj found]; rfl
  · -- The one pair with such a name has the value that was found.
    next pair only => rw [only, ← Option.some.inj found]; rfl
  · -- With two of them nothing is read.
    cases found

/-- What is read from a form is said by it. -/
theorem isSaidBy_of_ofForm? {form : List UInt8} {params : EnrollParams}
    (read : EnrollParams.ofForm? form = some params) : params.IsSaidBy form := by
  -- The student is looked for first, and then the subject under either of its names.
  obtain ⟨studentId, student, rest⟩ := Option.bind_eq_some_iff.mp read
  obtain ⟨subjectId, subject, made⟩ := Option.bind_eq_some_iff.mp rest
  obtain rfl := Option.some.inj made
  exact ⟨single?_eq_some student, single?_eq_some subject⟩

/-- A body counts only if it can be read as a form. -/
theorem isSaidBy_of_ofBody? {request : Request} {params : EnrollParams}
    (read : EnrollParams.ofBody? request = some params) : params.IsSaidBy request.body := by
  unfold EnrollParams.ofBody? at read
  split at read
  · -- The body is a form, and it is read as one.
    exact isSaidBy_of_ofForm? read
  · -- Any other body says nothing.
    cases read

/-- Of two texts it is looked twice whether they say something, which comes to the same as once. -/
theorem spoken_or (first second : Option String) :
    spoken ((spoken first).or second) = firstSpoken [first, second] := by
  -- A single text is passed over or kept at the first look already.
  have single (text : Option String) : spoken text = firstSpoken [text] := by
    cases text with
    | none => rfl
    | some text => cases blank : Text.isBlankText text <;> simp [spoken, firstSpoken, blank]
  cases first with
  | none => exact single second
  | some text =>
    -- A text that says nothing is passed over, and one that says something is kept.
    cases blank : Text.isBlankText text with
    | true =>
      have silent : spoken (some text) = none := by simp [spoken, blank]
      rw [silent, Option.none_or, single second]
      simp [firstSpoken, blank]
    | false => simp [spoken, firstSpoken, blank]

/-- The student is the one whom the body names, or else the query. -/
theorem spoken_merge_studentId (query : EnrollParams) (body : Option EnrollParams) :
    spoken (query.merge body).studentId = studentText query body := by
  -- Without a body the query alone is asked.
  cases body with
  | none => exact spoken_or none query.studentId
  | some body => exact spoken_or body.studentId query.studentId

/-- So it is with the subject. -/
theorem spoken_merge_subjectId (query : EnrollParams) (body : Option EnrollParams) :
    spoken (query.merge body).subjectId = subjectText query body := by
  cases body with
  | none => exact spoken_or none query.subjectId
  | some body => exact spoken_or body.subjectId query.subjectId

end Texts

/-- A student is the one that a text names between blanks, or the caller if there is no text. -/
def IsMeant (principal : Principal) (text : Option String) (studentId : Uuid) : Prop :=
  (∃ said, text = some said ∧ Uuid.ofText? (Text.trim said) = some studentId) ∨
    text = none ∧ principal = .student studentId

/-- The complaint about a text that spells no identifier; the text is quoted as it was given. -/
def malformedId (field said : String) : ApiError :=
  .badRequest (field ++ " is not a valid id: " ++ Text.quoted said)

/--
Whom a request about a seat concerns, or how it is refused, by its caller and what it says.
The student is looked at before the subject, and both before the permission.
-/
inductive Concerns (principal : Principal) (student subject : Option String) :
    Except ApiError (Uuid × Uuid) → Prop
  | malformedStudent {said : String} (isSaid : student = some said)
      (malformed : Uuid.ofText? (Text.trim said) = none) :
      Concerns principal student subject (.error (malformedId "studentId" said))
  | unnamedStudent (unsaid : student = none) (isAdmin : principal = .admin) :
      Concerns principal student subject (.error (.badRequest "studentId is required"))
  | unnamedSubject {studentId : Uuid} (isMeant : IsMeant principal student studentId)
      (unsaid : subject = none) :
      Concerns principal student subject (.error (.badRequest "subjectId is required"))
  | malformedSubject {studentId : Uuid} {said : String}
      (isMeant : IsMeant principal student studentId) (isSaid : subject = some said)
      (malformed : Uuid.ofText? (Text.trim said) = none) :
      Concerns principal student subject (.error (malformedId "subjectId" said))
  | anotherStudent {studentId subjectId me : Uuid} {said : String}
      (isMeant : IsMeant principal student studentId) (isSaid : subject = some said)
      (isId : Uuid.ofText? (Text.trim said) = some subjectId) (isMe : principal = .student me)
      (another : me ≠ studentId) :
      Concerns principal student subject (.error .forbidden)
  | pair {studentId subjectId : Uuid} {said : String}
      (isMeant : IsMeant principal student studentId) (isSaid : subject = some said)
      (isId : Uuid.ofText? (Text.trim said) = some subjectId)
      (mayAct : principal = .admin ∨ principal = .student studentId) :
      Concerns principal student subject (.ok (studentId, subjectId))

section Verdicts

variable (principal : Principal) (student subject : Option String)

/-- What a request says either means a student or refuses it. -/
theorem isMeant_or_concerns :
    (∃ studentId, IsMeant principal student studentId) ∨
      ∃ error, Concerns principal student subject (.error error) := by
  cases student with
  | some said =>
    -- A text that is given spells an identifier, or it is complained about.
    cases read : Uuid.ofText? (Text.trim said) with
    | some studentId => exact .inl ⟨studentId, .inl ⟨said, rfl, read⟩⟩
    | none => exact .inr ⟨_, .malformedStudent rfl read⟩
  | none =>
    -- Without a text a student means themselves, and the administrator has to name one.
    cases principal with
    | admin => exact .inr ⟨_, .unnamedStudent rfl rfl⟩
    | student me => exact .inl ⟨me, .inr ⟨rfl, rfl⟩⟩

/-- Each request about a seat concerns somebody or is refused. -/
theorem exists_concerns : ∃ verdict, Concerns principal student subject verdict := by
  -- What is said of the student is looked at first.
  rcases isMeant_or_concerns principal student subject with ⟨studentId, isMeant⟩ | ⟨error, refused⟩
  · cases subject with
    | none => exact ⟨_, .unnamedSubject isMeant rfl⟩
    | some said =>
      cases read : Uuid.ofText? (Text.trim said) with
      | none => exact ⟨_, .malformedSubject isMeant rfl read⟩
      | some subjectId =>
        cases principal with
        | admin => exact ⟨_, .pair isMeant rfl read (.inl rfl)⟩
        | student me =>
          -- A student may only act for themselves.
          by_cases same : me = studentId
          · exact ⟨_, .pair isMeant rfl read (.inr (congrArg _ same))⟩
          · exact ⟨_, .anotherStudent isMeant rfl read rfl same⟩
  · exact ⟨_, refused⟩

variable {principal student subject}

/-- A student who is meant by a text is the one whose identifier it spells. -/
theorem IsMeant.isId {said : String} {studentId : Uuid}
    (isMeant : IsMeant principal student studentId) (isSaid : student = some said) :
    Uuid.ofText? (Text.trim said) = some studentId := by
  rcases isMeant with ⟨_, same, isId⟩ | ⟨unsaid, -⟩
  · rwa [Option.some.inj (isSaid.symm.trans same)]
  · cases unsaid.symm.trans isSaid

/-- A student who is meant without a text is the caller. -/
theorem IsMeant.isCaller {studentId : Uuid} (isMeant : IsMeant principal student studentId)
    (unsaid : student = none) : principal = .student studentId := by
  rcases isMeant with ⟨_, isSaid, -⟩ | ⟨-, isMe⟩
  · cases unsaid.symm.trans isSaid
  · exact isMe

/-- No request means two students. -/
theorem IsMeant.unique {studentId otherId : Uuid} (isMeant : IsMeant principal student studentId)
    (alsoMeant : IsMeant principal student otherId) : studentId = otherId := by
  -- The other way in which a student is meant is the same one.
  rcases alsoMeant with ⟨said, isSaid, isId⟩ | ⟨unsaid, isMe⟩
  · exact Option.some.inj ((isMeant.isId isSaid).symm.trans isId)
  · exact Principal.student.inj ((isMeant.isCaller unsaid).symm.trans isMe)

/-- No request concerns two pairs, or is refused in two ways. -/
theorem Concerns.unique {verdict other : Except ApiError (Uuid × Uuid)}
    (concerns : Concerns principal student subject verdict)
    (alsoConcerns : Concerns principal student subject other) : verdict = other := by
  -- The texts, whether they spell identifiers, and the caller tell the six cases apart.
  cases concerns <;> cases alsoConcerns <;>
    grind [→ IsMeant.isId, → IsMeant.isCaller, → IsMeant.unique]

/-- Each request about a seat concerns one pair or is refused in one way. -/
theorem existsUnique_concerns (principal : Principal) (student subject : Option String) :
    ∃! verdict, Concerns principal student subject verdict := by
  obtain ⟨verdict, concerns⟩ := exists_concerns principal student subject
  exact ⟨verdict, concerns, fun _ alsoConcerns => alsoConcerns.unique concerns⟩

/-- A text that spells an identifier between blanks is parsed as that identifier. -/
theorem parseId_eq_ok {field said : String} {id : Uuid}
    (isId : Uuid.ofText? (Text.trim said) = some id) :
    EnrollParams.parseId field said = .ok id := by
  rw [EnrollParams.parseId, isId]

/-- Any other text is complained about. -/
theorem parseId_eq_error {field said : String} (malformed : Uuid.ofText? (Text.trim said) = none) :
    EnrollParams.parseId field said = .error (malformedId field said) := by
  rw [EnrollParams.parseId, malformed, malformedId]

/-- Once it is clear which student is meant, parameters are resolved by what says the subject. -/
theorem resolve_of_isMeant {params : EnrollParams} {studentId : Uuid}
    (isMeant : IsMeant principal (spoken params.studentId) studentId) :
    params.resolve principal = match spoken params.subjectId with
      | some said => do return (studentId, ← EnrollParams.parseId "subjectId" said)
      | none => .error (.badRequest "subjectId is required") := by
  unfold EnrollParams.resolve
  rcases isMeant with ⟨said, isSaid, isId⟩ | ⟨unsaid, rfl⟩
  · -- The text that is given names the student.
    rw [isSaid]
    dsimp only
    rw [parseId_eq_ok isId]
    cases spoken params.subjectId <;> exact ok_bind ..
  · -- Without a text, the student is the caller.
    rw [unsaid]
    dsimp only [Principal.studentId?]
    cases spoken params.subjectId <;> exact ok_bind ..

/-- Parameters from which both are clear are resolved to both. -/
theorem resolve_eq_ok {params : EnrollParams} {studentId subjectId : Uuid} {said : String}
    (isMeant : IsMeant principal (spoken params.studentId) studentId)
    (isSaid : spoken params.subjectId = some said)
    (isId : Uuid.ofText? (Text.trim said) = some subjectId) :
    params.resolve principal = .ok (studentId, subjectId) := by
  rw [resolve_of_isMeant isMeant, isSaid]
  dsimp only
  rw [parseId_eq_ok isId, ok_bind, pure_eq_ok]

/-- A verdict on whom a request concerns, as the way to the pair or to the refusal. -/
def ofVerdict (verdict : Except ApiError (Uuid × Uuid)) : Handler (Uuid × Uuid) :=
  match verdict with
  | .error error => fail error
  | .ok pair => pure pair

/-- The verdict on parameters is that on what they say, whoever calls. -/
theorem ofVerdict_of_concerns {params : EnrollParams} {verdict : Except ApiError (Uuid × Uuid)}
    (concerns : Concerns principal (spoken params.studentId) (spoken params.subjectId) verdict) :
    (match params.resolve principal with
      | .error error => fail error
      | .ok (studentId, subjectId) => do
        permit principal (.enrollFor studentId)
        return (studentId, subjectId)) = ofVerdict verdict := by
  cases concerns with
  | malformedStudent isSaid malformed =>
    -- The text of the student is looked at before everything else.
    rw [EnrollParams.resolve, isSaid]
    dsimp only
    rw [parseId_eq_error malformed, error_bind, ofVerdict]
  | unnamedStudent unsaid isAdmin =>
    -- The administrator is nobody's student.
    rw [EnrollParams.resolve, unsaid, isAdmin]
    dsimp only [Principal.studentId?]
    rw [error_bind, ofVerdict]
  | unnamedSubject isMeant unsaid => rw [resolve_of_isMeant isMeant, unsaid, ofVerdict]
  | malformedSubject isMeant isSaid malformed =>
    -- The student is clear, and the text of the subject is complained about.
    rw [resolve_of_isMeant isMeant, isSaid]
    dsimp only
    rw [parseId_eq_error malformed, error_bind, ofVerdict]
  | @anotherStudent studentId _ _ _ isMeant isSaid isId isMe another =>
    -- Both are clear, but a student may not act for another one.
    rw [resolve_eq_ok isMeant isSaid isId]
    dsimp only
    have refused : principal.can (.enrollFor studentId) = false := by
      rw [isMe]
      exact beq_false_of_ne another
    rw [permit, Principal.authorize, refused]
    rfl
  | @pair studentId _ _ isMeant isSaid isId mayAct =>
    -- Both are clear, and the caller may act for the student.
    rw [resolve_eq_ok isMeant isSaid isId]
    dsimp only
    have allowed : principal.can (.enrollFor studentId) = true := by
      rcases mayAct with rfl | rfl
      · rfl
      · exact beq_self_eq_true _
    rw [permit, Principal.authorize, allowed]
    rfl

/-- Whom a request about a seat concerns is found out without asking anything of the records. -/
theorem enrollPair_of_concerns {request : Request} {query : EnrollParams}
    (parsed : EnrollParams.ofForm? request.query = some query)
    {verdict : Except ApiError (Uuid × Uuid)}
    (concerns : Concerns principal (studentText query (EnrollParams.ofBody? request))
      (subjectText query (EnrollParams.ofBody? request)) verdict) :
    enrollPair (some principal) request = ofVerdict verdict := by
  rw [← spoken_merge_studentId, ← spoken_merge_subjectId] at concerns
  -- The caller is known, and the two sources are read into one.
  have signed : signedIn (some principal) = pure principal := rfl
  rw [enrollPair, signed, pure_bind, parsed]
  exact ofVerdict_of_concerns concerns

end Verdicts

namespace SeatRequest

variable (seat : SeatRequest) (policy : AdmissionPolicy)

/-- First it is found out whom a request concerns, and then what is asked for is carried out. -/
theorem answerAt_eq {request : Request} (caller : Option Principal)
    (named : Method.ofText? request.method = some .post) :
    answerAt policy caller request seat.resource =
      respond (enrollPair caller request >>= fun pair => seat.carriedOut policy pair.1 pair.2) := by
  -- The method is a post, and no post answers a look.
  refine answerAt_eq_respond named nofun ?_
  cases seat <;> rfl

/-- A request is answered by the verdict on whom it concerns. -/
theorem answerAt_of_concerns {request : Request} {principal : Principal}
    (named : Method.ofText? request.method = some .post) {query : EnrollParams}
    (parsed : EnrollParams.ofForm? request.query = some query)
    {verdict : Except ApiError (Uuid × Uuid)}
    (concerns : Concerns principal (studentText query (EnrollParams.ofBody? request))
      (subjectText query (EnrollParams.ofBody? request)) verdict) :
    answerAt policy (some principal) request seat.resource = seat.answeredBy policy verdict := by
  -- Whom the request concerns is a verdict, which is told or carried out.
  rw [seat.answerAt_eq policy _ named, enrollPair_of_concerns parsed concerns]
  cases verdict with
  | error error => rfl
  | ok pair => rfl

end SeatRequest

/--
Both requests about a seat concern the same student and subject: the first texts that say something,
of the body and then of the query.
Whoever is refused is refused without a look at the records; for all others what is asked for is
carried out for exactly that student and that subject.
-/
theorem seatRequest_concerns (seat : SeatRequest) (policy : AdmissionPolicy)
    (principal : Principal) {request : Request} (isFor : IsFor request .post seat.resource)
    {query : EnrollParams} (parsed : EnrollParams.ofForm? request.query = some query) :
    let body := EnrollParams.ofBody? request
    let student := studentText query body
    let subject := subjectText query body
    query.IsSaidBy request.query ∧ (∀ params ∈ body, params.IsSaidBy request.body) ∧
      (∃! verdict, Concerns principal student subject verdict) ∧
      ∀ verdict, Concerns principal student subject verdict →
        answer policy (some principal) request = seat.answeredBy policy verdict := by
  refine ⟨isSaidBy_of_ofForm? parsed, fun params read => isSaidBy_of_ofBody? read,
    existsUnique_concerns _ _ _, fun verdict concerns => ?_⟩
  -- The path names the resource, and the method is the one that it takes.
  rw [answer, isFor.2]
  exact seat.answerAt_of_concerns policy isFor.1 parsed concerns

/-- A request whose body says nothing of the student, and more than its query of the subject. -/
def mixedRequest : Request where
  method := "POST"
  target := "/enroll/cancel?studentId=+11111111-1111-1111-1111-111111111111+&sectionId=nowhere"
  authorization := none
  contentType := some (Text.octets "application/x-www-form-urlencoded")
  body := Text.octets "studentId=++&subjectId=22222222-2222-2222-2222-222222222222"

/-- It concerns the student of the query and the subject of the body, and is refused to others. -/
theorem seatRequest_concerns_sample :
    let query : EnrollParams := ⟨some " 11111111-1111-1111-1111-111111111111 ", some "nowhere"⟩
    IsFor mixedRequest .post SeatRequest.cancel.resource ∧
      EnrollParams.ofForm? mixedRequest.query = some query ∧
      answer .standard (some (.student (.ofDigit 1))) mixedRequest =
        respond (SeatRequest.cancel.carriedOut .standard (.ofDigit 1) (.ofDigit 2)) ∧
      answer .standard (some (.student (.ofDigit 3))) mixedRequest =
        .done ApiError.forbidden.response := by
  intro query
  have isFor : IsFor mixedRequest .post SeatRequest.cancel.resource :=
    ⟨by decide, by decide +kernel⟩
  have parsed : EnrollParams.ofForm? mixedRequest.query = some query := by decide +kernel
  have student : studentText query (EnrollParams.ofBody? mixedRequest) =
      some " 11111111-1111-1111-1111-111111111111 " := by decide +kernel
  have subject : subjectText query (EnrollParams.ofBody? mixedRequest) =
      some "22222222-2222-2222-2222-222222222222" := by decide +kernel
  have studentId : Uuid.ofText? (Text.trim " 11111111-1111-1111-1111-111111111111 ") =
      some (.ofDigit 1) := by decide +kernel
  have subjectId : Uuid.ofText? (Text.trim "22222222-2222-2222-2222-222222222222") =
      some (.ofDigit 2) := by decide +kernel
  have isMeant (principal : Principal) : IsMeant principal
      (studentText query (EnrollParams.ofBody? mixedRequest)) (.ofDigit 1) :=
    .inl ⟨_, student, studentId⟩
  -- The third student may not act for the first one, whom the query names.
  have others : Uuid.ofDigit 3 ≠ .ofDigit 1 := by decide
  have answers (principal : Principal) :=
    (seatRequest_concerns .cancel .standard principal isFor parsed).2.2.2
  exact ⟨isFor, parsed, answers _ _ (.pair (isMeant _) subject subjectId (.inr rfl)),
    answers _ _ (.anotherStudent (isMeant _) subject subjectId rfl others)⟩

end CourseRegistry.Api
