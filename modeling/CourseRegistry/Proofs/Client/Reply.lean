import CourseRegistry.Api.Enrolling
import CourseRegistry.Client.Exchange
import CourseRegistry.Proofs.Wire.Enrollment

/-!
What the client makes of the replies of the server.
An answer about a seat is read with its kind and its sentence, whatever else it tells and whatever
its status is; an error is complained about in its own words.
-/

namespace CourseRegistry.Client

open Http Json

section Members

variable {members : List (String × Json)} {name : String}

/-- An object has a member with a name that stands in it. -/
theorem isSome_member? (standing : name ∈ members.map (·.1)) :
    ((Json.object members).member? name).isSome = true := by
  -- A name is looked for from the last member on, which finds one wherever it stands.
  obtain ⟨member, isIn, named⟩ := List.mem_map.mp standing
  simp only [member?, Option.isSome_map, List.find?_isSome]
  exact ⟨member, List.mem_reverse.mpr isIn, beq_iff_eq.mpr named⟩

/-- Where no name comes twice, all members are kept. -/
theorem lastMembers_object (distinct : (members.map (·.1)).Nodup) :
    lastMembers (.object members) = .object members := by
  rw [lastMembers]
  congr 1
  -- The members are looked at from the last one on, and each of them has a new name.
  induction members with
  | nil => rfl
  | cons member members ih =>
    rw [List.map_cons, List.nodup_cons] at distinct
    -- A member that came before counts only if none behind it has the same name.
    have new : members.any (·.1 == member.1) = false := by
      rw [List.any_eq_false]
      intro other isIn same
      exact distinct.1 (beq_iff_eq.mp same ▸ List.mem_map_of_mem isIn)
    rw [List.foldr_cons, ih distinct.2, new]
    rfl

end Members

section Answers

/-- The members of an answer: its kind, what is told besides, and its sentence. -/
def answerMembers (kind : String) (details : List (String × Json)) (message : String) :
    List (String × Json) :=
  ("outcome", .string kind) :: (details ++ [("message", .string message)])

/-- What is told besides has names of its own, and can be passed over. -/
structure AreBesides (details : List (String × Json)) : Prop where
  distinct : ("outcome" :: "message" :: details.map (·.1)).Nodup
  passed : details.all (·.2.canPass) = true

variable {details : List (String × Json)} (besides : AreBesides details) (kind message : String)

include besides

/-- No name comes twice in an answer. -/
theorem AreBesides.nodup : ((answerMembers kind details message).map (·.1)).Nodup := by
  -- The sentence stands at the end; for the names alone it may as well stand in front.
  have moved := (List.perm_append_singleton "message" (details.map (·.1))).cons "outcome"
  rw [answerMembers, List.map_cons, List.map_append, List.map_singleton]
  exact moved.nodup_iff.mpr besides.distinct

/-- What is told besides is told where the client does not look. -/
theorem AreBesides.strange {member : String × Json} (isIn : member ∈ details) :
    isStrange OutcomeReply.fields member = true := by
  have named := List.mem_map_of_mem (f := (·.1)) isIn
  have distinct := besides.distinct
  simp only [List.nodup_cons, List.mem_cons, not_or] at distinct
  rw [isStrange, Option.isNone_iff_eq_none, List.find?_eq_none]
  intro field isField same
  rw [← beq_iff_eq.mp same] at named
  -- There are two fields, and the names of both are taken by the answer itself.
  obtain rfl | rfl : field = .needed "outcome" asText ∨ field = .needed "message" asText := by
    simpa [OutcomeReply.fields] using isField
  · exact distinct.1.2 named
  · exact distinct.2.1 named

/-- An answer is read from its members, whatever is told besides. -/
theorem AreBesides.ofJson_eq :
    OutcomeReply.ofJson .held (.object (answerMembers kind details message)) =
      .ok ⟨kind, message⟩ := by
  -- What is told besides falls out, and the kind and the sentence are left.
  have dropped : details.filter (!isStrange OutcomeReply.fields ·) = [] :=
    List.filter_eq_nil_iff.mpr fun member isIn => by simp [besides.strange isIn]
  have kept : (answerMembers kind details message).filter (!isStrange OutcomeReply.fields ·) =
      [("outcome", .string kind), ("message", .string message)] := by
    rw [answerMembers, List.filter_cons_of_pos (by rfl), List.filter_append, dropped]
    rfl
  -- On the way to the two fields nothing is met that could not be passed over.
  have passed : ∀ member ∈ answerMembers kind details message,
      isStrange OutcomeReply.fields member = true → member.2.canPass = true := by
    intro member isIn _
    rw [answerMembers, List.mem_cons, List.mem_append, List.mem_singleton] at isIn
    rcases isIn with rfl | isIn | rfl
    · -- The kind is a text.
      rfl
    · -- What is told besides can be passed over, as was asked for.
      exact List.all_eq_true.mp besides.passed member isIn
    · -- The sentence is a text again.
      rfl
  -- So the reader finds what it would find if nothing were told besides.
  have found : find OutcomeReply.fields .held (.object (answerMembers kind details message)) =
      .ok ⟨.held, [("outcome", .string kind), ("message", .string message)]⟩ := by
    rw [find, findMembers_filter passed, kept, findMembers_nil (by simp) (by rfl)]
    rfl
  rw [OutcomeReply.ofJson, found, ok_bind]
  rfl

/-- An answer counts as one whatever its status is. -/
theorem AreBesides.interpret_eq (path : String) (status : Nat) :
    interpret path status (.object (answerMembers kind details message)) =
      .ok ⟨kind, message⟩ := by
  -- That it has a kind makes it an answer, and its status is not looked at.
  have standing : "outcome" ∈ (answerMembers kind details message).map (·.1) := by
    simp [answerMembers]
  rw [interpret, if_pos (isSome_member? standing),
    lastMembers_object (besides.nodup kind message), besides.ofJson_eq]

end Answers

section Outcomes

variable (path : String) (status : Nat)

/-- What a seat or a clash is told with goes besides the kind and the sentence. -/
theorem areBesides_details (outcome : EnrollOutcome) : AreBesides outcome.details where
  -- No kind of outcome tells anything under the name of the kind or of the sentence.
  distinct := by cases outcome <;> simp [EnrollOutcome.details]
  passed := by cases outcome <;> rfl

/-- The answer to asking for a seat is read with its kind and its sentence. -/
theorem interpret_enrollOutcome (outcome : EnrollOutcome) :
    interpret path status (.object (outcome.members ++ [("message", .string outcome.message)])) =
      .ok ⟨outcome.kind, outcome.message⟩ := by
  rw [EnrollOutcome.members_eq]
  exact (areBesides_details outcome).interpret_eq outcome.kind outcome.message path status

/-- So is the answer to giving a seat back, which tells nothing besides. -/
theorem interpret_cancelOutcome (outcome : CancelOutcome) :
    interpret path status (.object (outcome.members ++ [("message", .string outcome.message)])) =
      .ok ⟨outcome.kind, outcome.message⟩ := by
  -- Nothing stands between the kind and the sentence here.
  rw [CancelOutcome.members_eq]
  exact AreBesides.interpret_eq ⟨by simp, rfl⟩ outcome.kind outcome.message path status

/-- What the client tells of an error. -/
def complaint (path : String) (error : ApiError) : Complaint :=
  "POST " ++ path ++ " → " ++ statusText error.status ++ ": " ++ error.shown

/-- An error is complained about, whatever its words are. -/
theorem interpret_error (error : ApiError) :
    interpret path error.status (.object [("error", .string error.shown)]) =
      .error (complaint path error) := by
  -- An object whose only member is an error has no kind, so that it is no answer.
  rfl

end Outcomes

section Texts

/-- A response as it comes to the client: without a value there is nothing in its body. -/
def Reply.ofResponse (response : Response) : Reply :=
  ⟨response.status, (response.body.map fun json => Text.octets json.text).getD []⟩

/-- A value that can be read from its text and held back is interpreted as it was sent. -/
theorem readOutcome_ofResponse {response : Response} {json : Json}
    (isBody : response.body = some json) (plain : json.isPlain = true)
    (held : json.canHold 128 = true) (path : String) :
    readOutcome path (some (.ofResponse response)) = interpret path response.status json := by
  -- There is room for the value at the start, where nothing was read yet.
  have kept : anyJson .start json = .ok json := by
    simp [anyJson, Origin.start, Origin.canHold, held]
  have body : decodeOctets anyJson (Text.octets json.text) = .ok json := decodeText_text plain kept
  simp [readOutcome, Reply.ofResponse, isBody, body]

/-- What is read of a response: an answer, or nothing that counts as one. -/
structure Conveys (response : Response) (told : Option OutcomeReply) : Prop where
  /-- It is read of the value in the response. -/
  interpreted : ∀ path, ∀ json ∈ response.body, ∀ reply,
    interpret path response.status json = .ok reply ↔ told = some reply
  /-- It is also read of the text that comes to the client. -/
  received : ∀ path reply,
    readOutcome path (some (.ofResponse response)) = .ok reply ↔ told = some reply

/-- What is read of the value is also read of its text. -/
theorem conveys_of_interpret {response : Response} {json : Json} {told : Option OutcomeReply}
    {reading : (path : String) → Except Complaint OutcomeReply}
    (isBody : response.body = some json) (plain : json.isPlain = true)
    (held : json.canHold 128 = true)
    (reads : ∀ path, interpret path response.status json = reading path)
    (conveyed : ∀ path reply, reading path = .ok reply ↔ told = some reply) :
    Conveys response told where
  interpreted path value isIn reply := by
    -- There is one value only in the response.
    obtain rfl : json = value := Option.some.inj (isBody.symm.trans isIn)
    rw [reads, conveyed]
  received path reply := by
    rw [readOutcome_ofResponse isBody plain held, reads, conveyed]

/-- The answer to asking for a seat conveys its kind and its sentence. -/
theorem conveys_enrollOutcome (outcome : EnrollOutcome) (status : Nat) :
    Conveys (Api.outcomeResponse status outcome.members outcome.message)
      (some ⟨outcome.kind, outcome.message⟩) := by
  refine conveys_of_interpret rfl ?_ ?_
    -- The value is plain, and no deeper than a seat inside of an answer.
    (fun path => interpret_enrollOutcome path status outcome) (by simp)
  · cases outcome <;> simp [EnrollOutcome.members]
  · cases outcome <;> simp [EnrollOutcome.members, Enrollment.toJson]

/-- So does the answer to giving a seat back. -/
theorem conveys_cancelOutcome (outcome : CancelOutcome) (status : Nat) :
    Conveys (Api.outcomeResponse status outcome.members outcome.message)
      (some ⟨outcome.kind, outcome.message⟩) := by
  refine conveys_of_interpret rfl ?_ ?_
    (fun path => interpret_cancelOutcome path status outcome) (by simp)
  · simp [CancelOutcome.members]
  · simp [CancelOutcome.members]

/-- An error conveys no answer. -/
theorem conveys_error (error : ApiError) : Conveys error.response none :=
  -- An error is one text, and what is made of it is never an answer.
  conveys_of_interpret rfl (by simp) (by simp) (fun path => interpret_error path error) (by simp)

/-- A response without a value does not convey any either. -/
theorem conveys_bare (status : Nat) : Conveys (.bare status) none where
  interpreted _ _ isIn := nomatch isIn
  received path reply := by
    -- No body is no JSON, and what cannot be read is complained about too.
    have unread : readOutcome path (some (.ofResponse (.bare status))) =
      .error ("POST " ++ path ++ " → " ++ statusText status ++ ": unreadable body") := by rfl
    rw [unread]
    simp

end Texts

end CourseRegistry.Client
