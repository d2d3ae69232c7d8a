import CourseRegistry.Proofs.Store.Admission
import CourseRegistry.Proofs.Store.LifeCycle
import Mathlib.Data.Finset.Card

/-!
Seats are handed out exactly.
Where only the number of seats counts, no order of the requests wastes a seat or oversells one.
-/

namespace CourseRegistry

open Database

/-- A request for a seat that only the number of seats can stand against. -/
structure SeatRequest where
  stamp : Stamp
  studentId : Uuid
  subjectId : Uuid

namespace SeatRequest

/-- The request as it is carried out. -/
def transaction (request : SeatRequest) : Transaction :=
  ⟨request.stamp, .grantSeat request.studentId request.subjectId .capacityOnly⟩

/-- The seat that the request can be granted. -/
def seat (request : SeatRequest) : Enrollment :=
  ⟨request.stamp.id, request.studentId, request.subjectId, request.stamp.now⟩

/-- The seat is for the student who asks. -/
@[simp] theorem seat_studentId (request : SeatRequest) :
    request.seat.studentId = request.studentId := rfl

/-- The seat is in the subject that is asked for. -/
@[simp] theorem seat_subjectId (request : SeatRequest) :
    request.seat.subjectId = request.subjectId := rfl

/-- The request is answered with a seat. -/
def isGranted (db : Database) (request : SeatRequest) : Bool :=
  (grantedSeat? (request.transaction.answer db)).isSome

end SeatRequest

namespace Database

/-- How many requests for a subject are granted when they are carried out one after the other. -/
def seatsGranted (subjectId : Uuid) (db : Database) : List SeatRequest → Nat
  | [] => 0
  | request :: requests =>
    (if request.subjectId = subjectId ∧ request.isGranted db then 1 else 0) +
      (request.transaction.apply db).seatsGranted subjectId requests

/-- The students who ask for a seat in a subject and hold none. -/
def newcomers (subjectId : Uuid) (db : Database) (requests : List SeatRequest) : Finset Uuid :=
  ((requests.filter (·.subjectId = subjectId)).map (·.studentId)).toFinset.filter
    (db.holdsSeat · subjectId = false)

/-- The tables with one more seat. -/
def withSeat (seat : Enrollment) (db : Database) : Database :=
  { db with enrollments := db.enrollments ++ [.ofEnrollment seat] }

section WithSeat

variable (seat : Enrollment) (db : Database)

/-- A seat adds no record to the catalogue. -/
@[simp] theorem has_withSeat (kind : Entity) (id : Uuid) :
    (db.withSeat seat).has kind id = db.has kind id := by
  cases kind <;> rfl

/-- A seat leaves the number of seats of every subject alone. -/
@[simp] theorem capacityOf_withSeat (subjectId : Uuid) :
    (db.withSeat seat).capacityOf subjectId = db.capacityOf subjectId := rfl

/-- The new seat is held besides those that were. -/
@[simp] theorem holdsSeat_withSeat (studentId subjectId : Uuid) :
    (db.withSeat seat).holdsSeat studentId subjectId =
      (db.holdsSeat studentId subjectId ||
        (seat.studentId == studentId && seat.subjectId == subjectId)) := by
  simp [holdsSeat, withSeat]

/-- The new seat counts for its subject. -/
@[simp] theorem seatsTaken_withSeat (subjectId : Uuid) :
    (db.withSeat seat).seatsTaken (.ofId subjectId) =
      db.seatsTaken (.ofId subjectId) + if seat.subjectId = subjectId then 1 else 0 := by
  -- A seat counts for one subject only.
  split
  · next same => exact seatsTaken_append_same rfl (congrArg Cell.ofId same)
  · next other => exact seatsTaken_append_other rfl fun cell => other (Cell.ofId_inj.mp cell)

end WithSeat

end Database

section Requests

variable {clock : Instant → Prop} {db : Database} {request : SeatRequest}

/-- A student who holds no seat is given a free one, since nothing else can stand against it. -/
theorem Database.Reachable.grantSeat_capacityOnly (reachable : db.Reachable clock)
    {stamp : Stamp} {studentId subjectId : Uuid} (known : db.has .student studentId = true)
    (newId : ∀ row ∈ db.enrollments, row.enrollmentId ≠ .ofId stamp.id)
    (notHeld : db.holdsSeat studentId subjectId = false)
    (room : db.seatsTaken (.ofId subjectId) < db.capacityOf subjectId) :
    (grantSeat stamp studentId subjectId .capacityOnly db).1 =
      .ok (.enrolled ⟨stamp.id, studentId, subjectId, stamp.now⟩) := by
  have written := reachable.written
  have counted := reachable.seatsTaken_lt subjectId
  unfold capacityOf at room
  cases found : db.subjects.find? (·.subjectId == .ofId subjectId) with
  | none =>
    -- A subject that is not stored has no seats to be free.
    rw [found] at room
    exact absurd room (Nat.not_lt_zero _)
  | some row =>
    obtain ⟨subject, -, rfl⟩ := written.subjects row (mem_of_find?_key found).1
    obtain ⟨schedule, scheduled, -⟩ := written.getSchedule subjectId
    -- All that the decision depends on is read.
    obtain ⟨held, read, -⟩ := written.snapshot_of_found .capacityOnly notHeld found
      (Cell.countOf_natCast counted) scheduled
    have seats : (SubjectRow.ofSubject subject).seats = subject.capacity.toNat :=
      SubjectRow.seats_of_capacity rfl
    -- The number that is stored is compared with the number of rows.
    have free : ¬ subject.capacity ≤ UInt32.ofNat (db.seatsTaken (.ofId subjectId)) := by
      rw [found] at room
      dsimp only at room
      rw [seats] at room
      rw [UInt32.le_iff_toNat_le, UInt32.toNat_ofNat_of_lt' counted]
      exact Nat.not_le.mpr room
    -- Of all reasons to refuse, one was ruled out, one is not looked at and one does not apply.
    rw [grantSeat_of_snapshot read newId, decideAdmission, if_neg Bool.false_ne_true]
    dsimp only
    rw [if_neg free, if_neg (by simp [AdmissionPolicy.capacityOnly])]
    exact if_pos known

/-- A request adds the seat that it is for, or changes nothing. -/
theorem SeatRequest.apply_cases (request : SeatRequest) (db : Database) :
    request.transaction.apply db = db.withSeat request.seat ∨
      request.transaction.apply db = db := by
  rcases grantSeat_cases request.stamp db request.studentId request.subjectId .capacityOnly with
    ⟨-, -, -, granted⟩ | ⟨-, same⟩
  · -- The request is granted its own seat.
    exact .inl (congrArg Prod.snd granted)
  · exact .inr same

/-- Whichever it is, the records stay the same. -/
theorem SeatRequest.has_apply (request : SeatRequest) (db : Database) (kind : Entity) (id : Uuid) :
    (request.transaction.apply db).has kind id = db.has kind id := by
  rcases request.apply_cases db with given | same
  · -- A seat is no record of the catalogue.
    rw [given, has_withSeat]
  · rw [same]

/-- A request is granted just when there is a seat left for a student who holds none. -/
theorem SeatRequest.cases_of_known (reachable : db.Reachable clock)
    (known : db.has .student request.studentId = true) (newId : request.transaction.HasNewId db) :
    (request.isGranted db = true ∧ db.holdsSeat request.studentId request.subjectId = false ∧
        db.seatsTaken (.ofId request.subjectId) < db.capacityOf request.subjectId ∧
        request.transaction.apply db = db.withSeat request.seat) ∨
      (request.isGranted db = false ∧ (db.holdsSeat request.studentId request.subjectId = true ∨
          db.capacityOf request.subjectId ≤ db.seatsTaken (.ofId request.subjectId)) ∧
        request.transaction.apply db = db) := by
  rcases grantSeat_cases request.stamp db request.studentId request.subjectId .capacityOnly with
    ⟨grants, -, -, granted⟩ | ⟨none_given, same⟩
  -- A grant comes with all that was checked before it.
  · refine .inl ⟨?_, grants.notHeld, grants.seatsTaken_lt, congrArg Prod.snd granted⟩
    exact congrArg (fun answer => (grantedSeat? answer.1).isSome) granted
  -- With a free seat and a student who does not hold one, there would have been a grant.
  · refine .inr ⟨congrArg Option.isSome (grantedSeat?_eq_none none_given), ?_, same⟩
    cases held : db.holdsSeat request.studentId request.subjectId with
    | true => exact .inl rfl
    | false =>
      refine .inr (Nat.le_of_not_lt fun room => ?_)
      exact none_given _ (reachable.grantSeat_capacityOnly known (newId _ rfl) held room)

end Requests

namespace Database

section Newcomers

variable {subjectId : Uuid} {db : Database}

/-- Who asks for a seat in the subject is a newcomer, unless it is held already. -/
theorem newcomers_cons (request : SeatRequest) (requests : List SeatRequest) :
    db.newcomers subjectId (request :: requests) =
      if request.subjectId = subjectId ∧ db.holdsSeat request.studentId subjectId = false then
        insert request.studentId (db.newcomers subjectId requests)
      else db.newcomers subjectId requests := by
  unfold newcomers
  by_cases it : request.subjectId = subjectId
  · -- The student of the first request is looked at like the others.
    rw [List.filter_cons_of_pos (by simpa using it), List.map_cons, List.toFinset_cons,
      Finset.filter_insert]
    exact if_congr (and_iff_right it).symm rfl rfl
  · -- A request for another subject is left out.
    rw [List.filter_cons_of_neg (by simpa using it), if_neg fun both => it both.1]

/-- Who is given a seat in the subject is no newcomer any more. -/
theorem newcomers_withSeat (seat : Enrollment) (requests : List SeatRequest) :
    (db.withSeat seat).newcomers subjectId requests =
      if seat.subjectId = subjectId then (db.newcomers subjectId requests).erase seat.studentId
      else db.newcomers subjectId requests := by
  split
  · -- The student holds the seat now, and for any other student nothing is new.
    next it =>
    ext studentId
    simp only [newcomers, holdsSeat_withSeat, it, Finset.mem_filter, Finset.mem_erase,
      Bool.or_eq_false_iff, beq_self_eq_true, Bool.and_true, beq_eq_false_iff_ne]
    tauto
  · -- A seat in another subject makes no difference.
    next it => simp [newcomers, it]

/-- In whichever order the students ask, they are the same. -/
theorem newcomers_perm {requests other : List SeatRequest} (perm : other.Perm requests) :
    db.newcomers subjectId other = db.newcomers subjectId requests := by
  -- Only the set of the students matters.
  rw [newcomers, List.toFinset_eq_of_perm _ _ ((perm.filter _).map _), newcomers]

end Newcomers

variable {clock : Instant → Prop} {db : Database}

/-- The seats of a subject to be given: there is one for each newcomer, as long as any is free. -/
def allotment (subjectId : Uuid) (db : Database) (requests : List SeatRequest) : Nat :=
  min (db.newcomers subjectId requests).card
    (db.capacityOf subjectId - db.seatsTaken (.ofId subjectId))

/-- A request that is granted leaves one seat less to be given, and any other leaves as many. -/
theorem Reachable.allotment_cons (reachable : db.Reachable clock) {request : SeatRequest}
    (known : db.has .student request.studentId = true) (newId : request.transaction.HasNewId db)
    (requests : List SeatRequest) (subjectId : Uuid) :
    db.allotment subjectId (request :: requests) =
      (if request.subjectId = subjectId ∧ request.isGranted db then 1 else 0) +
        (request.transaction.apply db).allotment subjectId requests := by
  unfold allotment
  by_cases it : request.subjectId = subjectId
  · subst it
    rcases request.cases_of_known reachable known newId with
      ⟨granted, notHeld, room, given⟩ | ⟨refused, reason, same⟩
    · -- The request is granted, and its student is counted once.
      rw [given, if_pos ⟨rfl, granted⟩, newcomers_cons, if_pos ⟨rfl, notHeld⟩,
        newcomers_withSeat, if_pos request.seat_subjectId, capacityOf_withSeat,
        seatsTaken_withSeat, if_pos request.seat_subjectId, request.seat_studentId]
      -- The student is one of the newcomers, whether or not the same request is made again.
      have one := Finset.card_erase_add_one
        (Finset.mem_insert_self request.studentId (db.newcomers request.subjectId requests))
      rw [Finset.erase_insert_eq_erase] at one
      omega
    · -- A student who has the seat is no newcomer, and where no seat is left nobody gets one.
      rw [same, if_neg (by simp [refused]), Nat.zero_add]
      rcases reason with held | full
      · rw [newcomers_cons, if_neg (by simp [held])]
      · rw [Nat.sub_eq_zero_of_le full, Nat.min_zero, Nat.min_zero]
  · -- A seat in another subject counts for nothing here.
    rw [if_neg fun both => it both.1, Nat.zero_add, newcomers_cons, if_neg fun both => it both.1]
    rcases request.apply_cases db with given | same
    · rw [given, newcomers_withSeat, capacityOf_withSeat, seatsTaken_withSeat,
        request.seat_subjectId, if_neg it, if_neg it, Nat.add_zero]
    · rw [same]

/-- So many seats are given in the end. -/
theorem Reachable.seatsGranted_eq (reachable : db.Reachable clock) {requests : List SeatRequest}
    (known : ∀ request ∈ requests, db.has .student request.studentId = true)
    (newIds : db.Throughout Transaction.HasNewId (requests.map SeatRequest.transaction))
    (subjectId : Uuid) :
    db.seatsGranted subjectId requests = db.allotment subjectId requests := by
  -- What the clock shows does not matter, so that the tables stay reachable all along.
  replace reachable := reachable.mono fun _ _ => trivial
  induction requests generalizing db with
  -- Without requests there are no newcomers.
  | nil => simp [seatsGranted, allotment, newcomers]
  | cons request requests ih =>
    have later := ih
      (fun other member => (request.has_apply ..).trans (known other (.tail _ member))) newIds.2
      (reachable.apply trivial)
    -- The first request gets its share, and the others share what is left.
    rw [seatsGranted, later, reachable.allotment_cons (known request (.head _)) newIds.1]

/-- Identifiers that differ and are new are still new when it is their turn, in any order. -/
theorem throughout_hasNewId {requests : List SeatRequest}
    (distinct : (requests.map (·.stamp.id)).Nodup)
    (newIds : ∀ request ∈ requests, request.transaction.HasNewId db) :
    db.Throughout Transaction.HasNewId (requests.map SeatRequest.transaction) := by
  -- By induction on the requests: the first one takes no identifier of the others.
  induction requests generalizing db with
  | nil => trivial
  | cons request requests ih =>
    rw [List.map_cons, List.nodup_cons] at distinct
    refine ⟨newIds request (.head _), ih distinct.2 fun other member => ?_⟩
    refine (newIds other (.tail _ member)).apply ?_
    -- The identifier of a later request would otherwise come twice.
    intro id later_id first_id
    have same : request.stamp.id = other.stamp.id :=
      Option.some.inj ((Option.mem_def.mp first_id).trans (Option.mem_def.mp later_id).symm)
    exact distinct.1 (same ▸ List.mem_map_of_mem member)

/--
Students who exist ask for seats that only the number of seats can stand against.
Each subject then gives a seat to every newcomer, or all that are free where these are fewer.
So it gives as many in any other order of the requests.
-/
theorem seats_allotted (reachable : db.Reachable clock) {requests : List SeatRequest}
    (known : ∀ request ∈ requests, db.has .student request.studentId = true)
    (newIds : db.Throughout Transaction.HasNewId (requests.map SeatRequest.transaction)) :
    (∀ subjectId, db.seatsGranted subjectId requests =
        min (db.newcomers subjectId requests).card
          (db.capacityOf subjectId - db.seatsTaken (.ofId subjectId))) ∧
      ∀ other : List SeatRequest, other.Perm requests →
        db.Throughout Transaction.HasNewId (other.map SeatRequest.transaction) →
          ∀ subjectId, db.seatsGranted subjectId other = db.seatsGranted subjectId requests := by
  refine ⟨reachable.seatsGranted_eq known newIds, fun other perm otherNewIds subjectId => ?_⟩
  have otherKnown : ∀ request ∈ other, db.has .student request.studentId = true :=
    fun request member => known request (perm.mem_iff.mp member)
  rw [reachable.seatsGranted_eq known newIds, reachable.seatsGranted_eq otherKnown otherNewIds,
    allotment, allotment, newcomers_perm perm]

/-- Requests of all three, one of them made twice, for the subjects of the sample. -/
def crowdedRequests : List SeatRequest := [
  ⟨.ofDigit 11, .ofDigit 9, .ofDigit 4⟩,
  ⟨.ofDigit 12, .ofDigit 9, .ofDigit 4⟩,
  ⟨.ofDigit 13, .ofDigit 10, .ofDigit 4⟩,
  ⟨.ofDigit 14, .ofDigit 1, .ofDigit 4⟩,
  ⟨.ofDigit 15, .ofDigit 9, .ofDigit 2⟩]

/-- Two newcomers ask for the one seat that is free, and one gets it, whoever comes first. -/
theorem seats_allotted_sample :
    let db := empty.after crowdedRun
    (∀ request ∈ crowdedRequests, db.has .student request.studentId = true) ∧
      db.Throughout Transaction.HasNewId (crowdedRequests.map SeatRequest.transaction) ∧
      db.Throughout Transaction.HasNewId (crowdedRequests.reverse.map SeatRequest.transaction) ∧
      db.seatsGranted (.ofDigit 4) crowdedRequests = min 2 (2 - 1) ∧
      db.seatsGranted (.ofDigit 4) crowdedRequests.reverse = min 2 (2 - 1) := by
  intro db
  have reachable : db.Reachable Instant.InFourDigitYear := ⟨crowdedRun, by decide, rfl⟩
  have known : ∀ request ∈ crowdedRequests, db.has .student request.studentId = true := by
    decide +kernel
  have distinct : (crowdedRequests.map (·.stamp.id)).Nodup := by decide +kernel
  have newIds : ∀ request ∈ crowdedRequests, request.transaction.HasNewId db := by decide +kernel
  have inOrder := throughout_hasNewId distinct newIds
  have reversed : db.Throughout Transaction.HasNewId
      (crowdedRequests.reverse.map SeatRequest.transaction) :=
    throughout_hasNewId (by decide +kernel) fun request member =>
      newIds request (List.mem_reverse.mp member)
  obtain ⟨allotted, anyOrder⟩ := seats_allotted reachable known inOrder
  have numbers : (db.newcomers (.ofDigit 4) crowdedRequests).card = 2 ∧
      db.capacityOf (.ofDigit 4) = 2 ∧ db.seatsTaken (.ofId (.ofDigit 4)) = 1 := by
    decide +kernel
  obtain ⟨newcomers, capacity, taken⟩ := numbers
  have given := allotted (.ofDigit 4)
  rw [newcomers, capacity, taken] at given
  exact ⟨known, inOrder, reversed, given,
    (anyOrder _ (List.reverse_perm _) reversed _).trans given⟩

end Database

end CourseRegistry
