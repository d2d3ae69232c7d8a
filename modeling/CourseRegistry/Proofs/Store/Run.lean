import CourseRegistry.Store.Operation

/-! Runs of transactions from empty tables, and the states that they lead to. -/

namespace CourseRegistry

/-- A request to the records with the identifier and the instant at hand when it is carried out. -/
structure Transaction where
  stamp : Stamp
  operation : Operation

/-- The tables that a transaction leaves behind. -/
def Transaction.apply (transaction : Transaction) (db : Database) : Database :=
  (transaction.operation.step transaction.stamp db).2

/-- What a transaction is answered with. -/
def Transaction.answer (transaction : Transaction) (db : Database) :
    Except StoreError transaction.operation.Answer :=
  (transaction.operation.step transaction.stamp db).1

/-- The identifier that a seat is given if the transaction is a request for one. -/
def Transaction.seatId? (transaction : Transaction) : Option Uuid :=
  match transaction.operation with
  | .grantSeat .. => some transaction.stamp.id
  | _ => none

/-- The identifier for a seat that is asked for is not yet that of another. -/
def Transaction.HasNewId (db : Database) (transaction : Transaction) : Prop :=
  ∀ id ∈ transaction.seatId?, ∀ row ∈ db.enrollments, row.enrollmentId ≠ .ofId id

/-- Whether it is can be seen from the rows. -/
instance (db : Database) (transaction : Transaction) : Decidable (transaction.HasNewId db) :=
  inferInstanceAs
    (Decidable (∀ id ∈ transaction.seatId?, ∀ row ∈ db.enrollments, row.enrollmentId ≠ .ofId id))

namespace Database

/-- The tables after a run of transactions, one after the other. -/
def after (db : Database) (run : List Transaction) : Database :=
  run.foldl (fun db transaction => transaction.apply db) db

/-- The last transaction of a run is carried out on what the others have left behind. -/
theorem after_concat (db : Database) (run : List Transaction) (last : Transaction) :
    db.after (run ++ [last]) = last.apply (db.after run) :=
  List.foldl_append

/-- The states of a run: the tables before it and after each of its transactions. -/
def states (db : Database) : List Transaction → List Database
  | [] => [db]
  | transaction :: run => db :: (transaction.apply db).states run

/-- Each transaction of a run meets a condition on the tables that it finds. -/
def Throughout (condition : Database → Transaction → Prop) (db : Database) :
    List Transaction → Prop
  | [] => True
  | transaction :: run =>
    condition db transaction ∧ (transaction.apply db).Throughout condition run

/-- A condition that can be decided can be decided throughout a run. -/
instance decidableThroughout {condition : Database → Transaction → Prop}
    [∀ db transaction, Decidable (condition db transaction)] (db : Database) :
    (run : List Transaction) → Decidable (db.Throughout condition run)
  | [] => .isTrue trivial
  | transaction :: run =>
    @instDecidableAnd _ _ inferInstance (decidableThroughout (transaction.apply db) run)

/-- What holds at first and is kept by every admitted transaction holds in every state of a run. -/
theorem invariant_of_kept {holds : Database → Prop} {condition : Database → Transaction → Prop}
    (kept : ∀ db transaction, condition db transaction → holds db → holds (transaction.apply db))
    {db : Database} {run : List Transaction} (start : holds db)
    (admitted : db.Throughout condition run) : ∀ state ∈ db.states run, holds state := by
  -- The first state stays quantified over, since each step starts the rest of the run anew.
  induction run generalizing db with
  -- Without transactions the tables before are the only state.
  | nil =>
    intro state member
    rw [states, List.mem_singleton] at member
    exact member ▸ start
  | cons transaction run ih =>
    intro state member
    rw [states, List.mem_cons] at member
    -- A state is the one before the first transaction or one of those after it.
    rcases member with same | later
    · exact same ▸ start
    · exact ih (kept db transaction admitted.1 start) admitted.2 state later

/-- Where nothing is asked of the transactions, every run is admitted. -/
theorem throughout_of_forall {condition : Database → Transaction → Prop}
    {run : List Transaction}
    (always : ∀ db, ∀ transaction ∈ run, condition db transaction) (db : Database) :
    db.Throughout condition run := by
  -- Each transaction finds tables of which nothing has to be known.
  induction run generalizing db with
  | nil => trivial
  | cons transaction run ih =>
    exact ⟨always db transaction (by simp), ih (fun db other member =>
      always db other (by simp [member])) _⟩

/-- What is seen along a run, where each transaction shows one thing or nothing. -/
def observed {β : Type} (view : Database → Transaction → Option β) (db : Database) :
    List Transaction → List β
  | [] => []
  | transaction :: run =>
    (view db transaction).toList ++ (transaction.apply db).observed view run

/-- What comes later in a run is seen later, on the tables that the run has led to. -/
theorem observed_append {β : Type} (view : Database → Transaction → Option β) (db : Database)
    (run later : List Transaction) :
    db.observed view (run ++ later) =
      db.observed view run ++ (db.after run).observed view later := by
  -- The tables stay quantified over, since the rest of the run starts from changed ones.
  induction run generalizing db with
  | nil => rfl
  | cons transaction run ih =>
    rw [List.cons_append, observed, observed, ih, List.append_assoc]
    rfl

/-- The last transaction of a run shows what it does on the tables that the others have left. -/
theorem observed_concat {β : Type} (view : Database → Transaction → Option β) (db : Database)
    (run : List Transaction) (last : Transaction) :
    db.observed view (run ++ [last]) =
      db.observed view run ++ (view (db.after run) last).toList := by
  rw [observed_append, observed, observed, List.append_nil]

/-- Each thing that is seen along a run is shown by one of its transactions. -/
theorem exists_of_mem_observed {β : Type} {view : Database → Transaction → Option β}
    {db : Database} {run : List Transaction} {seen : β} (member : seen ∈ db.observed view run) :
    ∃ transaction ∈ run, ∃ state, view state transaction = some seen := by
  induction run generalizing db with
  | nil => cases member
  | cons transaction run ih =>
    rw [observed, List.mem_append, Option.mem_toList] at member
    -- The first transaction shows it, or a later one does.
    rcases member with here | later
    · exact ⟨transaction, List.mem_cons_self, db, here⟩
    · obtain ⟨other, other_mem, shown⟩ := ih later
      exact ⟨other, List.mem_cons_of_mem _ other_mem, shown⟩

/-- The tables after a run are the last of its states. -/
theorem after_mem_states (db : Database) (run : List Transaction) :
    db.after run ∈ db.states run := by
  -- The last state is that of the rest of the run, which starts after the first transaction.
  induction run generalizing db with
  | nil => simp [after, states]
  | cons transaction run ih => exact List.mem_cons_of_mem _ (ih (transaction.apply db))

/--
Tables are reachable when a run from empty tables leads to them.
The clock may show what it likes, as long as each of its readings is admitted.
-/
def Reachable (clock : Instant → Prop) (db : Database) : Prop :=
  ∃ run : List Transaction,
    (∀ transaction ∈ run, clock transaction.stamp.now) ∧ empty.after run = db

/-- What can be reached by a clock can be reached by one that may show more. -/
theorem Reachable.mono {clock wider : Instant → Prop} {db : Database}
    (reachable : db.Reachable clock) (more : ∀ now, clock now → wider now) :
    db.Reachable wider := by
  obtain ⟨run, readings, rfl⟩ := reachable
  -- The same run leads there, and every reading in it may be shown.
  exact ⟨run, fun transaction member => more _ (readings transaction member), rfl⟩

/-- A transaction at an admitted instant leads from reachable tables to reachable ones. -/
theorem Reachable.apply {clock : Instant → Prop} {db : Database} (reachable : db.Reachable clock)
    {transaction : Transaction} (reading : clock transaction.stamp.now) :
    (transaction.apply db).Reachable clock := by
  obtain ⟨run, readings, rfl⟩ := reachable
  -- The transaction is put at the end of the run that has led to the tables.
  refine ⟨run ++ [transaction], ?_, after_concat empty run transaction⟩
  intro other member
  rcases List.mem_append.mp member with before | last
  · exact readings other before
  · exact List.mem_singleton.mp last ▸ reading

/-- What holds of empty tables and is kept by every transaction holds of all reachable tables. -/
theorem Reachable.invariant {clock : Instant → Prop} (holds : Database → Prop)
    (start : holds empty)
    (kept : ∀ (db : Database) (transaction : Transaction), clock transaction.stamp.now →
      holds db → holds (transaction.apply db))
    {db : Database} (reachable : db.Reachable clock) : holds db := by
  obtain ⟨run, readings, rfl⟩ := reachable
  -- Whatever the tables are, each reading of the run is one that the clock may show.
  exact invariant_of_kept kept start (throughout_of_forall (fun _ => readings) empty) _
    (after_mem_states empty run)

end Database

section Sample

/-- The identifier that has one digit over and over. -/
def Uuid.ofDigit (digit : Nat) : Uuid :=
  ⟨List.replicate 32 ⟨digit % 16, Nat.mod_lt _ (by decide)⟩, List.length_replicate⟩

/-- At a full hour no nanosecond of the second is over. -/
theorem zero_lt_two_billion : 0 < 2 * billion := by decide

/-- The time of day at a full hour. -/
def TimeOfDay.ofHour (hour : Nat) : TimeOfDay where
  second := hour % 24 * 3600
  nano := 0
  nano_lt := zero_lt_two_billion

/-- The stamp of a new year, with an identifier of one digit. -/
def Stamp.ofDigit (digit : Nat) : Stamp :=
  ⟨.ofDigit digit, ⟨⟨2026, 1, 1, by decide⟩, .ofHour 0⟩⟩

/--
A run that gives a student seats in two subjects, one of which meets right after the other.
At last the first of them is left with the one seat that is taken.
-/
def sampleRun : List Transaction := [
  ⟨.ofDigit 1, .addStudent ⟨"1", "Ada", none, none, none⟩⟩,
  ⟨.ofDigit 2, .addSubject ⟨"Logic", 3, 2, "Spring", none, none⟩⟩,
  ⟨.ofDigit 3, .addMeeting (.ofDigit 2) ⟨.monday, .ofHour 9, .ofHour 10, none⟩⟩,
  ⟨.ofDigit 4, .addSubject ⟨"Algebra", 3, 2, "Spring", none, none⟩⟩,
  ⟨.ofDigit 5, .addMeeting (.ofDigit 4) ⟨.monday, .ofHour 10, .ofHour 11, none⟩⟩,
  ⟨.ofDigit 6, .grantSeat (.ofDigit 1) (.ofDigit 2) .standard⟩,
  ⟨.ofDigit 7, .grantSeat (.ofDigit 1) (.ofDigit 4) .standard⟩,
  ⟨.ofDigit 8, .updateSubject (.ofDigit 2) ⟨none, none, some 1, none, none, none⟩⟩]

/-- The sample with two more students. -/
def crowdedRun : List Transaction := sampleRun ++ [
  ⟨.ofDigit 9, .addStudent ⟨"9", "Grace", none, none, none⟩⟩,
  ⟨.ofDigit 10, .addStudent ⟨"10", "Alan", none, none, none⟩⟩]

end Sample

end CourseRegistry
