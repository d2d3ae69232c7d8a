import CourseRegistry.Refusal
import CourseRegistry.Text.Quoted
import CourseRegistry.Uuid

/-! Why the records could not answer, and how grave that is. -/

namespace CourseRegistry

/-- A kind of record that others point at or that is asked for by its identifier. -/
inductive Entity where
  | department | professor | room | student | subject | meeting
deriving DecidableEq

/-- The word for a kind of record. -/
def Entity.name : Entity → String
  | department => "department"
  | professor => "professor"
  | room => "room"
  | student => "student"
  | subject => "subject"
  | meeting => "meeting slot"

/-- A text that no two records of a kind share. -/
inductive UniqueText where
  | departmentName | roomName | studentNumber
deriving DecidableEq

/-- The words for a unique text. -/
def UniqueText.name : UniqueText → String
  | departmentName => "department name"
  | roomName => "room name"
  | studentNumber => "student number"

/-- A number in storage that means nothing. -/
inductive Undecodable where
  | weekday (number : Int)
  | timeOfDay (number : Int)
  | count (number : Int)
deriving DecidableEq

/-- What is wrong with such a number. -/
def Undecodable.message : Undecodable → String
  | weekday number => "weekday out of range: " ++ toString number
  | timeOfDay number => "time of day out of range: " ++ toString number
  | count number => "count out of range: " ++ toString number

/-- Why an operation on the records failed. -/
inductive StoreError where
  /-- The request itself was refused. -/
  | refused (refusal : Refusal)
  /-- The storage would not hold a row, or held one of the wrong shape. -/
  | database
  /-- A text in storage should spell an identifier and does not. -/
  | malformedId
  /-- A text in storage should spell an instant and does not. -/
  | malformedInstant
  /-- A number in storage means nothing. -/
  | undecodable (what : Undecodable)
  /-- A record that is pointed at does not exist. -/
  | notFound (entity : Entity) (id : Uuid)
  /-- A text that must be unique is taken. -/
  | duplicate (field : UniqueText) (value : String)
deriving DecidableEq

namespace StoreError

/-- How an error is to be taken by whoever made the request. -/
inductive Kind where
  /-- Something the request points at is missing. -/
  | notFound
  /-- The request is at odds with what is stored. -/
  | conflict
  /-- The request itself is wrong. -/
  | invalid
  /-- The request is not to blame. -/
  | unavailable
deriving DecidableEq

/-- The kind of each error. -/
def kind : StoreError → Kind
  | notFound .. => .notFound
  | duplicate .. => .conflict
  | refused refusal => if refusal.isInfrastructure then .unavailable else .invalid
  | _ => .unavailable

/-- The wording of each error. -/
def message : StoreError → String
  | refused refusal => "core error: " ++ refusal.message
  | database => "database error"
  | malformedId => "uuid parse error"
  | malformedInstant => "date/time parse error"
  | undecodable what => "decode error: " ++ what.message
  | notFound entity id => entity.name ++ " not found: " ++ id.text
  | duplicate field value => "duplicate " ++ field.name ++ " " ++ Text.quoted value

end StoreError

end CourseRegistry
