import CourseRegistry.Time.OfDay

/-! Why a request is refused before or instead of being carried out. -/

namespace CourseRegistry

/-- A reason for refusing a request. -/
inductive Refusal where
  /-- The request says something that cannot be done. -/
  | invalidRequest (reason : String)
  /-- The caller may not do this. -/
  | forbidden
  /-- A subject would have no seats. -/
  | zeroCapacity (capacity : UInt32)
  /-- A meeting would not end after it starts. -/
  | emptyMeeting (start finish : TimeOfDay)
  /-- A meeting would start or end between two seconds. -/
  | fractionalSeconds (time : TimeOfDay)
  /-- The records could not be reached or read. -/
  | infrastructure (cause : String)
deriving DecidableEq

namespace Refusal

/-- The wording of each reason. -/
def message : Refusal → String
  | invalidRequest reason => "invalid request: " ++ reason
  | forbidden => "forbidden"
  | zeroCapacity capacity => "capacity must be at least 1, got " ++ toString capacity.toNat
  | emptyMeeting start finish =>
    "meeting must end after it starts (" ++ start.text ++ " >= " ++ finish.text ++ ")"
  | fractionalSeconds time => "meeting times must be whole seconds, got " ++ time.text
  | infrastructure cause => "infrastructure error: " ++ cause

/-- The records are to blame, not the request. -/
def isInfrastructure : Refusal → Bool
  | infrastructure _ => true
  | _ => false

end Refusal

end CourseRegistry
