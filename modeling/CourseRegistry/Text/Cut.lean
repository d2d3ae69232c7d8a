/-! Lists cut into parts. -/

namespace CourseRegistry.Text

/-- A list cut at each occurrence of a separator. -/
def cutAt {α : Type} [DecidableEq α] (separator : α) : List α → List (List α)
  | [] => [[]]
  | item :: items =>
    if item = separator then [] :: cutAt separator items
    else
      match cutAt separator items with
      | part :: parts => (item :: part) :: parts
      | [] => [[item]]

end CourseRegistry.Text
