import CourseRegistry.Binary64

/-! Values of a TOML document, and how its lines fill its tables. -/

namespace CourseRegistry

/--
A TOML value.
A table remembers how it came about, for that decides what may still be added to it.
-/
inductive Toml where
  | bool (value : Bool)
  | integer (value : Int)
  | float (value : Binary64)
  | text (value : String)
  /-- A date, a time of day, or both, in its usual text. -/
  | moment (text : String)
  | array (items : List Toml)
  /-- A table written as one value, to which nothing can be added. -/
  | inlineTable (entries : List (String × Toml))
  /-- A table that lines add to; it may be implied by a longer name, which may be a dotted one. -/
  | table (isImplied isDotted : Bool) (entries : List (String × Toml))
  /-- A list of tables, of which lines add to the last one. -/
  | tables (items : List (List (String × Toml)))

namespace Toml

/-- The entries of a table. -/
abbrev Entries := List (String × Toml)

/-- The value under a name. -/
def Entries.value? (name : String) (entries : Entries) : Option Toml :=
  (entries.find? (·.1 == name)).map (·.2)

/-- A value put in the place of the one under its name, or behind all others. -/
def Entries.put (name : String) (value : Toml) (entries : Entries) : Entries :=
  if entries.any (·.1 == name) then
    entries.map fun entry => if entry.1 == name then (name, value) else entry
  else entries ++ [(name, value)]

/-- Whether the names on the way to a table are those of a header or stand before an equals sign. -/
inductive Way where
  | header | dotted
deriving DecidableEq

/--
The table at the end of a way is changed; tables on the way are made where they are missing.
A dotted name does not lead into a table that has a header of its own.
-/
def change (way : Way) (names : List String) (edit : (isDotted : Bool) → Entries → Option Entries)
    (isDotted : Bool) (entries : Entries) : Option Entries :=
  match names with
  | [] => edit isDotted entries
  | name :: names =>
    match entries.value? name with
    | none => do
      let inner ← change way names edit (way == .dotted) []
      return entries ++ [(name, .table true (way == .dotted) inner)]
    | some (.table isImplied isDotted inner) =>
      if way = .dotted ∧ !isImplied then none
      else do
        let inner ← change way names edit isDotted inner
        return entries.put name (.table isImplied isDotted inner)
    | some (.tables items) =>
      match items.reverse with
      | last :: before => do
        let last ← change way names edit false last
        return entries.put name (.tables (before.reverse ++ [last]))
      | [] => none
    | some _ => none

/--
A value under a dotted name in a table; no name comes twice, and tables of two origins are not
mixed.
-/
def insert (names : List String) (name : String) (value : Toml) (entries : Entries) :
    Option Entries :=
  change .dotted names (fun isDotted entries =>
    -- A dotted name adds only to tables of dotted names, a single name only to the others.
    if isDotted == names.isEmpty || (entries.value? name).isSome then none
    else some (entries ++ [(name, value)])) false entries

/-- A table with a header; it may have been implied before, but not by a dotted name. -/
def openTable (names : List String) (name : String) (entries : Entries) : Option Entries :=
  change .header names (fun _ entries =>
    match entries.value? name with
    | none => some (entries ++ [(name, .table false false [])])
    | some (.table true false inner) => some (entries.put name (.table false false inner))
    | some _ => none) false entries

/-- One more table in a list of tables. -/
def appendTable (names : List String) (name : String) (entries : Entries) : Option Entries :=
  change .header names (fun _ entries =>
    match entries.value? name with
    | none => some (entries ++ [(name, .tables [[]])])
    | some (.tables items) => some (entries.put name (.tables (items ++ [[]])))
    | some _ => none) false entries

/-- A value under a dotted name in the table of a header. -/
def insertAt (header names : List String) (name : String) (value : Toml) (entries : Entries) :
    Option Entries :=
  change .header header (fun _ entries => insert names name value entries) false entries

end Toml

end CourseRegistry
