import CourseRegistry.Proofs.Outcome
import CourseRegistry.Proofs.Time.Instant
import CourseRegistry.Proofs.Uuid
import CourseRegistry.Store.Database

/-! Cells read back as the values stored in them, and cells of different values differ. -/

namespace CourseRegistry

/-- A day stands at its own place in the week and at no other. -/
theorem Weekday.ofIndex?_eq_some {index : Nat} {day : Weekday} :
    ofIndex? index = some day ↔ index = day.index := by
  constructor
  · intro found
    -- Behind the seven days there are no more.
    rcases index with _ | _ | _ | _ | _ | _ | _ | index <;> cases found <;> rfl
  · rintro rfl
    -- Each of the seven days is where it is listed.
    cases day <;> rfl

/-- A number of seconds is that of a time at which nothing of the next second has passed. -/
theorem TimeOfDay.ofSeconds?_eq_some {second : Nat} {time : TimeOfDay} :
    ofSeconds? second = some time ↔ second = time.second ∧ time.nano = 0 := by
  unfold ofSeconds?
  constructor
  -- A number beyond the day has no time.
  · intro found
    split at found
    · obtain rfl := Option.some.inj found
      exact ⟨rfl, rfl⟩
    · cases found
  -- A time is known from its two numbers.
  · obtain ⟨second, nano, second_lt, nano_lt⟩ := time
    rintro ⟨rfl, rfl⟩
    exact dif_pos second_lt

namespace Cell

/-- A text is stored as one. -/
@[simp] theorem isText_text (value : String) : (text value).isText = true := rfl

/-- An identifier is stored as a text. -/
@[simp] theorem isText_ofId (id : Uuid) : (ofId id).isText = true := rfl

/-- So is an instant. -/
@[simp] theorem isText_ofInstant (instant : Instant) : (ofInstant instant).isText = true := rfl

/-- A count is stored as a number. -/
@[simp] theorem isInteger_ofCount (count : UInt32) : (ofCount count).isInteger = true := rfl

/-- So is a weekday. -/
@[simp] theorem isInteger_ofWeekday (day : Weekday) : (ofWeekday day).isInteger = true := rfl

/-- So is a time of day. -/
@[simp] theorem isInteger_ofTime (time : TimeOfDay) : (ofTime time).isInteger = true := rfl

/-- A text reads back. -/
@[simp] theorem readText_text (value : String) : (text value).readText = .ok value := rfl

/-- An optional value stored as text leaves a text or nothing. -/
theorem isTextOrNull_ofOption {α : Type} {write : α → Cell}
    (texts : ∀ value, (write value).isText = true) (value : Option α) :
    (ofOption write value).isTextOrNull = true := by
  cases value with
  -- An absent value is stored as nothing.
  | none => rfl
  | some value =>
    -- A present value is stored as a text, so that neither of the other shapes is met.
    have isText := texts value
    simp only [ofOption]
    cases stored : write value with
    | text => rfl
    | null | integer => simp [stored, Cell.isText] at isText

/-- A reference is stored as a text or nothing. -/
@[simp] theorem isTextOrNull_ofOption_ofId (id : Option Uuid) :
    (ofOption ofId id).isTextOrNull = true :=
  isTextOrNull_ofOption isText_ofId id

/-- So is an optional text. -/
@[simp] theorem isTextOrNull_ofOption_text (value : Option String) :
    (ofOption text value).isTextOrNull = true :=
  isTextOrNull_ofOption isText_text value

/-- An identifier reads back from the text that spells it. -/
@[simp] theorem readId_ofId (id : Uuid) : (ofId id).readId = .ok id := by
  simp [readId, ofId, Uuid.ofText?_text]

/-- An instant that clocks read, reads back. -/
theorem readInstant_ofInstant {instant : Instant} (reading : instant.IsReading) :
    (ofInstant instant).readInstant = .ok instant := by
  simp [readInstant, ofInstant, reading.ofStored?_stored]

/-- An instant is stored as clocks show it. -/
theorem ofInstant_shown (instant : Instant) : ofInstant instant.shown = ofInstant instant := by
  rw [ofInstant, ofInstant, Instant.stored_shown]

/-- A number below the size of a count is that count. -/
theorem countOf_natCast {number : Nat} (fits : number < UInt32.size) :
    countOf number = .ok (UInt32.ofNat number) := by
  -- A natural number is never too small for a count.
  have bounds : (0 : Int) ≤ number ∧ (number : Int) < UInt32.size := by omega
  rw [countOf, if_pos bounds, Int.toNat_natCast]

/-- A count that is read is the number itself. -/
theorem countOf_eq_ok {number : Int} {count : UInt32} (read : countOf number = .ok count) :
    number = count.toNat := by
  unfold countOf at read
  split at read
  -- Within the bounds the number is a natural one that fits into a count.
  · next bounds =>
    have fits : number.toNat < UInt32.size := by omega
    rw [← Except.ok.inj read, UInt32.toNat_ofNat_of_lt' fits]
    omega
  · cases read

/-- A cell that a count is read from holds this number. -/
theorem readCount_eq_ok {cell : Cell} {count : UInt32} (read : cell.readCount = .ok count) :
    cell = integer count.toNat := by
  obtain ⟨number, shape, counted⟩ := bind_eq_ok.mp read
  -- Only a cell with a number gets as far as being counted.
  cases cell with
  | integer value =>
    rw [← Except.ok.inj shape] at counted
    rw [countOf_eq_ok counted]
  | null | text => cases shape

/-- A count reads back, since its number is one that fits. -/
@[simp] theorem readCount_ofCount (count : UInt32) : (ofCount count).readCount = .ok count := by
  unfold readCount ofCount readInteger
  rw [ok_bind, countOf_natCast count.toNat_lt_size, UInt32.ofNat_toNat]

/-- A number is a weekday when it is the place of that day in the week. -/
theorem weekdayOf_eq_ok {number : Int} {day : Weekday} :
    weekdayOf number = .ok day ↔ number = day.index := by
  constructor
  · intro read
    unfold weekdayOf at read
    split at read
    -- The number is not negative, and it is a place in the list of days.
    · next found known =>
      obtain rfl := Except.ok.inj read
      obtain ⟨positive, place⟩ := Option.ite_none_right_eq_some.mp known
      have index := Weekday.ofIndex?_eq_some.mp place
      omega
    · cases read
  · rintro rfl
    -- The place of a day is not negative, and the day is found there.
    have known : Weekday.ofIndex? day.index = some day := Weekday.ofIndex?_eq_some.mpr rfl
    rw [weekdayOf, if_pos (Int.natCast_nonneg _), Int.toNat_natCast, known]

/-- The cell that a weekday is read from is the one that the day is stored in. -/
theorem readWeekday_eq_ok {cell : Cell} {day : Weekday} :
    cell.readWeekday = .ok day ↔ cell = ofWeekday day := by
  cases cell with
  -- Of a number it only matters whose place it is.
  | integer number => exact weekdayOf_eq_ok.trans (by rw [ofWeekday, integer.injEq])
  | null | text => exact iff_of_false nofun nofun

/-- A weekday reads back. -/
@[simp] theorem readWeekday_ofWeekday (day : Weekday) :
    (ofWeekday day).readWeekday = .ok day :=
  readWeekday_eq_ok.mpr rfl

/-- A number is a time of day when so many seconds have passed at that time and no part of one. -/
theorem timeOf_eq_ok {number : Int} {time : TimeOfDay} :
    timeOf number = .ok time ↔ number = time.second ∧ time.nano = 0 := by
  constructor
  · intro read
    unfold timeOf at read
    split at read
    -- The number is not negative, and as many seconds have passed at the time.
    · next found whole =>
      obtain rfl := Except.ok.inj read
      obtain ⟨positive, passed⟩ := Option.ite_none_right_eq_some.mp whole
      have seconds := TimeOfDay.ofSeconds?_eq_some.mp passed
      exact ⟨by omega, seconds.2⟩
    · cases read
  · rintro ⟨rfl, whole⟩
    have passed : TimeOfDay.ofSeconds? time.second = some time :=
      TimeOfDay.ofSeconds?_eq_some.mpr ⟨rfl, whole⟩
    rw [timeOf, if_pos (Int.natCast_nonneg _), Int.toNat_natCast, passed]

/-- The cell that a time of day is read from is the one that the whole second is stored in. -/
theorem readTime_eq_ok {cell : Cell} {time : TimeOfDay} :
    cell.readTime = .ok time ↔ cell = ofTime time ∧ time.nano = 0 := by
  cases cell with
  -- Of a number it only matters which second it is.
  | integer number => exact timeOf_eq_ok.trans (by rw [ofTime, integer.injEq])
  | null | text => exact iff_of_false nofun nofun

/-- A time of day at a whole second reads back. -/
theorem readTime_ofTime {time : TimeOfDay} (whole : time.nano = 0) :
    (ofTime time).readTime = .ok time :=
  readTime_eq_ok.mpr ⟨rfl, whole⟩

/-- An optional value reads back when the value does and is never stored as nothing. -/
theorem readOption_ofOption {α : Type} {read : Cell → Except StoreError α} {write : α → Cell}
    (law : ∀ value, read (write value) = .ok value) (someCell : ∀ value, write value ≠ null)
    (value : Option α) : (ofOption write value).readOption read = .ok value := by
  cases value with
  -- What is absent is stored as nothing and read as absent.
  | none => rfl
  | some value =>
    have present := someCell value
    have read := law value
    simp only [ofOption]
    cases stored : write value with
    -- A value that was stored as nothing would read as an absent one.
    | null => exact absurd stored present
    | integer | text => simp [readOption, ← stored, read]

/-- No identifier is stored as nothing. -/
theorem ofId_ne_null (id : Uuid) : ofId id ≠ null := nofun

/-- No text is stored as nothing, not even the empty one. -/
theorem text_ne_null (value : String) : text value ≠ null := nofun

/-- A reference reads back, also where there is none. -/
@[simp] theorem readOption_ofOption_ofId (id : Option Uuid) :
    (ofOption ofId id).readOption readId = .ok id :=
  readOption_ofOption readId_ofId ofId_ne_null id

/-- So does an optional text. -/
@[simp] theorem readOption_ofOption_text (value : Option String) :
    (ofOption text value).readOption readText = .ok value :=
  readOption_ofOption readText_text text_ne_null value

/-- What is stored of an optional text determines it. -/
theorem ofOption_text_inj {value other : Option String} :
    ofOption text value = ofOption text other ↔ value = other := by
  refine ⟨fun same => ?_, congrArg (ofOption text)⟩
  -- Both values are what the one cell reads as.
  have read := congrArg (readOption readText) same
  rw [readOption_ofOption_text, readOption_ofOption_text] at read
  exact Except.ok.inj read

/-- A cell that an identifier is read from has the shape of one. -/
theorem isText_of_readId {cell : Cell} {id : Uuid} (read : cell.readId = .ok id) :
    cell.isText = true := by
  -- Only of a text it is asked what it spells.
  obtain ⟨text, text_eq, -⟩ := bind_eq_ok.mp read
  cases cell with
  | text => rfl
  | null | integer => cases text_eq

/-- A cell that is read as a number, and the number as something else, has the shape of one. -/
theorem isInteger_of_bind {α : Type} {cell : Cell} {meaning : Int → Except StoreError α} {value : α}
    (read : cell.readInteger >>= meaning = .ok value) : cell.isInteger = true := by
  obtain ⟨number, number_eq, -⟩ := bind_eq_ok.mp read
  cases cell with
  | integer => rfl
  | null | text => cases number_eq

/-- A cell that an identifier is read from, or nothing, holds no number. -/
theorem isTextOrNull_of_readOption {cell : Cell} {id : Option Uuid}
    (read : cell.readOption readId = .ok id) : cell.isTextOrNull = true := by
  cases cell with
  -- Either shape is allowed.
  | null | text => rfl
  | integer => cases read

/-- Different identifiers are stored differently. -/
@[simp] theorem ofId_inj {a b : Uuid} : ofId a = ofId b ↔ a = b := by
  constructor
  · intro same
    exact Uuid.text_injective (Cell.text.inj same)
  · exact congrArg ofId

/-- A cleared reference is still a reference or nothing. -/
theorem withoutId_ofOption (id : Uuid) (reference : Option Uuid) :
    ∃ kept, (ofOption ofId reference).withoutId id = ofOption ofId kept := by
  unfold withoutId
  -- The reference is cleared when it is the one that is asked about, and stays otherwise.
  split
  · exact ⟨none, rfl⟩
  · exact ⟨reference, rfl⟩

/-- Sorting keeps exactly the rows that were there. -/
@[simp] theorem mem_sortOn {α : Type} {key : α → List Cell} {rows : List α} {row : α} :
    row ∈ sortOn key rows ↔ row ∈ rows :=
  -- A sorted list has the rows of the unsorted one.
  (List.mergeSort_perm rows _).mem_iff

end Cell

end CourseRegistry
