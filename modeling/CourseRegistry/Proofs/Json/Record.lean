import CourseRegistry.Json.Record
import CourseRegistry.Proofs.Json.Text
import CourseRegistry.Proofs.Outcome

/-! Values and the members of records read back from the JSON values that they are written as. -/

namespace CourseRegistry.Json

variable {α : Type} {decode : Decode α} {write : α → Json} {origin : Origin}

/-- A text is read as what the plain JSON value that it was written from is read as. -/
theorem decodeText_text {json : Json} (plain : json.isPlain = true) {value : α}
    (reads : decode .start json = .ok value) : decodeText decode json.text = .ok value := by
  -- The text is read as the value with nothing behind it, and the value is decoded.
  simp only [decodeText, decodeOctets, read_text plain, reads, if_true]

section Values

/-- A text reads back. -/
@[simp] theorem asText_string (text : String) : asText origin (.string text) = .ok text := by rfl

/-- A truth value reads back. -/
@[simp] theorem asBool_bool (value : Bool) : asBool origin (.bool value) = .ok value := by rfl

/-- A number of 32 bits reads back. -/
theorem asCount_nat (value : UInt32) : asCount origin (.nat value.toNat) = .ok value := by
  have small : value.toNat < UInt32.size := value.toNat_lt
  -- The number is no larger than one of its kind can be.
  simp [asCount, nat, small]

/-- A text that spells something reads back as what it spells. -/
theorem asSpelled_string {spell? : String → Option α} {text : String} {value : α}
    (spelled : spell? text = some value) : asSpelled spell? origin (.string text) = .ok value := by
  -- What is spelled is looked up in the text.
  simp only [asSpelled, spelled]

/-- Something that may be missing reads back, if nothing else is written as nothing. -/
@[simp] theorem asOption_ofOption (reads : ∀ value, decode origin (write value) = .ok value)
    (notNull : ∀ value, write value ≠ .null) (value : Option α) :
    asOption decode origin (ofOption write value) = .ok value := by
  -- Only what is missing may be written as null, or it would be lost when it is read.
  cases value with
  | none => rfl
  | some value =>
    rw [ofOption, asOption, reads, map_ok]
    exact notNull value

/-- A list reads back value by value. -/
theorem asList_array {shown : α → α}
    (reads : ∀ value, decode origin.inside (write value) = .ok (shown value)) (values : List α) :
    asList decode origin (.array (values.map write)) = .ok (values.map shown) := by
  rw [asList]
  -- The first value reads back, and the others by induction.
  induction values with
  | nil => rfl
  | cons value values ih =>
    rw [List.map_cons, List.mapM_cons, reads, ok_bind, ih, ok_bind, pure_eq_ok, List.map_cons]

end Values

-- A value is plain when its parts are, which is left to the simplifier for a whole record.
section Plain

/-- A truth value is plain. -/
@[simp] theorem isPlain_bool (value : Bool) : (bool value).isPlain = true := by rfl

/-- A text is plain. -/
@[simp] theorem isPlain_string (text : String) : (string text).isPlain = true := by rfl

/-- A list is plain when its items are. -/
@[simp] theorem isPlain_array (items : List Json) : (array items).isPlain = allPlain items := rfl

/-- An object is plain when its members are. -/
@[simp] theorem isPlain_object (members : List (String × Json)) :
    (object members).isPlain = membersPlain members := rfl

/-- Without members nothing can break off. -/
@[simp] theorem membersPlain_nil : membersPlain [] = true := rfl

/-- Members are plain one by one. -/
@[simp] theorem membersPlain_cons (member : String × Json) (members : List (String × Json)) :
    membersPlain (member :: members) = (member.2.isPlain && membersPlain members) := rfl

/-- Members that are put together are plain when both parts are. -/
@[simp] theorem membersPlain_append (front rest : List (String × Json)) :
    membersPlain (front ++ rest) = (membersPlain front && membersPlain rest) := by
  -- By induction on the members in front.
  induction front with
  | nil => rfl
  | cons member front ih => simp [ih, Bool.and_assoc]

/-- What may be missing is plain, if what may be there is. -/
@[simp] theorem isPlain_ofOption (plain : ∀ value, (write value).isPlain = true)
    (value : Option α) : (ofOption write value).isPlain = true := by
  -- Nothing is written as null, which is plain.
  cases value with
  | none => rfl
  | some value => exact plain value

/-- Items that are written alike are plain together. -/
@[simp] theorem allPlain_map (plain : ∀ value, (write value).isPlain = true) (values : List α) :
    allPlain (values.map write) = true := by
  -- By induction on the items.
  induction values with
  | nil => rfl
  | cons value values ih => simp [allPlain, plain, ih]

end Plain

-- So is whether it can be held back, where each list and each object takes some of the room.
section Held

/-- A number of 32 bits fits a float. -/
theorem fits_nat (value : UInt32) : (⟨false, value.toNat, 0, true⟩ : Numeral).fits = true := by
  have small : value.toNat < 10 ^ 10 := Nat.lt_trans value.toNat_lt (by decide)
  -- It has ten digits at most, and hundreds of them would fit.
  have short : (Nat.toDigits 10 value.toNat).length ≤ 10 :=
    (Nat.length_toDigits_le_iff (by decide) (by decide)).mpr small
  -- The number has no exponent, so that only its digits count.
  unfold Numeral.fits
  split
  · rfl
  · rw [if_pos]
    simp only
    omega

variable {room : Nat}

/-- A text can be held back, whatever the room is. -/
@[simp] theorem canHold_string (text : String) : canHold room (.string text) = true := by rfl

/-- So that a number of 32 bits can be held back. -/
theorem canHold_nat (value : UInt32) : canHold room (nat value.toNat) = true :=
  fits_nat value

/-- A list can be held back where there is room for it and for its items. -/
@[simp] theorem canHold_array (items : List Json) :
    canHold room (.array items) = (decide (1 < room) && canHoldAll (room - 1) items) := rfl

/-- An object can be held back where there is room for it and for its members. -/
@[simp] theorem canHold_object (members : List (String × Json)) :
    canHold room (.object members) = (decide (1 < room) && canHoldMembers (room - 1) members) :=
  rfl

/-- Without members nothing is left to be held back. -/
@[simp] theorem canHoldMembers_nil : canHoldMembers room [] = true := rfl

/-- Members are held back one by one. -/
@[simp] theorem canHoldMembers_cons (member : String × Json) (members : List (String × Json)) :
    canHoldMembers room (member :: members) =
      (canHold room member.2 && canHoldMembers room members) := rfl

/-- What may be missing can be held back, if what may be there can. -/
@[simp] theorem canHold_ofOption (holds : ∀ value, canHold room (write value) = true)
    (value : Option α) : canHold room (ofOption write value) = true := by
  -- Nothing is held back as null, which takes no room.
  cases value with
  | none => rfl
  | some value => exact holds value

/-- Items that are written alike can be held back together. -/
@[simp] theorem canHoldAll_map (holds : ∀ value, canHold room (write value) = true)
    (values : List α) : canHoldAll room (values.map write) = true := by
  -- By induction on the items.
  induction values with
  | nil => rfl
  | cons value values ih => simp [canHoldAll, holds, ih]

/-- In a text it is the room that decides what can be held back. -/
theorem Origin.canHold_text (json : Json) :
    (Origin.text room).canHold json = Json.canHold room json := rfl

/-- A text can be held back whatever room there is. -/
theorem Origin.canHold_string (text : String) : origin.canHold (.string text) = true := by
  cases origin <;> rfl

end Held

section Members

variable {name : String} {json : Json} {values : List (String × Json)} {fields : List Field}

/-- The name of a field that is needed is the one that it was made with. -/
@[simp] theorem Field.name_needed : (Field.needed name decode).name = name := rfl

/-- So is the name of a field that a list may leave out. -/
@[simp] theorem Field.name_sparing : (Field.sparing name decode).name = name := rfl

/-- A field that is needed finds the fault that decoding its value does. -/
@[simp] theorem Field.fault?_needed :
    (Field.needed name decode).fault? origin json =
      match decode origin json with
      | .ok _ => none
      | .error fault => some fault := rfl

/-- So does a field that a list may leave out. -/
@[simp] theorem Field.fault?_sparing :
    (Field.sparing name decode).fault? origin json =
      match decode origin json with
      | .ok _ => none
      | .error fault => some fault := rfl

/-- A member has a field that takes its value. -/
def isTaken (fields : List Field) (origin : Origin) (member : String × Json) : Bool :=
  (fields.find? (·.name == member.1)).any fun field => (field.fault? origin member.2).isNone

/-- A member has no field. -/
def isStrange (fields : List Field) (member : String × Json) : Bool :=
  (fields.find? (·.name == member.1)).isNone

/-- Members of different names are found, if each of them is taken. -/
theorem findMembers_append {members : List (String × Json)}
    (taken : members.all (isTaken fields origin) = true) (found : List (String × Json))
    (distinct : ((found ++ members).map (·.1)).Nodup) :
    findMembers fields origin found members = .ok (found ++ members) := by
  -- The induction is on what is still to be looked at, whatever was found in front of it.
  induction members generalizing found with
  | nil => rw [findMembers, List.append_nil]
  | cons member members ih =>
    obtain ⟨memberTaken, membersTaken⟩ := Bool.and_eq_true_iff.mp taken
    obtain ⟨field, known, right⟩ := (Option.any_eq_true _ _).mp memberTaken
    -- No member that was found before has the name of this one.
    have new : found.any (·.1 == member.1) = false := by
      have apart := distinct
      rw [List.map_append, List.nodup_append] at apart
      rw [List.any_eq_false]
      intro earlier mem same
      have name_mem : member.1 ∈ (member :: members).map (·.1) := by simp
      exact apart.2.2 _ (List.mem_map_of_mem mem) _ name_mem (beq_iff_eq.mp same)
    have further := ih membersTaken (found ++ [member]) (by simpa using distinct)
    rw [List.append_assoc, List.singleton_append] at further
    have noFault : field.fault? origin member.2 = none := Option.isNone_iff_eq_none.mp right
    -- The member is taken by its field, and the others by induction.
    simp only [findMembers, known, new, noFault, further, Bool.false_eq_true, if_false]

/-- All of them are found, where none was found before. -/
theorem findMembers_nil {members : List (String × Json)} (distinct : (members.map (·.1)).Nodup)
    (taken : members.all (isTaken fields origin) = true) :
    findMembers fields origin [] members = .ok members :=
  findMembers_append taken [] distinct

/-- So is all of an object that consists of such members. -/
theorem find_object {members : List (String × Json)} (distinct : (members.map (·.1)).Nodup)
    (taken : members.all (isTaken fields origin.inside) = true) :
    find fields origin (.object members) = .ok ⟨origin.inside, members⟩ := by
  -- An object is found by its members, inside of where it stands.
  rw [find, findMembers_nil distinct taken, map_ok]

/-- Members that a record has no fields for make no difference, if they can be passed over. -/
theorem findMembers_filter {members : List (String × Json)}
    (passed : ∀ member ∈ members, isStrange fields member = true → member.2.canPass = true)
    (found : List (String × Json)) :
    findMembers fields origin found members =
      findMembers fields origin found (members.filter (!isStrange fields ·)) := by
  -- By induction on the members, each of which has a field or none.
  induction members generalizing found with
  | nil => rfl
  | cons member members ih =>
    have further := ih fun other mem => passed other (List.mem_cons_of_mem _ mem)
    cases known : fields.find? (·.name == member.1) with
    | none =>
      -- A strange member is passed over, and it is one of those that are left out.
      have strange : isStrange fields member = true := by rw [isStrange, known]; rfl
      have pass := passed member List.mem_cons_self strange
      rw [List.filter_cons_of_neg (by simp [strange])]
      simp only [findMembers, known, pass, if_true, further]
    | some field =>
      -- A member with a field stays, and it is looked at in the same way.
      have familiar : isStrange fields member = false := by rw [isStrange, known]; rfl
      rw [List.filter_cons_of_pos (by simp [familiar])]
      simp only [findMembers, known, further]

/-- Members that a record has no fields for are held back, if they can be. -/
theorem splitMembers_held {room : Nat} {members : List (String × Json)}
    (held : canHoldMembers room members = true) (strange : members.all (isStrange fields) = true)
    (found rest more : List (String × Json)) :
    splitMembers fields (.text room) found rest (members ++ more) =
      splitMembers fields (.text room) found (rest ++ members) more := by
  -- Each member moves to those that are held back, and none to those that were found.
  induction members generalizing rest with
  | nil => rw [List.nil_append, List.append_nil]
  | cons member members ih =>
    obtain ⟨memberHeld, membersHeld⟩ := Bool.and_eq_true_iff.mp held
    obtain ⟨memberStrange, membersStrange⟩ := Bool.and_eq_true_iff.mp strange
    have further := ih membersHeld membersStrange (rest ++ [member])
    have noField : fields.find? (·.name == member.1) = none :=
      Option.isNone_iff_eq_none.mp memberStrange
    rw [List.append_assoc, List.singleton_append] at further
    simp only [List.cons_append, splitMembers, noField, Origin.canHold_text, memberHeld, if_true,
      further]

/-- In an empty object no field is found. -/
@[simp] theorem Found.value?_nil : (Found.mk origin []).value? name = none := rfl

/-- A field is found where its name stands in front. -/
@[simp] theorem Found.value?_cons_self :
    (Found.mk origin ((name, json) :: values)).value? name = some json := by
  -- The name in front is the one that is looked for.
  simp [Found.value?]

/-- It is looked for further on where another name stands in front. -/
@[simp] theorem Found.value?_cons_of_ne {member : String × Json} (other : member.1 ≠ name) :
    (Found.mk origin (member :: values)).value? name = (Found.mk origin values).value? name := by
  simp [Found.value?, other]

end Members

end CourseRegistry.Json
