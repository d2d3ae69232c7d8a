import CourseRegistry.Proofs.Text.Octets
import CourseRegistry.Proofs.Text.Base64
import CourseRegistry.Server.SignIn
import Mathlib.Data.List.TakeDrop
import Mathlib.Data.List.TakeWhile

/-!
Credentials and the headers that carry them determine each other.
Each step of reading a header undoes one of writing it: the octets, the letters, the text, the pair.
-/

namespace CourseRegistry

open Http Text

namespace Http

/-- A character that a header may hold is one of ASCII. -/
theorem toNat_lt_of_isHeaderChar {c : Char} (is : isHeaderChar c = true) : c.toNat < 128 := by
  -- A tabulator is one, and all others are visible characters of ASCII.
  simp only [isHeaderChar, Bool.or_eq_true, beq_iff_eq, Bool.and_eq_true, decide_eq_true_eq] at is
  rcases is with rfl | visible
  · decide
  · omega

/-- The characters that octets are taken for have these octets, if a header may hold them. -/
theorem flatMap_octetChars {value : List UInt8} (all : (octetChars value).all isHeaderChar = true) :
    (octetChars value).flatMap String.utf8EncodeChar = value := by
  -- By induction on the octets, each of which is one character.
  induction value with
  | nil => rfl
  | cons octet value ih =>
    rw [octetChars, List.map_cons, List.all_cons, Bool.and_eq_true] at all
    have small := toNat_lt_of_isHeaderChar all.1
    rw [octetChars, List.map_cons, List.flatMap_cons, utf8EncodeChar_of_lt small, ofNat_toNat_ofNat]
    exact congrArg (octet :: ·) (ih all.2)

/-- A header shows some characters when its octets are theirs and a header may hold all of them. -/
theorem headerChars?_eq_some {value : List UInt8} {cs : List Char} :
    headerChars? value = some cs ↔
      cs.all isHeaderChar = true ∧ value = octets (String.ofList cs) := by
  rw [octets_eq, String.toList_ofList]
  -- The characters are those of the octets, where a header may hold them.
  unfold headerChars?
  dsimp only
  constructor
  · intro shown
    split at shown
    · next all =>
      obtain rfl := Option.some.inj shown
      exact ⟨all, (flatMap_octetChars all).symm⟩
    · cases shown
  · rintro ⟨all, rfl⟩
    -- Characters that a header may hold are those that their octets are taken for.
    have same : octetChars (cs.flatMap String.utf8EncodeChar) = cs :=
      encoded_of_ascii fun c member => toNat_lt_of_isHeaderChar (List.all_eq_true.mp all c member)
    rw [same, if_pos all]

end Http

namespace Text

/-- Each letter may stand in a header. -/
theorem isHeaderChar_base64Letter {value : Nat} (small : value < 64) :
    isHeaderChar (base64Letter value) = true := by
  -- All sixty-four letters are tried.
  have all : ∀ value < 64, isHeaderChar (base64Letter value) = true := by decide
  exact all value small

/-- The padded form of octets may stand in a header. -/
theorem all_isHeaderChar_base64 (octets : List UInt8) :
    (base64 octets).all isHeaderChar = true := by
  have mark : isHeaderChar '=' = true := by decide
  -- In every group each letter stands for six bits, whatever octets they are taken from.
  induction octets using base64.induct with
  | case1 => rfl
  | case2 a =>
    have := a.toNat_lt
    simp (disch := omega) [base64, base64One, isHeaderChar_base64Letter, mark]
  | case3 a b =>
    have := a.toNat_lt
    have := b.toNat_lt
    simp (disch := omega) [base64, base64Two, isHeaderChar_base64Letter, mark]
  | case4 a b c rest ih =>
    have := a.toNat_lt
    have := b.toNat_lt
    have := c.toNat_lt
    simp (disch := omega) only [base64, base64Three, List.all_append, List.all_cons, List.all_nil,
      isHeaderChar_base64Letter, ih, Bool.and_self]

end Text

namespace Server.Credentials

/-- A header can carry credentials when there is no colon in their name. -/
def HasPlainName (credentials : Credentials) : Prop :=
  ':' ∉ credentials.user.toList

/-- Whether there is a colon in a name can be found out. -/
instance (credentials : Credentials) : Decidable credentials.HasPlainName :=
  inferInstanceAs (Decidable (_ ∉ _))

/-- A text is cut at its first colon. -/
theorem ofPair?_eq_some {text : String} {credentials : Credentials} :
    ofPair? text = some credentials ↔
      credentials.HasPlainName ∧ text = credentials.user ++ ":" ++ credentials.password := by
  obtain ⟨user, password⟩ := credentials
  -- In the joined text the colon stands behind the name.
  have joined : (user ++ ":" ++ password).toList = user.toList ++ ':' :: password.toList := by
    simp
  rw [← String.toList_inj, joined, ofPair?, List.span_eq_takeWhile_dropWhile]
  constructor
  · intro read
    split at read
    · next front back same =>
      obtain ⟨front_eq, back_eq⟩ := Prod.mk.inj same
      obtain ⟨rfl, rfl⟩ := Credentials.mk.inj (Option.some.inj read)
      unfold HasPlainName
      rw [String.toList_ofList, String.toList_ofList, ← front_eq, ← back_eq,
        List.takeWhile_append_dropWhile]
      refine ⟨fun member => ?_, rfl⟩
      -- Whatever stands before the cut is no colon.
      have plain := List.mem_takeWhile_imp member
      simp at plain
    · -- Without a colon nothing is read.
      cases read
  · rintro ⟨plain, same⟩
    -- The name is passed over up to the first colon, which is the one behind it.
    have passed : ∀ c ∈ user.toList, decide (c ≠ ':') = true := by
      intro c member
      have other : c ≠ ':' := fun colon => plain (colon ▸ member)
      exact decide_eq_true other
    rw [same, List.takeWhile_append_of_pos passed, List.dropWhile_append_of_pos passed]
    simp

/-- Octets carry credentials exactly when they are those of the header for them. -/
theorem ofOctets?_eq_some {value : List UInt8} {credentials : Credentials} :
    ofOctets? value = some credentials ↔
      credentials.HasPlainName ∧ value = octets credentials.header := by
  unfold ofOctets? header
  constructor
  · -- What was read is undone step by step, from the header to the pair.
    intro read
    obtain ⟨cs, shown, behind⟩ := Option.bind_eq_some_iff.mp read
    obtain ⟨-, rfl⟩ := headerChars?_eq_some.mp shown
    split at behind
    · next isPrefix =>
      obtain ⟨letters, rfl⟩ := List.isPrefixOf_iff_prefix.mp isPrefix
      rw [List.drop_left] at behind
      obtain ⟨pair, decoded, spelled⟩ := Option.bind_eq_some_iff.mp behind
      obtain ⟨text, is_text, cut⟩ := Option.bind_eq_some_iff.mp spelled
      obtain ⟨plain, rfl⟩ := ofPair?_eq_some.mp cut
      obtain rfl := textOf?_eq_some.mp is_text
      obtain rfl := ofBase64?_eq_some.mp decoded
      exact ⟨plain, rfl⟩
    · cases behind
  · -- The header is written and read step by step.
    rintro ⟨plain, rfl⟩
    have all : (scheme ++ base64
        (octets (credentials.user ++ ":" ++ credentials.password))).all isHeaderChar = true := by
      rw [List.all_append, all_isHeaderChar_base64, Bool.and_true]
      decide
    refine Option.bind_eq_some_iff.mpr ⟨_, headerChars?_eq_some.mpr ⟨all, rfl⟩, ?_⟩
    rw [if_pos (List.isPrefixOf_iff_prefix.mpr (List.prefix_append _ _)), List.drop_left]
    refine Option.bind_eq_some_iff.mpr ⟨_, ofBase64?_eq_some.mpr rfl, ?_⟩
    refine Option.bind_eq_some_iff.mpr ⟨_, textOf?_eq_some.mpr rfl, ?_⟩
    exact ofPair?_eq_some.mpr ⟨plain, rfl⟩

/-- Some credentials are those in a header value exactly when the value is the header for them. -/
theorem ofValue_eq_ok {value : Option (List UInt8)} {credentials : Credentials} :
    ofValue value = .ok credentials ↔
      credentials.HasPlainName ∧ value = some (octets credentials.header) := by
  -- Without a header there are no credentials.
  cases value with
  | none => exact iff_of_false nofun nofun
  | some value =>
    rw [Option.some.injEq, ← ofOctets?_eq_some, ofValue, Option.bind_some]
    split
    · next found read => rw [read, Option.some.injEq, Except.ok.injEq]
    · next absent =>
      rw [absent]
      exact iff_of_false nofun nofun

/-- Either a header value has credentials, or its request is unauthorized. -/
theorem ofValue_eq_ok_or (value : Option (List UInt8)) :
    (∃ credentials, ofValue value = .ok credentials) ∨ ofValue value = .error .unauthorized := by
  -- Whatever goes wrong, it is told as unauthorized.
  unfold ofValue
  split
  · next credentials _ => exact .inl ⟨credentials, rfl⟩
  · exact .inr rfl

/--
The credentials in a header value are those that it is the header for.
Without any the request is unauthorized; every header that is written for a name without a colon
reads back, and no two header values carry the same credentials.
-/
theorem header_exact :
    (∀ (value : Option (List UInt8)) (credentials : Credentials),
        ofValue value = .ok credentials ↔
          credentials.HasPlainName ∧ value = some (octets credentials.header)) ∧
      (∀ value : Option (List UInt8), ofValue value = .error .unauthorized ↔
        ∀ credentials : Credentials, credentials.HasPlainName →
          value ≠ some (octets credentials.header)) ∧
      (∀ credentials : Credentials,
        ofValue (some (octets credentials.header)) = .ok credentials ↔
          credentials.HasPlainName) ∧
      ∀ (value other : Option (List UInt8)) (credentials : Credentials),
        ofValue value = .ok credentials → ofValue other = .ok credentials → value = other := by
  refine ⟨fun _ _ => ofValue_eq_ok, fun value => ?_, fun credentials => ?_, ?_⟩
  · -- Without credentials the request is refused, and only then.
    constructor
    · intro refused credentials plain carried
      rw [ofValue_eq_ok.mpr ⟨plain, carried⟩] at refused
      cases refused
    · intro carriesNone
      rcases ofValue_eq_ok_or value with ⟨credentials, read⟩ | refused
      · obtain ⟨plain, carried⟩ := ofValue_eq_ok.mp read
        exact absurd carried (carriesNone credentials plain)
      · exact refused
  · -- A header that is written carries its own credentials.
    exact ofValue_eq_ok.trans (and_iff_left rfl)
  · -- Both values are the header of the same credentials.
    intro value other credentials read read_other
    rw [(ofValue_eq_ok.mp read).2, (ofValue_eq_ok.mp read_other).2]

/-- The name ends at the first colon, and all other colons belong to the password. -/
example :
    ofValue (some (octets "Basic MjAyNDAwMDE6cGE6c3M=")) = .ok ⟨"20240001", "pa:ss"⟩ := by
  decide +kernel

end Server.Credentials

end CourseRegistry
