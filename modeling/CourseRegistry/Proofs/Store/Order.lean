import CourseRegistry.Proofs.Store.Cell
import CourseRegistry.Proofs.Uuid.Order

/-! The order of cells and of rows of cells, and what sorting by it does to a list. -/

namespace CourseRegistry.Cell

/-- No cell comes before itself. -/
theorem precedes_irrefl (a : Cell) : a.precedes a = false := by
  -- Numbers and texts are not less than themselves, and no kind comes before itself.
  cases a <;> simp [precedes]

/-- What comes before an earlier cell comes before the later one. -/
theorem precedes_trans {a b c : Cell} (front : a.precedes b = true) (back : b.precedes c = true) :
    a.precedes c = true := by
  -- Cells of different kinds are ordered by kind; those of one kind by what they hold.
  cases a <;> cases b <;> cases c <;>
    simp only [precedes, decide_eq_true_eq, Bool.false_eq_true] at front back ⊢
  · -- Three numbers.
    exact Int.lt_trans front back
  · -- Three texts.
    exact String.lt_trans front back

/-- Of two different cells one comes first. -/
theorem precedes_or_eq_or_precedes (a b : Cell) :
    a.precedes b = true ∨ a = b ∨ b.precedes a = true := by
  -- All pairs of kinds are gone through, and what is left are two numbers or two texts.
  cases a <;> cases b <;>
    simp only [precedes, decide_eq_true_eq, Bool.false_eq_true, reduceCtorEq, integer.injEq,
      text.injEq, or_true, or_false]
  · -- Of two different numbers one is less.
    exact Int.lt_trichotomy _ _
  · -- Of two different texts one comes first.
    next a b =>
    by_cases before : a < b
    · exact .inl before
    · by_cases after : b < a
      · exact .inr (.inr after)
      · exact .inr (.inl (String.le_antisymm (String.not_lt.mp after) (String.not_lt.mp before)))

/-- Of two texts the one comes first that does so by its characters. -/
theorem precedes_text {a b : String} : (text a).precedes (text b) = true ↔ a < b :=
  decide_eq_true_iff

/-- The cells of identifiers stand in the order of the identifiers. -/
theorem precedes_ofId {a b : Uuid} : (ofId a).precedes (ofId b) = true ↔ a < b :=
  precedes_text.trans Uuid.text_lt

/-- A row of cells does not come after another one, cell by cell. -/
theorem keyLe_cons {a b : Cell} {as bs : List Cell} :
    keyLe (a :: as) (b :: bs) = true ↔ a.precedes b = true ∨ a = b ∧ keyLe as bs = true := by
  rw [keyLe, Bool.or_eq_true, Bool.and_eq_true, beq_iff_eq]

/-- Any two rows of cells can be compared. -/
theorem keyLe_total (a b : List Cell) : (keyLe a b || keyLe b a) = true := by
  rw [Bool.or_eq_true]
  -- By induction on the first of the two rows of cells.
  induction a generalizing b with
  | nil => exact .inl rfl
  | cons a as ih =>
    cases b with
    | nil => exact .inr rfl
    | cons b bs =>
      rw [keyLe_cons, keyLe_cons]
      -- The first difference decides, and without one the rest does.
      rcases precedes_or_eq_or_precedes a b with before | rfl | after
      · exact .inl (.inl before)
      · exact (ih bs).imp (fun le => .inr ⟨rfl, le⟩) fun le => .inr ⟨rfl, le⟩
      · exact .inr (.inl after)

/-- A row of cells that does not come after a second one does not come after a third one, either. -/
theorem keyLe_trans {a b c : List Cell} (front : keyLe a b = true) (back : keyLe b c = true) :
    keyLe a c = true := by
  -- By induction on the first row, with the first cells of all three compared.
  induction a generalizing b c with
  | nil => rfl
  | cons a as ih =>
    -- A longer row does not come before an empty one.
    cases b with
    | nil => cases front
    | cons b bs =>
      cases c with
      | nil => cases back
      | cons c cs =>
        rw [keyLe_cons] at front back ⊢
        rcases front with front | ⟨rfl, front⟩
        · rcases back with back | ⟨rfl, -⟩
          · exact .inl (precedes_trans front back)
          · exact .inl front
        · exact back.imp_right fun ⟨same, back⟩ => ⟨same, ih front back⟩

/-- Two rows of cells of which neither comes after the other are the same. -/
theorem keyLe_antisymm {a b : List Cell} (front : keyLe a b = true) (back : keyLe b a = true) :
    a = b := by
  -- By induction on the first row: neither of the first cells comes before the other.
  induction a generalizing b with
  | nil =>
    cases b with
    | nil => rfl
    | cons => cases back
  | cons a as ih =>
    cases b with
    | nil => cases front
    | cons b bs =>
      rw [keyLe_cons] at front back
      -- A first cell cannot come both before and after the other one.
      have apart (after : b.precedes a = true) : ¬ a.precedes b = true := fun before => by
        have circle := precedes_trans before after
        rw [precedes_irrefl] at circle
        cases circle
      rcases back with after | ⟨rfl, back⟩
      · rcases front with before | ⟨rfl, -⟩
        · exact absurd before (apart after)
        · rw [precedes_irrefl] at after
          cases after
      · rcases front with before | ⟨-, front⟩
        · rw [precedes_irrefl] at before
          cases before
        · rw [ih front back]

section Sorting

variable {α : Type} {key : α → List Cell} {rows : List α}

/-- A sorted list has the same rows. -/
theorem sortOn_perm (key : α → List Cell) (rows : List α) : (sortOn key rows).Perm rows :=
  List.mergeSort_perm rows _

/-- In a sorted list no row comes before one with a smaller key. -/
theorem pairwise_sortOn (key : α → List Cell) (rows : List α) :
    (sortOn key rows).Pairwise fun a b => keyLe (key a) (key b) = true := by
  -- Rows are compared by their keys alone.
  have trans (a b c : α) (front : keyLe (key a) (key b) = true)
      (back : keyLe (key b) (key c) = true) : keyLe (key a) (key c) = true :=
    keyLe_trans front back
  exact List.pairwise_mergeSort trans (fun a b => keyLe_total (key a) (key b)) rows

/-- Two rows that stand in the wrong order change places. -/
theorem sortOn_turned {a b : α} (turned : keyLe (key a) (key b) = false) :
    sortOn key [a, b] = [b, a] := by
  simp [sortOn, List.mergeSort, List.MergeSort.Internal.splitInTwo, turned]

/-- Rows that are told apart by the second cells of their keys have each its own place. -/
theorem pairwise_sortOn_two {first second : α → Cell} (distinct : (rows.map second).Nodup) :
    (sortOn (fun row => [first row, second row]) rows).Pairwise fun a b =>
      (first a).precedes (first b) = true ∨
        first a = first b ∧ (second a).precedes (second b) = true := by
  -- In the sorted list the second cells are all different as well.
  have apart : (sortOn (fun row => [first row, second row]) rows).Pairwise fun a b =>
      second a ≠ second b :=
    List.pairwise_map.mp (((sortOn_perm _ rows).map second).nodup_iff.mpr distinct)
  refine (pairwise_sortOn _ rows).imp₂ (fun a b le differ => ?_) apart
  rw [keyLe_cons, keyLe_cons] at le
  -- Second cells that differ leave the first difference to decide.
  exact le.imp_right fun ⟨same, rest⟩ => ⟨same, rest.resolve_right fun both => differ both.1⟩

/-- Where no two rows share a key, a selection of the sorted rows is the sorted selection. -/
theorem filter_sortOn (distinct : ∀ a ∈ rows, ∀ b ∈ rows, key a = key b → a = b)
    (kept : α → Bool) : (sortOn key rows).filter kept = sortOn key (rows.filter kept) := by
  -- Both lists are sorted and have the same rows, and there is only one such list.
  refine List.Perm.eq_of_pairwise ?_ ((pairwise_sortOn key rows).filter kept)
    (pairwise_sortOn key (rows.filter kept))
    (((sortOn_perm key rows).filter kept).trans (sortOn_perm key (rows.filter kept)).symm)
  -- Two rows of which neither comes first have the same key.
  intro a b a_mem b_mem front back
  refine distinct a ?_ b ?_ (keyLe_antisymm front back)
  · exact mem_sortOn.mp (List.mem_filter.mp a_mem).1
  · exact (List.mem_filter.mp (mem_sortOn.mp b_mem)).1

end Sorting

end CourseRegistry.Cell
