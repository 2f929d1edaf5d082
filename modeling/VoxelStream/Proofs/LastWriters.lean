import VoxelStream.Proofs.Joining
import Mathlib.Data.List.Sort
import Mathlib.Order.Bounds.Basic

/-!
# The last writers of a merge

A merge writes the pieces of a second answer to the listed indices, position by position, and a
later position writes over an earlier one.  So in the end an index holds the piece of its last
*writer*, the greatest position that lists it, and without a writer it holds what it held
(`mergeFallback?_eq_some_iff`).  Positions behind the end of the shorter list write nothing.  The
merge has no result exactly if a writer lists an index outside of the pieces
(`mergeFallback?_eq_none_iff`).

In a fetch the listed indices are the gaps of the first answer.  Then every gap has one writer and
no other index has any, and the second answer fills the gaps in order (`Merges.lacking_eq`).
-/

namespace VoxelStream

variable {α : Type}

/-! ## Logs of writes -/

section

variable {κ : Type} [DecidableEq κ] {log : List (κ × α)} {key : κ}

/-- The last item written to a key is that of the last write to it. -/
theorem exists_of_lastWrite {item : α} (last : lastWrite log key = some item) :
    ∃ position : Nat, log[position]? = some (key, item) ∧
      ∀ later other, log[later]? = some (key, other) → later ≤ position := by
  induction log with
  | nil => cases last
  | cons write rest ih =>
    rw [lastWrite, Option.or_eq_some_iff] at last
    rcases last with later | ⟨noLater, here⟩
    · obtain ⟨position, written, isLast⟩ := ih later
      refine ⟨position + 1, written, ?_⟩
      rintro (_ | later) other writtenLater
      · exact Nat.zero_le _
      · exact Nat.succ_le_succ (isLast later other writtenLater)
    · split at here
      next same =>
        cases here
        refine ⟨0, by rw [← same]; rfl, ?_⟩
        rintro (_ | later) other writtenLater
        · exact Nat.le_refl 0
        · exact absurd rfl (lastWrite_eq_none_iff.mp noLater _ (List.mem_of_getElem? writtenLater))
      · cases here

end

/-- Writing fails exactly if some position is outside. -/
theorem fill?_eq_none_iff {items : List α} {writes : List (Nat × α)} :
    fill? items writes = none ↔ ∃ write ∈ writes, items.length ≤ write.1 := by
  induction writes generalizing items with
  | nil => simp [fill?]
  | cons write rest ih =>
    rw [fill?]
    split
    next inside =>
      rw [ih, List.length_set, List.exists_mem_cons_iff, or_iff_right (Nat.not_le_of_lt inside)]
    next outside => simp [Nat.le_of_not_lt outside]

/-! ## Writers -/

/-- The positions at which an index is listed together with an item. -/
def writersOf (missing : List Nat) (fallback : List α) (index : Nat) : Set Nat :=
  {position | position < min missing.length fallback.length ∧ missing[position]? = some index}

section

variable {missing : List Nat} {fallback : List α} {index position : Nat} {item : α}

/-- The writers of an index are its places among the writes. -/
theorem mem_writersOf_iff :
    position ∈ writersOf missing fallback index ↔
      ∃ item, (missing.zip fallback)[position]? = some (index, item) := by
  simp only [List.getElem?_zip_eq_some]
  constructor
  · rintro ⟨inside, listed⟩
    exact ⟨_, listed, List.getElem?_eq_getElem (Nat.lt_min.mp inside).2⟩
  · rintro ⟨item, listed, held⟩
    exact ⟨Nat.lt_min.mpr ⟨(List.getElem?_eq_some_iff.mp listed).1,
      (List.getElem?_eq_some_iff.mp held).1⟩, listed⟩

/-- The indices with a writer are those in front of the end of the shorter list. -/
theorem nonempty_writersOf_iff :
    (writersOf missing fallback index).Nonempty ↔
      index ∈ missing.take (min missing.length fallback.length) := by
  simp only [List.mem_iff_getElem?, List.getElem?_take, Option.ite_none_right_eq_some]
  rfl

theorem writersOf_eq_empty_iff :
    writersOf missing fallback index = ∅ ↔ lastWrite (missing.zip fallback) index = none := by
  rw [lastWrite_eq_none_iff, Set.eq_empty_iff_forall_notMem]
  constructor
  · rintro noWriter ⟨_, item⟩ member rfl
    obtain ⟨position, written⟩ := List.mem_iff_getElem?.mp member
    exact noWriter position (mem_writersOf_iff.mpr ⟨item, written⟩)
  · intro noWrite position writes
    obtain ⟨item, written⟩ := mem_writersOf_iff.mp writes
    exact noWrite _ (List.mem_of_getElem? written) rfl

/-- What is written last is the item of the last writer. -/
theorem exists_isGreatest_of_lastWrite (last : lastWrite (missing.zip fallback) index = some item) :
    ∃ position, IsGreatest (writersOf missing fallback index) position ∧
      fallback[position]? = some item := by
  obtain ⟨position, written, isLast⟩ := exists_of_lastWrite last
  refine ⟨position, ⟨mem_writersOf_iff.mpr ⟨item, written⟩, ?_⟩,
    (List.getElem?_zip_eq_some.mp written).2⟩
  intro later writes
  obtain ⟨other, writtenLater⟩ := mem_writersOf_iff.mp writes
  exact isLast later other writtenLater

/-- The greatest writer is the last write. -/
theorem lastWrite_of_isGreatest (last : IsGreatest (writersOf missing fallback index) position) :
    lastWrite (missing.zip fallback) index = fallback[position]? := by
  cases written : lastWrite (missing.zip fallback) index with
  | none =>
    have writes := last.1
    rw [writersOf_eq_empty_iff.mpr written] at writes
    cases writes
  | some item =>
    obtain ⟨other, otherLast, held⟩ := exists_isGreatest_of_lastWrite written
    rw [last.unique otherLast, held]

end

/-! ## Merges -/

/-- The pieces of a first answer, with those of a second one written to the listed indices. -/
structure Merges (pieces : List Piece) (missing : List Nat) (fallback merged : List Piece) :
    Prop where
  /-- Every index that is written to is one of the pieces. -/
  inside : ∀ index ∈ missing.take (min missing.length fallback.length), index < pieces.length
  length : merged.length = pieces.length
  /-- An index holds the piece of its last writer. -/
  written : ∀ index position, IsGreatest (writersOf missing fallback index) position →
    merged[index]? = fallback[position]?
  /-- An index without a writer holds what it held. -/
  kept : ∀ index, writersOf missing fallback index = ∅ → merged[index]? = pieces[index]?

section

variable {pieces fallback merged other : List Piece} {missing : List Nat} {index position : Nat}

/-- A merge fails exactly if an index that is written lies outside of the pieces. -/
theorem mergeFallback?_eq_none_iff :
    mergeFallback? pieces missing fallback = none ↔
      ∃ index ∈ missing.take (min missing.length fallback.length), pieces.length ≤ index := by
  simp only [mergeFallback?, fill?_eq_none_iff, ← nonempty_writersOf_iff]
  constructor
  · rintro ⟨⟨index, item⟩, member, outside⟩
    obtain ⟨position, written⟩ := List.mem_iff_getElem?.mp member
    exact ⟨index, ⟨position, mem_writersOf_iff.mpr ⟨item, written⟩⟩, outside⟩
  · rintro ⟨index, ⟨position, writes⟩, outside⟩
    obtain ⟨item, written⟩ := mem_writersOf_iff.mp writes
    exact ⟨(index, item), List.mem_of_getElem? written, outside⟩

theorem merges_of_mergeFallback? (result : mergeFallback? pieces missing fallback = some merged) :
    Merges pieces missing fallback merged := by
  refine ⟨?inside, length_of_mergeFallback? result, ?written, ?kept⟩
  case inside =>
    intro index writes
    by_contra outside
    have stopped := mergeFallback?_eq_none_iff.mpr ⟨index, writes, Nat.le_of_not_lt outside⟩
    rw [result] at stopped
    cases stopped
  case written =>
    intro index position last
    have inside := (Nat.lt_min.mp last.1.1).2
    rw [getElem?_of_fill? result, lastWrite_of_isGreatest last, List.getElem?_eq_getElem inside,
      Option.some_or]
  case kept =>
    intro index noWriter
    rw [getElem?_of_fill? result, writersOf_eq_empty_iff.mp noWriter, Option.none_or]

theorem Merges.unique (first : Merges pieces missing fallback merged)
    (second : Merges pieces missing fallback other) : merged = other := by
  apply List.ext_getElem?
  intro index
  cases last : lastWrite (missing.zip fallback) index with
  | none =>
    have noWriter := writersOf_eq_empty_iff.mpr last
    rw [first.kept index noWriter, second.kept index noWriter]
  | some piece =>
    obtain ⟨position, isLast, -⟩ := exists_isGreatest_of_lastWrite last
    rw [first.written index position isLast, second.written index position isLast]

/-- A merge has the list that the last writers describe. -/
theorem mergeFallback?_eq_some_iff :
    mergeFallback? pieces missing fallback = some merged ↔
      Merges pieces missing fallback merged := by
  refine ⟨merges_of_mergeFallback?, fun merges => ?_⟩
  cases result : mergeFallback? pieces missing fallback with
  | none =>
    obtain ⟨index, writes, outside⟩ := mergeFallback?_eq_none_iff.mp result
    exact absurd (merges.inside index writes) (Nat.not_lt_of_le outside)
  | some other => rw [(merges_of_mergeFallback? result).unique merges]

/-! ## Gaps in order -/

/-- The gaps are found in increasing order. -/
theorem missingIndices_increasing (pieces : List Piece) :
    (missingIndices pieces).Pairwise (· < ·) := by
  have listed : (missingIndices pieces).Sublist (List.range' 0 pieces.length) := by
    rw [← List.zipIdx_map_snd]
    exact List.filter_sublist.map _
  exact List.Pairwise.sublist listed List.pairwise_lt_range'

/-- The missing indices are the gaps in increasing order. -/
theorem eq_missingIndices (increasing : missing.Pairwise (· < ·))
    (gaps : ∀ index, index ∈ missing ↔ pieces[index]? = some none) :
    missing = missingIndices pieces :=
  increasing.eq_of_mem_iff (missingIndices_increasing pieces) fun index =>
    (gaps index).trans mem_missingIndices.symm

/-- An index that is listed once has one writer. -/
theorem isGreatest_of_increasing (increasing : missing.Pairwise (· < ·))
    (enough : fallback.length = missing.length) (listed : missing[position]? = some index) :
    IsGreatest (writersOf missing fallback index) position := by
  have inside := (List.getElem?_eq_some_iff.mp listed).1
  refine ⟨⟨by rwa [enough, Nat.min_self], listed⟩, ?_⟩
  rintro other ⟨-, otherListed⟩
  have same := (List.getElem?_inj inside increasing.nodup).mp (listed.trans otherListed.symm)
  exact Nat.le_of_eq same.symm

theorem Merges.at_position (merges : Merges pieces missing fallback merged)
    (increasing : missing.Pairwise (· < ·)) (enough : fallback.length = missing.length)
    (listed : missing[position]? = some index) : merged[index]? = fallback[position]? :=
  merges.written index position (isGreatest_of_increasing increasing enough listed)

/-- The second answer fills the gaps of the first, in order. -/
theorem Merges.lacking_eq (merges : Merges pieces missing fallback merged)
    (increasing : missing.Pairwise (· < ·))
    (gaps : ∀ index, index ∈ missing ↔ pieces[index]? = some none)
    (enough : fallback.length = missing.length) : lacking merged pieces = fallback := by
  have gathered : gather? merged missing = some fallback := by
    rw [gather?_eq_some_iff]
    apply List.ext_getElem?
    intro position
    rw [List.getElem?_map, List.getElem?_map]
    cases listed : missing[position]? with
    | none =>
      have ended : fallback[position]? = none := by
        rw [List.getElem?_eq_none_iff, enough]
        exact List.getElem?_eq_none_iff.mp listed
      rw [ended]
      rfl
    | some index =>
      have inside : position < fallback.length := by
        rw [enough]
        exact (List.getElem?_eq_some_iff.mp listed).1
      rw [Option.map_some, merges.at_position increasing enough listed,
        List.getElem?_eq_getElem inside, Option.map_some]
  rw [eq_missingIndices increasing gaps, gather?_missingIndices merges.length.symm] at gathered
  exact Option.some.inj gathered

theorem Merges.present (merges : Merges pieces missing fallback merged)
    (gaps : ∀ index, index ∈ missing ↔ pieces[index]? = some none) {payload : Payload}
    (held : pieces[index]? = some (some payload)) : merged[index]? = some (some payload) := by
  have noWriter : writersOf missing fallback index = ∅ := by
    rw [Set.eq_empty_iff_forall_notMem]
    rintro position ⟨-, listed⟩
    have gap := (gaps index).mp (List.mem_of_getElem? listed)
    rw [held] at gap
    cases gap
  rw [merges.kept index noWriter, held]

/-- There is a merge if only gaps are listed. -/
theorem exists_merges (gaps : ∀ index, index ∈ missing ↔ pieces[index]? = some none)
    (fallback : List Piece) :
    ∃ merged, mergeFallback? pieces missing fallback = some merged := by
  cases result : mergeFallback? pieces missing fallback with
  | some merged => exact ⟨merged, rfl⟩
  | none =>
    obtain ⟨index, writes, outside⟩ := mergeFallback?_eq_none_iff.mp result
    have gap := (gaps index).mp (List.mem_of_mem_take writes)
    exact absurd (List.getElem?_eq_some_iff.mp gap).1 (Nat.not_lt_of_le outside)

end

/-- A merge writes exactly the listed indices, as far as there are pieces for them, and the last
writer of an index decides.  It has no result exactly if an index is outside.  If the gaps are
listed in increasing order, with one piece for each, then the pieces fill the gaps in order and
nothing else changes. -/
theorem mergeFallback?_exact (pieces : List Piece) (missing : List Nat) (fallback : List Piece) :
    (mergeFallback? pieces missing fallback = none ↔
      ∃ index ∈ missing.take (min missing.length fallback.length), pieces.length ≤ index) ∧
    (∀ merged, mergeFallback? pieces missing fallback = some merged ↔
      Merges pieces missing fallback merged) ∧
    (missing.Pairwise (· < ·) → (∀ index, index ∈ missing ↔ pieces[index]? = some none) →
      fallback.length = missing.length →
      ∃ merged, mergeFallback? pieces missing fallback = some merged ∧
        merged.length = pieces.length ∧ lacking merged pieces = fallback ∧
        (∀ position index : Nat, missing[position]? = some index →
          merged[index]? = fallback[position]?) ∧
        ∀ (index : Nat) (payload : Payload), pieces[index]? = some (some payload) →
          merged[index]? = some (some payload)) := by
  refine ⟨mergeFallback?_eq_none_iff, fun _ => mergeFallback?_eq_some_iff, ?gaps⟩
  case gaps =>
    intro increasing gaps enough
    obtain ⟨merged, result⟩ := exists_merges gaps fallback
    have merges := merges_of_mergeFallback? result
    exact ⟨merged, result, merges.length, merges.lacking_eq increasing gaps enough,
      fun _ _ => merges.at_position increasing enough, fun _ _ => merges.present gaps⟩

/-- Three gaps are filled in order, with nothing for the second.  The later of two writers of the
last index decides, and the third index, being outside, counts only with a piece for it. -/
theorem mergeFallback?_exact_repeated :
    [0, 2, 3].Pairwise (· < ·) ∧
      (∀ index, index ∈ [0, 2, 3] ↔
        ([none, some [1], none, none] : List Piece)[index]? = some none) ∧
      ([some [7], none, some [9]] : List Piece).length = [0, 2, 3].length ∧
      mergeFallback? [none, some [1], none, none] [0, 2, 3] [some [7], none, some [9]] =
        some [some [7], some [1], none, some [9]] ∧
      lacking [some [7], some [1], none, some [9]] [none, some [1], none, none] =
        ([some [7], none, some [9]] : List Piece) ∧
      Merges [some [1], none] [1, 1, 2] [some [5], some [6]] [some [1], some [6]] ∧
      mergeFallback? [some [1], none] [1, 1, 2] [some [5], some [6], none] = none := by
  have increasing : [0, 2, 3].Pairwise (· < ·) := by decide
  have gaps : ∀ index, index ∈ [0, 2, 3] ↔
      ([none, some [1], none, none] : List Piece)[index]? = some none := by
    intro index
    match index with
    | 0 | 1 | 2 | 3 => decide
    | _ + 4 => simp
  obtain ⟨merged, result, -, filled, -⟩ :=
    (mergeFallback?_exact _ [0, 2, 3] [some [7], none, some [9]]).2.2 increasing gaps rfl
  obtain rfl : [some [7], some [1], none, some [9]] = merged := Option.some.inj result
  exact ⟨increasing, gaps, rfl, result, filled,
    ((mergeFallback?_exact _ _ _).2.1 _).mp rfl,
    (mergeFallback?_exact _ _ _).1.mpr ⟨2, by decide, by decide⟩⟩

end VoxelStream
