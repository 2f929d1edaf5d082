import VoxelStream.Proofs.Outcomes
import VoxelStream.Slices

/-!
# Slices as a relation

`Cuts length missing index buffer pieces surplus` says that a buffer holds the payloads of some
pieces, one after the other, and then a surplus.  The first piece is that of the bucket `index`.
A piece is missing exactly if its index is on the list of missing indices, and only the others take
bytes from the buffer.

`cut` and `sliceBatch` find the pieces exactly where the relation has them (`cut_sound`, `Cuts.cut`,
`sliceBatch_eq_ok_iff`).  Everything that holds of slices is then read off the relation, without the
offsets that the recursion carries along.

The offsets themselves matter for one thing: a machine computes them in 64-bit words.
`sliceInWords` does so, with the buffer in one place and every sum and difference checked.  It never
fails a check and agrees with `sliceBatch` (`sliceInWords_eq`).

`slice` differs from `sliceBatch` in one case.  It ends at once if all missing indices are indices
of the batch and the batch is longer than any list of pieces (`slice_of_noRoom`).
-/

namespace VoxelStream

/-! ## The relation -/

/-- A buffer holds the payloads of the buckets from `index` on, and a surplus follows. -/
inductive Cuts (length : Nat) (missing : List Nat) :
    Nat → Payload → List Piece → Payload → Prop where
  /-- Without further buckets everything is surplus. -/
  | done {index : Nat} {surplus : Payload} : Cuts length missing index surplus [] surplus
  /-- A missing bucket takes no bytes. -/
  | absent {index : Nat} {buffer : Payload} {pieces : List Piece} {surplus : Payload} :
      index ∈ missing → Cuts length missing (index + 1) buffer pieces surplus →
      Cuts length missing index buffer (none :: pieces) surplus
  /-- A bucket that is there takes the bytes of one payload. -/
  | present {index : Nat} {payload buffer : Payload} {pieces : List Piece} {surplus : Payload} :
      index ∉ missing → payload.length = length →
      Cuts length missing (index + 1) buffer pieces surplus →
      Cuts length missing index (payload ++ buffer) (some payload :: pieces) surplus

section

variable {length held index offset count : Nat} {missing : List Nat} {buffer surplus : Payload}
  {pieces : List Piece} {slices : Slices}

/-- Missing pieces are exactly those that are listed. -/
theorem Cuts.getElem?_eq_none_iff (cuts : Cuts length missing index buffer pieces surplus)
    {i : Nat} (inside : i < pieces.length) : pieces[i]? = some none ↔ index + i ∈ missing := by
  induction cuts generalizing i with
  | done => simp at inside
  | absent isMissing _ ih =>
    cases i with
    | zero => simpa using isMissing
    | succ i =>
      rw [List.getElem?_cons_succ, ih (by simpa using inside), Nat.add_right_comm, Nat.add_assoc]
  | present notMissing _ _ ih =>
    cases i with
    | zero => simpa using notMissing
    | succ i =>
      rw [List.getElem?_cons_succ, ih (by simpa using inside), Nat.add_right_comm, Nat.add_assoc]

/-- Every payload has the length of a bucket. -/
theorem Cuts.length_payload (cuts : Cuts length missing index buffer pieces surplus)
    {payload : Payload} (delivered : some payload ∈ pieces) : payload.length = length := by
  induction cuts with
  | done => cases delivered
  | absent _ _ ih =>
    cases delivered with
    | tail _ later => exact ih later
  | present _ sized _ ih =>
    cases delivered with
    | head => exact sized
    | tail _ later => exact ih later

/-! ## Cutting one bucket -/

theorem cut_absent (isMissing : index ∈ missing) :
    cut length held missing (count + 1) index offset buffer =
      (cut length held missing count (index + 1) offset buffer).map (Slices.cons none) := by
  simp [cut, isMissing]

theorem cut_short (notMissing : index ∉ missing) (short : buffer.length < length) :
    cut length held missing (count + 1) index offset buffer =
      .error (.bufferTooShort held index offset (offset + length)) := by
  have taken : (buffer.take length).length < length := by
    rw [List.length_take]; omega
  simp only [cut, List.contains_iff_mem, notMissing, taken, if_true, if_false]

theorem cut_present (notMissing : index ∉ missing) (enough : length ≤ buffer.length) :
    cut length held missing (count + 1) index offset buffer =
      (cut length held missing count (index + 1) (offset + length) (buffer.drop length)).map
        (Slices.cons (some (buffer.take length))) := by
  have taken : ¬ (buffer.take length).length < length := by
    rw [List.length_take]; omega
  simp only [cut, List.contains_iff_mem, notMissing, taken, if_false]

/-! ## Cutting all buckets -/

/-- What `cut` finds are the pieces of the relation, one for each bucket. -/
theorem cut_sound (result : cut length held missing count index offset buffer = .ok slices) :
    ∃ surplus, Cuts length missing index buffer slices.pieces surplus ∧
      slices.pieces.length = count ∧ slices.surplus = surplus.length := by
  induction count generalizing index offset buffer slices with
  | zero =>
    rw [cut] at result
    cases result
    exact ⟨buffer, .done, rfl, rfl⟩
  | succ count ih =>
    by_cases isMissing : index ∈ missing
    · rw [cut_absent isMissing] at result
      obtain ⟨later, cutLater, rfl⟩ := map_eq_ok_iff.mp result
      obtain ⟨surplus, cuts, lengths, left⟩ := ih cutLater
      exact ⟨surplus, .absent isMissing cuts, by simp [Slices.cons, lengths], left⟩
    · by_cases short : buffer.length < length
      · rw [cut_short isMissing short] at result
        cases result
      · rw [cut_present isMissing (by omega)] at result
        obtain ⟨later, cutLater, rfl⟩ := map_eq_ok_iff.mp result
        obtain ⟨surplus, cuts, lengths, left⟩ := ih cutLater
        have taken : (buffer.take length).length = length := by
          rw [List.length_take]; omega
        refine ⟨surplus, ?_, by simp [Slices.cons, lengths], left⟩
        have whole := Cuts.present isMissing taken cuts
        rwa [List.take_append_drop] at whole

/-- The pieces of the relation are what `cut` finds. -/
theorem Cuts.cut (cuts : Cuts length missing index buffer pieces surplus) (held offset : Nat) :
    cut length held missing pieces.length index offset buffer = .ok ⟨pieces, surplus.length⟩ := by
  induction cuts generalizing offset with
  | done => rfl
  | absent isMissing _ ih =>
    rw [List.length_cons, cut_absent isMissing, ih]
    rfl
  | @present _ payload buffer _ _ notMissing sized _ ih =>
    rw [List.length_cons, cut_present notMissing (by simp [sized]), ← sized,
      List.drop_left, List.take_left, sized, ih]
    rfl

/-! ## Slicing an answer -/

/-- No index is outside exactly if all are inside. -/
theorem find?_outside_eq_none_iff {batchLength : Nat} :
    missing.find? (batchLength ≤ ·) = none ↔ ∀ index ∈ missing, index < batchLength := by
  simp [List.find?_eq_none]

/-- An answer is sliced exactly if its missing indices are indices of the batch and its buffer can
be cut. -/
theorem sliceBatch_eq_ok_iff {batchLength : Nat} :
    sliceBatch length batchLength missing buffer = .ok slices ↔
      (∀ index ∈ missing, index < batchLength) ∧
      ∃ surplus, Cuts length missing 0 buffer slices.pieces surplus ∧
        slices.pieces.length = batchLength ∧ slices.surplus = surplus.length := by
  constructor
  · intro result
    rw [sliceBatch] at result
    split at result
    · cases result
    · rename_i inside
      exact ⟨find?_outside_eq_none_iff.mp inside, cut_sound result⟩
  · rintro ⟨inside, surplus, cuts, rfl, left⟩
    rw [sliceBatch, find?_outside_eq_none_iff.mpr inside]
    obtain ⟨pieces, count⟩ := slices
    subst left
    exact cuts.cut buffer.length 0

/-! ## Batches of any length -/

/-- A batch that a list of pieces has room for is sliced as one that is held in memory. -/
theorem slice_of_room {batchLength : Nat} (room : batchLength ≤ maxPieces) :
    slice length batchLength missing buffer =
      (sliceBatch length batchLength missing buffer).mapError SliceError.stop := by
  rw [slice, sliceBatch]
  cases missing.find? (batchLength ≤ ·) with
  | some index => rfl
  | none => exact if_neg (Nat.not_lt.mpr room)

/-- Without room nothing is cut, whatever the buffer. -/
theorem slice_of_noRoom {batchLength : Nat} (inside : ∀ index ∈ missing, index < batchLength)
    (noRoom : maxPieces < batchLength) :
    slice length batchLength missing buffer = .error .noRoom := by
  rw [slice, find?_outside_eq_none_iff.mpr inside]
  exact if_pos noRoom

/-- A batch of any length is sliced exactly if there is room for its pieces and it is sliced as one
in memory. -/
theorem slice_eq_ok_iff {batchLength : Nat} :
    slice length batchLength missing buffer = .ok slices ↔
      batchLength ≤ maxPieces ∧ sliceBatch length batchLength missing buffer = .ok slices := by
  by_cases room : batchLength ≤ maxPieces
  · rw [slice_of_room room, mapError_eq_ok_iff, and_iff_right room]
  · refine iff_of_false ?_ fun both => room both.1
    rw [slice, if_pos (Nat.lt_of_not_le room)]
    cases missing.find? (batchLength ≤ ·) <;> nofun

/-! ## Offsets in words -/

/-- A sum that is a 64-bit number. -/
def add64? (a b : Nat) : Option Nat := if a + b < UInt64.size then some (a + b) else none

/-- A difference that is not negative. -/
def sub? (a b : Nat) : Option Nat := if b ≤ a then some (a - b) else none

/-- Cuts the pieces of `count` buckets from a whole buffer.  The first bucket has the index `index`
and its bytes start at `offset`.  Every offset is computed in 64-bit words, and there is no outcome
if one of them is no such number. -/
def cutInWords (length : Nat) (missing : List Nat) (buffer : Payload) :
    Nat → Nat → Nat → Option (Except SliceError Slices)
  | 0, _, offset => (sub? buffer.length offset).map fun surplus => .ok ⟨[], surplus⟩
  | count + 1, index, offset =>
    if index ∈ missing then
      (cutInWords length missing buffer count (index + 1) offset).map
        (Except.map (Slices.cons none))
    else
      (add64? offset length).bind fun stop =>
        if buffer.length < stop then
          some (.error (.bufferTooShort buffer.length index offset stop))
        else
          (cutInWords length missing buffer count (index + 1) stop).map
            (Except.map (Slices.cons (some (buffer.extract offset stop))))

/-- `sliceBatch` with every offset computed in 64-bit words. -/
def sliceInWords (length batchLength : Nat) (missing : List Nat) (buffer : Payload) :
    Option (Except SliceError Slices) :=
  match missing.find? (batchLength ≤ ·) with
  | some index => some (.error (.missingOutside index batchLength))
  | none => cutInWords length missing buffer batchLength 0 0

/-- While the offset lies in the buffer, words are wide enough for the offsets that follow. -/
theorem cutInWords_eq (fits : buffer.length + length < UInt64.size)
    (inside : offset ≤ buffer.length) :
    cutInWords length missing buffer count index offset =
      some (cut length buffer.length missing count index offset (buffer.drop offset)) := by
  induction count generalizing index offset with
  | zero =>
    rw [cutInWords, sub?, if_pos inside, cut, List.length_drop]
    rfl
  | succ count ih =>
    by_cases isMissing : index ∈ missing
    · rw [cutInWords, if_pos isMissing, ih inside, cut_absent isMissing]
      rfl
    · have noOverflow : offset + length < UInt64.size := by omega
      rw [cutInWords, if_neg isMissing, add64?, if_pos noOverflow, Option.bind_some]
      by_cases short : buffer.length < offset + length
      · have restShort : (buffer.drop offset).length < length := by
          rw [List.length_drop]; omega
        rw [if_pos short, cut_short isMissing restShort]
      · have restEnough : length ≤ (buffer.drop offset).length := by
          rw [List.length_drop]; omega
        rw [if_neg short, ih (by omega), cut_present isMissing restEnough, List.drop_drop,
          List.extract_eq_take_drop, Nat.add_sub_cancel_left]
        rfl

/-- No sum or difference of offsets leaves 64 bits, if the buffer and one more payload fit. -/
theorem sliceInWords_eq {batchLength : Nat} (fits : buffer.length + length < UInt64.size) :
    sliceInWords length batchLength missing buffer =
      some (sliceBatch length batchLength missing buffer) := by
  rw [sliceInWords, sliceBatch]
  cases missing.find? (batchLength ≤ ·) with
  | some index => rfl
  | none => exact cutInWords_eq fits (Nat.zero_le _)

end

end VoxelStream
