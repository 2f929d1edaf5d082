import VoxelStream.Proofs.FetchRuns
import Mathlib.Order.Nat

/-!
# Where the payloads are

The *rank* of an index is the number of indices before it that are not missing.  In the buffer of an
answer the payload of a bucket follows the payloads that its rank counts, so it starts at the rank
times the length of one payload (`pieceAt`).

`cut` computes no ranks.  It carries an offset along, which is the rank times the length at every
bucket it comes to (`cutFrom_succ`).  So it either gives each bucket its piece (`cutFrom_of_fits`)
or stops at the first bucket whose bytes are not all there (`cutFrom_of_short`).  Which of the two
it is depends on the rank of the whole batch alone (`exists_first_short`).
-/

namespace VoxelStream

/-! ## Ranks -/

/-- How many buckets before an index are not missing. -/
def rank (missing : List Nat) (index : Nat) : Nat := (List.range index).countP (· ∉ missing)

/-- The piece of a bucket: nothing if it is missing, else the bytes after those of all buckets that
come before it and are not missing. -/
def pieceAt (length : Nat) (missing : List Nat) (buffer : Payload) (index : Nat) : Piece :=
  if index ∈ missing then none
  else some (buffer.extract (rank missing index * length) ((rank missing index + 1) * length))

section

variable {length index count : Nat} {missing : List Nat} {buffer : Payload}

@[simp] theorem rank_zero (missing : List Nat) : rank missing 0 = 0 := rfl

theorem rank_succ_of_mem (isMissing : index ∈ missing) :
    rank missing (index + 1) = rank missing index := by
  simp [rank, List.range_succ, isMissing]

theorem rank_succ_of_notMem (notMissing : index ∉ missing) :
    rank missing (index + 1) = rank missing index + 1 := by
  simp [rank, List.range_succ, notMissing]

theorem rank_mono (missing : List Nat) {first second : Nat} (ordered : first ≤ second) :
    rank missing first ≤ rank missing second := by
  induction ordered with
  | refl => exact Nat.le_refl _
  | @step later _ ih =>
    by_cases isMissing : later ∈ missing
    · rwa [rank_succ_of_mem isMissing]
    · rw [rank_succ_of_notMem isMissing]
      exact Nat.le_succ_of_le ih

/-! ## Cutting at the ranks -/

/-- Cuts the pieces of `count` buckets from the place in the buffer where the first one starts. -/
def cutFrom (length held : Nat) (missing : List Nat) (buffer : Payload) (count index : Nat) :
    Except SliceError Slices :=
  cut length held missing count index (rank missing index * length)
    (buffer.drop (rank missing index * length))

/-- The rest after some payloads holds another one exactly if the buffer holds one more. -/
theorem le_length_drop_iff {start : Nat} :
    length ≤ (buffer.drop (start * length)).length ↔ (start + 1) * length ≤ buffer.length := by
  rw [List.length_drop, Nat.succ_mul]
  cases length with
  | zero => simp
  | succ length => omega

/-- A bucket whose bytes are all there gets its piece, and the next one starts where its own rank
says. -/
theorem cutFrom_succ (held count : Nat)
    (holds : index ∉ missing → (rank missing index + 1) * length ≤ buffer.length) :
    cutFrom length held missing buffer (count + 1) index =
      (cutFrom length held missing buffer count (index + 1)).map
        (Slices.cons (pieceAt length missing buffer index)) := by
  rw [cutFrom, cutFrom, pieceAt]
  by_cases isMissing : index ∈ missing
  · rw [cut_absent isMissing, rank_succ_of_mem isMissing, if_pos isMissing]
  · rw [cut_present isMissing (le_length_drop_iff.mpr (holds isMissing)),
      rank_succ_of_notMem isMissing, if_neg isMissing, List.drop_drop, Nat.succ_mul,
      List.extract_eq_take_drop, Nat.add_sub_cancel_left]

/-- If the buffer holds the bytes of all buckets, each gets its piece. -/
theorem cutFrom_of_fits (held : Nat)
    (fits : rank missing (index + count) * length ≤ buffer.length) :
    cutFrom length held missing buffer count index =
      .ok ⟨(List.range' index count).map (pieceAt length missing buffer),
        buffer.length - rank missing (index + count) * length⟩ := by
  induction count generalizing index with
  | zero =>
    rw [cutFrom, cut, List.length_drop]
    rfl
  | succ count ih =>
    have shifted : index + (count + 1) = index + 1 + count := by omega
    rw [shifted] at fits ⊢
    have holds : index ∉ missing → (rank missing index + 1) * length ≤ buffer.length := by
      intro notMissing
      have later := rank_mono missing (Nat.le_add_right (index + 1) count)
      rw [rank_succ_of_notMem notMissing] at later
      exact (Nat.mul_le_mul_right length later).trans fits
    rw [cutFrom_succ held count holds, ih fits, List.range'_succ]
    rfl

/-- Cutting stops at the first bucket whose bytes are not all there. -/
theorem cutFrom_of_short (held : Nat) {short : Nat} (notMissing : short ∉ missing)
    (runsOver : buffer.length < (rank missing short + 1) * length)
    (earlier : ∀ other < short, other ∉ missing →
      (rank missing other + 1) * length ≤ buffer.length)
    (reached : index ≤ short) (inside : short < index + count) :
    cutFrom length held missing buffer count index =
      .error (.bufferTooShort held short (rank missing short * length)
        ((rank missing short + 1) * length)) := by
  induction count generalizing index with
  | zero => omega
  | succ count ih =>
    by_cases here : index = short
    · subst here
      have restShort : (buffer.drop (rank missing index * length)).length < length := by
        rwa [← Nat.not_le, le_length_drop_iff, Nat.not_le]
      rw [cutFrom, cut_short notMissing restShort, Nat.succ_mul]
    · -- A bucket before the short one is missing or whole, so cutting goes on behind it.
      have before : index < short := by omega
      rw [cutFrom_succ held count (earlier index before), ih before (by omega)]
      rfl

/-- If the bytes of all buckets are more than there are, some bucket is the first that runs over the
end. -/
theorem exists_first_short {held : Nat} (short : held < rank missing count * length) :
    ∃ index < count,
      IsLeast {index | index ∉ missing ∧ held < (rank missing index + 1) * length} index := by
  have someShort : ∃ index < count, index ∉ missing ∧ held < (rank missing index + 1) * length := by
    induction count with
    | zero => simp at short
    | succ count ih =>
      by_cases isMissing : count ∈ missing
      · rw [rank_succ_of_mem isMissing] at short
        obtain ⟨index, inside, found⟩ := ih short
        exact ⟨index, Nat.lt_succ_of_lt inside, found⟩
      · rw [rank_succ_of_notMem isMissing] at short
        exact ⟨count, Nat.lt_succ_self count, isMissing, short⟩
  obtain ⟨candidate, inside, overEnd⟩ := someShort
  have reached : ∃ index, index ∉ missing ∧ held < (rank missing index + 1) * length :=
    ⟨candidate, overEnd⟩
  have least := Nat.isLeast_find reached
  exact ⟨_, (least.2 overEnd).trans_lt inside, least⟩

/-! ## Slicing at the ranks -/

variable {batchLength : Nat}

/-- The first index outside of the batch decides, however long the batch is. -/
theorem slice_of_outside {earlier later : List Nat}
    (inside : ∀ other ∈ earlier, other < batchLength) (outside : batchLength ≤ index) :
    slice length batchLength (earlier ++ index :: later) buffer =
      .error (SliceError.missingOutside index batchLength).stop := by
  have found : (earlier ++ index :: later).find? (batchLength ≤ ·) = some index := by
    rw [List.find?_append, find?_outside_eq_none_iff.mpr inside, Option.none_or]
    exact List.find?_cons_of_pos (decide_eq_true outside)
  rw [slice, found]

/-- With no index outside, slicing cuts from the start of the buffer. -/
theorem slice_eq_cutFrom (inside : ∀ index ∈ missing, index < batchLength)
    (room : batchLength ≤ maxPieces) :
    slice length batchLength missing buffer =
      (cutFrom length buffer.length missing buffer batchLength 0).mapError SliceError.stop := by
  rw [slice_of_room room, sliceBatch, find?_outside_eq_none_iff.mpr inside, cutFrom, rank_zero,
    Nat.zero_mul, List.drop_zero]

theorem slice_of_fits (inside : ∀ index ∈ missing, index < batchLength)
    (room : batchLength ≤ maxPieces) (fits : rank missing batchLength * length ≤ buffer.length) :
    slice length batchLength missing buffer =
      .ok ⟨(List.range batchLength).map (pieceAt length missing buffer),
        buffer.length - rank missing batchLength * length⟩ := by
  rw [← Nat.zero_add batchLength] at fits
  rw [slice_eq_cutFrom inside room, cutFrom_of_fits buffer.length fits, Nat.zero_add,
    ← List.range_eq_range']
  rfl

theorem slice_of_short (inside : ∀ index ∈ missing, index < batchLength)
    (room : batchLength ≤ maxPieces) (before : index < batchLength)
    (first : IsLeast {index | index ∉ missing ∧ buffer.length < (rank missing index + 1) * length}
      index) :
    slice length batchLength missing buffer =
      .error (SliceError.bufferTooShort buffer.length index (rank missing index * length)
        ((rank missing index + 1) * length)).stop := by
  have earlier : ∀ other < index, other ∉ missing →
      (rank missing other + 1) * length ≤ buffer.length := by
    intro other smaller notMissing
    by_contra runsOver
    exact Nat.not_le_of_lt smaller (first.2 ⟨notMissing, Nat.lt_of_not_le runsOver⟩)
  rw [← Nat.zero_add batchLength] at before
  rw [slice_eq_cutFrom inside room,
    cutFrom_of_short buffer.length first.1.1 first.1.2 earlier (Nat.zero_le index) before]
  rfl

end

/-! ## Pieces that were sent -/

/-- The payloads of the pieces that are there, one after the other. -/
def payloads (pieces : List Piece) : Payload := pieces.flatMap (·.getD [])

section

variable {length index : Nat} {missing : List Nat} {pieces : List Piece}

theorem cuts_payloads (sized : ∀ payload, some payload ∈ pieces → payload.length = length)
    (listed : ∀ i < pieces.length, index + i ∈ missing ↔ pieces[i]? = some none)
    (surplus : Payload) :
    Cuts length missing index (payloads pieces ++ surplus) pieces surplus := by
  induction pieces generalizing index with
  | nil => exact .done
  | cons piece rest ih =>
    have sizedLater : ∀ payload, some payload ∈ rest → payload.length = length :=
      fun payload member => sized payload (List.mem_cons_of_mem _ member)
    have listedLater : ∀ i < rest.length, index + 1 + i ∈ missing ↔ rest[i]? = some none := by
      intro i inside
      rw [Nat.add_right_comm]
      exact listed (i + 1) (Nat.succ_lt_succ inside)
    have here := listed 0 (Nat.succ_pos _)
    rw [Nat.add_zero, List.getElem?_cons_zero, Option.some.injEq] at here
    have later := ih sizedLater listedLater
    cases piece with
    | none => exact .absent (here.mpr rfl) later
    | some payload =>
      have notMissing : index ∉ missing := fun isMissing => nomatch here.mp isMissing
      have whole := Cuts.present notMissing (sized payload List.mem_cons_self) later
      rwa [← List.append_assoc] at whole

/-- Slicing gives back the pieces that were sent. -/
theorem slice_payloads (sized : ∀ payload, some payload ∈ pieces → payload.length = length)
    (listed : ∀ i, i ∈ missing ↔ pieces[i]? = some none) (room : pieces.length ≤ maxPieces)
    (surplus : Payload) :
    slice length pieces.length missing (payloads pieces ++ surplus) =
      .ok ⟨pieces, surplus.length⟩ := by
  have cuts : Cuts length missing 0 (payloads pieces ++ surplus) pieces surplus :=
    cuts_payloads sized (fun i _ => by rw [Nat.zero_add, listed]) surplus
  have inside : ∀ index ∈ missing, index < pieces.length := fun index isMissing =>
    (List.getElem?_eq_some_iff.mp ((listed index).mp isMissing)).1
  exact slice_eq_ok_iff.mpr
    ⟨room, sliceBatch_eq_ok_iff.mpr ⟨inside, surplus, cuts, rfl, rfl⟩⟩

end

/-! ## What a caller sees -/

section

variable {σ : Type} {note : Notice → StateM σ Unit} {length batchLength : Nat}
  {missing : List Nat} {buffer : Payload} {before : σ}

/-- An outcome without pieces has no notices. -/
theorem sliceNoting_of_error {stop : SliceStop}
    (stopped : slice length batchLength missing buffer = .error stop) :
    sliceNoting note length batchLength missing buffer before = (.error stop, before) := by
  rw [sliceNoting, stopped]
  rfl

/-- There is one notice if there are surplus bytes, and none otherwise. -/
theorem sliceNoting_of_ok {slices : Slices}
    (sliced : slice length batchLength missing buffer = .ok slices) :
    sliceNoting note length batchLength missing buffer before =
      (.ok slices.pieces,
        if slices.surplus = 0 then before
        else (note (.surplusBytes slices.surplus) before).2) := by
  rw [sliceNoting, sliced]
  show (_, (slices.notices.forM note before).2) = _
  rw [Slices.notices]
  split
  · rfl
  · rfl

/-- Slicing the answer to a batch, as its caller sees it. -/
structure SlicesAtRanks (note : Notice → StateM σ Unit) (length batchLength : Nat)
    (missing : List Nat) (buffer : Payload) (before : σ) : Prop where
  /-- Every offset is a 64-bit number. -/
  inWords : batchLength ≤ maxPieces →
    (sliceInWords length batchLength missing buffer).map (Except.mapError SliceError.stop) =
      some (slice length batchLength missing buffer)
  /-- The first index on the list that is none of the batch is an error, whatever the buffer and
  however long the batch. -/
  outside : ∀ earlier index later, missing = earlier ++ index :: later →
    (∀ other ∈ earlier, other < batchLength) → batchLength ≤ index →
    sliceNoting note length batchLength missing buffer before =
      (.error (.failed (.protocol
        s!"missing bucket index {index} outside of batch of {batchLength}")), before)
  /-- Else slicing ends at once if no list has room for the pieces. -/
  noRoom : (∀ index ∈ missing, index < batchLength) → maxPieces < batchLength →
    sliceNoting note length batchLength missing buffer before = (.error .noRoom, before)
  /-- Else the buckets get their pieces if their bytes are all there, and surplus bytes are worth a
  notice. -/
  pieces : (∀ index ∈ missing, index < batchLength) → batchLength ≤ maxPieces →
    rank missing batchLength * length ≤ buffer.length →
    sliceNoting note length batchLength missing buffer before =
      (.ok ((List.range batchLength).map (pieceAt length missing buffer)),
        if buffer.length - rank missing batchLength * length = 0 then before
        else (note (.surplusBytes (buffer.length - rank missing batchLength * length)) before).2)
  /-- And if not, the first bucket whose bytes run over the end is an error. -/
  tooShort : (∀ index ∈ missing, index < batchLength) → batchLength ≤ maxPieces →
    buffer.length < rank missing batchLength * length →
    ∃ index start stop, index < batchLength ∧
      IsLeast {index | index ∉ missing ∧ buffer.length < (rank missing index + 1) * length} index ∧
      start = rank missing index * length ∧ stop = (rank missing index + 1) * length ∧
      sliceNoting note length batchLength missing buffer before =
        (.error (.failed (.protocol
          s!"response holds {buffer.length} bytes, bucket {index} needs bytes {start}..{stop}")),
          before)

end

/-- Slicing accepts exactly the answers whose buffer holds all that is not missing, and cuts them at
the ranks, as long as a list has room for the pieces.  So it gives back what a store has put
together. -/
theorem slices_at_ranks {σ : Type} (note : Notice → StateM σ Unit) (length : Nat) (before : σ) :
    (∀ (batchLength : Nat) (missing : List Nat) (buffer : Payload),
      buffer.length + length < UInt64.size →
      SlicesAtRanks note length batchLength missing buffer before) ∧
    ∀ (pieces : List Piece) (missing : List Nat), pieces.length ≤ maxPieces →
      (∀ payload, some payload ∈ pieces → payload.length = length) →
      (∀ index, index ∈ missing ↔ pieces[index]? = some none) →
      sliceNoting note length pieces.length missing (payloads pieces) before =
        (.ok pieces, before) := by
  refine ⟨fun batchLength missing buffer fits =>
    ⟨?words, ?outside, ?noRoom, ?pieces, ?short⟩, ?sent⟩
  case words =>
    intro room
    rw [sliceInWords_eq fits, slice_of_room room]
    rfl
  case outside =>
    rintro earlier index later rfl inside outside
    exact sliceNoting_of_error (slice_of_outside inside outside)
  case noRoom =>
    intro inside noRoom
    exact sliceNoting_of_error (slice_of_noRoom inside noRoom)
  case pieces =>
    intro inside room enough
    exact sliceNoting_of_ok (slice_of_fits inside room enough)
  case short =>
    intro inside room short
    obtain ⟨index, below, first⟩ := exists_first_short short
    exact ⟨index, _, _, below, first, rfl, rfl,
      sliceNoting_of_error (slice_of_short inside room below first)⟩
  case sent =>
    intro pieces missing room sized listed
    have sliced := slice_payloads sized listed room []
    rw [List.append_nil] at sliced
    exact sliceNoting_of_ok sliced

/-- Keeps notices, newest first. -/
def keepNotice (notice : Notice) : StateM (List Notice) Unit := modify (notice :: ·)

/-- The second bucket is missing, so the third takes the bytes of rank one, and the last byte is
noticed.  Without that byte the buffer is what a store has put together from the pieces. -/
theorem slices_at_ranks_surplus :
    ([1, 2, 5, 6, 9] : Payload).length + 2 < UInt64.size ∧
      sliceNoting keepNotice 2 3 [1, 1] [1, 2, 5, 6, 9] [] =
        (.ok [some [1, 2], none, some [5, 6]], [.surplusBytes 1]) ∧
      payloads [some [1, 2], none, some [5, 6]] = [1, 2, 5, 6] ∧
      sliceNoting keepNotice 2 3 [1, 1] [1, 2, 5, 6] [] =
        (.ok [some [1, 2], none, some [5, 6]], []) := by
  have fits : ([1, 2, 5, 6, 9] : Payload).length + 2 < UInt64.size := by decide
  obtain ⟨slices, undoes⟩ := slices_at_ranks keepNotice 2 []
  have listed : ∀ index, index ∈ [1, 1] ↔
      ([some [1, 2], none, some [5, 6]] : List Piece)[index]? = some none := by
    intro index
    match index with
    | 0 | 1 | 2 => decide
    | _ + 3 => simp
  exact ⟨fits, (slices 3 [1, 1] _ fits).pieces (by decide) (by decide) (by decide), rfl,
    undoes [some [1, 2], none, some [5, 6]] [1, 1] (by decide) (by simp) listed⟩

/-- The room matters: the empty buffer is one byte short of the first bucket of one byte, but the
longest batch has no list of pieces, and no error says that bytes are missing. -/
theorem slice_without_room :
    ([] : Payload).length + 1 < UInt64.size ∧
      (∀ index ∈ ([] : List Nat), index < largest64) ∧
      ([] : Payload).length < rank [] largest64 * 1 ∧
      IsLeast {index | index ∉ ([] : List Nat) ∧
        ([] : Payload).length < (rank [] index + 1) * 1} 0 ∧
      sliceNoting keepNotice 1 largest64 [] [] [] = (.error .noRoom, []) ∧
      sliceNoting keepNotice 1 largest64 [] [] [] ≠
        (.error (.failed (.protocol "response holds 0 bytes, bucket 0 needs bytes 0..1")), []) := by
  have noneMissing : ∀ index ∈ ([] : List Nat), index < largest64 := nofun
  have noRoom : maxPieces < largest64 := by decide
  have stopped : sliceNoting keepNotice 1 largest64 [] [] [] = (.error .noRoom, []) :=
    sliceNoting_of_error (slice_of_noRoom noneMissing noRoom)
  refine ⟨by decide, noneMissing, ?short, ?first, stopped, ?told⟩
  case short =>
    have positive : 0 < largest64 := Nat.zero_lt_of_lt noRoom
    simpa [rank] using positive
  case first =>
    exact ⟨⟨nofun, Nat.succ_pos _⟩, fun _ _ => Nat.zero_le _⟩
  case told =>
    rw [stopped]
    nofun

end VoxelStream
