import VoxelStream.Proofs.FetchRuns
import VoxelStream.Proofs.FourBitQuantization

/-!
# Expanding before and after slicing

Four-bit answers are expanded as a whole and then sliced.  Slicing the packed buffer into pieces of
half the length, and expanding each piece on its own, comes to the same (`sliceBatch_decode`).  One
packed byte is two voxels, so every cut of the voxels at an even offset is a cut of the packed bytes
(`take_decode`, `drop_decode`), and every number of bytes is doubled: the offsets of an error and
the surplus, too.

The buckets of every layer have an even length.  So this holds of every four-bit answer that a fetch
gets.
-/

namespace VoxelStream

/-! ## Slices of packed data -/

/-- The slices of a packed buffer, expanded: each payload on its own, and the surplus. -/
def Slices.expand (slices : Slices) : Slices :=
  ⟨slices.pieces.map (Option.map FourBit.decode), 2 * slices.surplus⟩

/-- What is wrong with a packed buffer, told of its voxels. -/
def SliceError.expand : SliceError → SliceError
  | missingOutside index batchLength => missingOutside index batchLength
  | bufferTooShort held index start stop =>
    bufferTooShort (2 * held) index (2 * start) (2 * stop)

/-- The outcome of slicing a packed buffer, expanded. -/
def expandOutcome (outcome : Except SliceError Slices) : Except SliceError Slices :=
  (outcome.map Slices.expand).mapError SliceError.expand

theorem expandOutcome_cons (piece : Piece) (outcome : Except SliceError Slices) :
    expandOutcome (outcome.map (Slices.cons piece)) =
      (expandOutcome outcome).map (Slices.cons (piece.map FourBit.decode)) := by
  cases outcome <;> rfl

theorem expandOutcome_eq_ok_iff {outcome : Except SliceError Slices} {slices : Slices} :
    expandOutcome outcome = .ok slices ↔
      ∃ packed, outcome = .ok packed ∧ packed.expand = slices := by
  cases outcome <;> simp [expandOutcome, Except.map, Except.mapError]

theorem cut_decode (half held : Nat) (missing : List Nat) (count index offset : Nat)
    (packed : Payload) :
    cut (2 * half) (2 * held) missing count index (2 * offset) (FourBit.decode packed) =
      expandOutcome (cut half held missing count index offset packed) := by
  induction count generalizing index offset packed with
  | zero =>
    rw [cut, cut, FourBit.length_decode]
    rfl
  | succ count ih =>
    by_cases isMissing : index ∈ missing
    · rw [cut_absent isMissing, cut_absent isMissing, ih, expandOutcome_cons]
      rfl
    · by_cases short : packed.length < half
      · have voxelsShort : (FourBit.decode packed).length < 2 * half := by
          rw [FourBit.length_decode]
          omega
        rw [cut_short isMissing short, cut_short isMissing voxelsShort, ← Nat.mul_add]
        rfl
      · have enough : half ≤ packed.length := by omega
        have voxelsEnough : 2 * half ≤ (FourBit.decode packed).length := by
          rw [FourBit.length_decode]
          omega
        rw [cut_present isMissing enough, cut_present isMissing voxelsEnough, expandOutcome_cons,
          ← Nat.mul_add, FourBit.drop_decode, FourBit.take_decode, ih]
        rfl

/-- Slicing expanded data is expanding sliced data. -/
theorem sliceBatch_decode {length : Nat} (even : length % 2 = 0) (batchLength : Nat)
    (missing : List Nat) (packed : Payload) :
    sliceBatch length batchLength missing (FourBit.decode packed) =
      expandOutcome (sliceBatch (length / 2) batchLength missing packed) := by
  have doubled : length = 2 * (length / 2) := by omega
  rw [sliceBatch, sliceBatch]
  cases missing.find? (batchLength ≤ ·) with
  | some index => rfl
  | none =>
    have whole := cut_decode (length / 2) packed.length missing batchLength 0 0 packed
    rwa [← doubled, ← FourBit.length_decode] at whole

/-- Room for the pieces does not depend on how the payloads travel. -/
theorem slice_decode_eq_ok_iff {length batchLength : Nat} {missing : List Nat} {packed : Payload}
    {voxels : Slices} (even : length % 2 = 0) :
    slice length batchLength missing (FourBit.decode packed) = .ok voxels ↔
      ∃ slices, slice (length / 2) batchLength missing packed = .ok slices ∧
        slices.expand = voxels := by
  rw [slice_eq_ok_iff, sliceBatch_decode even, expandOutcome_eq_ok_iff]
  simp only [slice_eq_ok_iff, and_assoc, exists_and_left]

/-! ## Four-bit answers -/

namespace Fetcher

/-- A four-bit answer is treated as if its packed buffer were sliced and each piece expanded. -/
theorem requestFrom_of_packed {σ : Type} {fetcher : Fetcher σ} {url : String} {layer : Layer}
    {batch : List BucketAddress} {requests : List BucketRequest} {answer : StoreAnswer}
    {before asked decoded : σ} (fourBit : fetcher.dataset.usesFourBit layer = true)
    (translated : batchRequests fetcher.dataset layer batch = .ok requests)
    (answered : fetcher.ask url requests before = (.ok answer, asked))
    (expanded : fetcher.ports.decode answer.buffer asked =
      (.ok (FourBit.decode answer.buffer), decoded)) :
    fetcher.requestFrom url layer batch before =
      match sliceBatch (layer.bucketByteLength / 2) batch.length answer.missing answer.buffer with
      | .error error => (.error (.protocol error.expand.message), decoded)
      | .ok slices =>
        (.ok slices.expand.pieces, (slices.expand.notices.forM fetcher.ports.note decoded).2) := by
  have voxels : fetcher.voxels layer answer.buffer asked =
      (.ok (FourBit.decode answer.buffer), decoded) := by
    rw [Fetcher.voxels, if_pos fourBit, expanded]
  rw [requestFrom, translated]
  show (fetcher.ask url _ >>= _) before = _
  rw [bind_run answered]
  show (fetcher.voxels layer _ >>= _) _ = _
  rw [bind_run voxels]
  show sliceAnswer _ _ _ _ _ decoded = _
  rw [sliceAnswer, sliceBatch_decode layer.even_bucketByteLength]
  cases sliceBatch (layer.bucketByteLength / 2) batch.length answer.missing answer.buffer <;> rfl

end Fetcher

/-- Expanding a buffer and slicing it succeeds exactly if slicing the packed buffer does, and comes
to the expanded pieces.  The length of every layer's buckets is even, so a request for four-bit data
comes to what slicing its packed answer comes to. -/
theorem slices_of_packed :
    (∀ (length batchLength : Nat) (missing : List Nat) (packed : Payload), length % 2 = 0 →
      ((∃ slices, slice length batchLength missing (FourBit.decode packed) = .ok slices) ↔
        ∃ slices, slice (length / 2) batchLength missing packed = .ok slices) ∧
      ∀ slices, slice (length / 2) batchLength missing packed = .ok slices →
        slice length batchLength missing (FourBit.decode packed) =
          .ok ⟨slices.pieces.map (Option.map FourBit.decode), 2 * slices.surplus⟩) ∧
    (∀ layer : Layer, layer.bucketByteLength % 2 = 0) ∧
    ∀ (σ : Type) (fetcher : Fetcher σ) (url : String) (layer : Layer) (batch : List BucketAddress)
      (requests : List BucketRequest) (answer : StoreAnswer) (before asked decoded : σ),
      fetcher.dataset.usesFourBit layer = true →
      batchRequests fetcher.dataset layer batch = .ok requests →
      fetcher.ask url requests before = (.ok answer, asked) →
      fetcher.ports.decode answer.buffer asked = (.ok (FourBit.decode answer.buffer), decoded) →
      fetcher.requestFrom url layer batch before =
        match sliceBatch (layer.bucketByteLength / 2) batch.length answer.missing answer.buffer with
        | .error error => (.error (.protocol error.expand.message), decoded)
        | .ok slices =>
          (.ok slices.expand.pieces,
            (slices.expand.notices.forM fetcher.ports.note decoded).2) := by
  refine ⟨?slices, Layer.even_bucketByteLength, ?answers⟩
  case slices =>
    intro length batchLength missing packed even
    have expands : ∀ slices, slice (length / 2) batchLength missing packed = .ok slices →
        slice length batchLength missing (FourBit.decode packed) = .ok slices.expand := by
      intro slices sliced
      exact (slice_decode_eq_ok_iff even).mpr ⟨slices, sliced, rfl⟩
    refine ⟨⟨?_, ?_⟩, expands⟩
    · rintro ⟨voxels, sliced⟩
      obtain ⟨slices, packedSliced, -⟩ := (slice_decode_eq_ok_iff even).mp sliced
      exact ⟨slices, packedSliced⟩
    · rintro ⟨slices, sliced⟩
      exact ⟨slices.expand, expands slices sliced⟩
  case answers =>
    intro σ fetcher url layer batch requests answer before asked decoded fourBit translated answered
      expanded
    exact Fetcher.requestFrom_of_packed fourBit translated answered expanded

/-- A color layer in four-bit transfer whose store lacks the first bucket of every batch and sends
one packed byte. -/
def packedFetcher : Fetcher Unit :=
  { dataset := { fourBit := true }
    ports := answeringPorts fun _ => ⟨[0xab], [0]⟩ }

/-- Four voxels travel in two bytes, and the packed byte after them is two voxels of surplus. -/
theorem slices_of_packed_surplus :
    slice 2 3 [1] [0xab, 0xcd, 0x12, 0x34, 0x56] =
        .ok ⟨[some [0xab, 0xcd], none, some [0x12, 0x34]], 1⟩ ∧
      slice 4 3 [1] (FourBit.decode [0xab, 0xcd, 0x12, 0x34, 0x56]) =
        .ok ⟨[some [0xa0, 0xb0, 0xc0, 0xd0], none, some [0x10, 0x20, 0x30, 0x40]], 2⟩ ∧
      packedFetcher.dataset.usesFourBit (.color "color" .uint8) = true ∧
      packedFetcher.requestFrom "store" (.color "color" .uint8) [⟨0, 0, 0, 0⟩] () =
        (.ok [none], ()) := by
  have sliced : slice 2 3 [1] [0xab, 0xcd, 0x12, 0x34, 0x56] =
      .ok ⟨[some [0xab, 0xcd], none, some [0x12, 0x34]], 1⟩ := by decide
  have fourBit : packedFetcher.dataset.usesFourBit (.color "color" .uint8) = true := by decide
  obtain ⟨slices, -, answers⟩ := slices_of_packed
  obtain ⟨-, expands⟩ := slices 4 3 [1] [0xab, 0xcd, 0x12, 0x34, 0x56] (by decide)
  refine ⟨sliced, expands _ sliced, fourBit, ?_⟩
  exact answers Unit packedFetcher "store" (.color "color" .uint8) [⟨0, 0, 0, 0⟩]
    [⟨⟨⟨0, 0, 0⟩, 0, 32⟩, true, none⟩] ⟨[0xab], [0]⟩ () () () fourBit (by decide) rfl rfl

end VoxelStream
