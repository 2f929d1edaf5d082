import VoxelStream.Notice
import VoxelStream.Store

/-!
# Cutting and joining answers

A buffer holds the payloads of the buckets that are not missing, one after the other.  Slicing cuts
it into one *piece* per bucket of the batch: the payload of a bucket that is there and nothing for a
missing one.  Only buckets that are there use up bytes.  Bytes beyond the last bucket are surplus.

The list of the pieces gets its room before the first is cut, and no list has room for more than
`maxPieces`.  `slice` takes a batch of any length and ends at once if it is longer.  `sliceBatch` is
for a batch that is itself held in memory, and so is far shorter.

`fill?` puts the pieces of a second answer into the places of the first that were missing.
-/

namespace VoxelStream

/-- The payload of a bucket, or nothing if it is missing. -/
abbrev Piece := Option Payload

/-- What is wrong with an answer. -/
inductive SliceError where
  /-- A missing index is no index of the batch. -/
  | missingOutside (index : Nat) (batchLength : Nat)
  /-- The buffer ends before the bytes of a bucket do. -/
  | bufferTooShort (held : Nat) (index : Nat) (start : Nat) (stop : Nat)
deriving DecidableEq

def SliceError.message : SliceError → String
  | missingOutside index batchLength =>
    s!"missing bucket index {index} outside of batch of {batchLength}"
  | bufferTooShort held index start stop =>
    s!"response holds {held} bytes, bucket {index} needs bytes {start}..{stop}"

/-- The pieces of an answer and the number of bytes beyond the last one. -/
structure Slices where
  /-- One piece per bucket. -/
  pieces : List Piece
  /-- Bytes beyond the last bucket. -/
  surplus : Nat
deriving DecidableEq

/-- One piece more in front. -/
def Slices.cons (piece : Piece) (slices : Slices) : Slices :=
  { slices with pieces := piece :: slices.pieces }

/-- Cuts the pieces of `count` buckets from the rest of a buffer of `held` bytes.  The first bucket
has the index `index` and the rest starts at `offset`. -/
def cut (length held : Nat) (missing : List Nat) :
    Nat → Nat → Nat → Payload → Except SliceError Slices
  | 0, _, _, rest => .ok ⟨[], rest.length⟩
  | count + 1, index, offset, rest =>
    if missing.contains index then
      (cut length held missing count (index + 1) offset rest).map (Slices.cons none)
    else
      let piece := rest.take length
      if piece.length < length then
        .error (.bufferTooShort held index offset (offset + length))
      else
        (cut length held missing count (index + 1) (offset + length) (rest.drop length)).map
          (Slices.cons (some piece))

/-- Cuts a buffer into the pieces of a batch that is held in memory.  Every missing index has to be
one of the batch. -/
def sliceBatch (length batchLength : Nat) (missing : List Nat) (buffer : Payload) :
    Except SliceError Slices :=
  match missing.find? (batchLength ≤ ·) with
  | some index => .error (.missingOutside index batchLength)
  | none => cut length buffer.length missing batchLength 0 0 buffer

/-! ## Batches of any length -/

/-- How slicing stops short of its pieces. -/
inductive SliceStop where
  /-- With an error for the caller. -/
  | failed (error : FetchError)
  /-- At a list that no memory has room for. -/
  | noRoom
deriving DecidableEq

/-- A wrong answer is told to the caller. -/
def SliceError.stop (error : SliceError) : SliceStop := .failed (.protocol error.message)

/-- The most pieces that a list has room for.  Each takes 24 bytes, and no list takes as many as
half of what 64-bit words can count. -/
def maxPieces : Nat := (UInt64.size / 2 - 1) / 24

/-- Cuts a buffer into the pieces of a batch.  The missing indices are looked at first, then the
list gets its room, and then the buffer is cut. -/
def slice (length batchLength : Nat) (missing : List Nat) (buffer : Payload) :
    Except SliceStop Slices :=
  match missing.find? (batchLength ≤ ·) with
  | some index => .error (SliceError.missingOutside index batchLength).stop
  | none =>
    if maxPieces < batchLength then .error .noRoom
    else (cut length buffer.length missing batchLength 0 0 buffer).mapError SliceError.stop

/-! ## Notices -/

/-- Surplus bytes are worth a notice. -/
def Slices.notices (slices : Slices) : List Notice :=
  if slices.surplus = 0 then [] else [.surplusBytes slices.surplus]

/-- The pieces of some slices, after their notices. -/
def Slices.noting {σ ε : Type} (note : Notice → StateM σ Unit) :
    Except ε Slices → StateM σ (Except ε (List Piece))
  | .error error => return .error error
  | .ok slices => do
    slices.notices.forM note
    return .ok slices.pieces

/-- Slicing as its caller sees it. -/
def sliceNoting {σ : Type} (note : Notice → StateM σ Unit) (length batchLength : Nat)
    (missing : List Nat) (buffer : Payload) : StateM σ (Except SliceStop (List Piece)) :=
  Slices.noting note (slice length batchLength missing buffer)

/-! ## Joining -/

/-- The indices of the pieces that are missing. -/
def missingIndices (pieces : List Piece) : List Nat :=
  (pieces.zipIdx.filter fun entry => entry.1.isNone).map (·.2)

/-- The items at some indices, if all are indices of the list. -/
def gather? (items : List α) (indices : List Nat) : Option (List α) :=
  indices.mapM fun index => items[index]?

/-- The list with some items put at their indices, one after the other, if all are indices of the
list. -/
def fill? (items : List α) : List (Nat × α) → Option (List α)
  | [] => some items
  | (index, item) :: rest =>
    if index < items.length then fill? (items.set index item) rest else none

/-- The pieces with those of a second answer put at the missing indices, position by position. -/
def mergeFallback? (pieces : List Piece) (missing : List Nat) (fallback : List Piece) :
    Option (List Piece) :=
  fill? pieces (missing.zip fallback)

end VoxelStream
