import VoxelStream.Base64

/-!
# Four-bit transfer and codec errors

In *four-bit transfer* two voxels of one byte travel in one byte.  Only the high half of each
voxel is kept.  Packing needs an even number of voxels, and expanding gives each half back as the
high half of a byte.

`WorkerError` holds the failures of everything that runs on a codec worker.  A codec tells in words
what is wrong with its input.
-/

namespace VoxelStream

/-- How a job on a codec worker fails. -/
inductive WorkerError where
  /-- The job ended without a reply. -/
  | disconnected
  /-- The codec cannot work with its input. -/
  | invalidInput (reason : String)
  /-- The workers could not be started. -/
  | poolCreation (reason : String)
deriving DecidableEq

def WorkerError.message : WorkerError → String
  | disconnected => "Codec worker dropped the job before replying"
  | invalidInput reason => s!"Invalid codec input: {reason}"
  | poolCreation reason => s!"Failed to create codec pool: {reason}"

namespace FourBit

/-- The two voxels of a packed byte, each in the high half of its own byte. -/
def expandByte (byte : UInt8) : List UInt8 := [byte &&& (0xf0 : UInt8), byte <<< (4 : UInt8)]

/-- The byte that keeps the high halves of two voxels. -/
def packPair (first second : UInt8) : UInt8 :=
  (first &&& (0xf0 : UInt8)) ||| (second >>> (4 : UInt8))

/-- The voxels of packed data. -/
def decode (packed : List UInt8) : List UInt8 := packed.flatMap expandByte

/-- One voxel more in front: it waits for its partner, or it is packed with the one that waits. -/
def packStep (voxel : UInt8) : Option UInt8 × List UInt8 → Option UInt8 × List UInt8
  | (none, packed) => (some voxel, packed)
  | (some waiting, packed) => (none, packPair voxel waiting :: packed)

/-- Packs voxels from the last to the first.  An odd number of them leaves the first one
waiting. -/
def encode (voxels : List UInt8) : Except WorkerError (List UInt8) :=
  match voxels.foldr packStep (none, []) with
  | (none, packed) => .ok packed
  | (some _, _) =>
    .error (.invalidInput s!"four-bit packing needs an even voxel count, got {voxels.length}")

end FourBit

/-- The bytes of a base64 text, as a codec worker reads it. -/
def decodePayload (text : String) : Except WorkerError Payload :=
  match Base64.decode text with
  | .ok bytes => .ok bytes
  | .error e => .error (.invalidInput e.message)

end VoxelStream
