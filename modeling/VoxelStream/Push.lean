import VoxelStream.Dataset
import VoxelStream.FourBit
import VoxelStream.Notice

/-!
# Pushing edits

Edited buckets go to a save queue.  All edits of a batch make one *transaction*, so either every
edit of a batch reaches the queue or none does.  The items of a transaction are in the order of the
edits.

All that happens outside goes through `PushPorts`: encoding, the queue and notices.
-/

namespace VoxelStream

/-- Updates that are saved together. -/
structure Transaction where
  /-- What kind of updates these are. -/
  category : String
  /-- The updates, in the order of the edits. -/
  items : List BucketUpdate
deriving DecidableEq

/-- The category of bucket edits. -/
def volumeCategory : String := "volume"

/-- How pushing edits fails. -/
inductive PushError where
  /-- A payload could not be encoded. -/
  | worker (error : WorkerError)
  /-- The save queue refused the transaction. -/
  | queue (reason : String)
  /-- The zoom step of an address is not in the table. -/
  | unknownResolution (zoomStep : UInt32)
  /-- An address of the batch has no position, told by its text. -/
  | addressOutOfRange (address : String)
deriving DecidableEq

namespace PushError

def message : PushError → String
  | worker error => s!"Bucket encoding failed: {error.message}"
  | queue reason => s!"Save queue rejected the transaction: {reason}"
  | unknownResolution zoomStep => s!"No resolution known for zoom step {zoomStep}"
  | addressOutOfRange address => s!"Bucket {address} lies outside the addressable voxel range"

/-- The failure of a push at an address without a position. -/
def ofAddress : AddressError → PushError
  | .unknownResolution zoomStep => unknownResolution zoomStep
  | .outOfRange address => addressOutOfRange address

@[simp] theorem message_ofAddress (error : AddressError) :
    (ofAddress error).message = error.message := by cases error <;> rfl

end PushError

/-! ## Save queues in memory -/

/-- A save queue that keeps its transactions, oldest first, until they are drained. -/
structure SaveQueue where
  /-- The transactions that wait. -/
  waiting : List Transaction
deriving DecidableEq

namespace SaveQueue

def empty : SaveQueue := ⟨[]⟩

/-- The queue with one more transaction. -/
def submit (queue : SaveQueue) (transaction : Transaction) : SaveQueue :=
  ⟨queue.waiting ++ [transaction]⟩

/-- All transactions, and the queue without them. -/
def drain (queue : SaveQueue) : List Transaction × SaveQueue := (queue.waiting, empty)

end SaveQueue

/-! ## Pushing -/

/-- What pushing needs from its surroundings. -/
structure PushPorts (σ : Type) where
  /-- Writes a payload as text. -/
  encode : Payload → StateM σ (Except WorkerError String)
  /-- Hands a transaction to the save queue. -/
  submit : Transaction → StateM σ (Except PushError Unit)
  note : Notice → StateM σ Unit

/-- A bucket and its new payload. -/
abbrev Edit := BucketAddress × Payload

variable {σ : Type}

/-- The descriptors of the edited buckets, or the error of the first address that has no
position. -/
def editDescriptors (resolutions : Resolutions) :
    List Edit → Except AddressError (List BucketDescriptor)
  | [] => .ok []
  | (address, _) :: rest =>
    match address.descriptor resolutions with
    | .error e => .error e
    | .ok bucket =>
      match editDescriptors resolutions rest with
      | .error e => .error e
      | .ok buckets => .ok (bucket :: buckets)

/-- The texts of the payloads, or the error of the first one that cannot be encoded. -/
def encodeAll (ports : PushPorts σ) : List Edit → StateM σ (Except WorkerError (List String))
  | [] => return .ok []
  | (_, payload) :: rest => do
    match ← ports.encode payload with
    | .error e => return .error e
    | .ok text =>
      match ← encodeAll ports rest with
      | .error e => return .error e
      | .ok texts => return .ok (text :: texts)

/-- The updates of some buckets, each with its text. -/
def updatesOf (buckets : List BucketDescriptor) (texts : List String) : List BucketUpdate :=
  buckets.zipWith BucketUpdate.mk texts

/-- Pushes a batch of edits.  A batch without edits is no call of the queue. -/
def pushBatch (resolutions : Resolutions) (ports : PushPorts σ) (edits : List Edit) :
    StateM σ (Except PushError Unit) := do
  if edits.isEmpty then return .ok ()
  else
    match editDescriptors resolutions edits with
    | .error e => return .error (.ofAddress e)
    | .ok buckets =>
      match ← encodeAll ports edits with
      | .error e => return .error (.worker e)
      | .ok texts =>
        let items := updatesOf buckets texts
        ports.note (.updatesSubmitted items.length)
        ports.submit ⟨volumeCategory, items⟩

end VoxelStream
