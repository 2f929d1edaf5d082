import VoxelStream.Dataset
import VoxelStream.Slices
import VoxelStream.TokenScope

/-!
# Fetching buckets

A batch of addresses becomes one request to the store that has the layer.  The answer is cut into
one piece per address, in the order of the batch.  If the layer is edited on the tracing store and
its annotation has a fallback layer, the buckets that are missing there are asked for once more, at
that layer of the data store.

All that happens outside goes through `FetchPorts`: tokens, requests, decoding and notices.
Four-bit answers are expanded as a whole before they are cut.  The batch is a list in memory, so
there is room for its pieces.

An index that is none of its list would end a fetch at once.  `FetchStop` tells this apart from the
errors that a caller is told.
-/

namespace VoxelStream

/-- What fetching needs from its surroundings. -/
structure FetchPorts (σ : Type) extends TokenPorts σ where
  /-- Asks a store. -/
  request : StoreRequest → StateM σ (Except FetchError StoreAnswer)
  /-- Expands four-bit data. -/
  decode : Payload → StateM σ (Except WorkerError Payload)

/-- How a fetch stops short of its pieces. -/
inductive FetchStop where
  /-- With an error for the caller. -/
  | failed (error : FetchError)
  /-- At an index that is none of its list. -/
  | indexOutside
deriving DecidableEq

/-- Fetches the buckets of a dataset. -/
structure Fetcher (σ : Type) where
  dataset : Dataset
  ports : FetchPorts σ
  /-- How long one request may take. -/
  timeoutMs : Nat := 30000

variable {σ : Type}

/-- The requests for the buckets of a batch, or the error of the first address that has no
position. -/
def batchRequests (dataset : Dataset) (layer : Layer) :
    List BucketAddress → Except FetchError (List BucketRequest)
  | [] => .ok []
  | address :: rest =>
    match address.request dataset.resolutions (dataset.usesFourBit layer)
        (dataset.requestVersion layer) with
    | .error e => .error (.ofAddress e)
    | .ok request =>
      match batchRequests dataset layer rest with
      | .error e => .error e
      | .ok requests => .ok (request :: requests)

/-- The pieces of an answer to a batch, with a notice if there are surplus bytes. -/
def sliceAnswer (note : Notice → StateM σ Unit) (length batchLength : Nat) (missing : List Nat)
    (buffer : Payload) : StateM σ (Except FetchError (List Piece)) :=
  Slices.noting note
    ((sliceBatch length batchLength missing buffer).mapError fun e => .protocol e.message)

namespace Fetcher

/-- The voxels of an answer's buffer. -/
def voxels (fetcher : Fetcher σ) (layer : Layer) (buffer : Payload) :
    StateM σ (Except WorkerError Payload) :=
  if fetcher.dataset.usesFourBit layer then fetcher.ports.decode buffer else pure (.ok buffer)

/-- Fetches a batch of a layer from one place of one store. -/
def requestFrom (fetcher : Fetcher σ) (url : String) (layer : Layer)
    (batch : List BucketAddress) : StateM σ (Except FetchError (List Piece)) := do
  match batchRequests fetcher.dataset layer batch with
  | .error e => return .error e
  | .ok requests =>
    match ← withToken fetcher.ports.toTokenPorts fun token =>
        fetcher.ports.request ⟨url, token, requests, fetcher.timeoutMs⟩ with
    | .error e => return .error e
    | .ok answer =>
      match ← fetcher.voxels layer answer.buffer with
      | .error e => return .error (.worker e)
      | .ok buffer =>
        sliceAnswer fetcher.ports.note layer.bucketByteLength batch.length answer.missing buffer

/-- The layer to ask for missing pieces: the fallback layer, if the layer is edited and something
is missing. -/
def fallbackFor (dataset : Dataset) (layer : Layer) (pieces : List Piece) : Option String :=
  if dataset.isEdited layer && !(missingIndices pieces).isEmpty then dataset.fallbackLayer
  else none

/-- Puts the pieces of the fallback layer at the places that are missing. -/
def askFallback (fetcher : Fetcher σ) (layer : Layer) (batch : List BucketAddress)
    (pieces : List Piece) (fallback : String) : StateM σ (Except FetchStop (List Piece)) := do
  let missing := missingIndices pieces
  fetcher.ports.note (.fallbackAsked missing.length batch.length fallback)
  match gather? batch missing with
  | none => return .error .indexOutside
  | some addresses =>
    match ← fetcher.requestFrom (fetcher.dataset.dataStoreLayerUrl fallback) layer addresses with
    | .error e => return .error (.failed e)
    | .ok found =>
      match mergeFallback? pieces missing found with
      | none => return .error .indexOutside
      | some merged => return .ok merged

/-- Fetches a batch of a layer: one piece per address. -/
def fetch (fetcher : Fetcher σ) (layer : Layer) (batch : List BucketAddress) :
    StateM σ (Except FetchStop (List Piece)) := do
  match ← fetcher.requestFrom (fetcher.dataset.layerUrl layer) layer batch with
  | .error e => return .error (.failed e)
  | .ok pieces =>
    match fallbackFor fetcher.dataset layer pieces with
    | none => return .ok pieces
    | some fallback => fetcher.askFallback layer batch pieces fallback

end Fetcher

end VoxelStream
