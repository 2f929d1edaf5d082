import VoxelStream.Address
import VoxelStream.FourBit

/-!
# Stores

A store answers one request for a batch of buckets at a time.  Its answer is a buffer, the payloads
of the buckets it has in the order of the request, and the list of those it lacks, by their index
in the batch.

`FetchError` holds everything that can go wrong on the way to the payloads.  Only a request that
was not authorized is worth another attempt with a fresh token.
-/

namespace VoxelStream

/-- One request to a store. -/
structure StoreRequest where
  url : String
  token : String
  batch : List BucketRequest
  timeoutMs : Nat
deriving DecidableEq

/-- The answer to a request. -/
structure StoreAnswer where
  /-- The payloads of the buckets that are there, one after the other. -/
  buffer : Payload
  /-- The indices of the buckets that are missing. -/
  missing : List Nat
deriving DecidableEq

/-- Why there is no access token. -/
inductive AuthError where
  | unavailable (reason : String)
deriving DecidableEq

def AuthError.message : AuthError → String
  | unavailable reason => s!"Access token unavailable: {reason}"

/-- How fetching buckets fails. -/
inductive FetchError where
  /-- The request did not get through. -/
  | http (reason : String)
  /-- The store refused the request with a status. -/
  | httpStatus (status : Nat)
  /-- The store did not accept the token. -/
  | unauthorized (status : Nat)
  /-- The answer took too long. -/
  | timeout (timeoutMs : Nat)
  /-- The answer makes no sense. -/
  | protocol (reason : String)
  /-- The payloads could not be decoded. -/
  | worker (error : WorkerError)
  /-- The zoom step of an address is not in the table. -/
  | unknownResolution (zoomStep : UInt32)
  /-- An address of the batch has no position, told by its text. -/
  | addressOutOfRange (address : String)
  /-- The dataset has no such layer. -/
  | unknownLayer (name : String)
  /-- There is no token. -/
  | auth (error : AuthError)
deriving DecidableEq

namespace FetchError

def message : FetchError → String
  | http reason => s!"Bucket request failed: {reason}"
  | httpStatus status => s!"Bucket request failed with HTTP status {status}"
  | unauthorized status => s!"Bucket request was not authorized (HTTP status {status})"
  | timeout timeoutMs => s!"Bucket request timed out after {timeoutMs} ms"
  | protocol reason => s!"Unexpected bucket response: {reason}"
  | worker error => s!"Bucket decoding failed: {error.message}"
  | unknownResolution zoomStep => s!"No resolution known for zoom step {zoomStep}"
  | addressOutOfRange address => s!"Bucket {address} lies outside the addressable voxel range"
  | unknownLayer name => s!"Dataset has no layer named {name}"
  | auth error => error.message

/-- The failure of a fetch at an address without a position. -/
def ofAddress : AddressError → FetchError
  | .unknownResolution zoomStep => unknownResolution zoomStep
  | .outOfRange address => addressOutOfRange address

@[simp] theorem message_ofAddress (error : AddressError) :
    (ofAddress error).message = error.message := by cases error <;> rfl

/-- Whether a fresh token may help. -/
def isAuthorizationFailure : FetchError → Bool
  | unauthorized _ => true
  | _ => false

end FetchError

end VoxelStream
