import VoxelStream.Bucket

/-!
# Bucket addresses

The buckets of one *zoom step* form a grid.  An address is a grid position and a zoom step.  A
table gives the voxel scale of each zoom step.  The *position* of a bucket is the voxel at its
origin in full resolution: grid coordinate times bucket edge times scale on each axis.  Positions
are 32-bit numbers, and an address whose position would be larger has none.
-/

namespace VoxelStream

/-- A bucket's place in the grid of one zoom step. -/
structure BucketAddress where
  x : UInt32
  y : UInt32
  z : UInt32
  /-- Index into the table of scales. -/
  zoomStep : UInt32
deriving DecidableEq

def BucketAddress.text (address : BucketAddress) : String :=
  s!"[{address.x}, {address.y}, {address.z}, {address.zoomStep}]"

/-- The voxel scale of each zoom step, full resolution first. -/
abbrev Resolutions := List Vec3

/-- Why an address has no position. -/
inductive AddressError where
  /-- The zoom step is not in the table. -/
  | unknownResolution (zoomStep : UInt32)
  /-- A coordinate of the position is no 32-bit number.  The address is told by its text. -/
  | outOfRange (address : String)
deriving DecidableEq

def AddressError.message : AddressError → String
  | unknownResolution zoomStep => s!"No resolution known for zoom step {zoomStep}"
  | outOfRange address => s!"Bucket {address} lies outside the addressable voxel range"

/-- A product that is still a 32-bit number. -/
def mul32? (a b : UInt32) : Option UInt32 :=
  if a.toNat * b.toNat < UInt32.size then some (a * b) else none

/-- The voxel coordinate of a grid coordinate.  Both products have to be 32-bit numbers, the one
before the scale is applied too. -/
def voxelCoordinate? (coordinate scale : UInt32) : Option UInt32 :=
  (mul32? coordinate (UInt32.ofNat bucketEdge)).bind (mul32? · scale)

namespace BucketAddress

/-- The voxel at the origin of a bucket. -/
def position (address : BucketAddress) (resolutions : Resolutions) : Except AddressError Vec3 :=
  match resolutions[address.zoomStep.toNat]? with
  | none => .error (.unknownResolution address.zoomStep)
  | some scale =>
    match voxelCoordinate? address.x scale.x, voxelCoordinate? address.y scale.y,
      voxelCoordinate? address.z scale.z with
    | some x, some y, some z => .ok ⟨x, y, z⟩
    | _, _, _ => .error (.outOfRange address.text)

end BucketAddress

/-! ## Descriptors -/

/-- What a store is told of a bucket: where it is and how large. -/
structure BucketDescriptor where
  /-- The voxel at the bucket's origin. -/
  position : Vec3
  zoomStep : UInt32
  /-- Voxels along one edge. -/
  cubeSize : UInt32
deriving DecidableEq

/-- A bucket asked for from a store. -/
structure BucketRequest where
  bucket : BucketDescriptor
  /-- Whether two voxels travel in one byte. -/
  fourBit : Bool
  /-- The version of the annotation, where there is one. -/
  version : Option UInt64
deriving DecidableEq

/-- A bucket's new payload, as text, for the save queue. -/
structure BucketUpdate where
  bucket : BucketDescriptor
  /-- The payload in base64. -/
  base64Data : String
deriving DecidableEq

namespace BucketAddress

def descriptor (address : BucketAddress) (resolutions : Resolutions) :
    Except AddressError BucketDescriptor :=
  match address.position resolutions with
  | .error e => .error e
  | .ok position => .ok ⟨position, address.zoomStep, UInt32.ofNat bucketEdge⟩

def request (address : BucketAddress) (resolutions : Resolutions) (fourBit : Bool)
    (version : Option UInt64) : Except AddressError BucketRequest :=
  match address.descriptor resolutions with
  | .error e => .error e
  | .ok bucket => .ok ⟨bucket, fourBit, version⟩

end BucketAddress

end VoxelStream
