/-!
# Buckets

A dataset is cut into cubes of `bucketEdge` voxels on each axis, the *buckets*.  A bucket is the
unit of every transfer and of every texture budget.  Its payload is the raw bytes of its voxels,
`bucketVoxels` times the bytes of one voxel.
-/

namespace VoxelStream

/-- Voxels along one edge of a bucket. -/
def bucketEdge : Nat := 32

def bucketVoxels : Nat := bucketEdge * bucketEdge * bucketEdge

theorem bucketVoxels_eq : bucketVoxels = 32768 := rfl

/-- The raw bytes of one bucket, or of several in a row. -/
abbrev Payload := List UInt8

/-- Three 32-bit numbers, one per axis: a voxel position, a voxel scale or a volume's extent. -/
structure Vec3 where
  x : UInt32
  y : UInt32
  z : UInt32
deriving DecidableEq

/-- The three numbers in axis order. -/
def Vec3.toList (v : Vec3) : List UInt32 := [v.x, v.y, v.z]

@[simp] theorem Vec3.length_toList (v : Vec3) : v.toList.length = 3 := rfl

/-- The three numbers in brackets, separated by a comma and a blank. -/
def Vec3.text (v : Vec3) : String := s!"[{v.x}, {v.y}, {v.z}]"

end VoxelStream
