import VoxelStream.Bucket

/-!
# Layers

A dataset is a list of *layers*.  A layer holds one voxel value per position.  Its *element class*
fixes how many bytes a value takes, and its *category* says whether the values are intensities or
segment ids.  Layers are told apart by their names.
-/

namespace VoxelStream

/-! ## Element classes -/

/-- The type of one voxel value. -/
inductive ElementClass where
  | uint8 | uint16 | uint24 | uint32 | uint64
  | int8 | int16 | int32 | int64
  | float | double
deriving DecidableEq

namespace ElementClass

def all : List ElementClass :=
  [uint8, uint16, uint24, uint32, uint64, int8, int16, int32, int64, float, double]

theorem mem_all (c : ElementClass) : c ∈ all := by cases c <;> decide

/-- Bytes of one value. -/
def byteCount : ElementClass → UInt32
  | uint8 | int8 => 1
  | uint16 | int16 => 2
  | uint24 => 3
  | uint32 | int32 | float => 4
  | uint64 | int64 | double => 8

/-- Only single-precision values are kept in float textures. -/
def isFloat (c : ElementClass) : Bool := c == float

/-- The place of a class in the fixed order. -/
def ordinal : ElementClass → Nat
  | uint8 => 0 | uint16 => 1 | uint24 => 2 | uint32 => 3 | uint64 => 4
  | int8 => 5 | int16 => 6 | int32 => 7 | int64 => 8
  | float => 9 | double => 10

def name : ElementClass → String
  | uint8 => "uint8" | uint16 => "uint16" | uint24 => "uint24"
  | uint32 => "uint32" | uint64 => "uint64"
  | int8 => "int8" | int16 => "int16" | int32 => "int32" | int64 => "int64"
  | float => "float" | double => "double"

/-- The name of a class in reports, with a capital letter. -/
def label : ElementClass → String
  | uint8 => "Uint8" | uint16 => "Uint16" | uint24 => "Uint24"
  | uint32 => "Uint32" | uint64 => "Uint64"
  | int8 => "Int8" | int16 => "Int16" | int32 => "Int32" | int64 => "Int64"
  | float => "Float" | double => "Double"

def ofName? (text : String) : Option ElementClass := all.find? (·.name == text)

theorem ofName?_name (c : ElementClass) : ofName? c.name = some c := by cases c <;> decide

end ElementClass

/-! ## Categories -/

/-- What the values of a layer mean: intensities, or ids of segments. -/
inductive LayerCategory where
  | color
  | segmentation
deriving DecidableEq

namespace LayerCategory

def name : LayerCategory → String
  | color => "color"
  | segmentation => "segmentation"

def ofName? (text : String) : Option LayerCategory :=
  [color, segmentation].find? (·.name == text)

theorem ofName?_name (c : LayerCategory) : ofName? c.name = some c := by cases c <;> decide

end LayerCategory

/-! ## Layers -/

/-- One layer of a dataset. -/
structure Layer where
  /-- The name, which tells the layer from the others of its dataset. -/
  name : String
  elementClass : ElementClass
  /-- Bytes of one voxel. -/
  byteCount : UInt32
  /-- Whether the values are segment ids. -/
  isSegmentation : Bool
deriving DecidableEq

namespace Layer

/-- A layer whose voxels take the bytes of their class. -/
def ofClass (name : String) (elementClass : ElementClass) (category : LayerCategory) : Layer :=
  { name := name
    elementClass := elementClass
    byteCount := elementClass.byteCount
    isSegmentation := category == .segmentation }

/-- A layer of intensities. -/
def color (name : String) (elementClass : ElementClass) : Layer := ofClass name elementClass .color

/-- A layer of segment ids. -/
def segmentation (name : String) (elementClass : ElementClass) : Layer :=
  ofClass name elementClass .segmentation

/-- Bytes of one bucket. -/
def bucketByteLength (layer : Layer) : Nat := bucketVoxels * layer.byteCount.toNat

/-- Buckets of every layer have an even number of bytes, so they can be packed. -/
theorem even_bucketByteLength (layer : Layer) : layer.bucketByteLength % 2 = 0 := by
  rw [bucketByteLength, bucketVoxels_eq]; omega

end Layer

end VoxelStream
