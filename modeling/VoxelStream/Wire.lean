import VoxelStream.Dataset
import VoxelStream.Json.Decode
import VoxelStream.MemoryFactor

/-!
# Wire formats

The JSON forms of what travels between the library, the stores and the save queue.

* A *descriptor* is a closed record of position, zoom step and cube size.
* A *request* is an open record: the members of its descriptor, a flag for four-bit transfer, and
  the version if there is one.
* An *update* is an envelope of the name `updateBucket` and a value, an open record: the members of
  its descriptor and the payload in base64.

`toJson` writes and `ofJson?` reads.  Members may be read in any order.
-/

namespace VoxelStream

def Vec3.toJson (v : Vec3) : Json := .array (v.toList.map fun n => .nat n.toNat)

/-- An array of exactly three 32-bit numbers. -/
def Vec3.ofJson? : Json → Option Vec3
  | .array [x, y, z] => do some ⟨← x.uint32?, ← y.uint32?, ← z.uint32?⟩
  | _ => none

namespace BucketDescriptor

/-- The members of a descriptor. -/
def members (bucket : BucketDescriptor) : List (String × Json) :=
  [("position", bucket.position.toJson),
   ("zoomStep", .nat bucket.zoomStep.toNat),
   ("cubeSize", .nat bucket.cubeSize.toNat)]

def toJson (bucket : BucketDescriptor) : Json := .ofMembers bucket.members

/-- The descriptor among the members of an object. -/
def ofMembers? (members : List (Option String × Json)) : Option BucketDescriptor := do
  some
    { position := ← Json.field? "position" Vec3.ofJson? members
      zoomStep := ← Json.field? "zoomStep" Json.uint32? members
      cubeSize := ← Json.field? "cubeSize" Json.uint32? members }

/-- A descriptor as an object or an array. -/
def ofJson? : Json → Option BucketDescriptor
  | .object members => if Json.keysValid members then ofMembers? members else none
  | .array [position, zoomStep, cubeSize] => do
    some ⟨← Vec3.ofJson? position, ← zoomStep.uint32?, ← cubeSize.uint32?⟩
  | _ => none

end BucketDescriptor

namespace BucketRequest

/-- The member for a version, left out where there is none. -/
def versionMembers : Option UInt64 → List (String × Json)
  | some version => [("version", .nat version.toNat)]
  | none => []

def toJson (request : BucketRequest) : Json :=
  .ofMembers
    (request.bucket.members ++ ("fourBit", .bool request.fourBit)
      :: versionMembers request.version)

/-- A request as an object. -/
def ofJson? : Json → Option BucketRequest
  | .object members => do
    guard (Json.wellFormedMembers 1 members)
    some
      { bucket := ← BucketDescriptor.ofMembers? members
        fourBit := ← Json.field? "fourBit" Json.bool? members
        version := ← Json.fieldD? "version" (Json.optional? Json.uint64?) none members }
  | _ => none

def batchText (batch : List BucketRequest) : String := (Json.array (batch.map toJson)).render

end BucketRequest

namespace BucketUpdate

/-- The name of an update in its envelope. -/
def envelopeName : String := "updateBucket"

def valueJson (update : BucketUpdate) : Json :=
  .ofMembers (update.bucket.members ++ [("base64Data", .text update.base64Data)])

def toJson (update : BucketUpdate) : Json :=
  .ofMembers [("name", .text envelopeName), ("value", update.valueJson)]

/-- An update without its envelope, which is one level around it. -/
def ofValueJson? : Json → Option BucketUpdate
  | .object members => do
    guard (Json.wellFormedMembers 2 members)
    some
      { bucket := ← BucketDescriptor.ofMembers? members
        base64Data := ← Json.field? "base64Data" Json.text? members }
  | _ => none

/-- The name in an envelope. -/
def readName? (value : Json) : Option Unit :=
  value.variant? fun name => if name = envelopeName then some () else none

/-- An update in its envelope, an object or an array. -/
def ofJson? : Json → Option BucketUpdate
  | .object members => do
    guard (Json.keysValid members)
    let () ← Json.field? "name" readName? members
    Json.field? "value" ofValueJson? members
  | .array [name, value] => do
    let () ← readName? name
    ofValueJson? value
  | _ => none

end BucketUpdate

/-! ## Names and settings -/

def ElementClass.ofJson? (value : Json) : Option ElementClass := value.variant? ofName?

def LayerCategory.ofJson? (value : Json) : Option LayerCategory := value.variant? ofName?

/-- A layer as an object or an array.  Without a category it is a color layer. -/
def Layer.ofJson? : Json → Option Layer
  | .object members => do
    guard (Json.keysValid members)
    some <| .ofClass
      (← Json.field? "name" Json.text? members)
      (← Json.field? "element_class" ElementClass.ofJson? members)
      (← Json.fieldD? "category" LayerCategory.ofJson? .color members)
  | .array [name, elementClass] => do
    some (.color (← name.text?) (← ElementClass.ofJson? elementClass))
  | .array [name, elementClass, category] => do
    some (.ofClass (← name.text?) (← ElementClass.ofJson? elementClass)
      (← LayerCategory.ofJson? category))
  | _ => none

/-- A version of an annotation with its fallback layer, as an object or an array. -/
def VolumeAnnotation.ofJson? : Json → Option VolumeAnnotation
  | .object members => do
    guard (Json.keysValid members)
    some
      { version := ← Json.field? "version" Json.uint64? members
        fallbackLayer :=
          ← Json.fieldD? "fallback_layer" (Json.optional? Json.text?) none members }
  | .array [version] => do some ⟨← version.uint64?, none⟩
  | .array [version, fallbackLayer] => do
    some ⟨← version.uint64?, ← fallbackLayer.optional? Json.text?⟩
  | _ => none

def MemoryFactor.ofJson? (value : Json) : Option MemoryFactor := value.uint32?.map ofMultiplier

/-- What reading the JSON text of a memory factor notices.  The multiplier is looked at as soon as
it is read, even if more follows than a text may hold. -/
def MemoryFactor.textNotices (text : String) : List Notice :=
  match Json.scanFront text.toList with
  | some (value, _) => (value.uint32?.map notices).getD []
  | none => []

end VoxelStream
